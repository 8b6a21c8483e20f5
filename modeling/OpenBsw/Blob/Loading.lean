import OpenBsw.Blob.Parsing
import OpenBsw.Blob.Generator

/-!
# Loading a blob

`load` returns a part of the memory that holds configs with correct checksums
only, and iterating over it yields these.  In the other direction every blob
that the generator writes is loaded, and every column it writes is read back.
-/

namespace OpenBsw.Blob

open Bytes List Option

/-! ## Iteration -/

/-- The configs that iterating over the bytes yields.  The last one is empty where the bytes do
not go on with a well-formed config. -/
inductive Yields : List UInt8 → List Config → Prop where
  | broken {bytes : List UInt8} (unreadable : fromBytes bytes = some {}) : Yields bytes [{}]
  | last {config : Config} (formed : config.WellFormed)
      (readable : fromBytes config.data = some config) : Yields config.data [config]
  | more {config : Config} {rest : List UInt8} {configs : List Config}
      (formed : config.WellFormed) (readable : fromBytes (config.data ++ rest) = some config)
      (nonempty : rest ≠ []) (tail : Yields rest configs) :
      Yields (config.data ++ rest) (config :: configs)

/-- Every iteration comes to an end. -/
theorem exists_yields (bytes : List UInt8) : ∃ configs, Yields bytes configs := by
  induction size : bytes.length using Nat.strong_induction_on generalizing bytes with
  | _ size ih =>
    rcases fromBytes_cases bytes with unreadable | ⟨config, rest, formed, parts, readable⟩
    · exact ⟨_, .broken unreadable⟩
    subst parts
    by_cases empty : rest = []
    · subst empty
      rw [append_nil] at readable ⊢
      exact ⟨_, .last formed readable⟩
    · have positive : 0 < config.data.length := length_pos_iff.mpr formed.data_ne_nil
      rw [List.length_append] at size
      obtain ⟨configs, tail⟩ := ih rest.length (by omega) rest rfl
      exact ⟨_, .more formed readable empty tail⟩

variable {σ : Type}

@[simp]
theorem forEach_null (body : Config → σ → Option σ) (fuel : Nat) (state : σ) :
    forEach body fuel .null state = some state := by
  cases fuel <;> rfl

/-- The loop applies its body to the yielded configs in order. -/
theorem Yields.forEach_eq {bytes : List UInt8} {configs : List Config}
    (yields : Yields bytes configs) (body : Config → σ → Option σ) (fuel : Nat)
    (enough : bytes.length < fuel) (state : σ) :
    forEach body fuel (.view bytes) state =
      configs.foldlM (fun state config => body config state) state := by
  induction yields generalizing fuel state with
  | broken unreadable =>
    rcases fuel with _ | fuel
    · exact absurd enough (Nat.not_lt_zero _)
    simp only [forEach, Iterator.next, unreadable, bind_eq_bind, bind_some,
      isEmpty_nil, Bool.or_true, if_true, Option.pure_def, forEach_null, foldlM_cons,
      foldlM_nil]
  | last formed readable =>
    rcases fuel with _ | fuel
    · exact absurd enough (Nat.not_lt_zero _)
    simp only [forEach, Iterator.next, readable, bind_eq_bind, bind_some,
      drop_length, isEmpty_nil, Bool.true_or, if_true, Option.pure_def, forEach_null,
      foldlM_cons, foldlM_nil]
  | @more config rest configs formed readable nonempty tail ih =>
    rcases fuel with _ | fuel
    · exact absurd enough (Nat.not_lt_zero _)
    have positive : 0 < config.data.length := length_pos_iff.mpr formed.data_ne_nil
    have continues : (rest.isEmpty || config.data.isEmpty) = false := by
      rw [Bool.or_eq_false_iff, isEmpty_eq_false_iff, isEmpty_eq_false_iff]
      exact ⟨nonempty, formed.data_ne_nil⟩
    simp only [forEach, Iterator.next, readable, bind_eq_bind, bind_some,
      drop_left, continues, foldlM_cons]
    cases stepped : body config state with
    | none => rfl
    | some next =>
      rw [List.length_append] at enough
      exact ih fuel (by omega) next

/-- Bytes that yield configs with correct checksums only are these configs one after another. -/
theorem Yields.parts {crc32 : List UInt8 → UInt32} {bytes : List UInt8} {configs : List Config}
    (yields : Yields bytes configs) (valid : ∀ config ∈ configs, HasCrc crc32 config.data) :
    bytes = (configs.map Config.data).flatten ∧ ∀ config ∈ configs, config.WellFormed := by
  induction yields with
  | broken unreadable =>
    have short := (valid {} (mem_singleton_self _)).1
    exact absurd short (by decide)
  | last formed readable =>
    refine ⟨(append_nil _).symm, fun config member => ?_⟩
    rw [mem_singleton] at member
    exact member ▸ formed
  | more formed readable nonempty tail ih =>
    obtain ⟨restEq, restFormed⟩ := ih fun config member =>
      valid config (mem_cons_of_mem _ member)
    refine ⟨?_, fun config member => ?_⟩
    · rw [map_cons, flatten_cons, ← restEq]
    · rcases mem_cons.mp member with rfl | later
      · exact formed
      · exact restFormed config later

/-- Configs one after another are yielded again. -/
theorem yields_of_wellFormed (configs : List Config) (nonempty : configs ≠ [])
    (formed : ∀ config ∈ configs, config.WellFormed)
    (small : (configs.map Config.data).flatten.length < 2 ^ 32) :
    Yields (configs.map Config.data).flatten configs := by
  induction configs with
  | nil => exact absurd rfl nonempty
  | cons config rest ih =>
    have first := formed config mem_cons_self
    rw [map_cons, flatten_cons] at small ⊢
    rw [List.length_append] at small
    have readable := fromBytes_of_wellFormed first (by omega) (rest.map Config.data).flatten
    by_cases empty : rest = []
    · subst empty
      rw [map_nil, flatten_nil, append_nil] at readable ⊢
      exact .last first readable
    · have restFormed : ∀ config ∈ rest, config.WellFormed := fun config member =>
        formed config (mem_cons_of_mem _ member)
      refine .more first readable ?_ (ih empty restFormed (by omega))
      rcases rest with _ | ⟨second, others⟩
      · exact absurd rfl empty
      · rw [map_cons, flatten_cons]
        exact append_ne_nil_of_left_ne_nil
          (restFormed second mem_cons_self).data_ne_nil _

/-- Collecting the configs yields all of them. -/
theorem foldlM_collect (configs collected : List Config) :
    configs.foldlM (fun yielded config => some (yielded ++ [config])) collected =
      some (collected ++ configs) := by
  induction configs generalizing collected with
  | nil => rw [append_nil, foldlM_nil]; rfl
  | cons config configs ih =>
    rw [foldlM_cons, bind_eq_bind, bind_some, ih, append_assoc]
    rfl

/-- The flag of the loop in `load` stays set while the checksums are correct. -/
theorem foldlM_checkCrc (crc32 : List UInt8 → UInt32) (configs : List Config) (flag : Bool) :
    configs.foldlM (fun hasValidData (config : Config) => do
        return (← checkCrc crc32 config.data) && hasValidData) flag =
      some (flag && configs.all fun config => decide (HasCrc crc32 config.data)) := by
  induction configs generalizing flag with
  | nil => rw [foldlM_nil, all_nil, Bool.and_true]; rfl
  | cons config configs ih =>
    rw [foldlM_cons, checkCrc_eq]
    simp only [bind_eq_bind, bind_some, Option.pure_def]
    simp only [bind_eq_bind, Option.pure_def] at ih
    rw [ih, all_cons, Bool.and_comm (decide _) flag, Bool.and_assoc]

/-! ## Loading -/

/-- A config with a correct checksum. -/
structure Config.Valid (crc32 : List UInt8 → UInt32) (config : Config) : Prop
    extends config.WellFormed where
  crc : HasCrc crc32 config.data

/-- Bytes are a header and the configs one after another, of the size that the header has. -/
structure IsBlob (crc32 : List UInt8 → UInt32) (blob : List UInt8) (configs : List Config) :
    Prop where
  header : HasHeader blob
  size : HEADER_SIZE + sizeField blob = blob.length
  content : blob.drop HEADER_SIZE = (configs.map Config.data).flatten
  valid : ∀ config ∈ configs, config.Valid crc32

/-- The start of a memory has its header. -/
theorem HasHeader.take {mem : List UInt8} (header : HasHeader mem) {count : Nat}
    (inside : HEADER_SIZE ≤ count) :
    HasHeader (mem.take count) ∧ sizeField (mem.take count) = sizeField mem := by
  have inside12 : 12 ≤ count := inside
  have version : (mem.take count).take 4 = mem.take 4 := by
    rw [take_take, Nat.min_eq_left (by omega)]
  have sliceEq : ∀ offset, offset + 4 ≤ 12 →
      slice (mem.take count) offset 4 = slice mem offset 4 := by
    intro offset before
    rw [slice, slice, drop_take, take_take, Nat.min_eq_left (by omega)]
  refine ⟨⟨?_, ?_, ?_⟩, ?_⟩
  · rw [length_take]
    exact Nat.le_min.mpr ⟨inside, header.inside⟩
  · rw [version]
    exact header.version
  · rw [sliceEq 4 (by decide)]
    exact header.magic
  · rw [sizeField, sliceEq 8 (by decide), sizeField]

/-- The loops start behind the header of a blob of the right size. -/
theorem begin_of_size {blob : List UInt8} (header : HasHeader blob)
    (size : HEADER_SIZE + sizeField blob = blob.length) :
    begin blob = some (.view (blob.drop HEADER_SIZE)) := by
  rcases checkHeader_cases blob with ⟨_, found⟩ | ⟨missing, _⟩
  · have sizeEq : ¬ blob.length - HEADER_SIZE ≠ sizeField blob := by omega
    rw [begin, found]
    simp only [bind_eq_bind, bind_some, if_neg sizeEq,
      Span.subspan_eq header.inside]
    rfl
  · exact absurd header missing

/-- Bytes without a header start no loop. -/
theorem begin_of_not_hasHeader {blob : List UInt8} (missing : ¬ HasHeader blob) :
    begin blob = some .null := by
  rcases checkHeader_cases blob with ⟨header, _⟩ | ⟨_, notFound⟩
  · exact absurd header missing
  · rw [begin, notFound]
    rfl

/-- A loop over a blob applies its body to the configs behind the header. -/
theorem forEachConfig_eq {blob : List UInt8} {configs : List Config} (header : HasHeader blob)
    (size : HEADER_SIZE + sizeField blob = blob.length)
    (yields : Yields (blob.drop HEADER_SIZE) configs) (body : Config → σ → Option σ) (state : σ) :
    forEachConfig body blob state =
      configs.foldlM (fun state config => body config state) state := by
  rw [forEachConfig, begin_of_size header size, bind_eq_bind, bind_some,
    yields.forEach_eq]
  rw [length_drop]
  omega

/-- Iterating over a blob yields its configs. -/
theorem IsBlob.configs_eq {crc32 : List UInt8 → UInt32} {blob : List UInt8}
    {configs : List Config} (isBlob : IsBlob crc32 blob configs) (nonempty : configs ≠ [])
    (small : blob.length < 2 ^ 32) : Blob.configs blob = some configs := by
  have rest : (configs.map Config.data).flatten.length < 2 ^ 32 := by
    rw [← isBlob.content, length_drop]
    omega
  have yields := yields_of_wellFormed configs nonempty
    (fun config member => (isBlob.valid config member).toWellFormed) rest
  rw [← isBlob.content] at yields
  rw [Blob.configs, forEachConfig_eq isBlob.header isBlob.size yields, foldlM_collect,
    nil_append]

/-- What `load` makes of a memory with a header whose size does not wrap. -/
theorem load_eq (crc32 : List UInt8 → UInt32) {mem : List UInt8} (header : HasHeader mem)
    (noWrap : HEADER_SIZE + sizeField mem < 2 ^ 32)
    (inside : HEADER_SIZE + sizeField mem ≤ mem.length) {configs : List Config}
    (yields : Yields ((mem.take (HEADER_SIZE + sizeField mem)).drop HEADER_SIZE) configs) :
    load crc32 mem = some
      (if ∀ config ∈ configs, HasCrc crc32 config.data then
        mem.take (HEADER_SIZE + sizeField mem)
      else []) := by
  rcases checkHeader_cases mem with ⟨_, found⟩ | ⟨missing, _⟩
  · obtain ⟨blobHeader, blobSize⟩ := header.take (Nat.le_add_right HEADER_SIZE (sizeField mem))
    have size : HEADER_SIZE + sizeField (mem.take (HEADER_SIZE + sizeField mem)) =
        (mem.take (HEADER_SIZE + sizeField mem)).length := by
      rw [blobSize, length_take_of_le inside]
    have sum : Word32.add HEADER_SIZE (sizeField mem) = HEADER_SIZE + sizeField mem :=
      Word32.add_eq (by unfold Word32.modulus; exact noWrap)
    rw [load, found]
    simp only [bind_eq_bind, bind_some, sum, if_neg (Nat.not_lt_of_le inside),
      Span.first_eq inside]
    have checked := forEachConfig_eq blobHeader size yields
      (fun config hasValidData => do
        return (← checkCrc crc32 config.data) && hasValidData) true
    rw [foldlM_checkCrc, Bool.true_and] at checked
    simp only [bind_eq_bind] at checked
    rw [checked, bind_some]
    by_cases valid : ∀ config ∈ configs, HasCrc crc32 config.data
    · rw [if_pos valid]
      have all : (configs.all fun config => decide (HasCrc crc32 config.data)) = true := by
        rw [List.all_eq_true]
        exact fun config member => decide_eq_true (valid config member)
      rw [all]
      rfl
    · rw [if_neg valid]
      have notAll : (configs.all fun config => decide (HasCrc crc32 config.data)) = false := by
        rw [Bool.eq_false_iff, Ne, List.all_eq_true]
        exact fun all => valid fun config member => of_decide_eq_true (all config member)
      rw [notAll]
      rfl
  · exact absurd header missing

/-- The loop in `load` comes to an end on all bytes. -/
theorem exists_forEachConfig (crc32 : List UInt8 → UInt32) (blob : List UInt8) :
    ∃ flag, forEachConfig (fun config hasValidData => do
      return (← checkCrc crc32 config.data) && hasValidData) blob true = some flag := by
  by_cases header : HasHeader blob
  · by_cases size : HEADER_SIZE + sizeField blob = blob.length
    · obtain ⟨configs, yields⟩ := exists_yields (blob.drop HEADER_SIZE)
      exact ⟨_, (forEachConfig_eq header size yields _ true).trans
        (foldlM_checkCrc crc32 configs true)⟩
    · refine ⟨true, ?_⟩
      rcases checkHeader_cases blob with ⟨_, found⟩ | ⟨missing, _⟩
      · have inside := header.inside
        have differs : blob.length - HEADER_SIZE ≠ sizeField blob := by omega
        rw [forEachConfig, begin, found]
        simp only [bind_eq_bind, bind_some, if_pos differs, Option.pure_def,
          forEach_null]
      · exact absurd header missing
  · refine ⟨true, ?_⟩
    rw [forEachConfig, begin_of_not_hasHeader header]
    exact forEach_null ..

/-- `load` ends on every memory, without a read outside of it. -/
theorem exists_load (crc32 : List UInt8 → UInt32) (mem : List UInt8) :
    ∃ result, load crc32 mem = some result := by
  rcases checkHeader_cases mem with ⟨_, found⟩ | ⟨_, notFound⟩
  · by_cases cut : mem.length < Word32.add HEADER_SIZE (sizeField mem)
    · refine ⟨[], ?_⟩
      rw [load, found]
      simp only [bind_eq_bind, bind_some, if_pos cut]
      rfl
    · obtain ⟨flag, looped⟩ := exists_forEachConfig crc32
        (mem.take (Word32.add HEADER_SIZE (sizeField mem)))
      simp only [bind_eq_bind] at looped
      rw [load, found]
      simp only [bind_eq_bind, bind_some, if_neg cut,
        Span.first_eq (Nat.le_of_not_lt cut), looped]
      cases flag <;> exact ⟨_, rfl⟩
  · refine ⟨[], ?_⟩
    rw [load, notFound]
    rfl

/-- What `load` returns is a blob, and iterating over it yields its configs. -/
theorem load_isBlob {crc32 : List UInt8 → UInt32} {mem result : List UInt8}
    (noWrap : HEADER_SIZE + sizeField mem < 2 ^ 32) (loaded : load crc32 mem = some result)
    (nonempty : result ≠ []) :
    HEADER_SIZE + sizeField mem ≤ mem.length ∧
      result = mem.take (HEADER_SIZE + sizeField mem) ∧
        ∃ configs, IsBlob crc32 result configs ∧ Blob.configs result = some configs := by
  have header : HasHeader mem := by
    rcases checkHeader_cases mem with ⟨header, _⟩ | ⟨_, notFound⟩
    · exact header
    · rw [load, notFound] at loaded
      exact absurd (Option.some.inj loaded).symm nonempty
  have inside : HEADER_SIZE + sizeField mem ≤ mem.length := by
    by_contra cut
    rcases checkHeader_cases mem with ⟨_, found⟩ | ⟨missing, _⟩
    · rw [load, found] at loaded
      simp only [bind_eq_bind, bind_some,
        Word32.add_eq (show HEADER_SIZE + sizeField mem < Word32.modulus by
          unfold Word32.modulus; exact noWrap), if_pos (Nat.lt_of_not_le cut)] at loaded
      exact absurd (Option.some.inj loaded).symm nonempty
    · exact absurd header missing
  obtain ⟨configs, yields⟩ :=
    exists_yields ((mem.take (HEADER_SIZE + sizeField mem)).drop HEADER_SIZE)
  rw [load_eq crc32 header noWrap inside yields, Option.some.injEq] at loaded
  by_cases valid : ∀ config ∈ configs, HasCrc crc32 config.data
  · rw [if_pos valid] at loaded
    obtain ⟨content, formed⟩ := yields.parts valid
    obtain ⟨blobHeader, blobSize⟩ := header.take (Nat.le_add_right HEADER_SIZE (sizeField mem))
    have size : HEADER_SIZE + sizeField (mem.take (HEADER_SIZE + sizeField mem)) =
        (mem.take (HEADER_SIZE + sizeField mem)).length := by
      rw [blobSize, length_take_of_le inside]
    rw [loaded] at blobHeader size content yields
    refine ⟨inside, loaded.symm, configs, ⟨blobHeader, size, content, fun config member =>
      ⟨formed config member, valid config member⟩⟩, ?_⟩
    rw [Blob.configs, forEachConfig_eq blobHeader size yields, foldlM_collect, nil_append]
  · rw [if_neg valid] at loaded
    exact absurd loaded.symm nonempty

/-- A blob with configs is loaded. -/
theorem IsBlob.load_eq {crc32 : List UInt8 → UInt32} {blob : List UInt8} {configs : List Config}
    (isBlob : IsBlob crc32 blob configs) (nonempty : configs ≠ [])
    (small : blob.length < 2 ^ 32) : load crc32 blob = some blob := by
  have size := isBlob.size
  have rest : (configs.map Config.data).flatten.length < 2 ^ 32 := by
    rw [← isBlob.content, length_drop]
    omega
  have yields := yields_of_wellFormed configs nonempty
    (fun config member => (isBlob.valid config member).toWellFormed) rest
  have whole : blob.take (HEADER_SIZE + sizeField blob) = blob :=
    take_of_length_le (Nat.le_of_eq size.symm)
  rw [← isBlob.content, ← whole] at yields
  rw [whole] at yields
  rw [Blob.load_eq crc32 isBlob.header (by omega) (Nat.le_of_eq size) (whole.symm ▸ yields),
    if_pos fun config member => (isBlob.valid config member).crc, whole]

/-! ## The generator -/

theorem length_reservedBytes (reserved : Option (List UInt8)) :
    (Generator.reservedBytes reserved).length = 8 := by
  rcases reserved with _ | bytes
  · rfl
  · rw [Generator.reservedBytes]
    split_ifs with differs
    · rfl
    · exact not_not.mp differs

theorem Generator.ConfigType.value_lt (type : Generator.ConfigType) : type.value < 256 ^ 4 := by
  cases type <;> decide

theorem Generator.ConfigType.value_ne_UNKNOWN {type : Generator.ConfigType}
    (known : type ≠ .Unknown) : type.value ≠ UNKNOWN := by
  cases type <;> first | decide | exact absurd rfl known

theorem prependSize_eq_some {elements sized : List UInt8} {extraSize : Nat}
    (packed : Generator.prependSize elements extraSize = some sized) :
    elements.length + extraSize < 256 ^ 4 ∧
      sized = bigEndian 4 (elements.length + extraSize) ++ elements := by
  rw [Generator.prependSize, Generator.pack] at packed
  by_cases small : elements.length + extraSize < 256 ^ 4
  · rw [if_pos small] at packed
    exact ⟨small, (Option.some.inj packed).symm⟩
  · rw [if_neg small] at packed
    exact absurd packed nofun

theorem length_validate (crc32 : List UInt8 → UInt32) (elements : List UInt8) :
    (Generator.validate crc32 elements).length = elements.length + 4 := by
  rw [Generator.validate, List.length_append, length_bigEndian]

/-- The appended checksum is correct. -/
theorem hasCrc_validate (crc32 : List UInt8 → UInt32) (elements : List UInt8) :
    HasCrc crc32 (Generator.validate crc32 elements) := by
  rw [HasCrc, length_validate, Nat.add_sub_cancel, Generator.validate, take_left,
    drop_left, ofBigEndian_bigEndian (crc32 elements).toNat_lt]
  exact ⟨Nat.le_add_left .., rfl⟩

/-- A generated config of a known type is valid. -/
theorem valid_of_config {crc32 : List UInt8 → UInt32} {arguments : Generator.ConfigArguments}
    (known : arguments.type ≠ .Unknown) {bytes : List UInt8}
    (generated : Generator.config crc32 arguments = some bytes) :
    Config.Valid crc32 ⟨arguments.type.value, bytes⟩ := by
  rw [Generator.config, bind_eq_bind, bind_eq_some_iff] at generated
  obtain ⟨sized, packed, validated⟩ := generated
  obtain ⟨small, rfl⟩ := prependSize_eq_some packed
  generalize Generator.appendPadding (arguments.data.getD []) = padded at small validated
  have bytesEq := (Option.some.inj validated).symm
  have typeLength := length_bigEndian 4 arguments.type.value
  have reservedLength := length_reservedBytes arguments.reserved
  have sizeLength := length_bigEndian 4 (padded.length + 4)
  have length : bytes.length = 16 + (padded.length + 4) := by
    rw [bytesEq, length_validate]
    simp only [List.length_append, length_bigEndian, reservedLength]
    omega
  have typeBytes : bytes.take 4 = bigEndian 4 arguments.type.value := by
    rw [bytesEq, Generator.validate, append_assoc, append_assoc,
      take_left' typeLength]
  have sizeBytes : slice bytes 12 4 = bigEndian 4 (padded.length + 4) := by
    have front : (bigEndian 4 arguments.type.value ++
        Generator.reservedBytes arguments.reserved).length = 12 := by
      rw [List.length_append, typeLength, reservedLength]
    have inside : 0 + 4 ≤ (bigEndian 4 (padded.length + 4) ++ padded).length := by
      rw [List.length_append, sizeLength]
      exact Nat.le_add_right ..
    have first : slice (bigEndian 4 (padded.length + 4) ++ padded) 0 4 =
        bigEndian 4 (padded.length + 4) := take_left' sizeLength
    rw [bytesEq, Generator.validate]
    exact (slice_middle front inside).trans first
  refine ⟨⟨Generator.ConfigType.value_ne_UNKNOWN known, ?_, ?_⟩, ?_⟩
  · rw [typeBytes, ofBigEndian_bigEndian arguments.type.value_lt]
  · rw [sizeBytes, ofBigEndian_bigEndian (show padded.length + 4 < 256 ^ 4 from small), length]
    rfl
  · rw [bytesEq]
    exact hasCrc_validate crc32 _

/-- Generated configs are valid, in the order of their arguments. -/
theorem exists_configs {crc32 : List UInt8 → UInt32} {sources : List Generator.ConfigArguments}
    (known : ∀ source ∈ sources, source.type ≠ .Unknown) {generated : List (List UInt8)}
    (success : sources.mapM (Generator.config crc32) = some generated) :
    ∃ configs : List Config, configs.map Config.data = generated ∧
      configs.map Config.type = sources.map (fun source => source.type.value) ∧
        ∀ config ∈ configs, config.Valid crc32 := by
  induction sources generalizing generated with
  | nil =>
    rw [mapM_nil] at success
    exact ⟨[], Option.some.inj success, rfl, fun config member => absurd member not_mem_nil⟩
  | cons source sources ih =>
    rw [mapM_cons, bind_eq_bind, bind_eq_some_iff] at success
    obtain ⟨bytes, first, success⟩ := success
    rw [bind_eq_bind, bind_eq_some_iff] at success
    obtain ⟨rest, others, collected⟩ := success
    obtain ⟨configs, data, types, valid⟩ :=
      ih (fun source member => known source (mem_cons_of_mem _ member)) others
    refine ⟨⟨source.type.value, bytes⟩ :: configs, ?_, ?_, fun config member => ?_⟩
    · rw [map_cons, data]
      exact Option.some.inj collected
    · rw [map_cons, map_cons, types]
    · rcases mem_cons.mp member with rfl | later
      · exact valid_of_config (known source mem_cons_self) first
      · exact valid config later

/-- Generated bytes are a blob with the generated configs. -/
theorem isBlob_of_blob {crc32 : List UInt8 → UInt32} {sources : List Generator.ConfigArguments}
    (known : ∀ source ∈ sources, source.type ≠ .Unknown) {blob : List UInt8}
    (success : Generator.blob crc32 sources = some blob) :
    ∃ configs, sources.mapM (Generator.config crc32) = some (configs.map Config.data) ∧
      configs.map Config.type = sources.map (fun source => source.type.value) ∧
        IsBlob crc32 blob configs := by
  rw [Generator.blob, bind_eq_bind, bind_eq_some_iff] at success
  obtain ⟨generated, mapped, success⟩ := success
  rw [bind_eq_bind, bind_eq_some_iff] at success
  obtain ⟨sized, packed, collected⟩ := success
  obtain ⟨configs, data, types, valid⟩ := exists_configs known mapped
  obtain ⟨small, rfl⟩ := prependSize_eq_some packed
  rw [Nat.add_zero] at small
  have blobEq : blob = bigEndian 4 VERSION ++ bigEndian 4 MAGIC ++
      (bigEndian 4 generated.flatten.length ++ generated.flatten) :=
      (Option.some.inj collected).symm
  have parts : blob = (bigEndian 4 VERSION ++ bigEndian 4 MAGIC ++
      bigEndian 4 generated.flatten.length) ++ generated.flatten := by
    rw [blobEq, append_assoc, append_assoc, append_assoc]
  have sizeBytes : slice blob 8 4 = bigEndian 4 generated.flatten.length := by
    have front : (bigEndian 4 VERSION ++ bigEndian 4 MAGIC).length = 8 := rfl
    rw [slice, blobEq, drop_left' front, take_left' (length_bigEndian 4 _)]
  have length : blob.length = 12 + generated.flatten.length := by
    rw [parts, List.length_append, List.length_append, List.length_append, length_bigEndian,
      length_bigEndian, length_bigEndian]
  refine ⟨configs, data ▸ mapped, types, ⟨⟨?_, ?_, ?_⟩, ?_, ?_, valid⟩⟩
  · rw [length]
    exact Nat.le_add_right ..
  · rw [blobEq, append_assoc, take_left' (length_bigEndian 4 VERSION)]
    exact ofBigEndian_bigEndian (by decide)
  · rw [slice, blobEq, append_assoc, drop_left' (length_bigEndian 4 VERSION),
      take_left' (length_bigEndian 4 MAGIC)]
    exact ofBigEndian_bigEndian (by decide)
  · rw [sizeField, sizeBytes, ofBigEndian_bigEndian small, length]
    rfl
  · rw [parts, data]
    refine drop_left' ?_
    rw [List.length_append, List.length_append, length_bigEndian, length_bigEndian,
      length_bigEndian]
    rfl

/-! ## Columns -/

/-- A list of numbers is packed if each of them fits. -/
theorem mapM_pack {width : Nat} {values : List Nat} {elements : List (List UInt8)}
    (success : values.mapM (Generator.pack width) = some elements) :
    elements = values.map (bigEndian width) ∧ ∀ value ∈ values, value < 256 ^ width := by
  induction values generalizing elements with
  | nil =>
    rw [mapM_nil] at success
    exact ⟨(Option.some.inj success).symm, fun value member => absurd member not_mem_nil⟩
  | cons value values ih =>
    rw [mapM_cons, bind_eq_bind, bind_eq_some_iff] at success
    obtain ⟨bytes, first, success⟩ := success
    rw [bind_eq_bind, bind_eq_some_iff] at success
    obtain ⟨rest, others, collected⟩ := success
    obtain ⟨restEq, restSmall⟩ := ih others
    rw [Generator.pack] at first
    by_cases small : value < 256 ^ width
    · rw [if_pos small, Option.some.injEq] at first
      refine ⟨?_, fun other member => ?_⟩
      · rw [map_cons, first, ← restEq]
        exact (Option.some.inj collected).symm
      · rcases mem_cons.mp member with rfl | later
        · exact small
        · exact restSmall other later
    · rw [if_neg small] at first
      exact absurd first (some_ne_none _).symm

theorem length_flatten_bigEndian (width : Nat) (values : List Nat) :
    (values.map (bigEndian width)).flatten.length = values.length * width := by
  induction values with
  | nil => rw [length_nil, Nat.zero_mul]; rfl
  | cons value values ih =>
    rw [map_cons, flatten_cons, List.length_append, length_bigEndian, ih,
      length_cons, Nat.succ_mul, Nat.add_comm]

/-- The numbers of a column are read back. -/
theorem reinterpretAs_bigEndian {width : Nat} {values : List Nat}
    (small : ∀ value ∈ values, value < 256 ^ width) :
    reinterpretAs width values.length (values.map (bigEndian width)).flatten = values := by
  induction values with
  | nil => rfl
  | cons value values ih =>
    rw [length_cons, reinterpretAs, map_cons, flatten_cons,
      take_left' (length_bigEndian width value),
      drop_left' (length_bigEndian width value),
      ofBigEndian_bigEndian (small value mem_cons_self),
      ih fun other member => small other (mem_cons_of_mem _ member)]

/-- A generated column is split off the config that starts with it. -/
theorem loadColumn_column {width : Nat} (positive : 0 < width) {values : List Nat}
    {column : List UInt8} (generated : Generator.column width values = some column)
    (rest : List UInt8) : loadColumn width (column ++ rest) = some (values, rest) := by
  rw [Generator.column, bind_eq_bind, bind_eq_some_iff] at generated
  obtain ⟨flat, packed, sized⟩ := generated
  rw [Generator.iterToBlobElementList, bind_eq_bind, bind_eq_some_iff] at packed
  obtain ⟨elements, mapped, flattened⟩ := packed
  obtain ⟨rfl, small⟩ := mapM_pack mapped
  cases flattened
  obtain ⟨sizeSmall, rfl⟩ := prependSize_eq_some sized
  have length := length_flatten_bigEndian width values
  rw [Nat.add_zero] at sizeSmall ⊢
  have inside : ¬ (bigEndian 4 (values.map (bigEndian width)).flatten.length ++
      (values.map (bigEndian width)).flatten ++ rest).length < 4 := by
    rw [List.length_append, List.length_append, length_bigEndian]
    omega
  have fits : ¬ ((values.map (bigEndian width)).flatten ++ rest).length <
      (values.map (bigEndian width)).flatten.length := by
    rw [List.length_append]
    omega
  have divides : (values.map (bigEndian width)).flatten.length % width = 0 := by
    rw [length]
    exact Nat.mul_mod_left ..
  have count : (values.map (bigEndian width)).flatten.length / width = values.length := by
    rw [length]
    exact Nat.mul_div_cancel _ positive
  rw [loadColumn, if_neg inside, append_assoc, Span.takeNumber_bigEndian sizeSmall]
  simp only [bind_eq_bind, bind_some, divides, ne_eq, not_true_eq_false,
    decide_false, Bool.or_false, decide_eq_true_eq, if_neg fits, Span.take_append, count,
    reinterpretAs_bigEndian small]
  rfl

/-! ## Exact loading -/

/-- `load` ends on every memory without a read outside of it, and what it returns is a blob of
configs with correct checksums, which iterating over it yields, if the size in the header does
not wrap.  Generated blobs with configs of known types are loaded, and generated columns are read
back. -/
theorem load_exact (crc32 : List UInt8 → UInt32) :
    (∀ mem, ∃ result, load crc32 mem = some result ∧
      (HEADER_SIZE + sizeField mem < 2 ^ 32 → result ≠ [] →
        HEADER_SIZE + sizeField mem ≤ mem.length ∧
          result = mem.take (HEADER_SIZE + sizeField mem) ∧
            ∃ yielded, IsBlob crc32 result yielded ∧ configs result = some yielded)) ∧
    (∀ sources blob, sources ≠ [] → (∀ source ∈ sources, source.type ≠ .Unknown) →
      Generator.blob crc32 sources = some blob → blob.length < 2 ^ 32 →
        load crc32 blob = some blob ∧
          ∃ yielded, configs blob = some yielded ∧
            sources.mapM (Generator.config crc32) = some (yielded.map Config.data) ∧
              yielded.map Config.type = sources.map (fun source => source.type.value)) ∧
    (∀ width values column rest, 0 < width → Generator.column width values = some column →
      loadColumn width (column ++ rest) = some (values, rest)) := by
  refine ⟨fun mem => ?_, fun sources blob nonempty known generated small => ?_,
    fun width values column rest positive generated => loadColumn_column positive generated rest⟩
  · obtain ⟨result, loaded⟩ := exists_load crc32 mem
    exact ⟨result, loaded, fun noWrap => load_isBlob noWrap loaded⟩
  · obtain ⟨yielded, mapped, types, isBlob⟩ := isBlob_of_blob known generated
    have someConfig : yielded ≠ [] := by
      intro empty
      rw [empty, map_nil] at types
      exact nonempty (map_eq_nil_iff.mp types.symm)
    exact ⟨isBlob.load_eq someConfig small, yielded, isBlob.configs_eq someConfig small, mapped,
      types⟩

/-! ## A sample checksum -/

/-- One bit of the CRC-32. -/
def crcShift (crc : UInt32) : UInt32 :=
  if crc &&& 1 = 1 then (crc >>> 1) ^^^ 0xEDB88320 else crc >>> 1

/-- The CRC-32 that the loader and the generator use, bit by bit. -/
def crc32 (bytes : List UInt8) : UInt32 :=
  bytes.foldl (fun crc byte =>
    crcShift (crcShift (crcShift (crcShift (crcShift (crcShift (crcShift (crcShift
      (crc ^^^ byte.toUInt32))))))))) 0xFFFFFFFF ^^^ 0xFFFFFFFF

/-- The config of a channel with two data bytes. -/
def channelSource : Generator.ConfigArguments where
  type := .Channel
  data := some [1, 2]

/-- The blob with the config of the channel. -/
def channelBlob : List UInt8 :=
  [0, 0, 0, 1, 0xDE, 0xAD, 0xBE, 0xEF, 0, 0, 0, 24, 0, 0, 0, 0xCC, 0, 0, 0, 0, 0, 0, 0, 0,
    0, 0, 0, 8, 1, 2, 0xFF, 0xFF, 72, 105, 183, 245]

-- The samples are evaluated.
attribute [local semireducible] Word32.modulus Word32.add Word32.sub
set_option maxRecDepth 10000

theorem load_exact_sample :
    load crc32 channelBlob = some channelBlob ∧
      loadColumn 2 ([0, 0, 0, 4, 0, 1, 1, 0] ++ [7]) = some ([1, 256], [7]) :=
  ⟨((load_exact crc32).2.1 [channelSource] channelBlob (cons_ne_nil _ _)
      (by decide) (by decide) (by decide)).1,
    (load_exact crc32).2.2 2 [1, 256] [0, 0, 0, 4, 0, 1, 1, 0] [7] (by decide) (by decide)⟩

/-- The blob with an empty config of type `ROUTING`, the number of which is zero. -/
def routingBlob : List UInt8 :=
  [0, 0, 0, 1, 0xDE, 0xAD, 0xBE, 0xEF, 0, 0, 0, 20, 0, 0, 0, 0, 0, 0, 0, 0, 0, 0, 0, 0,
    0, 0, 0, 4, 235, 214, 143, 76]

/-- Configs of type zero are loaded. -/
theorem not_load_nonzero :
    ¬ ∀ mem result, load crc32 mem = some result → result ≠ [] →
      ∃ yielded, configs result = some yielded ∧
        ∀ config ∈ yielded, config.type ≠ UNKNOWN ∧ config.type ≠ 0 := by
  intro claimed
  obtain ⟨yielded, iterated, nonzero⟩ :=
    claimed routingBlob routingBlob (by decide) (cons_ne_nil _ _)
  have actual : configs routingBlob = some [⟨0, routingBlob.drop 12⟩] := by decide
  rw [actual, Option.some.injEq] at iterated
  subst iterated
  exact (nonzero _ (mem_singleton_self _)).2 rfl

end OpenBsw.Blob
