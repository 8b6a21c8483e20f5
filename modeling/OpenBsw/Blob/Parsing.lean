import OpenBsw.Blob.Blob

/-!
# What is read of a blob

Each function of the loader is specified on every memory.  The specification
of the iteration is the list of the configs that it yields; where the memory
is malformed the last of them is empty.
-/

namespace OpenBsw.Blob

open Bytes List

/-! ## Headers -/

/-- A memory starts with a header of the right version and magic. -/
structure HasHeader (mem : List UInt8) : Prop where
  inside : HEADER_SIZE ≤ mem.length
  version : ofBigEndian (mem.take 4) = VERSION
  magic : ofBigEndian (slice mem 4 4) = MAGIC

/-- The size field of the header. -/
def sizeField (mem : List UInt8) : Nat :=
  ofBigEndian (slice mem 8 4)

/-- A header is found exactly where there is one. -/
theorem checkHeader_cases (mem : List UInt8) :
    HasHeader mem ∧ checkHeader mem = some (some ⟨VERSION, MAGIC, sizeField mem⟩) ∨
      ¬ HasHeader mem ∧ checkHeader mem = some none := by
  unfold checkHeader
  by_cases short : mem.length < HEADER_SIZE
  · rw [if_pos short]
    exact .inr ⟨fun header => absurd header.inside (Nat.not_le_of_lt short), rfl⟩
  rw [if_neg short]
  have inside : 12 ≤ mem.length := Nat.le_of_not_lt short
  have headerLength : (mem.take 12).length = 12 := length_take_of_le inside
  have versionBytes : (mem.take 12).take 4 = mem.take 4 := by
    rw [take_take]
    rfl
  have magicBytes : ((mem.take 12).drop 4).take 4 = slice mem 4 4 := by
    rw [drop_take, take_take]
    rfl
  have sizeBytes : (((mem.take 12).drop 4).drop 4).take 4 = slice mem 8 4 := by
    rw [drop_drop, drop_take, take_take]
    rfl
  have cut : Span.first mem HEADER_SIZE = some (mem.take 12) := Span.first_eq inside
  rw [cut]
  simp only [Option.bind_eq_bind, Option.bind_some,
    Span.takeNumber_eq (show 4 ≤ (mem.take 12).length by omega),
    Span.takeNumber_eq (show 4 ≤ ((mem.take 12).drop 4).length by
      rw [length_drop]
      omega),
    Span.takeNumber_eq (show 4 ≤ (((mem.take 12).drop 4).drop 4).length by
      rw [length_drop, length_drop]
      omega), versionBytes, magicBytes, sizeBytes]
  by_cases version : ofBigEndian (mem.take 4) = VERSION
  · by_cases magic : ofBigEndian (slice mem 4 4) = MAGIC
    · rw [if_neg (not_not_intro version), if_neg (not_not_intro magic), version, magic]
      exact .inl ⟨⟨inside, version, magic⟩, rfl⟩
    · rw [if_neg (not_not_intro version), if_pos magic]
      exact .inr ⟨fun header => magic header.magic, rfl⟩
  · rw [if_pos version]
    exact .inr ⟨fun header => version header.version, rfl⟩

/-! ## Configs -/

/-- The bytes of a config are its header, with its type and its size, and that many more. -/
structure Config.WellFormed (config : Config) : Prop where
  known : config.type ≠ UNKNOWN
  type : ofBigEndian (config.data.take 4) = config.type
  size : CONFIG_HEADER_SIZE + ofBigEndian (slice config.data 12 4) = config.data.length

theorem Config.WellFormed.header_inside {config : Config} (formed : config.WellFormed) :
    CONFIG_HEADER_SIZE ≤ config.data.length :=
  formed.size ▸ Nat.le_add_right ..

theorem Config.WellFormed.data_ne_nil {config : Config} (formed : config.WellFormed) :
    config.data ≠ [] := by
  intro empty
  have inside := formed.header_inside
  rw [empty] at inside
  exact absurd inside (by decide)

theorem loadConfigHeader_short {mem : List UInt8} (short : mem.length < CONFIG_HEADER_SIZE) :
    loadConfigHeader mem = some ({}, mem) :=
  if_pos short

theorem loadConfigHeader_eq {mem : List UInt8} (inside : CONFIG_HEADER_SIZE ≤ mem.length) :
    loadConfigHeader mem = some
      (⟨ofBigEndian (mem.take 4), ofBigEndian (slice mem 4 8), ofBigEndian (slice mem 12 4)⟩,
        mem.drop CONFIG_HEADER_SIZE) := by
  have inside16 : 16 ≤ mem.length := inside
  have reserved : 8 ≤ (mem.drop 4).length := by
    rw [length_drop]
    omega
  have size : 4 ≤ ((mem.drop 4).drop 8).length := by
    rw [length_drop, length_drop]
    omega
  rw [loadConfigHeader, if_neg (Nat.not_lt_of_le inside)]
  simp only [Option.bind_eq_bind, Option.bind_some,
    Span.takeNumber_eq (show 4 ≤ mem.length by omega), Span.takeNumber_eq reserved,
    Span.takeNumber_eq size]
  rw [drop_drop, drop_drop]
  rfl

/-- A config that the memory starts with is found. -/
theorem fromBytes_of_wellFormed {config : Config} (formed : config.WellFormed)
    (small : config.data.length < 2 ^ 32) (rest : List UInt8) :
    fromBytes (config.data ++ rest) = some config := by
  have header := formed.header_inside
  have inside : 16 ≤ config.data.length := header
  have typeBytes : (config.data ++ rest).take 4 = config.data.take 4 :=
    take_append_of_le_length (by omega)
  have sizeBytes : slice (config.data ++ rest) 12 4 = slice config.data 12 4 := by
    rw [slice, slice, drop_append_of_le_length (by omega), take_append_of_le_length]
    rw [length_drop]
    omega
  have sizeEq : 16 + ofBigEndian (slice config.data 12 4) = config.data.length := formed.size
  have total : config.data.length ≤ (config.data ++ rest).length := by
    rw [List.length_append]
    exact Nat.le_add_right ..
  rw [fromBytes, loadConfigHeader_eq (Nat.le_trans header total), typeBytes, sizeBytes, formed.type]
  simp only [Option.bind_eq_bind, Option.bind_some]
  rw [if_neg formed.known, if_neg (by simp only [CONFIG_HEADER_SIZE]; omega), formed.size,
    if_neg (Nat.not_lt_of_le total), Span.first_eq total, take_left]
  rfl

/-- A memory starts with a well-formed config, or an empty one is returned. -/
theorem fromBytes_cases (mem : List UInt8) :
    fromBytes mem = some {} ∨
      ∃ config rest, config.WellFormed ∧ mem = config.data ++ rest ∧
        fromBytes mem = some config := by
  by_cases short : mem.length < CONFIG_HEADER_SIZE
  · rw [fromBytes, loadConfigHeader_short short]
    exact .inl rfl
  have inside : 16 ≤ mem.length := Nat.le_of_not_lt short
  rw [fromBytes, loadConfigHeader_eq (Nat.le_of_not_lt short)]
  simp only [Option.bind_eq_bind, Option.bind_some]
  by_cases unknown : ofBigEndian (mem.take 4) = UNKNOWN
  · rw [if_pos unknown]
    exact .inl rfl
  rw [if_neg unknown]
  by_cases large : ofBigEndian (slice mem 12 4) > 0xFFFFFFFF - CONFIG_HEADER_SIZE
  · rw [if_pos large]
    exact .inl rfl
  rw [if_neg large]
  by_cases cut : mem.length < CONFIG_HEADER_SIZE + ofBigEndian (slice mem 12 4)
  · rw [if_pos cut]
    exact .inl rfl
  have fits : 16 + ofBigEndian (slice mem 12 4) ≤ mem.length := Nat.le_of_not_lt cut
  rw [if_neg cut, Span.first_eq (Nat.le_of_not_lt cut)]
  refine .inr ⟨⟨ofBigEndian (mem.take 4), _⟩,
    mem.drop (CONFIG_HEADER_SIZE + ofBigEndian (slice mem 12 4)),
    ⟨unknown, ?_, ?_⟩, (take_append_drop _ mem).symm, rfl⟩
  · rw [take_take, Nat.min_eq_left (by simp only [CONFIG_HEADER_SIZE]; omega)]
  · have sizeBytes : slice (mem.take (CONFIG_HEADER_SIZE + ofBigEndian (slice mem 12 4))) 12 4 =
        slice mem 12 4 := by
      rw [slice, slice, drop_take, take_take,
        Nat.min_eq_left (by simp only [CONFIG_HEADER_SIZE]; omega)]
    change CONFIG_HEADER_SIZE + ofBigEndian (slice (mem.take _) 12 4) = (mem.take _).length
    rw [sizeBytes, length_take_of_le (Nat.le_of_not_lt cut)]

/-- The last four bytes are the checksum of the others. -/
def HasCrc (crc32 : List UInt8 → UInt32) (data : List UInt8) : Prop :=
  4 ≤ data.length ∧
    (crc32 (data.take (data.length - 4))).toNat = ofBigEndian (data.drop (data.length - 4))

instance (crc32 : List UInt8 → UInt32) (data : List UInt8) : Decidable (HasCrc crc32 data) :=
  inferInstanceAs (Decidable (_ ∧ _))

theorem checkCrc_eq (crc32 : List UInt8 → UInt32) (data : List UInt8) :
    checkCrc crc32 data = some (decide (HasCrc crc32 data)) := by
  by_cases short : data.length < CRC_BYTES_SIZE
  · rw [checkCrc, if_pos short, decide_eq_false fun has => Nat.not_le_of_lt short has.1]
    rfl
  have inside : 4 ≤ data.length := Nat.le_of_not_lt short
  have dataBytes : data.length - CRC_BYTES_SIZE ≤ data.length := Nat.sub_le ..
  have crcLength : (data.drop (data.length - CRC_BYTES_SIZE)).length = 4 := by
    rw [length_drop, CRC_BYTES_SIZE]
    omega
  rw [checkCrc, if_neg short, Span.take_eq dataBytes]
  simp only [Option.bind_eq_bind, Option.bind_some,
    Span.takeNumber_eq (Nat.le_of_eq crcLength.symm)]
  rw [take_of_length_le (Nat.le_of_eq crcLength)]
  simp only [HasCrc, inside, true_and]
  rfl

end OpenBsw.Blob
