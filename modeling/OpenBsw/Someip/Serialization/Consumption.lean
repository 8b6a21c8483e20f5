import OpenBsw.Someip.Serialization.RoundTrip

/-!
# What the parser of dynamic arrays consumes

The bytes alone tell where the elements of an array end: the extent of an element is
its size, or that of its length field and of the elements that cover the announced
bytes.  A parser that stays good has consumed exactly the extent of the array, which is
longer than announced where the announced bytes end inside an element.
-/

namespace OpenBsw.Someip

open OpenBsw.Bytes

/-- The bytes of the elements that cover a number of announced bytes; every round takes
some of them. -/
def cover (extent : List UInt8 → Nat) : (rounds announced : Nat) → List UInt8 → Nat
  | 0, _, _ => 0
  | rounds + 1, announced, bytes =>
    if announced = 0 then 0
    else
      extent bytes +
        cover extent rounds (announced - extent bytes) (bytes.drop (extent bytes))

namespace ElementType

/-- The bytes of the element at the start of some bytes. -/
def extent : ElementType → List UInt8 → Nat
  | integer size, _ => size.bytes
  | dynamicArray array element, bytes =>
    let announced := DynamicArrayParser.announcedLength array bytes
    array.lengthType.size +
      cover element.extent announced announced (bytes.drop array.lengthType.size)

theorem extent_pos (type : ElementType) (bytes : List UInt8) : 0 < type.extent bytes := by
  cases type with
  | integer size => exact size.bytes_pos
  | dynamicArray array element =>
    exact Nat.lt_of_lt_of_le array.lengthType.size_pos (Nat.le_add_right ..)

/-- The announced bytes of an array end where one of its elements ends. -/
def EndsOnElement (array : ArrayType) (element : ElementType) (bytes : List UInt8) : Prop :=
  cover element.extent (DynamicArrayParser.announcedLength array bytes)
      (DynamicArrayParser.announcedLength array bytes) (bytes.drop array.lengthType.size) =
    DynamicArrayParser.announcedLength array bytes

end ElementType

/-- A parser has moved on in its buffer. -/
structure Consumes (source target : SomeIpParser) (length : Nat) : Prop where
  good : source.isGood = true
  inside : length ≤ source.available.length
  consumed : target.consumed = source.consumed ++ source.available.take length
  available : target.available = source.available.drop length

theorem Consumes.position {source target : SomeIpParser} {length : Nat}
    (consumes : Consumes source target length) :
    target.getCurrentPosition = source.getCurrentPosition + length := by
  rw [SomeIpParser.getCurrentPosition, consumes.consumed, List.length_append, List.length_take,
    Nat.min_eq_left consumes.inside]
  rfl

theorem Consumes.trans {source middle target : SomeIpParser} {first second : Nat}
    (before : Consumes source middle first) (after : Consumes middle target second) :
    Consumes source target (first + second) where
  good := before.good
  inside := by
    have inside := after.inside
    have insideFirst := before.inside
    rw [before.available, List.length_drop] at inside
    omega
  consumed := by
    rw [after.consumed, before.consumed, before.available, List.append_assoc, ← List.take_add]
  available := by rw [after.available, before.available, List.drop_drop]

section Elements

variable {T : Type} {read : SomeIpParser → SomeIpParser × T} {extent : List UInt8 → Nat}

open DynamicArrayParser in
theorem readElements_consumes (positive : ∀ bytes, 0 < extent bytes)
    (reads : ∀ parser, (read parser).1.isGood = true →
      Consumes parser (read parser).1 (extent parser.available))
    {endPosition room rounds : Nat} {parser : SomeIpParser} {obj : EtlVector T room}
    (good : parser.isGood = true)
    (enough : endPosition - parser.getCurrentPosition ≤ rounds)
    (result : (readElements read endPosition room parser).2 = some obj) :
    (readElements read endPosition room parser).1.isGood = true ∧
      Consumes parser (readElements read endPosition room parser).1
        (cover extent rounds (endPosition - parser.getCurrentPosition) parser.available) := by
  have stays : ∀ stream : SomeIpParser, stream.isGood = true →
      endPosition - stream.getCurrentPosition = 0 → ∀ rounds,
      Consumes stream stream
        (cover extent rounds (endPosition - stream.getCurrentPosition) stream.available) := by
    intro stream streamGood done rounds
    have nothing : cover extent rounds (endPosition - stream.getCurrentPosition)
        stream.available = 0 := by
      cases rounds with
      | zero => rfl
      | succ rounds => rw [cover, if_pos done]
    rw [nothing]
    exact ⟨streamGood, Nat.zero_le _, (List.append_nil _).symm, rfl⟩
  induction room generalizing parser rounds with
  | zero =>
    rw [readElements] at result ⊢
    by_cases before : parser.getCurrentPosition < endPosition
    · rw [if_pos before] at result
      contradiction
    · rw [if_neg before]
      exact ⟨good, stays parser good (by omega) rounds⟩
  | succ room ih =>
    rw [readElements] at result ⊢
    by_cases before : parser.getCurrentPosition < endPosition
    · rw [if_pos before] at result ⊢
      dsimp only at result ⊢
      by_cases bad : (!(read parser).1.isGood) = true
      · rw [if_pos bad] at result
        contradiction
      · rw [if_neg bad] at result ⊢
        rw [Bool.not_eq_true, Bool.not_eq_false'] at bad
        obtain ⟨inner, innerResult, rfl⟩ := Option.map_eq_some_iff.mp result
        have first := reads parser bad
        have some := positive parser.available
        cases rounds with
        | zero => omega
        | succ rounds =>
          have remaining : endPosition - (read parser).1.getCurrentPosition =
              endPosition - parser.getCurrentPosition - extent parser.available := by
            rw [first.position]
            omega
          have fewer : endPosition - (read parser).1.getCurrentPosition ≤ rounds := by
            rw [remaining]
            omega
          obtain ⟨goodAfter, later⟩ := ih bad fewer innerResult
          rw [cover, if_neg (by omega), ← remaining, ← first.available]
          exact ⟨goodAfter, first.trans later⟩
    · rw [if_neg before]
      exact ⟨good, stays parser good (by omega) rounds⟩

open DynamicArrayParser in
/-- A parser that stays good has consumed the length field and the elements that cover
the announced bytes. -/
theorem parse_consumes (positive : ∀ bytes, 0 < extent bytes)
    (reads : ∀ parser, (read parser).1.isGood = true →
      Consumes parser (read parser).1 (extent parser.available))
    {array : ArrayType} {parser : SomeIpParser}
    (good : (parse read array parser).1.isGood = true) :
    Consumes parser (parse read array parser).1
      (array.lengthType.size +
        cover extent (announcedLength array parser.available)
          (announcedLength array parser.available)
          (parser.available.drop array.lengthType.size)) := by
  by_cases usable : LengthUsable array.lengthType parser
  · rw [parse_usable read usable] at good ⊢
    generalize resultEq : readElements read _ _ _ = result at good ⊢
    have field : Consumes parser (behindLength array parser) array.lengthType.size :=
      ⟨usable.1, usable.2.1, rfl, rfl⟩
    rw [finish] at good ⊢
    cases some : result.2 with
    | none =>
      rw [some] at good
      have failed := readElements_none read ((congrArg Prod.snd resultEq).trans some)
      rw [resultEq, good] at failed
      contradiction
    | some obj =>
      rw [some] at good
      dsimp only at good ⊢
      split at good
      · contradiction
      · rename_i enough
        rw [if_neg enough]
        have distance : (behindLength array parser).getCurrentPosition +
            announcedLength array parser.available -
              (behindLength array parser).getCurrentPosition =
            announcedLength array parser.available := Nat.add_sub_cancel_left ..
        have loop := (readElements_consumes positive reads rfl (Nat.le_of_eq distance)
          ((congrArg Prod.snd resultEq).trans some)).2
        rw [resultEq, distance] at loop
        exact field.trans loop
  · rw [(parse_unusable read usable).1] at good
    contradiction

end Elements

namespace ElementType

theorem read_consumes (type : ElementType) {parser : SomeIpParser}
    (good : (type.read parser).1.isGood = true) :
    Consumes parser (type.read parser).1 (type.extent parser.available) := by
  induction type generalizing parser with
  | integer size =>
    change (parser.read size.bytes).1.isGood = true at good
    change Consumes parser (parser.read size.bytes).1 size.bytes
    rw [SomeIpParser.read] at good ⊢
    by_cases short : parser.available.length < size.bytes
    · rw [if_pos short] at good
      contradiction
    · rw [if_neg short] at good ⊢
      by_cases before : parser.isGood = true
      · rw [if_pos before]
        exact ⟨before, by omega, rfl, rfl⟩
      · rw [if_neg before] at good
        contradiction
  | dynamicArray array element ih =>
    exact parse_consumes element.extent_pos (fun _ => ih) good

end ElementType

/-- A failing parse leaves the vector empty. -/
theorem DynamicArrayParser.elements_of_failed {T : Type}
    (read : SomeIpParser → SomeIpParser × T) {array : ArrayType} {parser : SomeIpParser}
    (failed : (parse read array parser).1.isGood = false) :
    (parse read array parser).2.elements = [] := by
  by_cases usable : LengthUsable array.lengthType parser
  · rw [parse_usable read usable] at failed ⊢
    generalize resultEq : readElements read _ _ _ = result at failed ⊢
    rw [finish] at failed ⊢
    cases some : result.2 with
    | none => rfl
    | some obj =>
      rw [some] at failed
      dsimp only at failed ⊢
      split at failed
      · rename_i tooFew
        rw [if_pos tooFew]
        rfl
      · have good := readElements_some read rfl ((congrArg Prod.snd resultEq).trans some)
        rw [resultEq, failed] at good
        contradiction
  · rw [(parse_unusable read usable).2]
    rfl

/-! ## Round trip -/

open DynamicArrayParser in
/-- What was written is read back exactly if in every array with elements the announced
length reaches into the last one.  A parser that stays good has consumed what the length
field announces exactly if this ends with an element, and one that fails leaves the vector
empty. -/
theorem dynamicArray_roundTrip (array : ArrayType) (element : ElementType) :
    (∀ (obj : EtlVector element.Value array.capacity) (serializer : SomeIpSerializer),
      (DynamicArraySerializer.serialize element.write array obj serializer).isGood = true →
      let bytes := (DynamicArraySerializer.serialize element.write array obj
        serializer).written.drop serializer.written.length
      ∀ (parser : SomeIpParser) (rest : List UInt8), parser.isGood = true →
        parser.available = bytes ++ rest →
        let result := parse element.read array parser
        ((result.1.isGood = true ∧ result.2 = obj ∧
            result.1.consumed = parser.consumed ++ bytes ∧ result.1.available = rest) ↔
          (ElementType.dynamicArray array element).Announced obj)) ∧
    ∀ parser : SomeIpParser,
      let result := parse element.read array parser
      (result.1.isGood = true →
        (result.1.getCurrentPosition = parser.getCurrentPosition + array.lengthType.size +
            announcedLength array parser.available ↔
          ElementType.EndsOnElement array element parser.available)) ∧
      (result.1.isGood = false → result.2.elements = []) := by
  constructor
  · intro obj serializer written bytes parser rest good available result
    have aligned : (ElementType.dynamicArray array element).Aligned true
        serializer.isBigEndian := trivial
    obtain ⟨writes, -, long⟩ :=
      (ElementType.dynamicArray array element).writes written aligned
    have bytesEq : bytes = (ElementType.dynamicArray array element).encode true obj :=
      (congrArg (List.drop serializer.written.length) writes.written).trans
        (List.drop_left ..)
    rw [bytesEq] at available ⊢
    obtain ⟨forward, backward⟩ := (ElementType.dynamicArray array element).readsBack true parser
      obj rest good trivial available long
    constructor
    · rintro ⟨goodAfter, same, -, -⟩
      exact backward goodAfter same
    · intro announced
      obtain ⟨reads, same, -⟩ := forward announced
      exact ⟨reads.good, same, reads.consumed, reads.available⟩
  · intro parser result
    constructor
    · intro good
      have consumes := parse_consumes element.extent_pos (fun _ => element.read_consumes) good
      rw [consumes.position, ElementType.EndsOnElement]
      omega
    · exact elements_of_failed element.read

namespace DynamicArray

/-- Two numbers in little endian order. -/
def sampleArray : ArrayType where
  lengthType := .uint8
  minLength := 1
  isBigEndian := false
  capacity := 2

def sampleObj : EtlVector (ElementType.integer .two).Value sampleArray.capacity where
  elements := [(1 : BitVec 16), (258 : BitVec 16)]
  fits := by decide

def samplePacket : SomeIpParser where
  available := [4, 1, 0, 2, 1, 9]

open DynamicArrayParser in
theorem dynamicArray_roundTrip_sample :
    (parse (ElementType.integer .two).read sampleArray samplePacket).1.isGood = true ∧
      (parse (ElementType.integer .two).read sampleArray samplePacket).2 = sampleObj ∧
      (parse (ElementType.integer .two).read sampleArray samplePacket).1.consumed =
        [4, 1, 0, 2, 1] ∧
      (parse (ElementType.integer .two).read sampleArray samplePacket).1.available = [9] := by
  apply ((dynamicArray_roundTrip sampleArray (.integer .two)).1 sampleObj
    { free := List.replicate 8 0 } (by decide) samplePacket [9] rfl (by decide)).mpr
  refine ⟨fun _ _ => trivial, fun _ => ?_⟩
  decide

/-- As many bytes as the length field can count, and one more. -/
def longArray : ArrayType where
  lengthType := .uint8
  minLength := 0
  isBigEndian := true
  capacity := 256

def longObj : EtlVector (ElementType.integer .one).Value longArray.capacity where
  elements := List.replicate 256 (7 : BitVec 8)
  fits := Nat.le_of_eq List.length_replicate

/-- The length of 256 bytes is written as 0, and three announced bytes are read as two
elements of two bytes. -/
theorem not_roundTrip_truncated :
    (¬∀ (obj : EtlVector (ElementType.integer .one).Value longArray.capacity)
        (serializer : SomeIpSerializer) (parser : SomeIpParser),
      (DynamicArraySerializer.serialize (ElementType.integer .one).write longArray obj
        serializer).isGood = true →
      parser.isGood = true →
      parser.available = (DynamicArraySerializer.serialize (ElementType.integer .one).write
        longArray obj serializer).written.drop serializer.written.length →
      (DynamicArrayParser.parse (ElementType.integer .one).read longArray parser).2 = obj) ∧
    ¬∀ parser : SomeIpParser,
      (DynamicArrayParser.parse (ElementType.integer .two).read sampleArray parser).1.isGood =
        true →
      (DynamicArrayParser.parse (ElementType.integer .two).read sampleArray
          parser).1.getCurrentPosition =
        parser.getCurrentPosition + sampleArray.lengthType.size +
          DynamicArrayParser.announcedLength sampleArray parser.available := by
  constructor
  · intro always
    have written : (DynamicArraySerializer.serialize (ElementType.integer .one).write longArray
        longObj { free := List.replicate 257 0 }).isGood = true := by decide +kernel
    have same := fun parser => always longObj { free := List.replicate 257 0 } parser written
    generalize bytesEq : List.drop _ _ = bytes at same
    have lengths := congrArg (fun obj => (EtlVector.elements obj).length)
      (same { available := bytes } rfl rfl)
    subst bytesEq
    exact absurd lengths (by decide +kernel)
  · intro always
    have position := always { available := [3, 1, 0, 2, 1] } (by decide)
    exact absurd position (by decide)

end DynamicArray

end OpenBsw.Someip
