import OpenBsw.Someip.Serialization.DynamicArray

/-!
# Round trips of dynamic arrays

The length field is a remainder of the number of bytes behind it.  The parser stops
at the first end of an element that is not before the announced end, so an array is
read back exactly if this is the end of its last element.
-/

namespace OpenBsw.Someip

open OpenBsw.Bytes List

namespace ElementType

/-! ## The bytes of a value -/

/-- What `write` writes, where `isBigEndian` is the byte order of the stream. -/
def encode : (type : ElementType) → Bool → type.Value → List UInt8
  | integer size, isBigEndian => fun (value : BitVec (8 * size.bytes)) =>
    streamBytes isBigEndian size.bytes value.toNat
  | dynamicArray array element, _ =>
    fun (obj : EtlVector element.Value array.capacity) =>
      let elements := (obj.elements.map (element.encode array.isBigEndian)).flatten
      bigEndian array.lengthType.size (elements.length % 256 ^ array.lengthType.size) ++ elements

/-- How many bytes a value takes. -/
def encodedLength (type : ElementType) (value : type.Value) : Nat :=
  (type.encode true value).length

/-- All arrays have the least number of elements. -/
def LongEnough : (type : ElementType) → type.Value → Prop
  | integer _ => fun _ => True
  | dynamicArray array element => fun (obj : EtlVector element.Value array.capacity) =>
    array.minLength ≤ obj.elements.length ∧ ∀ value ∈ obj.elements, element.LongEnough value

/-- In all arrays with elements, the announced length reaches into the last element. -/
def Announced : (type : ElementType) → type.Value → Prop
  | integer _ => fun _ => True
  | dynamicArray array element => fun (obj : EtlVector element.Value array.capacity) =>
    (∀ value ∈ obj.elements, element.Announced value) ∧
      (obj.elements ≠ [] →
        (obj.elements.dropLast.map element.encodedLength).sum <
          (obj.elements.map element.encodedLength).sum % 256 ^ array.lengthType.size)

/-- The byte order matters to numbers only. -/
def Aligned : ElementType → Bool → Bool → Prop
  | integer _, wanted, actual => actual = wanted
  | dynamicArray _ _, _, _ => True

theorem encodedLength_eq (type : ElementType) (isBigEndian : Bool) (value : type.Value) :
    (type.encode isBigEndian value).length = type.encodedLength value := by
  cases type with
  | integer size =>
    change (streamBytes _ _ _).length = (streamBytes _ _ _).length
    rw [length_streamBytes, length_streamBytes]
  | dynamicArray array element => rfl

theorem length_elements (element : ElementType) (isBigEndian : Bool)
    (values : List element.Value) :
    ((values.map (element.encode isBigEndian)).flatten).length =
      (values.map element.encodedLength).sum := by
  rw [length_flatten, map_map]
  congr 1
  apply map_congr_left
  intro value _
  exact element.encodedLength_eq isBigEndian value

end ElementType

/-! ## Writing -/

namespace SomeIpSerializer

theorem put_good {serializer : SomeIpSerializer} {bytes : List UInt8}
    (good : (serializer.put bytes).isGood = true) :
    serializer.isGood = true ∧ bytes.length ≤ serializer.free.length ∧
      (serializer.put bytes).written = serializer.written ++ bytes ∧
      (serializer.put bytes).free = serializer.free.drop bytes.length ∧
      (serializer.put bytes).isBigEndian = serializer.isBigEndian := by
  rw [put] at good ⊢
  by_cases short : serializer.free.length < bytes.length
  · rw [if_pos short] at good
    contradiction
  · rw [if_neg short] at good ⊢
    by_cases before : serializer.isGood = true
    · rw [if_pos before]
      exact ⟨before, by omega, rfl, rfl, rfl⟩
    · rw [if_neg before] at good
      contradiction

end SomeIpSerializer

/-- What a write that succeeds does. -/
structure Writes (source target : SomeIpSerializer) (bytes : List UInt8) : Prop where
  good : source.isGood = true
  fits : bytes.length ≤ source.free.length
  written : target.written = source.written ++ bytes
  free : target.free = source.free.drop bytes.length

theorem Writes.trans {source middle target : SomeIpSerializer} {first second : List UInt8}
    (before : Writes source middle first) (after : Writes middle target second) :
    Writes source target (first ++ second) where
  good := before.good
  fits := by
    have room := after.fits
    have used := before.fits
    rw [before.free, length_drop] at room
    rw [List.length_append]
    omega
  written := by rw [after.written, before.written, append_assoc]
  free := by rw [after.free, before.free, drop_drop, List.length_append]

/-- The field for a length is skipped, if there is room for it. -/
theorem LengthSerializerHelper.construct_cases (lengthType : LengthType)
    (serializer : SomeIpSerializer) :
    ((construct lengthType serializer).1.lengthBuffer = none ∧
      (construct lengthType serializer).2.isGood = false) ∨
    (lengthType.size ≤ serializer.free.length ∧
      construct lengthType serializer =
        ({ lengthBuffer := some serializer.written.length
           writingStartPos := serializer.written.length + lengthType.size },
          { serializer with
            written := serializer.written ++ serializer.free.take lengthType.size
            free := serializer.free.drop lengthType.size })) := by
  rw [construct, SomeIpSerializer.skipBytes]
  by_cases short : serializer.free.length < lengthType.size
  · rw [if_pos short]
    exact Or.inl ⟨rfl, rfl⟩
  · rw [if_neg short]
    have room : lengthType.size ≤ serializer.free.length := by omega
    refine Or.inr ⟨room, ?_⟩
    have position : (serializer.written ++ serializer.free.take lengthType.size).length =
        serializer.written.length + lengthType.size := by
      rw [List.length_append, length_take, Nat.min_eq_left room]
    rw [Prod.mk.injEq, LengthSerializerHelper.mk.injEq]
    exact ⟨⟨rfl, position⟩, rfl⟩

/-- The length is filled in behind the elements. -/
theorem LengthSerializerHelper.destruct_written {lengthType : LengthType}
    {front middle : List UInt8} {target : SomeIpSerializer} {elements : List UInt8}
    (size : middle.length = lengthType.size)
    (written : target.written = front ++ middle ++ elements) :
    destruct
        { lengthBuffer := some front.length, writingStartPos := front.length + lengthType.size }
        lengthType target =
      { target with
        written := front ++ bigEndian lengthType.size
          (elements.length % 256 ^ lengthType.size) ++ elements } := by
  have total : target.getCurrentPosition - (front.length + lengthType.size) =
      elements.length := by
    rw [SomeIpSerializer.getCurrentPosition, written, List.length_append, List.length_append,
      size]
    omega
  simp only [destruct, total]
  rw [written, overwrite_middle _ _ _ _ ((length_bigEndian ..).trans size.symm)]

section Elements

variable {T : Type} {write : SomeIpSerializer → T → SomeIpSerializer} {encode : T → List UInt8}
  {LongEnough : T → Prop}

/-- A stream that has failed stays failed. -/
theorem good_of_foldl
    (good : ∀ serializer value, (write serializer value).isGood = true →
      serializer.isGood = true)
    {elements : List T} {serializer : SomeIpSerializer}
    (written : (elements.foldl write serializer).isGood = true) : serializer.isGood = true := by
  induction elements generalizing serializer with
  | nil => exact written
  | cons value rest ih => exact good serializer value (ih written)

/-- The elements of a vector, one after the other. -/
theorem writes_elements (Kept : SomeIpSerializer → Prop)
    (one : ∀ serializer value, (write serializer value).isGood = true → Kept serializer →
      Writes serializer (write serializer value) (encode value) ∧
        Kept (write serializer value) ∧ LongEnough value)
    (good : ∀ serializer value, (write serializer value).isGood = true →
      serializer.isGood = true)
    {elements : List T} {serializer : SomeIpSerializer}
    (written : (elements.foldl write serializer).isGood = true) (kept : Kept serializer) :
    Writes serializer (elements.foldl write serializer) (elements.map encode).flatten ∧
      ∀ value ∈ elements, LongEnough value := by
  induction elements generalizing serializer with
  | nil =>
    refine ⟨⟨written, Nat.zero_le _, ?_, rfl⟩, ?_⟩
    · simp
    · intro value member
      exact absurd member not_mem_nil
  | cons value rest ih =>
    rw [foldl_cons] at written ⊢
    obtain ⟨head, keptNext, long⟩ :=
      one serializer value (good_of_foldl good written) kept
    obtain ⟨tail, longRest⟩ := ih written keptNext
    constructor
    · rw [map_cons, flatten_cons]
      exact head.trans tail
    · intro other member
      rcases mem_cons.mp member with rfl | inRest
      · exact long
      · exact longRest other inRest

theorem good_of_serialize {array : ArrayType} {obj : EtlVector T array.capacity}
    {serializer : SomeIpSerializer}
    (written : (DynamicArraySerializer.serialize write array obj serializer).isGood = true) :
    serializer.isGood = true := by
  rw [DynamicArraySerializer.serialize] at written
  by_cases bad : (!serializer.isGood) = true
  · rw [if_pos bad] at written
    exact written
  · simpa using bad

/-- The length field of an array is written last, into the bytes that were skipped. -/
theorem serialize_writes {array : ArrayType} {obj : EtlVector T array.capacity}
    {serializer : SomeIpSerializer}
    (good : ∀ serializer value, (write serializer value).isGood = true →
      serializer.isGood = true)
    (elementsWritten : ∀ source : SomeIpSerializer, source.isBigEndian = array.isBigEndian →
      (obj.elements.foldl write source).isGood = true →
        Writes source (obj.elements.foldl write source) (obj.elements.map encode).flatten ∧
        ∀ value ∈ obj.elements, LongEnough value)
    (written : (DynamicArraySerializer.serialize write array obj serializer).isGood = true) :
    Writes serializer (DynamicArraySerializer.serialize write array obj serializer)
        (bigEndian array.lengthType.size
          ((obj.elements.map encode).flatten.length % 256 ^ array.lengthType.size) ++
            (obj.elements.map encode).flatten) ∧
      array.minLength ≤ obj.elements.length ∧ ∀ value ∈ obj.elements, LongEnough value := by
  rw [DynamicArraySerializer.serialize] at written ⊢
  by_cases bad : (!serializer.isGood) = true
  · rw [if_pos bad] at written
    rw [written] at bad
    contradiction
  · rw [if_neg bad] at written ⊢
    rw [Bool.not_eq_true, Bool.not_eq_false'] at bad
    by_cases tooFew : obj.elements.length < array.minLength
    · rw [if_pos tooFew] at written
      contradiction
    · rw [if_neg tooFew] at written ⊢
      rcases LengthSerializerHelper.construct_cases array.lengthType serializer.bigEndian with
        ⟨absent, failed⟩ | ⟨room, construct⟩
      · simp only [LengthSerializerHelper.destruct, absent] at written
        have contrary := good_of_foldl good written
        split at contrary
        · rw [failed] at contrary
          contradiction
        · change (LengthSerializerHelper.construct array.lengthType
            serializer.bigEndian).2.isGood = true at contrary
          rw [failed] at contrary
          contradiction
      · simp only [construct] at written ⊢
        generalize sourceEq : (if array.isBigEndian = true then _ else _ : SomeIpSerializer) =
          source at written ⊢
        have facts : source.written =
              serializer.written ++ serializer.free.take array.lengthType.size ∧
            source.free = serializer.free.drop array.lengthType.size ∧
            source.isBigEndian = array.isBigEndian := by
          rw [← sourceEq]
          cases array.isBigEndian with
          | true => exact ⟨rfl, rfl, rfl⟩
          | false => exact ⟨rfl, rfl, rfl⟩
        obtain ⟨sourceWritten, sourceFree, order⟩ := facts
        obtain ⟨elements, long⟩ := elementsWritten source order written
        change array.lengthType.size ≤ serializer.free.length at room
        have fieldSize : (serializer.free.take array.lengthType.size).length =
            array.lengthType.size := by
          rw [length_take, Nat.min_eq_left room]
        have whole := elements.written
        rw [sourceWritten] at whole
        have filled := LengthSerializerHelper.destruct_written fieldSize whole
        refine ⟨⟨bad, ?_, ?_, ?_⟩, by omega, long⟩
        · have fits := elements.fits
          rw [sourceFree, length_drop] at fits
          rw [List.length_append, length_bigEndian]
          omega
        · rw [← append_assoc]
          exact congrArg SomeIpSerializer.written filled
        · refine (congrArg SomeIpSerializer.free filled).trans ?_
          change (obj.elements.foldl write source).free = _
          rw [elements.free, sourceFree, drop_drop, List.length_append, length_bigEndian]

end Elements

namespace ElementType

theorem good_of_write (type : ElementType) (serializer : SomeIpSerializer) (value : type.Value)
    (written : (type.write serializer value).isGood = true) : serializer.isGood = true := by
  cases type with
  | integer size => exact (SomeIpSerializer.put_good written).1
  | dynamicArray array element =>
    exact good_of_serialize written

/-- Elements find the byte order that their array has chosen. -/
theorem aligned_of_eq (type : ElementType) {wanted actual : Bool} (same : actual = wanted) :
    type.Aligned wanted actual := by
  cases type with
  | integer size => exact same
  | dynamicArray array element => trivial

/-- A write that succeeds writes the bytes of the value. -/
theorem writes (type : ElementType) {isBigEndian : Bool} {serializer : SomeIpSerializer}
    {value : type.Value} (written : (type.write serializer value).isGood = true)
    (aligned : type.Aligned isBigEndian serializer.isBigEndian) :
    Writes serializer (type.write serializer value) (type.encode isBigEndian value) ∧
      type.Aligned isBigEndian (type.write serializer value).isBigEndian ∧
      type.LongEnough value := by
  induction type generalizing isBigEndian serializer with
  | integer size =>
    obtain ⟨good, fits, writtenEq, freeEq, sameOrder⟩ := SomeIpSerializer.put_good written
    change serializer.isBigEndian = isBigEndian at aligned
    subst aligned
    exact ⟨⟨good, fits, writtenEq, freeEq⟩, sameOrder, trivial⟩
  | dynamicArray array element ih =>
    have elements : ∀ source : SomeIpSerializer, source.isBigEndian = array.isBigEndian →
        ((EtlVector.elements value).foldl element.write source).isGood = true →
          Writes source ((EtlVector.elements value).foldl element.write source)
              ((EtlVector.elements value).map (element.encode array.isBigEndian)).flatten ∧
            ∀ member ∈ EtlVector.elements value, element.LongEnough member := by
      intro source order elementsWritten
      apply writes_elements
        (fun stream => element.Aligned array.isBigEndian stream.isBigEndian)
      · intro stream member memberWritten kept
        obtain ⟨bytes, keptNext, long⟩ := ih memberWritten kept
        exact ⟨bytes, keptNext, long⟩
      · exact element.good_of_write
      · exact elementsWritten
      · exact element.aligned_of_eq order
    obtain ⟨bytes, long⟩ := serialize_writes element.good_of_write elements written
    exact ⟨bytes, trivial, long⟩

end ElementType

/-! ## Reading -/

/-- What a read that succeeds does. -/
structure Reads (source target : SomeIpParser) (bytes rest : List UInt8) : Prop where
  good : target.isGood = true
  consumed : target.consumed = source.consumed ++ bytes
  available : target.available = rest

theorem Reads.trans {source middle target : SomeIpParser} {first second rest : List UInt8}
    (before : Reads source middle first (second ++ rest))
    (after : Reads middle target second rest) : Reads source target (first ++ second) rest where
  good := after.good
  consumed := by rw [after.consumed, before.consumed, append_assoc]
  available := after.available

theorem SomeIpParser.reads_read {parser : SomeIpParser} {bytes rest : List UInt8}
    (good : parser.isGood = true) (available : parser.available = bytes ++ rest) :
    Reads parser (parser.read bytes.length).1 bytes rest ∧
      (parser.read bytes.length).2 = ofStreamBytes parser.isBigEndian bytes ∧
      (parser.read bytes.length).1.isBigEndian = parser.isBigEndian := by
  have room : ¬parser.available.length < bytes.length := by
    rw [available, List.length_append]
    omega
  have head : parser.available.take bytes.length = bytes := by rw [available, take_left]
  have tail : parser.available.drop bytes.length = rest := by rw [available, drop_left]
  rw [SomeIpParser.read, if_neg room, if_pos good]
  exact ⟨⟨good, congrArg (parser.consumed ++ ·) head, tail⟩, by rw [head], rfl⟩

/-- The loop of the parser goes on until a number of bytes is used up, and this happens
inside the last element. -/
def Covers : List Nat → Nat → Prop
  | [], left => left = 0
  | size :: sizes, left => 0 < left ∧ Covers sizes (left - size)

theorem covers_iff {sizes : List Nat} {left : Nat} (enough : left ≤ sizes.sum) :
    Covers sizes left ↔ (sizes ≠ [] → sizes.dropLast.sum < left) := by
  induction sizes generalizing left with
  | nil =>
    rw [sum_nil, Nat.le_zero] at enough
    simp [Covers, enough]
  | cons size rest ih =>
    rw [sum_cons] at enough
    have shorter : left - size ≤ rest.sum := by omega
    rw [Covers, ih shorter]
    cases rest with
    | nil => simp
    | cons next rest =>
      simp only [ne_eq, reduceCtorEq, not_false_eq_true, forall_const, dropLast_cons_cons,
        sum_cons]
      omega

section Elements

variable {T : Type} {read : SomeIpParser → SomeIpParser × T} {encode : T → List UInt8}
  {LongEnough Announced : T → Prop}

/-- How the operator of an element type treats an encoded value. -/
def ReadsBack (read : SomeIpParser → SomeIpParser × T) (encode : T → List UInt8)
    (LongEnough Announced : T → Prop) (Kept : SomeIpParser → Prop) : Prop :=
  ∀ (parser : SomeIpParser) (value : T) (rest : List UInt8), parser.isGood = true →
    Kept parser → parser.available = encode value ++ rest → LongEnough value →
      (Announced value → Reads parser (read parser).1 (encode value) rest ∧
        (read parser).2 = value ∧ Kept (read parser).1) ∧
      ((read parser).1.isGood = true → (read parser).2 = value → Announced value)

variable {Kept : SomeIpParser → Prop}

/-- The loop reads back the elements if the announced end lies in the last of them. -/
theorem readElements_forward (back : ReadsBack read encode LongEnough Announced Kept)
    {endPosition room : Nat} {elements : List T} {parser : SomeIpParser} {rest : List UInt8}
    (good : parser.isGood = true) (kept : Kept parser)
    (available : parser.available = (elements.map encode).flatten ++ rest)
    (long : ∀ value ∈ elements, LongEnough value) (fits : elements.length ≤ room)
    (covers : Covers (elements.map fun value => (encode value).length)
      (endPosition - parser.getCurrentPosition))
    (announced : ∀ value ∈ elements, Announced value) :
    (DynamicArrayParser.readElements read endPosition room parser).2 =
        some { elements, fits } ∧
      Reads parser (DynamicArrayParser.readElements read endPosition room parser).1
        (elements.map encode).flatten rest := by
  induction elements generalizing room parser with
  | nil =>
    have done : ¬parser.getCurrentPosition < endPosition := by
      change endPosition - parser.getCurrentPosition = 0 at covers
      omega
    have stays : Reads parser parser [] rest := ⟨good, (append_nil _).symm, available⟩
    cases room with
    | zero =>
      rw [DynamicArrayParser.readElements, if_neg done]
      exact ⟨rfl, stays⟩
    | succ room =>
      rw [DynamicArrayParser.readElements, if_neg done]
      exact ⟨rfl, stays⟩
  | cons value values ih =>
    obtain ⟨more, coversRest⟩ := covers
    cases room with
    | zero => exact absurd fits (Nat.not_succ_le_zero _)
    | succ room =>
      have before : parser.getCurrentPosition < endPosition := by omega
      rw [map_cons, flatten_cons, append_assoc] at available
      obtain ⟨reads, valueEq, keptNext⟩ :=
        (back parser value _ good kept available (long value mem_cons_self)).1
          (announced value mem_cons_self)
      have position : endPosition - parser.getCurrentPosition - (encode value).length =
          endPosition - (read parser).1.getCurrentPosition := by
        rw [SomeIpParser.getCurrentPosition, SomeIpParser.getCurrentPosition, reads.consumed,
          List.length_append]
        omega
      rw [position] at coversRest
      obtain ⟨objEq, readsRest⟩ := ih reads.good keptNext reads.available
        (fun other member => long other (mem_cons_of_mem _ member))
        (Nat.le_of_succ_le_succ fits) coversRest
        (fun other member => announced other (mem_cons_of_mem _ member))
      have notBad : ¬(!(read parser).1.isGood) = true := by
        rw [reads.good]
        exact Bool.false_ne_true
      rw [DynamicArrayParser.readElements, if_pos before]
      dsimp only
      rw [if_neg notBad, objEq, valueEq]
      refine ⟨rfl, ?_⟩
      rw [map_cons, flatten_cons]
      exact reads.trans readsRest

/-- Where the loop reads back the elements, the announced end lies in the last of them. -/
theorem readElements_backward (back : ReadsBack read encode LongEnough Announced Kept)
    {endPosition room : Nat} {elements : List T} {parser : SomeIpParser} {rest : List UInt8}
    (good : parser.isGood = true) (kept : Kept parser)
    (available : parser.available = (elements.map encode).flatten ++ rest)
    (long : ∀ value ∈ elements, LongEnough value) {obj : EtlVector T room}
    (result : (DynamicArrayParser.readElements read endPosition room parser).2 = some obj)
    (objEq : obj.elements = elements) :
    Covers (elements.map fun value => (encode value).length)
        (endPosition - parser.getCurrentPosition) ∧
      ∀ value ∈ elements, Announced value := by
  induction elements generalizing room parser with
  | nil =>
    refine ⟨?_, fun value member => absurd member not_mem_nil⟩
    change endPosition - parser.getCurrentPosition = 0
    by_contra notDone
    have before : parser.getCurrentPosition < endPosition := by omega
    cases room with
    | zero =>
      rw [DynamicArrayParser.readElements, if_pos before] at result
      contradiction
    | succ room =>
      rw [DynamicArrayParser.readElements, if_pos before] at result
      dsimp only at result
      split at result
      · contradiction
      · rw [Option.map_eq_some_iff] at result
        obtain ⟨inner, -, rfl⟩ := result
        contradiction
  | cons value values ih =>
    cases room with
    | zero =>
      have fits := obj.fits
      rw [objEq] at fits
      exact absurd fits (Nat.not_succ_le_zero _)
    | succ room =>
      rw [DynamicArrayParser.readElements] at result
      by_cases before : parser.getCurrentPosition < endPosition
      · rw [if_pos before] at result
        dsimp only at result
        split at result
        · contradiction
        · rename_i notBad
          rw [Bool.not_eq_true, Bool.not_eq_false'] at notBad
          rw [Option.map_eq_some_iff] at result
          obtain ⟨inner, innerResult, rfl⟩ := result
          obtain ⟨headEq, tailEq⟩ := List.cons.inj objEq
          rw [map_cons, flatten_cons, append_assoc] at available
          have step := back parser value _ good kept available
            (long value mem_cons_self)
          have announced := step.2 notBad headEq
          obtain ⟨reads, -, keptNext⟩ := step.1 announced
          obtain ⟨coversRest, announcedRest⟩ := ih reads.good keptNext reads.available
            (fun other member => long other (mem_cons_of_mem _ member)) innerResult
            tailEq
          have position : endPosition - parser.getCurrentPosition - (encode value).length =
              endPosition - (read parser).1.getCurrentPosition := by
            rw [SomeIpParser.getCurrentPosition, SomeIpParser.getCurrentPosition,
              reads.consumed, List.length_append]
            omega
          refine ⟨⟨by omega, ?_⟩, ?_⟩
          · change Covers _ (endPosition - parser.getCurrentPosition - (encode value).length)
            rw [position]
            exact coversRest
          · intro other member
            rcases mem_cons.mp member with rfl | inRest
            · exact announced
            · exact announcedRest other inRest
      · rw [if_neg before] at result
        cases result
        contradiction

end Elements

/-- The length field is there, and as many bytes behind it as it announces. -/
def LengthUsable (lengthType : LengthType) (parser : SomeIpParser) : Prop :=
  parser.isGood = true ∧ lengthType.size ≤ parser.available.length ∧
    ofBigEndian (parser.available.take lengthType.size) ≤
      parser.available.length - lengthType.size

theorem LengthParserHelper.parseLength_usable {lengthType : LengthType} {parser : SomeIpParser}
    (usable : LengthUsable lengthType parser) :
    parseLength lengthType parser =
      (parser.bigEndian.advance lengthType.size,
        ofBigEndian (parser.available.take lengthType.size)) := by
  obtain ⟨good, room, fits⟩ := usable
  have notBad : ¬(!parser.isGood) = true := by
    rw [good]
    exact Bool.false_ne_true
  have notShort : ¬parser.bigEndian.available.length < lengthType.size := Nat.not_lt.mpr room
  have goodAgain : parser.bigEndian.isGood = true := good
  have enough : ¬(parser.bigEndian.advance lengthType.size).bytesAvailable <
      ofStreamBytes parser.bigEndian.isBigEndian
        (parser.bigEndian.available.take lengthType.size) := by
    change ¬(parser.available.drop lengthType.size).length <
      ofBigEndian (parser.available.take lengthType.size)
    rw [length_drop]
    omega
  rw [parseLength, if_neg notBad, SomeIpParser.read, if_neg notShort, if_pos goodAgain]
  dsimp only
  rw [if_neg enough]
  rfl

theorem LengthParserHelper.parseLength_unusable {lengthType : LengthType} {parser : SomeIpParser}
    (unusable : ¬LengthUsable lengthType parser) :
    (parseLength lengthType parser).1.isGood = false := by
  rw [parseLength]
  cases good : parser.isGood with
  | false =>
    rw [Bool.not_false, if_pos rfl]
    exact good
  | true =>
    rw [Bool.not_true, if_neg Bool.false_ne_true, SomeIpParser.read]
    by_cases short : parser.bigEndian.available.length < lengthType.size
    · rw [if_pos short]
      dsimp only
      split
      · rfl
      · rfl
    · have goodAgain : parser.bigEndian.isGood = true := good
      rw [if_neg short, if_pos goodAgain]
      dsimp only
      have tooLong : (parser.bigEndian.advance lengthType.size).bytesAvailable <
          ofStreamBytes parser.bigEndian.isBigEndian
            (parser.bigEndian.available.take lengthType.size) := by
        change (parser.available.drop lengthType.size).length <
          ofBigEndian (parser.available.take lengthType.size)
        change ¬parser.available.length < lengthType.size at short
        rw [length_drop]
        by_contra fits
        exact unusable ⟨good, by omega, by omega⟩
      rw [if_pos tooLong]
      rfl

namespace DynamicArrayParser

variable {T : Type} (read : SomeIpParser → SomeIpParser × T) {array : ArrayType}
  {parser : SomeIpParser}

/-- The number in the length field. -/
def announcedLength (array : ArrayType) (bytes : List UInt8) : Nat :=
  ofBigEndian (bytes.take array.lengthType.size)

/-- The parser behind the length field. -/
def behindLength (array : ArrayType) (parser : SomeIpParser) : SomeIpParser where
  consumed := parser.consumed ++ parser.available.take array.lengthType.size
  available := parser.available.drop array.lengthType.size
  isBigEndian := array.isBigEndian

/-- Behind a usable length field the loop decides. -/
theorem parse_usable (usable : LengthUsable array.lengthType parser) :
    parse read array parser =
      finish array (readElements read ((behindLength array parser).getCurrentPosition +
        announcedLength array parser.available) array.capacity (behindLength array parser)) := by
  have length := LengthParserHelper.parseLength_usable
    (show LengthUsable array.lengthType parser.bigEndian from usable)
  have stillGood :
      ¬(!(parser.bigEndian.bigEndian.advance array.lengthType.size).isGood) = true := by
    change ¬(!parser.isGood) = true
    rw [usable.1]
    exact Bool.false_ne_true
  have source : (if array.isBigEndian = true then
        parser.bigEndian.bigEndian.advance array.lengthType.size
      else (parser.bigEndian.bigEndian.advance array.lengthType.size).littleEndian) =
      behindLength array parser := by
    obtain ⟨consumed, available, order, isGood⟩ := parser
    obtain rfl : isGood = true := usable.1
    rw [behindLength]
    cases array.isBigEndian with
    | true => rfl
    | false => rfl
  rw [parse, length]
  dsimp only
  rw [if_neg stillGood, source]
  rfl

theorem parse_unusable (unusable : ¬LengthUsable array.lengthType parser) :
    (parse read array parser).1.isGood = false ∧ (parse read array parser).2 = .empty := by
  have failed := LengthParserHelper.parseLength_unusable
    (show ¬LengthUsable array.lengthType parser.bigEndian from unusable)
  rw [parse]
  dsimp only
  rw [failed, Bool.not_false, if_pos rfl]
  exact ⟨failed, rfl⟩

/-- The loop returns no elements only where it fails. -/
theorem readElements_none {endPosition room : Nat}
    (nothing : (readElements read endPosition room parser).2 = none) :
    (readElements read endPosition room parser).1.isGood = false := by
  induction room generalizing parser with
  | zero =>
    rw [readElements] at nothing ⊢
    split at nothing
    · rename_i before
      rw [if_pos before]
      rfl
    · contradiction
  | succ room ih =>
    rw [readElements] at nothing ⊢
    by_cases before : parser.getCurrentPosition < endPosition
    · rw [if_pos before] at nothing ⊢
      dsimp only at nothing ⊢
      by_cases bad : (!(read parser).1.isGood) = true
      · rw [if_pos bad]
        exact (Bool.not_eq_true' _).mp bad
      · rw [if_neg bad] at nothing ⊢
        exact ih (Option.map_eq_none_iff.mp nothing)
    · rw [if_neg before] at nothing
      contradiction

theorem readElements_some {endPosition room : Nat} {obj : EtlVector T room}
    (good : parser.isGood = true)
    (result : (readElements read endPosition room parser).2 = some obj) :
    (readElements read endPosition room parser).1.isGood = true := by
  induction room generalizing parser with
  | zero =>
    rw [readElements] at result ⊢
    split at result
    · contradiction
    · rename_i done
      rw [if_neg done]
      exact good
  | succ room ih =>
    rw [readElements] at result ⊢
    by_cases before : parser.getCurrentPosition < endPosition
    · rw [if_pos before] at result ⊢
      dsimp only at result ⊢
      by_cases bad : (!(read parser).1.isGood) = true
      · rw [if_pos bad] at result
        contradiction
      · rw [if_neg bad] at result ⊢
        rw [Bool.not_eq_true, Bool.not_eq_false'] at bad
        obtain ⟨inner, innerResult, -⟩ := Option.map_eq_some_iff.mp result
        exact ih bad innerResult
    · rw [if_neg before]
      exact good

/-- What the loop has read is returned if there are enough elements. -/
theorem finish_some {result : SomeIpParser × Option (EtlVector T array.capacity)}
    {obj : EtlVector T array.capacity} (some : result.2 = .some obj)
    (enough : array.minLength ≤ obj.elements.length) : finish array result = (result.1, obj) := by
  rw [finish, some]
  dsimp only
  rw [if_neg (Nat.not_lt.mpr enough)]

end DynamicArrayParser

section Elements

variable {T : Type} {read : SomeIpParser → SomeIpParser × T} {encode : T → List UInt8}
  {LongEnough Announced : T → Prop} {Kept : SomeIpParser → Prop}

open DynamicArrayParser in
/-- An encoded array is read back exactly if its elements are announced and the announced
end lies in the last of them. -/
theorem parse_readsBack (back : ReadsBack read encode LongEnough Announced Kept)
    {array : ArrayType} {obj : EtlVector T array.capacity} {parser : SomeIpParser}
    {rest : List UInt8} (good : parser.isGood = true)
    (kept : ∀ source : SomeIpParser, source.isBigEndian = array.isBigEndian → Kept source)
    (available : parser.available =
      (bigEndian array.lengthType.size
        ((obj.elements.map encode).flatten.length % 256 ^ array.lengthType.size) ++
          (obj.elements.map encode).flatten) ++ rest)
    (enough : array.minLength ≤ obj.elements.length)
    (long : ∀ value ∈ obj.elements, LongEnough value) :
    (((∀ value ∈ obj.elements, Announced value) ∧
        Covers (obj.elements.map fun value => (encode value).length)
          ((obj.elements.map encode).flatten.length % 256 ^ array.lengthType.size)) →
      Reads parser (parse read array parser).1
          (bigEndian array.lengthType.size
            ((obj.elements.map encode).flatten.length % 256 ^ array.lengthType.size) ++
              (obj.elements.map encode).flatten) rest ∧
        (parse read array parser).2 = obj) ∧
    ((parse read array parser).1.isGood = true → (parse read array parser).2 = obj →
      (∀ value ∈ obj.elements, Announced value) ∧
        Covers (obj.elements.map fun value => (encode value).length)
          ((obj.elements.map encode).flatten.length % 256 ^ array.lengthType.size)) := by
  generalize elementsEq : (obj.elements.map encode).flatten = elements at available ⊢
  have small : elements.length % 256 ^ array.lengthType.size < 256 ^ array.lengthType.size :=
    Nat.mod_lt _ (by positivity)
  rw [append_assoc] at available
  have field : parser.available.take array.lengthType.size =
      bigEndian array.lengthType.size (elements.length % 256 ^ array.lengthType.size) := by
    rw [available, take_left' (length_bigEndian ..)]
  have behind : (behindLength array parser).available = elements ++ rest := by
    rw [behindLength, available, drop_left' (length_bigEndian ..)]
  have announced : announcedLength array parser.available =
      elements.length % 256 ^ array.lengthType.size := by
    rw [announcedLength, field, ofBigEndian_bigEndian small]
  have distance : (behindLength array parser).getCurrentPosition +
      elements.length % 256 ^ array.lengthType.size -
        (behindLength array parser).getCurrentPosition =
      elements.length % 256 ^ array.lengthType.size := Nat.add_sub_cancel_left ..
  have usable : LengthUsable array.lengthType parser := by
    have least : elements.length % 256 ^ array.lengthType.size ≤ elements.length := Nat.mod_le ..
    have lengths : parser.available.length =
        array.lengthType.size + (elements.length + rest.length) := by
      rw [available, List.length_append, List.length_append, length_bigEndian]
    refine ⟨good, by omega, ?_⟩
    change announcedLength array parser.available ≤ _
    rw [announced]
    omega
  have parseEq := parse_usable read usable
  rw [announced] at parseEq
  rw [parseEq]
  constructor
  · rintro ⟨values, covers⟩
    rw [← distance] at covers
    rw [← elementsEq] at behind
    obtain ⟨objEq, reads⟩ := readElements_forward back rfl (kept _ rfl) behind long obj.fits
      covers values
    rw [finish_some objEq enough]
    refine ⟨⟨reads.good, ?_, reads.available⟩, rfl⟩
    rw [reads.consumed, elementsEq, behindLength, field, append_assoc]
  · intro goodAfter objEq
    rw [← elementsEq] at behind
    generalize resultEq : readElements read _ _ _ = result at goodAfter objEq
    rw [finish] at goodAfter objEq
    cases some : result.2 with
    | none =>
      rw [some] at goodAfter
      have failed := readElements_none read ((congrArg Prod.snd resultEq).trans some)
      rw [resultEq, goodAfter] at failed
      contradiction
    | some found =>
      rw [some] at goodAfter objEq
      dsimp only at goodAfter objEq
      split at goodAfter
      · contradiction
      · rename_i enoughFound
        rw [if_neg enoughFound] at objEq
        have covered := readElements_backward back rfl (kept _ rfl) behind long
          ((congrArg Prod.snd resultEq).trans some) (congrArg EtlVector.elements objEq)
        rw [distance] at covered
        exact ⟨covered.2, covered.1⟩

end Elements

namespace ElementType

/-- What the operator of a type reads back. -/
theorem readsBack (type : ElementType) (isBigEndian : Bool) :
    ReadsBack type.read (type.encode isBigEndian) type.LongEnough type.Announced
      (fun stream => type.Aligned isBigEndian stream.isBigEndian) := by
  induction type generalizing isBigEndian with
  | integer size =>
    intro parser value rest good aligned available _
    change parser.isBigEndian = isBigEndian at aligned
    subst aligned
    have small : BitVec.toNat value < 256 ^ size.bytes := by
      have bound := BitVec.isLt value
      rw [Nat.pow_mul] at bound
      exact bound
    obtain ⟨reads, number, order⟩ := SomeIpParser.reads_read good available
    change Reads parser (parser.read (streamBytes _ size.bytes _).length).1 _ rest at reads
    change (parser.read (streamBytes _ size.bytes _).length).2 = ofStreamBytes _ _ at number
    change (parser.read (streamBytes _ size.bytes _).length).1.isBigEndian = _ at order
    rw [length_streamBytes] at reads number order
    have numberEq := number.trans (ofStreamBytes_streamBytes _ small)
    refine ⟨fun _ => ⟨reads, ?_, order⟩, fun _ _ => trivial⟩
    change BitVec.ofNat (8 * size.bytes) (parser.read size.bytes).2 = value
    rw [numberEq]
    exact BitVec.ofNat_toNat .. |>.trans (BitVec.setWidth_eq _)
  | dynamicArray array element ih =>
    intro parser obj rest good _ available long
    obtain ⟨forward, backward⟩ := parse_readsBack (ih array.isBigEndian) good
      (fun source order => element.aligned_of_eq order) available long.1 long.2
    have lengths : ((EtlVector.elements obj).map fun value =>
        (element.encode array.isBigEndian value).length) =
        (EtlVector.elements obj).map element.encodedLength := by
      apply List.map_congr_left
      intro value _
      exact element.encodedLength_eq array.isBigEndian value
    have covers := covers_iff (Nat.mod_le ((EtlVector.elements obj).map
      element.encodedLength).sum (256 ^ array.lengthType.size))
    rw [ne_eq, List.map_eq_nil_iff, ← ne_eq, ← List.map_dropLast,
      ← element.length_elements array.isBigEndian, ← lengths] at covers
    constructor
    · rintro ⟨values, reaches⟩
      rw [← element.length_elements array.isBigEndian (EtlVector.elements obj)] at reaches
      obtain ⟨reads, same⟩ := forward ⟨values, covers.mpr reaches⟩
      exact ⟨reads, same, trivial⟩
    · intro goodAfter same
      obtain ⟨values, covered⟩ := backward goodAfter same
      refine ⟨values, ?_⟩
      rw [← element.length_elements array.isBigEndian (EtlVector.elements obj)]
      exact covers.mp covered

end ElementType

end OpenBsw.Someip
