import OpenBsw.Someip.Serialization.Target32

/-!
# Parsing stays in the buffer and ends

Every move of the position goes forward inside of the buffer and is none once the parser
has failed, and every loop has at most as many rounds as there are bytes in the buffer
and elements in the object.  This holds as long as no length that is skipped wraps, no
failed parser skips, and no string overruns its object: the scan for two terminators
takes characters in pairs and can take one more than it should, after which the number
of terminators that are left is negative.
-/

namespace OpenBsw.Someip.Target32

open OpenBsw.Bytes EncodingHelper Target32.StringParser List

/-! ## What is to hold -/

structure Move.Proper (move : Move) (size : Nat) : Prop where
  forward : move.before ≤ move.after
  inside : move.after ≤ size
  frozen : move.wasGood = false → move.after = move.before

def Loop.Bounded (loop : Loop) (size : Nat) : Prop :=
  loop.rounds ≤ size + loop.capacity

/-- The moves, the last one first, lead from the start of the buffer to a position. -/
def Recorded : List Move → Nat → Prop
  | [], position => position = 0
  | move :: earlier, position => move.after = position ∧ Recorded earlier move.before

structure Contained (parser : SomeIpParser) : Prop where
  inside : parser.currentPos ≤ parser.buffer.length
  recorded : Recorded parser.moves parser.currentPos
  moves : ∀ move ∈ parser.moves, move.Proper parser.buffer.length
  loops : ∀ loop ∈ parser.loops, loop.Bounded parser.buffer.length

/-! ## The condition -/

/-- The bytes can be skipped: the end of them does not wrap, and a failed parser does not
move. -/
def MaySkip (parser : SomeIpParser) (bytes : Nat) : Prop :=
  parser.currentPos + bytes < Word32.modulus ∧
    (parser.isGood = true ∨ bytes = 0 ∨ parser.buffer.length < parser.currentPos + bytes)

/-- The number behind the position of a good parser, where there is one. -/
def MaySkipLength (parser : SomeIpParser) : Prop :=
  parser.isGood = true → parser.currentPos + 4 ≤ parser.buffer.length →
    parser.currentPos + 4 +
      ofStreamBytes parser.isBigEndian (slice parser.buffer parser.currentPos 4) < Word32.modulus

/-- The scan for two terminators comes to an offset: a character that is not zero stands
alone, and a zero is paired with the character behind it. -/
inductive UnitAt (bytes : List UInt8) : (offset : Nat) → Prop
  | start : UnitAt bytes 0
  | single {offset : Nat} {char : UInt8} : UnitAt bytes offset → bytes[offset]? = some char →
      char ≠ 0 → UnitAt bytes (offset + 1)
  | pair {offset : Nat} {char : UInt8} : UnitAt bytes offset → bytes[offset]? = some 0 →
      bytes[offset + 1]? = some char → char ≠ 0 → UnitAt bytes (offset + 2)

/-- The last characters of an object are taken as a pair of which one is too many. -/
structure EndsInPair (bytes : List UInt8) (capacity terminationLength : Nat) : Prop where
  unitAt : UnitAt bytes (capacity - 2)
  zero : bytes[capacity - 2]? = some 0
  taken : bytes[capacity - 1]? ≠ some 0 ∨ terminationLength = 0

/-- After such an end nothing but zeros follows. -/
def Overruns (bytes : List UInt8) (capacity terminationLength : Nat) : Prop :=
  2 ≤ capacity ∧ EndsInPair bytes capacity terminationLength ∧
    ∀ char ∈ bytes.drop capacity, char = 0

/-- A string object can be filled: it is not empty, and it is not overrun where the byte
order mark is found. -/
def MayFill (parser : SomeIpParser) (capacity : Nat) (encoding : Encoding) : Prop :=
  parser.isGood = true →
    StaticStringParser.neededBytes capacity encoding ≤ parser.bytesAvailable →
      0 < capacity ∧
        (encoding ≠ .SOMEIP_ENCODING_UTF8 →
          slice parser.buffer parser.currentPos (encodingLength encoding) =
              StringParser.mark encoding →
            ¬ Overruns (parser.buffer.drop (parser.currentPos + encodingLength encoding))
              capacity (terminationLength encoding))

def Condition (parser : SomeIpParser) : Operation → Prop
  | .skipBytes bytes => MaySkip parser bytes.toNat
  | .skipValue tag =>
    match fixedSize (wireType tag) with
    | some size => MaySkip parser size
    | none => MaySkipLength parser
  | .readStaticString capacity encoding => MayFill parser capacity encoding
  | _ => True

/-! ## Moves -/

variable {parser source target : SomeIpParser}

/-- An operation leaves the buffer as it is and the parser contained. -/
structure Keeps (source target : SomeIpParser) : Prop where
  buffer : target.buffer = source.buffer
  contained : Contained target

theorem Keeps.refl (contained : Contained source) : Keeps source source :=
  ⟨rfl, contained⟩

theorem Keeps.trans {middle : SomeIpParser} (first : Keeps source middle)
    (second : Keeps middle target) : Keeps source target :=
  ⟨second.buffer.trans first.buffer, second.contained⟩

theorem keeps_setFailure (contained : Contained parser) : Keeps parser parser.setFailure :=
  ⟨rfl, ⟨contained.inside, contained.recorded, contained.moves, contained.loops⟩⟩

theorem keeps_bigEndian (contained : Contained parser) : Keeps parser parser.bigEndian :=
  ⟨rfl, ⟨contained.inside, contained.recorded, contained.moves, contained.loops⟩⟩

theorem keeps_littleEndian (contained : Contained parser) : Keeps parser parser.littleEndian :=
  ⟨rfl, ⟨contained.inside, contained.recorded, contained.moves, contained.loops⟩⟩

theorem keeps_ended (contained : Contained parser) {rounds capacity : Nat}
    (bounded : rounds ≤ parser.buffer.length + capacity) :
    Keeps parser (parser.ended rounds capacity) where
  buffer := rfl
  contained := {
    inside := contained.inside
    recorded := contained.recorded
    moves := contained.moves
    loops := by
      intro loop member
      rcases mem_cons.mp member with rfl | earlier
      · exact bounded
      · exact contained.loops loop earlier }

/-- A move by a length that does not wrap and fits, of a parser that is good or does not
move. -/
theorem keeps_advance (contained : Contained parser) {length : Nat}
    (position : Word32.add parser.currentPos length = parser.currentPos + length)
    (room : parser.currentPos + length ≤ parser.buffer.length)
    (moves : parser.isGood = true ∨ length = 0) : Keeps parser (parser.advance length) where
  buffer := rfl
  contained := {
    inside := le_of_eq_of_le position room
    recorded := ⟨rfl, contained.recorded⟩
    moves := by
      intro move member
      rcases mem_cons.mp member with rfl | earlier
      · refine ⟨?_, le_of_eq_of_le position room, ?_⟩
        · exact le_of_le_of_eq (Nat.le_add_right _ _) position.symm
        · intro failed
          rcases moves with good | none
          · exact absurd (good.symm.trans failed) (by decide)
          · rw [none] at position ⊢
            exact position
      · exact contained.moves move earlier
    loops := contained.loops }

/-- Lengths of up to 8 bytes do not wrap. -/
theorem add_currentPos (contained : Contained parser) {length : Nat} (small : length ≤ 8) :
    Word32.add parser.currentPos length = parser.currentPos + length := by
  have inside := contained.inside
  have addressable := parser.addressable
  exact Word32.add_eq (by omega)

theorem hasSpace_iff (contained : Contained parser) {length : Nat} (small : length ≤ 8) :
    parser.hasSpace length = true ↔ parser.currentPos + length ≤ parser.buffer.length := by
  rw [SomeIpParser.hasSpace, add_currentPos contained small, decide_eq_true_iff]

theorem bytesAvailable_eq (contained : Contained parser) :
    parser.bytesAvailable = parser.buffer.length - parser.currentPos := by
  have addressable := parser.addressable
  exact Word32.sub_eq contained.inside (by omega)

/-! ## Reads and skips -/

theorem keeps_read (contained : Contained parser) {size : Nat} (small : size ≤ 8) :
    Keeps parser (parser.read size).1 := by
  rw [SomeIpParser.read]
  split
  · rename_i space
    split
    · rename_i good
      exact keeps_advance contained (add_currentPos contained small)
        ((hasSpace_iff contained small).mp space) (.inl good)
    · exact .refl contained
  · exact keeps_setFailure contained

/-- A character of a good parser. -/
theorem readByte_good (contained : Contained parser) (good : parser.isGood = true)
    (room : parser.currentPos < parser.buffer.length) (item : UInt8) :
    parser.readByte item = (parser.advance 1, parser.buffer[parser.currentPos]) := by
  rw [SomeIpParser.readByte, if_pos ((hasSpace_iff contained (by decide)).mpr room), if_pos good,
    getD_eq_getElem _ _ room]

/-- Behind the last byte the parser fails. -/
theorem readByte_end (contained : Contained parser)
    (atEnd : parser.buffer.length ≤ parser.currentPos) (item : UInt8) :
    parser.readByte item = (parser.setFailure, item) := by
  have full : ¬ parser.hasSpace 1 = true := by
    rw [hasSpace_iff contained (by decide)]
    omega
  rw [SomeIpParser.readByte, if_neg full]

theorem keeps_readByte (contained : Contained parser) (item : UInt8) :
    Keeps parser (parser.readByte item).1 := by
  rw [SomeIpParser.readByte]
  split
  · rename_i space
    split
    · rename_i good
      exact keeps_advance contained (add_currentPos contained (by decide))
        ((hasSpace_iff contained (by decide)).mp space) (.inl good)
    · exact .refl contained
  · exact keeps_setFailure contained

theorem keeps_skip (contained : Contained parser) {bytes : Nat} (may : MaySkip parser bytes) :
    Keeps parser (parser.skip bytes) := by
  obtain ⟨small, moves⟩ := may
  have position := Word32.add_eq small
  rw [SomeIpParser.skip]
  split
  · rename_i space
    rw [SomeIpParser.hasSpace, position, decide_eq_true_iff] at space
    refine keeps_advance contained position space ?_
    rcases moves with good | none | full
    · exact .inl good
    · exact .inr none
    · omega
  · exact keeps_setFailure contained

/-- A length field and the bytes it announces. -/
theorem keeps_skipLength (contained : Contained parser) (may : MaySkipLength parser) :
    Keeps parser ((parser.read 4).1.skip (parser.read 4).2) := by
  have keeps : Keeps parser (parser.read 4).1 := keeps_read contained (by decide)
  refine keeps.trans (keeps_skip keeps.contained ?_)
  have inside := keeps.contained.inside
  have addressable := (parser.read 4).1.addressable
  rw [SomeIpParser.read] at inside addressable ⊢
  split
  · rename_i space
    have room := (hasSpace_iff contained (by decide)).mp space
    split
    · rename_i good
      refine ⟨?_, .inl good⟩
      have sum := may good room
      simp only [SomeIpParser.advance]
      rw [add_currentPos contained (by decide)]
      exact sum
    · rename_i failed
      rw [if_pos space, if_neg failed] at inside addressable
      exact ⟨by omega, .inr (.inl rfl)⟩
  · rename_i full
    rw [if_neg full] at inside addressable
    exact ⟨by omega, .inr (.inl rfl)⟩

theorem keeps_skipValue (contained : Contained parser) {tag : UInt16}
    (may : Condition parser (.skipValue tag)) : Keeps parser (skip parser tag) := by
  rw [Condition] at may
  rw [skip]
  cases fixed : fixedSize (wireType tag) with
  | some size =>
    rw [fixed] at may
    exact keeps_skip contained may
  | none =>
    rw [fixed] at may
    exact keeps_skipLength contained may

theorem size_le (lengthType : LengthType) : lengthType.size ≤ 8 := by
  cases lengthType <;> decide

/-- A number that is not 0 was read. -/
theorem currentPos_read (contained : Contained parser) {size : Nat} (small : size ≤ 8)
    (positive : 0 < (parser.read size).2) :
    (parser.read size).1.currentPos = parser.currentPos + size := by
  rw [SomeIpParser.read] at positive ⊢
  by_cases space : parser.hasSpace size = true
  · rw [if_pos space] at positive ⊢
    by_cases good : parser.isGood = true
    · rw [if_pos good]
      exact add_currentPos contained small
    · rw [if_neg good] at positive
      exact absurd positive (Nat.lt_irrefl 0)
  · rw [if_neg space] at positive
    exact absurd positive (Nat.lt_irrefl 0)

/-- A length field is read and its number is 0, or it is the number that was read and that
many bytes are available. -/
theorem parseLength_cases (lengthType : LengthType) (parser : SomeIpParser) :
    LengthParserHelper.parseLength lengthType parser = (parser, 0) ∨
      LengthParserHelper.parseLength lengthType parser =
        ((parser.bigEndian.read lengthType.size).1.setFailure, 0) ∨
      LengthParserHelper.parseLength lengthType parser =
          parser.bigEndian.read lengthType.size ∧
        (parser.bigEndian.read lengthType.size).2 ≤
          (parser.bigEndian.read lengthType.size).1.bytesAvailable := by
  by_cases failed : (!parser.isGood) = true
  · left
    rw [LengthParserHelper.parseLength, if_pos failed]
  · right
    rw [LengthParserHelper.parseLength, if_neg failed]
    dsimp only
    by_cases short : (parser.bigEndian.read lengthType.size).1.bytesAvailable <
        (parser.bigEndian.read lengthType.size).2
    · left
      rw [if_pos short]
    · right
      rw [if_neg short]
      exact ⟨rfl, Nat.le_of_not_lt short⟩

/-- A length field, and where its number is not 0 that many bytes behind it. -/
theorem keeps_parseLength (contained : Contained parser) (lengthType : LengthType) :
    Keeps parser (LengthParserHelper.parseLength lengthType parser).1 ∧
      (0 < (LengthParserHelper.parseLength lengthType parser).2 →
        (LengthParserHelper.parseLength lengthType parser).1.currentPos +
            (LengthParserHelper.parseLength lengthType parser).2 ≤ parser.buffer.length ∧
          0 < (LengthParserHelper.parseLength lengthType parser).1.currentPos) := by
  have keepsBig := keeps_bigEndian contained
  have keepsRead := keeps_read keepsBig.contained (size_le lengthType)
  have keeps := keepsBig.trans keepsRead
  rcases parseLength_cases lengthType parser with failed | short | ⟨read, enough⟩
  · rw [failed]
    exact ⟨.refl contained, fun positive => absurd positive (Nat.lt_irrefl 0)⟩
  · rw [short]
    exact ⟨keeps.trans (keeps_setFailure keeps.contained),
      fun positive => absurd positive (Nat.lt_irrefl 0)⟩
  · rw [read]
    refine ⟨keeps, ?_⟩
    intro positive
    have inside := keeps.contained.inside
    rw [bytesAvailable_eq keeps.contained] at enough
    rw [keeps.buffer] at inside enough
    refine ⟨by omega, ?_⟩
    rw [currentPos_read keepsBig.contained (size_le lengthType) positive]
    exact Nat.add_pos_right _ lengthType.size_pos

/-! ## Dynamic arrays -/

section Arrays

variable {T : Type} {read : SomeIpParser → SomeIpParser × T}

/-- The loop has a round more than there is room at most, and none where its end is
reached at once. -/
theorem keeps_readElements (keepsElement : ∀ {parser}, Contained parser →
      Keeps parser (read parser).1) (endPosition room : Nat) (contained : Contained parser) :
    Keeps parser (DynamicArrayParser.readElements read endPosition room parser).parser ∧
      (DynamicArrayParser.readElements read endPosition room parser).rounds ≤ room + 1 ∧
      (endPosition ≤ parser.currentPos →
        (DynamicArrayParser.readElements read endPosition room parser).rounds = 0) := by
  induction room generalizing parser with
  | zero =>
    rw [DynamicArrayParser.readElements]
    split
    · exact ⟨keeps_setFailure contained, Nat.le_refl 1, fun reached => by omega⟩
    · exact ⟨.refl contained, Nat.zero_le _, fun _ => rfl⟩
  | succ room ih =>
    rw [DynamicArrayParser.readElements]
    split
    · have keeps := keepsElement contained
      dsimp only
      split
      · exact ⟨keeps, by simp, fun reached => by omega⟩
      · obtain ⟨keepsRest, rounds, -⟩ := ih keeps.contained
        exact ⟨keeps.trans keepsRest, Nat.succ_le_succ rounds, fun reached => by omega⟩
    · exact ⟨.refl contained, Nat.zero_le _, fun _ => rfl⟩

theorem keeps_finish (array : ArrayType)
    {result : DynamicArrayParser.Elements T array.capacity}
    (contained : Contained result.parser)
    (bounded : result.rounds ≤ result.parser.buffer.length + array.capacity) :
    Keeps result.parser (DynamicArrayParser.finish array result).1 := by
  have ended := keeps_ended contained bounded
  rw [DynamicArrayParser.finish]
  split
  · exact ended
  · split
    · exact ended.trans (keeps_setFailure ended.contained)
    · exact ended

theorem keeps_byteOrder (contained : Contained parser) (isBigEndian : Bool) :
    Keeps parser (if isBigEndian then parser else parser.littleEndian) := by
  cases isBigEndian with
  | true => exact .refl contained
  | false => exact keeps_littleEndian contained

theorem currentPos_byteOrder (parser : SomeIpParser) (isBigEndian : Bool) :
    (if isBigEndian then parser else parser.littleEndian).currentPos = parser.currentPos := by
  cases isBigEndian <;> rfl

theorem keeps_parse (keepsElement : ∀ {parser}, Contained parser → Keeps parser (read parser).1)
    (array : ArrayType) (contained : Contained parser) :
    Keeps parser (DynamicArrayParser.parse read array parser).1 := by
  have keepsBig := keeps_bigEndian contained
  obtain ⟨keepsLength, ahead⟩ := keeps_parseLength keepsBig.contained array.lengthType
  have keeps := keepsBig.trans keepsLength
  rw [DynamicArrayParser.parse]
  generalize LengthParserHelper.parseLength array.lengthType parser.bigEndian = numBytes
    at keeps ahead ⊢
  dsimp only
  split
  · exact keeps
  · have keepsOrder := keeps_byteOrder keeps.contained array.isBigEndian
    have position := currentPos_byteOrder numBytes.1 array.isBigEndian
    generalize (if array.isBigEndian then numBytes.1 else numBytes.1.littleEndian) = ordered
      at keepsOrder position ⊢
    obtain ⟨keepsElements, rounds, none⟩ := keeps_readElements keepsElement
      (Word32.add ordered.currentPos numBytes.2) array.capacity keepsOrder.contained
    have whole := keeps.trans (keepsOrder.trans keepsElements)
    refine whole.trans (keeps_finish array keepsElements.contained ?_)
    rw [whole.buffer]
    by_cases positive : 0 < numBytes.2
    · have enough : numBytes.1.currentPos + numBytes.2 ≤ parser.buffer.length :=
        (ahead positive).1
      omega
    · have reached : Word32.add ordered.currentPos numBytes.2 ≤ ordered.currentPos := by
        rw [Nat.eq_zero_of_not_pos positive, add_currentPos keepsOrder.contained (by decide)]
        exact Nat.le_refl _
      rw [none reached]
      exact Nat.zero_le _

end Arrays

theorem keeps_readElement (type : ElementType) (contained : Contained parser) :
    Keeps parser (readElement type parser).1 := by
  induction type generalizing parser with
  | integer size =>
    have small : size.bytes ≤ 8 := by cases size <;> decide
    exact keeps_read contained small
  | dynamicArray array element ih => exact keeps_parse ih array contained

/-! ## Byte order marks -/

/-- What a good parser with bytes left is after a character. -/
theorem readByte_next (contained : Contained parser) (good : parser.isGood = true)
    (room : parser.currentPos < parser.buffer.length) (item : UInt8) :
    (parser.readByte item).1.isGood = true ∧
      (parser.readByte item).1.currentPos = parser.currentPos + 1 ∧
      (parser.readByte item).2 = parser.buffer[parser.currentPos] := by
  rw [readByte_good contained good room]
  exact ⟨good, add_currentPos contained (by decide), rfl⟩

/-- A failed parser leaves the character as it is. -/
theorem readByte_failed (failed : ¬ parser.isGood = true) (item : UInt8) :
    (parser.readByte item).2 = item := by
  rw [SomeIpParser.readByte, if_neg failed]
  split
  · rfl
  · rfl

theorem keeps_parseBomFrom (rest : List UInt8) (contained : Contained parser) (ch : UInt8) :
    Keeps parser (parseBomFrom rest parser ch).parser ∧
      (parseBomFrom rest parser ch).rounds ≤ rest.length := by
  induction rest generalizing parser ch with
  | nil => exact ⟨.refl contained, Nat.le_refl 0⟩
  | cons expected rest ih =>
    have keeps := keeps_readByte contained ch
    rw [parseBomFrom]
    dsimp only
    split
    · exact ⟨keeps.trans (keeps_setFailure keeps.contained), Nat.succ_le_succ (Nat.zero_le _)⟩
    · obtain ⟨keepsRest, rounds⟩ := ih keeps.contained (parser.readByte ch).2
      exact ⟨keeps.trans keepsRest, Nat.succ_le_succ rounds⟩

/-- No byte of a mark is like the one before it, so that the loop ends where no more bytes
are read. -/
theorem rounds_parseBomFrom (rest : List UInt8) (contained : Contained parser) (ch : UInt8)
    (different : (ch :: rest).IsChain (· ≠ ·)) :
    (parseBomFrom rest parser ch).rounds + parser.currentPos ≤ parser.buffer.length + 1 := by
  have inside := contained.inside
  induction rest generalizing parser ch with
  | nil => exact (Nat.zero_add _).trans_le (Nat.le_succ_of_le inside)
  | cons expected rest ih =>
    rw [isChain_cons_cons] at different
    have keeps := keeps_readByte contained ch
    rw [parseBomFrom]
    dsimp only
    split
    · change 1 + _ ≤ _
      omega
    · rename_i same
      have read : (parser.readByte ch).2 = expected := not_not.mp same
      have good : parser.isGood = true := by
        by_contra failed
        exact different.1 ((readByte_failed failed ch).symm.trans read)
      have room : parser.currentPos < parser.buffer.length := by
        by_contra full
        rw [readByte_end contained (Nat.le_of_not_lt full)] at read
        exact different.1 read
      obtain ⟨-, position, -⟩ := readByte_next contained good room ch
      have later := ih keeps.contained (parser.readByte ch).2 (read ▸ different.2)
        keeps.contained.inside
      rw [position, keeps.buffer] at later
      change _ + 1 + _ ≤ _
      omega

/-- The mark that is found stands in the buffer. -/
theorem found_parseBomFrom (rest : List UInt8) (contained : Contained parser)
    (good : parser.isGood = true) (ch : UInt8)
    (room : parser.currentPos + rest.length ≤ parser.buffer.length)
    (found : (parseBomFrom rest parser ch).found = true) :
    (parseBomFrom rest parser ch).parser.isGood = true ∧
      (parseBomFrom rest parser ch).parser.currentPos = parser.currentPos + rest.length ∧
      slice parser.buffer parser.currentPos rest.length = rest := by
  induction rest generalizing parser ch with
  | nil => exact ⟨good, rfl, take_zero⟩
  | cons expected rest ih =>
    rw [length_cons] at room
    have keeps := keeps_readByte contained ch
    obtain ⟨stays, position, read⟩ := readByte_next contained good (by omega) ch
    rw [parseBomFrom] at found ⊢
    dsimp only at found ⊢
    split at found
    · exact absurd found Bool.false_ne_true
    · rename_i same
      rw [if_neg same]
      have equal : (parser.readByte ch).2 = expected := not_not.mp same
      obtain ⟨goodRest, positionRest, sliceRest⟩ :=
        ih keeps.contained stays (parser.readByte ch).2
          (by rw [position, keeps.buffer]; omega) found
      rw [position, keeps.buffer] at sliceRest
      rw [position] at positionRest
      refine ⟨goodRest, ?_, ?_⟩
      · rw [length_cons]
        exact positionRest.trans (by omega)
      · rw [slice, length_cons, drop_eq_getElem_cons (by omega), take_succ_cons,
          ← read, equal]
        exact congrArg _ sliceRest

theorem length_mark (encoding : Encoding) :
    (StringParser.mark encoding).length = encodingLength encoding := by
  cases encoding <;> rfl

theorem isChain_mark (encoding : Encoding) :
    ((0 : UInt8) :: StringParser.mark encoding).IsChain (· ≠ ·) := by
  cases encoding <;> decide

theorem keeps_parseBom (contained : Contained parser) (encoding : Encoding)
    (enough : encodingLength encoding ≤ parser.buffer.length ∨ 0 < parser.currentPos) :
    Keeps parser (parseBom parser encoding).1 := by
  obtain ⟨keeps, rounds⟩ := keeps_parseBomFrom (StringParser.mark encoding) contained 0
  have ends := rounds_parseBomFrom (StringParser.mark encoding) contained 0 (isChain_mark encoding)
  rw [length_mark] at rounds
  refine keeps.trans (keeps_ended keeps.contained ?_)
  rw [keeps.buffer]
  omega

/-! ## Terminators -/

variable {capacity : Nat}

theorem keeps_readAndSkipNullsFrom (str : EtlString capacity) (nulls : Nat)
    (contained : Contained parser) (ch : UInt8) :
    Keeps parser (readAndSkipNullsFrom str nulls parser ch).parser ∧
      (readAndSkipNullsFrom str nulls parser ch).rounds ≤ nulls := by
  induction nulls generalizing parser ch with
  | zero => exact ⟨.refl contained, Nat.le_refl 0⟩
  | succ nulls ih =>
    have keeps := keeps_readByte contained ch
    rw [readAndSkipNullsFrom]
    split
    · exact ⟨keeps.trans (keeps_setFailure keeps.contained), Nat.succ_le_succ (Nat.zero_le _)⟩
    · obtain ⟨keepsRest, rounds⟩ := ih keeps.contained (parser.readByte ch).2
      exact ⟨keeps.trans keepsRest, Nat.succ_le_succ rounds⟩

/-- A character ahead that is not zero ends the loop, however many rounds it is to take. -/
theorem rounds_readAndSkipNullsFrom (str : EtlString capacity) (nulls : Nat)
    (contained : Contained parser) (good : parser.isGood = true) (ch : UInt8)
    (ahead : ∃ char ∈ parser.buffer.drop parser.currentPos, char ≠ 0) :
    (readAndSkipNullsFrom str nulls parser ch).rounds + parser.currentPos ≤
      parser.buffer.length := by
  have inside := contained.inside
  induction nulls generalizing parser ch with
  | zero => exact (Nat.zero_add _).trans_le inside
  | succ nulls ih =>
    obtain ⟨char, member, other⟩ := ahead
    have room : parser.currentPos < parser.buffer.length := by
      by_contra full
      rw [drop_eq_nil_of_le (Nat.le_of_not_lt full)] at member
      exact not_mem_nil member
    have keeps := keeps_readByte contained ch
    obtain ⟨stays, position, read⟩ := readByte_next contained good room ch
    rw [readAndSkipNullsFrom]
    split
    · change 1 + _ ≤ _
      omega
    · rename_i zero
      have equal : parser.buffer[parser.currentPos] = 0 := read.symm.trans (not_not.mp zero)
      have later := ih keeps.contained stays (parser.readByte ch).2 (by
        rw [position, keeps.buffer]
        rw [drop_eq_getElem_cons room, mem_cons] at member
        rcases member with rfl | behind
        · exact absurd equal other
        · exact ⟨char, behind, other⟩) keeps.contained.inside
      rw [position, keeps.buffer] at later
      change _ + 1 + _ ≤ _
      omega

/-- The number of terminators is small, or something else comes before they end. -/
def FewNulls (parser : SomeIpParser) (nulls capacity : Nat) : Prop :=
  nulls ≤ parser.buffer.length + capacity ∨
    parser.isGood = true ∧ ∃ char ∈ parser.buffer.drop parser.currentPos, char ≠ 0

theorem keeps_readAndSkipNulls (str : EtlString capacity) {nulls : Nat}
    (contained : Contained parser) (few : FewNulls parser nulls capacity) :
    Keeps parser (readAndSkipNulls parser str nulls).1 := by
  obtain ⟨keeps, rounds⟩ := keeps_readAndSkipNullsFrom str nulls contained 0
  refine keeps.trans (keeps_ended keeps.contained ?_)
  rw [keeps.buffer]
  rcases few with small | ⟨good, ahead⟩
  · exact rounds.trans small
  · have ends := rounds_readAndSkipNullsFrom str nulls contained good 0 ahead
    omega

/-! ## Characters -/

theorem length_append (str : EtlString capacity) (char : UInt8)
    (room : str.elements.length < capacity) :
    (str.append char).elements.length = str.elements.length + 1 := by
  rw [EtlVector.append, dif_pos room, List.length_append, length_singleton]

theorem length_append_le (str : EtlString capacity) (char : UInt8) :
    (str.append char).elements.length ≤ str.elements.length + 1 := by
  by_cases room : str.elements.length < capacity
  · exact (length_append str char room).le
  · rw [EtlVector.append, dif_neg room]
    exact Nat.le_succ _

theorem keeps_readChars (rounds : Nat) (contained : Contained parser) (ch : UInt8)
    (str : EtlString capacity) :
    Keeps parser (DynamicStringParser.readChars rounds parser ch str).parser ∧
      (DynamicStringParser.readChars rounds parser ch str).rounds ≤ rounds := by
  induction rounds generalizing parser ch str with
  | zero => exact ⟨.refl contained, Nat.le_refl 0⟩
  | succ rounds ih =>
    have keeps := keeps_readByte contained ch
    obtain ⟨keepsRest, later⟩ := ih keeps.contained (parser.readByte ch).2
      (str.append (parser.readByte ch).2)
    rw [DynamicStringParser.readChars]
    exact ⟨keeps.trans keepsRest, Nat.succ_le_succ later⟩

theorem keeps_readUtf8Chars (rounds : Nat) (contained : Contained parser) (ch : UInt8)
    (str : EtlString capacity) :
    Keeps parser (StaticStringParser.readUtf8Chars rounds parser ch str).parser ∧
      (StaticStringParser.readUtf8Chars rounds parser ch str).rounds ≤ rounds ∧
      (StaticStringParser.readUtf8Chars rounds parser ch str).str.elements.length ≤
        str.elements.length + rounds := by
  induction rounds generalizing parser ch str with
  | zero => exact ⟨.refl contained, Nat.le_refl 0, Nat.le_refl _⟩
  | succ rounds ih =>
    have keeps := keeps_readByte contained ch
    rw [StaticStringParser.readUtf8Chars]
    split
    · exact ⟨keeps, Nat.succ_le_succ (Nat.zero_le _), Nat.le_add_right _ _⟩
    · obtain ⟨keepsRest, later, length⟩ := ih keeps.contained (parser.readByte ch).2
        (str.append (parser.readByte ch).2)
      have appended := length_append_le str (parser.readByte ch).2
      exact ⟨keeps.trans keepsRest, Nat.succ_le_succ later, length.trans (by omega)⟩

theorem keeps_readUtf16Chars (rounds : Nat) (leftOut : Bool) (contained : Contained parser)
    (ch ch2 : UInt8) (str : EtlString capacity) :
    Keeps parser (StaticStringParser.readUtf16Chars rounds leftOut parser ch ch2 str).parser ∧
      (StaticStringParser.readUtf16Chars rounds leftOut parser ch ch2 str).rounds ≤ rounds := by
  induction rounds generalizing parser leftOut ch ch2 str with
  | zero => exact ⟨.refl contained, Nat.le_refl 0⟩
  | succ rounds ih =>
    cases leftOut with
    | true =>
      obtain ⟨keeps, later⟩ := ih false contained ch ch2 str
      exact ⟨keeps, Nat.le_succ_of_le later⟩
    | false =>
      have keeps := keeps_readByte contained ch
      rw [StaticStringParser.readUtf16Chars]
      dsimp only
      split
      · have keepsSecond := keeps.trans (keeps_readByte keeps.contained ch2)
        split
        · exact ⟨keepsSecond, Nat.succ_le_succ (Nat.zero_le _)⟩
        · obtain ⟨keepsRest, later⟩ := ih true keepsSecond.contained (parser.readByte ch).2
            ((parser.readByte ch).1.readByte ch2).2
            ((str.append (parser.readByte ch).2).append
              ((parser.readByte ch).1.readByte ch2).2)
          exact ⟨keepsSecond.trans keepsRest, Nat.succ_le_succ later⟩
      · obtain ⟨keepsRest, later⟩ := ih false keeps.contained (parser.readByte ch).2 ch2
          (str.append (parser.readByte ch).2)
        exact ⟨keeps.trans keepsRest, Nat.succ_le_succ later⟩

/-! ## Pairs of characters -/

/-- The object ends inside of a pair, behind which the parser stands where bytes follow. -/
def CutPair (start terminationLength : Nat) (buffer : List UInt8) (result : Chars capacity) :
    Prop :=
  2 ≤ capacity ∧ EndsInPair (buffer.drop start) capacity terminationLength ∧
    ((∃ char ∈ (buffer.drop start).drop capacity, char ≠ 0) →
      result.parser.isGood = true ∧ result.parser.currentPos = start + capacity)

/-- The loop has filled the object but for one character, has met the two terminators
before, or has taken a pair that does not fit. -/
def Scanned (start terminationLength : Nat) (buffer : List UInt8) (result : Chars capacity) :
    Prop :=
  result.str.elements.length + 1 = capacity ∨
    (result.str.elements.length + 2 ≤ capacity ∧
      (result.str.elements.length + 2 = capacity → terminationLength = 0 →
        CutPair start terminationLength buffer result)) ∨
    (result.str.elements.length = capacity ∧ CutPair start terminationLength buffer result)

theorem scanned_readUtf16Chars {start terminationLength offset rounds : Nat}
    (contained : Contained parser) (good : parser.isGood = true)
    (position : parser.currentPos = start + offset)
    (unitAt : UnitAt (parser.buffer.drop start) offset) (ch ch2 : UInt8)
    {str : EtlString capacity} (length : str.elements.length = offset)
    (left : offset + rounds + 1 = capacity)
    (enough : start + capacity + terminationLength ≤ parser.buffer.length + 1) :
    Scanned start terminationLength parser.buffer
      (StaticStringParser.readUtf16Chars rounds false parser ch ch2 str) := by
  induction rounds using Nat.strong_induction_on generalizing parser offset ch ch2 str with
  | _ rounds ih =>
    cases rounds with
    | zero =>
      left
      change str.elements.length + 1 = capacity
      omega
    | succ rounds =>
      have room : parser.currentPos < parser.buffer.length := by omega
      have keeps := keeps_readByte contained ch
      obtain ⟨firstGood, firstPosition, first⟩ := readByte_next contained good room ch
      have firstAt : (parser.buffer.drop start)[offset]? = some (parser.readByte ch).2 := by
        rw [first, List.getElem?_drop, ← position, List.getElem?_eq_getElem room]
      rw [StaticStringParser.readUtf16Chars]
      generalize parser.readByte ch = item at keeps firstGood firstPosition firstAt ⊢
      clear first
      dsimp only
      split
      · rename_i zero
        rw [zero] at firstAt
        by_cases inside : item.1.currentPos < item.1.buffer.length
        · have keepsSecond := keeps_readByte keeps.contained ch2
          obtain ⟨secondGood, secondPosition, second⟩ :=
            readByte_next keeps.contained firstGood inside ch2
          have secondAt : (parser.buffer.drop start)[offset + 1]? =
              some (item.1.readByte ch2).2 := by
            have here : start + (offset + 1) = item.1.currentPos := by omega
            rw [second, List.getElem?_drop, here, ← keeps.buffer,
              List.getElem?_eq_getElem inside]
          generalize item.1.readByte ch2 = next
            at keepsSecond secondGood secondPosition secondAt ⊢
          clear second
          split
          · -- two terminators
            right
            left
            change str.elements.length + 2 ≤ capacity ∧
              (str.elements.length + 2 = capacity → _)
            refine ⟨by omega, ?_⟩
            intro full none
            have last : capacity - 2 = offset := by omega
            refine ⟨by omega, ⟨last ▸ unitAt, last ▸ firstAt, .inr none⟩, ?_⟩
            intro _
            exact ⟨secondGood, secondPosition.trans (by omega)⟩
          · rename_i other
            have appendedOne : (str.append item.2).elements.length = offset + 1 := by
              rw [length_append str item.2 (by omega), length]
            cases rounds with
            | zero =>
              right
              right
              have appendedTwo :
                  ((str.append item.2).append next.2).elements.length = capacity := by
                rw [length_append _ _ (by omega), appendedOne]
                omega
              have last : capacity - 2 = offset := by omega
              have behind : capacity - 1 = offset + 1 := by omega
              refine ⟨appendedTwo, by omega, ⟨last ▸ unitAt, last ▸ firstAt, .inl ?_⟩, ?_⟩
              · rw [behind, secondAt]
                exact fun same => other (Option.some.inj same)
              · intro _
                exact ⟨secondGood, secondPosition.trans (by omega)⟩
            | succ rounds =>
              have buffers : next.1.buffer = parser.buffer :=
                keepsSecond.buffer.trans keeps.buffer
              have appendedTwo :
                  ((str.append item.2).append next.2).elements.length = offset + 2 := by
                rw [length_append _ _ (by omega), appendedOne]
              have further := ih rounds (by omega) keepsSecond.contained secondGood
                (secondPosition.trans (by omega))
                (by rw [buffers]; exact unitAt.pair firstAt secondAt other) item.2 next.2
                appendedTwo (by omega) (by rw [buffers]; exact enough)
              rw [buffers] at further
              exact further
        · -- the buffer ends behind the first character of the pair
          have atEnd := keeps.buffer ▸ Nat.le_of_not_lt inside
          have none : terminationLength = 0 := by omega
          have last : capacity - 2 = offset := by omega
          have ends : parser.buffer.drop (start + capacity) = [] :=
            drop_eq_nil_of_le (by omega)
          have cut : ∀ result : Chars capacity,
              CutPair start terminationLength parser.buffer result := by
            intro result
            refine ⟨by omega, ⟨last ▸ unitAt, last ▸ firstAt, .inr none⟩, ?_⟩
            rintro ⟨char, member, -⟩
            rw [drop_drop, ends] at member
            exact absurd member not_mem_nil
          rw [readByte_end keeps.contained (Nat.le_of_not_lt inside)]
          split
          · right
            left
            exact ⟨by change str.elements.length + 2 ≤ capacity; omega,
              fun _ _ => cut _⟩
          · right
            right
            obtain rfl : rounds = 0 := by omega
            refine ⟨?_, cut _⟩
            have appendedOne : (str.append item.2).elements.length = offset + 1 := by
              rw [length_append str item.2 (by omega), length]
            change ((str.append item.2).append ch2).elements.length = capacity
            rw [length_append _ _ (by omega), appendedOne]
            omega
      · rename_i other
        have appended : (str.append item.2).elements.length = offset + 1 := by
          rw [length_append str item.2 (by omega), length]
        have next := ih rounds (Nat.lt_succ_self _) keeps.contained firstGood
          (firstPosition.trans (by omega))
          (by rw [keeps.buffer]; exact unitAt.single firstAt other) item.2 ch2 appended
          (by omega) (by rw [keeps.buffer]; exact enough)
        rw [keeps.buffer] at next
        exact next

/-! ## Static strings -/

section StaticStrings

open Target32.StaticStringParser

variable {terminationLength taken : Nat}

theorem nullsLeft_full {str : EtlString capacity} (addressable : Addressable capacity)
    (full : str.elements.length + 1 = capacity) :
    nullsLeft str terminationLength taken = terminationLength := by
  have last : Word32.sub capacity 1 = str.elements.length := by
    rw [Word32.sub_eq (by omega) (by omega)]
    omega
  rw [nullsLeft, if_pos last]

theorem nullsLeft_rest {str : EtlString capacity} (addressable : Addressable capacity)
    (rest : str.elements.length + 2 ≤ capacity) (small : terminationLength ≤ 2)
    (lifted : taken ≤ 3)
    (enough : taken ≤ capacity - str.elements.length + terminationLength) :
    nullsLeft str terminationLength taken =
      capacity - str.elements.length + terminationLength - taken := by
  have last : Word32.sub capacity 1 ≠ str.elements.length := by
    rw [Word32.sub_eq (by omega) (by omega)]
    omega
  rw [nullsLeft, if_neg last, Word32.sub_eq (by omega) (by omega),
    Word32.add_sub_eq (by omega) enough (by omega)]

theorem keeps_finishString {result : Chars capacity} (keeps : Keeps parser result.parser)
    (bounded : result.rounds ≤ parser.buffer.length + capacity)
    (few : FewNulls result.parser (nullsLeft result.str terminationLength taken) capacity) :
    Keeps parser (StaticStringParser.finish result terminationLength taken).1 := by
  have ended := keeps_ended keeps.contained (keeps.buffer ▸ bounded)
  exact keeps.trans (ended.trans (keeps_readAndSkipNulls result.str ended.contained few))

/-- One terminator is looked for, and one character alone is taken in each round. -/
theorem keeps_readUtf8Bytes (contained : Contained parser) (addressable : Addressable capacity)
    (positive : 0 < capacity) : Keeps parser (readUtf8Bytes parser (.empty : EtlString capacity)
      (EncodingHelper.terminationLength .SOMEIP_ENCODING_UTF8)).1 := by
  have last : Word32.sub capacity 1 = capacity - 1 := Word32.sub_eq positive (by omega)
  obtain ⟨keeps, rounds, length⟩ :=
    keeps_readUtf8Chars (capacity - 1) contained 0 (.empty : EtlString capacity)
  rw [readUtf8Bytes, last]
  refine keeps_finishString keeps (by omega) (.inl ?_)
  rw [keeps.buffer]
  generalize readUtf8Chars (capacity - 1) parser 0 (.empty : EtlString capacity) = result
    at length ⊢
  change result.str.elements.length ≤ 0 + (capacity - 1) at length
  rcases Nat.lt_or_ge (result.str.elements.length + 1) capacity with rest | full
  · have few : nullsLeft result.str 1 2 = capacity - result.str.elements.length + 1 - 2 :=
      nullsLeft_rest addressable rest (by decide) (by decide) (by omega)
    exact few.trans_le (by omega)
  · have few : nullsLeft result.str 1 2 = 1 := nullsLeft_full addressable (by omega)
    exact few.trans_le (by omega)

theorem CutPair.fewNulls {start nulls : Nat} {result : Chars capacity}
    (cut : CutPair start terminationLength parser.buffer result)
    (safe : ¬ Overruns (parser.buffer.drop start) capacity terminationLength)
    (buffer : result.parser.buffer = parser.buffer) : FewNulls result.parser nulls capacity := by
  right
  obtain ⟨two, ends, stands⟩ := cut
  have ahead : ∃ char ∈ (parser.buffer.drop start).drop capacity, char ≠ 0 := by
    by_contra none
    push Not at none
    exact safe ⟨two, ends, none⟩
  obtain ⟨good, position⟩ := stands ahead
  refine ⟨good, ?_⟩
  rw [buffer, position, ← drop_drop]
  exact ahead

/-- Two terminators are looked for, and the rounds take characters alone or in pairs. -/
theorem keeps_readUtf16Bytes (contained : Contained parser) (good : parser.isGood = true)
    (addressable : Addressable capacity) (positive : 0 < capacity)
    (small : terminationLength ≤ 2)
    (enough : parser.currentPos + capacity + terminationLength ≤ parser.buffer.length + 1)
    (safe : ¬ Overruns (parser.buffer.drop parser.currentPos) capacity terminationLength) :
    Keeps parser (readUtf16Bytes parser (.empty : EtlString capacity) terminationLength).1 := by
  have last : Word32.sub capacity 1 = capacity - 1 := Word32.sub_eq positive (by omega)
  obtain ⟨keeps, rounds⟩ :=
    keeps_readUtf16Chars (capacity - 1) false contained 0 0 (.empty : EtlString capacity)
  have scanned := scanned_readUtf16Chars contained good rfl .start 0 0
    (rfl : (.empty : EtlString capacity).elements.length = 0)
    (by omega : 0 + (capacity - 1) + 1 = capacity) enough
  rw [readUtf16Bytes, last]
  refine keeps_finishString keeps (by omega) ?_
  generalize readUtf16Chars (capacity - 1) false parser 0 0 (.empty : EtlString capacity) = result
    at keeps scanned ⊢
  rcases scanned with full | ⟨rest, cut⟩ | ⟨-, cut⟩
  · left
    rw [nullsLeft_full addressable full, keeps.buffer]
    omega
  · by_cases both : result.str.elements.length + 2 = capacity ∧ terminationLength = 0
    · exact (cut both.1 both.2).fewNulls safe keeps.buffer
    · left
      have few : nullsLeft result.str terminationLength 3 =
          capacity - result.str.elements.length + terminationLength - 3 :=
        nullsLeft_rest addressable rest small (by decide) (by omega)
      rw [few, keeps.buffer]
      omega
  · exact cut.fewNulls safe keeps.buffer

theorem neededBytes_eq (addressable : Addressable capacity) (positive : 0 < capacity)
    (encoding : Encoding) :
    neededBytes capacity encoding =
      encodingLength encoding + capacity - 1 + EncodingHelper.terminationLength encoding := by
  have mark : encodingLength encoding ≤ 3 := by cases encoding <;> decide
  have terminators : EncodingHelper.terminationLength encoding ≤ 2 := by
    cases encoding <;> decide
  have withMark : Word32.add (encodingLength encoding) capacity =
      encodingLength encoding + capacity := Word32.add_eq (by omega)
  have withoutOne : Word32.sub (encodingLength encoding + capacity) 1 =
      encodingLength encoding + capacity - 1 := Word32.sub_eq (by omega) (by omega)
  rw [neededBytes, withMark, withoutOne, Word32.add_eq (by omega)]

theorem keeps_readStaticString (contained : Contained parser) (capacity : Capacity)
    (encoding : Encoding) (may : MayFill parser capacity encoding) :
    Keeps parser
      (StaticStringParser.readString parser (.empty : EtlString capacity) encoding).1 := by
  obtain ⟨capacity, addressable⟩ := capacity
  rw [StaticStringParser.readString]
  by_cases failed : (!parser.isGood) = true
  · rw [if_pos failed]
    exact .refl contained
  · have good : parser.isGood = true := by
      rw [Bool.not_eq_true', Bool.not_eq_false] at failed
      exact failed
    rw [if_neg failed]
    by_cases short : parser.bytesAvailable < neededBytes capacity encoding
    · rw [if_pos short]
      exact keeps_setFailure contained
    · rw [if_neg short]
      obtain ⟨positive, safe⟩ := may good (Nat.le_of_not_lt short)
      change 0 < capacity at positive
      rw [neededBytes_eq addressable positive, bytesAvailable_eq contained] at short
      have inside := contained.inside
      have keeps := keeps_parseBom contained encoding (.inl (by omega))
      have found := found_parseBomFrom (StringParser.mark encoding) contained good 0
        (by rw [length_mark]; omega)
      rw [length_mark] at found
      dsimp only
      by_cases missing : (!(parseBom parser encoding).2) = true
      · rw [if_pos missing]
        exact keeps
      · rw [Bool.not_eq_true', Bool.not_eq_false] at missing
        obtain ⟨goodMark, position, stands⟩ := found missing
        rw [missing, Bool.not_true, if_neg Bool.false_ne_true]
        by_cases utf8 : encoding = .SOMEIP_ENCODING_UTF8
        · rw [if_pos utf8, utf8]
          rw [utf8] at keeps
          exact keeps.trans (keeps_readUtf8Bytes keeps.contained addressable positive)
        · rw [if_neg utf8]
          have small : EncodingHelper.terminationLength encoding ≤ 2 := by
            cases encoding <;> decide
          refine keeps.trans (keeps_readUtf16Bytes keeps.contained goodMark addressable positive
            small ?_ ?_)
          · rw [keeps.buffer]
            change
              (parseBomFrom (StringParser.mark encoding) parser 0).parser.currentPos + _ + _ ≤ _
            omega
          · have safe := safe utf8 stands
            rw [← position] at safe
            rw [keeps.buffer]
            exact safe

end StaticStrings

/-! ## Dynamic strings -/

/-- The characters are fewer than the object can take. -/
theorem keeps_parseStringBytes (contained : Contained parser) (str : EtlString capacity)
    (encoding : Encoding) (numBytes : Nat) (long : 2 ≤ parser.buffer.length)
    (moved : 0 < parser.currentPos) :
    Keeps parser (DynamicStringParser.parseStringBytes parser str encoding numBytes).1 := by
  have keeps := keeps_parseBom contained encoding (.inr moved)
  rw [DynamicStringParser.parseStringBytes]
  dsimp only
  by_cases missing : (!(parseBom parser encoding).2) = true
  · rw [if_pos missing]
    exact keeps
  · rw [if_neg missing]
    by_cases useful : capacity ≤ DynamicStringParser.usefulBytes encoding numBytes
    · rw [if_pos useful]
      exact keeps.trans (keeps_setFailure keeps.contained)
    · rw [if_neg useful]
      obtain ⟨keepsChars, rounds⟩ := keeps_readChars
        (DynamicStringParser.usefulBytes encoding numBytes) keeps.contained 0 str
      have whole := keeps.trans keepsChars
      have ended := keeps_ended whole.contained (rounds.trans
        ((Nat.le_of_not_le useful).trans (Nat.le_add_left capacity _)))
      refine whole.trans (ended.trans (keeps_readAndSkipNulls _ ended.contained (.inl ?_)))
      have small : terminationLength encoding ≤ 2 := by cases encoding <;> decide
      rw [ended.buffer, whole.buffer]
      exact (small.trans long).trans (Nat.le_add_right _ _)

theorem keeps_readDynamicString (contained : Contained parser) (lengthType : LengthType)
    (str : EtlString capacity) (encoding : Encoding) :
    Keeps parser (DynamicStringParser.readString lengthType parser str encoding).1 := by
  obtain ⟨keeps, ahead⟩ := keeps_parseLength contained lengthType
  rw [DynamicStringParser.readString]
  by_cases failed : (!parser.isGood) = true
  · rw [if_pos failed]
    exact .refl contained
  · rw [if_neg failed]
    dsimp only
    by_cases none : (LengthParserHelper.parseLength lengthType parser).2 = 0
    · rw [if_pos none]
      exact keeps
    · rw [if_neg none]
      obtain ⟨enough, moved⟩ := ahead (Nat.pos_of_ne_zero none)
      have long : 2 ≤ (LengthParserHelper.parseLength lengthType parser).1.buffer.length := by
        rw [keeps.buffer]
        omega
      exact keeps.trans (keeps_parseStringBytes keeps.contained _ encoding _ long moved)

/-! ## Runs -/

/-- An operation that meets the condition keeps the parser contained. -/
theorem perform_contained {operation : Operation} (contained : Contained parser)
    (condition : Condition parser operation) :
    ∃ next, perform parser operation = some next ∧ Keeps parser next := by
  cases operation with
  | bigEndian => exact ⟨_, rfl, keeps_bigEndian contained⟩
  | littleEndian => exact ⟨_, rfl, keeps_littleEndian contained⟩
  | read size =>
    have small : size.bytes ≤ 8 := by cases size <;> decide
    exact ⟨_, rfl, keeps_read contained small⟩
  | skipBytes bytes => exact ⟨_, rfl, keeps_skip contained condition⟩
  | skipValue tag => exact ⟨_, rfl, keeps_skipValue contained condition⟩
  | readArray array element =>
    exact ⟨_, rfl, keeps_parse (keeps_readElement element) array contained⟩
  | readStaticString capacity encoding =>
    exact ⟨_, rfl, keeps_readStaticString contained capacity encoding condition⟩
  | readDynamicString lengthType capacity encoding =>
    exact ⟨_, rfl, keeps_readDynamicString contained lengthType _ encoding⟩

/-- Parsing of any bytes by any operations that meet the condition stays in the buffer,
never goes back, does not move once it has failed, and ends in all its loops. -/
theorem parsing_contained (buffer : List UInt8) (addressable : Addressable buffer.length)
    (operations : List Operation)
    (guarded : Transition.System.Guarded perform Condition
      { buffer := buffer, addressable := addressable } operations) :
    ∃ final, Transition.System.play perform
        { buffer := buffer, addressable := addressable } operations = some final ∧
      final.buffer = buffer ∧ Contained final := by
  refine Transition.System.play_of_guarded
    (fun parser => parser.buffer = buffer ∧ Contained parser) ?_ ⟨rfl, ?_⟩ guarded
  · rintro parser operation ⟨same, contained⟩ condition
    obtain ⟨next, performed, keeps⟩ := perform_contained contained condition
    exact ⟨next, performed, keeps.buffer.trans same, keeps.contained⟩
  · exact ⟨Nat.zero_le _, rfl, fun _ member => absurd member not_mem_nil,
      fun _ member => absurd member not_mem_nil⟩

/-- A string of three characters, and a value that is skipped by its length. -/
def sampleBuffer : List UInt8 :=
  [0xFF, 0xFE, 0x61, 0x62, 0x63, 0, 0, 0, 0, 0, 1, 7]

-- The samples are evaluated.
attribute [local semireducible] Word32.modulus Word32.add Word32.sub

def sampleOperations : List Operation :=
  [.readStaticString ⟨4, by decide⟩ .SOMEIP_ENCODING_UTF16LE, .skipValue 0x4000]

theorem parsing_contained_sample :
    ∃ final, Transition.System.play perform
        { buffer := sampleBuffer, addressable := by decide } sampleOperations =
          some final ∧
      final.buffer = sampleBuffer ∧ Contained final := by
  refine parsing_contained sampleBuffer (by decide) sampleOperations ⟨?_, ?_⟩
  · intro _ _
    refine ⟨by decide, ?_⟩
    rintro - - ⟨-, ends, -⟩
    exact absurd ends.zero (by decide)
  · rintro next performed
    cases performed
    refine ⟨?_, fun _ _ => trivial⟩
    intro _ _
    decide

/-- A length of `0xFFFFFFFC` behind a tag takes the position back to the start. -/
theorem not_parsing_contained :
    ¬ ∀ (buffer : List UInt8) (addressable : Addressable buffer.length)
        (operations : List Operation),
      ∃ final, Transition.System.play perform
          { buffer := buffer, addressable := addressable } operations = some final ∧
        final.buffer = buffer ∧ Contained final := by
  intro always
  obtain ⟨final, played, -, contained⟩ :=
    always [0xFF, 0xFF, 0xFF, 0xFC] (by decide) [.skipValue 0x4000]
  have back : (Transition.System.play perform
      { buffer := [0xFF, 0xFF, 0xFF, 0xFC], addressable := by decide }
      [.skipValue 0x4000]).map SomeIpParser.moves = some [⟨4, 0, true⟩, ⟨0, 4, true⟩] := by
    decide
  rw [played, Option.map_some, Option.some.injEq] at back
  have proper := contained.moves ⟨4, 0, true⟩ (by rw [back]; exact mem_cons_self)
  exact absurd proper.forward (by decide)

end OpenBsw.Someip.Target32
