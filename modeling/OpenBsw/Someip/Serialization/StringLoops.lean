import OpenBsw.Someip.Serialization.EtlString
import OpenBsw.Someip.Serialization.RoundTrip

/-!
# The loops of strings

What each loop writes where the serializer stays good, and what must lie ahead of a
parser that a loop leaves good.  The two scanning loops stop at one zero byte or at two
in a row; the second accepts a zero byte only in front of another byte.
-/

namespace OpenBsw.Someip

open EncodingHelper StringSerializer StringParser StaticStringParser DynamicStringParser List

variable {capacity : Nat}

theorem EtlVector.elements_append (str : EtlString capacity) (char : UInt8) :
    (str.append char).elements = (str.elements ++ [char]).take capacity := by
  rw [append]
  split
  · rename_i room
    rw [take_of_length_le]
    rw [List.length_append]
    exact room
  · rename_i full
    have fits := str.fits
    rw [take_append_of_le_length (by omega), take_of_length_le fits]

/-- Appending to a vector that was cut to its capacity. -/
theorem take_append_take (front middle back : List UInt8) :
    ((front ++ middle).take capacity ++ back).take capacity =
      (front ++ (middle ++ back)).take capacity := by
  rw [← append_assoc]
  generalize front ++ middle = whole
  rw [List.take_append, List.take_append, take_take, Nat.min_self, length_take]
  congr 2
  omega

/-! ## Writing -/

theorem writes_writeChars {serializer : SomeIpSerializer} {chars : List UInt8}
    (good : (writeChars serializer chars).isGood = true) :
    Writes serializer (writeChars serializer chars) chars := by
  induction chars generalizing serializer with
  | nil => exact ⟨good, Nat.zero_le _, (append_nil _).symm, rfl⟩
  | cons char rest ih =>
    have tail : Writes (serializer.put [char]) (writeChars serializer (char :: rest)) rest :=
      ih good
    obtain ⟨before, fits, written, free, -⟩ := SomeIpSerializer.put_good tail.good
    have head : Writes serializer (serializer.put [char]) [char] :=
      ⟨before, fits, written, free⟩
    exact head.trans tail

/-- The byte order mark that is written. -/
def mark (encoding : Encoding) : List UInt8 :=
  (bom encoding).getD []

theorem length_mark (encoding : Encoding) : (mark encoding).length = encodingLength encoding := by
  cases encoding <;> rfl

/-- What `writeStringBytes` writes. -/
def stringBytes (str : EtlString capacity) (encoding : Encoding) (nulls : Nat) : List UInt8 :=
  if encoding = .SOMEIP_ENCODING_UNKNOWN then []
  else
    mark encoding ++
      (str.elements.take (str.elements.length % 2 ^ 32) ++ List.replicate nulls 0)

variable {chars rest : List UInt8} {rounds : Nat} {parser : SomeIpParser} {ch : UInt8}
  {str : EtlString capacity}

theorem writes_stringBytes {serializer : SomeIpSerializer} {encoding : Encoding} {nulls : Nat}
    (good : (writeStringBytes serializer str encoding nulls).isGood = true) :
    Writes serializer (writeStringBytes serializer str encoding nulls)
      (stringBytes str encoding nulls) := by
  rw [writeStringBytes] at good ⊢
  cases bomEq : bom encoding with
  | none =>
    have unknown : encoding = .SOMEIP_ENCODING_UNKNOWN := by
      cases encoding with
      | SOMEIP_ENCODING_UNKNOWN => rfl
      | _ => contradiction
    rw [bomEq] at good
    rw [stringBytes, if_pos unknown]
    exact ⟨good, Nat.zero_le _, (append_nil _).symm, rfl⟩
  | some bytes =>
    have known : encoding ≠ .SOMEIP_ENCODING_UNKNOWN := by
      rintro rfl
      contradiction
    have markEq : bytes.take (encodingLength encoding) = mark encoding := by
      rw [← length_bom bomEq, take_length, mark, bomEq]
      rfl
    rw [bomEq] at good
    dsimp only at good ⊢
    rw [markEq] at good ⊢
    rw [stringBytes, if_neg known]
    have zeros := writes_writeChars good
    have content := writes_writeChars zeros.good
    exact (writes_writeChars content.good).trans (content.trans zeros)

/-! ## Reading one character -/

namespace SomeIpParser

theorem readByte_available {byte : UInt8} {rest : List UInt8} (item : UInt8)
    (good : parser.isGood = true) (available : parser.available = byte :: rest) :
    Reads parser (parser.readByte item).1 [byte] rest ∧ (parser.readByte item).2 = byte := by
  have readEq : parser.readByte item = (parser.advance 1, byte) := by
    rw [readByte, available]
    dsimp only
    rw [if_pos good]
  rw [readEq]
  refine ⟨⟨good, ?_, ?_⟩, rfl⟩
  · rw [advance, available]
    rfl
  · rw [advance, available]
    rfl

/-- A read that leaves the parser good has found the character. -/
theorem readByte_good {item : UInt8} (good : (parser.readByte item).1.isGood = true) :
    parser.isGood = true ∧ ∃ rest,
      parser.available = (parser.readByte item).2 :: rest ∧
        Reads parser (parser.readByte item).1 [(parser.readByte item).2] rest := by
  cases available : parser.available with
  | nil =>
    rw [readByte, available] at good
    contradiction
  | cons byte rest =>
    have before : parser.isGood = true := by
      by_contra bad
      rw [readByte, available] at good
      dsimp only at good
      rw [if_neg bad] at good
      exact bad good
    obtain ⟨reads, byteEq⟩ := readByte_available item before available
    rw [byteEq]
    exact ⟨before, rest, rfl, reads⟩

end SomeIpParser

/-! ## The byte order mark -/

theorem parseBomFrom_forward {bytes : List UInt8} {left : Nat} {rest : List UInt8}
    (enough : left ≤ bytes.length) (good : parser.isGood = true)
    (available : parser.available = bytes.drop (bytes.length - left) ++ rest) :
    (parseBomFrom (some bytes) bytes.length left parser ch).2 = true ∧
      Reads parser (parseBomFrom (some bytes) bytes.length left parser ch).1
        (bytes.drop (bytes.length - left)) rest := by
  induction left generalizing parser ch with
  | zero =>
    rw [Nat.sub_zero, drop_length] at available ⊢
    exact ⟨rfl, good, (append_nil _).symm, available⟩
  | succ left ih =>
    have inside : bytes.length - (left + 1) < bytes.length := by omega
    have next : bytes.length - (left + 1) + 1 = bytes.length - left := by omega
    rw [drop_eq_getElem_cons inside, next] at available ⊢
    obtain ⟨reads, byteEq⟩ := SomeIpParser.readByte_available ch good available
    have matched : ¬((some bytes).any fun bytes =>
        bytes[bytes.length - (left + 1)]? ≠ some (parser.readByte ch).2) = true := by
      rw [byteEq, Option.any_some, List.getElem?_eq_getElem inside]
      simp
    obtain ⟨found, readsRest⟩ := ih (by omega) reads.good reads.available
    rw [parseBomFrom]
    rw [if_neg (by simpa using matched)]
    exact ⟨found, reads.trans readsRest⟩

/-- A mark that lies ahead is accepted. -/
theorem parseBom_forward {encoding : Encoding} {rest : List UInt8} (good : parser.isGood = true)
    (available : parser.available = mark encoding ++ rest) :
    (parseBom parser (bom encoding) (encodingLength encoding)).2 = true ∧
      Reads parser (parseBom parser (bom encoding) (encodingLength encoding)).1
        (mark encoding) rest := by
  cases bomEq : bom encoding with
  | none =>
    have unknown : encoding = .SOMEIP_ENCODING_UNKNOWN := by
      cases encoding with
      | SOMEIP_ENCODING_UNKNOWN => rfl
      | _ => contradiction
    subst unknown
    exact ⟨rfl, good, (append_nil _).symm, available⟩
  | some bytes =>
    have markEq : mark encoding = bytes.drop (bytes.length - bytes.length) := by
      rw [Nat.sub_self, mark, bomEq]
      rfl
    rw [markEq] at available ⊢
    rw [← length_bom bomEq]
    exact parseBomFrom_forward (Nat.le_refl _) good available

/-! ## Zero bytes -/

theorem readAndSkipNullsFrom_forward {nulls : Nat} {rest : List UInt8}
    (good : parser.isGood = true) (available : parser.available = List.replicate nulls 0 ++ rest) :
    (readAndSkipNullsFrom str nulls parser ch).2 = str ∧
      Reads parser (readAndSkipNullsFrom str nulls parser ch).1 (List.replicate nulls 0)
        rest := by
  induction nulls generalizing parser ch with
  | zero => exact ⟨rfl, good, (append_nil _).symm, available⟩
  | succ nulls ih =>
    rw [replicate_succ] at available ⊢
    obtain ⟨reads, byteEq⟩ := SomeIpParser.readByte_available ch good available
    obtain ⟨same, readsRest⟩ := ih reads.good reads.available
    rw [readAndSkipNullsFrom]
    rw [if_neg (not_not.mpr byteEq)]
    exact ⟨same, reads.trans readsRest⟩

theorem readAndSkipNullsFrom_backward {nulls : Nat}
    (good : (readAndSkipNullsFrom str nulls parser ch).1.isGood = true) :
    parser.isGood = true ∧ ∃ rest, parser.available = List.replicate nulls 0 ++ rest := by
  induction nulls generalizing parser ch with
  | zero => exact ⟨good, parser.available, rfl⟩
  | succ nulls ih =>
    rw [readAndSkipNullsFrom] at good
    split at good
    · contradiction
    · rename_i zero
      rw [ne_eq, not_not] at zero
      obtain ⟨goodNext, rest, availableNext⟩ := ih good
      obtain ⟨goodBefore, restNext, available, reads⟩ := SomeIpParser.readByte_good goodNext
      refine ⟨goodBefore, rest, ?_⟩
      rw [available, zero, ← reads.available, availableNext, replicate_succ,
        cons_append]

/-! ## Scanning for one zero byte -/

theorem readUtf8Chars_exhausted (good : parser.isGood = true)
    (available : parser.available = chars ++ rest) (nonzero : 0 ∉ chars) :
    Reads parser (readUtf8Chars chars.length parser ch str).1 chars rest ∧
      (readUtf8Chars chars.length parser ch str).2.elements =
        (str.elements ++ chars).take capacity := by
  induction chars generalizing parser ch str with
  | nil =>
    refine ⟨⟨good, (append_nil _).symm, available⟩, ?_⟩
    rw [append_nil, take_of_length_le str.fits]
    rfl
  | cons char chars ih =>
    rw [mem_cons, not_or] at nonzero
    obtain ⟨reads, byteEq⟩ := SomeIpParser.readByte_available ch good available
    have goesOn : (parser.readByte ch).2 ≠ 0 := by
      rw [byteEq]
      exact Ne.symm nonzero.1
    rw [length_cons, readUtf8Chars]
    rw [if_neg goesOn, byteEq]
    obtain ⟨readsRest, elements⟩ := ih reads.good reads.available nonzero.2
    refine ⟨reads.trans readsRest, elements.trans ?_⟩
    rw [EtlVector.elements_append, take_append_take]
    rfl

theorem readUtf8Chars_stopped (good : parser.isGood = true)
    (available : parser.available = chars ++ [0] ++ rest) (nonzero : 0 ∉ chars)
    (before : chars.length < rounds) :
    Reads parser (readUtf8Chars rounds parser ch str).1 (chars ++ [0]) rest ∧
      (readUtf8Chars rounds parser ch str).2.elements =
        (str.elements ++ chars).take capacity := by
  induction chars generalizing parser ch str rounds with
  | nil =>
    obtain ⟨rounds, rfl⟩ := Nat.exists_eq_succ_of_ne_zero (Nat.ne_of_gt before)
    obtain ⟨reads, byteEq⟩ := SomeIpParser.readByte_available ch good available
    rw [readUtf8Chars]
    rw [if_pos byteEq, append_nil, take_of_length_le str.fits]
    exact ⟨reads, rfl⟩
  | cons char chars ih =>
    obtain ⟨rounds, rfl⟩ := Nat.exists_eq_succ_of_ne_zero (Nat.ne_zero_of_lt before)
    rw [mem_cons, not_or] at nonzero
    rw [cons_append, cons_append] at available
    obtain ⟨reads, byteEq⟩ := SomeIpParser.readByte_available ch good available
    have goesOn : (parser.readByte ch).2 ≠ 0 := by
      rw [byteEq]
      exact Ne.symm nonzero.1
    rw [readUtf8Chars]
    rw [if_neg goesOn, byteEq]
    obtain ⟨readsRest, elements⟩ := ih reads.good reads.available nonzero.2
      (Nat.lt_of_succ_lt_succ before)
    refine ⟨reads.trans readsRest, elements.trans ?_⟩
    rw [EtlVector.elements_append, take_append_take]
    rfl

/-- Where the loop leaves the parser good, it has stopped at a zero byte or was exhausted. -/
theorem readUtf8Chars_backward (good : (readUtf8Chars rounds parser ch str).1.isGood = true) :
    parser.isGood = true ∧ ∃ chars, 0 ∉ chars ∧
      ((chars.length = rounds ∧ parser.available =
          chars ++ (readUtf8Chars rounds parser ch str).1.available) ∨
        (chars.length < rounds ∧ parser.available =
          chars ++ (0 :: (readUtf8Chars rounds parser ch str).1.available))) ∧
      (readUtf8Chars rounds parser ch str).2.elements =
        (str.elements ++ chars).take capacity := by
  induction rounds generalizing parser ch str with
  | zero =>
    refine ⟨good, [], not_mem_nil, Or.inl ⟨rfl, rfl⟩, ?_⟩
    rw [append_nil, take_of_length_le str.fits]
    rfl
  | succ rounds ih =>
    rw [readUtf8Chars] at good ⊢
    by_cases zero : (parser.readByte ch).2 = 0
    · rw [if_pos zero] at good ⊢
      obtain ⟨before, rest, available, reads⟩ := SomeIpParser.readByte_good good
      refine ⟨before, [], not_mem_nil, Or.inr ⟨Nat.succ_pos _, ?_⟩, ?_⟩
      · rw [available, zero, reads.available]
        rfl
      · rw [append_nil, take_of_length_le str.fits]
    · rw [if_neg zero] at good ⊢
      obtain ⟨goodNext, chars, nonzero, cases, elements⟩ := ih good
      obtain ⟨before, rest, available, reads⟩ := SomeIpParser.readByte_good goodNext
      rw [reads.available] at cases
      refine ⟨before, (parser.readByte ch).2 :: chars, ?_, ?_, ?_⟩
      · rw [mem_cons, not_or]
        exact ⟨Ne.symm zero, nonzero⟩
      · simp only [available, cons_append, List.cons.injEq, length_cons, true_and]
        rcases cases with ⟨same, restEq⟩ | ⟨less, restEq⟩
        · exact Or.inl ⟨congrArg Nat.succ same, restEq⟩
        · exact Or.inr ⟨Nat.succ_lt_succ less, restEq⟩
      · rw [elements, EtlVector.elements_append, take_append_take]
        rfl

/-! ## Scanning for two zero bytes -/

/-- Each zero byte stands in front of another byte. -/
inductive Scans : List UInt8 → Prop
  | nil : Scans []
  | char {char : UInt8} {chars : List UInt8} (nonzero : char ≠ 0) (rest : Scans chars) :
      Scans (char :: chars)
  | zero {char : UInt8} {chars : List UInt8} (nonzero : char ≠ 0) (rest : Scans chars) :
      Scans (0 :: char :: chars)

/-- Without zero bytes there is nothing to find. -/
theorem scans_of_nonzero {chars : List UInt8} (nonzero : 0 ∉ chars) : Scans chars := by
  induction chars with
  | nil => exact .nil
  | cons char chars ih =>
    rw [mem_cons, not_or] at nonzero
    exact .char (Ne.symm nonzero.1) (ih nonzero.2)

/-- The last byte is not a zero byte. -/
theorem Scans.getLast_ne_zero {chars : List UInt8} (scans : Scans chars) (nonempty : chars ≠ []) :
    chars.getLast nonempty ≠ 0 := by
  induction scans with
  | nil => exact absurd rfl nonempty
  | @char char chars nonzero rest ih =>
    cases chars with
    | nil => exact nonzero
    | cons next chars => exact ih (cons_ne_nil _ _)
  | @zero char chars nonzero rest ih =>
    cases chars with
    | nil => exact nonzero
    | cons next chars => exact ih (cons_ne_nil _ _)

/-- A round behind two characters, or behind one that is not a zero byte. -/
theorem readUtf16Chars_char {ch ch2 : UInt8} (nonzero : (parser.readByte ch).2 ≠ 0) :
    readUtf16Chars (rounds + 1) false parser ch ch2 str =
      readUtf16Chars rounds false (parser.readByte ch).1 (parser.readByte ch).2 ch2
        (str.append (parser.readByte ch).2) := by
  rw [readUtf16Chars, if_neg nonzero]

theorem readUtf16Chars_pair {ch ch2 : UInt8} (zero : (parser.readByte ch).2 = 0)
    (nonzero : ((parser.readByte ch).1.readByte ch2).2 ≠ 0) :
    readUtf16Chars (rounds + 1) false parser ch ch2 str =
      readUtf16Chars rounds true ((parser.readByte ch).1.readByte ch2).1 0
        ((parser.readByte ch).1.readByte ch2).2
        ((str.append 0).append ((parser.readByte ch).1.readByte ch2).2) := by
  rw [readUtf16Chars, if_pos zero, if_neg nonzero, zero]

theorem readUtf16Chars_terminator {ch ch2 : UInt8} (zero : (parser.readByte ch).2 = 0)
    (second : ((parser.readByte ch).1.readByte ch2).2 = 0) :
    readUtf16Chars (rounds + 1) false parser ch ch2 str =
      (((parser.readByte ch).1.readByte ch2).1, str) := by
  rw [readUtf16Chars, if_pos zero, if_pos second]

theorem elements_append_pair (str : EtlString capacity) (first second : UInt8)
    (chars : List UInt8) :
    (((str.append first).append second).elements ++ chars).take capacity =
      (str.elements ++ (first :: second :: chars)).take capacity := by
  rw [EtlVector.elements_append, take_append_take, EtlVector.elements_append,
    take_append_take]
  rfl

theorem readUtf16Chars_exhausted {ch ch2 : UInt8} (scans : Scans chars)
    (good : parser.isGood = true) (available : parser.available = chars ++ rest) :
    Reads parser (readUtf16Chars chars.length false parser ch ch2 str).1 chars rest ∧
      (readUtf16Chars chars.length false parser ch ch2 str).2.elements =
        (str.elements ++ chars).take capacity := by
  induction scans generalizing parser ch ch2 str with
  | nil =>
    refine ⟨⟨good, (append_nil _).symm, available⟩, ?_⟩
    rw [append_nil, take_of_length_le str.fits]
    rfl
  | @char char chars nonzero scans ih =>
    obtain ⟨reads, byteEq⟩ := SomeIpParser.readByte_available ch good available
    rw [length_cons, readUtf16Chars_char (byteEq.symm ▸ nonzero), byteEq]
    obtain ⟨readsRest, elements⟩ := ih reads.good reads.available
    refine ⟨reads.trans readsRest, elements.trans ?_⟩
    rw [EtlVector.elements_append, take_append_take]
    rfl
  | @zero char chars nonzero scans ih =>
    obtain ⟨reads, byteEq⟩ := SomeIpParser.readByte_available ch good available
    obtain ⟨readsNext, nextEq⟩ :=
      SomeIpParser.readByte_available ch2 reads.good reads.available
    rw [length_cons, length_cons,
      readUtf16Chars_pair byteEq (nextEq.symm ▸ nonzero), nextEq, readUtf16Chars]
    obtain ⟨readsRest, elements⟩ := ih readsNext.good readsNext.available
    exact ⟨reads.trans (readsNext.trans readsRest),
      elements.trans (elements_append_pair str 0 char chars)⟩

theorem readUtf16Chars_stopped {ch ch2 : UInt8} (scans : Scans chars)
    (good : parser.isGood = true) (available : parser.available = chars ++ [0, 0] ++ rest)
    (before : chars.length < rounds) :
    Reads parser (readUtf16Chars rounds false parser ch ch2 str).1 (chars ++ [0, 0]) rest ∧
      (readUtf16Chars rounds false parser ch ch2 str).2.elements =
        (str.elements ++ chars).take capacity := by
  induction scans generalizing parser ch ch2 str rounds with
  | nil =>
    obtain ⟨rounds, rfl⟩ := Nat.exists_eq_succ_of_ne_zero (Nat.ne_of_gt before)
    obtain ⟨reads, byteEq⟩ := SomeIpParser.readByte_available ch good available
    obtain ⟨readsNext, nextEq⟩ :=
      SomeIpParser.readByte_available ch2 reads.good reads.available
    rw [readUtf16Chars_terminator byteEq nextEq, append_nil,
      take_of_length_le str.fits]
    exact ⟨reads.trans readsNext, rfl⟩
  | @char char chars nonzero scans ih =>
    obtain ⟨rounds, rfl⟩ := Nat.exists_eq_succ_of_ne_zero (Nat.ne_zero_of_lt before)
    rw [cons_append, cons_append] at available
    obtain ⟨reads, byteEq⟩ := SomeIpParser.readByte_available ch good available
    rw [readUtf16Chars_char (byteEq.symm ▸ nonzero), byteEq]
    obtain ⟨readsRest, elements⟩ :=
      ih reads.good reads.available (Nat.lt_of_succ_lt_succ before)
    refine ⟨reads.trans readsRest, elements.trans ?_⟩
    rw [EtlVector.elements_append, take_append_take]
    rfl
  | @zero char chars nonzero scans ih =>
    rw [length_cons, length_cons] at before
    obtain ⟨less, rfl⟩ : ∃ less, rounds = less + 1 + 1 := ⟨rounds - 2, by omega⟩
    simp only [cons_append] at available
    obtain ⟨reads, byteEq⟩ := SomeIpParser.readByte_available ch good available
    obtain ⟨readsNext, nextEq⟩ :=
      SomeIpParser.readByte_available ch2 reads.good reads.available
    rw [readUtf16Chars_pair byteEq (nextEq.symm ▸ nonzero), nextEq, readUtf16Chars]
    obtain ⟨readsRest, elements⟩ :=
      ih readsNext.good readsNext.available (show chars.length < less by omega)
    have joined := reads.trans (readsNext.trans readsRest)
    exact ⟨joined, elements.trans (elements_append_pair str 0 char chars)⟩

/-- Where the loop leaves the parser good, it has stopped at two zero bytes or was
exhausted; the last round may have read two characters. -/
theorem readUtf16Chars_backward {ch ch2 : UInt8}
    (good : (readUtf16Chars rounds false parser ch ch2 str).1.isGood = true) :
    parser.isGood = true ∧ ∃ chars, Scans chars ∧
      ((rounds ≤ chars.length ∧ chars.length ≤ rounds + 1 ∧ parser.available =
          chars ++ (readUtf16Chars rounds false parser ch ch2 str).1.available) ∨
        (chars.length < rounds ∧ parser.available =
          chars ++ (0 :: 0 :: (readUtf16Chars rounds false parser ch ch2 str).1.available))) ∧
      (readUtf16Chars rounds false parser ch ch2 str).2.elements =
        (str.elements ++ chars).take capacity := by
  induction rounds using Nat.strong_induction_on generalizing parser ch ch2 str with
  | h rounds ih =>
    cases rounds with
    | zero =>
      refine ⟨good, [], .nil, Or.inl ⟨Nat.le_refl _, Nat.zero_le _, rfl⟩, ?_⟩
      rw [append_nil, take_of_length_le str.fits]
      rfl
    | succ rounds =>
      by_cases zero : (parser.readByte ch).2 = 0
      · by_cases second : ((parser.readByte ch).1.readByte ch2).2 = 0
        · rw [readUtf16Chars_terminator zero second] at good ⊢
          obtain ⟨goodFirst, restSecond, availableSecond, readsSecond⟩ :=
            SomeIpParser.readByte_good good
          obtain ⟨before, restFirst, available, reads⟩ :=
            SomeIpParser.readByte_good goodFirst
          refine ⟨before, [], .nil, Or.inr ⟨Nat.succ_pos _, ?_⟩, ?_⟩
          · rw [available, zero, ← reads.available, availableSecond, second,
              readsSecond.available]
            rfl
          · rw [append_nil, take_of_length_le str.fits]
        · rw [readUtf16Chars_pair zero second] at good ⊢
          -- the next round, if there is one, is left out
          cases rounds with
          | zero =>
            obtain ⟨goodFirst, restSecond, availableSecond, readsSecond⟩ :=
              SomeIpParser.readByte_good good
            obtain ⟨before, restFirst, available, reads⟩ :=
              SomeIpParser.readByte_good goodFirst
            refine ⟨before, [0, ((parser.readByte ch).1.readByte ch2).2],
              .zero second .nil, Or.inl ⟨Nat.le_succ _, Nat.le_refl _, ?_⟩, ?_⟩
            · rw [available, zero, ← reads.available, availableSecond]
              exact congrArg (0 :: _ :: ·) readsSecond.available.symm
            · have elements := elements_append_pair str 0
                ((parser.readByte ch).1.readByte ch2).2 []
              rw [append_nil, take_of_length_le (EtlVector.fits _)] at elements
              exact elements
          | succ rounds =>
            rw [readUtf16Chars] at good ⊢
            obtain ⟨goodSecond, chars, scans, cases, elements⟩ :=
              ih rounds (by omega) good
            obtain ⟨goodFirst, restSecond, availableSecond, readsSecond⟩ :=
              SomeIpParser.readByte_good goodSecond
            obtain ⟨before, restFirst, available, reads⟩ :=
              SomeIpParser.readByte_good goodFirst
            rw [readsSecond.available] at cases
            refine ⟨before, 0 :: ((parser.readByte ch).1.readByte ch2).2 :: chars,
              .zero second scans, ?_, elements.trans (elements_append_pair str 0 _ chars)⟩
            simp only [available, zero, ← reads.available, availableSecond,
              cons_append, List.cons.injEq, length_cons, true_and]
            rcases cases with ⟨least, most, restEq⟩ | ⟨less, restEq⟩
            · exact Or.inl ⟨by omega, by omega, restEq⟩
            · exact Or.inr ⟨by omega, restEq⟩
      · rw [readUtf16Chars_char zero] at good ⊢
        obtain ⟨goodNext, chars, scans, cases, elements⟩ := ih rounds (Nat.lt_succ_self _) good
        obtain ⟨before, rest, available, reads⟩ := SomeIpParser.readByte_good goodNext
        rw [reads.available] at cases
        refine ⟨before, (parser.readByte ch).2 :: chars, .char zero scans, ?_, ?_⟩
        · simp only [available, cons_append, List.cons.injEq, length_cons,
            true_and]
          rcases cases with ⟨least, most, restEq⟩ | ⟨less, restEq⟩
          · exact Or.inl ⟨Nat.succ_le_succ least, Nat.succ_le_succ most, restEq⟩
          · exact Or.inr ⟨Nat.succ_lt_succ less, restEq⟩
        · rw [elements, EtlVector.elements_append, take_append_take]
          rfl

/-! ## Reading a number of characters -/

theorem readChars_forward (good : parser.isGood = true)
    (available : parser.available = chars ++ rest) :
    Reads parser (readChars chars.length parser ch str).1 chars rest ∧
      (readChars chars.length parser ch str).2.elements =
        (str.elements ++ chars).take capacity := by
  induction chars generalizing parser ch str with
  | nil =>
    refine ⟨⟨good, (append_nil _).symm, available⟩, ?_⟩
    rw [append_nil, take_of_length_le str.fits]
    rfl
  | cons char chars ih =>
    obtain ⟨reads, byteEq⟩ := SomeIpParser.readByte_available ch good available
    rw [length_cons, readChars, byteEq]
    obtain ⟨readsRest, elements⟩ := ih reads.good reads.available
    refine ⟨reads.trans readsRest, elements.trans ?_⟩
    rw [EtlVector.elements_append, take_append_take]
    rfl

theorem readChars_backward (good : (readChars rounds parser ch str).1.isGood = true) :
    parser.isGood = true ∧ ∃ chars, chars.length = rounds ∧
      parser.available = chars ++ (readChars rounds parser ch str).1.available ∧
      (readChars rounds parser ch str).2.elements = (str.elements ++ chars).take capacity := by
  induction rounds generalizing parser ch str with
  | zero =>
    refine ⟨good, [], rfl, rfl, ?_⟩
    rw [append_nil, take_of_length_le str.fits]
    rfl
  | succ rounds ih =>
    rw [readChars] at good ⊢
    obtain ⟨goodNext, chars, length, restEq, elements⟩ := ih good
    obtain ⟨before, rest, available, reads⟩ := SomeIpParser.readByte_good goodNext
    rw [reads.available] at restEq
    refine ⟨before, (parser.readByte ch).2 :: chars, congrArg Nat.succ length, ?_, ?_⟩
    · rw [available, restEq]
      rfl
    · rw [elements, EtlVector.elements_append, take_append_take]
      rfl

end OpenBsw.Someip
