import OpenBsw.Someip.Serialization.StringLoops

/-!
# Round trips of strings

A static string is read back if its terminator is found where the padding begins, a
dynamic one if its length field has not been truncated.  The failing cases are
found with nothing behind the string.
-/

namespace OpenBsw.Someip

open OpenBsw.Bytes EncodingHelper StringSerializer StringParser List

variable {capacity : Nat}

/-! ## Conditions -/

/-- The content is shorter than its string object, and the padding fits its counter. -/
structure PaddingFits (str : EtlString capacity) (encoding : Encoding) : Prop where
  shorter : str.elements.length < capacity
  size : str.elements.length < 2 ^ 32
  padding : capacity - str.elements.length - 1 + terminationLength encoding < 2 ^ 32

/-- When a static string is read back. -/
def StaticallyReadable (str : EtlString capacity) : Encoding → Prop
  | .SOMEIP_ENCODING_UNKNOWN => capacity = 1 ∧ str.elements = []
  | .SOMEIP_ENCODING_UTF8 => PaddingFits str .SOMEIP_ENCODING_UTF8 ∧ 0 ∉ str.elements
  | .SOMEIP_ENCODING_UTF8_NO_ZERO =>
    (PaddingFits str .SOMEIP_ENCODING_UTF8_NO_ZERO ∧ Scans str.elements ∧
      str.elements.length + 2 ≠ capacity) ∨ capacity = 0
  | .SOMEIP_ENCODING_NO_BOM_NO_ZERO =>
    PaddingFits str .SOMEIP_ENCODING_NO_BOM_NO_ZERO ∧ Scans str.elements ∧
      str.elements.length + 2 ≠ capacity
  | .SOMEIP_ENCODING_UTF16LE => PaddingFits str .SOMEIP_ENCODING_UTF16LE ∧ Scans str.elements
  | .SOMEIP_ENCODING_UTF16BE => PaddingFits str .SOMEIP_ENCODING_UTF16BE ∧ Scans str.elements
  | .SOMEIP_ENCODING_NO_BOM => PaddingFits str .SOMEIP_ENCODING_NO_BOM ∧ Scans str.elements

/-- The bytes that a length field counts. -/
def countedLength (str : EtlString capacity) (encoding : Encoding) : Nat :=
  encodingLength encoding + str.elements.length + terminationLength encoding

/-- When a dynamic string is read back. -/
def DynamicallyReadable (lengthType : LengthType) (str : EtlString capacity)
    (encoding : Encoding) : Prop :=
  if encoding = .SOMEIP_ENCODING_UNKNOWN then str.elements = []
  else
    (encoding = .SOMEIP_ENCODING_NO_BOM_NO_ZERO ∧ str.elements = []) ∨
      (str.elements.length < capacity ∧ str.elements.length < 2 ^ 32 ∧
        (countedLength str encoding < 256 ^ lengthType.size ∨
          2 ^ 32 < countedLength str encoding))

instance (lengthType : LengthType) (str : EtlString capacity) (encoding : Encoding) :
    Decidable (DynamicallyReadable lengthType str encoding) :=
  inferInstanceAs (Decidable (if encoding = .SOMEIP_ENCODING_UNKNOWN then str.elements = []
    else (_ ∧ _) ∨ (_ ∧ _ ∧ (_ ∨ _))))

/-! ## Content and zero bytes -/

/-- Content that ends with another byte ends where the zero bytes begin. -/
theorem content_ends {chars : List UInt8} (scans : Scans chars) {length nulls zeros : Nat}
    (inside : length ≤ chars.length)
    (same : chars.take length ++ List.replicate nulls 0 = chars ++ List.replicate zeros 0) :
    length = chars.length ∧ nulls = zeros := by
  have whole : length = chars.length := by
    by_contra cut
    have nonempty : chars ≠ [] := by
      rintro rfl
      exact cut (Nat.le_zero.mp inside)
    have positive := length_pos_iff.mpr nonempty
    have last := congrArg (fun bytes => bytes[chars.length - 1]?) same
    have takeLength : (chars.take length).length = length := by
      rw [length_take, Nat.min_eq_left inside]
    rw [List.getElem?_append_right (by omega), List.getElem?_append_left (by omega),
      ← List.getLast?_eq_getElem?, List.getLast?_eq_some_getLast nonempty,
      List.getElem?_replicate] at last
    split at last
    · exact scans.getLast_ne_zero nonempty (Option.some.inj last).symm
    · contradiction
  refine ⟨whole, ?_⟩
  have lengths := congrArg List.length same
  rw [whole, take_length, List.length_append, List.length_append, length_replicate,
    length_replicate] at lengths
  omega

/-! ## The scanning readers -/

namespace StaticStringParser

/-- The terminators that a loop has not read, by the size of the content. -/
def leftFor (capacity terminationLength taken size : Nat) : Nat :=
  if sizeMinusOne capacity = size then terminationLength
  else ((capacity - size) % 2 ^ 32 + (terminationLength + 2 ^ 32 - taken)) % 2 ^ 32

theorem nullsLeft_eq (str : EtlString capacity) (terminationLength taken : Nat) :
    nullsLeft str terminationLength taken =
      leftFor capacity terminationLength taken str.elements.length :=
  rfl

/-- The zero bytes behind the content that a reader consumes, where its loop stops behind
`stop` of them. -/
def Padded (capacity terminationLength stop taken size nulls : Nat) : Prop :=
  (size = sizeMinusOne capacity ∧ nulls = leftFor capacity terminationLength taken size) ∨
    (size < sizeMinusOne capacity ∧
      nulls = stop + leftFor capacity terminationLength taken size)

section Forward

variable {chars rest : List UInt8} {parser : SomeIpParser} {terminationLength nulls : Nat}

/-- The terminators that the loop has not read are skipped. -/
theorem skip_forward {result : SomeIpParser × EtlString capacity} {front : List UInt8}
    {taken : Nat} (elements : result.2.elements = chars)
    (reads : Reads parser result.1 front
      (List.replicate (leftFor capacity terminationLength taken chars.length) 0 ++ rest)) :
    Reads parser (readAndSkipNulls result.1 result.2
        (nullsLeft result.2 terminationLength taken)).1
        (front ++ List.replicate (leftFor capacity terminationLength taken chars.length) 0)
        rest ∧
      (readAndSkipNulls result.1 result.2
        (nullsLeft result.2 terminationLength taken)).2.elements = chars := by
  rw [nullsLeft_eq, elements]
  have skipped : (readAndSkipNullsFrom result.2 _ result.1 0).2 = result.2 ∧ _ :=
    readAndSkipNullsFrom_forward reads.good reads.available
  obtain ⟨same, readsNulls⟩ := skipped
  exact ⟨reads.trans readsNulls, (congrArg EtlVector.elements same).trans elements⟩

theorem readUtf8Bytes_forward (nonzero : 0 ∉ chars) (fits : chars.length ≤ capacity)
    (good : parser.isGood = true)
    (available : parser.available = chars ++ List.replicate nulls 0 ++ rest)
    (padded : Padded capacity terminationLength 1 2 chars.length nulls) :
    Reads parser (readUtf8Bytes parser (.empty : EtlString capacity) terminationLength).1
        (chars ++ List.replicate nulls 0) rest ∧
      (readUtf8Bytes parser (.empty : EtlString capacity) terminationLength).2.elements =
        chars := by
  have takeAll : (([] : List UInt8) ++ chars).take capacity = chars :=
    take_of_length_le fits
  rw [readUtf8Bytes]
  rcases padded with ⟨full, nullsEq⟩ | ⟨notFull, nullsEq⟩
  · rw [append_assoc] at available
    have loop : _ ∧ (readUtf8Chars chars.length parser 0
        (.empty : EtlString capacity)).2.elements = _ :=
      readUtf8Chars_exhausted good available nonzero
    rw [full] at loop
    obtain ⟨reads, elements⟩ := loop
    have content := elements.trans takeAll
    rw [nullsEq] at reads ⊢
    exact skip_forward content reads
  · rw [nullsEq, Nat.add_comm, replicate_succ, ← singleton_append,
      ← append_assoc, append_assoc _ _ rest] at available
    have loop : _ ∧ (readUtf8Chars (sizeMinusOne capacity) parser 0
        (.empty : EtlString capacity)).2.elements = _ :=
      readUtf8Chars_stopped good available nonzero notFull
    obtain ⟨reads, elements⟩ := loop
    have content := elements.trans takeAll
    rw [nullsEq, Nat.add_comm, replicate_succ, ← singleton_append,
      ← append_assoc]
    exact skip_forward content reads

theorem readUtf16Bytes_forward (scans : Scans chars) (fits : chars.length ≤ capacity)
    (good : parser.isGood = true)
    (available : parser.available = chars ++ List.replicate nulls 0 ++ rest)
    (padded : Padded capacity terminationLength 2 3 chars.length nulls) :
    Reads parser (readUtf16Bytes parser (.empty : EtlString capacity) terminationLength).1
        (chars ++ List.replicate nulls 0) rest ∧
      (readUtf16Bytes parser (.empty : EtlString capacity) terminationLength).2.elements =
        chars := by
  have takeAll : (([] : List UInt8) ++ chars).take capacity = chars :=
    take_of_length_le fits
  rw [readUtf16Bytes]
  rcases padded with ⟨full, nullsEq⟩ | ⟨notFull, nullsEq⟩
  · rw [append_assoc] at available
    have loop : _ ∧ (readUtf16Chars chars.length false parser 0 0
        (.empty : EtlString capacity)).2.elements = _ :=
      readUtf16Chars_exhausted scans good available
    rw [full] at loop
    obtain ⟨reads, elements⟩ := loop
    have content := elements.trans takeAll
    rw [nullsEq] at reads ⊢
    exact skip_forward content reads
  · rw [nullsEq, replicate_add, ← append_assoc, append_assoc _ _ rest]
      at available
    have loop : _ ∧ (readUtf16Chars (sizeMinusOne capacity) false parser 0 0
        (.empty : EtlString capacity)).2.elements = _ :=
      readUtf16Chars_stopped scans good available notFull
    obtain ⟨reads, elements⟩ := loop
    have content := elements.trans takeAll
    rw [nullsEq, replicate_add, ← append_assoc]
    exact skip_forward content reads

end Forward

section Backward

variable {parser : SomeIpParser} {terminationLength : Nat}

/-- What a scanning loop and the zero bytes behind it have consumed, if nothing is left;
`extra` characters may be read in the last round. -/
def ConsumesAll (Accepts : List UInt8 → Prop)
    (capacity terminationLength extra stop taken : Nat) (bytes content : List UInt8) : Prop :=
  ∃ chars nulls, Accepts chars ∧ bytes = chars ++ List.replicate nulls 0 ∧
    content = chars.take capacity ∧
    ((sizeMinusOne capacity ≤ chars.length ∧ chars.length ≤ sizeMinusOne capacity + extra ∧
        nulls = leftFor capacity terminationLength taken content.length) ∨
      (chars.length < sizeMinusOne capacity ∧
        nulls = stop + leftFor capacity terminationLength taken content.length))

/-- Only zero bytes lie behind a loop if nothing is left. -/
theorem skip_backward {result : SomeIpParser × EtlString capacity} {nulls : Nat}
    (good : (readAndSkipNulls result.1 result.2 nulls).1.isGood = true)
    (nothing : (readAndSkipNulls result.1 result.2 nulls).1.available = []) :
    result.1.isGood = true ∧ result.1.available = List.replicate nulls 0 ∧
      (readAndSkipNulls result.1 result.2 nulls).2 = result.2 := by
  obtain ⟨before, rest, available⟩ := readAndSkipNullsFrom_backward good
  have skipped : (readAndSkipNullsFrom result.2 nulls result.1 0).2 = result.2 ∧ _ :=
    readAndSkipNullsFrom_forward before available
  obtain ⟨same, reads⟩ := skipped
  have restEq : rest = [] := reads.available.symm.trans nothing
  rw [restEq, append_nil] at available
  exact ⟨before, available, same⟩

theorem readUtf8Bytes_backward
    (good : (readUtf8Bytes parser (.empty : EtlString capacity) terminationLength).1.isGood =
      true)
    (nothing : (readUtf8Bytes parser (.empty : EtlString capacity)
      terminationLength).1.available = []) :
    ConsumesAll (0 ∉ ·) capacity terminationLength 0 1 2 parser.available
      (readUtf8Bytes parser (.empty : EtlString capacity) terminationLength).2.elements := by
  rw [readUtf8Bytes] at good nothing ⊢
  obtain ⟨goodLoop, zeros, same⟩ := skip_backward good nothing
  obtain ⟨-, chars, nonzero, cases, elements⟩ := readUtf8Chars_backward goodLoop
  rw [same]
  rw [zeros] at cases
  rcases cases with ⟨length, available⟩ | ⟨length, available⟩
  · refine ⟨chars, _, nonzero, available, elements, Or.inl ⟨?_, ?_, nullsLeft_eq ..⟩⟩
    · omega
    · omega
  · rw [← replicate_succ] at available
    refine ⟨chars, _, nonzero, available, elements, Or.inr ⟨length, ?_⟩⟩
    rw [nullsLeft_eq, Nat.add_comm]

theorem readUtf16Bytes_backward
    (good : (readUtf16Bytes parser (.empty : EtlString capacity) terminationLength).1.isGood =
      true)
    (nothing : (readUtf16Bytes parser (.empty : EtlString capacity)
      terminationLength).1.available = []) :
    ConsumesAll Scans capacity terminationLength 1 2 3 parser.available
      (readUtf16Bytes parser (.empty : EtlString capacity) terminationLength).2.elements := by
  rw [readUtf16Bytes] at good nothing ⊢
  obtain ⟨goodLoop, zeros, same⟩ := skip_backward good nothing
  obtain ⟨-, chars, scans, cases, elements⟩ := readUtf16Chars_backward goodLoop
  rw [same]
  rw [zeros] at cases
  rcases cases with ⟨least, most, available⟩ | ⟨length, available⟩
  · exact ⟨chars, _, scans, available, elements, Or.inl ⟨least, most, nullsLeft_eq ..⟩⟩
  · rw [← replicate_succ, ← replicate_succ] at available
    refine ⟨chars, _, scans, available, elements, Or.inr ⟨length, ?_⟩⟩
    rw [nullsLeft_eq, Nat.add_comm 2]

/-- A reader that returns the content has found its end. -/
theorem content_of_consumesAll {Accepts : List UInt8 → Prop} {extra stop taken length : Nat}
    {content : List UInt8} {nulls : Nat} (scans : ∀ chars, Accepts chars → Scans chars)
    (few : extra ≤ 1) (inside : length ≤ content.length)
    (consumes : ConsumesAll Accepts capacity terminationLength extra stop taken
      (content.take length ++ List.replicate nulls 0) content) :
    Accepts content ∧ length = content.length ∧
      ((sizeMinusOne capacity ≤ content.length ∧
          content.length ≤ sizeMinusOne capacity + extra ∧
          nulls = leftFor capacity terminationLength taken content.length) ∨
        (content.length < sizeMinusOne capacity ∧
          nulls = stop + leftFor capacity terminationLength taken content.length)) := by
  obtain ⟨chars, zeros, accepts, bytes, contentEq, cases⟩ := consumes
  have whole : content = chars := by
    by_cases none : capacity = 0
    · rw [none, take_zero] at contentEq
      rw [contentEq, length_nil, Nat.le_zero] at inside
      have front : chars.take 0 ++ List.replicate nulls 0 =
          chars ++ List.replicate zeros 0 := by
        rw [← bytes, contentEq, take_nil, take_zero]
      have ends := content_ends (scans chars accepts) (Nat.zero_le _) front
      rw [contentEq, eq_nil_of_length_eq_zero ends.1.symm]
    · have fits : chars.length ≤ capacity := by
        rw [sizeMinusOne, if_neg none] at cases
        omega
      rw [contentEq, take_of_length_le fits]
  subst whole
  obtain ⟨lengthEq, nullsEq⟩ := content_ends (scans content accepts) inside bytes
  rw [nullsEq]
  exact ⟨accepts, lengthEq, cases⟩

end Backward

end StaticStringParser

/-! ## Static strings -/

/-- A string is read back whatever the parser has consumed and whatever follows. -/
def RoundTrips (read : SomeIpParser → EtlString capacity → SomeIpParser × EtlString capacity)
    (str : EtlString capacity) (bytes : List UInt8) : Prop :=
  ∀ (parser : SomeIpParser) (obj : EtlString capacity) (rest : List UInt8),
    parser.isGood = true → parser.available = bytes ++ rest →
      Reads parser (read parser obj).1 bytes rest ∧ (read parser obj).2 = str

variable {str : EtlString capacity} {encoding : Encoding} {tail : List UInt8}

theorem writes_static {serializer : SomeIpSerializer}
    (good : (StaticStringSerializer.writeString serializer str encoding).isGood = true) :
    Writes serializer (StaticStringSerializer.writeString serializer str encoding)
      (stringBytes str encoding (StaticStringSerializer.paddingLength str encoding)) := by
  rw [StaticStringSerializer.writeString] at good ⊢
  by_cases bad : (!serializer.isGood) = true
  · rw [if_pos bad] at good
    rw [good] at bad
    contradiction
  · rw [if_neg bad] at good ⊢
    exact writes_stringBytes good

namespace StaticStringParser

/-- The bytes that the parser asks for. -/
def wantedLength (capacity : Nat) (encoding : Encoding) : Nat :=
  (sizeMinusOne (encodingLength encoding + capacity) + terminationLength encoding) % 2 ^ 64

/-- The reader of an encoding. -/
def readBytes (parser : SomeIpParser) (encoding : Encoding) :
    SomeIpParser × EtlString capacity :=
  if encoding = .SOMEIP_ENCODING_UTF8 then
    readUtf8Bytes parser .empty (terminationLength encoding)
  else readUtf16Bytes parser .empty (terminationLength encoding)

theorem readString_short (parser : SomeIpParser) (obj : EtlString capacity)
    (good : parser.isGood = true)
    (short : parser.available.length < wantedLength capacity encoding) :
    (readString parser obj encoding).1.isGood = false := by
  have notBad : ¬(!parser.isGood) = true := by
    rw [good]
    exact Bool.false_ne_true
  rw [readString, if_neg notBad]
  exact congrArg (fun result : SomeIpParser × EtlString capacity => result.1.isGood)
    (if_pos short)

/-- Behind the byte order mark the reader of the encoding decides. -/
theorem readString_enough (parser : SomeIpParser) (obj : EtlString capacity)
    (good : parser.isGood = true) (available : parser.available = mark encoding ++ tail)
    (enough : wantedLength capacity encoding ≤ parser.available.length) :
    ∃ behind, Reads parser behind (mark encoding) tail ∧
      readString parser obj encoding = readBytes behind encoding := by
  obtain ⟨found, reads⟩ := parseBom_forward good available
  refine ⟨_, reads, ?_⟩
  have notBad : ¬(!parser.isGood) = true := by
    rw [good]
    exact Bool.false_ne_true
  have notMissing : ¬(!(parseBom parser (bom encoding) (encodingLength encoding)).2) = true := by
    rw [found]
    exact Bool.false_ne_true
  rw [readString, if_neg notBad]
  refine (if_neg (Nat.not_lt.mpr enough)).trans ?_
  dsimp only
  rw [if_neg notMissing, readBytes]

/-- A scanning reader reads back content that it accepts, behind the byte order mark. -/
theorem readString_forward {nulls : Nat}
    (reader : ∀ (parser : SomeIpParser) (rest : List UInt8), parser.isGood = true →
      parser.available = str.elements ++ List.replicate nulls 0 ++ rest →
      Reads parser (readBytes parser encoding : SomeIpParser × EtlString capacity).1
          (str.elements ++ List.replicate nulls 0) rest ∧
        (readBytes parser encoding : SomeIpParser × EtlString capacity).2.elements =
          str.elements)
    (enough : wantedLength capacity encoding ≤
      encodingLength encoding + str.elements.length + nulls) :
    RoundTrips (readString · · encoding) str
      (mark encoding ++ (str.elements ++ List.replicate nulls 0)) := by
  intro parser obj rest good available
  rw [append_assoc] at available
  have length : wantedLength capacity encoding ≤ parser.available.length := by
    rw [available, List.length_append, List.length_append, List.length_append, length_mark,
      length_replicate]
    omega
  obtain ⟨behind, readsMark, readEq⟩ := readString_enough parser obj good available length
  obtain ⟨reads, elements⟩ := reader behind rest readsMark.good readsMark.available
  dsimp only
  rw [readEq]
  exact ⟨readsMark.trans reads, EtlVector.ext elements⟩

/-- What is read back with nothing behind it. -/
theorem readString_backward
    (trips : RoundTrips (readString · · encoding) str (mark encoding ++ tail)) :
    wantedLength capacity encoding ≤ encodingLength encoding + tail.length ∧
      ∃ behind : SomeIpParser, behind.available = tail ∧
        (readBytes behind encoding : SomeIpParser × EtlString capacity).1.isGood = true ∧
        (readBytes behind encoding : SomeIpParser × EtlString capacity).1.available = [] ∧
        (readBytes behind encoding : SomeIpParser × EtlString capacity).2 = str := by
  obtain ⟨reads, value⟩ := trips { available := mark encoding ++ tail } .empty [] rfl
    (append_nil _).symm
  have enough : wantedLength capacity encoding ≤ (mark encoding ++ tail).length := by
    by_contra short
    have failed := readString_short { available := mark encoding ++ tail }
      (.empty : EtlString capacity) rfl (Nat.lt_of_not_le short)
    have good := reads.good
    dsimp only at good
    rw [failed] at good
    contradiction
  obtain ⟨behind, readsMark, readEq⟩ :=
    readString_enough { available := mark encoding ++ tail } (.empty : EtlString capacity) rfl rfl
      enough
  dsimp only at reads value
  rw [readEq] at reads value
  refine ⟨?_, behind, readsMark.available, reads.good, reads.available, value⟩
  rwa [List.length_append, length_mark] at enough

end StaticStringParser

/-! ## When a static string is read back -/

section Static

variable {str : EtlString capacity} {encoding : Encoding}

theorem terminationLength_le (encoding : Encoding) : terminationLength encoding ≤ 2 := by
  cases encoding <;> decide

theorem PaddingFits.paddingLength_eq (fits : PaddingFits str encoding) :
    StaticStringSerializer.paddingLength str encoding =
      capacity - str.elements.length - 1 + terminationLength encoding := by
  obtain ⟨shorter, -, padding⟩ := fits
  rw [StaticStringSerializer.paddingLength, sizeMinusOne, if_neg (by omega)]
  omega

/-- A string that is written with its byte order mark. -/
theorem stringBytes_known (known : encoding ≠ .SOMEIP_ENCODING_UNKNOWN) (nulls : Nat) :
    stringBytes str encoding nulls =
      mark encoding ++ (str.elements.take (str.elements.length % 2 ^ 32) ++
        List.replicate nulls 0) := by
  rw [stringBytes, if_neg known]

theorem PaddingFits.stringBytes_eq (fits : PaddingFits str encoding)
    (known : encoding ≠ .SOMEIP_ENCODING_UNKNOWN) (nulls : Nat) :
    stringBytes str encoding nulls =
      mark encoding ++ (str.elements ++ List.replicate nulls 0) := by
  rw [stringBytes_known known, Nat.mod_eq_of_lt fits.size, take_length]

theorem PaddingFits.enough (fits : PaddingFits str encoding) :
    StaticStringParser.wantedLength capacity encoding ≤
      encodingLength encoding + str.elements.length +
        StaticStringSerializer.paddingLength str encoding := by
  have equal := fits.paddingLength_eq
  obtain ⟨shorter, -, -⟩ := fits
  rw [equal, StaticStringParser.wantedLength, sizeMinusOne, if_neg (by omega)]
  omega

/-- The padding is what the reader for one zero byte skips. -/
theorem PaddingFits.padded_one (fits : PaddingFits str encoding)
    (one : terminationLength encoding = 1) :
    StaticStringParser.Padded capacity 1 1 2 str.elements.length
      (StaticStringSerializer.paddingLength str encoding) := by
  have equal := fits.paddingLength_eq
  obtain ⟨shorter, -, padding⟩ := fits
  rw [one] at equal padding
  rw [StaticStringParser.Padded, StaticStringParser.leftFor, sizeMinusOne,
    if_neg (by omega : capacity ≠ 0)]
  split
  · omega
  · omega

/-- The padding is what the reader for two zero bytes skips, if it has not one byte only. -/
theorem PaddingFits.padded_two (fits : PaddingFits str encoding)
    (notOne : terminationLength encoding = 0 → str.elements.length + 2 ≠ capacity) :
    StaticStringParser.Padded capacity (terminationLength encoding) 2 3 str.elements.length
      (StaticStringSerializer.paddingLength str encoding) := by
  have equal := fits.paddingLength_eq
  have least := terminationLength_le encoding
  obtain ⟨shorter, -, padding⟩ := fits
  rw [StaticStringParser.Padded, StaticStringParser.leftFor, sizeMinusOne,
    if_neg (by omega : capacity ≠ 0)]
  split
  · omega
  · omega

/-- What the reader for two zero bytes skips is the padding. -/
theorem paddingFits_of_two (small : capacity < 2 ^ 63)
    (whole : str.elements.length % 2 ^ 32 = str.elements.length)
    (enough : StaticStringParser.wantedLength capacity encoding ≤
      encodingLength encoding + (str.elements.length +
        StaticStringSerializer.paddingLength str encoding))
    (cases : (sizeMinusOne capacity ≤ str.elements.length ∧
        str.elements.length ≤ sizeMinusOne capacity + 1 ∧
        StaticStringSerializer.paddingLength str encoding =
          StaticStringParser.leftFor capacity (terminationLength encoding) 3
            str.elements.length) ∨
      (str.elements.length < sizeMinusOne capacity ∧
        StaticStringSerializer.paddingLength str encoding =
          2 + StaticStringParser.leftFor capacity (terminationLength encoding) 3
            str.elements.length)) :
    (PaddingFits str encoding ∧
        (terminationLength encoding = 0 → str.elements.length + 2 ≠ capacity)) ∨
      (capacity = 0 ∧ encoding = .SOMEIP_ENCODING_UTF8_NO_ZERO) := by
  have fits := str.fits
  have least := terminationLength_le encoding
  have shortMark : encodingLength encoding ≤ 3 := by cases encoding <;> decide
  rw [StaticStringParser.wantedLength, StaticStringSerializer.paddingLength] at enough
  rw [StaticStringSerializer.paddingLength, StaticStringParser.leftFor] at cases
  by_cases none : capacity = 0
  · right
    have size : str.elements.length = 0 := by omega
    rw [size, none] at enough cases
    refine ⟨none, ?_⟩
    cases encoding with
    | SOMEIP_ENCODING_UTF8_NO_ZERO => rfl
    | SOMEIP_ENCODING_NO_BOM_NO_ZERO =>
      simp [sizeMinusOne, encodingLength, terminationLength] at enough
    | _ => simp [sizeMinusOne, encodingLength, terminationLength] at enough cases
  · left
    have wide : encodingLength encoding + capacity ≠ 0 := by omega
    rw [sizeMinusOne, if_neg wide] at enough
    rw [sizeMinusOne, if_neg none] at cases
    by_cases full : capacity - str.elements.length = 0
    · rw [sizeMinusOne, if_pos full] at enough cases
      split at cases
      · omega
      · omega
    · rw [sizeMinusOne, if_neg full] at enough cases
      split at cases
      · exact ⟨⟨by omega, by omega, by omega⟩, by omega⟩
      · exact ⟨⟨by omega, by omega, by omega⟩, by omega⟩

/-- What the reader for one zero byte skips is the padding. -/
theorem paddingFits_of_one (small : capacity < 2 ^ 63)
    (whole : str.elements.length % 2 ^ 32 = str.elements.length)
    (enough : StaticStringParser.wantedLength capacity .SOMEIP_ENCODING_UTF8 ≤
      encodingLength .SOMEIP_ENCODING_UTF8 + (str.elements.length +
        StaticStringSerializer.paddingLength str .SOMEIP_ENCODING_UTF8))
    (cases : (sizeMinusOne capacity ≤ str.elements.length ∧
        str.elements.length ≤ sizeMinusOne capacity + 0 ∧
        StaticStringSerializer.paddingLength str .SOMEIP_ENCODING_UTF8 =
          StaticStringParser.leftFor capacity (terminationLength .SOMEIP_ENCODING_UTF8) 2
            str.elements.length) ∨
      (str.elements.length < sizeMinusOne capacity ∧
        StaticStringSerializer.paddingLength str .SOMEIP_ENCODING_UTF8 =
          1 + StaticStringParser.leftFor capacity (terminationLength .SOMEIP_ENCODING_UTF8) 2
            str.elements.length)) :
    PaddingFits str .SOMEIP_ENCODING_UTF8 := by
  have fits := str.fits
  have wide : encodingLength .SOMEIP_ENCODING_UTF8 + capacity ≠ 0 := by
    rw [encodingLength]
    omega
  rw [StaticStringParser.wantedLength, StaticStringSerializer.paddingLength, sizeMinusOne,
    if_neg wide, encodingLength, terminationLength] at enough
  rw [StaticStringSerializer.paddingLength, terminationLength] at cases
  by_cases none : capacity = 0
  · have size : str.elements.length = 0 := by omega
    rw [size, none] at cases
    simp [sizeMinusOne] at cases
    omega
  · have shorter : str.elements.length < capacity := by
      rw [sizeMinusOne, if_neg none] at cases
      omega
    rw [sizeMinusOne, if_neg (by omega)] at enough
    exact ⟨shorter, by omega, by rw [terminationLength]; omega⟩

open StaticStringParser in
/-- All encodings but one are read up to two zero bytes. -/
theorem static_two_iff (small : capacity < 2 ^ 63)
    (known : encoding ≠ .SOMEIP_ENCODING_UNKNOWN) (notUtf8 : encoding ≠ .SOMEIP_ENCODING_UTF8) :
    RoundTrips (readString · · encoding) str
        (stringBytes str encoding (StaticStringSerializer.paddingLength str encoding)) ↔
      (PaddingFits str encoding ∧ Scans str.elements ∧
        (terminationLength encoding = 0 → str.elements.length + 2 ≠ capacity)) ∨
      (capacity = 0 ∧ encoding = .SOMEIP_ENCODING_UTF8_NO_ZERO) := by
  have readerEq : ∀ parser : SomeIpParser,
      (readBytes parser encoding : SomeIpParser × EtlString capacity) =
        readUtf16Bytes parser .empty (terminationLength encoding) :=
    fun parser => if_neg notUtf8
  constructor
  · intro trips
    rw [stringBytes_known known] at trips
    obtain ⟨enough, behind, available, good, nothing, value⟩ := readString_backward trips
    rw [readerEq] at good nothing value
    have consumes := readUtf16Bytes_backward good nothing
    rw [available, value] at consumes
    obtain ⟨scans, whole, cases⟩ :=
      content_of_consumesAll (fun _ => id) (Nat.le_refl 1) (Nat.mod_le ..) consumes
    rw [whole, take_length, List.length_append, length_replicate] at enough
    rcases paddingFits_of_two small whole enough cases with ⟨fits, notOne⟩ | exotic
    · exact Or.inl ⟨fits, scans, notOne⟩
    · exact Or.inr exotic
  · rintro (⟨fits, scans, notOne⟩ | ⟨none, rfl⟩)
    · rw [fits.stringBytes_eq known]
      apply readString_forward _ fits.enough
      intro parser rest good available
      rw [readerEq]
      exact readUtf16Bytes_forward scans str.fits good available (fits.padded_two notOne)
    · have fits := str.fits
      have empty : str.elements = [] := eq_nil_of_length_eq_zero (by omega)
      have padding : StaticStringSerializer.paddingLength str .SOMEIP_ENCODING_UTF8_NO_ZERO =
          2 ^ 32 - 1 := by
        rw [StaticStringSerializer.paddingLength, empty, none]
        rfl
      rw [stringBytes_known known, empty, take_nil]
      rw [show ([] : List UInt8) = str.elements from empty.symm]
      apply readString_forward
      · intro parser rest good available
        rw [readerEq]
        apply readUtf16Bytes_forward _ str.fits good available
        · refine Or.inr ⟨?_, ?_⟩
          · rw [empty, none]
            decide
          · rw [padding, empty, none]
            decide
        · rw [empty]
          exact .nil
      · rw [padding, empty, none]
        decide

open StaticStringParser in
/-- UTF-8 is read up to one zero byte. -/
theorem static_one_iff (small : capacity < 2 ^ 63) :
    RoundTrips (readString · · .SOMEIP_ENCODING_UTF8) str
        (stringBytes str .SOMEIP_ENCODING_UTF8
          (StaticStringSerializer.paddingLength str .SOMEIP_ENCODING_UTF8)) ↔
      PaddingFits str .SOMEIP_ENCODING_UTF8 ∧ 0 ∉ str.elements := by
  have known : Encoding.SOMEIP_ENCODING_UTF8 ≠ .SOMEIP_ENCODING_UNKNOWN := by decide
  constructor
  · intro trips
    rw [stringBytes_known known] at trips
    obtain ⟨enough, behind, available, good, nothing, value⟩ := readString_backward trips
    have consumes := readUtf8Bytes_backward good nothing
    rw [available] at consumes
    have valueEq := congrArg EtlVector.elements value
    change (readUtf8Bytes behind .empty _).2.elements = _ at valueEq
    rw [valueEq] at consumes
    obtain ⟨nonzero, whole, cases⟩ :=
      content_of_consumesAll (fun _ => scans_of_nonzero) (Nat.zero_le 1) (Nat.mod_le ..) consumes
    rw [whole, take_length, List.length_append, length_replicate] at enough
    exact ⟨paddingFits_of_one small whole enough cases, nonzero⟩
  · rintro ⟨fits, nonzero⟩
    rw [fits.stringBytes_eq known]
    apply readString_forward _ fits.enough
    intro parser rest good available
    exact readUtf8Bytes_forward nonzero str.fits good available (fits.padded_one rfl)

open StaticStringParser in
/-- Without an encoding nothing is written. -/
theorem static_unknown_iff (small : capacity < 2 ^ 63) (nulls : Nat) :
    RoundTrips (readString · · .SOMEIP_ENCODING_UNKNOWN) str
        (stringBytes str .SOMEIP_ENCODING_UNKNOWN nulls) ↔
      capacity = 1 ∧ str.elements = [] := by
  have bytesEq : stringBytes str .SOMEIP_ENCODING_UNKNOWN nulls =
      mark .SOMEIP_ENCODING_UNKNOWN ++ [] := by
    rw [stringBytes, if_pos rfl]
    rfl
  constructor
  · intro trips
    rw [bytesEq] at trips
    obtain ⟨enough, behind, available, good, nothing, value⟩ := readString_backward trips
    obtain ⟨chars, zeros, -, bytes, elements, -⟩ := readUtf16Bytes_backward good nothing
    have valueEq := congrArg EtlVector.elements value
    change (readUtf16Bytes behind .empty _).2.elements = _ at valueEq
    have nothingRead : chars = [] := by
      rw [available] at bytes
      exact (append_eq_nil_iff.mp bytes.symm).1
    constructor
    · rw [wantedLength, encodingLength, terminationLength, Nat.zero_add, sizeMinusOne]
        at enough
      split at enough
      · contradiction
      · rw [length_nil] at enough
        omega
    · rw [← valueEq, elements, nothingRead, take_nil]
  · rintro ⟨rfl, empty⟩
    have trips : RoundTrips (readString · · .SOMEIP_ENCODING_UNKNOWN) str
        (mark .SOMEIP_ENCODING_UNKNOWN ++ (str.elements ++ List.replicate 0 0)) := by
      apply readString_forward
      · intro parser rest good available
        apply readUtf16Bytes_forward _ str.fits good available
        · rw [empty]
          exact Or.inl ⟨rfl, rfl⟩
        · rw [empty]
          exact .nil
      · exact Nat.zero_le _
    rw [empty] at trips
    rw [bytesEq]
    exact trips

/-- When a static string is read back, for every encoding. -/
theorem static_iff (small : capacity < 2 ^ 63) (encoding : Encoding) :
    RoundTrips (StaticStringParser.readString · · encoding) str
        (stringBytes str encoding (StaticStringSerializer.paddingLength str encoding)) ↔
      StaticallyReadable str encoding := by
  cases encoding with
  | SOMEIP_ENCODING_UNKNOWN => exact static_unknown_iff small _
  | SOMEIP_ENCODING_UTF8 => exact static_one_iff small
  | _ =>
    rw [static_two_iff small (by decide) (by decide), StaticallyReadable]
    simp [terminationLength]

end Static

/-! ## Dynamic strings -/

section Dynamic

variable {lengthType : LengthType} {str : EtlString capacity} {encoding : Encoding}

/-- What `DynamicStringSerializer` writes. -/
def dynamicBytes (lengthType : LengthType) (str : EtlString capacity) (encoding : Encoding) :
    List UInt8 :=
  let content := stringBytes str encoding (terminationLength encoding)
  bigEndian lengthType.size (content.length % 256 ^ lengthType.size) ++ content

theorem writes_dynamic {serializer : SomeIpSerializer}
    (good : (DynamicStringSerializer.writeString lengthType serializer str encoding).isGood =
      true) :
    Writes serializer (DynamicStringSerializer.writeString lengthType serializer str encoding)
      (dynamicBytes lengthType str encoding) := by
  rw [DynamicStringSerializer.writeString] at good ⊢
  by_cases bad : (!serializer.isGood) = true
  · rw [if_pos bad] at good
    rw [good] at bad
    contradiction
  · rw [if_neg bad] at good ⊢
    rw [Bool.not_eq_true, Bool.not_eq_false'] at bad
    rcases LengthSerializerHelper.construct_cases lengthType serializer with
      ⟨absent, failed⟩ | ⟨room, construct⟩
    · simp only [LengthSerializerHelper.destruct, absent] at good
      have contrary := (writes_stringBytes good).good
      rw [failed] at contrary
      contradiction
    · simp only [construct] at good ⊢
      have content := writes_stringBytes good
      have fieldSize : (serializer.free.take lengthType.size).length = lengthType.size := by
        rw [length_take, Nat.min_eq_left room]
      have filled := LengthSerializerHelper.destruct_written fieldSize content.written
      refine ⟨bad, ?_, ?_, ?_⟩
      · have fits := content.fits
        rw [length_drop] at fits
        rw [dynamicBytes, List.length_append, length_bigEndian]
        omega
      · rw [dynamicBytes, ← append_assoc]
        exact congrArg SomeIpSerializer.written filled
      · refine (congrArg SomeIpSerializer.free filled).trans ?_
        refine content.free.trans ?_
        rw [drop_drop, dynamicBytes, List.length_append, length_bigEndian]

namespace DynamicStringParser

/-- The characters that a length announces. -/
def usefulBytes (encoding : Encoding) (numBytes : Nat) : Nat :=
  (numBytes + 2 ^ 32 - encodingLength encoding + 2 ^ 32 - terminationLength encoding) % 2 ^ 32

/-- A length of zero bytes ends the parser. -/
theorem readString_cases (parser : SomeIpParser) (obj : EtlString capacity)
    (encoding : Encoding) {content rest : List UInt8} (good : parser.isGood = true)
    (available : parser.available = bigEndian lengthType.size
      (content.length % 256 ^ lengthType.size) ++ content ++ rest) :
    ∃ behind, Reads parser behind (bigEndian lengthType.size
        (content.length % 256 ^ lengthType.size)) (content ++ rest) ∧
      readString lengthType parser obj encoding =
        if content.length % 256 ^ lengthType.size = 0 then (behind, .empty)
        else parseStringBytes behind .empty encoding
          (content.length % 256 ^ lengthType.size) := by
  have least : content.length % 256 ^ lengthType.size ≤ content.length := Nat.mod_le ..
  have small : content.length % 256 ^ lengthType.size < 256 ^ lengthType.size :=
    Nat.mod_lt _ (by positivity)
  rw [append_assoc] at available
  have field : parser.available.take lengthType.size =
      bigEndian lengthType.size (content.length % 256 ^ lengthType.size) := by
    rw [available, take_left' (length_bigEndian ..)]
  have number : ofBigEndian (parser.available.take lengthType.size) =
      content.length % 256 ^ lengthType.size := by
    rw [field, ofBigEndian_bigEndian small]
  have lengths : parser.available.length =
      lengthType.size + (content.length + rest.length) := by
    rw [available, List.length_append, List.length_append, length_bigEndian]
  have usable : LengthUsable lengthType parser := ⟨good, by omega, by rw [number]; omega⟩
  have notBad : ¬(!parser.isGood) = true := by
    rw [good]
    exact Bool.false_ne_true
  refine ⟨parser.bigEndian.advance lengthType.size, ⟨good, ?_, ?_⟩, ?_⟩
  · exact congrArg (parser.consumed ++ ·) field
  · change parser.available.drop lengthType.size = _
    rw [available, drop_left' (length_bigEndian ..)]
  · rw [readString, if_neg notBad, LengthParserHelper.parseLength_usable usable]
    dsimp only
    rw [number]

theorem parseStringBytes_mark (capacity : Nat) {parser : SomeIpParser} {tail : List UInt8}
    (numBytes : Nat)
    (good : parser.isGood = true) (available : parser.available = mark encoding ++ tail) :
    ∃ behind, Reads parser behind (mark encoding) tail ∧
      parseStringBytes parser (.empty : EtlString capacity) encoding numBytes =
        if capacity ≤ usefulBytes encoding numBytes then (behind.setFailure, .empty)
        else
          let result := readChars (usefulBytes encoding numBytes) behind 0 .empty
          readAndSkipNulls result.1 result.2 (terminationLength encoding) := by
  obtain ⟨found, reads⟩ := parseBom_forward good available
  refine ⟨_, reads, ?_⟩
  have notMissing : ¬(!(parseBom parser (bom encoding) (encodingLength encoding)).2) = true := by
    rw [found]
    exact Bool.false_ne_true
  rw [parseStringBytes, if_neg notMissing]
  rfl

theorem parseStringBytes_forward {parser : SomeIpParser} {rest : List UInt8} {numBytes : Nat}
    (good : parser.isGood = true)
    (available : parser.available = mark encoding ++ (str.elements ++
      List.replicate (terminationLength encoding) 0) ++ rest)
    (useful : usefulBytes encoding numBytes = str.elements.length)
    (shorter : str.elements.length < capacity) :
    Reads parser (parseStringBytes parser (.empty : EtlString capacity) encoding numBytes).1
        (mark encoding ++ (str.elements ++ List.replicate (terminationLength encoding) 0))
        rest ∧
      (parseStringBytes parser (.empty : EtlString capacity) encoding numBytes).2 = str := by
  rw [append_assoc] at available
  obtain ⟨behind, readsMark, parseEq⟩ :=
    parseStringBytes_mark capacity numBytes good available
  rw [useful, if_neg (Nat.not_le.mpr shorter)] at parseEq
  have behindEq := readsMark.available
  rw [append_assoc] at behindEq
  have loop : _ ∧ (readChars str.elements.length behind 0
      (.empty : EtlString capacity)).2.elements = _ :=
    readChars_forward readsMark.good behindEq
  obtain ⟨reads, elements⟩ := loop
  have content := elements.trans (take_of_length_le str.fits)
  have skipped : (readAndSkipNullsFrom (readChars str.elements.length behind 0
      (.empty : EtlString capacity)).2 (terminationLength encoding) (readChars
        str.elements.length behind 0 (.empty : EtlString capacity)).1 0).2 = _ ∧ _ :=
    readAndSkipNullsFrom_forward reads.good reads.available
  obtain ⟨same, readsNulls⟩ := skipped
  rw [parseEq]
  exact ⟨readsMark.trans (reads.trans readsNulls), same.trans (EtlVector.ext content)⟩

/-- Where nothing is left, the length has announced the content. -/
theorem parseStringBytes_backward {parser : SomeIpParser} {numBytes : Nat}
    (goodBefore : parser.isGood = true) (available : parser.available = mark encoding ++ tail)
    (good : (parseStringBytes parser (.empty : EtlString capacity) encoding
      numBytes).1.isGood = true)
    (nothing : (parseStringBytes parser (.empty : EtlString capacity) encoding
      numBytes).1.available = [])
    (value : (parseStringBytes parser (.empty : EtlString capacity) encoding numBytes).2 = str) :
    str.elements.length < capacity ∧ usefulBytes encoding numBytes = str.elements.length ∧
      tail = str.elements ++ List.replicate (terminationLength encoding) 0 := by
  obtain ⟨behind, readsMark, parseEq⟩ :=
    parseStringBytes_mark capacity numBytes goodBefore available
  rw [parseEq] at good nothing value
  by_cases tooLong : capacity ≤ usefulBytes encoding numBytes
  · rw [if_pos tooLong] at good
    contradiction
  · rw [if_neg tooLong] at good nothing value
    dsimp only at good nothing value
    obtain ⟨goodLoop, zeros, same⟩ := StaticStringParser.skip_backward good nothing
    obtain ⟨-, chars, length, behindEq, elements⟩ := readChars_backward goodLoop
    have content : str.elements = chars := by
      have fits : (([] : List UInt8) ++ chars).length ≤ capacity := by
        change chars.length ≤ capacity
        omega
      rw [← value, same]
      exact elements.trans (take_of_length_le fits)
    rw [content, length]
    refine ⟨by omega, rfl, ?_⟩
    rw [← readsMark.available, behindEq, zeros]

end DynamicStringParser

theorem length_stringBytes (known : encoding ≠ .SOMEIP_ENCODING_UNKNOWN) (nulls : Nat) :
    (stringBytes str encoding nulls).length =
      encodingLength encoding + str.elements.length % 2 ^ 32 + nulls := by
  rw [stringBytes_known known, List.length_append, List.length_append, length_mark,
    length_take, length_replicate, Nat.min_eq_left (Nat.mod_le ..), Nat.add_assoc]

/-- The length field announces the content exactly if it is not truncated to less than
32 bits, or the sum has wrapped there already. -/
theorem usefulBytes_eq_iff (size : str.elements.length < 2 ^ 32)
    (notZero : countedLength str encoding % 256 ^ lengthType.size ≠ 0) :
    DynamicStringParser.usefulBytes encoding
        (countedLength str encoding % 256 ^ lengthType.size) = str.elements.length ↔
      countedLength str encoding < 256 ^ lengthType.size ∨
        2 ^ 32 < countedLength str encoding := by
  have least := terminationLength_le encoding
  have shortMark : encodingLength encoding ≤ 3 := by cases encoding <;> decide
  rw [DynamicStringParser.usefulBytes]
  rw [countedLength] at notZero ⊢
  cases lengthType with
  | uint8 =>
    rw [LengthType.size, pow_one] at notZero ⊢
    omega
  | uint16 =>
    rw [LengthType.size] at notZero ⊢
    norm_num at notZero ⊢
    omega
  | uint32 =>
    rw [LengthType.size] at notZero ⊢
    norm_num at notZero ⊢
    omega

/-- A length that is not truncated vanishes for no bytes only. -/
theorem countedLength_eq_zero (size : str.elements.length < 2 ^ 32)
    (fits : countedLength str encoding < 256 ^ lengthType.size ∨
      2 ^ 32 < countedLength str encoding)
    (zero : countedLength str encoding % 256 ^ lengthType.size = 0) :
    countedLength str encoding = 0 := by
  have least := terminationLength_le encoding
  have shortMark : encodingLength encoding ≤ 3 := by cases encoding <;> decide
  rw [countedLength] at fits zero ⊢
  cases lengthType with
  | uint8 =>
    rw [LengthType.size, pow_one] at fits zero
    omega
  | uint16 =>
    rw [LengthType.size] at fits zero
    norm_num at fits zero
    omega
  | uint32 =>
    rw [LengthType.size] at fits zero
    norm_num at fits zero
    omega

theorem stringBytes_eq_nil (known : encoding ≠ .SOMEIP_ENCODING_UNKNOWN)
    (nothing : stringBytes str encoding (terminationLength encoding) = []) :
    encoding = .SOMEIP_ENCODING_NO_BOM_NO_ZERO := by
  have length := congrArg List.length nothing
  rw [length_stringBytes known, length_nil] at length
  cases encoding with
  | SOMEIP_ENCODING_UNKNOWN => exact absurd rfl known
  | SOMEIP_ENCODING_NO_BOM_NO_ZERO => rfl
  | _ =>
    simp only [encodingLength, terminationLength] at length
    omega

namespace DynamicStringParser

/-- Nothing but the length field is read for an empty content. -/
theorem roundTrips_empty (empty : str.elements = [])
    (nothing : stringBytes str encoding (terminationLength encoding) = []) :
    RoundTrips (readString lengthType · · encoding) str (dynamicBytes lengthType str encoding) := by
  have bytesEq : dynamicBytes lengthType str encoding =
      bigEndian lengthType.size (([] : List UInt8).length % 256 ^ lengthType.size) ++ [] := by
    rw [dynamicBytes, nothing]
  intro parser obj rest good available
  rw [bytesEq] at available ⊢
  obtain ⟨behind, reads, readEq⟩ :=
    readString_cases parser obj encoding good available
  rw [length_nil, Nat.zero_mod, if_pos rfl] at readEq
  dsimp only
  rw [readEq, append_nil]
  exact ⟨reads, EtlVector.ext empty.symm⟩

end DynamicStringParser

/-- When a dynamic string is read back, for every length type and encoding. -/
theorem dynamic_iff (lengthType : LengthType) (str : EtlString capacity) (encoding : Encoding) :
    RoundTrips (DynamicStringParser.readString lengthType · · encoding) str
        (dynamicBytes lengthType str encoding) ↔
      DynamicallyReadable lengthType str encoding := by
  rw [DynamicallyReadable]
  constructor
  · intro trips
    have atStart : dynamicBytes lengthType str encoding =
        bigEndian lengthType.size ((stringBytes str encoding
          (terminationLength encoding)).length % 256 ^ lengthType.size) ++
        stringBytes str encoding (terminationLength encoding) ++ [] := by
      rw [dynamicBytes, append_nil]
    obtain ⟨reads, value⟩ := trips { available := dynamicBytes lengthType str encoding } .empty
      [] rfl (append_nil _).symm
    obtain ⟨behind, readsLength, readEq⟩ := DynamicStringParser.readString_cases
      { available := dynamicBytes lengthType str encoding } (.empty : EtlString capacity)
      encoding rfl atStart
    have behindEq := readsLength.available
    rw [append_nil] at behindEq
    dsimp only at reads value
    rw [readEq] at reads value
    by_cases zero : (stringBytes str encoding
        (terminationLength encoding)).length % 256 ^ lengthType.size = 0
    · rw [if_pos zero] at reads value
      have empty : str.elements = [] := congrArg EtlVector.elements value.symm
      have nothing := behindEq.symm.trans reads.available
      split
      · exact empty
      · rename_i known
        exact Or.inl ⟨stringBytes_eq_nil known nothing, empty⟩
    · have known : encoding ≠ .SOMEIP_ENCODING_UNKNOWN := by
        rintro rfl
        rw [stringBytes, if_pos rfl] at zero
        exact zero (Nat.zero_mod _)
      rw [if_neg zero] at reads value
      rw [stringBytes_known known] at behindEq
      obtain ⟨shorter, useful, -⟩ := DynamicStringParser.parseStringBytes_backward
        readsLength.good behindEq reads.good reads.available value
      have size : str.elements.length < 2 ^ 32 := by
        rw [← useful]
        exact Nat.mod_lt _ (by decide)
      have counted : (stringBytes str encoding (terminationLength encoding)).length =
          countedLength str encoding := by
        rw [length_stringBytes known, Nat.mod_eq_of_lt size, countedLength]
      rw [counted] at zero useful
      rw [if_neg known]
      exact Or.inr ⟨shorter, size, (usefulBytes_eq_iff size zero).mp useful⟩
  · intro readable
    split at readable
    · rename_i unknown
      apply DynamicStringParser.roundTrips_empty readable
      rw [stringBytes, if_pos unknown]
    · rename_i known
      rcases readable with ⟨rfl, empty⟩ | ⟨shorter, size, fits⟩
      · apply DynamicStringParser.roundTrips_empty empty
        rw [stringBytes_known known, empty, take_nil]
        rfl
      · have counted : (stringBytes str encoding (terminationLength encoding)).length =
            countedLength str encoding := by
          rw [length_stringBytes known, Nat.mod_eq_of_lt size, countedLength]
        by_cases zero : countedLength str encoding % 256 ^ lengthType.size = 0
        · have none := countedLength_eq_zero size fits zero
          apply DynamicStringParser.roundTrips_empty
          · apply eq_nil_of_length_eq_zero
            rw [countedLength] at none
            omega
          · exact eq_nil_of_length_eq_zero (counted.trans none)
        · intro parser obj rest good available
          obtain ⟨behind, readsLength, readEq⟩ :=
            DynamicStringParser.readString_cases parser obj encoding good available
          rw [counted, if_neg zero] at readEq
          have content : stringBytes str encoding (terminationLength encoding) =
              mark encoding ++ (str.elements ++
                List.replicate (terminationLength encoding) 0) := by
            rw [stringBytes_known known, Nat.mod_eq_of_lt size, take_length]
          rw [content] at readsLength
          obtain ⟨reads, value⟩ := DynamicStringParser.parseStringBytes_forward
            readsLength.good readsLength.available ((usefulBytes_eq_iff size zero).mpr fits)
            shorter
          dsimp only
          rw [readEq]
          refine ⟨?_, value⟩
          rw [dynamicBytes, content]
          exact readsLength.trans reads

end Dynamic

/-! ## Round trip -/

/-- What was written is read back exactly if the string is readable.  No object is larger
than half of the address space. -/
theorem string_roundTrip (small : capacity < 2 ^ 63) (str : EtlString capacity)
    (encoding : Encoding) (serializer : SomeIpSerializer) :
    ((StaticStringSerializer.writeString serializer str encoding).isGood = true →
      (RoundTrips (StaticStringParser.readString · · encoding) str
          ((StaticStringSerializer.writeString serializer str encoding).written.drop
            serializer.written.length) ↔
        StaticallyReadable str encoding)) ∧
    ∀ lengthType,
      (DynamicStringSerializer.writeString lengthType serializer str encoding).isGood = true →
      (RoundTrips (DynamicStringParser.readString lengthType · · encoding) str
          ((DynamicStringSerializer.writeString lengthType serializer str encoding).written.drop
            serializer.written.length) ↔
        DynamicallyReadable lengthType str encoding) := by
  constructor
  · intro good
    rw [(writes_static good).written, drop_left]
    exact static_iff small encoding
  · intro lengthType good
    rw [(writes_dynamic good).written, drop_left]
    exact dynamic_iff lengthType str encoding

namespace EtlString

/-- One character in big endian order. -/
def sample : EtlString 5 where
  elements := [0x00, 0x41]
  fits := by decide

theorem string_roundTrip_sample :
    RoundTrips (StaticStringParser.readString · · .SOMEIP_ENCODING_UTF16BE) sample
        ((StaticStringSerializer.writeString { free := List.replicate 8 0 } sample
          .SOMEIP_ENCODING_UTF16BE).written.drop 0) ∧
      RoundTrips (DynamicStringParser.readString .uint8 · · .SOMEIP_ENCODING_UTF16BE) sample
        ((DynamicStringSerializer.writeString .uint8 { free := List.replicate 8 0 } sample
          .SOMEIP_ENCODING_UTF16BE).written.drop 0) := by
  have both := string_roundTrip (by decide) sample .SOMEIP_ENCODING_UTF16BE
    { free := List.replicate 8 0 }
  constructor
  · apply (both.1 (by decide)).mpr
    refine ⟨⟨by decide, by decide, by decide⟩, ?_⟩
    exact .zero (by decide) .nil
  · apply (both.2 .uint8 (by decide)).mpr
    decide

/-- Content of whole characters, none of them zero. -/
def ValidUtf16 : List UInt8 → Prop
  | [] => True
  | [_] => False
  | first :: second :: rest => (first ≠ 0 ∨ second ≠ 0) ∧ ValidUtf16 rest

/-- The same character in little endian order. -/
def littleSample : EtlString 6 where
  elements := [0x41, 0x00]
  fits := by decide

/-- One character more than a length field of one byte can count, mark and terminator
included. -/
def longSample : EtlString 300 where
  elements := List.replicate 252 0x61
  fits := by
    rw [length_replicate]
    decide

-- The samples are evaluated.
set_option maxRecDepth 10000

/-- The second byte of a character is taken for the first one of the terminator, and a
length of 256 bytes is written as 0. -/
theorem not_string_roundTrip :
    (¬∀ (capacity : Nat) (str : EtlString capacity) (serializer : SomeIpSerializer),
      ValidUtf16 str.elements →
      (StaticStringSerializer.writeString serializer str .SOMEIP_ENCODING_UTF16LE).isGood =
        true →
      RoundTrips (StaticStringParser.readString · · .SOMEIP_ENCODING_UTF16LE) str
        ((StaticStringSerializer.writeString serializer str
          .SOMEIP_ENCODING_UTF16LE).written.drop serializer.written.length)) ∧
    ¬∀ (capacity : Nat) (str : EtlString capacity) (serializer : SomeIpSerializer),
      0 ∉ str.elements →
      (DynamicStringSerializer.writeString .uint8 serializer str
        .SOMEIP_ENCODING_UTF8).isGood = true →
      RoundTrips (DynamicStringParser.readString .uint8 · · .SOMEIP_ENCODING_UTF8) str
        ((DynamicStringSerializer.writeString .uint8 serializer str
          .SOMEIP_ENCODING_UTF8).written.drop serializer.written.length) := by
  constructor
  · intro always
    have trips := always 6 littleSample { free := List.replicate 16 0 }
      ⟨Or.inl (by decide), trivial⟩ (by decide)
    have value := (trips { available := [0xFF, 0xFE, 0x41, 0, 0, 0, 0, 0, 0] } .empty [] rfl
      (by decide)).2
    exact absurd (congrArg EtlVector.elements value) (by decide)
  · intro always
    have written : (DynamicStringSerializer.writeString .uint8
        { free := List.replicate 300 0 } longSample .SOMEIP_ENCODING_UTF8).isGood = true := by
      decide
    have trips := always 300 longSample { free := List.replicate 300 0 }
      (by decide) written
    rw [(writes_dynamic written).written, drop_left] at trips
    have readable := (dynamic_iff .uint8 longSample .SOMEIP_ENCODING_UTF8).mp trips
    exact absurd readable (by decide)

end EtlString

end OpenBsw.Someip
