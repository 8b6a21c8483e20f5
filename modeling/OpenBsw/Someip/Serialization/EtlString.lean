import OpenBsw.Someip.Serialization.DynamicArray

/-!
# Strings

A string is written with a byte order mark and terminating zero bytes, either padded
to its capacity or behind a length field.  A static string is read up to its
terminator, by one loop for UTF-8 and by another for all other encodings; a dynamic one
is read by its length.  `uint32_t` wraps, and so does `size_t`.  This has 64 bits in the
model; the 32 bits of the target make no difference for strings and buffers of less than
half of its address space.
-/

namespace OpenBsw.Someip

inductive Encoding
  | SOMEIP_ENCODING_UNKNOWN
  | SOMEIP_ENCODING_UTF8
  | SOMEIP_ENCODING_UTF16LE
  | SOMEIP_ENCODING_UTF16BE
  | SOMEIP_ENCODING_UTF8_NO_ZERO
  | SOMEIP_ENCODING_NO_BOM_NO_ZERO
  | SOMEIP_ENCODING_NO_BOM
  deriving DecidableEq, Repr

namespace EncodingHelper

def encodingLength : Encoding → Nat
  | .SOMEIP_ENCODING_UTF8 => 3
  | .SOMEIP_ENCODING_UTF16LE => 2
  | .SOMEIP_ENCODING_UTF16BE => 2
  | .SOMEIP_ENCODING_UTF8_NO_ZERO => 3
  | .SOMEIP_ENCODING_NO_BOM_NO_ZERO => 0
  | .SOMEIP_ENCODING_NO_BOM => 0
  | .SOMEIP_ENCODING_UNKNOWN => 0

def terminationLength : Encoding → Nat
  | .SOMEIP_ENCODING_UTF8 => 1
  | .SOMEIP_ENCODING_UTF16LE => 2
  | .SOMEIP_ENCODING_UTF16BE => 2
  | .SOMEIP_ENCODING_UTF8_NO_ZERO => 0
  | .SOMEIP_ENCODING_NO_BOM_NO_ZERO => 0
  | .SOMEIP_ENCODING_NO_BOM => 1
  | .SOMEIP_ENCODING_UNKNOWN => 0

/-- The byte order mark, and none for the null pointer. -/
def bom : Encoding → Option (List UInt8)
  | .SOMEIP_ENCODING_UTF8 => some [0xEF, 0xBB, 0xBF]
  | .SOMEIP_ENCODING_UTF16LE => some [0xFF, 0xFE]
  | .SOMEIP_ENCODING_UTF16BE => some [0xFE, 0xFF]
  | .SOMEIP_ENCODING_UTF8_NO_ZERO => some [0xEF, 0xBB, 0xBF]
  | .SOMEIP_ENCODING_NO_BOM_NO_ZERO => some []
  | .SOMEIP_ENCODING_NO_BOM => some []
  | .SOMEIP_ENCODING_UNKNOWN => none

/-- A byte order mark is as long as it should be. -/
theorem length_bom {encoding : Encoding} {bytes : List UInt8} (some : bom encoding = .some bytes) :
    bytes.length = encodingLength encoding := by
  cases encoding <;> simp_all [bom, encodingLength] <;> subst some <;> rfl

end EncodingHelper

open EncodingHelper

/-- A string object with a capacity. -/
abbrev EtlString (capacity : Nat) := EtlVector UInt8 capacity

variable {capacity : Nat}

/-- One less, as `size_t` has it. -/
def sizeMinusOne (size : Nat) : Nat :=
  if size = 0 then 2 ^ 64 - 1 else size - 1

/-! ## Serializers -/

namespace StringSerializer

/-- A loop that writes one character after the other. -/
def writeChars (serializer : SomeIpSerializer) (chars : List UInt8) : SomeIpSerializer :=
  chars.foldl (fun serializer char => serializer.put [char]) serializer

def writeStringBytes (serializer : SomeIpSerializer) (str : EtlString capacity)
    (encoding : Encoding) (nulls : Nat) : SomeIpSerializer :=
  match bom encoding with
  | none => serializer
  | some bom =>
    let serializer := writeChars serializer (bom.take (encodingLength encoding))
    let length := str.elements.length % 2 ^ 32
    let serializer := writeChars serializer (str.elements.take length)
    writeChars serializer (List.replicate nulls 0)

end StringSerializer

namespace StaticStringSerializer

/-- The zero bytes behind the content. -/
def paddingLength (str : EtlString capacity) (encoding : Encoding) : Nat :=
  (sizeMinusOne (capacity - str.elements.length) % 2 ^ 32 + terminationLength encoding) % 2 ^ 32

def writeString (serializer : SomeIpSerializer) (str : EtlString capacity)
    (encoding : Encoding) : SomeIpSerializer :=
  if !serializer.isGood then serializer
  else StringSerializer.writeStringBytes serializer str encoding (paddingLength str encoding)

end StaticStringSerializer

namespace DynamicStringSerializer

def writeString (lengthType : LengthType) (serializer : SomeIpSerializer)
    (str : EtlString capacity) (encoding : Encoding) : SomeIpSerializer :=
  if !serializer.isGood then serializer
  else
    let helper := LengthSerializerHelper.construct lengthType serializer
    let nulls := terminationLength encoding
    helper.1.destruct lengthType
      (StringSerializer.writeStringBytes helper.2 str encoding nulls)

end DynamicStringSerializer

/-! ## Parsers -/

namespace StringParser

/-- The rounds of `parseBom` that are left, and the character of the round before. -/
def parseBomFrom (bom : Option (List UInt8)) (bomLength : Nat) :
    Nat → SomeIpParser → UInt8 → SomeIpParser × Bool
  | 0, parser, _ => (parser, true)
  | left + 1, parser, ch =>
    let item := parser.readByte ch
    if bom.any fun bytes => bytes[bomLength - (left + 1)]? ≠ some item.2 then
      (item.1.setFailure, false)
    else parseBomFrom bom bomLength left item.1 item.2

def parseBom (parser : SomeIpParser) (bom : Option (List UInt8)) (bomLength : Nat) :
    SomeIpParser × Bool :=
  parseBomFrom bom bomLength bomLength parser 0

def readAndSkipNullsFrom (str : EtlString capacity) :
    Nat → SomeIpParser → UInt8 → SomeIpParser × EtlString capacity
  | 0, parser, _ => (parser, str)
  | left + 1, parser, ch =>
    let item := parser.readByte ch
    if item.2 ≠ 0 then (item.1.setFailure, .empty)
    else readAndSkipNullsFrom str left item.1 item.2

def readAndSkipNulls (parser : SomeIpParser) (str : EtlString capacity) (nulls : Nat) :
    SomeIpParser × EtlString capacity :=
  readAndSkipNullsFrom str nulls parser 0

end StringParser

open StringParser

namespace StaticStringParser

def readUtf8Chars : Nat → SomeIpParser → UInt8 → EtlString capacity →
    SomeIpParser × EtlString capacity
  | 0, parser, _, str => (parser, str)
  | rounds + 1, parser, ch, str =>
    let item := parser.readByte ch
    if item.2 = 0 then (item.1, str)
    else readUtf8Chars rounds item.1 item.2 (str.append item.2)

/-- The terminators that the loop has not read; `taken` is the constant of the reader. -/
def nullsLeft (str : EtlString capacity) (terminationLength taken : Nat) : Nat :=
  if sizeMinusOne capacity = str.elements.length then terminationLength
  else ((capacity - str.elements.length) % 2 ^ 32 + (terminationLength + 2 ^ 32 - taken)) % 2 ^ 32

def readUtf8Bytes (parser : SomeIpParser) (str : EtlString capacity) (terminationLength : Nat) :
    SomeIpParser × EtlString capacity :=
  let result := readUtf8Chars (sizeMinusOne capacity) parser 0 str
  readAndSkipNulls result.1 result.2 (nullsLeft result.2 terminationLength 2)

/-- A round is left out after two characters were read in one; `ch` and `ch2` are the
characters of the rounds before. -/
def readUtf16Chars : Nat → Bool → SomeIpParser → UInt8 → UInt8 → EtlString capacity →
    SomeIpParser × EtlString capacity
  | 0, _, parser, _, _, str => (parser, str)
  | rounds + 1, true, parser, ch, ch2, str => readUtf16Chars rounds false parser ch ch2 str
  | rounds + 1, false, parser, ch, ch2, str =>
    let first := parser.readByte ch
    if first.2 = 0 then
      let second := first.1.readByte ch2
      if second.2 = 0 then (second.1, str)
      else
        readUtf16Chars rounds true second.1 first.2 second.2
          ((str.append first.2).append second.2)
    else readUtf16Chars rounds false first.1 first.2 ch2 (str.append first.2)

def readUtf16Bytes (parser : SomeIpParser) (str : EtlString capacity) (terminationLength : Nat) :
    SomeIpParser × EtlString capacity :=
  let result := readUtf16Chars (sizeMinusOne capacity) false parser 0 0 str
  readAndSkipNulls result.1 result.2 (nullsLeft result.2 terminationLength 3)

def readString (parser : SomeIpParser) (str : EtlString capacity) (encoding : Encoding) :
    SomeIpParser × EtlString capacity :=
  if !parser.isGood then (parser, str)
  else
    let bomLength := encodingLength encoding
    if parser.bytesAvailable <
        (sizeMinusOne (bomLength + capacity) + terminationLength encoding) % 2 ^ 64 then
      (parser.setFailure, .empty)
    else
      let mark := parseBom parser (bom encoding) bomLength
      if !mark.2 then (mark.1, .empty)
      else if encoding = .SOMEIP_ENCODING_UTF8 then
        readUtf8Bytes mark.1 .empty (terminationLength encoding)
      else readUtf16Bytes mark.1 .empty (terminationLength encoding)

end StaticStringParser

namespace DynamicStringParser

/-- The loop of `parseStringBytes`. -/
def readChars : Nat → SomeIpParser → UInt8 → EtlString capacity →
    SomeIpParser × EtlString capacity
  | 0, parser, _, str => (parser, str)
  | rounds + 1, parser, ch, str =>
    let item := parser.readByte ch
    readChars rounds item.1 item.2 (str.append item.2)

def parseStringBytes (parser : SomeIpParser) (str : EtlString capacity) (encoding : Encoding)
    (numBytes : Nat) : SomeIpParser × EtlString capacity :=
  let mark := parseBom parser (bom encoding) (encodingLength encoding)
  if !mark.2 then (mark.1, str)
  else
    let usefulBytes :=
      (numBytes + 2 ^ 32 - encodingLength encoding + 2 ^ 32 - terminationLength encoding) % 2 ^ 32
    if capacity ≤ usefulBytes then (mark.1.setFailure, str)
    else
      let result := readChars usefulBytes mark.1 0 str
      readAndSkipNulls result.1 result.2 (terminationLength encoding)

def readString (lengthType : LengthType) (parser : SomeIpParser) (str : EtlString capacity)
    (encoding : Encoding) : SomeIpParser × EtlString capacity :=
  if !parser.isGood then (parser, str)
  else
    let numBytes := LengthParserHelper.parseLength lengthType parser
    if numBytes.2 = 0 then (numBytes.1, .empty)
    else parseStringBytes numBytes.1 .empty encoding numBytes.2

end DynamicStringParser

end OpenBsw.Someip
