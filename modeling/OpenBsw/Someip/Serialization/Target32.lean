import OpenBsw.Data.Word32
import OpenBsw.Someip.Serialization.EtlString
import OpenBsw.Transition.System

/-!
# The parser on a target of 32 bits

Where `size_t` has 32 bits the parser keeps a position in its buffer and compares and
moves it by additions that wrap.  Beside the state stand two records of what happened:
every move of the position, and for every loop that has ended the number of its rounds
and the capacity of the object it fills.
-/

namespace OpenBsw.Someip.Target32

open OpenBsw.Bytes EncodingHelper

/-- An object shares the address space with the parser, which takes more than 8 bytes. -/
abbrev Addressable (size : Nat) : Prop :=
  size + 8 < Word32.modulus

/-- The capacity of a string object. -/
abbrev Capacity := { capacity : Nat // Addressable capacity }

structure Move where
  before : Nat
  after : Nat
  wasGood : Bool
  deriving DecidableEq, Repr

/-- A loop that has ended; the capacity is 0 where it fills no object. -/
structure Loop where
  rounds : Nat
  capacity : Nat
  deriving DecidableEq, Repr

structure SomeIpParser where
  buffer : List UInt8
  addressable : Addressable buffer.length
  currentPos : Nat := 0
  isBigEndian : Bool := true
  isGood : Bool := true
  moves : List Move := []
  loops : List Loop := []

namespace SomeIpParser

def bytesAvailable (parser : SomeIpParser) : Nat :=
  Word32.sub parser.buffer.length parser.currentPos

def setFailure (parser : SomeIpParser) : SomeIpParser :=
  { parser with isGood := false }

def bigEndian (parser : SomeIpParser) : SomeIpParser :=
  { parser with isBigEndian := true }

def littleEndian (parser : SomeIpParser) : SomeIpParser :=
  { parser with isBigEndian := false }

/-- The comparison of `hasSpace`; its callers set the failure where it does not hold. -/
def hasSpace (parser : SomeIpParser) (length : Nat) : Bool :=
  Word32.add parser.currentPos length ≤ parser.buffer.length

def advance (parser : SomeIpParser) (length : Nat) : SomeIpParser :=
  { parser with
    currentPos := Word32.add parser.currentPos length
    moves := ⟨parser.currentPos, Word32.add parser.currentPos length, parser.isGood⟩ ::
      parser.moves }

/-- Record the end of a loop. -/
def ended (parser : SomeIpParser) (rounds capacity : Nat) : SomeIpParser :=
  { parser with loops := ⟨rounds, capacity⟩ :: parser.loops }

/-- A number of `size` bytes, which stays 0 where nothing is read. -/
def read (parser : SomeIpParser) (size : Nat) : SomeIpParser × Nat :=
  if parser.hasSpace size then
    if parser.isGood then
      (parser.advance size,
        ofStreamBytes parser.isBigEndian (slice parser.buffer parser.currentPos size))
    else (parser, 0)
  else (parser.setFailure, 0)

/-- A character, which keeps its value where nothing is read. -/
def readByte (parser : SomeIpParser) (item : UInt8) : SomeIpParser × UInt8 :=
  if parser.hasSpace 1 then
    if parser.isGood then (parser.advance 1, parser.buffer.getD parser.currentPos item)
    else (parser, item)
  else (parser.setFailure, item)

/-- Unlike reading, skipping does not ask whether the parser is good. -/
def skip (parser : SomeIpParser) (bytes : Nat) : SomeIpParser :=
  if parser.hasSpace bytes then parser.advance bytes else parser.setFailure

end SomeIpParser

/-- The upper four bits of a tag. -/
def wireType (tag : UInt16) : Nat :=
  tag.toNat >>> 12

/-- The size of a value that has no length field. -/
def fixedSize : (wireType : Nat) → Option Nat
  | 0 => some 1
  | 1 => some 2
  | 2 => some 4
  | 3 => some 8
  | _ => none

def skip (parser : SomeIpParser) (tag : UInt16) : SomeIpParser :=
  match fixedSize (wireType tag) with
  | some size => parser.skip size
  | none =>
    let length := parser.read 4
    length.1.skip length.2

def LengthParserHelper.parseLength (lengthType : LengthType) (parser : SomeIpParser) :
    SomeIpParser × Nat :=
  if !parser.isGood then (parser, 0)
  else
    let numBytes := parser.bigEndian.read lengthType.size
    if numBytes.1.bytesAvailable < numBytes.2 then (numBytes.1.setFailure, 0) else numBytes

/-! ## Dynamic arrays -/

namespace DynamicArrayParser

variable {T : Type}

/-- What the loop of `parse` leaves; there are no elements where it fails. -/
structure Elements (T : Type) (room : Nat) where
  parser : SomeIpParser
  obj : Option (EtlVector T room)
  rounds : Nat

/-- The loop of `parse`, where the vector has room for `room` more elements. -/
def readElements (read : SomeIpParser → SomeIpParser × T) (endPosition : Nat) :
    (room : Nat) → SomeIpParser → Elements T room
  | 0, parser =>
    if parser.currentPos < endPosition then ⟨parser.setFailure, none, 1⟩
    else ⟨parser, some .empty, 0⟩
  | room + 1, parser =>
    if parser.currentPos < endPosition then
      let element := read parser
      if !element.1.isGood then ⟨element.1, none, 1⟩
      else
        let rest := readElements read endPosition room element.1
        { parser := rest.parser
          obj := rest.obj.map fun obj =>
            { elements := element.2 :: obj.elements, fits := obj.room_succ }
          rounds := rest.rounds + 1 }
    else ⟨parser, some .empty, 0⟩

/-- What `parse` returns after the loop. -/
def finish (array : ArrayType) (result : Elements T array.capacity) :
    SomeIpParser × EtlVector T array.capacity :=
  let parser := result.parser.ended result.rounds array.capacity
  match result.obj with
  | none => (parser, .empty)
  | some obj =>
    if obj.elements.length < array.minLength then (parser.setFailure, .empty)
    else (parser, obj)

/-- `read` stands for the operator of the element type. -/
def parse (read : SomeIpParser → SomeIpParser × T) (array : ArrayType) (parser : SomeIpParser) :
    SomeIpParser × EtlVector T array.capacity :=
  let numBytes := LengthParserHelper.parseLength array.lengthType parser.bigEndian
  if !numBytes.1.isGood then (numBytes.1, .empty)
  else
    let parser := if array.isBigEndian then numBytes.1 else numBytes.1.littleEndian
    let endPosition := Word32.add parser.currentPos numBytes.2
    finish array (readElements read endPosition array.capacity parser)

end DynamicArrayParser

/-- The operator of an element type. -/
def readElement : (type : ElementType) → SomeIpParser → SomeIpParser × type.Value
  | .integer size => fun parser =>
    let value := parser.read size.bytes
    (value.1, BitVec.ofNat (8 * size.bytes) value.2)
  | .dynamicArray array element => fun parser =>
    DynamicArrayParser.parse (readElement element) array parser

/-! ## Strings -/

variable {capacity : Nat}

namespace StringParser

/-- The byte order mark, which has no bytes where the pointer to it is null. -/
def mark (encoding : Encoding) : List UInt8 :=
  (bom encoding).getD []

/-- What the loop of `parseBom` leaves. -/
structure Mark where
  parser : SomeIpParser
  found : Bool
  rounds : Nat

/-- The rounds of `parseBom` for the rest of the mark; `ch` is the character of the round
before. -/
def parseBomFrom : (rest : List UInt8) → SomeIpParser → (ch : UInt8) → Mark
  | [], parser, _ => ⟨parser, true, 0⟩
  | expected :: rest, parser, ch =>
    let item := parser.readByte ch
    if item.2 ≠ expected then ⟨item.1.setFailure, false, 1⟩
    else
      let later := parseBomFrom rest item.1 item.2
      { later with rounds := later.rounds + 1 }

def parseBom (parser : SomeIpParser) (encoding : Encoding) : SomeIpParser × Bool :=
  let result := parseBomFrom (mark encoding) parser 0
  (result.parser.ended result.rounds 0, result.found)

/-- What a loop over characters leaves. -/
structure Chars (capacity : Nat) where
  parser : SomeIpParser
  str : EtlString capacity
  rounds : Nat

/-- One round more. -/
def Chars.after (later : Chars capacity) : Chars capacity :=
  { later with rounds := later.rounds + 1 }

def readAndSkipNullsFrom (str : EtlString capacity) :
    (nulls : Nat) → SomeIpParser → (ch : UInt8) → Chars capacity
  | 0, parser, _ => ⟨parser, str, 0⟩
  | nulls + 1, parser, ch =>
    let item := parser.readByte ch
    if item.2 ≠ 0 then ⟨item.1.setFailure, .empty, 1⟩
    else (readAndSkipNullsFrom str nulls item.1 item.2).after

def readAndSkipNulls (parser : SomeIpParser) (str : EtlString capacity) (nulls : Nat) :
    SomeIpParser × EtlString capacity :=
  let result := readAndSkipNullsFrom str nulls parser 0
  (result.parser.ended result.rounds capacity, result.str)

end StringParser

open Target32.StringParser

namespace StaticStringParser

def readUtf8Chars : (rounds : Nat) → SomeIpParser → UInt8 → EtlString capacity → Chars capacity
  | 0, parser, _, str => ⟨parser, str, 0⟩
  | rounds + 1, parser, ch, str =>
    let item := parser.readByte ch
    if item.2 = 0 then ⟨item.1, str, 1⟩
    else (readUtf8Chars rounds item.1 item.2 (str.append item.2)).after

/-- The terminators that the loop has not read; `taken` is the constant of the reader. -/
def nullsLeft (str : EtlString capacity) (terminationLength taken : Nat) : Nat :=
  if Word32.sub capacity 1 = str.elements.length then terminationLength
  else
    Word32.add (Word32.sub capacity str.elements.length) (Word32.sub terminationLength taken)

/-- The terminators behind the characters. -/
def finish (result : Chars capacity) (terminationLength taken : Nat) :
    SomeIpParser × EtlString capacity :=
  readAndSkipNulls (result.parser.ended result.rounds capacity) result.str
    (nullsLeft result.str terminationLength taken)

def readUtf8Bytes (parser : SomeIpParser) (str : EtlString capacity) (terminationLength : Nat) :
    SomeIpParser × EtlString capacity :=
  finish (readUtf8Chars (Word32.sub capacity 1) parser 0 str) terminationLength 2

/-- A round is left out after two characters were read in one; `ch` and `ch2` are the
characters of the rounds before. -/
def readUtf16Chars : (rounds : Nat) → Bool → SomeIpParser → (ch ch2 : UInt8) →
    EtlString capacity → Chars capacity
  | 0, _, parser, _, _, str => ⟨parser, str, 0⟩
  | rounds + 1, true, parser, ch, ch2, str => readUtf16Chars rounds false parser ch ch2 str
  | rounds + 1, false, parser, ch, ch2, str =>
    let first := parser.readByte ch
    if first.2 = 0 then
      let second := first.1.readByte ch2
      if second.2 = 0 then ⟨second.1, str, 1⟩
      else
        (readUtf16Chars rounds true second.1 first.2 second.2
          ((str.append first.2).append second.2)).after
    else (readUtf16Chars rounds false first.1 first.2 ch2 (str.append first.2)).after

def readUtf16Bytes (parser : SomeIpParser) (str : EtlString capacity) (terminationLength : Nat) :
    SomeIpParser × EtlString capacity :=
  finish (readUtf16Chars (Word32.sub capacity 1) false parser 0 0 str) terminationLength 3

/-- The bytes that a string of this capacity takes, as `readString` has it. -/
def neededBytes (capacity : Nat) (encoding : Encoding) : Nat :=
  Word32.add (Word32.sub (Word32.add (encodingLength encoding) capacity) 1)
    (terminationLength encoding)

def readString (parser : SomeIpParser) (str : EtlString capacity) (encoding : Encoding) :
    SomeIpParser × EtlString capacity :=
  if !parser.isGood then (parser, str)
  else if parser.bytesAvailable < neededBytes capacity encoding then (parser.setFailure, .empty)
  else
    let mark := parseBom parser encoding
    if !mark.2 then (mark.1, .empty)
    else if encoding = .SOMEIP_ENCODING_UTF8 then
      readUtf8Bytes mark.1 .empty (terminationLength encoding)
    else readUtf16Bytes mark.1 .empty (terminationLength encoding)

end StaticStringParser

namespace DynamicStringParser

/-- The loop of `parseStringBytes`. -/
def readChars : (rounds : Nat) → SomeIpParser → UInt8 → EtlString capacity → Chars capacity
  | 0, parser, _, str => ⟨parser, str, 0⟩
  | rounds + 1, parser, ch, str =>
    let item := parser.readByte ch
    (readChars rounds item.1 item.2 (str.append item.2)).after

/-- The bytes between the byte order mark and the terminators. -/
def usefulBytes (encoding : Encoding) (numBytes : Nat) : Nat :=
  Word32.sub (Word32.sub numBytes (encodingLength encoding)) (terminationLength encoding)

def parseStringBytes (parser : SomeIpParser) (str : EtlString capacity) (encoding : Encoding)
    (numBytes : Nat) : SomeIpParser × EtlString capacity :=
  let mark := parseBom parser encoding
  if !mark.2 then (mark.1, str)
  else if capacity ≤ usefulBytes encoding numBytes then (mark.1.setFailure, str)
  else
    let result := readChars (usefulBytes encoding numBytes) mark.1 0 str
    readAndSkipNulls (result.parser.ended result.rounds capacity) result.str
      (terminationLength encoding)

def readString (lengthType : LengthType) (parser : SomeIpParser) (str : EtlString capacity)
    (encoding : Encoding) : SomeIpParser × EtlString capacity :=
  if !parser.isGood then (parser, str)
  else
    let numBytes := LengthParserHelper.parseLength lengthType parser
    if numBytes.2 = 0 then (numBytes.1, .empty)
    else parseStringBytes numBytes.1 .empty encoding numBytes.2

end DynamicStringParser

/-! ## Runs -/

inductive Operation
  | bigEndian
  | littleEndian
  | read (size : IntegerSize)
  | skipBytes (bytes : UInt32)
  | skipValue (tag : UInt16)
  | readArray (array : ArrayType) (element : ElementType)
  | readStaticString (capacity : Capacity) (encoding : Encoding)
  | readDynamicString (lengthType : LengthType) (capacity : Capacity) (encoding : Encoding)

/-- The parser after an operation; the values that were read do not matter for it. -/
def perform (parser : SomeIpParser) : Operation → Option SomeIpParser
  | .bigEndian => some parser.bigEndian
  | .littleEndian => some parser.littleEndian
  | .read size => some (parser.read size.bytes).1
  | .skipBytes bytes => some (parser.skip bytes.toNat)
  | .skipValue tag => some (skip parser tag)
  | .readArray array element =>
    some (DynamicArrayParser.parse (readElement element) array parser).1
  | .readStaticString capacity encoding =>
    let str : EtlString capacity := .empty
    some (StaticStringParser.readString parser str encoding).1
  | .readDynamicString lengthType capacity encoding =>
    let str : EtlString capacity := .empty
    some (DynamicStringParser.readString lengthType parser str encoding).1

end OpenBsw.Someip.Target32
