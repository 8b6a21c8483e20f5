import OpenBsw.Data.Bytes

/-!
# Parser and serializer of SOME/IP types

A stream works on a buffer, which is kept in two parts here: the bytes before the
current position and those after it.  A stream that has failed reads and writes
nothing, and stays failed.
-/

namespace OpenBsw.Someip

open OpenBsw.Bytes

/-- The unsigned type of a length field. -/
inductive LengthType
  | uint8
  | uint16
  | uint32
  deriving DecidableEq, Repr

def LengthType.size : LengthType → Nat
  | uint8 => 1
  | uint16 => 2
  | uint32 => 4

theorem LengthType.size_pos (lengthType : LengthType) : 0 < lengthType.size := by
  cases lengthType <;> decide

/-- The bytes of a number in the order of the stream. -/
def streamBytes (isBigEndian : Bool) (size value : Nat) : List UInt8 :=
  if isBigEndian then bigEndian size value else (bigEndian size value).reverse

def ofStreamBytes (isBigEndian : Bool) (bytes : List UInt8) : Nat :=
  ofBigEndian (if isBigEndian then bytes else bytes.reverse)

@[simp]
theorem length_streamBytes (isBigEndian : Bool) (size value : Nat) :
    (streamBytes isBigEndian size value).length = size := by
  rw [streamBytes]
  split <;> simp

theorem ofStreamBytes_streamBytes (isBigEndian : Bool) {size value : Nat}
    (small : value < 256 ^ size) :
    ofStreamBytes isBigEndian (streamBytes isBigEndian size value) = value := by
  cases isBigEndian with
  | true => exact ofBigEndian_bigEndian small
  | false =>
    simp only [ofStreamBytes, streamBytes, Bool.false_eq_true, if_false, List.reverse_reverse]
    exact ofBigEndian_bigEndian small

/-! ## Serializer -/

structure SomeIpSerializer where
  written : List UInt8 := []
  free : List UInt8
  isBigEndian : Bool := true
  isGood : Bool := true
  deriving DecidableEq, Repr

namespace SomeIpSerializer

def getCurrentPosition (serializer : SomeIpSerializer) : Nat :=
  serializer.written.length

def bytesAvailable (serializer : SomeIpSerializer) : Nat :=
  serializer.free.length

def setFailure (serializer : SomeIpSerializer) : SomeIpSerializer :=
  { serializer with isGood := false }

def bigEndian (serializer : SomeIpSerializer) : SomeIpSerializer :=
  { serializer with isBigEndian := true }

def littleEndian (serializer : SomeIpSerializer) : SomeIpSerializer :=
  { serializer with isBigEndian := false }

/-- Bytes at the current position; a lack of space is noticed in any case. -/
def put (serializer : SomeIpSerializer) (bytes : List UInt8) : SomeIpSerializer :=
  if serializer.free.length < bytes.length then serializer.setFailure
  else if serializer.isGood then
    { serializer with
      written := serializer.written ++ bytes
      free := serializer.free.drop bytes.length }
  else serializer

/-- A number of `size` bytes; `write_byte` is the case of one byte. -/
def write (serializer : SomeIpSerializer) (size value : Nat) : SomeIpSerializer :=
  serializer.put (streamBytes serializer.isBigEndian size value)

/-- The position of the bytes that were skipped, or none if there are too few. -/
def skipBytes (serializer : SomeIpSerializer) (length : Nat) : Option Nat × SomeIpSerializer :=
  if serializer.free.length < length then (none, serializer.setFailure)
  else
    (some serializer.written.length,
      { serializer with
        written := serializer.written ++ serializer.free.take length
        free := serializer.free.drop length })

end SomeIpSerializer

/-- The field that is filled with the number of bytes behind it when the helper goes
out of scope. -/
structure LengthSerializerHelper where
  lengthBuffer : Option Nat
  writingStartPos : Nat

namespace LengthSerializerHelper

def construct (lengthType : LengthType) (serializer : SomeIpSerializer) :
    LengthSerializerHelper × SomeIpSerializer :=
  let skipped := serializer.skipBytes lengthType.size
  ({ lengthBuffer := skipped.1, writingStartPos := skipped.2.getCurrentPosition }, skipped.2)

def destruct (helper : LengthSerializerHelper) (lengthType : LengthType)
    (serializer : SomeIpSerializer) : SomeIpSerializer :=
  match helper.lengthBuffer with
  | none => serializer
  | some position =>
    let totalBytesWritten := serializer.getCurrentPosition - helper.writingStartPos
    { serializer with
      written := overwrite serializer.written position
        (bigEndian lengthType.size (totalBytesWritten % 256 ^ lengthType.size)) }

end LengthSerializerHelper

/-! ## Parser -/

structure SomeIpParser where
  consumed : List UInt8 := []
  available : List UInt8
  isBigEndian : Bool := true
  isGood : Bool := true
  deriving DecidableEq, Repr

namespace SomeIpParser

def getCurrentPosition (parser : SomeIpParser) : Nat :=
  parser.consumed.length

def bytesAvailable (parser : SomeIpParser) : Nat :=
  parser.available.length

def setFailure (parser : SomeIpParser) : SomeIpParser :=
  { parser with isGood := false }

def bigEndian (parser : SomeIpParser) : SomeIpParser :=
  { parser with isBigEndian := true }

def littleEndian (parser : SomeIpParser) : SomeIpParser :=
  { parser with isBigEndian := false }

/-- The parser behind the next bytes. -/
def advance (parser : SomeIpParser) (length : Nat) : SomeIpParser :=
  { parser with
    consumed := parser.consumed ++ parser.available.take length
    available := parser.available.drop length }

/-- A number of `size` bytes, which stays 0 where nothing is read; `read_byte` is the case
of one byte. -/
def read (parser : SomeIpParser) (size : Nat) : SomeIpParser × Nat :=
  if parser.available.length < size then (parser.setFailure, 0)
  else if parser.isGood then
    (parser.advance size, ofStreamBytes parser.isBigEndian (parser.available.take size))
  else (parser, 0)

/-- A character, which keeps its value where nothing is read. -/
def readByte (parser : SomeIpParser) (item : UInt8) : SomeIpParser × UInt8 :=
  match parser.available with
  | [] => (parser.setFailure, item)
  | byte :: _ => if parser.isGood then (parser.advance 1, byte) else (parser, item)

def skip (parser : SomeIpParser) (bytes : Nat) : SomeIpParser :=
  if parser.available.length < bytes then parser.setFailure else parser.advance bytes

end SomeIpParser

/-- The number in a length field, if that many bytes are available behind it. -/
def LengthParserHelper.parseLength (lengthType : LengthType) (parser : SomeIpParser) :
    SomeIpParser × Nat :=
  if !parser.isGood then (parser, 0)
  else
    let numBytes := parser.bigEndian.read lengthType.size
    if numBytes.1.bytesAvailable < numBytes.2 then (numBytes.1.setFailure, 0) else numBytes

end OpenBsw.Someip
