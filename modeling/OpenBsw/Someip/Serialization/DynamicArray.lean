import OpenBsw.Someip.Serialization.Streams

/-!
# Dynamic arrays

An array is written as a length field and its elements.  The parser reads elements
until it has reached or passed the end that the length field announces.  Elements are
numbers or arrays again, and an array chooses the byte order of its elements.
-/

namespace OpenBsw.Someip

open OpenBsw.Bytes

/-- A vector with a capacity. -/
@[ext]
structure EtlVector (T : Type) (capacity : Nat) where
  elements : List T := []
  fits : elements.length ≤ capacity

namespace EtlVector

variable {T : Type} {capacity : Nat}

/-- There is room for one more element in a vector with a larger capacity. -/
theorem room_succ (obj : EtlVector T capacity) : obj.elements.length + 1 ≤ capacity + 1 :=
  Nat.succ_le_succ obj.fits

def empty : EtlVector T capacity where
  fits := Nat.zero_le _

/-- An element more, which is dropped where the vector is full. -/
def append (obj : EtlVector T capacity) (element : T) : EtlVector T capacity :=
  if room : obj.elements.length < capacity then
    { elements := obj.elements ++ [element]
      fits := by
        rw [List.length_append]
        exact room }
  else obj

end EtlVector

/-- The arguments of an array: the type of its length field, the least number of elements,
the byte order of the elements, and the capacity of its vector. -/
structure ArrayType where
  lengthType : LengthType
  minLength : Nat
  isBigEndian : Bool
  capacity : Nat
  deriving DecidableEq, Repr

variable {T : Type}

/-! ## Serializer -/

namespace DynamicArraySerializer

/-- `write` stands for the operator of the element type. -/
def serialize (write : SomeIpSerializer → T → SomeIpSerializer) (array : ArrayType)
    (obj : EtlVector T array.capacity) (serializer : SomeIpSerializer) : SomeIpSerializer :=
  if !serializer.isGood then serializer
  else if obj.elements.length < array.minLength then serializer.setFailure
  else
    let helper := LengthSerializerHelper.construct array.lengthType serializer.bigEndian
    let serializer := if array.isBigEndian then helper.2 else helper.2.littleEndian
    helper.1.destruct array.lengthType (obj.elements.foldl write serializer)

end DynamicArraySerializer

/-! ## Parser -/

namespace DynamicArrayParser

/-- The loop of `parse`, where the vector has room for `room` more elements; no elements
are returned where it fails. -/
def readElements (read : SomeIpParser → SomeIpParser × T) (endPosition : Nat) :
    (room : Nat) → SomeIpParser → SomeIpParser × Option (EtlVector T room)
  | 0, parser =>
    if parser.getCurrentPosition < endPosition then (parser.setFailure, none)
    else (parser, some .empty)
  | room + 1, parser =>
    if parser.getCurrentPosition < endPosition then
      let element := read parser
      if !element.1.isGood then (element.1, none)
      else
        let rest := readElements read endPosition room element.1
        (rest.1, rest.2.map fun obj =>
          { elements := element.2 :: obj.elements, fits := obj.room_succ })
    else (parser, some .empty)

/-- What `parse` returns after the loop. -/
def finish (array : ArrayType) (result : SomeIpParser × Option (EtlVector T array.capacity)) :
    SomeIpParser × EtlVector T array.capacity :=
  match result.2 with
  | none => (result.1, .empty)
  | some obj =>
    if obj.elements.length < array.minLength then (result.1.setFailure, .empty)
    else (result.1, obj)

/-- `read` stands for the operator of the element type. -/
def parse (read : SomeIpParser → SomeIpParser × T) (array : ArrayType) (parser : SomeIpParser) :
    SomeIpParser × EtlVector T array.capacity :=
  let numBytes := LengthParserHelper.parseLength array.lengthType parser.bigEndian
  if !numBytes.1.isGood then (numBytes.1, .empty)
  else
    let parser := if array.isBigEndian then numBytes.1 else numBytes.1.littleEndian
    let endPosition := parser.getCurrentPosition + numBytes.2
    finish array (readElements read endPosition array.capacity parser)

end DynamicArrayParser

/-! ## Types of elements -/

/-- The base integers, signed or not: their values are patterns of bits. -/
inductive IntegerSize
  | one
  | two
  | four
  | eight
  deriving DecidableEq, Repr

def IntegerSize.bytes : IntegerSize → Nat
  | one => 1
  | two => 2
  | four => 4
  | eight => 8

theorem IntegerSize.bytes_pos (size : IntegerSize) : 0 < size.bytes := by
  cases size <;> decide

inductive ElementType
  | integer (size : IntegerSize)
  | dynamicArray (array : ArrayType) (element : ElementType)
  deriving DecidableEq, Repr

namespace ElementType

/-- The values of a type. -/
def Value : ElementType → Type
  | integer size => BitVec (8 * size.bytes)
  | dynamicArray array element => EtlVector element.Value array.capacity

def write : (type : ElementType) → SomeIpSerializer → type.Value → SomeIpSerializer
  | integer size => fun serializer (value : BitVec (8 * size.bytes)) =>
    serializer.write size.bytes value.toNat
  | dynamicArray array element => fun serializer obj =>
    DynamicArraySerializer.serialize element.write array obj serializer

def read : (type : ElementType) → SomeIpParser → SomeIpParser × type.Value
  | integer size => fun parser =>
    let value := parser.read size.bytes
    (value.1, BitVec.ofNat (8 * size.bytes) value.2)
  | dynamicArray array element => fun parser =>
    DynamicArrayParser.parse element.read array parser

end ElementType

end OpenBsw.Someip
