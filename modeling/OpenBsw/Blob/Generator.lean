import OpenBsw.Data.Bytes

/-!
# The generator of blobs

The Python classes that write blobs.  An element list is the bytes it stands
for.  A result `none` is the error of `struct.pack` for a number that does not
fit.
-/

namespace OpenBsw.Blob.Generator

/-- `ConfigType`, an `IntEnum`. -/
inductive ConfigType where
  | Routing
  | RxAdapter
  | TxAdapter
  | Channel
  | ChannelNames
  | Meta
  | Unknown
  deriving DecidableEq

def ConfigType.value : ConfigType → Nat
  | Routing => 0x00000000
  | RxAdapter => 0x00000001
  | TxAdapter => 0x00000002
  | Channel => 0x000000CC
  | ChannelNames => 0x000000DD
  | Meta => 0x000000FE
  | Unknown => 0xFFFFFFFF

/-- `struct.pack` of one number in `width` bytes. -/
def pack (width value : Nat) : Option (List UInt8) :=
  if value < 256 ^ width then some (Bytes.bigEndian width value) else none

/-- `make_padding` with its default arguments. -/
def makePadding (dataLength : Nat) : List UInt8 :=
  List.replicate (if dataLength % 4 > 0 then 4 - dataLength % 4 else 0) 0xFF

/-- `append_padding` with its default arguments. -/
def appendPadding (elements : List UInt8) : List UInt8 :=
  elements ++ makePadding elements.length

/-- `prepend_size`. -/
def prependSize (elements : List UInt8) (extraSize : Nat) : Option (List UInt8) := do
  let size ← pack 4 (elements.length + extraSize)
  return size ++ elements

/-- `iter_to_blob_element_list` with a format of `width` bytes. -/
def iterToBlobElementList (width : Nat) (values : List Nat) : Option (List UInt8) := do
  let elements ← values.mapM (pack width)
  return elements.flatten

/-- `validate_blob_element_list`. -/
def validate (checksum : List UInt8 → UInt32) (elements : List UInt8) : List UInt8 :=
  elements ++ Bytes.bigEndian 4 (checksum elements).toNat

/-- The arguments of `config`. -/
structure ConfigArguments where
  type : ConfigType
  data : Option (List UInt8) := none
  reserved : Option (List UInt8) := none

def NUMBER_OF_RESERVED_BYTES : Nat := 8
def NUMBER_OF_CRC_BYTES : Nat := 4

/-- The reserved bytes, which are zero unless eight are given. -/
def reservedBytes (reserved : Option (List UInt8)) : List UInt8 :=
  match reserved with
  | some bytes =>
    if bytes.length ≠ NUMBER_OF_RESERVED_BYTES then
      List.replicate NUMBER_OF_RESERVED_BYTES 0
    else
      bytes
  | none => List.replicate NUMBER_OF_RESERVED_BYTES 0

/-- `config`. -/
def config (checksum : List UInt8 → UInt32) (arguments : ConfigArguments) :
    Option (List UInt8) := do
  let data ← prependSize (appendPadding (arguments.data.getD [])) NUMBER_OF_CRC_BYTES
  return validate checksum
    (Bytes.bigEndian 4 arguments.type.value ++ reservedBytes arguments.reserved ++ data)

def VERSION : Nat := 1
def MAGIC : Nat := 0xDEADBEEF

/-- `bytes` of a `Blob`. -/
def blob (checksum : List UInt8 → UInt32) (configs : List ConfigArguments) :
    Option (List UInt8) := do
  let data ← configs.mapM (config checksum)
  let sized ← prependSize data.flatten 0
  return Bytes.bigEndian 4 VERSION ++ Bytes.bigEndian 4 MAGIC ++ sized

/-- A column of a table: `prepend_size` of `iter_to_blob_element_list`. -/
def column (width : Nat) (values : List Nat) : Option (List UInt8) := do
  prependSize (← iterToBlobElementList width values) 0

end OpenBsw.Blob.Generator
