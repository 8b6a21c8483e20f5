import OpenBsw.Data.Span
import OpenBsw.Data.Word32

/-!
# Configuration blobs

A blob is a header followed by configs, each with a header of its own and a
trailing checksum.  `load` checks a memory and returns the blob in it.  A
result `none` of a function is a read outside of the memory, or a loop that
has not come to an end.  `size_t` has 32 bits.
-/

namespace OpenBsw.Blob

/-! ## Headers -/

/-- `Header`, the header of a blob. -/
structure Header where
  version : Nat
  magic : Nat
  size : Nat

def VERSION : Nat := 1
def MAGIC : Nat := 0xDEADBEEF
def HEADER_SIZE : Nat := 12

/-- The header, if it is valid. -/
def checkHeader (blob : List UInt8) : Option (Option Header) :=
  if blob.length < HEADER_SIZE then
    return none
  else do
    let blobHeader ← Span.first blob HEADER_SIZE
    let (version, blobHeader) ← Span.takeNumber 4 blobHeader
    if version ≠ VERSION then
      return none
    let (magic, blobHeader) ← Span.takeNumber 4 blobHeader
    if magic ≠ MAGIC then
      return none
    let (size, _) ← Span.takeNumber 4 blobHeader
    return some { version, magic, size }

/-! ## Configs -/

/-- `ConfigType::UNKNOWN`.  A type is a number that was cast to the enumeration, so it need not
be one of its constants. -/
def UNKNOWN : Nat := 0xFFFFFFFF

/-- `Config::Header`. -/
structure ConfigHeader where
  configType : Nat := UNKNOWN
  reserved : Nat := 0
  size : Nat := 0

/-- `sizeof(Config::Header)`. -/
def CONFIG_HEADER_SIZE : Nat := 16

/-- A config with the bytes it is made of, its header included. -/
structure Config where
  type : Nat := UNKNOWN
  data : List UInt8 := []
  deriving DecidableEq

/-- The header of a config and what follows it, nothing where the header is cut off. -/
def loadConfigHeader (mem : List UInt8) : Option (ConfigHeader × List UInt8) :=
  if mem.length < CONFIG_HEADER_SIZE then
    return ({}, mem)
  else do
    let (configType, mem) ← Span.takeNumber 4 mem
    let (reserved, mem) ← Span.takeNumber 8 mem
    let (size, mem) ← Span.takeNumber 4 mem
    return ({ configType, reserved, size }, mem)

/-- `Config::from_bytes`, the config a memory starts with. -/
def fromBytes (mem : List UInt8) : Option Config := do
  let (header, _) ← loadConfigHeader mem
  if header.configType = UNKNOWN then
    return {}
  if header.size > 0xFFFFFFFF - CONFIG_HEADER_SIZE then
    return {}
  let size := CONFIG_HEADER_SIZE + header.size
  if mem.length < size then
    return {}
  return { type := header.configType, data := ← Span.first mem size }

def CRC_BYTES_SIZE : Nat := 4

/-- Whether a config ends with the checksum of what precedes it. -/
def checkCrc (crc32 : List UInt8 → UInt32) (config : List UInt8) : Option Bool :=
  if config.length < CRC_BYTES_SIZE then
    return false
  else do
    let (configData, config) ← Span.take config (config.length - CRC_BYTES_SIZE)
    let (actual, _) ← Span.takeNumber 4 config
    return (crc32 configData).toNat = actual

/-! ## Iteration -/

/-- `Blob::Iterator`, a view of the bytes that are left.  The end iterator is the null view, which
differs from every view of a memory, also from an empty one. -/
inductive Iterator where
  | null
  | view (bytes : List UInt8)

/-- `operator++`. -/
def Iterator.next (bytes : List UInt8) : Option Iterator := do
  let config ← fromBytes bytes
  let rest := bytes.drop config.data.length
  return if rest.isEmpty || config.data.isEmpty then .null else .view rest

/-- A range-based loop from an iterator on, in at most `fuel` rounds. -/
def forEach {σ : Type} (body : Config → σ → Option σ) : Nat → Iterator → σ → Option σ
  | _, .null, state => some state
  | 0, .view _, _ => none
  | fuel + 1, .view bytes, state => do
    let config ← fromBytes bytes
    let state ← body config state
    let iterator ← Iterator.next bytes
    forEach body fuel iterator state

/-- The constructor of `Blob` and `begin`. -/
def begin (b : List UInt8) : Option Iterator := do
  let some header ← checkHeader b | return .null
  if b.length - HEADER_SIZE ≠ header.size then
    return .null
  return .view (← Span.subspan b HEADER_SIZE)

/-- A loop over the configs of a blob. -/
def forEachConfig {σ : Type} (body : Config → σ → Option σ) (blob : List UInt8) (state : σ) :
    Option σ := do
  forEach body (blob.length + 1) (← begin blob) state

/-- The configs that iterating a blob yields. -/
def configs (blob : List UInt8) : Option (List Config) :=
  forEachConfig (fun config yielded => some (yielded ++ [config])) blob []

/-- Check the memory and return the blob it starts with, an empty view if there is none. -/
def load (crc32 : List UInt8 → UInt32) (mem : List UInt8) : Option (List UInt8) := do
  let some header ← checkHeader mem | return []
  let blobSize := Word32.add HEADER_SIZE header.size
  if mem.length < blobSize then
    return []
  let blob ← Span.first mem blobSize
  let hasValidData ← forEachConfig
    (fun config hasValidData => return (← checkCrc crc32 config.data) && hasValidData) blob true
  if !hasValidData then
    return []
  return blob

/-! ## Columns -/

/-- `reinterpret_as`, the numbers of `width` bytes in a view. -/
def reinterpretAs (width : Nat) : Nat → List UInt8 → List Nat
  | 0, _ => []
  | count + 1, bytes =>
    Bytes.ofBigEndian (bytes.take width) :: reinterpretAs width count (bytes.drop width)

/-- The column a config starts with and the rest of the config; nothing where the column is cut
off. -/
def loadColumn (width : Nat) (config : List UInt8) : Option (List Nat × List UInt8) :=
  if config.length < 4 then
    return ([], [])
  else do
    let (size, config) ← Span.takeNumber 4 config
    if config.length < size || size % width ≠ 0 then
      return ([], [])
    let (column, config) ← Span.take config size
    return (reinterpretAs width (size / width) column, config)

end OpenBsw.Blob
