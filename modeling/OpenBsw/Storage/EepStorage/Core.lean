import OpenBsw.Data.Bytes

/-!
# EepStorage

The storage keeps blocks in an EEPROM and answers each job at once.  Every job
works in one shared buffer.  A block with error detection starts with a header
of a checksum and the number of used bytes; a block without it is data only.

A job names a block and says what to do with it; whoever processes it stores its
result in it.

The driver is the environment: it reports success, or an error that leaves the
shared buffer (after a read) or the EEPROM (after a write) in any state.
-/

namespace OpenBsw.Storage

/-! ## Jobs -/

inductive Result
  | init
  | error
  | dataLoss
  | success
  deriving DecidableEq, Repr

/-- The job alternatives; a read job also holds the number of bytes it got. -/
inductive JobType (Buffer : Type)
  | none
  | write (buffer : Buffer) (offset : Nat)
  | read (buffer : Buffer) (offset readSize : Nat)
  deriving DecidableEq, Repr

structure StorageJob (Buffer : Type) where
  id : UInt32
  type : JobType Buffer := .none
  result : Result := .init
  deriving DecidableEq, Repr

namespace StorageJob

variable {Buffer : Type}

/-- A job as `init` and `initWrite` leave it. -/
def ofWrite (id : UInt32) (buffer : Buffer) (offset : Nat) : StorageJob Buffer :=
  { id, type := .write buffer offset }

/-- A job as `init` and `initRead` leave it. -/
def ofRead (id : UInt32) (buffer : Buffer) (offset : Nat) : StorageJob Buffer :=
  { id, type := .read buffer offset 0 }

end StorageJob

open Bytes

/-! ## Checksum -/

/-- One bit of the CRC register with polynomial `0x1021`. -/
def crcShift (crc : UInt16) : UInt16 :=
  if crc &&& 0x8000 = 0 then crc <<< 1 else (crc <<< 1) ^^^ 0x1021

/-- Take one byte into the CRC register, most significant bit first. -/
def crcAdd (crc : UInt16) (byte : UInt8) : UInt16 :=
  crcShift^[8] (crc ^^^ (byte.toUInt16 <<< 8))

/-- The value of CRC type AUG-CCITT. -/
def crcValue (data : List UInt8) : UInt16 :=
  data.foldl crcAdd 0x1D0F

example : crcValue [111, 111, 111] = 0x200B := by decide +kernel

/-! ## EEPROM and driver -/

/-- The content of the EEPROM at each address. -/
abbrev Eeprom := Nat → UInt8

namespace Eeprom

/-- The `length` bytes from `address` on. -/
def read (eeprom : Eeprom) (address length : Nat) : List UInt8 :=
  (List.range length).map fun i => eeprom (address + i)

/-- The content after `data` was stored from `address` on. -/
def write (eeprom : Eeprom) (address : Nat) (data : List UInt8) : Eeprom := fun i =>
  if address ≤ i ∧ i < address + data.length then data.getD (i - address) 0 else eeprom i

end Eeprom

/-- What the driver answers to a read: `BSP_OK`, or an error with whatever it
left in the buffer. -/
inductive ReadAnswer
  | ok
  | error (left : List UInt8)

/-- What the driver answers to a write: `BSP_OK`, or an error with whatever it
left in the EEPROM. -/
inductive WriteAnswer
  | ok
  | error (left : Eeprom)

/-- The answers the driver gives during one job. -/
structure DriverAnswers where
  read : ReadAnswer := .ok
  write : WriteAnswer := .ok

inductive DriverCall
  | read (address length : Nat)
  | write (address : Nat) (data : List UInt8)
  deriving DecidableEq

/-! ## The storage -/

structure EepBlockConfig where
  address : UInt32
  dataSize : UInt16
  errorDetection : Bool
  deriving DecidableEq

/-- `CRC_SIZE` and `SIZETAG_SIZE`, the two parts of the header. -/
def nvCrcSize : Nat := 2

def sizeTagSize : Nat := 2

/-- `_headerSize`, the header of a block with error detection. -/
def fullHeaderSize : Nat := nvCrcSize + sizeTagSize

/-- The header size a block really has. -/
def EepBlockConfig.headerSize (confEntry : EepBlockConfig) : Nat :=
  if confEntry.errorDetection then fullHeaderSize else 0

def EepBlockConfig.totalSize (confEntry : EepBlockConfig) : Nat :=
  confEntry.headerSize + confEntry.dataSize.toNat

/-- The shared buffer, the EEPROM behind the driver and the driver calls so
far. -/
structure EepStorage where
  eepBuf : List UInt8
  eeprom : Eeprom
  calls : List DriverCall

/-- The linked buffers of a job. -/
abbrev LinkedBuffer := List (List UInt8)

namespace EepStorage

/-- Does the checksum in front of the buffer match the data? -/
def isCrcValid (data eepBuf : List UInt8) : Bool :=
  (crcValue data).toNat = ofBigEndian (slice eepBuf 0 nvCrcSize)

/-- The number of used bytes the header in the buffer announces, limited to the
size of the block. -/
def usedDataSize (confEntry : EepBlockConfig) (eepBuf : List UInt8) : Nat :=
  min (ofBigEndian (slice eepBuf nvCrcSize sizeTagSize)) confEntry.dataSize.toNat

/-- `_eeprom.read` into the buffer; the flag tells `BSP_OK`. -/
def driverRead (storage : EepStorage) (answers : DriverAnswers) (confEntry : EepBlockConfig)
    (eepBuf : List UInt8) : EepStorage × List UInt8 × Bool :=
  let address := confEntry.address.toNat
  let storage := { storage with
    calls := storage.calls ++ [DriverCall.read address eepBuf.length] }
  match answers.read with
  | .ok => (storage, storage.eeprom.read address eepBuf.length, true)
  | .error left => (storage, overwrite eepBuf 0 (left.take eepBuf.length), false)

/-- `_eeprom.write` from the buffer; the flag tells `BSP_OK`. -/
def driverWrite (storage : EepStorage) (answers : DriverAnswers) (confEntry : EepBlockConfig)
    (data : List UInt8) : EepStorage × Bool :=
  let address := confEntry.address.toNat
  let storage := { storage with calls := storage.calls ++ [DriverCall.write address data] }
  match answers.write with
  | .ok => ({ storage with eeprom := storage.eeprom.write address data }, true)
  | .error left => ({ storage with eeprom := left }, false)

/-- The copy loop of a write: the buffer it leaves, and the progress in the
block and for the user unless it stopped at too much data. -/
def copyWriteBuffers (dataSize headerSize : Nat) :
    LinkedBuffer → List UInt8 → Nat → Nat → List UInt8 × Option (Nat × Nat)
  | [], eepBuf, progressInBlock, progressForUser =>
    (eepBuf, some (progressInBlock, progressForUser))
  | writeBuf :: rest, eepBuf, progressInBlock, progressForUser =>
    let sizeToCopy := writeBuf.length
    if dataSize < progressInBlock + sizeToCopy then (eepBuf, none)
    else
      copyWriteBuffers dataSize headerSize rest
        (overwrite eepBuf (headerSize + progressInBlock) writeBuf)
        (progressInBlock + sizeToCopy) (progressForUser + sizeToCopy)

/-- The copy loop of a read: the filled buffers and the number of bytes copied
for the user. -/
def copyReadBuffers (usedDataSize headerSize : Nat) (eepBuf : List UInt8) :
    LinkedBuffer → Nat → Nat → LinkedBuffer × Nat
  | [], _, progressForUser => ([], progressForUser)
  | readBuf :: rest, progressInBlock, progressForUser =>
    if usedDataSize ≤ progressInBlock then (readBuf :: rest, progressForUser)
    else
      let sizeToCopy :=
        if usedDataSize < progressInBlock + readBuf.length then usedDataSize - progressInBlock
        else readBuf.length
      let copied := overwrite readBuf 0 (slice eepBuf (headerSize + progressInBlock) sizeToCopy)
      let (filled, readSize) :=
        copyReadBuffers usedDataSize headerSize eepBuf rest (progressInBlock + sizeToCopy)
          (progressForUser + sizeToCopy)
      (copied :: filled, readSize)

/-- What the write of a block with error detection does to the buffer before
the copy loop: the block is read back, and the data in front of the offset is
set to zero when the block is corrupt.  The number is the used size found, and
is absent after a failed read. -/
def readBack (storage : EepStorage) (answers : DriverAnswers) (confEntry : EepBlockConfig)
    (offset : Nat) (eepBuf : List UInt8) : EepStorage × List UInt8 × Option Nat :=
  match storage.driverRead answers confEntry eepBuf with
  | (storage, eepBuf, false) => (storage, eepBuf, none)
  | (storage, eepBuf, true) =>
    let used := usedDataSize confEntry eepBuf
    if isCrcValid (slice eepBuf fullHeaderSize used) eepBuf then (storage, eepBuf, some used)
    else (storage, overwrite eepBuf fullHeaderSize (List.replicate offset 0), some 0)

/-- The header in front of the data: used size first, then the checksum. -/
def updateHeader (usedDataSize : Nat) (eepBuf : List UInt8) : List UInt8 :=
  let eepBuf := overwrite eepBuf nvCrcSize (bigEndian sizeTagSize usedDataSize)
  overwrite eepBuf 0
    (bigEndian nvCrcSize (crcValue (slice eepBuf fullHeaderSize usedDataSize)).toNat)

/-- `EepStorage::write` in the part `eepBuf` of the shared buffer.  The result
holds the storage, that part as it is left, and the job result. -/
def write (storage : EepStorage) (answers : DriverAnswers) (buffer : LinkedBuffer) (offset : Nat)
    (confEntry : EepBlockConfig) (headerSize : Nat) (eepBuf : List UInt8) :
    EepStorage × List UInt8 × Result :=
  if confEntry.dataSize.toNat ≤ offset then (storage, eepBuf, .error)
  else
    let (storage, eepBuf, found) :=
      if confEntry.errorDetection then storage.readBack answers confEntry offset eepBuf
      else (storage, eepBuf, some 0)
    match found with
    | none => (storage, eepBuf, .error)
    | some used =>
      match copyWriteBuffers confEntry.dataSize.toNat headerSize buffer eepBuf offset 0 with
      | (eepBuf, none) => (storage, eepBuf, .error)
      | (eepBuf, some (progressInBlock, progressForUser)) =>
        if progressForUser = 0 then (storage, eepBuf, .error)
        else
          let eepBuf :=
            if confEntry.errorDetection then updateHeader (max used progressInBlock) eepBuf
            else eepBuf
          match storage.driverWrite answers confEntry
            (eepBuf.take (headerSize + progressInBlock)) with
          | (storage, false) => (storage, eepBuf, .error)
          | (storage, true) => (storage, eepBuf, .success)

/-- `EepStorage::read`: as `write`, and with the buffers and the read size of
the job. -/
def read (storage : EepStorage) (answers : DriverAnswers) (buffer : LinkedBuffer)
    (offset readSize : Nat) (confEntry : EepBlockConfig) (headerSize : Nat)
    (eepBuf : List UInt8) : EepStorage × List UInt8 × (LinkedBuffer × Nat) × Result :=
  match storage.driverRead answers confEntry (List.replicate eepBuf.length 0) with
  | (storage, eepBuf, false) => (storage, eepBuf, (buffer, readSize), .error)
  | (storage, eepBuf, true) =>
    let used :=
      if confEntry.errorDetection then usedDataSize confEntry eepBuf
      else confEntry.dataSize.toNat
    if confEntry.errorDetection && !isCrcValid (slice eepBuf headerSize used) eepBuf then
      (storage, eepBuf, (buffer, readSize), .dataLoss)
    else (storage, eepBuf, copyReadBuffers used headerSize eepBuf buffer offset 0, .success)

/-- `EepStorage::process`: the storage and the job with its result. -/
def process (config : List EepBlockConfig) (storage : EepStorage) (answers : DriverAnswers)
    (job : StorageJob LinkedBuffer) : EepStorage × StorageJob LinkedBuffer :=
  match config[job.id.toNat]? with
  | none => (storage, { job with result := .error })
  | some confEntry =>
    if storage.eepBuf.length < confEntry.totalSize then (storage, { job with result := .error })
    else
      let buf := storage.eepBuf.take confEntry.totalSize
      match job.type with
      | .none => (storage, { job with result := .error })
      | .write buffer offset =>
        let (after, buf, result) :=
          storage.write answers buffer offset confEntry confEntry.headerSize buf
        ({ after with eepBuf := overwrite storage.eepBuf 0 buf }, { job with result })
      | .read buffer offset readSize =>
        let (after, buf, (buffer, readSize), result) :=
          storage.read answers buffer offset readSize confEntry confEntry.headerSize buf
        ({ after with eepBuf := overwrite storage.eepBuf 0 buf },
          { job with type := .read buffer offset readSize, result })

end EepStorage

end OpenBsw.Storage
