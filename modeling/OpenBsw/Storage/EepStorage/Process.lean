import OpenBsw.Storage.EepStorage.Core
import OpenBsw.Transition.System

/-!
# What a job does to the EEPROM

The copy loops are described by the concatenated buffers, and every job by what
it leaves in the EEPROM.  A layout is a configuration whose blocks lie apart
from each other and fit the shared buffer; there a job on one block does not
reach another one.
-/

namespace OpenBsw.Storage

open Bytes List

/-! ## EEPROM content -/

variable (eeprom : Eeprom) (config : List EepBlockConfig) (layout : EepLayout)
  (storage : EepStorage) (address : Nat) (buffer : LinkedBuffer) (answers : DriverAnswers)
  {job : StorageJob LinkedBuffer} {confEntry : EepBlockConfig} {offset : Nat}
  {started : EepStorage}

namespace Eeprom

@[simp]
theorem length_read (address length : Nat) : (eeprom.read address length).length = length := by
  simp [read]

theorem getElem?_read (address length i : Nat) :
    (eeprom.read address length)[i]? =
      if i < length then some (eeprom (address + i)) else none := by
  by_cases inside : i < length <;> simp [read, inside]

theorem slice_read {address length start size : Nat} (fits : start + size ≤ length) :
    slice (eeprom.read address length) start size = eeprom.read (address + start) size := by
  apply ext_getElem?
  intro i
  rw [getElem?_slice, getElem?_read, getElem?_read]
  by_cases inside : i < size
  · rw [if_pos inside, if_pos inside, if_pos (by omega), Nat.add_assoc]
  · rw [if_neg inside, if_neg inside]

theorem read_congr {first second : Eeprom} {address length : Nat}
    (same : ∀ i, address ≤ i → i < address + length → first i = second i) :
    first.read address length = second.read address length := by
  apply ext_getElem?
  intro i
  rw [getElem?_read, getElem?_read]
  by_cases inside : i < length
  · rw [if_pos inside, if_pos inside, same _ (by omega) (by omega)]
  · rw [if_neg inside, if_neg inside]

theorem write_of_outside {address i : Nat} {data : List UInt8}
    (outside : i < address ∨ address + data.length ≤ i) :
    eeprom.write address data i = eeprom i := by
  rw [write, if_neg (by omega)]

theorem getElem?_eq_write (data : List UInt8) {i : Nat} (inside : i < data.length) :
    data[i]? = some (eeprom.write address data (address + i)) := by
  rw [write, if_pos (by omega), Nat.add_sub_cancel_left, getD_eq_getElem?_getD,
    List.getElem?_eq_getElem inside]
  rfl

@[simp]
theorem read_write_self (data : List UInt8) :
    (eeprom.write address data).read address data.length = data := by
  apply ext_getElem?
  intro i
  rw [getElem?_read]
  by_cases inside : i < data.length
  · rw [if_pos inside, getElem?_eq_write eeprom address data inside]
  · rw [if_neg inside, List.getElem?_eq_none (by omega)]

/-- Storing two blocks one behind the other in one go. -/
theorem write_append (first second : List UInt8) :
    eeprom.write address (first ++ second) =
      (eeprom.write address first).write (address + first.length) second := by
  funext i
  simp only [write, List.length_append, getD_eq_getElem?_getD, List.getElem?_append]
  by_cases inFirst : address ≤ i ∧ i < address + first.length
  · rw [if_pos (by omega), if_pos (by omega), if_neg (by omega), if_pos inFirst]
  · by_cases inSecond : address + first.length ≤ i ∧ i < address + first.length + second.length
    · rw [if_pos (by omega), if_neg (by omega), if_pos inSecond, Nat.sub_add_eq]
    · rw [if_neg (by omega), if_neg inSecond, if_neg inFirst]

/-- Storing what is there already changes nothing. -/
theorem write_read (address length : Nat) :
    eeprom.write address (eeprom.read address length) = eeprom := by
  funext i
  by_cases inside : address ≤ i ∧ i < address + length
  · have stored := getElem?_eq_write eeprom address (eeprom.read address length)
      (show i - address < _ by rw [length_read]; omega)
    rw [getElem?_read, if_pos (by omega), Nat.add_sub_cancel' inside.1] at stored
    exact (Option.some.inj stored).symm
  · exact write_of_outside eeprom (by rw [length_read]; omega)

end Eeprom

/-! ## Layouts -/

/-- The first address behind a block. -/
def EepBlockConfig.endAddress (confEntry : EepBlockConfig) : Nat :=
  confEntry.address.toNat + confEntry.totalSize

/-- A configuration with the size of the shared buffer: the blocks occupy
pairwise disjoint ranges and each fits the buffer. -/
structure EepLayout where
  blocks : List EepBlockConfig
  bufferSize : Nat
  disjoint : ∀ (i j : Nat) (first second : EepBlockConfig), i ≠ j → blocks[i]? = some first →
    blocks[j]? = some second →
    first.endAddress ≤ second.address.toNat ∨ second.endAddress ≤ first.address.toNat
  fits : ∀ confEntry ∈ blocks, confEntry.totalSize ≤ bufferSize

theorem EepLayout.fits_of_getElem? {id : Nat} (found : layout.blocks[id]? = some confEntry) :
    confEntry.totalSize ≤ layout.bufferSize :=
  layout.fits confEntry (mem_of_getElem? found)

/-- A block of four bytes without error detection and one with it. -/
def sampleLayout : EepLayout where
  blocks := [⟨20, 4, false⟩, ⟨30, 4, true⟩]
  bufferSize := 8
  disjoint := by
    rintro (_ | _ | i) (_ | _ | j) first second distinct firstFound secondFound <;>
      simp_all
    · subst firstFound secondFound
      decide
    · subst firstFound secondFound
      decide
  fits := by decide

/-- A write the size checks let through. -/
def EepBlockConfig.Accepts (confEntry : EepBlockConfig) (buffer : LinkedBuffer) (offset : Nat) :
    Prop :=
  offset < confEntry.dataSize.toNat ∧ 0 < buffer.flatten.length ∧
    offset + buffer.flatten.length ≤ confEntry.dataSize.toNat

instance (confEntry : EepBlockConfig) (buffer : LinkedBuffer) (offset : Nat) :
    Decidable (confEntry.Accepts buffer offset) :=
  inferInstanceAs (Decidable (_ ∧ _ ∧ _))

/-- Distribute data over linked buffers, in order and as far as it goes. -/
def LinkedBuffer.fill : LinkedBuffer → List UInt8 → LinkedBuffer
  | [], _ => []
  | readBuf :: rest, data =>
    overwrite readBuf 0 (data.take readBuf.length) :: LinkedBuffer.fill rest
      (data.drop readBuf.length)

theorem LinkedBuffer.fill_nil : buffer.fill [] = buffer := by
  induction buffer with
  | nil => rfl
  | cons readBuf rest ih => simp [fill, ih]

namespace EepStorage

/-! ## Copy loops -/

/-- The write loop puts the concatenated buffers into the buffer, or stops at
too much data. -/
theorem copyWriteBuffers_outcome {dataSize headerSize : Nat} {eepBuf : List UInt8}
    {progressInBlock : Nat} (progressForUser : Nat) (room : headerSize + dataSize ≤ eepBuf.length)
    (inside : progressInBlock ≤ dataSize) :
    if progressInBlock + buffer.flatten.length ≤ dataSize then
      copyWriteBuffers dataSize headerSize buffer eepBuf progressInBlock progressForUser =
        (overwrite eepBuf (headerSize + progressInBlock) buffer.flatten,
          some (progressInBlock + buffer.flatten.length,
            progressForUser + buffer.flatten.length))
    else
      ∃ left, left.length = eepBuf.length ∧
        copyWriteBuffers dataSize headerSize buffer eepBuf progressInBlock progressForUser =
          (left, none) := by
  induction buffer generalizing eepBuf progressInBlock progressForUser with
  | nil =>
    rw [if_pos (by simpa using inside)]
    simp [copyWriteBuffers]
  | cons writeBuf rest ih =>
    rw [copyWriteBuffers]
    simp only [flatten_cons, List.length_append]
    by_cases tooMuch : dataSize < progressInBlock + writeBuf.length
    · rw [if_pos tooMuch, if_neg (by omega)]
      exact ⟨eepBuf, rfl, rfl⟩
    · rw [if_neg tooMuch]
      have copied : (overwrite eepBuf (headerSize + progressInBlock) writeBuf).length =
          eepBuf.length := length_overwrite (by omega)
      have further := ih (progressForUser + writeBuf.length)
        (show headerSize + dataSize ≤
          (overwrite eepBuf (headerSize + progressInBlock) writeBuf).length by omega)
        (show progressInBlock + writeBuf.length ≤ dataSize by omega)
      rw [copied] at further
      by_cases enough : progressInBlock + writeBuf.length + rest.flatten.length ≤ dataSize
      · rw [if_pos (by omega)]
        rw [if_pos enough] at further
        rw [further, ← Nat.add_assoc headerSize, overwrite_append (by
          rw [List.length_append]; omega)]
        simp only [Nat.add_assoc]
      · rw [if_neg (by omega)]
        rwa [if_neg enough] at further

/-- The read loop distributes the used bytes from the offset on over the
buffers. -/
theorem copyReadBuffers_eq {used headerSize : Nat} (eepBuf : List UInt8)
    (progressInBlock progressForUser : Nat) :
    copyReadBuffers used headerSize eepBuf buffer progressInBlock progressForUser =
      (buffer.fill (slice eepBuf (headerSize + progressInBlock)
          (min buffer.flatten.length (used - progressInBlock))),
        progressForUser + min buffer.flatten.length (used - progressInBlock)) := by
  induction buffer generalizing progressInBlock progressForUser with
  | nil => simp [copyReadBuffers, LinkedBuffer.fill]
  | cons readBuf rest ih =>
    rw [copyReadBuffers]
    by_cases exhausted : used ≤ progressInBlock
    · rw [if_pos exhausted, Nat.sub_eq_zero_of_le exhausted, Nat.min_zero]
      rw [show slice eepBuf (headerSize + progressInBlock) 0 = [] from take_zero,
        LinkedBuffer.fill_nil, Nat.add_zero]
    · have copiedEq : (if used < progressInBlock + readBuf.length then used - progressInBlock
          else readBuf.length) = min readBuf.length (used - progressInBlock) := by
        split <;> omega
      simp only [if_neg exhausted, copiedEq, ih, flatten_cons, List.length_append,
        LinkedBuffer.fill, Prod.mk.injEq, List.cons.injEq]
      refine ⟨⟨?_, ?_⟩, by omega⟩
      · rw [slice, slice, take_take]
        congr 2
        omega
      · rw [slice, slice, drop_take, drop_drop]
        by_cases last : used - progressInBlock ≤ readBuf.length
        · rw [show min rest.flatten.length
              (used - (progressInBlock + min readBuf.length (used - progressInBlock))) = 0 by omega,
            show min (readBuf.length + rest.flatten.length) (used - progressInBlock) -
              readBuf.length = 0 by omega, take_zero, take_zero]
        · rw [Nat.min_eq_left (a := readBuf.length) (by omega)]
          congr 2
          · omega
          · rw [Nat.add_assoc]

/-! ## Driver calls -/

@[simp]
theorem length_driverRead (confEntry : EepBlockConfig) (eepBuf : List UInt8) :
    (storage.driverRead answers confEntry eepBuf).2.1.length = eepBuf.length := by
  rw [driverRead]
  cases answers.read with
  | ok => simp
  | error left => exact length_overwrite (by rw [length_take]; omega)

/-- A read leaves the EEPROM and reports no write. -/
theorem driverRead_keeps (confEntry : EepBlockConfig) (eepBuf : List UInt8) :
    (storage.driverRead answers confEntry eepBuf).1 =
      { storage with
        calls := storage.calls ++
          [DriverCall.read confEntry.address.toNat eepBuf.length] } := by
  rw [driverRead]
  cases answers.read <;> rfl

/-- A successful read fetches the block. -/
theorem driverRead_ok {answers : DriverAnswers} (ok : answers.read = .ok)
    (confEntry : EepBlockConfig) (eepBuf : List UInt8) :
    (storage.driverRead answers confEntry eepBuf).2 =
      (storage.eeprom.read confEntry.address.toNat eepBuf.length, true) := by
  rw [driverRead, ok]

theorem driverWrite_ok {answers : DriverAnswers} (ok : answers.write = .ok)
    (confEntry : EepBlockConfig) (data : List UInt8) :
    storage.driverWrite answers confEntry data =
      ({ storage with
          eeprom := storage.eeprom.write confEntry.address.toNat data
          calls := storage.calls ++ [DriverCall.write confEntry.address.toNat data] }, true) := by
  rw [driverWrite, ok]

theorem driverWrite_error {answers : DriverAnswers} {left : Eeprom}
    (error : answers.write = .error left) (confEntry : EepBlockConfig) (data : List UInt8) :
    storage.driverWrite answers confEntry data =
      ({ storage with
          eeprom := left
          calls := storage.calls ++ [DriverCall.write confEntry.address.toNat data] }, false) := by
  rw [driverWrite, error]

/-! ## Write jobs -/

/-- Where a write starts: the storage, the buffer the copy loop gets and the
used size found in it. -/
def writeStart (storage : EepStorage) (answers : DriverAnswers) (confEntry : EepBlockConfig)
    (offset : Nat) (eepBuf : List UInt8) : EepStorage × List UInt8 × Option Nat :=
  if confEntry.errorDetection then storage.readBack answers confEntry offset eepBuf
  else (storage, eepBuf, some 0)

theorem length_updateHeader {usedDataSize : Nat} {eepBuf : List UInt8}
    (room : fullHeaderSize ≤ eepBuf.length) :
    (updateHeader usedDataSize eepBuf).length = eepBuf.length := by
  have sized : (overwrite eepBuf nvCrcSize (bigEndian sizeTagSize usedDataSize)).length =
      eepBuf.length := length_overwrite (by rw [length_bigEndian]; exact room)
  rw [updateHeader, length_overwrite, sized]
  rw [length_bigEndian, sized]
  exact Nat.le_trans (Nat.le_add_right _ _) room

/-- The start keeps the size of the buffer, the EEPROM and the shared buffer,
and makes no driver write. -/
theorem writeStart_keeps (confEntry : EepBlockConfig) {eepBuf : List UInt8}
    (inside : offset < confEntry.dataSize.toNat) (room : confEntry.totalSize ≤ eepBuf.length) :
    (storage.writeStart answers confEntry offset eepBuf).2.1.length = eepBuf.length ∧
      ∃ reads : List Nat, (storage.writeStart answers confEntry offset eepBuf).1 =
        { storage with
          calls := storage.calls ++
            reads.map (DriverCall.read confEntry.address.toNat) } := by
  rw [writeStart]
  by_cases protectedBlock : confEntry.errorDetection = true
  · rw [if_pos protectedBlock, readBack]
    rw [EepBlockConfig.totalSize, EepBlockConfig.headerSize, if_pos protectedBlock] at room
    have length := length_driverRead storage answers confEntry eepBuf
    have keeps := driverRead_keeps storage answers confEntry eepBuf
    generalize storage.driverRead answers confEntry eepBuf = answer at length keeps ⊢
    rcases answer with ⟨target, found, _ | _⟩
    · exact ⟨length, [eepBuf.length], keeps⟩
    · simp only at length keeps ⊢
      split
      · exact ⟨length, [eepBuf.length], keeps⟩
      · refine ⟨?_, [eepBuf.length], keeps⟩
        rw [length_overwrite (by rw [length_replicate]; omega), length]
  · rw [if_neg protectedBlock]
    exact ⟨rfl, [], by simp⟩

/-- The data of an accepted write: what the driver stores at the start of the
block, and the buffer it is taken from. -/
def writtenBuffer (confEntry : EepBlockConfig) (buffer : LinkedBuffer) (offset used : Nat)
    (eepBuf : List UInt8) : List UInt8 :=
  let eepBuf := overwrite eepBuf (confEntry.headerSize + offset) buffer.flatten
  if confEntry.errorDetection then
    updateHeader (max used (offset + buffer.flatten.length)) eepBuf
  else eepBuf

/-- A write that gets past its start is accepted and handed to the driver, or
ends with an error before the driver write. -/
theorem write_started (buffer : LinkedBuffer) {offset used : Nat} {eepBuf base : List UInt8}
    (room : confEntry.totalSize ≤ base.length) (inside : offset < confEntry.dataSize.toNat)
    (start : storage.writeStart answers confEntry offset eepBuf = (started, base, some used)) :
    if confEntry.Accepts buffer offset then
      storage.write answers buffer offset confEntry confEntry.headerSize eepBuf =
        ((started.driverWrite answers confEntry
            ((writtenBuffer confEntry buffer offset used base).take
              (confEntry.headerSize + (offset + buffer.flatten.length)))).1,
          writtenBuffer confEntry buffer offset used base,
          if (started.driverWrite answers confEntry
            ((writtenBuffer confEntry buffer offset used base).take
              (confEntry.headerSize + (offset + buffer.flatten.length)))).2 then .success
          else .error)
    else
      ∃ left, left.length = base.length ∧
        storage.write answers buffer offset confEntry confEntry.headerSize eepBuf =
          (started, left, .error) := by
  rw [writeStart] at start
  rw [write, if_neg (show ¬confEntry.dataSize.toNat ≤ offset by omega), start]
  simp only
  have copied := copyWriteBuffers_outcome buffer 0 room (Nat.le_of_lt inside)
  rw [Nat.zero_add] at copied
  by_cases fits : offset + buffer.flatten.length ≤ confEntry.dataSize.toNat
  · rw [if_pos fits] at copied
    rw [copied]
    simp only
    by_cases empty : buffer.flatten.length = 0
    · rw [if_pos empty, if_neg (fun accepted => by have := accepted.2.1; omega)]
      refine ⟨_, length_overwrite ?_, rfl⟩
      rw [EepBlockConfig.totalSize] at room
      omega
    · rw [if_neg empty, if_pos ⟨inside, by omega, fits⟩]
      simp only [writtenBuffer]
      split
      · next answered => simp only [answered, Bool.false_eq_true, if_false]
      · next answered => simp only [answered, if_true]
  · rw [if_neg fits] at copied
    obtain ⟨left, length, copied⟩ := copied
    rw [copied, if_neg (fun accepted => fits accepted.2.2)]
    exact ⟨left, length, rfl⟩

/-- A write to an offset outside the block. -/
theorem write_outside (buffer : LinkedBuffer) {offset headerSize : Nat} (eepBuf : List UInt8)
    (outside : confEntry.dataSize.toNat ≤ offset) :
    storage.write answers buffer offset confEntry headerSize eepBuf =
      (storage, eepBuf, .error) := by
  rw [write, if_pos outside]

/-- A write whose read-back fails. -/
theorem write_unread (buffer : LinkedBuffer) {offset headerSize : Nat} {eepBuf base : List UInt8}
    (inside : offset < confEntry.dataSize.toNat)
    (start : storage.writeStart answers confEntry offset eepBuf = (started, base, none)) :
    storage.write answers buffer offset confEntry headerSize eepBuf = (started, base, .error) := by
  rw [writeStart] at start
  rw [write, if_neg (by omega), start]

/-! ## Processing a job -/

/-- The driver calls of a job end before a driver write. -/
def NoDriverWrite (storage after : EepStorage) : Prop :=
  ∀ address data, DriverCall.write address data ∉ after.calls.drop storage.calls.length

/-- A job left the EEPROM alone and the shared buffer its size. -/
structure Untouched (storage after : EepStorage) : Prop where
  eeprom_eq : after.eeprom = storage.eeprom
  noDriverWrite : NoDriverWrite storage after
  length_eq : after.eepBuf.length = storage.eepBuf.length

/-- A job handed `data` for the start of a block to the driver. -/
structure Stored (storage after : EepStorage) (answers : DriverAnswers)
    (confEntry : EepBlockConfig) (data : List UInt8) (result : Result) : Prop where
  eeprom_eq : answers.write = .ok → after.eeprom = storage.eeprom.write confEntry.address.toNat data
  result_eq : result = .success ↔ answers.write = .ok
  driverWrite : ¬NoDriverWrite storage after
  length_eq : after.eepBuf.length = storage.eepBuf.length

/-- The storage after reads only. -/
theorem untouched_of_reads (buf : List UInt8) (address : Nat) (reads : List Nat)
    (length : buf.length ≤ storage.eepBuf.length) :
    Untouched storage
      { storage with
        calls := storage.calls ++ reads.map (DriverCall.read address)
        eepBuf := overwrite storage.eepBuf 0 buf } where
  eeprom_eq := rfl
  noDriverWrite address data := by
    rw [drop_left]
    simp
  length_eq := length_overwrite (by omega)

theorem process_write {buffer : LinkedBuffer} (found : config[job.id.toNat]? = some confEntry)
    (room : confEntry.totalSize ≤ storage.eepBuf.length)
    (typeEq : job.type = .write buffer offset) :
    process config storage answers job =
      ({ (storage.write answers buffer offset confEntry confEntry.headerSize
            (storage.eepBuf.take confEntry.totalSize)).1 with
          eepBuf := overwrite storage.eepBuf 0
            (storage.write answers buffer offset confEntry confEntry.headerSize
              (storage.eepBuf.take confEntry.totalSize)).2.1 },
        { job with
          result := (storage.write answers buffer offset confEntry confEntry.headerSize
            (storage.eepBuf.take confEntry.totalSize)).2.2 }) := by
  rw [process, found]
  simp only [if_neg (Nat.not_lt.mpr room), typeEq]

theorem length_writtenBuffer {buffer : LinkedBuffer} (used : Nat) {eepBuf : List UInt8}
    (accepts : confEntry.Accepts buffer offset) (room : confEntry.totalSize ≤ eepBuf.length) :
    (writtenBuffer confEntry buffer offset used eepBuf).length = eepBuf.length := by
  have fits := accepts.2.2
  have copied : (overwrite eepBuf (confEntry.headerSize + offset) buffer.flatten).length =
      eepBuf.length := length_overwrite (by rw [EepBlockConfig.totalSize] at room; omega)
  rw [writtenBuffer]
  split
  · rename_i protectedBlock
    rw [EepBlockConfig.totalSize, EepBlockConfig.headerSize, if_pos protectedBlock] at room
    rw [length_updateHeader (by omega), copied]
  · exact copied

/-- A write job that gets past its start. -/
theorem process_started {buffer : LinkedBuffer} {offset used : Nat} {base : List UInt8}
    (found : config[job.id.toNat]? = some confEntry)
    (room : confEntry.totalSize ≤ storage.eepBuf.length)
    (typeEq : job.type = .write buffer offset) (inside : offset < confEntry.dataSize.toNat)
    (start : storage.writeStart answers confEntry offset
      (storage.eepBuf.take confEntry.totalSize) = (started, base, some used)) :
    if confEntry.Accepts buffer offset then
      Stored storage (process config storage answers job).1 answers confEntry
        ((writtenBuffer confEntry buffer offset used base).take
          (confEntry.headerSize + (offset + buffer.flatten.length)))
        (process config storage answers job).2.result
    else
      Untouched storage (process config storage answers job).1 ∧
        (process config storage answers job).2.result = .error := by
  have taken : (storage.eepBuf.take confEntry.totalSize).length = confEntry.totalSize := by
    rw [length_take]
    omega
  obtain ⟨length, reads, startedEq⟩ :=
    writeStart_keeps storage answers confEntry inside (Nat.le_of_eq taken.symm)
  rw [start] at length startedEq
  simp only at length startedEq
  have written := write_started storage answers buffer (by omega) inside start
  rw [process_write config storage answers found room typeEq]
  by_cases accepts : confEntry.Accepts buffer offset
  · rw [if_pos accepts] at written ⊢
    have final := length_writtenBuffer used accepts (Nat.le_of_eq (taken.symm.trans length.symm))
    have restored : (overwrite storage.eepBuf 0
        (writtenBuffer confEntry buffer offset used base)).length = storage.eepBuf.length :=
      length_overwrite (by omega)
    rw [written, startedEq]
    generalize (writtenBuffer confEntry buffer offset used base).take _ = data
    cases answered : answers.write with
    | ok =>
      rw [driverWrite_ok _ answered]
      refine ⟨fun _ => rfl, by simp [answered], fun none => ?_, restored⟩
      refine none confEntry.address.toNat data ?_
      simp only [append_assoc, drop_left]
      simp
    | error left =>
      rw [driverWrite_error _ answered]
      refine ⟨by simp [answered], by simp [answered], fun none => ?_, restored⟩
      refine none confEntry.address.toNat data ?_
      simp only [append_assoc, drop_left]
      simp
  · rw [if_neg accepts] at written ⊢
    obtain ⟨left, leftLength, written⟩ := written
    rw [written, startedEq]
    exact ⟨untouched_of_reads storage left _ reads (by omega), rfl⟩

/-- A write job outside the block, or with a failed read-back. -/
theorem process_unstarted {buffer : LinkedBuffer} (found : config[job.id.toNat]? = some confEntry)
    (room : confEntry.totalSize ≤ storage.eepBuf.length)
    (typeEq : job.type = .write buffer offset)
    (unstarted : confEntry.dataSize.toNat ≤ offset ∨
      (storage.writeStart answers confEntry offset
        (storage.eepBuf.take confEntry.totalSize)).2.2 = none) :
    Untouched storage (process config storage answers job).1 ∧
      (process config storage answers job).2.result = .error := by
  have taken : (storage.eepBuf.take confEntry.totalSize).length = confEntry.totalSize := by
    rw [length_take]
    omega
  rw [process_write config storage answers found room typeEq]
  by_cases inside : offset < confEntry.dataSize.toNat
  · obtain ⟨length, reads, startedEq⟩ :=
      writeStart_keeps storage answers confEntry inside (Nat.le_of_eq taken.symm)
    have foundNone := unstarted.resolve_left (by omega)
    generalize startEq : storage.writeStart answers confEntry offset
      (storage.eepBuf.take confEntry.totalSize) = start at length startedEq foundNone
    rcases start with ⟨started, base, found⟩
    simp only at length startedEq foundNone
    subst foundNone
    rw [write_unread storage answers buffer inside startEq, startedEq]
    exact ⟨untouched_of_reads storage base _ reads (by omega), rfl⟩
  · rw [write_outside storage answers buffer _ (by omega)]
    refine ⟨?_, rfl⟩
    simpa using untouched_of_reads storage _ 0 [] (Nat.le_trans (Nat.le_of_eq taken) room)

/-- A read job leaves the EEPROM alone. -/
theorem process_read_untouched {buffer : LinkedBuffer} {offset readSize : Nat}
    (found : config[job.id.toNat]? = some confEntry)
    (room : confEntry.totalSize ≤ storage.eepBuf.length)
    (typeEq : job.type = .read buffer offset readSize) :
    Untouched storage (process config storage answers job).1 := by
  rw [process, found]
  simp only [if_neg (Nat.not_lt.mpr room), typeEq, read, length_take]
  have length := length_driverRead storage answers confEntry
    (List.replicate (min confEntry.totalSize storage.eepBuf.length) 0)
  have keeps := driverRead_keeps storage answers confEntry
    (List.replicate (min confEntry.totalSize storage.eepBuf.length) 0)
  generalize storage.driverRead answers confEntry _ = answer at length keeps ⊢
  rw [length_replicate] at length keeps
  rcases answer with ⟨target, found, ok⟩
  simp only at length keeps
  have untouched := untouched_of_reads storage found confEntry.address.toNat
    [min confEntry.totalSize storage.eepBuf.length] (by omega)
  rw [keeps]
  cases ok with
  | false => exact untouched
  | true =>
    simp only
    split <;> split <;> exact untouched

/-- Every job leaves the EEPROM alone, a write job then with an error, or it is
an accepted write that hands the driver data for its own block. -/
theorem process_cases {storage : EepStorage} (job : StorageJob LinkedBuffer)
    (sized : storage.eepBuf.length = layout.bufferSize) :
    (Untouched storage (process layout.blocks storage answers job).1 ∧
        ∀ buffer offset, job.type = .write buffer offset →
          (process layout.blocks storage answers job).2.result = .error) ∨
      ∃ confEntry buffer offset data, layout.blocks[job.id.toNat]? = some confEntry ∧
        job.type = .write buffer offset ∧ confEntry.Accepts buffer offset ∧
        data.length ≤ confEntry.totalSize ∧
        Stored storage (process layout.blocks storage answers job).1 answers confEntry data
          (process layout.blocks storage answers job).2.result := by
  have idle : Untouched storage storage := ⟨rfl, by simp [NoDriverWrite], rfl⟩
  cases found : layout.blocks[job.id.toNat]? with
  | none =>
    left
    rw [process, found]
    exact ⟨idle, fun _ _ _ => rfl⟩
  | some confEntry =>
    have room : confEntry.totalSize ≤ storage.eepBuf.length := by
      rw [sized]
      exact layout.fits_of_getElem? found
    cases typeEq : job.type with
    | none =>
      left
      rw [process, found]
      simp only [if_neg (Nat.not_lt.mpr room), typeEq]
      exact ⟨idle, fun _ _ _ => trivial⟩
    | read buffer offset readSize =>
      left
      refine ⟨process_read_untouched layout.blocks storage answers found room typeEq, ?_⟩
      intro _ _ isWrite
      cases isWrite
    | write buffer offset =>
      by_cases inside : offset < confEntry.dataSize.toNat
      · cases startEq : storage.writeStart answers confEntry offset
          (storage.eepBuf.take confEntry.totalSize) with
        | mk started rest =>
          rcases rest with ⟨base, _ | used⟩
          · have rejected := process_unstarted layout.blocks storage answers found room typeEq
              (.inr (by rw [startEq]))
            exact .inl ⟨rejected.1, fun _ _ _ => rejected.2⟩
          · have outcome := process_started layout.blocks storage answers found room typeEq
              inside startEq
            split at outcome
            · rename_i accepts
              refine .inr ⟨confEntry, buffer, offset, _, rfl, rfl, accepts, ?_, outcome⟩
              have fits := accepts.2.2
              rw [length_take, EepBlockConfig.totalSize]
              omega
            · exact .inl ⟨outcome.1, fun _ _ _ => outcome.2⟩
      · have rejected := process_unstarted layout.blocks storage answers found room typeEq
          (.inl (by omega))
        exact .inl ⟨rejected.1, fun _ _ _ => rejected.2⟩

theorem length_process {storage : EepStorage} (job : StorageJob LinkedBuffer)
    (sized : storage.eepBuf.length = layout.bufferSize) :
    (process layout.blocks storage answers job).1.eepBuf.length = layout.bufferSize := by
  rcases process_cases layout answers job sized with
    ⟨untouched, _⟩ | ⟨_, _, _, _, _, _, _, _, stored⟩
  · rw [untouched.length_eq, sized]
  · rw [stored.length_eq, sized]

/-- A job keeps its number and, unless it is a read job, its type. -/
theorem process_keeps (job : StorageJob LinkedBuffer) :
    (process config storage answers job).2.id = job.id ∧
      ∀ buffer offset, (process config storage answers job).2.type = .write buffer offset ↔
        job.type = .write buffer offset := by
  rw [process]
  cases config[job.id.toNat]? with
  | none => exact ⟨rfl, fun _ _ => Iff.rfl⟩
  | some confEntry =>
    simp only
    split
    · exact ⟨rfl, fun _ _ => Iff.rfl⟩
    · cases typeEq : job.type with
      | none => simp
      | write buffer offset => simp
      | read buffer offset readSize => simp

/-- Jobs on one block do not reach another one. -/
theorem process_frame {storage : EepStorage} {answers : DriverAnswers}
    (sized : storage.eepBuf.length = layout.bufferSize) (writes : answers.write = .ok) {id : Nat}
    (found : layout.blocks[id]? = some confEntry) (other : id ≠ job.id.toNat) {i : Nat}
    (inside : confEntry.address.toNat ≤ i ∧ i < confEntry.endAddress) :
    (process layout.blocks storage answers job).1.eeprom i = storage.eeprom i := by
  rcases process_cases layout answers job sized with
    ⟨untouched, _⟩ | ⟨target, _, _, data, targetFound, _, _, fits, stored⟩
  · rw [untouched.eeprom_eq]
  · have disjoint := layout.disjoint id job.id.toNat confEntry target other found targetFound
    rw [stored.eeprom_eq writes]
    refine Eeprom.write_of_outside storage.eeprom ?_
    rw [EepBlockConfig.endAddress] at disjoint inside
    rw [EepBlockConfig.endAddress] at disjoint
    omega

/-- A successful read distributes the used bytes over the buffers. -/
theorem process_read {answers : DriverAnswers} (reads : answers.read = .ok)
    {buffer : LinkedBuffer} {offset readSize used : Nat}
    (found : config[job.id.toNat]? = some confEntry)
    (room : confEntry.totalSize ≤ storage.eepBuf.length)
    (typeEq : job.type = .read buffer offset readSize) (used_le : used ≤ confEntry.dataSize.toNat)
    (usable : if confEntry.errorDetection = true then
        usedDataSize confEntry
          (storage.eeprom.read confEntry.address.toNat confEntry.totalSize) = used ∧
        isCrcValid (slice (storage.eeprom.read confEntry.address.toNat confEntry.totalSize)
          confEntry.headerSize used)
          (storage.eeprom.read confEntry.address.toNat confEntry.totalSize) = true
      else used = confEntry.dataSize.toNat) :
    (process config storage answers job).2 =
      { job with
        type := .read
          (buffer.fill (storage.eeprom.read
            (confEntry.address.toNat + confEntry.headerSize + offset)
            (min buffer.flatten.length (used - offset))))
          offset (min buffer.flatten.length (used - offset))
        result := .success } := by
  have length : min confEntry.totalSize storage.eepBuf.length = confEntry.totalSize := by omega
  have answer := driverRead_ok storage reads confEntry
    (List.replicate (min confEntry.totalSize storage.eepBuf.length) 0)
  rw [length_replicate, length] at answer
  have filled : slice (storage.eeprom.read confEntry.address.toNat confEntry.totalSize)
      (confEntry.headerSize + offset) (min buffer.flatten.length (used - offset)) =
      storage.eeprom.read (confEntry.address.toNat + confEntry.headerSize + offset)
        (min buffer.flatten.length (used - offset)) := by
    by_cases beyond : used ≤ offset
    · rw [Nat.sub_eq_zero_of_le beyond, Nat.min_zero]
      rfl
    · rw [Eeprom.slice_read _ (by rw [EepBlockConfig.totalSize]; omega), Nat.add_assoc]
  rw [process, found]
  simp only [if_neg (Nat.not_lt.mpr room), typeEq, read, length_take]
  rw [length]
  generalize storage.driverRead answers confEntry (List.replicate confEntry.totalSize 0) =
    driverAnswer at answer ⊢
  rcases driverAnswer with ⟨target, fetched, ok⟩
  simp only [Prod.mk.injEq] at answer
  rcases answer with ⟨rfl, rfl⟩
  split at usable
  · rename_i protectedBlock
    rcases usable with ⟨usedEq, valid⟩
    simp only [protectedBlock, if_true, usedEq, valid, copyReadBuffers_eq, filled, Nat.zero_add,
      Bool.not_true, Bool.and_false, Bool.false_eq_true, if_false]
  · rename_i plain
    subst usable
    simp only [plain, if_false, copyReadBuffers_eq, filled, Nat.zero_add, Bool.false_and,
      Bool.false_eq_true]

end EepStorage

/-! ## Sessions -/

/-- The storage at work, with the EEPROM content it started from and the jobs
finished so far. -/
structure EepSession where
  storage : EepStorage
  initial : Eeprom
  finished : List (StorageJob LinkedBuffer)

/-- Process one more job. -/
def EepSession.next (layout : EepLayout) (session : EepSession) (answers : DriverAnswers)
    (job : StorageJob LinkedBuffer) : EepSession :=
  let (storage, done) := session.storage.process layout.blocks answers job
  { session with storage, finished := session.finished ++ [done] }

/-- Any jobs in any order, starting with any EEPROM content and any content of
the shared buffer. -/
def EepSession.system (layout : EepLayout) :
    Transition.System EepSession (DriverAnswers × StorageJob LinkedBuffer) where
  Initial session := session.storage.eepBuf.length = layout.bufferSize ∧
    session.storage.eeprom = session.initial ∧ session.finished = []
  Step source event target := target = source.next layout event.1 event.2

/-- A session goes on with any job that meets the condition of the run. -/
theorem EepSession.reachable_next {layout : EepLayout}
    {Condition : EepSession → DriverAnswers × StorageJob LinkedBuffer → Prop}
    {session : EepSession} (job : StorageJob LinkedBuffer)
    (reached : ((system layout).restrict Condition).Reachable session)
    (meets : Condition session (answers, job)) :
    ((system layout).restrict Condition).Reachable (session.next layout answers job) :=
  .step reached
    (show ((system layout).restrict Condition).Step session (answers, job) _ from ⟨rfl, meets⟩)

end OpenBsw.Storage
