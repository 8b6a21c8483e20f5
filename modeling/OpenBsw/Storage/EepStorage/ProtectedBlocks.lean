import OpenBsw.Storage.EepStorage.Process

/-!
# Blocks with error detection

Such a block is a byte store with a length that grows with the writes and holds
zero where nothing was written.  A write to a corrupt block clears the data in
front of its offset, while a write behind the used bytes of a valid block takes
over what the EEPROM holds between them: the block behaves as the store as long
as these bytes are zero.
-/

namespace OpenBsw.Storage

open Bytes

/-! ## The abstract store -/

/-- Bytes with a length; the bytes behind the length are zero. -/
structure ByteStore where
  length : Nat
  bytes : Nat → UInt8
  zero_behind : ∀ position, length ≤ position → bytes position = 0

namespace ByteStore

def empty : ByteStore where
  length := 0
  bytes _ := 0
  zero_behind _ _ := rfl

/-- Store `data` from `offset` on; the length covers it afterwards. -/
def write (store : ByteStore) (offset : Nat) (data : List UInt8) : ByteStore where
  length := max store.length (offset + data.length)
  bytes := Eeprom.write store.bytes offset data
  zero_behind position behind := by
    rw [Eeprom.write_of_outside _ (by omega), store.zero_behind position (by omega)]

end ByteStore

variable {layout : EepLayout} {confEntry : EepBlockConfig} {answers : DriverAnswers}
  {session : EepSession}

namespace EepStorage

/-! ## Header -/

/-- The header in front of the data, and the data behind it. -/
theorem updateHeader_eq (usedDataSize : Nat) (eepBuf : List UInt8)
    (room : fullHeaderSize + usedDataSize ≤ eepBuf.length) :
    slice (updateHeader usedDataSize eepBuf) 0 nvCrcSize =
        bigEndian nvCrcSize (crcValue (slice eepBuf fullHeaderSize usedDataSize)).toNat ∧
      slice (updateHeader usedDataSize eepBuf) nvCrcSize sizeTagSize =
        bigEndian sizeTagSize usedDataSize ∧
      ∀ i, fullHeaderSize ≤ i → (updateHeader usedDataSize eepBuf)[i]? = eepBuf[i]? := by
  have headerSize : fullHeaderSize = nvCrcSize + sizeTagSize := rfl
  have sizeFits : nvCrcSize + (bigEndian sizeTagSize usedDataSize).length ≤ eepBuf.length := by
    rw [length_bigEndian]
    omega
  have sized : (overwrite eepBuf nvCrcSize (bigEndian sizeTagSize usedDataSize)).length =
      eepBuf.length := length_overwrite sizeFits
  have crcFits : ∀ crc, 0 + (bigEndian nvCrcSize crc).length ≤
      (overwrite eepBuf nvCrcSize (bigEndian sizeTagSize usedDataSize)).length := by
    intro crc
    rw [length_bigEndian]
    omega
  have data : slice (overwrite eepBuf nvCrcSize (bigEndian sizeTagSize usedDataSize))
      fullHeaderSize usedDataSize = slice eepBuf fullHeaderSize usedDataSize :=
    slice_overwrite_of_disjoint sizeFits (.inr (by rw [length_bigEndian]; omega))
  simp only [updateHeader, data]
  refine ⟨?_, ?_, ?_⟩
  · have stored := slice_overwrite_self
      (crcFits (crcValue (slice eepBuf fullHeaderSize usedDataSize)).toNat)
    rwa [length_bigEndian] at stored
  · rw [slice_overwrite_of_disjoint (crcFits _) (.inr (by rw [length_bigEndian]; omega))]
    have stored := slice_overwrite_self sizeFits
    rwa [length_bigEndian] at stored
  · intro i behind
    rw [getElem?_overwrite (crcFits _), length_bigEndian, if_neg (by omega),
      getElem?_overwrite sizeFits, length_bigEndian, if_neg (by omega)]

/-- The whole block as the EEPROM holds it. -/
def blockContent (confEntry : EepBlockConfig) (eeprom : Eeprom) : List UInt8 :=
  eeprom.read confEntry.address.toNat confEntry.totalSize

/-- The number of used bytes a block announces. -/
def storedSize (confEntry : EepBlockConfig) (eeprom : Eeprom) : Nat :=
  usedDataSize confEntry (blockContent confEntry eeprom)

/-- The checksum of a block matches the used bytes it announces. -/
def Valid (confEntry : EepBlockConfig) (eeprom : Eeprom) : Prop :=
  isCrcValid (slice (blockContent confEntry eeprom) fullHeaderSize (storedSize confEntry eeprom))
    (blockContent confEntry eeprom) = true

instance (confEntry : EepBlockConfig) (eeprom : Eeprom) : Decidable (Valid confEntry eeprom) :=
  inferInstanceAs (Decidable (_ = true))

/-- A block holds a store: its header describes the bytes of the store. -/
structure HoldsStore (confEntry : EepBlockConfig) (eeprom : Eeprom) (store : ByteStore) : Prop where
  valid : Valid confEntry eeprom
  size_eq : storedSize confEntry eeprom = store.length
  bytes_eq : ∀ position, position < store.length →
    eeprom (confEntry.address.toNat + fullHeaderSize + position) = store.bytes position

theorem headerSize_of_protected (protectedBlock : confEntry.errorDetection = true) :
    confEntry.headerSize = fullHeaderSize := by
  simp [EepBlockConfig.headerSize, protectedBlock]

/-- A content with a fresh header over the data of a store holds the store. -/
theorem holdsStore_of_content {eeprom : Eeprom} {store : ByteStore} {eepBuf : List UInt8}
    (protectedBlock : confEntry.errorDetection = true)
    (length : eepBuf.length = confEntry.totalSize)
    (fits : store.length ≤ confEntry.dataSize.toNat)
    (content : blockContent confEntry eeprom = updateHeader store.length eepBuf)
    (bytes : ∀ position, position < store.length →
      eepBuf[fullHeaderSize + position]? = some (store.bytes position)) :
    HoldsStore confEntry eeprom store := by
  have total : confEntry.totalSize = fullHeaderSize + confEntry.dataSize.toNat := by
    rw [EepBlockConfig.totalSize, headerSize_of_protected protectedBlock]
  obtain ⟨crcEq, sizeEq, dataEq⟩ :=
    updateHeader_eq store.length eepBuf (by omega)
  have small : store.length < 256 ^ sizeTagSize :=
    Nat.lt_of_le_of_lt fits confEntry.dataSize.toNat_lt
  have sizeStored : storedSize confEntry eeprom = store.length := by
    rw [storedSize, usedDataSize, content, sizeEq, ofBigEndian_bigEndian small,
      Nat.min_eq_left fits]
  have data : slice (updateHeader store.length eepBuf) fullHeaderSize store.length =
      slice eepBuf fullHeaderSize store.length := by
    apply List.ext_getElem?
    intro i
    rw [getElem?_slice, getElem?_slice, dataEq _ (Nat.le_add_right _ _)]
  refine ⟨?_, sizeStored, ?_⟩
  · rw [Valid, sizeStored, content, isCrcValid, data, crcEq,
      ofBigEndian_bigEndian (crcValue _).toNat_lt, decide_eq_true_eq]
  · intro position inside
    have stored := dataEq (fullHeaderSize + position) (Nat.le_add_right _ _)
    rw [bytes position inside, ← content, blockContent, Eeprom.getElem?_read, if_pos (by omega),
      ← Nat.add_assoc] at stored
    exact Option.some.inj stored

/-! ## Writes -/

/-- The buffer a write starts from after the block was read back: the block
itself when it is valid, and zeros in front of the offset when it is not. -/
theorem writeStart_of_protected (storage : EepStorage) (reads : answers.read = .ok)
    (protectedBlock : confEntry.errorDetection = true) (offset : Nat) {eepBuf : List UInt8}
    (length : eepBuf.length = confEntry.totalSize) :
    ∃ started, storage.writeStart answers confEntry offset eepBuf =
      if Valid confEntry storage.eeprom then
        (started, blockContent confEntry storage.eeprom,
          some (storedSize confEntry storage.eeprom))
      else
        (started,
          overwrite (blockContent confEntry storage.eeprom) fullHeaderSize
            (List.replicate offset 0),
          some 0) := by
  have answer := driverRead_ok storage reads confEntry eepBuf
  rw [length] at answer
  rw [writeStart, if_pos protectedBlock, readBack]
  generalize storage.driverRead answers confEntry eepBuf = driverAnswer at answer ⊢
  rcases driverAnswer with ⟨started, fetched, ok⟩
  simp only [Prod.mk.injEq] at answer
  rcases answer with ⟨rfl, rfl⟩
  exact ⟨started, rfl⟩

/-- A write behind the used bytes of a valid block finds zeros between them. -/
def GapCleared (config : List EepBlockConfig) (storage : EepStorage)
    (job : StorageJob LinkedBuffer) : Prop :=
  ∀ confEntry buffer offset, config[job.id.toNat]? = some confEntry →
    confEntry.errorDetection = true → job.type = .write buffer offset →
    confEntry.Accepts buffer offset → Valid confEntry storage.eeprom →
    ∀ position, storedSize confEntry storage.eeprom ≤ position → position < offset →
      storage.eeprom (confEntry.address.toNat + fullHeaderSize + position) = 0

/-- The block is corrupt, or it holds the store of the writes so far. -/
def Stands (confEntry : EepBlockConfig) (eeprom : Eeprom) : Option ByteStore → Prop
  | none => ¬Valid confEntry eeprom
  | some store => HoldsStore confEntry eeprom store

/-- The store a write starts from. -/
def baseStore (stored : Option ByteStore) : ByteStore :=
  stored.getD .empty

/-- An accepted write leaves a block that holds the store with the data
written. -/
theorem holdsStore_of_write (layout : EepLayout) {storage : EepStorage}
    {job : StorageJob LinkedBuffer} {buffer : LinkedBuffer} {offset : Nat}
    {stored : Option ByteStore} (sized : storage.eepBuf.length = layout.bufferSize)
    (reads : answers.read = .ok) (writes : answers.write = .ok)
    (found : layout.blocks[job.id.toNat]? = some confEntry)
    (protectedBlock : confEntry.errorDetection = true) (typeEq : job.type = .write buffer offset)
    (accepts : confEntry.Accepts buffer offset) (stands : Stands confEntry storage.eeprom stored)
    (cleared : GapCleared layout.blocks storage job) :
    HoldsStore confEntry (process layout.blocks storage answers job).1.eeprom
      ((baseStore stored).write offset buffer.flatten) := by
  have header := headerSize_of_protected protectedBlock
  have total : confEntry.totalSize = fullHeaderSize + confEntry.dataSize.toNat := by
    rw [EepBlockConfig.totalSize, header]
  have fits := accepts.2.2
  have inside := accepts.1
  have room : confEntry.totalSize ≤ storage.eepBuf.length := by
    rw [sized]
    exact layout.fits_of_getElem? found
  have contentLength : (blockContent confEntry storage.eeprom).length = confEntry.totalSize :=
    Eeprom.length_read _ _ _
  -- the buffer the copy loop starts from, and the used size found
  obtain ⟨base, started, start, baseLength, small, behind, front⟩ :
      ∃ base started, storage.writeStart answers confEntry offset
          (storage.eepBuf.take confEntry.totalSize) =
            (started, base, some (baseStore stored).length) ∧
        base.length = confEntry.totalSize ∧
        (baseStore stored).length ≤ confEntry.dataSize.toNat ∧
        (∀ i, fullHeaderSize + offset ≤ i →
          base[i]? = (blockContent confEntry storage.eeprom)[i]?) ∧
        ∀ position, position < max (baseStore stored).length offset →
          base[fullHeaderSize + position]? = some ((baseStore stored).bytes position) := by
    obtain ⟨started, start⟩ := writeStart_of_protected storage reads protectedBlock offset
      (show (storage.eepBuf.take confEntry.totalSize).length = _ by rw [List.length_take]; omega)
    cases stored with
    | none =>
      have zeros : (List.replicate offset (0 : UInt8)).length = offset := List.length_replicate
      rw [if_neg stands] at start
      refine ⟨_, started, start, ?_, Nat.zero_le _, ?_, ?_⟩
      · rw [length_overwrite (by omega), contentLength]
      · intro i behind
        rw [getElem?_overwrite (by omega), if_neg (by omega)]
      · intro position before
        have before : position < offset := by simpa [baseStore, ByteStore.empty] using before
        rw [getElem?_overwrite (by omega), if_pos (by omega), Nat.add_sub_cancel_left,
          List.getElem?_replicate_of_lt before]
        rfl
    | some store =>
      rw [if_pos stands.valid, stands.size_eq] at start
      have used_le : store.length ≤ confEntry.dataSize.toNat := by
        rw [← stands.size_eq]
        exact Nat.min_le_right _ _
      refine ⟨_, started, start, contentLength, used_le, fun _ _ => rfl, ?_⟩
      intro position before
      change position < max store.length offset at before
      rw [blockContent, Eeprom.getElem?_read, if_pos (by omega), ← Nat.add_assoc]
      by_cases used : position < store.length
      · rw [stands.bytes_eq position used]
        rfl
      · rw [cleared confEntry buffer offset found protectedBlock typeEq accepts stands.valid
          position (by rw [stands.size_eq]; omega) (by omega)]
        exact congrArg some (store.zero_behind position (by omega)).symm
  have outcome := process_started layout.blocks storage answers found room typeEq inside start
  rw [if_pos accepts] at outcome
  have copiedFits : fullHeaderSize + offset + buffer.flatten.length ≤ base.length := by omega
  have copiedLength : (overwrite base (fullHeaderSize + offset) buffer.flatten).length =
      confEntry.totalSize := by
    rw [length_overwrite copiedFits, baseLength]
  have writtenEq : writtenBuffer confEntry buffer offset (baseStore stored).length base =
      updateHeader ((baseStore stored).write offset buffer.flatten).length
        (overwrite base (fullHeaderSize + offset) buffer.flatten) := by
    simp only [writtenBuffer, protectedBlock, if_true, header]
    rfl
  have newLength : ((baseStore stored).write offset buffer.flatten).length ≤
      confEntry.dataSize.toNat := Nat.max_le.mpr ⟨small, fits⟩
  obtain ⟨_, _, dataEq⟩ :=
    updateHeader_eq ((baseStore stored).write offset buffer.flatten).length
      (overwrite base (fullHeaderSize + offset) buffer.flatten) (by omega)
  have finalLength : (updateHeader ((baseStore stored).write offset buffer.flatten).length
      (overwrite base (fullHeaderSize + offset) buffer.flatten)).length = confEntry.totalSize := by
    rw [length_updateHeader (by omega), copiedLength]
  refine holdsStore_of_content protectedBlock copiedLength newLength ?_ ?_
  · -- behind the bytes the driver stores, the block is what was read back
    rw [outcome.eeprom_eq writes, writtenEq, header, blockContent]
    apply List.ext_getElem?
    intro i
    rw [Eeprom.getElem?_read]
    by_cases outside : confEntry.totalSize ≤ i
    · rw [if_neg (by omega), List.getElem?_eq_none (by omega)]
    · rw [if_pos (by omega)]
      by_cases stored : i < fullHeaderSize + (offset + buffer.flatten.length)
      · rw [← Eeprom.getElem?_eq_write _ _ _ (by rw [List.length_take]; omega),
          List.getElem?_take, if_pos stored]
      · rw [Eeprom.write_of_outside _ (by rw [List.length_take]; omega), dataEq i (by omega),
          getElem?_overwrite copiedFits, if_neg (by omega), behind i (by omega), blockContent,
          Eeprom.getElem?_read, if_pos (by omega)]
  · intro position before
    change position < max (baseStore stored).length (offset + buffer.flatten.length) at before
    rw [getElem?_overwrite copiedFits]
    by_cases copied : offset ≤ position ∧ position < offset + buffer.flatten.length
    · rw [if_pos (by omega), show fullHeaderSize + position - (fullHeaderSize + offset) =
        position - offset by omega, Eeprom.getElem?_eq_write (baseStore stored).bytes offset _
          (by omega), Nat.add_sub_cancel' copied.1]
      rfl
    · rw [if_neg (by omega), front position (by omega)]
      exact congrArg some (Eeprom.write_of_outside _ (by omega)).symm

end EepStorage

/-! ## Sequences of jobs -/

namespace EepSession

open EepStorage

/-- Store the bytes of a successful write to the block. -/
def recordStore (id : Nat) (stored : Option ByteStore) (done : StorageJob LinkedBuffer) :
    Option ByteStore :=
  match done.result, done.type with
  | .success, .write buffer offset =>
    if done.id.toNat = id then some ((baseStore stored).write offset buffer.flatten) else stored
  | _, _ => stored

/-- The store of the successful writes to a block, if there was one. -/
def storeOf (id : Nat) (session : EepSession) : Option ByteStore :=
  session.finished.foldl (recordStore id) none

/-- After a successful write to the block, a read of any range succeeds and
returns the bytes of the store, as far as its length goes. -/
def ReadsStore (layout : EepLayout) (id : Nat) (session : EepSession) : Prop :=
  ∀ (store : ByteStore) (answers : DriverAnswers) (job : StorageJob LinkedBuffer)
    (buffer : LinkedBuffer) (offset readSize : Nat),
    session.storeOf id = some store → job.id.toNat = id →
    job.type = .read buffer offset readSize → answers.read = .ok →
    let size := min buffer.flatten.length (store.length - offset)
    (process layout.blocks session.storage answers job).2 =
      { job with
        type := .read (buffer.fill (Eeprom.read store.bytes offset size)) offset size
        result := .success }

/-- A rejected write leaves the EEPROM as it is. -/
def KeepsOnError (layout : EepLayout) (session : EepSession) : Prop :=
  ∀ (answers : DriverAnswers) (job : StorageJob LinkedBuffer) (buffer : LinkedBuffer)
    (offset : Nat), job.type = .write buffer offset → answers.write = .ok →
    (process layout.blocks session.storage answers job).2.result ≠ .success →
    (process layout.blocks session.storage answers job).1.eeprom = session.storage.eeprom

theorem storeOf_next (layout : EepLayout) (id : Nat) (session : EepSession)
    (answers : DriverAnswers) (job : StorageJob LinkedBuffer) :
    (session.next layout answers job).storeOf id =
      recordStore id (session.storeOf id)
        (session.storage.process layout.blocks answers job).2 := by
  simp only [storeOf, next, List.foldl_append, List.foldl_cons, List.foldl_nil]

/-- A session that respects the buffer size, with a block that was corrupt at
first. -/
structure Tracks (layout : EepLayout) (id : Nat) (confEntry : EepBlockConfig)
    (session : EepSession) : Prop where
  sized : session.storage.eepBuf.length = layout.bufferSize
  stands : ¬Valid confEntry session.initial →
    Stands confEntry session.storage.eeprom (session.storeOf id)

/-- What lies outside of a block does not matter for it. -/
theorem stands_congr {first second : Eeprom} {stored : Option ByteStore}
    (protectedBlock : confEntry.errorDetection = true)
    (same : ∀ i, confEntry.address.toNat ≤ i → i < confEntry.endAddress → first i = second i)
    (stands : Stands confEntry first stored) : Stands confEntry second stored := by
  have content : blockContent confEntry second = blockContent confEntry first :=
    Eeprom.read_congr fun i above below => (same i above below).symm
  cases stored with
  | none =>
    rw [Stands, Valid, storedSize, content]
    exact stands
  | some store =>
    have size_eq := stands.size_eq
    refine ⟨?_, ?_, ?_⟩
    · rw [Valid, storedSize, content]
      exact stands.valid
    · rw [storedSize, content]
      exact size_eq
    · intro position before
      have fits : store.length ≤ confEntry.dataSize.toNat := by
        rw [← size_eq]
        exact Nat.min_le_right _ _
      rw [← same _ (by omega) (by
        rw [EepBlockConfig.endAddress, EepBlockConfig.totalSize,
          headerSize_of_protected protectedBlock]
        omega)]
      exact stands.bytes_eq position before

theorem tracks_next {id : Nat} {job : StorageJob LinkedBuffer}
    (found : layout.blocks[id]? = some confEntry)
    (protectedBlock : confEntry.errorDetection = true)
    (tracks : Tracks layout id confEntry session) (reads : answers.read = .ok)
    (writes : answers.write = .ok)
    (cleared : job.id.toNat = id → GapCleared layout.blocks session.storage job) :
    Tracks layout id confEntry (session.next layout answers job) where
  sized := length_process layout answers job tracks.sized
  stands := by
    intro corrupt
    have stands := tracks.stands corrupt
    obtain ⟨idEq, typeIff⟩ := process_keeps layout.blocks session.storage answers job
    rw [storeOf_next]
    change Stands confEntry (session.storage.process layout.blocks answers job).1.eeprom _
    rcases process_cases layout answers job tracks.sized with
      ⟨untouched, failed⟩ | ⟨target, buffer, offset, data, targetFound, typeEq, accepts, _, stored⟩
    · have recorded : recordStore id (session.storeOf id)
          (session.storage.process layout.blocks answers job).2 = session.storeOf id := by
        rw [recordStore]
        split
        · rename_i buffer offset resultEq typeEq
          rw [failed buffer offset ((typeIff _ _).mp typeEq)] at resultEq
          cases resultEq
        · rfl
      rw [recorded, untouched.eeprom_eq]
      exact stands
    · have succeeded := stored.result_eq.mpr writes
      have recorded : recordStore id (session.storeOf id)
          (session.storage.process layout.blocks answers job).2 =
          if job.id.toNat = id then
            some ((baseStore (session.storeOf id)).write offset buffer.flatten)
          else session.storeOf id := by
        simp only [recordStore, idEq, (typeIff _ _).mpr typeEq, succeeded]
      rw [recorded]
      by_cases own : job.id.toNat = id
      · subst own
        rw [if_pos rfl]
        exact holdsStore_of_write layout tracks.sized reads writes found protectedBlock typeEq
          (by rw [found, Option.some.injEq] at targetFound; rwa [targetFound]) stands (cleared rfl)
      · rw [if_neg own]
        refine stands_congr protectedBlock (fun i above below => ?_) stands
        exact (process_frame layout tracks.sized writes found (Ne.symm own) ⟨above, below⟩).symm

/-- In a session whose driver calls succeed and whose writes to the block find
zeros between the used bytes and their offset, the block holds the store. -/
theorem tracks_of_reachable {id : Nat} (found : layout.blocks[id]? = some confEntry)
    (protectedBlock : confEntry.errorDetection = true)
    (reached : ((system layout).restrict fun source event =>
      event.1.read = .ok ∧ event.1.write = .ok ∧
        (event.2.id.toNat = id → GapCleared layout.blocks source.storage event.2)).Reachable
          session) : Tracks layout id confEntry session := by
  refine Transition.System.Inductive.of_reachable ⟨?_, ?_⟩ reached
  · rintro state ⟨sized, eeprom_eq, finished⟩
    refine ⟨sized, fun corrupt => ?_⟩
    rw [storeOf, finished, eeprom_eq]
    exact corrupt
  · rintro source ⟨answers, job⟩ target tracks ⟨rfl, reads, writes, cleared⟩
    exact tracks_next found protectedBlock tracks reads writes cleared

/-- A read of a block that holds a store. -/
theorem process_read_of_store {id : Nat} (found : layout.blocks[id]? = some confEntry)
    (protectedBlock : confEntry.errorDetection = true)
    (tracks : Tracks layout id confEntry session) (corrupt : ¬Valid confEntry session.initial) :
    ReadsStore layout id session := by
  intro store answers job buffer offset readSize stored idEq typeEq reads
  have stands := tracks.stands corrupt
  rw [stored] at stands
  have size_eq : storedSize confEntry session.storage.eeprom = store.length := stands.size_eq
  have valid := stands.valid
  rw [Valid, size_eq] at valid
  have fits : store.length ≤ confEntry.dataSize.toNat := by
    rw [← size_eq]
    exact Nat.min_le_right _ _
  have room : confEntry.totalSize ≤ session.storage.eepBuf.length := by
    rw [tracks.sized]
    exact layout.fits_of_getElem? found
  have header := headerSize_of_protected protectedBlock
  have result := process_read layout.blocks session.storage reads (by rw [idEq]; exact found) room
    typeEq fits (by
      rw [if_pos protectedBlock, header]
      exact ⟨size_eq, valid⟩)
  rw [result, header]
  congr 3
  apply List.ext_getElem?
  intro i
  rw [Eeprom.getElem?_read, Eeprom.getElem?_read]
  by_cases inside : i < min buffer.flatten.length (store.length - offset)
  · rw [if_pos inside, if_pos inside, ← stands.bytes_eq (offset + i) (by omega), Nat.add_assoc,
      Nat.add_assoc]
  · rw [if_neg inside, if_neg inside]

/-- A block with error detection that is corrupt at first behaves as a
zero-filled byte store, in every session whose driver calls succeed and whose
writes to the block find zeros between the used bytes and their offset. -/
theorem readsStore_of_reachable (layout : EepLayout) (id : Nat) (confEntry : EepBlockConfig)
    (found : layout.blocks[id]? = some confEntry)
    (protectedBlock : confEntry.errorDetection = true) (session : EepSession)
    (reached : ((system layout).restrict fun source event =>
      event.1.read = .ok ∧ event.1.write = .ok ∧
        (event.2.id.toNat = id → GapCleared layout.blocks source.storage event.2)).Reachable
          session)
    (corrupt : ¬Valid confEntry session.initial) :
    ReadsStore layout id session ∧ KeepsOnError layout session := by
  have tracks := tracks_of_reachable found protectedBlock reached
  refine ⟨process_read_of_store found protectedBlock tracks corrupt, ?_⟩
  intro answers job buffer offset typeEq writes failed
  rcases process_cases layout answers job tracks.sized with
    ⟨untouched, _⟩ | ⟨_, _, _, _, _, _, _, _, stored⟩
  · exact untouched.eeprom_eq
  · exact absurd (stored.result_eq.mpr writes) failed

/-- The protected block of the sample layout after a write of one byte at its
start, in a fresh EEPROM full of `111`. -/
def sampleStored : EepSession :=
  EepSession.next sampleLayout ⟨⟨List.replicate 8 0, fun _ => 111, []⟩, fun _ => 111, []⟩ {}
    (.ofWrite 1 [[1]] 0)

/-- Then a byte at the next position. -/
def sampleContinued : EepSession :=
  sampleStored.next sampleLayout {} (.ofWrite 1 [[2]] 1)

-- The samples are evaluated.
set_option maxRecDepth 2000

theorem readsStore_sampleContinued :
    (process sampleLayout.blocks sampleContinued.storage {} (.ofRead 1 [[0, 0], [0]] 0)).2 =
        { id := 1, type := .read [[1, 2], [0]] 0 2, result := .success } ∧
      ReadsStore sampleLayout 1 sampleContinued ∧ KeepsOnError sampleLayout sampleContinued := by
  refine ⟨by decide,
    readsStore_of_reachable sampleLayout 1 ⟨30, 4, true⟩ rfl rfl sampleContinued ?_
      (by decide)⟩
  refine reachable_next {} (.ofWrite 1 [[2]] 1) (reachable_next {} (.ofWrite 1 [[1]] 0)
    (.initial ⟨rfl, rfl, rfl⟩) ⟨rfl, rfl, ?_⟩) ⟨rfl, rfl, ?_⟩
  · intro _ confEntry buffer offset found _ _ _ valid
    rw [← Option.some.inj found] at valid
    exact absurd valid (by decide)
  · intro _ confEntry buffer offset found _ typeEq _ _ position above below
    rw [← Option.some.inj found] at above
    cases typeEq
    have used : storedSize ⟨30, 4, true⟩ sampleStored.storage.eeprom = 1 := by decide
    omega

/-- A second write three bytes further on: the bytes between them are not zero
but what the EEPROM held before. -/
theorem not_readsStore_behindUsedBytes :
    ∃ session, ((system sampleLayout).restrict fun _ event =>
        event.1.read = .ok ∧ event.1.write = .ok).Reachable session ∧
      ¬Valid ⟨30, 4, true⟩ session.initial ∧ ¬ReadsStore sampleLayout 1 session := by
  refine ⟨sampleStored.next sampleLayout {} (.ofWrite 1 [[2]] 3), ?_, by decide, ?_⟩
  · exact reachable_next {} (.ofWrite 1 [[2]] 3)
      (reachable_next {} (.ofWrite 1 [[1]] 0) (.initial ⟨rfl, rfl, rfl⟩) ⟨rfl, rfl⟩) ⟨rfl, rfl⟩
  · intro reads
    have wrong := reads
      (((sampleStored.next sampleLayout {} (.ofWrite 1 [[2]] 3)).storeOf 1).get (by decide))
      {} (.ofRead 1 [[0, 0, 0, 0]] 0) [[0, 0, 0, 0]] 0 0 (Option.some_get _).symm rfl rfl rfl
    revert wrong
    decide

end EepSession

end OpenBsw.Storage
