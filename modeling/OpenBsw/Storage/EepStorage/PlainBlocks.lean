import OpenBsw.Storage.EepStorage.Process

/-!
# Blocks without error detection

A write to such a block is meant to store its bytes behind the offset and
nothing else.  The storage hands the driver the block from its start, and what
lies in front of the offset is whatever the shared buffer holds there.  So the
write keeps these bytes exactly when the buffer holds them already.
-/

namespace OpenBsw.Storage

open Bytes

variable (layout : EepLayout) {storage : EepStorage} {session : EepSession}
  {confEntry : EepBlockConfig} {job : StorageJob LinkedBuffer} {buffer : LinkedBuffer}
  {offset : Nat}

namespace EepStorage

/-- A write job on a block without error detection touches its own bytes only:
after a success these hold the concatenated buffers, and a job that fails
before the driver write changes nothing. -/
def WritesOwnBytes (config : List EepBlockConfig) (storage : EepStorage)
    (answers : DriverAnswers) (job : StorageJob LinkedBuffer) : Prop :=
  ∀ confEntry buffer offset, config[job.id.toNat]? = some confEntry →
    confEntry.errorDetection = false → job.type = .write buffer offset →
    ((process config storage answers job).2.result = .success →
      (process config storage answers job).1.eeprom.read (confEntry.address.toNat + offset)
          buffer.flatten.length = buffer.flatten ∧
        ∀ i, i < confEntry.address.toNat + offset ∨
          confEntry.address.toNat + offset + buffer.flatten.length ≤ i →
          (process config storage answers job).1.eeprom i = storage.eeprom i) ∧
    ((process config storage answers job).2.result ≠ .success →
      NoDriverWrite storage (process config storage answers job).1 →
      (process config storage answers job).1.eeprom = storage.eeprom)

/-- The shared buffer starts with the bytes the block has in front of the
offset.  Only an accepted write that the driver carries out needs this. -/
def PrefixCurrent (config : List EepBlockConfig) (storage : EepStorage)
    (answers : DriverAnswers) (job : StorageJob LinkedBuffer) : Prop :=
  ∀ confEntry buffer offset, config[job.id.toNat]? = some confEntry →
    confEntry.errorDetection = false → job.type = .write buffer offset →
    confEntry.Accepts buffer offset → answers.write = .ok →
    storage.eepBuf.take offset = storage.eeprom.read confEntry.address.toNat offset

theorem headerSize_of_plain (plain : confEntry.errorDetection = false) :
    confEntry.headerSize = 0 := by
  simp [EepBlockConfig.headerSize, plain]

/-- What the driver gets for an accepted write: the start of the shared buffer
and the data. -/
theorem writtenBuffer_of_plain {eepBuf : List UInt8} (plain : confEntry.errorDetection = false)
    (accepts : confEntry.Accepts buffer offset) (room : confEntry.totalSize ≤ eepBuf.length) :
    (writtenBuffer confEntry buffer offset 0 (eepBuf.take confEntry.totalSize)).take
        (confEntry.headerSize + (offset + buffer.flatten.length)) =
      eepBuf.take offset ++ buffer.flatten := by
  have fits := accepts.2.2
  have total : confEntry.totalSize = confEntry.dataSize.toNat := by
    rw [EepBlockConfig.totalSize, headerSize_of_plain plain, Nat.zero_add]
  simp only [writtenBuffer, plain, Bool.false_eq_true, if_false]
  rw [headerSize_of_plain plain, Nat.zero_add, Nat.zero_add, take_overwrite _ _ (by
    rw [List.length_take]; omega), List.take_take, Nat.min_eq_left (by omega)]

/-- A write job on a block without error detection: an accepted one stores the
start of the shared buffer together with the data, any other one nothing. -/
theorem process_plainWrite (answers : DriverAnswers)
    (sized : storage.eepBuf.length = layout.bufferSize)
    (found : layout.blocks[job.id.toNat]? = some confEntry)
    (plain : confEntry.errorDetection = false) (typeEq : job.type = .write buffer offset) :
    if confEntry.Accepts buffer offset then
      Stored storage (process layout.blocks storage answers job).1 answers confEntry
        (storage.eepBuf.take offset ++ buffer.flatten)
        (process layout.blocks storage answers job).2.result
    else
      Untouched storage (process layout.blocks storage answers job).1 ∧
        (process layout.blocks storage answers job).2.result = .error := by
  have room : confEntry.totalSize ≤ storage.eepBuf.length := by
    rw [sized]
    exact layout.fits_of_getElem? found
  by_cases inside : offset < confEntry.dataSize.toNat
  · have start : storage.writeStart answers confEntry offset
        (storage.eepBuf.take confEntry.totalSize) =
        (storage, storage.eepBuf.take confEntry.totalSize, some 0) := by
      rw [writeStart, if_neg (by simp [plain])]
    have outcome := process_started layout.blocks storage answers found room typeEq inside start
    by_cases accepts : confEntry.Accepts buffer offset
    · rw [if_pos accepts] at outcome ⊢
      rwa [writtenBuffer_of_plain plain accepts room] at outcome
    · rw [if_neg accepts] at outcome ⊢
      exact outcome
  · rw [if_neg fun accepts => inside accepts.1]
    exact process_unstarted layout.blocks storage answers found room typeEq (.inl (by omega))

/-- Storing a block together with the bytes in front of it leaves these bytes
alone exactly when they are the stored ones. -/
theorem write_prefix_iff (eeprom : Eeprom) (address : Nat) (front data : List UInt8) :
    ((eeprom.write address (front ++ data)).read (address + front.length) data.length = data ∧
      ∀ i, i < address + front.length ∨ address + front.length + data.length ≤ i →
        eeprom.write address (front ++ data) i = eeprom i) ↔
      front = eeprom.read address front.length := by
  rw [Eeprom.write_append]
  constructor
  · rintro ⟨_, outside⟩
    calc
      front = (eeprom.write address front).read address front.length :=
        (Eeprom.read_write_self eeprom address front).symm
      _ = eeprom.read address front.length := by
        refine Eeprom.read_congr fun i _ before => ?_
        rw [← outside i (.inl before), Eeprom.write_of_outside _ (.inl before)]
  · intro current
    have unchanged : eeprom.write address front = eeprom := by
      rw [current, Eeprom.length_read] at *
      exact Eeprom.write_read eeprom address _
    rw [unchanged]
    exact ⟨Eeprom.read_write_self _ _ _, fun i outside => Eeprom.write_of_outside _ outside⟩

/-- One job keeps to its own bytes if and only if the buffer holds the bytes in
front of the offset. -/
theorem writesOwnBytes_iff (answers : DriverAnswers) (job : StorageJob LinkedBuffer)
    (sized : storage.eepBuf.length = layout.bufferSize) :
    WritesOwnBytes layout.blocks storage answers job ↔
      PrefixCurrent layout.blocks storage answers job := by
  constructor
  · intro ownBytes confEntry buffer offset found plain typeEq accepts writes
    have outcome := process_plainWrite layout answers sized found plain typeEq
    rw [if_pos accepts] at outcome
    have own := (ownBytes confEntry buffer offset found plain typeEq).1
      (outcome.result_eq.mpr writes)
    rw [outcome.eeprom_eq writes] at own
    have length : (storage.eepBuf.take offset).length = offset := by
      have room := layout.fits_of_getElem? found
      have inside := accepts.1
      rw [EepBlockConfig.totalSize] at room
      rw [List.length_take]
      omega
    have current := write_prefix_iff storage.eeprom confEntry.address.toNat
      (storage.eepBuf.take offset) buffer.flatten
    rw [length] at current
    exact current.mp own
  · intro current confEntry buffer offset found plain typeEq
    have outcome := process_plainWrite layout answers sized found plain typeEq
    by_cases accepts : confEntry.Accepts buffer offset
    · rw [if_pos accepts] at outcome
      refine ⟨fun succeeded => ?_, fun _ none => absurd none outcome.driverWrite⟩
      have writes := outcome.result_eq.mp succeeded
      have front := current confEntry buffer offset found plain typeEq accepts writes
      have kept := write_prefix_iff storage.eeprom confEntry.address.toNat
        (storage.eepBuf.take offset) buffer.flatten
      rw [front, Eeprom.length_read] at kept
      rw [outcome.eeprom_eq writes, front]
      exact kept.mpr rfl
    · rw [if_neg accepts] at outcome
      refine ⟨fun succeeded => ?_, fun _ _ => outcome.1.eeprom_eq⟩
      rw [outcome.2] at succeeded
      cases succeeded

end EepStorage

/-! ## Sequences of jobs -/

namespace EepSession

open EepStorage

/-- Store the bytes of a successful write to a block without error detection. -/
def recordWrite (config : List EepBlockConfig) (image : Eeprom)
    (done : StorageJob LinkedBuffer) : Eeprom :=
  match done.result, done.type, config[done.id.toNat]? with
  | .success, .write buffer offset, some confEntry =>
    if confEntry.errorDetection then image
    else image.write (confEntry.address.toNat + offset) buffer.flatten
  | _, _, _ => image

/-- The value last written at each address, or the initial content. -/
def lastWritten (layout : EepLayout) (session : EepSession) : Eeprom :=
  session.finished.foldl (recordWrite layout.blocks) session.initial

/-- A read of any range of a block without error detection returns the bytes
last written there. -/
def ReadsLastWritten (layout : EepLayout) (session : EepSession) : Prop :=
  ∀ (answers : DriverAnswers) (job : StorageJob LinkedBuffer) (confEntry : EepBlockConfig)
    (buffer : LinkedBuffer) (offset readSize : Nat),
    layout.blocks[job.id.toNat]? = some confEntry → confEntry.errorDetection = false →
    job.type = .read buffer offset readSize → answers.read = .ok →
    let size := min buffer.flatten.length (confEntry.dataSize.toNat - offset)
    (process layout.blocks session.storage answers job).2 =
      { job with
        type := .read
          (buffer.fill ((session.lastWritten layout).read (confEntry.address.toNat + offset) size))
          offset size
        result := .success }

/-- The blocks without error detection hold the bytes last written. -/
structure Current (layout : EepLayout) (session : EepSession) : Prop where
  sized : session.storage.eepBuf.length = layout.bufferSize
  holds : ∀ (id : Nat) (confEntry : EepBlockConfig), layout.blocks[id]? = some confEntry →
    confEntry.errorDetection = false →
    ∀ i, confEntry.address.toNat ≤ i → i < confEntry.endAddress →
      session.storage.eeprom i = session.lastWritten layout i

theorem lastWritten_next (session : EepSession) (answers : DriverAnswers)
    (job : StorageJob LinkedBuffer) :
    (session.next layout answers job).lastWritten layout =
      recordWrite layout.blocks (session.lastWritten layout)
        (session.storage.process layout.blocks answers job).2 := by
  simp only [lastWritten, next, List.foldl_append, List.foldl_cons, List.foldl_nil]

/-- Nothing is recorded for a write job that ends with an error. -/
theorem recordWrite_of_error {config : List EepBlockConfig} {answers : DriverAnswers}
    (image : Eeprom)
    (failed : ∀ buffer offset, job.type = .write buffer offset →
      (process config storage answers job).2.result = .error) :
    recordWrite config image (process config storage answers job).2 = image := by
  obtain ⟨_, typeIff⟩ := process_keeps config storage answers job
  rw [recordWrite]
  split
  · rename_i buffer offset _ resultEq typeEq _
    rw [failed buffer offset ((typeIff _ _).mp typeEq)] at resultEq
    cases resultEq
  · rfl

/-- What is recorded for a successful write. -/
theorem recordWrite_of_success {config : List EepBlockConfig} {answers : DriverAnswers}
    (image : Eeprom) (found : config[job.id.toNat]? = some confEntry)
    (typeEq : job.type = .write buffer offset)
    (succeeded : (process config storage answers job).2.result = .success) :
    recordWrite config image (process config storage answers job).2 =
      if confEntry.errorDetection = true then image
      else image.write (confEntry.address.toNat + offset) buffer.flatten := by
  obtain ⟨idEq, typeIff⟩ := process_keeps config storage answers job
  simp only [recordWrite, idEq, (typeIff _ _).mpr typeEq, succeeded, found]

theorem current_next {layout : EepLayout} {answers : DriverAnswers}
    (current : Current layout session) (writes : answers.write = .ok)
    (front : PrefixCurrent layout.blocks session.storage answers job) :
    Current layout (session.next layout answers job) where
  sized := length_process layout answers job current.sized
  holds := by
    intro id confEntry found plain i above below
    have held := current.holds id confEntry found plain i above below
    rw [lastWritten_next]
    change (session.storage.process layout.blocks answers job).1.eeprom i = _
    rcases process_cases layout answers job current.sized with
      ⟨untouched, failed⟩ | ⟨target, buffer, offset, data, targetFound, typeEq, accepts, _, stored⟩
    · rw [untouched.eeprom_eq, recordWrite_of_error _ failed, held]
    · rw [recordWrite_of_success _ targetFound typeEq (stored.result_eq.mpr writes)]
      by_cases targetProtected : target.errorDetection = true
      · rw [if_pos targetProtected, ← held]
        refine process_frame layout current.sized writes found ?_ ⟨above, below⟩
        rintro rfl
        rw [found, Option.some.injEq] at targetFound
        rw [targetFound, targetProtected] at plain
        cases plain
      · have targetPlain : target.errorDetection = false := by simpa using targetProtected
        have outcome :=
          process_plainWrite layout answers current.sized targetFound targetPlain typeEq
        rw [if_pos accepts] at outcome
        rw [if_neg targetProtected, outcome.eeprom_eq writes,
          front target buffer offset targetFound targetPlain typeEq accepts writes,
          Eeprom.write_append, Eeprom.write_read, Eeprom.length_read]
        simp only [Eeprom.write, held]

/-- In a session whose driver writes succeed and whose writes find the bytes in
front of their offset in the buffer, the blocks hold the bytes last written. -/
theorem current_of_reachable
    (reached : ((system layout).restrict fun source event => event.1.write = .ok ∧
      PrefixCurrent layout.blocks source.storage event.1 event.2).Reachable session) :
    Current layout session := by
  refine Transition.System.Inductive.of_reachable ⟨?_, ?_⟩ reached
  · rintro state ⟨sized, eeprom_eq, finished⟩
    refine ⟨sized, fun _ _ _ _ i _ _ => ?_⟩
    rw [lastWritten, finished, eeprom_eq]
    rfl
  · rintro source ⟨answers, job⟩ target current ⟨rfl, writes, front⟩
    exact current_next current writes front

/-- A session that keeps the blocks current reads back the bytes last written. -/
theorem Current.readsLastWritten {layout : EepLayout} (current : Current layout session) :
    ReadsLastWritten layout session := by
  intro answers job confEntry buffer offset readSize found plain typeEq reads
  have room : confEntry.totalSize ≤ session.storage.eepBuf.length := by
    rw [current.sized]
    exact layout.fits_of_getElem? found
  have result := process_read layout.blocks session.storage reads found room typeEq
    (Nat.le_refl confEntry.dataSize.toNat) (by rw [if_neg (by simp [plain])])
  rw [result, headerSize_of_plain plain, Nat.add_zero]
  congr 3
  refine Eeprom.read_congr fun i above below => ?_
  refine current.holds _ confEntry found plain i (by omega) ?_
  rw [EepBlockConfig.endAddress, EepBlockConfig.totalSize, headerSize_of_plain plain]
  omega

/-- A write to a block without error detection touches its own bytes only if
and only if the shared buffer starts with the bytes in front of its offset; and
while all writes are of this kind and the driver stores them, a read returns
the bytes last written. -/
theorem writesOwnBytes_iff_and_readsLastWritten (layout : EepLayout) :
    (∀ (storage : EepStorage) (answers : DriverAnswers) (job : StorageJob LinkedBuffer),
      storage.eepBuf.length = layout.bufferSize →
        (WritesOwnBytes layout.blocks storage answers job ↔
          PrefixCurrent layout.blocks storage answers job)) ∧
      ∀ session, ((system layout).restrict fun source event => event.1.write = .ok ∧
          PrefixCurrent layout.blocks source.storage event.1 event.2).Reachable session →
        ReadsLastWritten layout session :=
  ⟨fun _ answers job sized => writesOwnBytes_iff layout answers job sized,
    fun _ reached => (current_of_reachable layout reached).readsLastWritten⟩

/-- A write to the plain block of the sample layout. -/
theorem prefixCurrent_ofWrite {answers : DriverAnswers} {buffer : LinkedBuffer} {offset : Nat}
    (same : storage.eepBuf.take offset = storage.eeprom.read 20 offset) :
    PrefixCurrent sampleLayout.blocks storage answers (.ofWrite 0 buffer offset) := by
  intro confEntry written behind found _ typeEq _ _
  cases Option.some.inj found
  cases typeEq
  exact same

/-- Three bytes are written, then the second one again and the fourth. -/
def sampleSession : EepSession :=
  ((EepSession.next sampleLayout ⟨⟨List.replicate 8 0, fun _ => 111, []⟩, fun _ => 111, []⟩ {}
    (.ofWrite 0 [[1, 2], [3]] 0)).next sampleLayout {} (.ofWrite 0 [[9]] 1)).next sampleLayout {}
      (.ofWrite 0 [[7]] 3)

theorem readsLastWritten_sampleSession :
    sampleSession.storage.eeprom.read 20 4 = [1, 9, 3, 7] ∧
      ReadsLastWritten sampleLayout sampleSession := by
  refine ⟨by decide, (writesOwnBytes_iff_and_readsLastWritten sampleLayout).2 sampleSession ?_⟩
  refine reachable_next {} _ (reachable_next {} _ (reachable_next {} _
    (.initial ⟨rfl, rfl, rfl⟩) ⟨rfl, prefixCurrent_ofWrite ?_⟩) ⟨rfl, prefixCurrent_ofWrite ?_⟩)
    ⟨rfl, prefixCurrent_ofWrite ?_⟩ <;> decide

/-- A write to the second byte of a block, with a buffer that was never used:
the first byte of the block is lost. -/
theorem not_writesOwnBytes_secondByte :
    ¬WritesOwnBytes sampleLayout.blocks ⟨List.replicate 8 0, fun _ => 111, []⟩ {}
      (.ofWrite 0 [[90]] 1) := by
  intro ownBytes
  have kept := ((ownBytes ⟨20, 4, false⟩ [[90]] 1 rfl rfl rfl).1 (by decide)).2 20 (by decide)
  revert kept
  decide

end EepSession

end OpenBsw.Storage
