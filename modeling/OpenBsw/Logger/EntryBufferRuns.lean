import OpenBsw.Logger.EntryBuffer

/-!
# Readers of the log

The retained entries are in the buffer one behind the other, from the first to
the write pointer.  Every reader that was not overtaken points to the start of
its next entry.
-/

namespace OpenBsw.Logger

universe u

open Function OpenBsw.Bytes OpenBsw.RingMemory OpenBsw.Transition
open List hiding next

/-! ## Entries one behind the other -/

variable {index : Nat} {entry : List UInt8}

namespace EntryLog

variable {entries : List (List UInt8)}

/-- An entry in the buffer. -/
def frame (entry : List UInt8) : List UInt8 :=
  UInt8.ofNat entry.length :: entry

/-- All entries as they were written to the buffer. -/
def stream (entries : List (List UInt8)) : List UInt8 :=
  entries.flatMap frame

/-- The position of an entry in the stream. -/
def offset (entries : List (List UInt8)) (index : Nat) : Nat :=
  footprint (entries.take index)

theorem footprint_cons (entry : List UInt8) (rest : List (List UInt8)) :
    footprint (entry :: rest) = entry.length + 1 + footprint rest := rfl

theorem footprint_append (front back : List (List UInt8)) :
    footprint (front ++ back) = footprint front + footprint back := by
  rw [footprint, map_append, sum_append]
  rfl

theorem length_stream (entries : List (List UInt8)) :
    (stream entries).length = footprint entries := by
  induction entries with
  | nil => rfl
  | cons entry rest ih =>
    rw [stream, flatMap_cons, List.length_append, footprint_cons, ← ih]
    rfl

theorem footprint_split (entries : List (List UInt8)) (index : Nat) :
    footprint entries = offset entries index + footprint (entries.drop index) := by
  rw [offset, ← footprint_append, take_append_drop]

theorem offset_succ (present : entries[index]? = some entry) :
    offset entries (index + 1) = offset entries index + (entry.length + 1) := by
  rw [offset, take_add_one, present, footprint_append]
  rfl

theorem offset_append (inside : index ≤ entries.length) (entry : List UInt8) :
    offset (entries ++ [entry]) index = offset entries index := by
  rw [offset, take_append_of_le_length inside]
  rfl

/-- An entry stands in the stream at its position. -/
theorem stream_eq (present : entries[index]? = some entry) :
    stream entries = stream (entries.take index) ++ (frame entry ++
      stream (entries.drop (index + 1))) := by
  obtain ⟨inside, element⟩ := List.getElem?_eq_some_iff.mp present
  have split : entries = entries.take index ++ (entry :: entries.drop (index + 1)) := by
    rw [← element, ← drop_eq_getElem_cons inside, take_append_drop]
  calc
    stream entries = stream (entries.take index ++ (entry :: entries.drop (index + 1))) := by
      rw [← split]
    _ = _ := by
      rw [stream, flatMap_append, flatMap_cons]
      rfl

theorem stream_offset (present : entries[index]? = some entry) :
    (stream entries)[offset entries index]? = some (UInt8.ofNat entry.length) := by
  have front : (stream (entries.take index)).length = offset entries index := length_stream _
  rw [stream_eq present, List.getElem?_append_right (by omega), front, Nat.sub_self]
  rfl

theorem slice_stream (present : entries[index]? = some entry) (count : Nat)
    (inside : count ≤ entry.length) :
    slice (stream entries) (offset entries index + 1) count = entry.take count := by
  have front : (stream (entries.take index)).length = offset entries index := length_stream _
  rw [stream_eq present, slice, ← drop_drop, drop_left' front, frame, cons_append,
    drop_succ_cons, drop_zero, take_append_of_le_length inside]

/-! ## Removing the oldest entries -/

theorem overflow_le (size neededSize : Nat) (entries : List (List UInt8)) :
    overflow size neededSize entries ≤ entries.length := by
  induction entries with
  | nil => exact Nat.le_refl _
  | cons entry rest ih =>
    rw [overflow]
    split_ifs
    · exact Nat.succ_le_succ ih
    · exact Nat.zero_le _

/-- An entry is removed only where the new one does not fit. -/
theorem overflow_needed {size neededSize fewer : Nat}
    (less : fewer < overflow size neededSize entries) :
    size < footprint (entries.drop fewer) + neededSize := by
  induction entries generalizing fewer with
  | nil => exact absurd less (Nat.not_lt_zero _)
  | cons entry rest ih =>
    rw [overflow] at less
    split_ifs at less with full
    · cases fewer with
      | zero => exact full
      | succ fewer => exact ih (Nat.lt_of_succ_lt_succ less)
    · exact absurd less (Nat.not_lt_zero _)

end EntryLog

open EntryLog

/-! ## The buffer holds the retained entries -/

structure Stored {bits : Nat} (buffer : EntryBuffer bits) (entries : List (List UInt8))
    (removed : Nat) : Prop where
  holds : Holds buffer.buffer (stream entries) (offset entries removed) (footprint entries)
  firstEntry : buffer.firstEntry = offset entries removed % buffer.size
  write : buffer.write = footprint entries % buffer.size
  usedSize : buffer.usedSize = footprint (entries.drop removed)
  fits : buffer.usedSize ≤ buffer.size
  firstEntryIndex : buffer.firstEntryIndex = (removed : BitVec bits)
  writeEntryIndex : buffer.writeEntryIndex = (entries.length : BitVec bits)
  within : removed ≤ entries.length
  bytes : ∀ entry ∈ entries, entry.length < 256
  positive : 0 < buffer.size

namespace Stored

variable {bits : Nat} {buffer : EntryBuffer bits} {entries : List (List UInt8)} {removed : Nat}

/-- The offsets of the retained entries are inside the window. -/
theorem offset_bounds (stored : Stored buffer entries removed)
    (present : entries[index]? = some entry) (later : removed ≤ index) :
    offset entries removed ≤ offset entries index ∧
      offset entries index + (entry.length + 1) ≤ footprint entries ∧
      entry.length + 1 ≤ buffer.size := by
  have whole := footprint_split entries removed
  have fits := stored.fits
  rw [stored.usedSize] at fits
  have upTo : offset entries index = offset entries removed +
      footprint ((entries.take index).drop removed) := by
    have split := footprint_split (entries.take index) removed
    have same : offset (entries.take index) removed = offset entries removed := by
      rw [offset, offset, take_take, Nat.min_eq_left later]
    rw [same] at split
    exact split
  have behind := footprint_split entries (index + 1)
  rw [offset_succ present] at behind
  refine ⟨by omega, by omega, by omega⟩

/-- The length byte of a retained entry. -/
theorem load_offset (stored : Stored buffer entries removed)
    (present : entries[index]? = some entry) (later : removed ≤ index) :
    buffer.load (offset entries index % buffer.size) = entry.length := by
  obtain ⟨above, below, _⟩ := stored.offset_bounds present later
  rw [EntryBuffer.load, EntryBuffer.size, stored.holds _ above (by omega), stream_offset present]
  exact Nat.mod_eq_of_lt (stored.bytes entry (mem_of_getElem? present))

theorem removeFirst (stored : Stored buffer entries removed)
    (present : entries[removed]? = some entry) :
    Stored buffer.removeFirst entries (removed + 1) := by
  obtain ⟨_, _, small⟩ := stored.offset_bounds present (Nat.le_refl _)
  have length : buffer.load buffer.firstEntry = entry.length := by
    rw [stored.firstEntry]
    exact stored.load_offset present (Nat.le_refl _)
  obtain ⟨inside, element⟩ := List.getElem?_eq_some_iff.mp present
  have used : buffer.usedSize = entry.length + 1 + footprint (entries.drop (removed + 1)) := by
    rw [stored.usedSize, drop_eq_getElem_cons inside, element, footprint_cons]
  constructor
  · exact stored.holds.mono (by rw [offset_succ present]; exact Nat.le_add_right _ _)
  · change buffer.movePointer buffer.firstEntry (buffer.load buffer.firstEntry + 1) = _
    rw [length, stored.firstEntry, EntryBuffer.movePointer, move_mod _ small stored.positive,
      offset_succ present]
    rfl
  · exact stored.write
  · change buffer.usedSize - (buffer.load buffer.firstEntry + 1) = _
    rw [length]
    omega
  · exact Nat.le_trans (Nat.sub_le _ _) stored.fits
  · change buffer.firstEntryIndex + 1 = _
    rw [stored.firstEntryIndex]
    push_cast
    rfl
  · exact stored.writeEntryIndex
  · exact inside
  · exact stored.bytes
  · exact stored.positive

/-- The loop ends with room for the new entry, and removes no more entries than it must. -/
theorem makeRoom (stored : Stored buffer entries removed) {neededSize rounds : Nat}
    (small : neededSize ≤ buffer.size) (enough : buffer.usedSize < rounds) :
    Stored (buffer.makeRoom neededSize rounds) entries
        (removed + overflow buffer.size neededSize (entries.drop removed)) ∧
      (buffer.makeRoom neededSize rounds).usedSize + neededSize ≤ buffer.size ∧
      (buffer.makeRoom neededSize rounds).size = buffer.size := by
  induction rounds generalizing buffer removed with
  | zero => exact absurd enough (Nat.not_lt_zero _)
  | succ rounds ih =>
    have used := stored.usedSize
    rw [EntryBuffer.makeRoom]
    cases retained : entries.drop removed with
    | nil =>
      rw [retained] at used
      have none : buffer.usedSize = 0 := used
      rw [if_neg (by omega)]
      exact ⟨stored, by omega, rfl⟩
    | cons entry rest =>
      have present : entries[removed]? = some entry := by
        rw [← List.head?_drop, retained]
        rfl
      have tail : entries.drop (removed + 1) = rest := by
        rw [← drop_drop, retained]
        rfl
      rw [retained] at used
      rw [overflow, ← used]
      by_cases full : buffer.size < buffer.usedSize + neededSize
      · have removedStored := stored.removeFirst present
        have fewer := removedStored.usedSize
        rw [tail] at fewer
        rw [footprint_cons] at used
        have further := ih removedStored small (by omega)
        rw [tail] at further
        rw [if_pos full, if_pos full, ← Nat.add_assoc, Nat.add_right_comm]
        exact further
      · rw [if_neg full, if_neg full]
        exact ⟨stored, by omega, rfl⟩

theorem append_holds (block : List UInt8) {stream : List UInt8} {low high : Nat}
    (holds : Holds buffer.buffer stream low high) (length : stream.length = high)
    (ordered : low ≤ high) (room : high + block.length ≤ low + buffer.size)
    (positive : 0 < buffer.size) (write : buffer.write = high % buffer.size) :
    Holds (buffer.append block).buffer (stream ++ block) low (high + block.length) ∧
      (buffer.append block).size = buffer.size ∧
      (buffer.append block).write = (high + block.length) % buffer.size := by
  refine ⟨?_, ?_, ?_⟩
  · change Holds (put buffer.buffer buffer.write block) _ _ _
    rw [write]
    exact holds.put length ordered room positive
  · apply length_put
    · rw [write]
      exact Nat.le_of_lt (Nat.mod_lt _ positive)
    · change block.length ≤ buffer.size
      omega
  · change buffer.movePointer buffer.write block.length = _
    rw [write]
    exact move_mod _ (by omega) positive

/-- A new entry is stored behind the newest one. -/
theorem store (stored : Stored buffer entries removed)
    (room : buffer.usedSize + (entry.length + 1) ≤ buffer.size) (byte : entry.length < 256) :
    Stored (buffer.store entry) (entries ++ [entry]) removed ∧
      (buffer.store entry).size = buffer.size := by
  have whole := footprint_split entries removed
  have used := stored.usedSize
  obtain ⟨lengthHolds, lengthSize, lengthWrite⟩ := append_holds
    [UInt8.ofNat entry.length] stored.holds (length_stream entries) (by omega)
    (by rw [length_singleton]; omega) stored.positive stored.write
  have positive : 0 < (buffer.append [UInt8.ofNat entry.length]).size := by
    rw [lengthSize]
    exact stored.positive
  obtain ⟨holds, size, write⟩ := append_holds entry lengthHolds
    (by rw [List.length_append, length_stream]) (by omega)
    (by rw [lengthSize, length_singleton]; omega) positive (by rw [lengthSize]; exact lengthWrite)
  rw [lengthSize] at size
  rw [lengthSize, length_singleton] at write
  have total : footprint (entries ++ [entry]) = footprint entries + 1 + entry.length := by
    rw [footprint_append]
    change _ + (entry.length + 1 + 0) = _
    omega
  refine ⟨⟨?_, ?_, ?_, ?_, ?_, stored.firstEntryIndex, ?_, ?_, ?_, ?_⟩, size⟩
  · rw [offset_append stored.within, total, stream, flatMap_append]
    rw [length_singleton] at holds
    change Holds ((buffer.append [UInt8.ofNat entry.length]).append entry).buffer
      (stream entries ++ (frame entry ++ [])) _ _
    rw [append_nil]
    rw [append_assoc] at holds
    exact holds
  · change buffer.firstEntry = offset _ _ %
      ((buffer.append [UInt8.ofNat entry.length]).append entry).size
    rw [size, offset_append stored.within]
    exact stored.firstEntry
  · change ((buffer.append [UInt8.ofNat entry.length]).append entry).write = footprint _ %
      ((buffer.append [UInt8.ofNat entry.length]).append entry).size
    rw [size, write, total]
  · change buffer.usedSize + (entry.length + 1) = _
    rw [drop_append_of_le_length stored.within, footprint_append, used]
    rfl
  · change buffer.usedSize + (entry.length + 1) ≤
      ((buffer.append [UInt8.ofNat entry.length]).append entry).size
    rw [size]
    exact room
  · change buffer.writeEntryIndex + 1 = _
    rw [stored.writeEntryIndex, List.length_append]
    push_cast
    rfl
  · rw [List.length_append]
    exact Nat.le_trans stored.within (Nat.le_add_right _ _)
  · intro other member
    rcases mem_append.mp member with earlier | here
    · exact stored.bytes other earlier
    · rw [mem_singleton.mp here]
      exact byte
  · change 0 < ((buffer.append [UInt8.ofNat entry.length]).append entry).size
    rw [size]
    exact stored.positive

end Stored

/-! ## Indices -/

/-- Indices less than half their range apart are compared by the sign of their difference. -/
theorem toInt_sub_neg_iff (bits : Nat) {first second limit : Nat} (firstNear : first ≤ limit)
    (firstLimit : limit - first < 2 ^ (bits - 1)) (secondNear : second ≤ limit)
    (secondLimit : limit - second < 2 ^ (bits - 1)) (positive : 0 < bits) :
    ((first : BitVec bits) - (second : BitVec bits)).toInt < 0 ↔ first < second := by
  have half : 2 ^ bits = 2 ^ (bits - 1) + 2 ^ (bits - 1) := by
    rw [← Nat.two_mul, ← Nat.pow_succ']
    congr 1
    omega
  by_cases less : first < second
  · obtain ⟨step, rfl⟩ := Nat.exists_eq_add_of_lt less
    have difference : (first : BitVec bits) - ((first + step + 1 : Nat) : BitVec bits) =
        BitVec.ofNat bits (2 ^ bits - (step + 1)) := by
      have zero : ((2 ^ bits : Nat) : BitVec bits) = 0 := by
        apply BitVec.eq_of_toNat_eq
        exact Nat.mod_self _
      change _ = ((2 ^ bits - (step + 1) : Nat) : BitVec bits)
      rw [Nat.cast_sub (by omega), zero]
      push_cast
      ring
    rw [difference, BitVec.toInt_eq_toNat_bmod, BitVec.toNat_ofNat,
      Nat.mod_eq_of_lt (by omega), Int.bmod_def]
    constructor
    · exact fun _ => less
    · intro _
      have small : ((2 ^ bits - (step + 1) : Nat) : Int) % ((2 ^ bits : Nat) : Int) =
          ((2 ^ bits - (step + 1) : Nat) : Int) := Int.emod_eq_of_lt (by omega) (by omega)
      rw [small, if_neg (by omega)]
      omega
  · obtain ⟨step, rfl⟩ := Nat.exists_eq_add_of_le (Nat.le_of_not_lt less)
    have difference : ((second + step : Nat) : BitVec bits) - (second : BitVec bits) =
        BitVec.ofNat bits step := by
      change _ = ((step : Nat) : BitVec bits)
      push_cast
      ring
    rw [difference, BitVec.toInt_eq_toNat_bmod, BitVec.toNat_ofNat,
      Nat.mod_eq_of_lt (by omega), Int.bmod_def]
    have small : ((step : Nat) : Int) % ((2 ^ bits : Nat) : Int) = (step : Int) :=
      Int.emod_eq_of_lt (by omega) (by omega)
    rw [small, if_pos (by omega)]
    constructor
    · intro negative
      omega
    · intro impossible
      exact absurd impossible less

theorem cast_eq_iff {bits first second : Nat} (ordered : first ≤ second)
    (near : second - first < 2 ^ bits) :
    (first : BitVec bits) = (second : BitVec bits) ↔ first = second := by
  constructor
  · intro same
    have modEq : second % 2 ^ bits = first % 2 ^ bits := (congrArg BitVec.toNat same).symm
    exact (Ring.eq_of_mod_eq ordered (by omega) modEq).symm
  · exact congrArg _

/-! ## Runs -/

/-- A buffer with its readers, and the log they should follow. -/
structure BufferRun (bits : Nat) (ι : Type u) where
  buffer : EntryBuffer bits
  readers : ι → EntryRef bits
  log : EntryLog ι := {}
  /-- What each reader got: the index in its reference and the bytes in its buffer. -/
  delivered : ι → List (Option (BitVec bits × List UInt8)) := fun _ => []
  /-- What each reader should have got: the number of the entry and its bytes. -/
  expected : ι → List (Option (Nat × List UInt8)) := fun _ => []

inductive BufferEvent (ι : Type u) where
  | addEntry (entryBuffer : List UInt8)
  | getNextEntry (reader : ι) (bufferSize : Nat)

namespace BufferRun

variable {bits maxBufferSize : Nat} {ι : Type u}

def addEntry (maxBufferSize : Nat) (run : BufferRun bits ι) (entryBuffer : List UInt8) :
    BufferRun bits ι :=
  { run with
    buffer := run.buffer.addEntry maxBufferSize entryBuffer
    log := run.log.add run.buffer.size (entryBuffer.take maxBufferSize) }

def getNextEntry [DecidableEq ι] (run : BufferRun bits ι) (reader : ι) (bufferSize : Nat) :
    BufferRun bits ι :=
  let result := run.buffer.getNextEntry bufferSize (run.readers reader)
  { run with
    readers :=
      Function.update run.readers reader ((result.map Prod.snd).getD (run.readers reader))
    log := run.log.advance reader
    delivered :=
      Function.update run.delivered reader
        (run.delivered reader ++ [result.map fun given => (given.2.idx, given.1)])
    expected :=
      Function.update run.expected reader
        (run.expected reader ++
          [(run.log.read reader).map fun entry => (entry.1, entry.2.take bufferSize)]) }

def perform [DecidableEq ι] (maxBufferSize : Nat) (run : BufferRun bits ι) :
    BufferEvent ι → BufferRun bits ι
  | .addEntry entryBuffer => run.addEntry maxBufferSize entryBuffer
  | .getNextEntry reader bufferSize => run.getNextEntry reader bufferSize

/-- Entries are not empty, and a reader that asks for an entry is less than half the range of the
index behind. -/
def Possible (run : BufferRun bits ι) : BufferEvent ι → Prop
  | .addEntry entryBuffer => entryBuffer ≠ []
  | .getNextEntry reader _ => run.log.behind reader < 2 ^ (bits - 1)

def system (maxBufferSize bits : Nat) (ι : Type u) [DecidableEq ι] :
    System (BufferRun bits ι) (BufferEvent ι) where
  Initial run := ∃ buffer readers, run = { buffer := { buffer }, readers := readers } ∧
    maxBufferSize < buffer.length ∧ ∀ reader, (readers reader).readPos = none
  Step source event target :=
    target = source.perform maxBufferSize event ∧ source.Possible event

/-- The index can tell the retained entries apart from those that were removed. -/
def Distinguishable (run : BufferRun bits ι) : BufferEvent ι → Prop
  | .addEntry _ => True
  | .getNextEntry _ _ => run.log.retained.length < 2 ^ (bits - 1)

instance (run : BufferRun bits ι) : (event : BufferEvent ι) → Decidable (run.Possible event)
  | .addEntry _ => inferInstanceAs (Decidable (_ ≠ _))
  | .getNextEntry _ _ => inferInstanceAs (Decidable (_ < _))

instance (run : BufferRun bits ι) :
    (event : BufferEvent ι) → Decidable (run.Distinguishable event)
  | .addEntry _ => inferInstanceAs (Decidable True)
  | .getNextEntry _ _ => inferInstanceAs (Decidable (_ < _))

structure Correct (run : BufferRun bits ι) : Prop where
  usedSize : run.buffer.usedSize = footprint run.log.retained
  fits : run.buffer.usedSize ≤ run.buffer.size
  /-- The oldest entry was removed only when a new one did not fit. -/
  maximal : ∀ fewer < run.log.removed,
    run.buffer.size < footprint (run.log.entries.drop fewer)
  /-- Readers get the entries they should get, with the index behind the entry. -/
  delivered : ∀ reader, run.delivered reader =
    (run.expected reader).map (Option.map fun entry =>
      (((entry.1 + 1 : Nat) : BitVec bits), entry.2))
  /-- No entry comes twice or before an earlier one. -/
  ordered : ∀ reader, ((run.expected reader).filterMap id).Pairwise fun first second =>
    first.1 < second.1
  exactly : ∀ reader, ∀ entry ∈ (run.expected reader).filterMap id,
    ∃ whole, run.log.entries[entry.1]? = some whole ∧ ∃ count, entry.2 = whole.take count

/-! ## The invariant -/

/-- A reader that was not overtaken points to its next entry. -/
def Points (size removed : Nat) (entries : List (List UInt8)) (entryRef : EntryRef bits) :
    Option Nat → Prop
  | none => entryRef.readPos = none
  | some next =>
    entryRef.idx = (next : BitVec bits) ∧ next ≤ entries.length ∧
      ∃ readPos, entryRef.readPos = some readPos ∧
        (removed ≤ next → readPos = offset entries next % size)

structure Invariant (maxBufferSize : Nat) (run : BufferRun bits ι) : Prop where
  correct : Correct run
  stored : Stored run.buffer run.log.entries run.log.removed
  large : maxBufferSize < run.buffer.size
  points : ∀ reader, Points run.buffer.size run.log.removed run.log.entries (run.readers reader)
    (run.log.next reader)
  earlier : ∀ reader, ∀ entry ∈ (run.expected reader).filterMap id,
    entry.1 < (run.log.next reader).getD 0

variable {run : BufferRun bits ι}

theorem Invariant.addEntry (invariant : run.Invariant maxBufferSize) (byte : maxBufferSize < 256)
    (entryBuffer : List UInt8) :
    (run.addEntry maxBufferSize entryBuffer).Invariant maxBufferSize := by
  have correct := invariant.correct
  have entryLength : (entryBuffer.take maxBufferSize).length ≤ maxBufferSize :=
    length_take_le _ _
  generalize entryEq : entryBuffer.take maxBufferSize = entry at entryLength
  have large := invariant.large
  obtain ⟨made, room, madeSize⟩ := invariant.stored.makeRoom
    (show entry.length + 1 ≤ run.buffer.size by omega) (Nat.lt_succ_self run.buffer.usedSize)
  obtain ⟨stored, size⟩ := made.store (by rw [madeSize]; exact room)
    (show entry.length < 256 by omega)
  rw [madeSize] at size
  have added : run.buffer.addEntry maxBufferSize entryBuffer =
      (run.buffer.makeRoom (entry.length + 1) (run.buffer.usedSize + 1)).store entry := by
    rw [EntryBuffer.addEntry, entryEq]
  rw [BufferRun.addEntry, entryEq, added]
  have within := invariant.stored.within
  refine ⟨⟨stored.usedSize, stored.fits, ?_, correct.delivered, correct.ordered, ?_⟩, stored, ?_,
    ?_, invariant.earlier⟩
  · intro fewer less
    change (EntryBuffer.store _ entry).size < footprint ((run.log.entries ++ [entry]).drop fewer)
    have bound : fewer ≤ run.log.entries.length := by
      have atMost := overflow_le run.buffer.size (entry.length + 1) run.log.retained
      rw [EntryLog.retained, length_drop] at atMost
      change fewer < run.log.removed +
        overflow run.buffer.size (entry.length + 1) (run.log.entries.drop run.log.removed) at less
      omega
    rw [size, drop_append_of_le_length bound, footprint_append]
    change _ < _ + (entry.length + 1 + 0)
    by_cases before : fewer < run.log.removed
    · have still := correct.maximal fewer before
      omega
    · obtain ⟨step, rfl⟩ := Nat.exists_eq_add_of_le (Nat.le_of_not_lt before)
      have needed := overflow_needed (Nat.lt_of_add_lt_add_left less)
      rw [EntryLog.retained, drop_drop] at needed
      omega
  · intro reader given member
    obtain ⟨whole, present, count, same⟩ := correct.exactly reader given member
    refine ⟨whole, ?_, count, same⟩
    obtain ⟨inside, _⟩ := List.getElem?_eq_some_iff.mp present
    change (run.log.entries ++ [entry])[given.1]? = _
    rw [List.getElem?_append_left inside]
    exact present
  · change maxBufferSize < (EntryBuffer.store _ entry).size
    rw [size]
    exact large
  · intro reader
    have points := invariant.points reader
    change Points (EntryBuffer.store _ entry).size _ (run.log.entries ++ [entry])
      (run.readers reader) (run.log.next reader)
    rw [size]
    cases next : run.log.next reader with
    | none =>
      rw [next] at points
      exact points
    | some next =>
      rw [‹run.log.next reader = _›] at points
      obtain ⟨idx, inside, readPos, pointer, starts⟩ := points
      refine ⟨idx, ?_, readPos, pointer, fun retained => ?_⟩
      · rw [List.length_append]
        exact Nat.le_trans inside (Nat.le_add_right _ _)
      · rw [offset_append inside]
        exact starts (Nat.le_trans (Nat.le_add_right _ _) retained)

/-- A reader continues behind the last entry it read, or at the oldest one. -/
theorem Invariant.position (invariant : run.Invariant maxBufferSize) {reader : ι}
    (positive : 0 < bits) (near : run.log.behind reader < 2 ^ (bits - 1))
    (distinguishable : run.log.retained.length < 2 ^ (bits - 1)) :
    run.buffer.position (run.readers reader) =
      ((run.log.target reader : BitVec bits),
        offset run.log.entries (run.log.target reader) % run.buffer.size) := by
  have points := invariant.points reader
  have stored := invariant.stored
  rw [EntryLog.retained, length_drop] at distinguishable
  rw [EntryLog.behind] at near
  rw [EntryBuffer.position, EntryLog.target]
  cases started : run.log.next reader with
  | none =>
    rw [started] at points
    rw [show (run.readers reader).readPos = none from points, Option.getD_none, Nat.zero_max,
      stored.firstEntryIndex, stored.firstEntry]
  | some next =>
    rw [started] at points near
    obtain ⟨idx, inside, readPos, pointer, starts⟩ := points
    have compare := toInt_sub_neg_iff bits inside near stored.within distinguishable
      positive
    rw [pointer, idx, stored.firstEntryIndex, Option.getD_some]
    dsimp only
    by_cases overtaken : next < run.log.removed
    · rw [if_pos (compare.mpr overtaken), Nat.max_eq_right (Nat.le_of_lt overtaken),
        stored.firstEntry]
    · rw [if_neg (fun negative => overtaken (compare.mp negative)),
        Nat.max_eq_left (Nat.le_of_not_lt overtaken), starts (Nat.le_of_not_lt overtaken)]

theorem Invariant.target_le (invariant : run.Invariant maxBufferSize) (reader : ι) :
    run.log.target reader ≤ run.log.entries.length := by
  have points := invariant.points reader
  apply Nat.max_le.mpr
  refine ⟨?_, invariant.stored.within⟩
  cases next : run.log.next reader with
  | none => exact Nat.zero_le _
  | some next =>
    rw [‹run.log.next reader = _›] at points
    exact points.2.1

/-- The buffer gives a reader its next entry. -/
theorem Invariant.result (invariant : run.Invariant maxBufferSize) {reader : ι}
    (positive : 0 < bits) (near : run.log.behind reader < 2 ^ (bits - 1))
    (distinguishable : run.log.retained.length < 2 ^ (bits - 1)) (bufferSize : Nat) :
    run.buffer.getNextEntry bufferSize (run.readers reader) =
      (run.log.read reader).map fun entry =>
        (entry.2.take bufferSize,
          { idx := ((run.log.target reader + 1 : Nat) : BitVec bits),
            readPos := some
              (offset run.log.entries (run.log.target reader + 1) % run.buffer.size) }) := by
  have stored := invariant.stored
  have atMost := invariant.target_le reader
  have later : run.log.removed ≤ run.log.target reader := Nat.le_max_right _ _
  rw [EntryBuffer.getNextEntry, invariant.position positive near distinguishable, EntryLog.read]
  dsimp only
  rw [EntryLog.retained, length_drop] at distinguishable
  have range : 2 ^ (bits - 1) ≤ 2 ^ bits := Nat.pow_le_pow_right (by decide) (Nat.sub_le _ _)
  rw [stored.writeEntryIndex]
  by_cases newest : run.log.target reader = run.log.entries.length
  · rw [newest, if_pos rfl, List.getElem?_eq_none (Nat.le_refl _)]
    rfl
  · have inside : run.log.target reader < run.log.entries.length :=
      Nat.lt_of_le_of_ne atMost newest
    rw [if_neg (fun same => newest ((cast_eq_iff atMost (by omega)).mp same))]
    have present := List.getElem?_eq_getElem inside
    generalize run.log.entries[run.log.target reader] = entry at present
    obtain ⟨above, below, small⟩ := stored.offset_bounds present later
    rw [present, stored.load_offset present later]
    have data : run.buffer.movePointer
        (offset run.log.entries (run.log.target reader) % run.buffer.size) 1 =
          (offset run.log.entries (run.log.target reader) + 1) % run.buffer.size :=
      move_mod _ (by omega) stored.positive
    have update : run.buffer.movePointer
        ((offset run.log.entries (run.log.target reader) + 1) % run.buffer.size) entry.length =
          offset run.log.entries (run.log.target reader + 1) % run.buffer.size := by
      rw [offset_succ present, Nat.add_comm entry.length 1, ← Nat.add_assoc]
      exact move_mod _ (by omega) stored.positive
    have bytes : RingMemory.get run.buffer.buffer
        ((offset run.log.entries (run.log.target reader) + 1) % run.buffer.size)
          (min entry.length bufferSize) = entry.take bufferSize := by
      have atMostEntry : min entry.length bufferSize ≤ entry.length := Nat.min_le_left _ _
      rw [EntryBuffer.size, stored.holds.get (by omega) (by omega)
        (Nat.le_trans atMostEntry (by change _ ≤ run.buffer.size; omega)) stored.positive,
        slice_stream present _ atMostEntry, Nat.min_comm, ← take_take, take_length]
    rw [data, update, bytes]
    push_cast
    rfl

/-- A step of a reader that only appends to what it got. -/
theorem Correct.deliver (correct : run.Correct) [DecidableEq ι] (reader : ι)
    (given : Option (Nat × List UInt8))
    (later : ∀ entry ∈ (run.expected reader).filterMap id, ∀ new ∈ given, entry.1 < new.1)
    (genuine : ∀ new ∈ given, ∃ whole, run.log.entries[new.1]? = some whole ∧
      ∃ count, new.2 = whole.take count)
    (readers : ι → EntryRef bits) (next : ι → Option Nat) :
    Correct { run with
      readers := readers
      log := { run.log with next := next }
      delivered := Function.update run.delivered reader
        (run.delivered reader ++
          [given.map fun entry => (((entry.1 + 1 : Nat) : BitVec bits), entry.2)])
      expected := Function.update run.expected reader (run.expected reader ++ [given]) } where
  usedSize := correct.usedSize
  fits := correct.fits
  maximal := correct.maximal
  delivered := by
    intro other
    by_cases same : other = reader
    · subst same
      dsimp only
      rw [update_self, update_self, map_append, correct.delivered]
      rfl
    · dsimp only
      rw [update_of_ne same, update_of_ne same]
      exact correct.delivered other
  ordered := by
    intro other
    dsimp only
    by_cases same : other = reader
    · subst same
      rw [update_self, filterMap_append]
      apply pairwise_append.mpr
      refine ⟨correct.ordered other, ?_, fun entry member new newMember => ?_⟩
      · cases given with
        | none => exact List.Pairwise.nil
        | some new => exact pairwise_singleton _ _
      · apply later entry member new
        cases given with
        | none => cases newMember
        | some only =>
          rw [mem_singleton.mp newMember]
          rfl
    · rw [update_of_ne same]
      exact correct.ordered other
  exactly := by
    intro other
    dsimp only
    by_cases same : other = reader
    · subst same
      rw [update_self, filterMap_append]
      intro entry member
      rcases mem_append.mp member with earlier | here
      · exact correct.exactly other entry earlier
      · cases given with
        | none => cases here
        | some only =>
          rw [mem_singleton.mp here]
          exact genuine only rfl
    · rw [update_of_ne same]
      exact correct.exactly other

theorem Invariant.getNextEntry (invariant : run.Invariant maxBufferSize) [DecidableEq ι]
    {reader : ι} (positive : 0 < bits) (near : run.log.behind reader < 2 ^ (bits - 1))
    (distinguishable : run.log.retained.length < 2 ^ (bits - 1)) (bufferSize : Nat) :
    (run.getNextEntry reader bufferSize).Invariant maxBufferSize := by
  have correct := invariant.correct
  have result := invariant.result positive near distinguishable bufferSize
  rw [BufferRun.getNextEntry, result, EntryLog.advance, EntryLog.read]
  by_cases newest : run.log.target reader < run.log.entries.length
  · have present := List.getElem?_eq_getElem newest
    generalize run.log.entries[run.log.target reader] = entry at present
    rw [if_pos newest, present]
    have correctThen := correct.deliver reader
      (some (run.log.target reader, entry.take bufferSize))
      (by
        intro earlier member new isNew
        cases isNew
        exact Nat.lt_of_lt_of_le (invariant.earlier reader earlier member) (Nat.le_max_left _ _))
      (by
        intro new isNew
        cases isNew
        exact ⟨entry, present, bufferSize, rfl⟩)
      (Function.update run.readers reader
        { idx := ((run.log.target reader + 1 : Nat) : BitVec bits),
          readPos := some
            (offset run.log.entries (run.log.target reader + 1) % run.buffer.size) })
      (Function.update run.log.next reader (some (run.log.target reader + 1)))
    refine ⟨correctThen, invariant.stored, invariant.large, ?_, ?_⟩
    · intro other
      by_cases same : other = reader
      · subst same
        change Points _ _ _ (Function.update run.readers other _ other)
          (Function.update run.log.next other _ other)
        rw [update_self, update_self]
        exact ⟨rfl, newest, _, rfl, fun _ => rfl⟩
      · change Points _ _ _ (Function.update run.readers reader _ other)
          (Function.update run.log.next reader _ other)
        rw [update_of_ne same, update_of_ne same]
        exact invariant.points other
    · intro other
      by_cases same : other = reader
      · subst same
        intro earlier member
        change earlier ∈ (Function.update run.expected other _ other).filterMap id at member
        change _ < (Function.update run.log.next other _ other).getD 0
        rw [update_self] at member ⊢
        rw [filterMap_append] at member
        rcases mem_append.mp member with before | here
        · exact Nat.lt_succ_of_lt
            (Nat.lt_of_lt_of_le (invariant.earlier other earlier before) (Nat.le_max_left _ _))
        · rw [mem_singleton.mp here]
          exact Nat.lt_succ_self _
      · intro earlier member
        change earlier ∈ (Function.update run.expected reader _ other).filterMap id at member
        change _ < (Function.update run.log.next reader _ other).getD 0
        rw [update_of_ne same] at member ⊢
        exact invariant.earlier other earlier member
  · have absent := List.getElem?_eq_none (Nat.le_of_not_lt newest)
    rw [if_neg newest, absent]
    have correctThen := correct.deliver reader none
      (fun _ _ _ isNew => by cases isNew) (fun _ isNew => by cases isNew)
      (Function.update run.readers reader (run.readers reader)) run.log.next
    refine ⟨correctThen, invariant.stored, invariant.large, ?_, ?_⟩
    · intro other
      change Points _ _ _ (Function.update run.readers reader (run.readers reader) other)
        (run.log.next other)
      rw [update_eq_self]
      exact invariant.points other
    · intro other earlier member
      change earlier ∈ (Function.update run.expected reader _ other).filterMap id at member
      apply invariant.earlier other earlier
      by_cases same : other = reader
      · subst same
        rw [update_self, filterMap_append] at member
        rcases mem_append.mp member with before | here
        · exact before
        · cases here
      · rw [update_of_ne same] at member
        exact member

/-! ## Runs -/

variable [DecidableEq ι]

theorem invariant_inductive (byte : maxBufferSize < 256) (positive : 0 < bits) :
    ((system maxBufferSize bits ι).restrict Distinguishable).Inductive
      (Invariant maxBufferSize) where
  initial := by
    rintro _ ⟨buffer, readers, rfl, large, fresh⟩
    have size : 0 < buffer.length := by omega
    constructor
    · exact ⟨rfl, Nat.zero_le _, fun _ less => absurd less (Nat.not_lt_zero _), fun _ => rfl,
        fun _ => List.Pairwise.nil, fun _ _ member => absurd member not_mem_nil⟩
    · constructor
      · exact fun position _ below => absurd below (Nat.not_lt_zero _)
      · exact (Nat.zero_mod _).symm
      · exact (Nat.zero_mod _).symm
      · rfl
      · exact Nat.zero_le _
      · rfl
      · rfl
      · exact Nat.le_refl _
      · exact fun _ member => absurd member not_mem_nil
      · exact size
    · exact large
    · exact fresh
    · exact fun _ _ member => absurd member not_mem_nil
  step := by
    rintro source event target invariant ⟨⟨rfl, near⟩, distinguishable⟩
    cases event with
    | addEntry entryBuffer => exact invariant.addEntry byte entryBuffer
    | getNextEntry reader bufferSize =>
      exact invariant.getNextEntry positive near distinguishable bufferSize

/-- Every reader gets a suffix of the log with its gaps marked by the indices, as long as the
index can tell the retained entries apart. -/
theorem readers_exact (byte : maxBufferSize < 256) (positive : 0 < bits)
    {run : BufferRun bits ι}
    (reached : ((system maxBufferSize bits ι).restrict Distinguishable).Reachable run) :
    run.Correct :=
  ((invariant_inductive byte positive).of_reachable reached).correct

/-! ## Particular runs -/

/-- The run behind some events. -/
def play (maxBufferSize : Nat) (run : BufferRun bits ι) (events : List (BufferEvent ι)) :
    BufferRun bits ι :=
  events.foldl (perform maxBufferSize) run

/-- Every event of a run meets a condition. -/
def meets (maxBufferSize : Nat) (condition : BufferRun bits ι → BufferEvent ι → Bool) :
    BufferRun bits ι → List (BufferEvent ι) → Bool
  | _, [] => true
  | run, event :: rest =>
    condition run event && meets maxBufferSize condition (run.perform maxBufferSize event) rest

theorem reachable_play {run : BufferRun bits ι}
    (Condition : BufferRun bits ι → BufferEvent ι → Prop)
    {condition : BufferRun bits ι → BufferEvent ι → Bool}
    (sound : ∀ {run event}, condition run event = true → run.Possible event ∧ Condition run event)
    (reached : ((system maxBufferSize bits ι).restrict Condition).Reachable run)
    {events : List (BufferEvent ι)} (met : meets maxBufferSize condition run events = true) :
    ((system maxBufferSize bits ι).restrict Condition).Reachable
      (play maxBufferSize run events) := by
  induction events generalizing run with
  | nil => exact reached
  | cons event rest ih =>
    obtain ⟨first, further⟩ := Bool.and_eq_true_iff.mp met
    obtain ⟨possible, condition⟩ := sound first
    exact ih (reached.step ⟨⟨rfl, possible⟩, condition⟩) further

/-- A buffer for a few entries, and a reader that is overtaken. -/
def sampleEvents : List (BufferEvent Unit) :=
  [.addEntry [1, 2], .getNextEntry () 9, .addEntry [3, 4, 5], .addEntry [6],
    .addEntry [7, 8, 9, 10], .getNextEntry () 2, .getNextEntry () 9, .getNextEntry () 9]

def sampleStart (bits size : Nat) : BufferRun bits Unit where
  buffer := { buffer := List.replicate size 0 }
  readers _ := { idx := 0 }

/-- The second entry was removed, the last one was cut, and then there is no further one. -/
theorem readers_exact_sample :
    (play 3 (sampleStart 8 8) sampleEvents).delivered () =
        [some (1, [1, 2]), some (3, [6]), some (4, [7, 8, 9]), none] ∧
      (play 3 (sampleStart 8 8) sampleEvents).Correct := by
  have met : meets 3 (fun run event => decide (run.Possible event ∧ run.Distinguishable event))
      (sampleStart 8 8) sampleEvents = true := by decide
  exact ⟨by decide, readers_exact (by decide) (by decide)
    (reachable_play Distinguishable of_decide_eq_true
      (.initial ⟨_, _, rfl, by decide, fun _ => rfl⟩) met)⟩

/-! ## A reader of many entries -/

/-- Entries of one byte, each read when it was added. -/
def followed (count : Nat) : BufferRun 8 Unit where
  buffer :=
    { buffer := (List.replicate count [1, 7]).flatten ++ List.replicate (2 * (128 - count)) 0
      write := 2 * count
      writeEntryIndex := (count : BitVec 8)
      usedSize := 2 * count }
  readers _ :=
    { idx := (count : BitVec 8), readPos := if count = 0 then none else some (2 * count) }
  log :=
    { entries := List.replicate count [7]
      next := fun _ => if count = 0 then none else some count }
  delivered _ := (List.range count).map fun number => some (((number + 1 : Nat) : BitVec 8), [7])
  expected _ := (List.range count).map fun number => some (number, [7])

theorem length_pairs (count : Nat) :
    ((List.replicate count ([1, 7] : List UInt8)).flatten).length = 2 * count := by
  rw [length_flatten, map_replicate, sum_replicate, smul_eq_mul]
  exact Nat.mul_comm _ _

theorem size_followed {count : Nat} (few : count ≤ 128) :
    (followed count).buffer.size = 256 := by
  rw [EntryBuffer.size, followed, List.length_append, length_pairs, length_replicate]
  omega

/-- A block is written in the place of another one, before the end of the buffer. -/
theorem append_middle {self : EntryBuffer bits} {front old rest block : List UInt8}
    (content : self.buffer = front ++ old ++ rest) (write : self.write = front.length)
    (same : block.length = old.length) (more : 0 < rest.length) :
    self.append block =
      { self with buffer := front ++ block ++ rest, write := front.length + block.length } := by
  have inside : front.length + block.length < self.buffer.length := by
    rw [content, List.length_append, List.length_append]
    omega
  rw [EntryBuffer.append, EntryBuffer.movePointer, write, EntryBuffer.size, move_of_lt inside, put,
    if_neg (Nat.lt_asymm inside), content, overwrite_middle front old rest block same]

/-- One more entry behind the others. -/
theorem addEntry_followed {count : Nat} (few : count < 127) :
    (followed count).buffer.addEntry 2 [7] = (followed (count + 1)).buffer := by
  let pairs := (List.replicate count ([1, 7] : List UInt8)).flatten
  let free := List.replicate (2 * (128 - (count + 1))) (0 : UInt8)
  have room : (followed count).buffer.makeRoom 2 (2 * count + 1) = (followed count).buffer := by
    rw [EntryBuffer.makeRoom, size_followed (by omega), if_neg]
    change ¬256 < 2 * count + 2
    omega
  have content : (followed count).buffer.buffer = pairs ++ [0] ++ ([0] ++ free) := by
    have more : 2 * (128 - count) = 2 * (128 - (count + 1)) + 1 + 1 := by omega
    change pairs ++ List.replicate (2 * (128 - count)) 0 = _
    rw [more, replicate_succ, replicate_succ, append_assoc]
    rfl
  have stored : pairs ++ [1] ++ [7] ++ free = (followed (count + 1)).buffer.buffer := by
    change _ = (List.replicate (count + 1) [1, 7]).flatten ++ free
    rw [replicate_succ', flatten_concat, append_assoc pairs]
    rfl
  have left : 0 < free.length := by
    rw [length_replicate]
    omega
  have sameLength (new old : UInt8) : [new].length = [old].length := rfl
  have first := append_middle content (length_pairs count).symm (sameLength 1 0)
    (Nat.succ_pos free.length)
  have between : ((followed count).buffer.append [1]).buffer = pairs ++ [1] ++ [0] ++ free := by
    rw [first]
    exact (append_assoc _ _ _).symm
  have pointer : ((followed count).buffer.append [1]).write = (pairs ++ [1]).length := by
    rw [first]
    exact List.length_append.symm
  have second := append_middle between pointer (sameLength 7 0) left
  have written : (pairs ++ [1]).length + 1 = 2 * (count + 1) := by
    rw [List.length_append, length_pairs]
    rfl
  change ((followed count).buffer.makeRoom 2 (2 * count + 1)).store [7] = _
  rw [room, EntryBuffer.store]
  change ({ ((followed count).buffer.append [1]).append [7] with
    usedSize := 2 * (count + 1), writeEntryIndex := (count : BitVec 8) + 1 } : EntryBuffer 8) = _
  rw [second, first, stored]
  change EntryBuffer.mk _ 0 ((pairs ++ [1]).length + 1) 0 _ (2 * (count + 1)) =
    EntryBuffer.mk _ 0 (2 * (count + 1)) 0 ((count + 1 : Nat) : BitVec 8) (2 * (count + 1))
  rw [written, Nat.cast_succ]
  rfl

/-- The reader was not overtaken. -/
theorem position_followed {count : Nat} (few : count < 127) :
    (followed (count + 1)).buffer.position ((followed count).readers ()) =
      ((count : BitVec 8), 2 * count) := by
  cases count with
  | zero => rfl
  | succ number =>
    have ahead : ¬(((number + 1 : Nat) : BitVec 8) - ((0 : Nat) : BitVec 8)).toInt < 0 := by
      rw [toInt_sub_neg_iff 8 (Nat.le_refl _) (by omega) (Nat.zero_le _) (by omega) (by decide)]
      omega
    exact if_neg ahead

theorem getNextEntry_followed {count : Nat} (few : count < 127) :
    (followed (count + 1)).buffer.getNextEntry 2 ((followed count).readers ()) =
      some ([7], (followed (count + 1)).readers ()) := by
  have size : (followed (count + 1)).buffer.size = 256 := size_followed (by omega)
  have distinct : ¬(count : BitVec 8) = ((count + 1 : Nat) : BitVec 8) := by
    rw [cast_eq_iff (Nat.le_succ _) (by omega)]
    omega
  have content : (followed (count + 1)).buffer.buffer =
      (List.replicate count [1, 7]).flatten ++ [1, 7] ++
        List.replicate (2 * (128 - (count + 1))) 0 := by
    change (List.replicate (count + 1) [1, 7]).flatten ++ _ = _
    rw [replicate_succ', flatten_concat]
  have loaded : (followed (count + 1)).buffer.load (2 * count) = 1 := by
    rw [EntryBuffer.load, content, append_assoc,
      List.getElem?_append_right (Nat.le_of_eq (length_pairs count)), length_pairs, Nat.sub_self]
    rfl
  have data : (followed (count + 1)).buffer.movePointer (2 * count) 1 = 2 * count + 1 := by
    rw [EntryBuffer.movePointer, size, move_of_lt (by omega)]
  have behind :
      (followed (count + 1)).buffer.movePointer (2 * count + 1) 1 = 2 * (count + 1) := by
    rw [EntryBuffer.movePointer, size, move_of_lt (by omega), Nat.mul_succ]
  have read : get (followed (count + 1)).buffer.buffer (2 * count + 1) 1 = [7] := by
    have inside : ¬(followed (count + 1)).buffer.buffer.length < 2 * count + 1 + 1 := by
      change ¬(followed (count + 1)).buffer.size < _
      omega
    rw [RingMemory.get, if_neg inside, content, slice_middle (length_pairs count) (by decide)]
    rfl
  rw [EntryBuffer.getNextEntry, position_followed few]
  refine (if_neg distinct).trans ?_
  dsimp only
  rw [loaded, data, behind]
  change some (get _ _ 1, _) = _
  rw [read, ← Nat.cast_succ]
  rfl

theorem add_followed {count : Nat} (few : count < 127) :
    (followed count).log.add 256 [7] =
      { (followed count).log with entries := List.replicate (count + 1) [7] } := by
  have kept : overflow 256 2 (List.replicate count [7]) = 0 := by
    cases count with
    | zero => rfl
    | succ number =>
      rw [replicate_succ, overflow, if_neg]
      rw [← replicate_succ, footprint, map_replicate, sum_replicate, smul_eq_mul]
      change ¬256 < (number + 1) * 2 + 2
      omega
  change EntryLog.mk (List.replicate count [7] ++ [[7]])
    (0 + overflow 256 2 (List.replicate count [7])) _ = _
  rw [← replicate_succ', kept]
  rfl

theorem perform_followed {count : Nat} (few : count < 127) :
    ((followed count).addEntry 2 [7]).getNextEntry () 2 = followed (count + 1) := by
  have target : ({ (followed count).log with entries := List.replicate (count + 1) [7] } :
      EntryLog Unit).target () = count := by
    cases count with
    | zero => rfl
    | succ number => exact Nat.max_eq_left (Nat.zero_le _)
  have newest : count < (List.replicate (count + 1) ([7] : List UInt8)).length := by
    rw [length_replicate]
    exact Nat.lt_succ_self count
  have present : (List.replicate (count + 1) ([7] : List UInt8))[count]? = some [7] := by
    rw [getElem?_replicate, if_pos (Nat.lt_succ_self count)]
  have only : ∀ {α : Type} (former : Unit → α) (value : α),
      Function.update former () value = fun _ => value := fun _ _ => rfl
  rw [BufferRun.addEntry, addEntry_followed few, size_followed (by omega)]
  change BufferRun.getNextEntry { followed count with
    buffer := (followed (count + 1)).buffer, log := (followed count).log.add 256 [7] } () 2 = _
  rw [add_followed few, BufferRun.getNextEntry]
  dsimp only
  rw [getNextEntry_followed few, EntryLog.advance, EntryLog.read, target, if_pos newest, present,
    only, only, only, only]
  simp only [followed, range_succ, map_append]
  rfl

theorem reachable_followed {count : Nat} (few : count ≤ 127) :
    (system 2 8 Unit).Reachable (followed count) := by
  induction count with
  | zero =>
    have room : 2 < (List.replicate 256 (0 : UInt8)).length := by
      rw [length_replicate]
      decide
    exact .initial ⟨_, _, rfl, room, fun _ => rfl⟩
  | succ count ih =>
    have added : (system 2 8 Unit).Step (followed count) (.addEntry [7])
        ((followed count).addEntry 2 [7]) := ⟨rfl, cons_ne_nil 7 []⟩
    have read : (system 2 8 Unit).Step ((followed count).addEntry 2 [7]) (.getNextEntry () 2)
        (((followed count).addEntry 2 [7]).getNextEntry () 2) := by
      refine ⟨rfl, ?_⟩
      cases count with
      | zero => exact Nat.zero_lt_succ 127
      | succ number =>
        change (List.replicate (number + 1) ([7] : List UInt8) ++ [[7]]).length - (number + 1) <
          128
        rw [← replicate_succ', length_replicate]
        omega
    rw [← perform_followed (by omega)]
    exact ((ih (by omega)).step added).step read

/-- With 128 retained entries and an index of 8 bits, a reader of the newest entry gets the oldest
one again. -/
theorem not_readers_exact :
    ¬ ∀ run : BufferRun 8 Unit, (system 2 8 Unit).Reachable run → run.Correct := by
  intro correct
  have start : ((system 2 8 Unit).restrict fun _ _ => True).Reachable (followed 127) := by
    rw [System.restrict_true]
    exact reachable_followed (Nat.le_refl 127)
  have met : meets 2 (fun run event => decide (run.Possible event ∧ True)) (followed 127)
      [.addEntry [7], .getNextEntry () 2, .getNextEntry () 2] = true := by decide +kernel
  have reached := reachable_play (fun _ _ => True) of_decide_eq_true start met
  have again := (correct _ reached.of_restrict).delivered ()
  revert again
  decide +kernel

end BufferRun

end OpenBsw.Logger
