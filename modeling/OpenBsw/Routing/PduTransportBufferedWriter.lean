import OpenBsw.Data.Word32
import OpenBsw.Io.Destination
import OpenBsw.Transition.System

/-!
# Buffered writer of a PDU transport channel

PDUs are collected in one slot of the destination, which is the output queue of
the channel.  The slot is published as a frame when the next PDU does not fit,
when its first PDU has waited for the transmission timeout, or on request.
-/

namespace OpenBsw.Routing

open OpenBsw.Bytes List
open OpenBsw.Io
open OpenBsw.Transition

structure PduTransportBufferedWriter where
  destination : Destination
  /-- In microseconds. -/
  transmissionTimeout : Nat
  bufferRemainder : Span := {}
  isBufferEmpty : Bool := true
  currentPduSize : Nat := 0
  timestamp : Nat := 0

namespace PduTransportBufferedWriter

/-- A writer with a timeout in milliseconds. -/
def new (destination : Destination) (transmissionTimeoutInMs : UInt16) :
    PduTransportBufferedWriter :=
  { destination, transmissionTimeout := transmissionTimeoutInMs.toNat * 1000 }

def reset (writer : PduTransportBufferedWriter) : PduTransportBufferedWriter :=
  { writer with bufferRemainder := {}, isBufferEmpty := true, currentPduSize := 0 }

def flush (writer : PduTransportBufferedWriter) (next : NextSlot) : PduTransportBufferedWriter :=
  if writer.isBufferEmpty then writer
  else
    -- the buffer is trimmed before it is committed
    let trimmed :=
      if writer.bufferRemainder.size ≠ 0 then
        (writer.destination.allocate
          (writer.destination.maxSize - writer.bufferRemainder.size)).2
      else writer.destination
    reset { writer with destination := trimmed.commit next }

/-- The returned slice and the writer. -/
def allocate (writer : PduTransportBufferedWriter) (size : Nat) (next : NextSlot) :
    Span × PduTransportBufferedWriter :=
  let maximumBufferSize := writer.destination.maxSize
  if size > maximumBufferSize then ({}, { writer with currentPduSize := 0 })
  else if writer.bufferRemainder.size ≥ size then
    ({ offset := writer.bufferRemainder.offset, size }, { writer with currentPduSize := size })
  else
    let flushed := if writer.isBufferEmpty then writer else writer.flush next
    let allocated := flushed.destination.allocate maximumBufferSize
    let writer :=
      { flushed with
        destination := allocated.2
        bufferRemainder := { size := allocated.1 } }
    if allocated.1 ≠ maximumBufferSize then ({}, { writer with currentPduSize := 0 })
    else ({ size }, { writer with currentPduSize := size })

/-- The system timer shows `clock`. -/
def commit (writer : PduTransportBufferedWriter) (clock : Nat) (next : NextSlot) :
    PduTransportBufferedWriter :=
  if writer.currentPduSize = 0 then writer
  else
    let started :=
      if writer.bufferRemainder.size = writer.destination.maxSize then
        { writer with timestamp := clock, isBufferEmpty := false }
      else writer
    -- advancing a span stops at its end
    let advanced := min started.currentPduSize started.bufferRemainder.size
    let committed :=
      { started with
        bufferRemainder :=
          { offset := started.bufferRemainder.offset + advanced
            size := started.bufferRemainder.size - advanced }
        currentPduSize := 0 }
    if committed.transmissionTimeout = 0 then committed.flush next else committed

def checkTransmissionTimeout (writer : PduTransportBufferedWriter) (clock : Nat)
    (next : NextSlot) : PduTransportBufferedWriter :=
  if writer.isBufferEmpty then writer
  else if Word32.sub clock writer.timestamp > Word32.sub writer.transmissionTimeout 1000 then
    writer.flush next
  else writer

/-- The committed bytes in the current buffer. -/
def buffered (writer : PduTransportBufferedWriter) : List UInt8 :=
  writer.destination.slot.take writer.bufferRemainder.offset

end PduTransportBufferedWriter

/-- A committed chunk, and when it was committed. -/
structure TimedChunk where
  time : Nat
  bytes : List UInt8

/-- A writer and its user.  The time is counted in microseconds and does not
wrap; the system timer shows its lower 32 bits. -/
structure PackingRun where
  writer : PduTransportBufferedWriter
  now : Nat
  /-- When the timeout was checked last. -/
  checked : Nat
  /-- The slice of the last allocation, until it is committed. -/
  slice : Span := {}
  /-- A flush or a check came in between, so that there will be no commit. -/
  interrupted : Bool := false
  chunks : List TimedChunk := []
  /-- When each frame was committed to the destination. -/
  sent : List Nat := []

inductive PackingEvent where
  | allocate (size : Nat) (next : NextSlot)
  | write (position : Nat) (bytes : List UInt8)
  | commit (next : NextSlot)
  | flush (next : NextSlot)
  | checkTransmissionTimeout (next : NextSlot)
  /-- Microseconds pass. -/
  | elapse (duration : Nat)
  /-- The reader of the destination makes room. -/
  | release

namespace PackingRun

/-- What the system timer shows. -/
def clock (run : PackingRun) : Nat :=
  run.now % Word32.modulus

/-- The run with a new state of the writer, whose new frames are sent now. -/
def operated (run : PackingRun) (writer : PduTransportBufferedWriter) : PackingRun :=
  { run with
    writer
    sent := run.sent ++ List.replicate
      (writer.destination.elements.length - run.writer.destination.elements.length) run.now }

/-- The state after an event that is possible. -/
def perform (run : PackingRun) : PackingEvent → Option PackingRun
  | .allocate size next =>
    if next.slot.length = run.writer.destination.maxSize then
      let result := run.writer.allocate size next
      some { run.operated result.2 with slice := result.1, interrupted := false }
    else none
  | .write position bytes =>
    if run.interrupted = false ∧ position + bytes.length ≤ run.slice.size then
      some { run with
        writer.destination :=
          run.writer.destination.write (run.slice.offset + position) bytes }
    else none
  | .commit next =>
    if run.interrupted = false ∧ next.slot.length = run.writer.destination.maxSize then
      some { run.operated (run.writer.commit run.clock next) with
        slice := {}
        chunks :=
          if run.slice.size = 0 then run.chunks
          else
            run.chunks ++
              [{ time := run.now, bytes := run.slice.read run.writer.destination.slot }] }
    else none
  | .flush next =>
    if next.slot.length = run.writer.destination.maxSize then
      some { run.operated (run.writer.flush next) with
        interrupted := decide (run.slice.size ≠ 0) }
    else none
  | .checkTransmissionTimeout next =>
    if next.slot.length = run.writer.destination.maxSize then
      some { run.operated (run.writer.checkTransmissionTimeout run.clock next) with
        checked := run.now
        interrupted := decide (run.slice.size ≠ 0) }
    else none
  | .elapse duration => some { run with now := run.now + duration }
  | .release => some { run with writer.destination := run.writer.destination.release }

/-- A new writer on a destination of any element size, at any time. -/
def system : System PackingRun PackingEvent where
  Initial run := ∃ slot room transmissionTimeoutInMs now, run =
    { writer := .new { maxSize := slot.length, slot, allocated := 0, room, elements := [] }
        transmissionTimeoutInMs
      now
      checked := now }
  Step source event target := source.perform event = some target

/-- The timeout is checked at least every millisecond. -/
def Timely (run : PackingRun) : PackingEvent → Prop
  | .elapse duration => run.now + duration ≤ run.checked + 1000
  | _ => True

/-! ## Contents of the writer -/

/-- The bytes of consecutive chunks. -/
def bytesOf (group : List TimedChunk) : List UInt8 :=
  (group.map TimedChunk.bytes).flatten

/-- The groups when the current one is published. -/
def published (groups : List (List TimedChunk)) (current : List TimedChunk) :
    List (List TimedChunk) :=
  if current = [] then groups else groups ++ [current]

/-- Each frame is a group of chunks, and the buffer holds another group. -/
structure Contains (writer : PduTransportBufferedWriter) (groups : List (List TimedChunk))
    (current : List TimedChunk) : Prop where
  slotLength : writer.destination.slot.length = writer.destination.maxSize
  timeout : writer.transmissionTimeout = 0 ∨
    (1000 ≤ writer.transmissionTimeout ∧ writer.transmissionTimeout < Word32.modulus)
  buffer : (writer.isBufferEmpty = true ∧ writer.bufferRemainder = {}) ∨
    (writer.destination.room = true ∧
      writer.destination.allocated = writer.destination.maxSize ∧
      writer.bufferRemainder.offset + writer.bufferRemainder.size = writer.destination.maxSize ∧
      (writer.isBufferEmpty = true ↔ writer.bufferRemainder.offset = 0))
  elements : writer.destination.elements = groups.map bytesOf
  buffered : bytesOf current = writer.buffered
  full : ∀ chunk ∈ current, chunk.bytes ≠ []
  frames : ∀ element ∈ writer.destination.elements,
    0 < element.length ∧ element.length ≤ writer.destination.maxSize

variable {writer : PduTransportBufferedWriter} {groups : List (List TimedChunk)}
  {current : List TimedChunk} {next : NextSlot}

theorem bytesOf_append (first second : List TimedChunk) :
    bytesOf (first ++ second) = bytesOf first ++ bytesOf second := by
  rw [bytesOf, map_append, flatten_append]
  rfl

theorem bytesOf_flatten (groups : List (List TimedChunk)) :
    bytesOf groups.flatten = (groups.map bytesOf).flatten := by
  induction groups with
  | nil => rfl
  | cons group rest ih =>
    rw [flatten_cons, bytesOf_append, ih, map_cons, flatten_cons]

@[simp]
theorem published_nil (groups : List (List TimedChunk)) : published groups [] = groups :=
  if_pos rfl

theorem published_of_ne_nil (some : current ≠ []) :
    published groups current = groups ++ [current] :=
  if_neg some

theorem flatten_published (groups : List (List TimedChunk)) (current : List TimedChunk) :
    (published groups current).flatten = groups.flatten ++ current := by
  by_cases none : current = []
  · rw [none, published_nil, append_nil]
  · rw [published_of_ne_nil none, flatten_append, flatten_singleton]

theorem Contains.length_buffered (contains : Contains writer groups current) :
    writer.buffered.length = writer.bufferRemainder.offset := by
  rw [PduTransportBufferedWriter.buffered, length_take, contains.slotLength]
  rcases contains.buffer with ⟨-, empty⟩ | ⟨-, -, total, -⟩
  · rw [empty]
    exact Nat.zero_min _
  · omega

/-- The flag tells whether there are chunks in the buffer. -/
theorem Contains.isBufferEmpty_iff (contains : Contains writer groups current) :
    writer.isBufferEmpty = true ↔ current = [] := by
  have offset : writer.bufferRemainder.offset = 0 ↔ current = [] := by
    rw [← contains.length_buffered, ← contains.buffered, length_eq_zero_iff, bytesOf]
    constructor
    · intro nothing
      cases current with
      | nil => rfl
      | cons first rest =>
        rw [map_cons, flatten_cons, append_eq_nil_iff] at nothing
        exact absurd nothing.1 (contains.full first mem_cons_self)
    · rintro rfl
      rfl
  rcases contains.buffer with ⟨flag, empty⟩ | ⟨-, -, -, flag⟩
  · rw [← offset, empty]
    simp only [flag]
  · exact flag.trans offset

/-! ### Flushing -/

/-- A flush of a buffer with chunks makes a frame of them. -/
theorem Contains.flush_of_some (contains : Contains writer groups current)
    (some : current ≠ []) (next : NextSlot) :
    writer.flush next =
      { writer with
        destination :=
          { writer.destination with
            slot := next.slot
            allocated := 0
            room := next.room
            elements := writer.destination.elements ++ [writer.buffered] }
        bufferRemainder := {}
        isBufferEmpty := true
        currentPduSize := 0 } := by
  have flag : ¬ writer.isBufferEmpty = true := fun empty =>
    some (contains.isBufferEmpty_iff.mp empty)
  rcases contains.buffer with ⟨empty, -⟩ | ⟨room, allocated, total, offset⟩
  · exact absurd empty flag
  rw [offset] at flag
  rw [PduTransportBufferedWriter.flush, if_neg (fun empty => flag (offset.mp empty))]
  by_cases rest : writer.bufferRemainder.size ≠ 0
  · rw [if_pos rest, ← total, Nat.add_sub_cancel,
      Destination.allocate_of_room (by omega) (by omega) room]
    dsimp only
    rw [Destination.commit_of_pos (by
        change 0 < writer.bufferRemainder.offset
        omega)]
    rfl
  · have filled : writer.bufferRemainder.offset = writer.destination.maxSize := by omega
    rw [if_neg rest]
    dsimp only
    rw [Destination.commit_of_pos (by omega), allocated, PduTransportBufferedWriter.buffered,
      filled]
    rfl

theorem Contains.flush_of_none (contains : Contains writer groups current)
    (none : current = []) (next : NextSlot) : writer.flush next = writer :=
  if_pos (contains.isBufferEmpty_iff.mpr none)

/-- What a flush leaves behind. -/
theorem Contains.flush (contains : Contains writer groups current)
    (nextLength : next.slot.length = writer.destination.maxSize) :
    Contains (writer.flush next) (published groups current) [] := by
  by_cases none : current = []
  · rw [contains.flush_of_none none, none, published_nil, ← none]
    exact contains
  rw [contains.flush_of_some none, published_of_ne_nil none]
  refine
    { slotLength := nextLength
      timeout := contains.timeout
      buffer := .inl ⟨rfl, rfl⟩
      elements := ?_
      buffered := rfl
      full := fun _ member => absurd member not_mem_nil
      frames := ?_ }
  · rw [map_append, ← contains.elements, ← contains.buffered]
    rfl
  · intro element member
    rcases mem_append.mp member with old | new
    · exact contains.frames element old
    · rw [mem_singleton.mp new, contains.length_buffered]
      have flag := mt contains.isBufferEmpty_iff.mp none
      rcases contains.buffer with ⟨empty, -⟩ | ⟨-, -, total, offset⟩
      · exact absurd empty flag
      · rw [offset] at flag
        change 0 < writer.bufferRemainder.offset ∧
          writer.bufferRemainder.offset ≤ writer.destination.maxSize
        omega

/-- What no operation changes but the first commit of a frame. -/
structure Keeps (writer changed : PduTransportBufferedWriter) : Prop where
  maxSize : changed.destination.maxSize = writer.destination.maxSize
  transmissionTimeout : changed.transmissionTimeout = writer.transmissionTimeout
  timestamp : changed.timestamp = writer.timestamp

theorem Contains.keeps_flush (contains : Contains writer groups current) (next : NextSlot) :
    Keeps writer (writer.flush next) := by
  by_cases none : current = []
  · rw [contains.flush_of_none none]
    exact ⟨rfl, rfl, rfl⟩
  · rw [contains.flush_of_some none]
    exact ⟨rfl, rfl, rfl⟩

/-! ### Allocating -/

/-- The slice starts behind the committed chunks and lies in the buffer. -/
structure Lent (slice : Span) (writer : PduTransportBufferedWriter) : Prop where
  size : slice.size = writer.currentPduSize
  inside : 0 < slice.size → slice.offset = writer.bufferRemainder.offset ∧
    slice.size ≤ writer.bufferRemainder.size

/-- The size of the next PDU does not matter for what is stored. -/
theorem Contains.setCurrentPduSize (contains : Contains writer groups current) (size : Nat) :
    Contains { writer with currentPduSize := size } groups current :=
  { contains with }

/-- The slot may be allocated again as a whole while nothing is in it. -/
theorem Contains.allocateBuffer (contains : Contains writer groups []) :
    Contains
      { writer with
        destination := (writer.destination.allocate writer.destination.maxSize).2
        bufferRemainder :=
          { size := (writer.destination.allocate writer.destination.maxSize).1 } }
      groups [] := by
  have flag : writer.isBufferEmpty = true := contains.isBufferEmpty_iff.mpr rfl
  rcases writer.destination.allocate_cases writer.destination.maxSize with
    failed | ⟨positive, -, room, allocated⟩
  · rw [failed]
    exact { contains with buffer := .inl ⟨flag, rfl⟩, buffered := rfl }
  · rw [allocated]
    refine { contains with buffer := .inr ⟨room, rfl, Nat.zero_add _, ?_⟩, buffered := rfl }
    exact iff_of_true flag rfl

/-- An allocation may publish the chunks before it, and lends a slice. -/
theorem Contains.allocate (contains : Contains writer groups current) (size : Nat)
    (nextLength : next.slot.length = writer.destination.maxSize) :
    (Contains (writer.allocate size next).2 groups current ∨
      Contains (writer.allocate size next).2 (published groups current) []) ∧
    Lent (writer.allocate size next).1 (writer.allocate size next).2 ∧
    Keeps writer (writer.allocate size next).2 := by
  rw [PduTransportBufferedWriter.allocate]
  by_cases large : size > writer.destination.maxSize
  · simp only [if_pos large]
    exact ⟨.inl (contains.setCurrentPduSize 0), ⟨rfl, fun some => absurd some (Nat.lt_irrefl 0)⟩,
      rfl, rfl, rfl⟩
  by_cases fits : writer.bufferRemainder.size ≥ size
  · simp only [if_neg large, if_pos fits]
    exact ⟨.inl (contains.setCurrentPduSize size), ⟨rfl, fun _ => ⟨rfl, fits⟩⟩, rfl, rfl, rfl⟩
  simp only [if_neg large, if_neg fits]
  have flushed : (if writer.isBufferEmpty = true then writer else writer.flush next) =
      writer.flush next := by
    by_cases empty : writer.isBufferEmpty = true
    · rw [if_pos empty, contains.flush_of_none (contains.isBufferEmpty_iff.mp empty)]
    · rw [if_neg empty]
  rw [flushed]
  have keeps := contains.keeps_flush next
  have stored := (contains.flush nextLength).allocateBuffer
  rw [keeps.maxSize] at stored
  rcases (writer.flush next).destination.allocate_cases writer.destination.maxSize with
    failed | ⟨-, -, -, allocated⟩
  · rw [failed] at stored ⊢
    have nonzero : 0 ≠ writer.destination.maxSize := by omega
    rw [if_pos nonzero]
    exact ⟨.inr (stored.setCurrentPduSize 0), ⟨rfl, fun some => absurd some (Nat.lt_irrefl 0)⟩,
      keeps.maxSize, keeps.transmissionTimeout, keeps.timestamp⟩
  · rw [allocated] at stored ⊢
    rw [if_neg (not_not_intro rfl)]
    refine ⟨.inr (stored.setCurrentPduSize size), ⟨rfl, fun _ => ⟨rfl, ?_⟩⟩,
      keeps.maxSize, keeps.transmissionTimeout, keeps.timestamp⟩
    exact Nat.le_of_not_lt large

/-! ### Writing and committing -/

/-- Writing into the slice does not touch the committed chunks. -/
theorem Contains.write (contains : Contains writer groups current) {slice : Span}
    (lent : Lent slice writer) {position : Nat} {bytes : List UInt8}
    (inside : position + bytes.length ≤ slice.size) :
    Contains
      { writer with destination := writer.destination.write (slice.offset + position) bytes }
      groups current := by
  by_cases nothing : bytes = []
  · subst nothing
    rw [Destination.write, overwrite_nil]
    exact contains
  have nonempty := length_pos_iff.mpr nothing
  obtain ⟨offset, enough⟩ := lent.inside (by omega)
  have slotLength := contains.slotLength
  have total : writer.bufferRemainder.offset + writer.bufferRemainder.size ≤
      writer.destination.maxSize := by
    rcases contains.buffer with ⟨-, empty⟩ | ⟨-, -, total, -⟩
    · rw [empty] at enough
      simp only [Nat.le_zero] at enough
      omega
    · omega
  have fits : slice.offset + position + bytes.length ≤ writer.destination.slot.length := by omega
  refine { contains with slotLength := ?_, buffered := ?_ }
  · exact (length_overwrite fits).trans slotLength
  · rw [contains.buffered, PduTransportBufferedWriter.buffered,
      PduTransportBufferedWriter.buffered]
    have before : 0 + writer.bufferRemainder.offset ≤ slice.offset + position := by omega
    exact (slice_overwrite_of_disjoint fits (.inl before)).symm

/-- The chunk a commit adds. -/
def committedChunk (writer : PduTransportBufferedWriter) (slice : Span) (now : Nat) :
    TimedChunk :=
  { time := now, bytes := slice.read writer.destination.slot }

/-- Before it is known whether the buffer is published, the slice joins it. -/
theorem Contains.join (contains : Contains writer groups current) {slice : Span}
    (lent : Lent slice writer) (some : 0 < slice.size) (now timestamp : Nat) :
    Contains
      { writer with
        timestamp
        isBufferEmpty := false
        bufferRemainder :=
          { offset := writer.bufferRemainder.offset + slice.size
            size := writer.bufferRemainder.size - slice.size }
        currentPduSize := 0 }
      groups (current ++ [committedChunk writer slice now]) := by
  obtain ⟨offset, enough⟩ := lent.inside some
  rcases contains.buffer with ⟨-, empty⟩ | ⟨room, allocated, total, -⟩
  · rw [empty] at enough
    simp only [Nat.le_zero] at enough
    omega
  refine
    { contains with
      buffer := .inr ⟨room, allocated, ?_, ?_⟩
      buffered := ?_
      full := ?_ }
  · change writer.bufferRemainder.offset + slice.size +
      (writer.bufferRemainder.size - slice.size) = writer.destination.maxSize
    omega
  · constructor
    · intro impossible
      cases impossible
    · change writer.bufferRemainder.offset + slice.size = 0 → _
      omega
  · have joined : writer.destination.slot.take (writer.bufferRemainder.offset + slice.size) =
        writer.buffered ++ (committedChunk writer slice now).bytes := by
      rw [take_add, committedChunk, Span.read, Bytes.slice, offset]
      rfl
    change _ = writer.destination.slot.take (writer.bufferRemainder.offset + slice.size)
    rw [joined, ← contains.buffered, bytesOf_append, bytesOf, bytesOf, map_singleton,
      flatten_singleton]
  · intro chunk member
    rcases mem_append.mp member with old | new
    · exact contains.full chunk old
    · rw [mem_singleton.mp new]
      have length : (committedChunk writer slice now).bytes.length = slice.size :=
        length_slice (by
          rw [contains.slotLength]
          omega)
      intro impossible
      rw [impossible] at length
      exact Nat.ne_of_lt some length

/-- A commit adds the chunk to the buffer, and publishes it if nothing may
wait.  The first chunk of a buffer is dated. -/
theorem Contains.commit (contains : Contains writer groups current) {slice : Span}
    (lent : Lent slice writer) (some : 0 < slice.size) (now clock : Nat)
    (nextLength : next.slot.length = writer.destination.maxSize) :
    (if writer.transmissionTimeout = 0 then
        Contains (writer.commit clock next)
          (published groups (current ++ [committedChunk writer slice now])) []
      else
        Contains (writer.commit clock next) groups
          (current ++ [committedChunk writer slice now])) ∧
    (writer.commit clock next).destination.maxSize = writer.destination.maxSize ∧
    (writer.commit clock next).transmissionTimeout = writer.transmissionTimeout ∧
    (writer.commit clock next).currentPduSize = 0 ∧
    (writer.commit clock next).timestamp =
      if current = [] then clock else writer.timestamp := by
  obtain ⟨-, enough⟩ := lent.inside some
  have requested : writer.currentPduSize ≠ 0 := by
    rw [← lent.size]
    omega
  have whole : writer.bufferRemainder.size = writer.destination.maxSize ↔ current = [] := by
    rw [← contains.isBufferEmpty_iff]
    rcases contains.buffer with ⟨-, empty⟩ | ⟨-, -, total, offset⟩
    · rw [empty] at enough
      simp only [Nat.le_zero] at enough
      omega
    · rw [offset]
      omega
  have started : (if writer.bufferRemainder.size = writer.destination.maxSize then
        { writer with timestamp := clock, isBufferEmpty := false } else writer) =
      { writer with
        timestamp := if current = [] then clock else writer.timestamp
        isBufferEmpty := false } := by
    by_cases first : current = []
    · rw [if_pos (whole.mpr first), if_pos first]
    · have flag := Bool.eq_false_iff.mpr (mt contains.isBufferEmpty_iff.mp first)
      rw [if_neg (mt whole.mp first), if_neg first, ← flag]
  rw [PduTransportBufferedWriter.commit, if_neg requested, started]
  simp only [← lent.size, Nat.min_eq_left enough]
  have joined := contains.join lent some now (if current = [] then clock else writer.timestamp)
  by_cases atOnce : writer.transmissionTimeout = 0
  · simp only [if_pos atOnce]
    have keeps := joined.keeps_flush next
    refine ⟨joined.flush nextLength, keeps.maxSize, keeps.transmissionTimeout, ?_,
      keeps.timestamp⟩
    rw [joined.flush_of_some (append_ne_nil_of_right_ne_nil _ (cons_ne_nil _ _))]
  · simp only [if_neg atOnce]
    exact ⟨joined, trivial, trivial, trivial, trivial⟩

/-- A check flushes, or it is too early for the chunks in the buffer. -/
theorem Contains.checkTransmissionTimeout_cases (contains : Contains writer groups current)
    (clock : Nat) (next : NextSlot) :
    writer.checkTransmissionTimeout clock next = writer.flush next ∨
      (writer.checkTransmissionTimeout clock next = writer ∧
        Word32.sub clock writer.timestamp ≤ Word32.sub writer.transmissionTimeout 1000) := by
  rw [PduTransportBufferedWriter.checkTransmissionTimeout]
  by_cases empty : writer.isBufferEmpty = true
  · left
    rw [if_pos empty, contains.flush_of_none (contains.isBufferEmpty_iff.mp empty)]
  rw [if_neg empty]
  by_cases late :
      Word32.sub clock writer.timestamp > Word32.sub writer.transmissionTimeout 1000
  · exact .inl (if_pos late)
  · exact .inr ⟨if_neg late, Nat.le_of_not_lt late⟩

/-! ## Runs -/

/-- The chunks of a run are in the frames and in the buffer. -/
structure Packing (run : PackingRun) (groups : List (List TimedChunk))
    (current : List TimedChunk) : Prop where
  contains : Contains run.writer groups current
  lent : run.interrupted = false → Lent run.slice run.writer
  interrupted : run.interrupted = true → run.slice.size ≠ 0
  chunks : run.chunks = groups.flatten ++ current
  immediate : run.writer.transmissionTimeout = 0 → current = []

/-- A frame is sent in time after its first chunk was committed. -/
def InTime (transmissionTimeout : Nat) (group : List TimedChunk) (time : Nat) : Prop :=
  ∃ first rest, group = first :: rest ∧ first.time ≤ time ∧
    time ≤ first.time + transmissionTimeout

/-- The frames of a run were in time, and the buffer still is: its next check
is not too late. -/
structure Punctual (run : PackingRun) (groups : List (List TimedChunk))
    (current : List TimedChunk) : Prop where
  ordered : run.checked ≤ run.now
  recent : run.now ≤ run.checked + 1000
  waiting : ∀ first rest, current = first :: rest →
    first.time ≤ run.now ∧ run.writer.timestamp = first.time % Word32.modulus ∧
      run.checked + 1000 ≤ first.time + run.writer.transmissionTimeout
  sent : List.Forall₂ (InTime run.writer.transmissionTimeout) groups run.sent

variable {run target : PackingRun}

/-- Each new frame is sent now. -/
theorem operated_sent {groups' : List (List TimedChunk)} {current' : List TimedChunk}
    (before : Contains run.writer groups current) (behind : Contains writer groups' current') :
    (run.operated writer).sent =
      run.sent ++ List.replicate (groups'.length - groups.length) run.now := by
  rw [operated, before.elements, behind.elements, length_map, length_map]

/-- A group joins the frames in time if its first chunk was not committed too
long ago. -/
theorem published_inTime {transmissionTimeout now : Nat} {sent : List Nat}
    (inTime : List.Forall₂ (InTime transmissionTimeout) groups sent)
    (due : ∀ first rest, current = first :: rest →
      first.time ≤ now ∧ now ≤ first.time + transmissionTimeout) :
    List.Forall₂ (InTime transmissionTimeout) (published groups current)
      (sent ++ List.replicate ((published groups current).length - groups.length) now) := by
  cases current with
  | nil =>
    rw [published_nil, Nat.sub_self, replicate_zero, append_nil]
    exact inTime
  | cons first rest =>
    rw [published_of_ne_nil (cons_ne_nil first rest), List.length_append,
      Nat.add_sub_cancel_left]
    obtain ⟨committed, early⟩ := due first rest rfl
    exact rel_append inTime (.cons ⟨first, rest, rfl, committed, early⟩ .nil)

theorem Punctual.due (punctual : Punctual run groups current) (first : TimedChunk)
    (rest : List TimedChunk) (eq : current = first :: rest) :
    first.time ≤ run.now ∧ run.now ≤ first.time + run.writer.transmissionTimeout := by
  have recent := punctual.recent
  obtain ⟨committed, -, next⟩ := punctual.waiting first rest eq
  omega

/-- An operation that publishes nothing is punctual. -/
theorem Punctual.unpublished (punctual : Punctual run groups current)
    (before : Contains run.writer groups current) (behind : Contains writer groups current)
    (keeps : Keeps run.writer writer) : Punctual (run.operated writer) groups current := by
  refine ⟨punctual.ordered, punctual.recent, ?_, ?_⟩
  · intro first rest eq
    change _ ∧ writer.timestamp = _ ∧ _ ≤ first.time + writer.transmissionTimeout
    rw [keeps.timestamp, keeps.transmissionTimeout]
    exact punctual.waiting first rest eq
  · rw [operated_sent before behind, Nat.sub_self, replicate_zero, append_nil]
    change List.Forall₂ (InTime writer.transmissionTimeout) groups run.sent
    rw [keeps.transmissionTimeout]
    exact punctual.sent

/-- An operation that publishes the buffer is punctual. -/
theorem Punctual.publish (punctual : Punctual run groups current)
    (before : Contains run.writer groups current)
    (behind : Contains writer (published groups current) [])
    (keeps : Keeps run.writer writer) :
    Punctual (run.operated writer) (published groups current) [] := by
  refine ⟨punctual.ordered, punctual.recent, fun _ _ impossible => ?_, ?_⟩
  · cases impossible
  · rw [operated_sent before behind]
    change List.Forall₂ (InTime writer.transmissionTimeout) _ _
    rw [keeps.transmissionTimeout]
    exact published_inTime punctual.sent punctual.due

/-! ### Steps -/

theorem Packing.allocate (packing : Packing run groups current) (size : Nat)
    (nextLength : next.slot.length = run.writer.destination.maxSize) :
    ∃ groups' current',
      Packing
        { run.operated (run.writer.allocate size next).2 with
          slice := (run.writer.allocate size next).1, interrupted := false }
        groups' current' ∧
      (Punctual run groups current →
        Punctual
          { run.operated (run.writer.allocate size next).2 with
            slice := (run.writer.allocate size next).1, interrupted := false }
          groups' current') := by
  obtain ⟨kept | publishes, lent, keeps⟩ := packing.contains.allocate size nextLength
  · refine ⟨groups, current, ⟨kept, fun _ => lent, fun wrong => ?_, packing.chunks, ?_⟩,
      fun punctual => ?_⟩
    · cases wrong
    · intro atOnce
      exact packing.immediate (keeps.transmissionTimeout ▸ atOnce)
    · exact { punctual.unpublished packing.contains kept keeps with }
  · refine ⟨published groups current, [], ⟨publishes, fun _ => lent, fun wrong => ?_, ?_,
      fun _ => rfl⟩, fun punctual => ?_⟩
    · cases wrong
    · rw [flatten_published, append_nil]
      exact packing.chunks
    · exact { punctual.publish packing.contains publishes keeps with }

/-- Behind a flush nothing is lent, unless the user goes on without a commit. -/
theorem Packing.flush_lent (packing : Packing run groups current) (next : NextSlot)
    (closed : decide (run.slice.size ≠ 0) = false) :
    Lent run.slice (run.writer.flush next) := by
  have nothing : run.slice.size = 0 := by
    simpa only [ne_eq, decide_not, Bool.not_eq_false', decide_eq_true_eq] using closed
  have uninterrupted : run.interrupted = false := by
    by_contra other
    exact packing.interrupted (by simpa using other) nothing
  refine ⟨?_, fun some => absurd nothing (by omega)⟩
  by_cases none : current = []
  · rw [packing.contains.flush_of_none none]
    exact (packing.lent uninterrupted).size
  · rw [packing.contains.flush_of_some none]
    exact nothing

theorem Packing.flush (packing : Packing run groups current)
    (nextLength : next.slot.length = run.writer.destination.maxSize) :
    Packing
      { run.operated (run.writer.flush next) with interrupted := decide (run.slice.size ≠ 0) }
      (published groups current) [] := by
  refine ⟨packing.contains.flush nextLength, packing.flush_lent next, of_decide_eq_true, ?_,
    fun _ => rfl⟩
  rw [flatten_published, append_nil]
  exact packing.chunks

/-- A check that does not flush has come early enough. -/
theorem Packing.early (packing : Packing run groups current)
    (punctual : Punctual run groups current)
    (early : Word32.sub run.clock run.writer.timestamp ≤
      Word32.sub run.writer.transmissionTimeout 1000) (first : TimedChunk)
    (rest : List TimedChunk) (eq : current = first :: rest) :
    run.now + 1000 ≤ first.time + run.writer.transmissionTimeout := by
  obtain ⟨committed, timestamp, next⟩ := punctual.waiting first rest eq
  have recent := punctual.recent
  rcases packing.contains.timeout with atOnce | ⟨large, small⟩
  · rw [packing.immediate atOnce] at eq
    cases eq
  rw [clock, timestamp, Word32.sub_mod_mod committed (by omega), Word32.sub_eq large small] at early
  omega

theorem Packing.checkTransmissionTimeout (packing : Packing run groups current)
    (nextLength : next.slot.length = run.writer.destination.maxSize) :
    ∃ groups' current',
      Packing
        { run.operated (run.writer.checkTransmissionTimeout run.clock next) with
          checked := run.now, interrupted := decide (run.slice.size ≠ 0) }
        groups' current' ∧
      (Punctual run groups current →
        Punctual
          { run.operated (run.writer.checkTransmissionTimeout run.clock next) with
            checked := run.now, interrupted := decide (run.slice.size ≠ 0) }
          groups' current') := by
  rcases packing.contains.checkTransmissionTimeout_cases run.clock next with
    flushed | ⟨unchanged, early⟩
  · rw [flushed]
    refine ⟨_, _, { packing.flush nextLength with }, fun punctual => ?_⟩
    have publish := punctual.publish packing.contains (packing.contains.flush nextLength)
      (packing.contains.keeps_flush next)
    refine ⟨Nat.le_refl _, Nat.le_add_right _ _, fun _ _ impossible => ?_, publish.sent⟩
    cases impossible
  · rw [unchanged]
    refine ⟨groups, current, ?_, fun punctual => ?_⟩
    · refine ⟨packing.contains, fun closed => ?_, of_decide_eq_true, packing.chunks,
        packing.immediate⟩
      have nothing : run.slice.size = 0 := by
        simpa only [ne_eq, decide_not, Bool.not_eq_false', decide_eq_true_eq] using closed
      refine packing.lent ?_
      by_contra other
      exact packing.interrupted (by simpa using other) nothing
    · have unpublished := punctual.unpublished packing.contains packing.contains ⟨rfl, rfl, rfl⟩
      refine ⟨Nat.le_refl _, Nat.le_add_right _ _, fun first rest eq => ?_, unpublished.sent⟩
      obtain ⟨committed, timestamp, -⟩ := punctual.waiting first rest eq
      exact ⟨committed, timestamp, packing.early punctual early first rest eq⟩

/-- The first chunk of a buffer that a chunk has joined. -/
theorem first_of_join {chunk first : TimedChunk} {rest : List TimedChunk}
    (eq : current ++ [chunk] = first :: rest) :
    (current = [] ∧ first = chunk) ∨ ∃ others, current = first :: others := by
  cases current with
  | nil =>
    left
    exact ⟨rfl, (List.cons.inj eq).1.symm⟩
  | cons head tail =>
    right
    rw [cons_append] at eq
    exact ⟨tail, by rw [(List.cons.inj eq).1]⟩

/-- A commit of a slice that has bytes. -/
theorem Packing.commit (packing : Packing run groups current)
    (uninterrupted : run.interrupted = false) (some : 0 < run.slice.size)
    (nextLength : next.slot.length = run.writer.destination.maxSize) :
    ∃ groups' current',
      Packing
        { run.operated (run.writer.commit run.clock next) with
          slice := {}
          chunks := run.chunks ++ [committedChunk run.writer run.slice run.now] }
        groups' current' ∧
      (Punctual run groups current →
        Punctual
          { run.operated (run.writer.commit run.clock next) with
            slice := {}
            chunks := run.chunks ++ [committedChunk run.writer run.slice run.now] }
          groups' current') := by
  obtain ⟨contains, -, transmissionTimeout, requested, timestamp⟩ :=
    packing.contains.commit (packing.lent uninterrupted) some run.now run.clock nextLength
  have lent : Lent {} (run.writer.commit run.clock next) :=
    ⟨requested.symm, fun some => absurd some (Nat.lt_irrefl 0)⟩
  by_cases atOnce : run.writer.transmissionTimeout = 0
  · rw [if_pos atOnce] at contains
    refine ⟨_, [], ⟨contains, fun _ => lent, fun wrong => ?_, ?_, fun _ => rfl⟩,
      fun punctual => ⟨punctual.ordered, punctual.recent, fun _ _ impossible => ?_, ?_⟩⟩
    · exact absurd (uninterrupted.symm.trans wrong) Bool.false_ne_true
    · change run.chunks ++ [_] = _
      rw [flatten_published, packing.chunks, append_nil, append_assoc]
    · cases impossible
    · change List.Forall₂ (InTime (run.writer.commit run.clock next).transmissionTimeout) _
        (run.operated (run.writer.commit run.clock next)).sent
      rw [operated_sent packing.contains contains, transmissionTimeout]
      refine published_inTime punctual.sent fun first rest eq => ?_
      rcases first_of_join eq with ⟨-, rfl⟩ | ⟨others, started⟩
      · exact ⟨Nat.le_refl _, Nat.le_add_right _ _⟩
      · exact punctual.due first others started
  · rw [if_neg atOnce] at contains
    refine ⟨groups, _, ⟨contains, fun _ => lent, fun wrong => ?_, ?_, fun impossible => ?_⟩,
      fun punctual => ⟨punctual.ordered, punctual.recent, fun first rest eq => ?_, ?_⟩⟩
    · exact absurd (uninterrupted.symm.trans wrong) Bool.false_ne_true
    · change run.chunks ++ [_] = _
      rw [packing.chunks, append_assoc]
    · exact absurd (transmissionTimeout.symm.trans impossible) atOnce
    · change first.time ≤ run.now ∧
        (run.writer.commit run.clock next).timestamp = first.time % Word32.modulus ∧
        run.checked + 1000 ≤
          first.time + (run.writer.commit run.clock next).transmissionTimeout
      rw [timestamp, transmissionTimeout]
      have ordered := punctual.ordered
      rcases first_of_join eq with ⟨none, rfl⟩ | ⟨others, started⟩
      · rw [if_pos none]
        rcases packing.contains.timeout with zero | ⟨large, -⟩
        · exact absurd zero atOnce
        · refine ⟨Nat.le_refl _, rfl, ?_⟩
          change run.checked + 1000 ≤ run.now + run.writer.transmissionTimeout
          omega
      · rw [if_neg (by rw [started]; exact cons_ne_nil _ _)]
        exact punctual.waiting first others started
    · change List.Forall₂ (InTime (run.writer.commit run.clock next).transmissionTimeout) _
        (run.operated (run.writer.commit run.clock next)).sent
      rw [operated_sent packing.contains contains, transmissionTimeout, Nat.sub_self,
        replicate_zero, append_nil]
      exact punctual.sent

/-- Every event keeps the groups, and their times if the timeout is checked
often enough. -/
theorem Packing.perform (packing : Packing run groups current) {event : PackingEvent}
    (performed : run.perform event = some target) :
    ∃ groups' current', Packing target groups' current' ∧
      (Timely run event → Punctual run groups current → Punctual target groups' current') := by
  cases event with
  | allocate size next =>
    obtain ⟨nextLength, performed⟩ := Option.ite_none_right_eq_some.mp performed
    cases performed
    obtain ⟨groups', current', after, punctual⟩ := packing.allocate size nextLength
    exact ⟨groups', current', after, fun _ => punctual⟩
  | write position bytes =>
    obtain ⟨⟨uninterrupted, inside⟩, performed⟩ := Option.ite_none_right_eq_some.mp performed
    cases performed
    have lent := packing.lent uninterrupted
    refine ⟨groups, current, { packing with contains := ?_, lent := fun _ => ⟨lent.1, lent.2⟩ },
      fun _ punctual => { punctual with }⟩
    exact packing.contains.write lent inside
  | commit next =>
    obtain ⟨⟨uninterrupted, nextLength⟩, performed⟩ :=
      Option.ite_none_right_eq_some.mp performed
    cases performed
    by_cases nothing : run.slice.size = 0
    · have lent := packing.lent uninterrupted
      have unchanged : run.writer.commit run.clock next = run.writer :=
        if_pos (lent.size.symm.trans nothing)
      rw [unchanged, if_pos nothing]
      refine ⟨groups, current, ?_, fun _ punctual => ?_⟩
      · refine ⟨packing.contains, fun _ => ⟨?_, ?_⟩, fun wrong => ?_, packing.chunks,
          packing.immediate⟩
        · exact nothing.symm.trans lent.size
        · exact fun some => absurd some (Nat.lt_irrefl 0)
        · exact absurd (uninterrupted.symm.trans wrong) Bool.false_ne_true
      · exact { punctual.unpublished packing.contains packing.contains ⟨rfl, rfl, rfl⟩ with }
    · rw [if_neg nothing]
      obtain ⟨groups', current', after, punctual⟩ :=
        packing.commit uninterrupted (Nat.pos_of_ne_zero nothing) nextLength
      exact ⟨groups', current', after, fun _ => punctual⟩
  | flush next =>
    obtain ⟨nextLength, performed⟩ := Option.ite_none_right_eq_some.mp performed
    cases performed
    refine ⟨_, [], packing.flush nextLength, fun _ punctual => ?_⟩
    have publish := punctual.publish packing.contains (packing.contains.flush nextLength)
      (packing.contains.keeps_flush next)
    exact { publish with }
  | checkTransmissionTimeout next =>
    obtain ⟨nextLength, performed⟩ := Option.ite_none_right_eq_some.mp performed
    cases performed
    obtain ⟨groups', current', after, punctual⟩ :=
      packing.checkTransmissionTimeout nextLength
    exact ⟨groups', current', after, fun _ => punctual⟩
  | elapse duration =>
    cases performed
    refine ⟨groups, current, { packing with }, fun timely punctual => ?_⟩
    refine ⟨Nat.le_add_right_of_le punctual.ordered, timely, fun first rest eq => ?_,
      punctual.sent⟩
    obtain ⟨committed, rest⟩ := punctual.waiting first rest eq
    exact ⟨Nat.le_add_right_of_le committed, rest⟩
  | release =>
    cases performed
    refine ⟨groups, current, { packing with contains := ?_, lent := fun closed => ?_ },
      fun _ punctual => { punctual with }⟩
    · have contains := packing.contains
      refine { contains with buffer := ?_ }
      exact contains.buffer.imp id fun ⟨_, rest⟩ => ⟨rfl, rest⟩
    · exact ⟨(packing.lent closed).1, (packing.lent closed).2⟩

/-- A new writer contains nothing. -/
theorem packing_initial (start : system.Initial run) :
    Packing run [] [] ∧ Punctual run [] [] := by
  obtain ⟨slot, room, transmissionTimeoutInMs, now, rfl⟩ := start
  refine ⟨⟨⟨rfl, ?_, .inl ⟨rfl, rfl⟩, rfl, rfl, fun _ member => absurd member not_mem_nil,
    fun _ member => absurd member not_mem_nil⟩, fun _ => ⟨rfl, fun some => ?_⟩,
    fun wrong => ?_, rfl, fun _ => rfl⟩,
    ⟨Nat.le_refl _, Nat.le_add_right _ _, fun _ _ impossible => ?_, .nil⟩⟩
  · change transmissionTimeoutInMs.toNat * 1000 = 0 ∨
      (1000 ≤ transmissionTimeoutInMs.toNat * 1000 ∧
        transmissionTimeoutInMs.toNat * 1000 < Word32.modulus)
    have bound := transmissionTimeoutInMs.toNat_lt
    unfold Word32.modulus
    omega
  · exact absurd some (Nat.lt_irrefl 0)
  · cases wrong
  · cases impossible

theorem packing_of_reachable (reached : system.Reachable run) :
    ∃ groups current, Packing run groups current := by
  induction reached with
  | initial start => exact ⟨[], [], (packing_initial start).1⟩
  | step _ stepped ih =>
    obtain ⟨groups, current, packing⟩ := ih
    obtain ⟨groups', current', after, -⟩ := packing.perform stepped
    exact ⟨groups', current', after⟩

theorem punctual_of_reachable (reached : (system.restrict Timely).Reachable run) :
    ∃ groups current, Packing run groups current ∧ Punctual run groups current := by
  induction reached with
  | initial start => exact ⟨[], [], packing_initial start⟩
  | step _ stepped ih =>
    obtain ⟨groups, current, packing, punctual⟩ := ih
    obtain ⟨groups', current', after, stays⟩ := packing.perform stepped.1
    exact ⟨groups', current', after, stays stepped.2 punctual⟩

/-! ## The frames -/

/-- What the writer promises about its chunks. -/
structure Packed (run : PackingRun) : Prop where
  stream : run.writer.destination.elements.flatten ++ run.writer.buffered = bytesOf run.chunks
  /-- Every frame is made of whole chunks. -/
  whole : ∃ (groups : List (List TimedChunk)) (current : List TimedChunk),
    run.writer.destination.elements = groups.map bytesOf ∧
      run.chunks = groups.flatten ++ current ∧ bytesOf current = run.writer.buffered
  frames : ∀ frame ∈ run.writer.destination.elements,
    0 < frame.length ∧ frame.length ≤ run.writer.destination.maxSize

/-- Every chunk of a frame was sent in time after the first one, and no chunk has
waited longer in the buffer; no chunk waits where the timeout is zero. -/
def SentInTime (run : PackingRun) : Prop :=
  ∃ (groups : List (List TimedChunk)) (current : List TimedChunk),
    run.writer.destination.elements = groups.map bytesOf ∧
      run.chunks = groups.flatten ++ current ∧ bytesOf current = run.writer.buffered ∧
      List.Forall₂ (InTime run.writer.transmissionTimeout) groups run.sent ∧
      (∀ first rest, current = first :: rest →
        run.now ≤ first.time + run.writer.transmissionTimeout) ∧
      (run.writer.transmissionTimeout = 0 → current = [])

/-- The writer loses nothing, and sends in time if it is checked at least every
millisecond. -/
theorem pdus_packed (run : PackingRun) (reached : system.Reachable run) :
    Packed run ∧ ((system.restrict Timely).Reachable run → SentInTime run) := by
  constructor
  · obtain ⟨groups, current, packing⟩ := packing_of_reachable reached
    have contains := packing.contains
    refine ⟨?_, ⟨groups, current, contains.elements, packing.chunks, contains.buffered⟩,
      contains.frames⟩
    rw [contains.elements, ← contains.buffered, packing.chunks]
    rw [bytesOf_append, bytesOf_flatten]
  · intro timely
    obtain ⟨groups, current, packing, punctual⟩ := punctual_of_reachable timely
    exact ⟨groups, current, packing.contains.elements, packing.chunks, packing.contains.buffered,
      punctual.sent, fun first rest eq => (punctual.due first rest eq).2, packing.immediate⟩

/-! ### Samples -/

instance (run : PackingRun) : (event : PackingEvent) → Decidable (Timely run event)
  | .elapse duration => inferInstanceAs (Decidable (run.now + duration ≤ run.checked + 1000))
  | .allocate .. | .write .. | .commit _ | .flush _ | .checkTransmissionTimeout _ | .release =>
    .isTrue trivial

/-- The state after an event that is possible and timely. -/
def performTimely (run : PackingRun) (event : PackingEvent) : Option PackingRun :=
  if Timely run event then run.perform event else none

def sampleStart : PackingRun :=
  { writer :=
      .new { maxSize := 4, slot := [0, 0, 0, 0], allocated := 0, room := true, elements := [] } 2
    now := 4294966000
    checked := 4294966000 }

/-- Two chunks within a millisecond, and a check behind each millisecond. -/
def sampleEvents : List PackingEvent :=
  let next : NextSlot := { slot := [0, 0, 0, 0], room := true }
  [.elapse 1000, .checkTransmissionTimeout next, .allocate 1 next, .write 0 [7], .commit next,
    .elapse 300, .allocate 1 next, .write 0 [8], .commit next, .elapse 700,
    .checkTransmissionTimeout next, .elapse 1000, .checkTransmissionTimeout next]

-- The samples are evaluated.
attribute [local semireducible] Word32.modulus Word32.add Word32.sub

/-- Two chunks are sent together before their timeout of two milliseconds expires,
while the clock wraps. -/
theorem pdus_packed_sample :
    ∃ run : PackingRun, run.writer.destination.elements = [[7, 8]] ∧
      run.sent = [4294969000] ∧ Packed run ∧ SentInTime run := by
  have start : (system.restrict Timely).Reachable sampleStart :=
    .initial ⟨[0, 0, 0, 0], true, 2, 4294966000, rfl⟩
  have results : (System.play performTimely sampleStart sampleEvents).map
      (fun run => (run.writer.destination.elements, run.sent)) =
        some ([[7, 8]], [4294969000]) := by decide
  obtain ⟨run, played, result⟩ := Option.map_eq_some_iff.mp results
  obtain ⟨frames, sent⟩ := Prod.mk.inj result
  have timely := start.play (fun {source event target} performed => by
    obtain ⟨timely, performed⟩ := Option.ite_none_right_eq_some.mp performed
    exact ⟨performed, timely⟩) played
  obtain ⟨packed, inTime⟩ := pdus_packed run timely.of_restrict
  exact ⟨run, frames, sent, packed, inTime timely⟩

end PackingRun

end OpenBsw.Routing
