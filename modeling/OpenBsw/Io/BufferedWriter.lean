import OpenBsw.Io.Destination

/-!
# Buffered writer

Small chunks are collected in one slot of the destination.  The writer always
allocates the largest slice and trims it before it is committed.
-/

namespace OpenBsw.Io

open OpenBsw.Bytes List
open OpenBsw.Transition

structure BufferedWriter where
  destination : Destination
  currentBuffer : Span := {}
  size : Nat := 0

namespace BufferedWriter

def flush (writer : BufferedWriter) (next : NextSlot) : BufferedWriter :=
  let trimmed :=
    if writer.currentBuffer.size > 0 then
      (writer.destination.allocate
        (writer.destination.maxSize - writer.currentBuffer.size)).2
    else writer.destination
  { writer with destination := trimmed.commit next, currentBuffer := {} }

/-- The returned slice and the writer. -/
def allocate (writer : BufferedWriter) (size : Nat) (next : NextSlot) : Span × BufferedWriter :=
  let maximumBufferSize := writer.destination.maxSize
  if size > maximumBufferSize then ({}, { writer with size := 0 })
  else if writer.currentBuffer.size ≥ size then
    ({ offset := writer.currentBuffer.offset, size }, { writer with size })
  else
    let flushed := writer.flush next
    let allocated := flushed.destination.allocate maximumBufferSize
    let writer :=
      { flushed with
        destination := allocated.2
        currentBuffer := { size := allocated.1 } }
    if allocated.1 < maximumBufferSize then ({}, { writer with size := 0 })
    else ({ size }, { writer with size })

/-- Advancing a span stops at its end. -/
def commit (writer : BufferedWriter) : BufferedWriter :=
  let advanced := min writer.size writer.currentBuffer.size
  { writer with
    currentBuffer :=
      { offset := writer.currentBuffer.offset + advanced
        size := writer.currentBuffer.size - advanced }
    size := 0 }

/-- Where the next commit finds the bytes of the last allocation. -/
def slice (writer : BufferedWriter) : Span :=
  { offset := writer.currentBuffer.offset
    size := min writer.size writer.currentBuffer.size }

/-- The committed bytes in the current buffer. -/
def buffered (writer : BufferedWriter) : List UInt8 :=
  writer.destination.slot.take writer.currentBuffer.offset

end BufferedWriter

/-- A writer and what its user knows: the slice that the last call of `allocate`
returned until it is committed or flushed, the bytes in this slice until they are
committed, the committed chunks, and the requested and returned sizes of all calls of
`allocate`. -/
structure BufferedRun where
  writer : BufferedWriter
  slice : Span := {}
  content : List UInt8 := []
  chunks : List (List UInt8) := []
  allocations : List (Nat × Nat) := []

inductive BufferedEvent where
  | allocate (size : Nat) (next : NextSlot)
  | write (position : Nat) (bytes : List UInt8)
  | commit
  | flush (next : NextSlot)
  /-- The reader of the destination makes room. -/
  | release

namespace BufferedRun

/-- The state after an event that is possible.  A commit without a slice adds no chunk. -/
def perform (run : BufferedRun) : BufferedEvent → Option BufferedRun
  | .allocate size next =>
    if next.slot.length = run.writer.destination.maxSize then
      let result := run.writer.allocate size next
      some { run with
        writer := result.2
        slice := result.1
        content := result.1.read result.2.destination.slot
        allocations := run.allocations ++ [(size, result.1.size)] }
    else none
  | .write position bytes =>
    if position + bytes.length ≤ run.slice.size then
      some { run with
        writer.destination :=
          run.writer.destination.write (run.slice.offset + position) bytes
        content := overwrite run.content position bytes }
    else none
  | .commit =>
    some { run with
      writer := run.writer.commit
      slice := {}
      content := []
      chunks := if run.content = [] then run.chunks else run.chunks ++ [run.content] }
  | .flush next =>
    if next.slot.length = run.writer.destination.maxSize then
      some { run with writer := run.writer.flush next, slice := {} }
    else none
  | .release => some { run with writer.destination := run.writer.destination.release }

/-- Every slice with bytes is committed, or another one is allocated, before a flush. -/
def Committed (run : BufferedRun) : BufferedEvent → Prop
  | .flush _ => run.content = []
  | _ => True

/-- A new writer on a destination of any element size. -/
def system : System BufferedRun BufferedEvent where
  Initial run := ∃ slot room, run =
    { writer :=
        { destination :=
            { maxSize := slot.length, slot, allocated := 0, room, elements := [] } } }
  Step source event target := source.perform event = some target

/-! ## Invariant -/

/-- The elements and the buffer are made of the chunks. -/
structure Buffered (run : BufferedRun) : Prop where
  slotLength : run.writer.destination.slot.length = run.writer.destination.maxSize
  buffer : (run.writer.currentBuffer = {} ∧ run.writer.destination.allocated = 0) ∨
    (0 < run.writer.destination.maxSize ∧ run.writer.destination.room = true ∧
      run.writer.destination.allocated = run.writer.destination.maxSize ∧
      run.writer.currentBuffer.offset + run.writer.currentBuffer.size =
        run.writer.destination.maxSize)
  grouped : ∃ (groups : List (List (List UInt8))) (current : List (List UInt8)),
    run.writer.destination.elements = groups.map List.flatten ∧
    run.chunks = groups.flatten ++ current ∧ current.flatten = run.writer.buffered
  short : ∀ element ∈ run.writer.destination.elements,
    0 < element.length ∧ element.length ≤ run.writer.destination.maxSize
  allocations : ∀ entry ∈ run.allocations, entry.2 = entry.1 ∨ entry.2 = 0

/-- The slice is where the commit looks for it, with the bytes that were written to it. -/
structure Held (run : BufferedRun) : Prop where
  size : run.slice.size = run.writer.slice.size
  offset : run.slice.size ≠ 0 → run.slice.offset = run.writer.slice.offset
  content : run.content = run.slice.read run.writer.destination.slot

variable {run : BufferedRun}

/-- A flush publishes what is buffered, if there is anything. -/
theorem Buffered.flush_cases (buffered : Buffered run) (next : NextSlot) :
    (run.writer.currentBuffer.offset = 0 ∧ run.writer.flush next =
      { run.writer with
        destination := { run.writer.destination with allocated := 0 }
        currentBuffer := {} }) ∨
    (0 < run.writer.currentBuffer.offset ∧
      run.writer.currentBuffer.offset ≤ run.writer.destination.maxSize ∧
      run.writer.flush next =
        { run.writer with
          destination :=
            { run.writer.destination with
              slot := next.slot
              allocated := 0
              room := next.room
              elements := run.writer.destination.elements ++ [run.writer.buffered] }
          currentBuffer := {} }) := by
  rcases buffered.buffer with ⟨empty, noneAllocated⟩ | ⟨positive, room, allocated, total⟩
  · left
    rw [BufferedWriter.flush, empty, if_neg (Nat.lt_irrefl 0),
      Destination.commit_of_zero noneAllocated, ← noneAllocated]
    exact ⟨rfl, rfl⟩
  · rw [BufferedWriter.flush]
    by_cases rest : run.writer.currentBuffer.size > 0
    · rw [if_pos rest, ← total, Nat.add_sub_cancel]
      by_cases used : run.writer.currentBuffer.offset = 0
      · left
        rw [used, Destination.allocate_zero, Destination.commit_of_zero rfl]
        exact ⟨rfl, rfl⟩
      · right
        rw [Destination.allocate_of_room (by omega) (by omega) room]
        refine ⟨by omega, by omega, ?_⟩
        rw [Destination.commit_of_pos (by
          change 0 < run.writer.currentBuffer.offset
          omega)]
        rfl
    · right
      have full : run.writer.currentBuffer.offset = run.writer.destination.maxSize := by omega
      rw [if_neg rest, Destination.commit_of_pos (by omega), allocated, BufferedWriter.buffered,
        full]
      exact ⟨by omega, Nat.le_refl _, rfl⟩

/-- A flush keeps everything in order, and leaves nothing allocated. -/
theorem Buffered.flush (buffered : Buffered run) {next : NextSlot}
    (nextLength : next.slot.length = run.writer.destination.maxSize) :
    Buffered { run with writer := run.writer.flush next } ∧
      (run.writer.flush next).currentBuffer = {} ∧
      (run.writer.flush next).destination.maxSize = run.writer.destination.maxSize := by
  obtain ⟨groups, current, elementsEq, chunksEq, currentEq⟩ := buffered.grouped
  have slotLength := buffered.slotLength
  rcases buffered.flush_cases next with ⟨unused, flushed⟩ | ⟨used, inside, flushed⟩
  · rw [flushed]
    refine ⟨⟨slotLength, .inl ⟨rfl, rfl⟩, ⟨groups, current, elementsEq, chunksEq, ?_⟩,
      buffered.short, buffered.allocations⟩, rfl, rfl⟩
    rw [currentEq, BufferedWriter.buffered, unused]
    rfl
  · rw [flushed]
    have length : run.writer.buffered.length = run.writer.currentBuffer.offset := by
      rw [BufferedWriter.buffered, length_take]
      omega
    refine ⟨⟨nextLength, .inl ⟨rfl, rfl⟩, ⟨groups ++ [current], [], ?_, ?_, rfl⟩, ?_,
      buffered.allocations⟩, rfl, rfl⟩
    · change run.writer.destination.elements ++ [run.writer.buffered] = _
      rw [elementsEq, map_append, ← currentEq]
      rfl
    · change run.chunks = _
      rw [chunksEq, flatten_append, append_nil]
      simp
    · intro element member
      rcases mem_append.mp member with old | new
      · exact buffered.short element old
      · rw [mem_singleton.mp new]
        change 0 < run.writer.buffered.length ∧ run.writer.buffered.length ≤
          run.writer.destination.maxSize
        omega

/-- The slice that is returned is where the commit looks for it. -/
theorem slice_allocate (writer : BufferedWriter) (size : Nat) (next : NextSlot) :
    (writer.allocate size next).1.size = (writer.allocate size next).2.slice.size ∧
      ((writer.allocate size next).1.size ≠ 0 →
        (writer.allocate size next).1.offset = (writer.allocate size next).2.slice.offset) := by
  rw [BufferedWriter.allocate]
  by_cases large : size > writer.destination.maxSize
  · simp only [if_pos large, BufferedWriter.slice, Nat.zero_min, ne_eq, not_true_eq_false,
      false_implies, and_self]
  by_cases fits : writer.currentBuffer.size ≥ size
  · simp only [if_neg large, if_pos fits, BufferedWriter.slice, Nat.min_eq_left fits, implies_true,
      and_self]
  simp only [if_neg large, if_neg fits]
  split
  · simp only [BufferedWriter.slice, Nat.zero_min, ne_eq, not_true_eq_false, false_implies,
      and_self]
  · rename_i whole
    simp only [BufferedWriter.slice, implies_true, and_true]
    omega

/-- An allocation succeeds while the destination has room. -/
theorem size_allocate (buffered : Buffered run) {size : Nat} {next : NextSlot}
    (small : size ≤ run.writer.destination.maxSize) (room : run.writer.destination.room = true)
    (nextRoom : next.room = true) : (run.writer.allocate size next).1.size = size := by
  rw [BufferedWriter.allocate]
  by_cases fits : run.writer.currentBuffer.size ≥ size
  · simp only [if_neg (Nat.not_lt.mpr small), if_pos fits]
  have flushed : (run.writer.flush next).destination.maxSize = run.writer.destination.maxSize ∧
      (run.writer.flush next).destination.room = true := by
    rcases buffered.flush_cases next with ⟨_, same⟩ | ⟨_, _, published⟩
    · rw [same]
      exact ⟨rfl, room⟩
    · rw [published]
      exact ⟨rfl, nextRoom⟩
  simp only [if_neg (Nat.not_lt.mpr small), if_neg fits]
  rw [Destination.allocate_of_room (by omega) flushed.1.ge flushed.2]
  simp only [if_neg (Nat.lt_irrefl _)]

/-- A freshly allocated slot is the buffer. -/
theorem Buffered.allocate (buffered : Buffered run) (size : Nat) {next : NextSlot}
    (nextLength : next.slot.length = run.writer.destination.maxSize) :
    Buffered { run with
      writer := (run.writer.allocate size next).2
      slice := (run.writer.allocate size next).1
      content := (run.writer.allocate size next).1.read
        (run.writer.allocate size next).2.destination.slot
      allocations := run.allocations ++ [(size, (run.writer.allocate size next).1.size)] } := by
  have recorded : ∀ returned, returned = size ∨ returned = 0 →
      ∀ entry ∈ run.allocations ++ [(size, returned)], entry.2 = entry.1 ∨ entry.2 = 0 := by
    intro returned exact entry member
    rcases mem_append.mp member with old | new
    · exact buffered.allocations entry old
    · rw [mem_singleton.mp new]
      exact exact
  rw [BufferedWriter.allocate]
  by_cases large : size > run.writer.destination.maxSize
  · simp only [if_pos large]
    exact { buffered with allocations := recorded 0 (.inr rfl) }
  by_cases fits : run.writer.currentBuffer.size ≥ size
  · simp only [if_neg large, if_pos fits]
    exact { buffered with allocations := recorded size (.inl rfl) }
  simp only [if_neg large, if_neg fits]
  obtain ⟨flushed, emptyBuffer, sameMax⟩ := buffered.flush nextLength
  obtain ⟨groups, current, elementsEq, chunksEq, currentEq⟩ := flushed.grouped
  have noneBuffered : current.flatten = [] := by
    rw [currentEq, BufferedWriter.buffered]
    change List.take (run.writer.flush next).currentBuffer.offset _ = _
    rw [emptyBuffer]
    rfl
  rw [← sameMax]
  rcases (run.writer.flush next).destination.allocate_cases
      (run.writer.flush next).destination.maxSize with failed | ⟨positive, -, room, allocated⟩
  · rw [failed]
    have grouped : ∃ (groups : List (List (List UInt8))) (current : List (List UInt8)),
        (run.writer.flush next).destination.elements = groups.map List.flatten ∧
          run.chunks = groups.flatten ++ current ∧ current.flatten = [] :=
      ⟨groups, current, elementsEq, chunksEq, noneBuffered⟩
    split
    · exact ⟨flushed.slotLength, .inl ⟨rfl, rfl⟩, grouped, flushed.short, recorded 0 (.inr rfl)⟩
    · exact ⟨flushed.slotLength, .inl ⟨rfl, rfl⟩, grouped, flushed.short,
        recorded size (.inl rfl)⟩
  · rw [allocated, if_neg (Nat.lt_irrefl _)]
    exact ⟨flushed.slotLength, .inr ⟨positive, room, rfl, Nat.zero_add _⟩,
      ⟨groups, current, elementsEq, chunksEq, noneBuffered⟩, flushed.short,
      recorded size (.inl rfl)⟩

/-- A slice with bytes lies in the slot behind what is buffered. -/
theorem Buffered.inside (buffered : Buffered run) (held : Held run)
    (nonempty : run.slice.size ≠ 0) :
    run.slice.offset = run.writer.currentBuffer.offset ∧
      run.slice.offset + run.slice.size ≤ run.writer.destination.slot.length := by
  have offset : run.slice.offset = run.writer.currentBuffer.offset := held.offset nonempty
  have size : run.slice.size = min run.writer.size run.writer.currentBuffer.size := held.size
  refine ⟨offset, ?_⟩
  rcases buffered.buffer with ⟨empty, -⟩ | ⟨-, -, -, total⟩
  · rw [empty, Nat.min_zero] at size
    exact absurd size nonempty
  · rw [buffered.slotLength]
    omega

/-- Writing into the slice does not touch what is buffered. -/
theorem Buffered.write (buffered : Buffered run) (held : Held run) {position : Nat}
    {bytes : List UInt8} (inside : position + bytes.length ≤ run.slice.size)
    (nonempty : run.slice.size ≠ 0) :
    Buffered { run with
      writer.destination := run.writer.destination.write (run.slice.offset + position) bytes
      content := overwrite run.content position bytes } := by
  obtain ⟨offset, fits⟩ := buffered.inside held nonempty
  obtain ⟨groups, current, elementsEq, chunksEq, currentEq⟩ := buffered.grouped
  have written : run.slice.offset + position + bytes.length ≤
      run.writer.destination.slot.length := by omega
  refine { buffered with slotLength := ?_, grouped := ⟨groups, current, elementsEq, chunksEq, ?_⟩ }
  · exact (length_overwrite written).trans buffered.slotLength
  · rw [currentEq, BufferedWriter.buffered, BufferedWriter.buffered]
    have before : 0 + run.writer.currentBuffer.offset ≤ run.slice.offset + position := by omega
    exact (slice_overwrite_of_disjoint written (.inl before)).symm

/-- The bytes of the slice join what is buffered. -/
theorem Buffered.commit (buffered : Buffered run) (held : Held run) :
    Buffered { run with
      writer := run.writer.commit
      slice := {}
      content := []
      chunks := if run.content = [] then run.chunks else run.chunks ++ [run.content] } := by
  obtain ⟨groups, current, elementsEq, chunksEq, currentEq⟩ := buffered.grouped
  refine { buffered with buffer := ?_, grouped := ?_ }
  · rcases buffered.buffer with ⟨empty, noneAllocated⟩ | ⟨positive, room, allocated, total⟩
    · left
      refine ⟨?_, noneAllocated⟩
      rw [BufferedWriter.commit, empty]
      simp only [Nat.min_zero]
    · refine .inr ⟨positive, room, allocated, ?_⟩
      change run.writer.currentBuffer.offset + min run.writer.size run.writer.currentBuffer.size +
        (run.writer.currentBuffer.size - min run.writer.size run.writer.currentBuffer.size) =
          run.writer.destination.maxSize
      omega
  · have content : run.content = run.writer.slice.read run.writer.destination.slot := by
      rw [held.content, Span.read, Span.read, ← held.size]
      by_cases nothing : run.slice.size = 0
      · rw [nothing, Bytes.slice, Bytes.slice, take_zero, take_zero]
      · rw [held.offset nothing]
    have joined : run.writer.commit.buffered = run.writer.buffered ++ run.content := by
      rw [content]
      exact take_add
    by_cases nothing : run.content = []
    · refine ⟨groups, current, elementsEq, ?_, ?_⟩
      · simp only [if_pos nothing]
        exact chunksEq
      · change current.flatten = run.writer.commit.buffered
        rw [joined, nothing, append_nil]
        exact currentEq
    · refine ⟨groups, current ++ [run.content], elementsEq, ?_, ?_⟩
      · simp only [if_neg nothing]
        rw [chunksEq, append_assoc]
      · change _ = run.writer.commit.buffered
        rw [joined, flatten_append, currentEq, flatten_singleton]

/-- Every event that comes in time keeps the bytes of the slice and the stream in order. -/
theorem Buffered.perform (buffered : Buffered run) (held : Held run) {event : BufferedEvent}
    (committed : Committed run event) {target : BufferedRun}
    (performed : run.perform event = some target) : Buffered target ∧ Held target := by
  cases event with
  | allocate size next =>
    obtain ⟨nextLength, performed⟩ := Option.ite_none_right_eq_some.mp performed
    cases performed
    obtain ⟨sizes, offsets⟩ := slice_allocate run.writer size next
    exact ⟨buffered.allocate size nextLength, sizes, offsets, rfl⟩
  | write position bytes =>
    obtain ⟨inside, performed⟩ := Option.ite_none_right_eq_some.mp performed
    cases performed
    by_cases nonempty : run.slice.size = 0
    · obtain rfl : bytes = [] := length_eq_zero_iff.mp (by omega)
      simp only [Destination.write, overwrite_nil]
      exact ⟨{ buffered with }, { held with }⟩
    · refine ⟨buffered.write held inside nonempty, held.size, held.offset, ?_⟩
      have fits := (buffered.inside held nonempty).2
      simp only [held.content, Span.read, Destination.write]
      exact (slice_overwrite_within fits inside).symm
  | commit =>
    cases performed
    exact ⟨buffered.commit held, Nat.zero_min _ |>.symm, fun nonempty => absurd rfl nonempty, rfl⟩
  | flush next =>
    obtain ⟨nextLength, performed⟩ := Option.ite_none_right_eq_some.mp performed
    cases performed
    obtain ⟨flushed, -⟩ := buffered.flush nextLength
    exact ⟨{ flushed with }, Nat.min_zero _ |>.symm, fun nonempty => absurd rfl nonempty, committed⟩
  | release =>
    cases performed
    refine ⟨{ buffered with buffer := ?_ }, { held with }⟩
    exact buffered.buffer.imp id fun ⟨positive, _, rest⟩ => ⟨positive, rfl, rest⟩

theorem buffered_of_reachable (reached : (system.restrict Committed).Reachable run) :
    Buffered run ∧ Held run := by
  induction reached with
  | initial start =>
    obtain ⟨slot, room, rfl⟩ := start
    exact
      ⟨{ slotLength := rfl
         buffer := .inl ⟨rfl, rfl⟩
         grouped := ⟨[], [], rfl, rfl, rfl⟩
         short := fun _ member => absurd member not_mem_nil
         allocations := fun _ member => absurd member not_mem_nil },
        rfl, fun nonempty => absurd rfl nonempty, rfl⟩
  | step _ stepped ih => exact ih.1.perform ih.2 stepped.2 stepped.1

/-! ## The stream -/

/-- What the writer promises about its chunks. -/
structure Transparent (run : BufferedRun) : Prop where
  stream : run.writer.destination.elements.flatten ++ run.writer.buffered = run.chunks.flatten
  /-- Every element is made of whole chunks. -/
  whole : ∃ (groups : List (List (List UInt8))) (current : List (List UInt8)),
    run.writer.destination.elements = groups.map List.flatten ∧
      run.chunks = groups.flatten ++ current ∧ current.flatten = run.writer.buffered
  short : ∀ element ∈ run.writer.destination.elements,
    element.length ≤ run.writer.destination.maxSize
  allocations : ∀ entry ∈ run.allocations, entry.2 = entry.1 ∨ entry.2 = 0
  /-- An allocation fails only for its size or where the destination has no room. -/
  succeeds : ∀ size next, size ≤ run.writer.destination.maxSize →
    run.writer.destination.room = true → next.room = true →
      (run.writer.allocate size next).1.size = size

/-- In every run without a flush between an allocation and its commit the stream is that of the
committed chunks. -/
theorem bufferedWriter_transparent (run : BufferedRun)
    (reached : (system.restrict Committed).Reachable run) : Transparent run := by
  have buffered := (buffered_of_reachable reached).1
  refine ⟨?_, buffered.grouped, fun element member => (buffered.short element member).2,
    buffered.allocations, fun _ _ => size_allocate buffered⟩
  obtain ⟨groups, current, elementsEq, chunksEq, currentEq⟩ := buffered.grouped
  rw [elementsEq, chunksEq, ← currentEq, flatten_append, flatten_flatten]

/-! ## Samples -/

def sampleStart : BufferedRun :=
  { writer :=
      { destination :=
          { maxSize := 4, slot := [0, 0, 0, 0], allocated := 0, room := true, elements := [] } } }

def sampleNext : NextSlot :=
  { slot := [0, 0, 0, 0], room := true }

instance (run : BufferedRun) : (event : BufferedEvent) → Decidable (Committed run event)
  | .flush _ => inferInstanceAs (Decidable (_ = _))
  | .allocate _ _ | .write _ _ | .commit | .release => inferInstanceAs (Decidable True)

/-- Two chunks, one of them trimmed, that share an element, and one in the next element. -/
theorem bufferedWriter_transparent_sample :
    ∃ run : BufferedRun, run.chunks = [[7], [8, 9], [1, 2]] ∧
      run.writer.destination.elements = [[7, 8, 9]] ∧ Transparent run := by
  have start : (system.restrict Committed).Reachable sampleStart :=
    .initial ⟨[0, 0, 0, 0], true, rfl⟩
  have played : ∃ run, System.play (System.performIf perform Committed) sampleStart
      [.allocate 1 sampleNext, .write 0 [7], .commit, .allocate 3 sampleNext, .write 0 [8, 9],
        .allocate 2 sampleNext, .commit, .allocate 2 sampleNext, .write 0 [1, 2], .commit] =
        some run ∧
      run.chunks = [[7], [8, 9], [1, 2]] ∧ run.writer.destination.elements = [[7, 8, 9]] :=
    ⟨_, rfl, rfl, rfl⟩
  obtain ⟨run, played, chunks, elements⟩ := played
  exact ⟨run, chunks, elements,
    bufferedWriter_transparent run (start.play_performIf id played)⟩

/-- A chunk that was allocated and written is gone when a flush comes before its
commit. -/
theorem not_transparent_flushed :
    ∃ run, system.Reachable run ∧ run.chunks = [[7]] ∧ ¬Transparent run := by
  have played : ∃ run, System.play perform sampleStart
      [.allocate 1 sampleNext, .write 0 [7], .flush sampleNext, .commit] = some run ∧
      run.chunks = [[7]] ∧
      run.writer.destination.elements.flatten ++ run.writer.buffered = [] :=
    ⟨_, rfl, rfl, rfl⟩
  obtain ⟨run, played, chunks, nothing⟩ := played
  refine ⟨run, .play (fun done => done) (.initial ⟨[0, 0, 0, 0], true, rfl⟩) played, chunks,
    fun transparent => ?_⟩
  have stream := transparent.stream
  rw [nothing, chunks] at stream
  exact absurd stream (by decide)

end BufferedRun

end OpenBsw.Io
