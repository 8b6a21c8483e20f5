import OpenBsw.Io.MemoryQueue.Invariant

/-!
# The queue is first in, first out

In every state of every interleaving the released elements are the first
committed ones, what the reader peeks or holds is the next of them, and the
writer's span stays clear of all that is committed and not released.
-/

namespace OpenBsw.Io

open OpenBsw.Bytes
open OpenBsw.Ring
open OpenBsw.Transition

/-! ## Spans -/

def Span.Inside (span : Span) (data : List UInt8) : Prop :=
  span.offset + span.size ≤ data.length

def Span.Disjoint (left right : Span) : Prop :=
  left.offset + left.size ≤ right.offset ∨ right.offset + right.size ≤ left.offset

section Blocks

variable (config : MemoryQueueConfig)

/-- The places of elements from an index on, their headers included. -/
def blocks : Nat → List (List UInt8) → List Span
  | _, [] => []
  | index, element :: elements =>
    { offset := index % config.capacity, size := config.headerSize + element.length } ::
      blocks (config.advanceIndex index element.length) elements

end Blocks

variable {config : MemoryQueueConfig}

/-- What the array holds in the place of an element. -/
theorem Holds.block {data element : List UInt8} {position : Nat}
    (holds : Holds config data position element) :
    slice data (position % config.capacity) (config.headerSize + element.length) =
      bigEndian config.headerSize element.length ++ element := by
  obtain ⟨header, bytes⟩ := holds
  rw [slice, List.take_add, ← slice, List.drop_drop, ← slice, header, bytes]

/-- Everything about the places of stored elements: what they hold, and that
they lie inside the array and clear of the writer's room. -/
theorem Stored.blocks {data : List UInt8} {elements : List (List UInt8)} {first last limit : Nat}
    (stored : Stored config data first elements last) (length : data.length = config.capacity)
    (after : limit ≤ first) (valid : config.Valid first) :
    (blocks config (first % (2 * config.capacity)) elements).map (·.read data) =
        elements.map (fun element => bigEndian config.headerSize element.length ++ element) ∧
      ∀ block ∈ blocks config (first % (2 * config.capacity)) elements,
        block.Inside data ∧
          (Room config limit last → ∀ span : Span, last % config.capacity ≤ span.offset →
            span.offset + span.size ≤ last % config.capacity + config.reserve →
            span.Disjoint block) := by
  induction elements generalizing first with
  | nil => simp [Io.blocks]
  | cons element elements ih =>
    obtain ⟨small, holds, rest⟩ := stored
    have advanced := config.le_advance first element.length
    have restLe := rest.le
    have clear : first % config.capacity + config.reserve ≤ config.capacity := valid
    obtain ⟨restHolds, restBlocks⟩ :=
      ih rest (by omega) (MemoryQueueConfig.valid_advance first element.length)
    rw [Io.blocks, mod_two_mul_mod, MemoryQueueConfig.advanceIndex_mod valid small]
    refine ⟨?_, fun block member => ?_⟩
    · rw [List.map_cons, List.map_cons, restHolds, Span.read, holds.block]
    · rcases List.mem_cons.mp member with rfl | later
      · refine ⟨?_, fun room span start finish => ?_⟩
        · simp only [Span.Inside, MemoryQueueConfig.reserve] at clear ⊢
          omega
        · have disjoint := blocks_disjoint after
            (by omega : first + (element.length + config.headerSize) ≤ last) room
          simp only [Span.Disjoint]
          omega
      · exact restBlocks block later

/-! ## Runs -/

namespace MemoryQueue

/-- The elements that are committed and not released. -/
def unreleased (queue : MemoryQueue) : List (List UInt8) :=
  queue.writer.committed.drop queue.reader.consumed.length

variable (config) in
/-- The places of the elements that are committed and not released, found from
the index `received`. -/
def unreleasedBlocks (queue : MemoryQueue) : List Span :=
  blocks config queue.reader.rx.received queue.unreleased

variable (config) in
/-- What holds of a lossless queue of byte strings. -/
structure Lossless (queue : MemoryQueue) : Prop where
  published : queue.published = queue.writer.committed ++ queue.writer.step.element.toList
  consumed_prefix : queue.reader.consumed <+: queue.writer.committed
  peeked : ∀ entry ∈ queue.reader.peeked, queue.writer.committed[entry.1]? = some entry.2
  held : queue.reader.span ≠ {} →
    queue.writer.committed[queue.reader.consumed.length]? =
      some (queue.reader.span.read queue.writer.tx.data)
  stored : (queue.unreleasedBlocks config).map (·.read queue.writer.tx.data) =
    queue.unreleased.map fun element => bigEndian config.headerSize element.length ++ element
  disjoint : ∀ block ∈ queue.unreleasedBlocks config, queue.writer.span.Disjoint block
  data_length : queue.writer.tx.data.length = config.capacity
  writer_inside : queue.writer.span.Inside queue.writer.tx.data
  reader_inside : queue.reader.span.Inside queue.writer.tx.data
  blocks_inside : ∀ block ∈ queue.unreleasedBlocks config, block.Inside queue.writer.tx.data

/-- What the user left in its span is committed, or is being committed. -/
def Logged (queue : MemoryQueue) : Prop :=
  queue.published = queue.writer.committed ++ queue.writer.step.element.toList

theorem lossless_of_queueInv {queue : MemoryQueue} {readPosition writePosition : Nat}
    (inv : QueueInv config queue readPosition writePosition) (logged : queue.Logged) :
    queue.Lossless config := by
  have lengthEq := inv.writer.length_eq
  have writeClear : writePosition % config.capacity + config.reserve ≤ config.capacity :=
    inv.writeValid
  have readClear : readPosition % config.capacity + config.reserve ≤ config.capacity :=
    inv.readValid
  have allocatedLe := inv.writer.allocated_le
  simp only [MemoryQueueConfig.reserve] at writeClear readClear
  obtain ⟨stored, places⟩ := inv.stored.blocks lengthEq (Nat.le_refl _) inv.readValid
  rw [← inv.reader.received_eq] at stored places
  refine
    { published := logged
      consumed_prefix := inv.reader.consumed_prefix
      peeked := inv.reader.peeked
      held := ?held
      stored := stored
      disjoint := ?disjoint
      data_length := lengthEq
      writer_inside := ?writer
      reader_inside := ?reader
      blocks_inside := fun block member => (places block member).1 }
  case held =>
    intro nonempty
    rcases inv.reader.span_eq with empty | ⟨element, elementEq, span⟩
    · exact absurd empty nonempty
    · obtain ⟨head, headEq, _, holds, _⟩ :=
        inv.head (List.getElem?_eq_some_iff.mp elementEq).1
      obtain rfl : element = head := Option.some.inj (elementEq.symm.trans headEq)
      rw [elementEq, span, Span.read, holds.2]
  case disjoint =>
    intro block member
    rcases inv.writer.span_eq with empty | ⟨room, span⟩
    · rw [empty]
      exact .inl (Nat.zero_le _)
    · apply (places block member).2 room
      · rw [span]
        exact Nat.le_add_right _ _
      · rw [span]
        simp only [MemoryQueueConfig.reserve]
        omega
  case writer =>
    rcases inv.writer.span_eq with empty | ⟨room, span⟩
    · rw [empty]
      exact Nat.zero_le _
    · rw [span]
      simp only [Span.Inside]
      omega
  case reader =>
    rcases inv.reader.span_eq with empty | ⟨element, elementEq, span⟩
    · rw [empty]
      exact Nat.zero_le _
    · obtain ⟨head, headEq, small, _, _⟩ :=
        inv.head (List.getElem?_eq_some_iff.mp elementEq).1
      obtain rfl : element = head := Option.some.inj (elementEq.symm.trans headEq)
      rw [span]
      simp only [Span.Inside]
      omega

theorem queueInv_new {data : List UInt8} (length : data.length = config.capacity) :
    QueueInv config (new config data) 0 0 where
  writer :=
    { sent_eq := (Nat.zero_mod _).symm
      length_eq := length
      allocated_le := Nat.zero_le _
      room := fun nonzero => absurd rfl nonzero
      span_eq := .inl rfl
      step := fun nonzero => absurd rfl nonzero }
  reader :=
    { received_eq := (Nat.zero_mod _).symm
      consumed_prefix := List.prefix_refl _
      peeked := fun _ member => nomatch member
      span_eq := .inl rfl
      step := trivial }
  readValid := MemoryQueueConfig.valid_zero
  writeValid := MemoryQueueConfig.valid_zero
  within := Nat.zero_le _
  stored := rfl

theorem queueInv_step {source target : MemoryQueue} {event : MemoryQueueEvent}
    {readPosition writePosition : Nat} (inv : QueueInv config source readPosition writePosition)
    (stepped : source.step config event = some target) :
    ∃ read write, QueueInv config target read write := by
  cases event with
  | allocate size =>
    obtain ⟨writer, called, rfl⟩ := Option.map_eq_some_iff.mp stepped
    exact ⟨_, _, (Writer.allocate_stays inv.writer called).queueInv inv⟩
  | write position bytes =>
    obtain ⟨writer, called, rfl⟩ := Option.map_eq_some_iff.mp stepped
    exact ⟨_, _, (Writer.write_stays inv.writer inv.writeValid called).queueInv inv⟩
  | commit =>
    obtain ⟨writer, called, rfl⟩ := Option.map_eq_some_iff.mp stepped
    exact ⟨_, _, { (Writer.commit_stays inv.writer called).queueInv inv with }⟩
  | writer =>
    obtain ⟨writer, called, rfl⟩ := Option.map_eq_some_iff.mp stepped
    exact ⟨_, inv.writer_continue called⟩
  | call check =>
    obtain ⟨reader, called, rfl⟩ := Option.map_eq_some_iff.mp stepped
    exact ⟨_, _, inv.reader_call called⟩
  | reader =>
    obtain ⟨reader, called, rfl⟩ := Option.map_eq_some_iff.mp stepped
    obtain ⟨later, laterInv⟩ := inv.reader_continue called
    exact ⟨later, _, laterInv⟩

/-- The user has as many bytes as are allocated. -/
theorem size_span {queue : MemoryQueue} {readPosition writePosition : Nat}
    (inv : QueueInv config queue readPosition writePosition)
    (idle : queue.writer.step = .idle) :
    queue.writer.span.size = queue.writer.tx.allocated := by
  have step := inv.writer.step
  rw [idle] at step
  by_cases nothing : queue.writer.tx.allocated = 0
  · rcases inv.writer.span_eq with empty | ⟨_, span⟩
    · rw [empty, nothing]
    · rw [span]
  · rw [step nothing]

theorem logged_step {source target : MemoryQueue} {event : MemoryQueueEvent}
    {readPosition writePosition : Nat} (inv : QueueInv config source readPosition writePosition)
    (logged : source.Logged) (stepped : source.step config event = some target) :
    target.Logged := by
  unfold Logged at logged ⊢
  cases event <;> obtain ⟨side, called, rfl⟩ := Option.map_eq_some_iff.mp stepped
  case allocate =>
    unfold Writer.allocate at called
    split at called
    next idle =>
      rw [idle] at logged
      split at called <;> cases called
      · simp only [idle]
        exact logged
      · exact logged
    next => cases called
  case write =>
    unfold Writer.write at called
    split at called
    · split at called <;> cases called
      exact logged
    · cases called
  case commit =>
    unfold Writer.commit at called
    split at called
    next idle =>
      have same : source.published = source.writer.committed := by
        rw [logged, idle]
        exact List.append_nil _
      have sizeEq := size_span inv idle
      split at called <;> cases called
      next nothing =>
        rw [if_pos (sizeEq.trans nothing)]
        exact logged
      next pending =>
        rw [if_neg (by rw [sizeEq]; exact pending), same]
        rfl
    next => cases called
  case writer =>
    unfold Writer.continue at called
    split at called <;> rename_i stepEq <;> rw [stepEq] at logged
    case h_3 =>
      simp only at called
      split at called <;> cases called <;> exact logged
    case h_7 =>
      cases called
      rw [logged]
      exact (List.append_nil _).symm
    all_goals
      cases called
      try exact logged
  case call => exact logged
  case reader => exact logged

theorem lossless_inductive :
    (system config).Inductive fun queue =>
      (∃ read write, QueueInv config queue read write) ∧ queue.Logged where
  initial := by
    rintro _ ⟨data, length, rfl⟩
    exact ⟨⟨0, 0, queueInv_new length⟩, rfl⟩
  step := fun ⟨⟨_, _, inv⟩, logged⟩ stepped =>
    ⟨queueInv_step inv stepped, logged_step inv logged stepped⟩

/-- In every interleaving of one writer and one reader the queue is a lossless
FIFO of byte strings. -/
theorem lossless {queue : MemoryQueue} (reached : (system config).Reachable queue) :
    queue.Lossless config := by
  obtain ⟨⟨_, _, inv⟩, logged⟩ := lossless_inductive.of_reachable reached
  exact lossless_of_queueInv inv logged

/-- A queue with room for exactly one element of two bytes. -/
def oneElement : MemoryQueueConfig where
  capacity := 3
  maxElementSize := 2
  headerSize := 1
  sizeLimit := 2 ^ 32
  headerPositive := by decide
  fits := by decide
  representable := by decide
  addressable := by decide

/-- The queue is filled, peeked and released. -/
theorem lossless_oneElement :
    ∃ queue, (new oneElement [0, 0, 0]).run oneElement
        [.allocate 2, .writer, .writer, .writer, .write 0 [7, 8], .commit,
          .writer, .writer, .writer, .call .peek, .reader, .reader, .reader, .reader,
          .call (.release false), .reader, .reader, .reader, .reader, .reader] = some queue ∧
      (queue.reader.consumed, queue.reader.peeked) = ([[7, 8]], [(0, [7, 8])]) ∧
      queue.Lossless oneElement := by
  have observed : ((new oneElement [0, 0, 0]).run oneElement
        [.allocate 2, .writer, .writer, .writer, .write 0 [7, 8], .commit,
          .writer, .writer, .writer, .call .peek, .reader, .reader, .reader, .reader,
          .call (.release false), .reader, .reader, .reader, .reader, .reader]).map
        (fun queue => (queue.reader.consumed, queue.reader.peeked)) =
      some ([[7, 8]], [(0, [7, 8])]) := by decide
  obtain ⟨queue, ran, logs⟩ := Option.map_eq_some_iff.mp observed
  exact ⟨queue, ran, logs,
    lossless (reachable_of_run (.initial ⟨[0, 0, 0], rfl, rfl⟩) ran)⟩

end MemoryQueue

end OpenBsw.Io
