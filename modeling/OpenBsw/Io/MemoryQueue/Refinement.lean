import OpenBsw.Io.Destination
import OpenBsw.Io.MemoryQueue.Fifo
import OpenBsw.Transition.Simulation

/-!
# Memory queues as destinations

The writers of other modules are verified over `Destination`.  Here the writer's side of a
memory queue is shown to behave like one, while the reader is interleaved in any way: every call
takes effect at one moment between its start and its return.  An allocation takes effect when
the index of the reader is loaded, a commit when the index of the writer is stored, and the
reader only makes room.
-/

namespace OpenBsw.Io

open OpenBsw.Bytes List
open OpenBsw.Ring
open OpenBsw.Transition

/-! ## Destinations as a system -/

/-- A call of a writer.  A commit is for the bytes that its user has left in the span. -/
inductive WriterCall where
  | allocate (size : Nat)
  | write (position : Nat) (bytes : List UInt8)
  | commit (element : List UInt8)
  deriving DecidableEq

/-- What the user of a writer sees: its calls, and the size of the span that it has when a call
returns. -/
inductive WriterLabel where
  | called (call : WriterCall)
  | returned (size : Nat)
  deriving DecidableEq

/-- Where the call in progress is. -/
inductive PendingCall where
  | idle
  | called (call : WriterCall)
  | effected
  deriving DecidableEq

/-- A destination with the call of its user. -/
structure Client where
  destination : Destination
  pending : PendingCall := .idle

inductive ClientEvent where
  | call (call : WriterCall)
  | effect (next : NextSlot)
  | answer
  | release

namespace Client

/-- A call takes effect as a whole. -/
def effect (destination : Destination) (next : NextSlot) : WriterCall → Option Destination
  | .allocate size => some (destination.allocate size).2
  | .write position bytes =>
    if position + bytes.length ≤ destination.allocated then
      some (destination.write position bytes)
    else none
  | .commit element =>
    if next.slot.length = destination.maxSize ∧
        element = destination.slot.take destination.allocated then
      some (destination.commit next)
    else none

def perform (client : Client) : ClientEvent → Option Client
  | .call call => match client.pending with
    | .idle => some { client with pending := .called call }
    | _ => none
  | .effect next => match client.pending with
    | .called call => (effect client.destination next call).map fun destination =>
      { destination, pending := .effected }
    | _ => none
  | .answer => match client.pending with
    | .effected => some { client with pending := .idle }
    | _ => none
  | .release => some { client with destination := client.destination.release }

def label (client : Client) : ClientEvent → List WriterLabel
  | .call call => [.called call]
  | .answer => [.returned client.destination.allocated]
  | .effect _ | .release => []

/-- A destination of the given element size without elements. -/
def system (maxSize : Nat) : System Client ClientEvent where
  Initial client := ∃ slot room, slot.length = maxSize ∧
    client = { destination := { maxSize, slot, allocated := 0, room, elements := [] } }
  Step source event target := source.perform event = some target

/-- A call that has taken effect returns. -/
theorem answered {maxSize : Nat} (destination : Destination) :
    System.Path (system maxSize) label ⟨destination, .effected⟩
      [.returned destination.allocated] ⟨destination, .idle⟩ := by
  have step : (system maxSize).Step ⟨destination, .effected⟩ .answer ⟨destination, .idle⟩ := rfl
  exact System.Path.refl.step step

/-- A call takes effect. -/
theorem effected {maxSize : Nat} {destination after : Destination} {call : WriterCall}
    (next : NextSlot) (taken : effect destination next call = some after) :
    System.Path (system maxSize) label ⟨destination, .called call⟩ [] ⟨after, .effected⟩ := by
  have step : (system maxSize).Step ⟨destination, .called call⟩ (.effect next)
      ⟨after, .effected⟩ :=
    Option.map_eq_some_iff.mpr ⟨after, taken, rfl⟩
  exact System.Path.refl.step step

/-- A call takes effect and returns. -/
theorem completed {maxSize : Nat} {destination after : Destination} {call : WriterCall}
    (next : NextSlot) (taken : effect destination next call = some after) :
    System.Path (system maxSize) label ⟨destination, .called call⟩ [.returned after.allocated]
      ⟨after, .idle⟩ :=
  (effected next taken).trans (answered after)

/-- A call starts. -/
theorem started {maxSize : Nat} (destination : Destination) (call : WriterCall) :
    System.Path (system maxSize) label ⟨destination, .idle⟩ [.called call]
      ⟨destination, .called call⟩ := by
  have step : (system maxSize).Step ⟨destination, .idle⟩ (.call call)
      ⟨destination, .called call⟩ := rfl
  exact System.Path.refl.step step

end Client

/-! ## The relation -/

namespace MemoryQueue

variable (config : MemoryQueueConfig)

/-- The bytes in which the next element is written. -/
def slot (queue : MemoryQueue) : List UInt8 :=
  slice queue.writer.tx.data (queue.writer.tx.sent % config.capacity + config.headerSize)
    config.maxElementSize

/-- The free bytes that the writer would find. -/
def free (queue : MemoryQueue) : Nat :=
  config.available queue.writer.tx.sent queue.reader.rx.received

/-- A call has returned when its side of the queue is idle. -/
def returned (target : MemoryQueue) : List WriterLabel :=
  if target.writer.step = .idle then [.returned target.writer.span.size] else []

/-- What the user of the writer sees of a step. -/
def label (queue : MemoryQueue) (event : MemoryQueueEvent) : List WriterLabel :=
  let after := (queue.step config event).elim [] returned
  match event with
  | .allocate size => .called (.allocate size) :: after
  | .write position bytes => .called (.write position bytes) :: after
  | .commit => .called (.commit (queue.writer.span.read queue.writer.tx.data)) :: after
  | .writer => after
  | .call _ | .reader => []

/-- The destination that the user of the writer sees. -/
def destination (queue : MemoryQueue) (allocated : Nat) : Destination where
  maxSize := config.maxElementSize
  slot := queue.slot config
  allocated
  room := decide (queue.free config ≠ 0)
  elements := queue.writer.committed

/-- How far the call in progress has come. -/
def During (queue : MemoryQueue) (allocated : Nat) (pending : PendingCall) : Prop :=
  match queue.writer.step with
  | .idle => pending = .idle ∧ allocated = queue.writer.tx.allocated
  | .availableSent size | .availableReceived size _ =>
    pending = .called (.allocate size) ∧ 0 < size
  | .allocateSent size => pending = .effected ∧ allocated = size
  | .commitSent element | .commitHeader _ element | .commitStore _ element =>
    pending = .called (.commit element) ∧ 0 < allocated ∧
      element = (queue.slot config).take allocated

variable {config : MemoryQueueConfig} {queue target : MemoryQueue}
  {read write allocated : Nat} {pending : PendingCall}

/-! ## Slots and room -/

theorem slot_inside (inv : QueueInv config queue read write) :
    queue.writer.tx.sent % config.capacity + config.headerSize + config.maxElementSize ≤
      queue.writer.tx.data.length := by
  have clear : write % config.capacity + config.reserve ≤ config.capacity := inv.writeValid
  rw [inv.writer.sent_eq, mod_two_mul_mod, inv.writer.length_eq]
  rw [MemoryQueueConfig.reserve] at clear
  omega

theorem length_slot (inv : QueueInv config queue read write) :
    (queue.slot config).length = config.maxElementSize :=
  length_slice (slot_inside inv)

/-- The writer finds free bytes where there is room. -/
theorem free_ne_zero_iff (sent : queue.writer.tx.sent = write % (2 * config.capacity))
    (received : queue.reader.rx.received = read % (2 * config.capacity))
    (ordered : read ≤ write)
    (within : write ≤ read + config.capacity) :
    queue.free config ≠ 0 ↔ Room config read write := by
  have positive := config.reserve_pos
  rw [free, sent, received, MemoryQueueConfig.available_mod ordered within, Room]
  split <;> omega

/-- A span that may be written to is the front of the slot. -/
theorem span_eq (inv : QueueInv config queue read write)
    (idle : queue.writer.step = .idle) (allocated : queue.writer.tx.allocated ≠ 0) :
    queue.writer.span =
      ⟨queue.writer.tx.sent % config.capacity + config.headerSize, queue.writer.tx.allocated⟩ := by
  have step := inv.writer.step
  rw [idle] at step
  rw [step allocated, inv.writer.sent_eq, mod_two_mul_mod]

theorem read_span (inv : QueueInv config queue read write)
    (idle : queue.writer.step = .idle) (allocated : queue.writer.tx.allocated ≠ 0) :
    queue.writer.span.read queue.writer.tx.data =
      (queue.slot config).take queue.writer.tx.allocated := by
  rw [span_eq inv idle allocated, Span.read, slot, slice, slice, take_take,
    Nat.min_eq_left inv.writer.allocated_le]

/-! ## The simulation -/

/-- The destination answers a step of the queue. -/
def Answered (config : MemoryQueueConfig) (queue : MemoryQueue) (event : MemoryQueueEvent)
    (target : MemoryQueue) (allocated : Nat) (pending : PendingCall) : Prop :=
  ∃ later laterPending, target.During config later laterPending ∧
    System.Path (Client.system config.maxElementSize) Client.label
      ⟨queue.destination config allocated, pending⟩ (queue.label config event)
      ⟨target.destination config later, laterPending⟩

/-- A call has returned when the writer is idle, with the bytes that are allocated. -/
theorem returned_of_idle (inv : QueueInv config target read write)
    (idle : target.writer.step = .idle) :
    target.returned = [.returned target.writer.tx.allocated] := by
  rw [returned, if_pos idle, size_span inv idle]

theorem returned_of_busy (busy : target.writer.step ≠ .idle) : target.returned = [] :=
  if_neg busy

section Writer

variable {writer : Writer} {published : List (List UInt8)}
  (after : ∃ read write, QueueInv config { queue with writer, published } read write)

include after

/-- A call that returns in the step in which it starts. -/
theorem answered_at_once {event : MemoryQueueEvent} {call : WriterCall} (next : NextSlot)
    (labels : queue.label config event =
      .called call :: MemoryQueue.returned { queue with writer, published })
    (idle : writer.step = .idle)
    (taken : Client.effect (queue.destination config allocated) next call =
      some (destination config { queue with writer, published } writer.tx.allocated)) :
    Answered config queue event { queue with writer, published } allocated .idle := by
  obtain ⟨_, _, inv⟩ := after
  refine ⟨writer.tx.allocated, .idle, ?_, ?_⟩
  · simp only [During, idle, and_self]
  · rw [labels, returned_of_idle inv idle]
    exact (Client.started _ call).trans (Client.completed next taken)

theorem allocate_answered {size : Nat} (during : queue.During config allocated pending)
    (called : queue.writer.allocate config size = some writer) :
    Answered config queue (.allocate size) { queue with writer, published } allocated pending := by
  have labels : queue.label config (.allocate size) =
      .called (.allocate size) :: MemoryQueue.returned { queue with writer, published } := by
    simp only [label, step, called]
    rfl
  unfold Writer.allocate at called
  split at called
  next idle =>
    simp only [During, idle] at during
    obtain ⟨rfl, _⟩ := during
    split at called <;> cases called
    next refused =>
      have fails : (queue.destination config allocated).allocate size =
          (0, queue.destination config 0) :=
        if_pos (refused.imp_right .inl)
      exact answered_at_once after ⟨[], false⟩ labels idle (by
        rw [Client.effect, fails]
        rfl)
    next accepted =>
      refine ⟨allocated, _, ⟨rfl, Nat.pos_of_ne_zero fun zero => accepted (.inr zero)⟩, ?_⟩
      rw [labels, returned_of_busy (by simp)]
      exact Client.started _ _
  next => cases called

variable (during : queue.During config allocated pending)
  (inv : QueueInv config queue read write)

include during inv

theorem write_answered {position : Nat} {bytes : List UInt8}
    (called : queue.writer.write position bytes = some writer) :
    Answered config queue (.write position bytes) { queue with writer, published } allocated
      pending := by
  have labels : queue.label config (.write position bytes) =
      .called (.write position bytes) :: MemoryQueue.returned { queue with writer, published } := by
    simp only [label, step, called]
    rfl
  unfold Writer.write at called
  split at called
  next idle =>
    simp only [During, idle] at during
    obtain ⟨rfl, allocatedEq⟩ := during
    split at called <;> cases called
    next inside =>
    have small := inv.writer.allocated_le
    have fits : position + bytes.length ≤ allocated := by
      rwa [allocatedEq, ← size_span inv idle]
    refine answered_at_once after ⟨[], false⟩ labels idle ((if_pos fits).trans ?_)
    congr 1
    rw [Destination.write, destination, destination, allocatedEq]
    congr 1
    by_cases nothing : queue.writer.tx.allocated = 0
    · have none : bytes = [] := eq_nil_of_length_eq_zero (by omega)
      simp only [none, overwrite_nil, slot]
    · simp only [span_eq inv idle nothing]
      exact (slice_overwrite_within (slot_inside inv) (by omega)).symm
  next => cases called

theorem commit_answered (called : queue.writer.commit = some writer) :
    Answered config queue .commit { queue with writer, published } allocated pending := by
  have labels : queue.label config .commit =
      .called (.commit (queue.writer.span.read queue.writer.tx.data)) ::
        MemoryQueue.returned { queue with writer, published } := by
    simp only [label, step, called]
    rfl
  unfold Writer.commit at called
  split at called
  next idle =>
    simp only [During, idle] at during
    obtain ⟨rfl, rfl⟩ := during
    split at called <;> cases called
    next nothing =>
      have empty : queue.writer.span.read queue.writer.tx.data =
          (queue.destination config queue.writer.tx.allocated).slot.take
            (queue.destination config queue.writer.tx.allocated).allocated := by
        rw [Span.read, size_span inv idle, destination, nothing, take_zero, slice, take_zero]
      refine answered_at_once after
        ⟨queue.slot config, decide (queue.free config ≠ 0)⟩ labels idle
        ((if_pos ⟨length_slot inv, empty⟩).trans ?_)
      rw [Destination.commit_of_zero nothing]
      rfl
    next pending =>
      have elementEq := read_span inv idle pending
      refine ⟨queue.writer.tx.allocated, .called (.commit _),
        ⟨rfl, Nat.pos_of_ne_zero pending, elementEq⟩, ?_⟩
      rw [labels, returned_of_busy (by simp)]
      exact Client.started _ _
  next => cases called

theorem writer_answered
    (called : queue.writer.continue config queue.reader.rx = some writer) :
    Answered config queue .writer { queue with writer, published } allocated pending := by
  have labels : queue.label config .writer =
      MemoryQueue.returned { queue with writer, published } := by
    simp only [label, step, called]
    rfl
  have step := inv.writer.step
  obtain ⟨_, _, later⟩ := after
  -- a step that has no effect yet
  have silent : ∀ {laterPending}, writer.step ≠ .idle → laterPending = pending →
      MemoryQueue.During config { queue with writer, published } allocated laterPending →
      destination config { queue with writer, published } allocated =
        queue.destination config allocated →
      Answered config queue .writer { queue with writer, published } allocated pending := by
    rintro _ busy rfl stays same
    refine ⟨allocated, _, stays, ?_⟩
    rw [labels, returned_of_busy busy, same]
    exact .refl
  unfold Writer.continue at called
  split at called <;> rename_i stepEq <;> rw [stepEq] at step <;>
    simp only [During, stepEq] at during
  · cases called
  · cases called
    exact silent (by simp) rfl during rfl
  · -- the index of the reader is loaded
    rename_i size writeIndex
    obtain ⟨small, nothing, rfl⟩ := step
    obtain ⟨rfl, positive⟩ := during
    simp only at called
    split at called <;> cases called
    next full =>
      have noRoom : (queue.destination config allocated).room = false :=
        decide_eq_false (not_not.mpr full)
      have fails : (queue.destination config allocated).allocate size =
          (0, queue.destination config 0) :=
        if_pos (.inr (.inr noRoom))
      refine ⟨0, .idle, ⟨rfl, nothing.symm⟩, ?_⟩
      rw [labels, returned_of_idle later rfl, nothing]
      exact Client.completed ⟨[], false⟩ (by rw [Client.effect, fails])
    next notFull =>
      refine ⟨size, .effected, ⟨rfl, rfl⟩, ?_⟩
      rw [labels, returned_of_busy (by simp)]
      exact Client.effected ⟨[], false⟩ (by
        rw [Client.effect,
          Destination.allocate_of_room positive small (decide_eq_true notFull)]
        rfl)
  · cases called
    obtain ⟨rfl, rfl⟩ := during
    refine ⟨_, .idle, ⟨rfl, rfl⟩, ?_⟩
    rw [labels, returned_of_idle later rfl]
    exact Client.answered _
  · cases called
    exact silent (by simp) rfl during rfl
  · -- the header in front of the slot is written
    rename_i writeIndex element
    obtain ⟨-, -, -, rfl⟩ := step
    cases called
    have inside := slot_inside inv
    have header := length_bigEndian config.headerSize
      (queue.writer.tx.allocated % 256 ^ config.headerSize)
    have same : slice (overwrite queue.writer.tx.data (queue.writer.tx.sent % config.capacity)
        (bigEndian config.headerSize (queue.writer.tx.allocated % 256 ^ config.headerSize)))
          (queue.writer.tx.sent % config.capacity + config.headerSize) config.maxElementSize =
            queue.slot config :=
      slice_overwrite_of_disjoint (by omega) (.inr (by rw [header]))
    obtain ⟨pendingEq, positive, elementEq⟩ := during
    refine silent (by simp) rfl ⟨pendingEq, positive, elementEq.trans (congrArg _ same.symm)⟩ ?_
    rw [destination, destination]
    congr 1
  · -- the index of the writer is stored
    rename_i writeIndex element
    obtain ⟨rfl, positive, elementEq⟩ := during
    have stored := Option.some.inj called
    have idle : writer.step = .idle := by rw [← stored]
    have nothing : writer.tx.allocated = 0 := by
      rw [← stored]
      exact step.1
    have committed : writer.committed = queue.writer.committed ++ [element] := by rw [← stored]
    refine ⟨0, .idle, ?_, ?_⟩
    · simp only [During, idle, nothing, and_self]
    · rw [labels, returned_of_idle later idle, nothing]
      have taken : Client.effect (queue.destination config allocated)
          ⟨slot config { queue with writer, published },
            decide (free config { queue with writer, published } ≠ 0)⟩
          (.commit element) = some (destination config { queue with writer, published } 0) := by
        rw [Client.effect, if_pos ⟨length_slot later, elementEq⟩,
          Destination.commit_of_pos positive, destination, destination, committed, elementEq]
      exact Client.completed _ taken

end Writer

/-- The reader only makes room. -/
theorem reader_answered (during : queue.During config allocated pending) {reader : Reader}
    (inv : QueueInv config queue read write)
    (called : queue.reader.continue config queue.writer.tx = some reader) :
    Answered config queue .reader { queue with reader } allocated pending := by
  -- all steps but the last one of `release` leave the index of the reader
  have quiet : reader.rx.received = queue.reader.rx.received →
      Answered config queue .reader { queue with reader } allocated pending := by
    intro same
    refine ⟨allocated, pending, during, ?_⟩
    rw [destination, destination, free, free, same]
    exact .refl
  have step := inv.reader.step
  unfold Reader.continue at called
  split at called <;> rename_i stepEq <;> rw [stepEq] at step
  · cases called
  · cases called
    exact quiet rfl
  · rename_i check readIndex
    split at called <;> cases called <;> exact quiet (by cases check <;> rfl)
  · cases called
    exact quiet rfl
  · cases called
    exact quiet rfl
  · cases called
    exact quiet rfl
  · cases called
    exact quiet rfl
  · rename_i inClear readIndex element
    obtain ⟨-, headEq, readIndexEq⟩ := step
    obtain ⟨head, headEq', small, -, rest⟩ := inv.head (List.getElem?_eq_some_iff.mp headEq).1
    obtain rfl : element = head := Option.some.inj (headEq.symm.trans headEq')
    have advanced := config.le_advance read element.length
    have within := inv.within
    cases called
    have before := free_ne_zero_iff inv.writer.sent_eq inv.reader.received_eq inv.stored.le within
    have behind : MemoryQueue.free config { queue with reader := { queue.reader with
        rx.received := readIndex
        step := .afterRelease inClear
        consumed := queue.reader.consumed ++ [element] } } ≠ 0 ↔
          Room config (config.advance read element.length) write :=
      free_ne_zero_iff inv.writer.sent_eq readIndexEq rest.le (by omega)
    refine ⟨allocated, pending, during, ?_⟩
    by_cases room : Room config (config.advance read element.length) write
    · exact System.Path.refl.step (show (Client.system config.maxElementSize).Step _ .release _ by
        show some _ = some _
        rw [Destination.release, destination, destination, decide_eq_true (behind.mpr room)]
        rfl)
    · have full : ¬queue.free config ≠ 0 :=
        fun found => room ((before.mp found).mono (by omega))
      rw [destination, destination, decide_eq_false (mt behind.mp room), decide_eq_false full]
      exact .refl

/-! ## Runs -/

/-- What the user of the writer sees. -/
def Shown (config : MemoryQueueConfig) (queue : MemoryQueue) (seen : Client) : Prop :=
  ∃ allocated pending, seen = ⟨queue.destination config allocated, pending⟩ ∧
    queue.During config allocated pending ∧ ∃ read write, QueueInv config queue read write

theorem destination_simulates :
    (system config).Simulates (Client.system config.maxElementSize) (label config) Client.label
      (Shown config) where
  initial := by
    rintro _ ⟨data, length, rfl⟩
    have inv : QueueInv config (new config data) 0 0 := queueInv_new length
    exact ⟨_, ⟨slot config (new config data), decide (free config (new config data) ≠ 0),
      length_slot inv, rfl⟩, 0, .idle, rfl, ⟨rfl, rfl⟩, 0, 0, inv⟩
  step := by
    rintro source event target _ ⟨allocated, pending, rfl, during, _, _, inv⟩ stepped
    have after := queueInv_step inv stepped
    have answered : Answered config source event target allocated pending := by
      cases event <;> obtain ⟨side, called, rfl⟩ := Option.map_eq_some_iff.mp stepped
      case allocate => exact allocate_answered after during called
      case write => exact write_answered after during inv called
      case commit => exact commit_answered after during inv called
      case writer => exact writer_answered after during inv called
      case reader => exact reader_answered during inv called
      case call =>
        unfold Reader.call at called
        split at called <;> cases called <;> exact ⟨allocated, pending, during, .refl⟩
    obtain ⟨later, laterPending, stays, path⟩ := answered
    exact ⟨_, ⟨later, laterPending, rfl, stays, after⟩, path⟩

/-- An element is allocated, written and committed, the queue refuses the next one, and accepts
it when the reader has released the first. -/
def twoElements : List MemoryQueueEvent :=
  [.allocate 2, .writer, .writer, .writer, .write 0 [7, 8], .commit, .writer, .writer, .writer,
    .allocate 1, .writer, .writer, .call (.release false), .reader, .reader, .reader, .reader,
    .allocate 1, .writer, .reader, .writer, .writer, .write 0 [9], .commit, .writer, .writer,
    .writer]

end MemoryQueue

end OpenBsw.Io
