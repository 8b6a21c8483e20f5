import OpenBsw.Io.MemoryQueue.Layout

/-!
# What the two sides of the queue rely on

The invariant gives each side a position: the reader's is behind the last
released element, the writer's behind the last committed one.  It is split
into what the writer relies on, what the reader relies on and the elements
between the two positions, so that a step of one side leaves the other side's
part alone.  A loaded index of the other side may be old; it only
underestimates the room or the elements.
-/

namespace OpenBsw.Io

open OpenBsw.Bytes
open OpenBsw.Ring
open OpenBsw.Transition

/-! ## What the two sides rely on -/

section Invariants

variable (config : MemoryQueueConfig)

/-- An allocation of any size fits behind the writer's position. -/
def Room (readPosition writePosition : Nat) : Prop :=
  writePosition + config.reserve ≤ readPosition + config.capacity

def WriterStepInv (writer : Writer) (readPosition writePosition : Nat) : WriterStep → Prop
  | .idle => writer.tx.allocated ≠ 0 →
      writer.span = ⟨writePosition % config.capacity + config.headerSize, writer.tx.allocated⟩
  | .availableSent size => size ≤ config.maxElementSize ∧ writer.tx.allocated = 0
  | .availableReceived size writeIndex =>
    size ≤ config.maxElementSize ∧ writer.tx.allocated = 0 ∧ writeIndex = writer.tx.sent
  | .allocateSent size =>
    size ≤ config.maxElementSize ∧ Room config readPosition writePosition
  | .commitSent element =>
    writer.tx.allocated ≠ 0 ∧ writer.span = {} ∧
      element = slice writer.tx.data (writePosition % config.capacity + config.headerSize)
        writer.tx.allocated
  | .commitHeader writeIndex element =>
    writer.tx.allocated ≠ 0 ∧ writer.span = {} ∧
      element = slice writer.tx.data (writePosition % config.capacity + config.headerSize)
        writer.tx.allocated ∧ writeIndex = writer.tx.sent
  | .commitStore writeIndex element =>
    writer.tx.allocated = 0 ∧ writer.span = {} ∧ Room config readPosition writePosition ∧
      element.length ≤ config.maxElementSize ∧
      Holds config writer.tx.data writePosition element ∧
      writeIndex = config.advance writePosition element.length % (2 * config.capacity)

structure WriterInv (writer : Writer) (readPosition writePosition : Nat) : Prop where
  sent_eq : writer.tx.sent = writePosition % (2 * config.capacity)
  length_eq : writer.tx.data.length = config.capacity
  allocated_le : writer.tx.allocated ≤ config.maxElementSize
  room : writer.tx.allocated ≠ 0 → Room config readPosition writePosition
  span_eq : writer.span = {} ∨
    Room config readPosition writePosition ∧
      writer.span = ⟨writePosition % config.capacity + config.headerSize, writer.tx.allocated⟩
  step : WriterStepInv config writer readPosition writePosition writer.step

/-- The checks after which elements are released. -/
def EmptyCheck.Releases : EmptyCheck → Prop
  | .result => False
  | .peek => False
  | .release _ => True
  | .clear => True

/-- There is an element that is committed and not released. -/
def Pending (reader : Reader) (committed : List (List UInt8)) : Prop :=
  reader.consumed.length < committed.length

def ReaderStepInv (reader : Reader) (committed : List (List UInt8)) (readPosition : Nat) :
    ReaderStep → Prop
  | .idle => True
  | .emptyReceived check => check.Releases → reader.span = {}
  | .emptySent check readIndex =>
    (check.Releases → reader.span = {}) ∧ readIndex = reader.rx.received
  | .peekReceived => Pending reader committed
  | .peekHeader readIndex => Pending reader committed ∧ readIndex = reader.rx.received
  | .releaseReceived _ => reader.span = {} ∧ Pending reader committed
  | .releaseHeader _ readIndex =>
    reader.span = {} ∧ Pending reader committed ∧ readIndex = reader.rx.received
  | .releaseStore _ readIndex element =>
    reader.span = {} ∧ committed[reader.consumed.length]? = some element ∧
      readIndex = config.advance readPosition element.length % (2 * config.capacity)

structure ReaderInv (reader : Reader) (committed : List (List UInt8)) (readPosition : Nat) :
    Prop where
  received_eq : reader.rx.received = readPosition % (2 * config.capacity)
  consumed_prefix : reader.consumed <+: committed
  peeked : ∀ entry ∈ reader.peeked, committed[entry.1]? = some entry.2
  span_eq : reader.span = {} ∨ ∃ element, committed[reader.consumed.length]? = some element ∧
    reader.span = ⟨readPosition % config.capacity + config.headerSize, element.length⟩
  step : ReaderStepInv config reader committed readPosition reader.step

/-- The invariant at the positions of the two sides. -/
structure QueueInv (queue : MemoryQueue) (readPosition writePosition : Nat) : Prop where
  writer : WriterInv config queue.writer readPosition writePosition
  reader : ReaderInv config queue.reader queue.writer.committed readPosition
  readValid : config.Valid readPosition
  writeValid : config.Valid writePosition
  within : writePosition ≤ readPosition + config.capacity
  stored : Stored config queue.writer.tx.data readPosition
    (queue.writer.committed.drop queue.reader.consumed.length) writePosition

end Invariants

variable {config : MemoryQueueConfig}

/-! ## Steps of the writer -/

variable {queue : MemoryQueue} {reader : Reader} {writer target : Writer}
  {committed : List (List UInt8)} {readPosition writePosition : Nat} {check : EmptyCheck}

theorem Pending.append (pending : Pending reader committed) (element : List UInt8) :
    Pending reader (committed ++ [element]) := by
  simp only [Pending, List.length_append] at pending ⊢
  omega

theorem getElem?_append_of_eq_some {index : Nat} {known : List UInt8}
    (knownEq : committed[index]? = some known) (element : List UInt8) :
    (committed ++ [element])[index]? = some known := by
  rw [List.getElem?_append_left (List.getElem?_eq_some_iff.mp knownEq).1, knownEq]

/-- Releases of the reader only add room. -/
theorem Room.mono {readPosition later writePosition : Nat}
    (room : Room config readPosition writePosition) (ordered : readPosition ≤ later) :
    Room config later writePosition := by
  simp only [Room] at room ⊢
  omega

theorem WriterStepInv.mono {writer : Writer} {readPosition later writePosition : Nat}
    (ordered : readPosition ≤ later) :
    ∀ {step}, WriterStepInv config writer readPosition writePosition step →
      WriterStepInv config writer later writePosition step
  | .idle, inv => inv
  | .availableSent _, inv => inv
  | .availableReceived _ _, inv => inv
  | .allocateSent _, ⟨small, room⟩ => ⟨small, room.mono ordered⟩
  | .commitSent _, inv => inv
  | .commitHeader _ _, inv => inv
  | .commitStore _ _, ⟨allocated, span, room, element⟩ =>
    ⟨allocated, span, room.mono ordered, element⟩

theorem WriterInv.mono {writer : Writer} {readPosition later writePosition : Nat}
    (inv : WriterInv config writer readPosition writePosition) (ordered : readPosition ≤ later) :
    WriterInv config writer later writePosition :=
  { inv with
    room := fun allocated => (inv.room allocated).mono ordered
    span_eq := inv.span_eq.imp_right fun ⟨room, span⟩ => ⟨room.mono ordered, span⟩
    step := inv.step.mono ordered }

/-- A step of the writer that leaves its position: its own part of the
invariant holds afterwards, nothing is committed, and what is stored stays
stored. -/
structure WriterStays (config : MemoryQueueConfig) (source target : Writer)
    (readPosition writePosition : Nat) : Prop where
  inv : WriterInv config target readPosition writePosition
  committed_eq : target.committed = source.committed
  stored : ∀ {elements}, Stored config source.tx.data readPosition elements writePosition →
    Stored config target.tx.data readPosition elements writePosition

theorem WriterStays.queueInv {target : Writer}
    (stays : WriterStays config queue.writer target readPosition writePosition)
    (inv : QueueInv config queue readPosition writePosition) :
    QueueInv config { queue with writer := target } readPosition writePosition := by
  refine { inv with writer := stays.inv, reader := ?_, stored := ?_ }
  · rw [stays.committed_eq]
    exact inv.reader
  · rw [stays.committed_eq]
    exact stays.stored inv.stored

theorem Writer.allocate_stays {readPosition writePosition size : Nat}
    (inv : WriterInv config writer readPosition writePosition)
    (stepped : writer.allocate config size = some target) :
    WriterStays config writer target readPosition writePosition := by
  have released : ∀ step, WriterStepInv config
        { writer with tx.allocated := 0, span := {}, step } readPosition writePosition step →
      WriterStays config writer { writer with tx.allocated := 0, span := {}, step }
        readPosition writePosition :=
    fun step stepInv =>
      { inv := { inv with
          allocated_le := Nat.zero_le _
          room := fun nonzero => absurd rfl nonzero
          span_eq := .inl rfl
          step := stepInv }
        committed_eq := rfl
        stored := id }
  unfold Writer.allocate at stepped
  split at stepped
  · rename_i idle
    split at stepped <;> cases stepped
    · have stays := released .idle fun nonzero => absurd rfl nonzero
      rwa [← idle] at stays
    · exact released (.availableSent size) ⟨by omega, rfl⟩
  · cases stepped

theorem Writer.write_stays {readPosition writePosition position : Nat} {bytes : List UInt8}
    (inv : WriterInv config writer readPosition writePosition)
    (valid : config.Valid writePosition) (stepped : writer.write position bytes = some target) :
    WriterStays config writer target readPosition writePosition := by
  unfold Writer.write at stepped
  split at stepped
  · rename_i idle
    split at stepped
    · rename_i inside
      cases stepped
      rcases inv.span_eq with empty | ⟨room, span⟩
      · -- Nothing can be written into the empty span.
        have none : bytes = [] := by
          rw [empty] at inside
          exact List.eq_nil_of_length_eq_zero (by simp only at inside; omega)
        have same : overwrite writer.tx.data (writer.span.offset + position) bytes =
            writer.tx.data := by
          simp [none, overwrite]
        rw [same]
        exact ⟨inv, rfl, id⟩
      · have allocatedLe := inv.allocated_le
        have clear : writePosition % config.capacity + config.reserve ≤ config.capacity := valid
        simp only [MemoryQueueConfig.reserve] at clear
        have offsetEq : writer.span.offset =
            writePosition % config.capacity + config.headerSize := by rw [span]
        have sizeEq : writer.span.size = writer.tx.allocated := by rw [span]
        have lengthEq := inv.length_eq
        have fits : writer.span.offset + position + bytes.length ≤ writer.tx.data.length := by
          omega
        have target : WriterInv config { writer with
            tx.data := overwrite writer.tx.data (writer.span.offset + position) bytes }
            readPosition writePosition :=
          { inv with
            length_eq := (length_overwrite fits).trans inv.length_eq
            step := by
              have step := inv.step
              rw [idle] at step ⊢
              exact step }
        refine ⟨target, rfl, fun stored => ?_⟩
        refine stored.overwrite inv.length_eq (Nat.le_refl _) valid room (by omega) ?_
        simp only [MemoryQueueConfig.reserve]
        omega
    · cases stepped
  · cases stepped

theorem Writer.commit_stays (inv : WriterInv config writer readPosition writePosition)
    (stepped : writer.commit = some target) :
    WriterStays config writer target readPosition writePosition := by
  unfold Writer.commit at stepped
  split at stepped
  · rename_i idle
    split at stepped <;> cases stepped
    · exact ⟨inv, rfl, id⟩
    · rename_i allocated
      have step := inv.step
      rw [idle] at step
      have element : writer.span.read writer.tx.data = slice writer.tx.data
          (writePosition % config.capacity + config.headerSize) writer.tx.allocated := by
        rw [step allocated, Span.read]
      exact ⟨{ inv with span_eq := .inl rfl, step := ⟨allocated, rfl, element⟩ }, rfl, id⟩
  · cases stepped

/-- Commits of the writer only add elements behind those the reader knows. -/
theorem ReaderStepInv.append {readPosition : Nat} (element : List UInt8) :
    ∀ {step}, ReaderStepInv config reader committed readPosition step →
      ReaderStepInv config reader (committed ++ [element]) readPosition step
  | .idle, _ => trivial
  | .emptyReceived _, inv => inv
  | .emptySent _ _, inv => inv
  | .peekReceived, pending => Pending.append pending element
  | .peekHeader _, ⟨pending, index⟩ => ⟨pending.append element, index⟩
  | .releaseReceived _, ⟨span, pending⟩ => ⟨span, pending.append element⟩
  | .releaseHeader _ _, ⟨span, pending, index⟩ => ⟨span, pending.append element, index⟩
  | .releaseStore _ _ _, ⟨span, committed, index⟩ =>
    ⟨span, getElem?_append_of_eq_some committed element, index⟩

theorem ReaderInv.append {reader : Reader} {committed : List (List UInt8)} {readPosition : Nat}
    (inv : ReaderInv config reader committed readPosition) (element : List UInt8) :
    ReaderInv config reader (committed ++ [element]) readPosition :=
  { inv with
    consumed_prefix := inv.consumed_prefix.trans (List.prefix_append _ _)
    peeked := fun entry member => getElem?_append_of_eq_some (inv.peeked entry member) element
    span_eq := inv.span_eq.imp_right fun ⟨held, committed, span⟩ =>
      ⟨held, getElem?_append_of_eq_some committed element, span⟩
    step := inv.step.append element }

/-- Room is found only where there is room: the loaded read index belongs to
the reader's position at that time. -/
theorem room_of_available (ordered : readPosition ≤ writePosition)
    (within : writePosition ≤ readPosition + config.capacity)
    (free : config.available (writePosition % (2 * config.capacity))
      (readPosition % (2 * config.capacity)) ≠ 0) : Room config readPosition writePosition := by
  rw [MemoryQueueConfig.available_mod ordered within] at free
  simp only [Room]
  split at free
  · exact absurd rfl free
  · omega

theorem QueueInv.writer_continue {target : Writer}
    (inv : QueueInv config queue readPosition writePosition)
    (stepped : queue.writer.continue config queue.reader.rx = some target) :
    ∃ later, QueueInv config { queue with writer := target } readPosition later := by
  have step := inv.writer.step
  have ordered := inv.stored.le
  unfold Writer.continue at stepped
  split at stepped <;> rename_i stepEq <;> rw [stepEq] at step
  · cases stepped
  · -- `available` has loaded the writer's own index.
    cases stepped
    exact ⟨writePosition, WriterStays.queueInv
      ⟨{ inv.writer with step := ⟨step.1, step.2, rfl⟩ }, rfl, id⟩ inv⟩
  · rename_i size writeIndex
    obtain ⟨small, allocated, writeIndexEq⟩ := step
    rw [writeIndexEq, inv.writer.sent_eq, inv.reader.received_eq] at stepped
    simp only at stepped
    split at stepped <;> cases stepped
    · exact ⟨writePosition, WriterStays.queueInv
        ⟨{ inv.writer with step := fun nonzero => absurd allocated nonzero }, rfl, id⟩ inv⟩
    · rename_i free
      exact ⟨writePosition, WriterStays.queueInv
        ⟨{ inv.writer with step := ⟨small, room_of_available ordered inv.within free⟩ },
          rfl, id⟩ inv⟩
  · rename_i size
    obtain ⟨small, room⟩ := step
    cases stepped
    have span : ({ offset := queue.writer.tx.sent % config.capacity + config.headerSize, size } :
        Span) = ⟨writePosition % config.capacity + config.headerSize, size⟩ := by
      rw [inv.writer.sent_eq, mod_two_mul_mod]
    exact ⟨writePosition, WriterStays.queueInv
      ⟨{ inv.writer with
          allocated_le := small
          room := fun _ => room
          span_eq := .inr ⟨room, span⟩
          step := fun _ => span }, rfl, id⟩ inv⟩
  · cases stepped
    exact ⟨writePosition, WriterStays.queueInv
      ⟨{ inv.writer with step := ⟨step.1, step.2.1, step.2.2, rfl⟩ }, rfl, id⟩ inv⟩
  · rename_i writeIndex element
    obtain ⟨allocated, span, elementEq, writeIndexEq⟩ := step
    have allocatedLe := inv.writer.allocated_le
    have room := inv.writer.room allocated
    have clear : writePosition % config.capacity + config.reserve ≤ config.capacity :=
      inv.writeValid
    have index : writeIndex % config.capacity = writePosition % config.capacity := by
      rw [writeIndexEq, inv.writer.sent_eq, mod_two_mul_mod]
    have size : queue.writer.tx.allocated % 256 ^ config.headerSize =
        queue.writer.tx.allocated :=
      Nat.mod_eq_of_lt (Nat.lt_of_le_of_lt allocatedLe config.representable)
    have holds := holds_header inv.writer.length_eq inv.writeValid allocatedLe
    rw [← elementEq] at holds
    have elementLength : element.length = queue.writer.tx.allocated := by
      rw [elementEq]
      apply length_slice
      rw [inv.writer.length_eq]
      simp only [MemoryQueueConfig.reserve] at clear
      omega
    have headerLength := length_bigEndian config.headerSize queue.writer.tx.allocated
    have fits : writePosition % config.capacity +
        (bigEndian config.headerSize queue.writer.tx.allocated).length ≤
          writePosition % config.capacity + config.reserve := by
      rw [headerLength]
      simp only [MemoryQueueConfig.reserve]
      omega
    have nextIndex : config.advanceIndex writeIndex queue.writer.tx.allocated =
        config.advance writePosition queue.writer.tx.allocated % (2 * config.capacity) := by
      rw [writeIndexEq, inv.writer.sent_eq,
        MemoryQueueConfig.advanceIndex_mod inv.writeValid allocatedLe]
    simp only [size, index, nextIndex] at stepped
    cases stepped
    refine ⟨writePosition, WriterStays.queueInv ⟨?_, rfl, fun stored => ?_⟩ inv⟩
    · exact { inv.writer with
        length_eq := (length_overwrite (by rw [inv.writer.length_eq]; omega)).trans
          inv.writer.length_eq
        allocated_le := Nat.zero_le _
        room := fun nonzero => absurd rfl nonzero
        span_eq := .inl span
        step := ⟨rfl, span, room, by rw [elementLength]; exact allocatedLe, holds,
          by rw [elementLength]⟩ }
    · exact stored.overwrite inv.writer.length_eq (Nat.le_refl _) inv.writeValid room
        (Nat.le_refl _) fits
  · -- The store makes the element visible and moves the writer's position.
    rename_i writeIndex element
    obtain ⟨allocated, span, room, small, holds, writeIndexEq⟩ := step
    cases stepped
    have consumedLe := inv.reader.consumed_prefix.length_le
    refine ⟨config.advance writePosition element.length, ?_, ?_, inv.readValid,
      MemoryQueueConfig.valid_advance _ _, MemoryQueueConfig.advance_le inv.readValid small room,
      ?_⟩
    · exact { inv.writer with
        sent_eq := writeIndexEq
        room := fun nonzero => absurd allocated nonzero
        span_eq := .inl span
        step := fun nonzero => absurd allocated nonzero }
    · exact inv.reader.append element
    · rw [List.drop_append_of_le_length consumedLe]
      exact inv.stored.concat small holds

/-! ## Steps of the reader -/

/-- A step of the reader that releases nothing. -/
theorem QueueInv.reader_stays {target : Reader}
    (inv : QueueInv config queue readPosition writePosition)
    (targetInv : ReaderInv config target queue.writer.committed readPosition)
    (consumed : target.consumed = queue.reader.consumed) :
    QueueInv config { queue with reader := target } readPosition writePosition := by
  refine { inv with reader := targetInv, stored := ?_ }
  rw [consumed]
  exact inv.stored

theorem QueueInv.reader_call {target : Reader}
    (inv : QueueInv config queue readPosition writePosition)
    (stepped : queue.reader.call check = some target) :
    QueueInv config { queue with reader := target } readPosition writePosition := by
  unfold Reader.call at stepped
  split at stepped <;> cases stepped
  · exact inv.reader_stays { inv.reader with step := fun releases => releases.elim } rfl
  · exact inv.reader_stays { inv.reader with step := fun releases => releases.elim } rfl
  · exact inv.reader_stays { inv.reader with span_eq := .inl rfl, step := fun _ => rfl } rfl
  · exact inv.reader_stays { inv.reader with span_eq := .inl rfl, step := fun _ => rfl } rfl

/-- The indices differ only while there is an element. -/
theorem QueueInv.pending (inv : QueueInv config queue readPosition writePosition)
    (differ : queue.writer.tx.sent ≠ queue.reader.rx.received) :
    Pending queue.reader queue.writer.committed := by
  rw [inv.writer.sent_eq, inv.reader.received_eq] at differ
  have ordered := inv.stored.le
  have before : readPosition < writePosition := by
    refine Nat.lt_of_le_of_ne ordered ?_
    rintro rfl
    exact differ rfl
  have nonempty := inv.stored.ne_nil_iff.mpr before
  rw [ne_eq, List.drop_eq_nil_iff] at nonempty
  simp only [Pending]
  omega

/-- The first element that is not released. -/
theorem QueueInv.head (inv : QueueInv config queue readPosition writePosition)
    (pending : Pending queue.reader queue.writer.committed) :
    ∃ element, queue.writer.committed[queue.reader.consumed.length]? = some element ∧
      element.length ≤ config.maxElementSize ∧
      Holds config queue.writer.tx.data readPosition element ∧
      Stored config queue.writer.tx.data (config.advance readPosition element.length)
        (queue.writer.committed.drop (queue.reader.consumed.length + 1)) writePosition := by
  have stored := inv.stored
  rw [List.drop_eq_getElem_cons pending] at stored
  exact ⟨_, List.getElem?_eq_getElem pending, stored⟩

theorem readerInv_afterRelease {readPosition : Nat}
    (inv : ReaderInv config reader committed readPosition) (span : reader.span = {})
    (inClear : Bool) :
    ReaderInv config { reader with step := .afterRelease inClear } committed readPosition := by
  refine { inv with step := ?_ }
  cases inClear
  · trivial
  · exact fun _ => span

theorem readerInv_afterEmpty {readPosition : Nat}
    (inv : ReaderInv config reader committed readPosition)
    (span : check.Releases → reader.span = {}) :
    ReaderInv config (reader.afterEmpty check) committed readPosition := by
  cases check with
  | result => exact { inv with step := trivial }
  | peek => exact { inv with span_eq := .inl rfl, step := trivial }
  | release inClear => exact readerInv_afterRelease inv (span trivial) inClear
  | clear => exact { inv with step := trivial }

theorem readerInv_afterNonempty {readPosition : Nat}
    (inv : ReaderInv config reader committed readPosition)
    (span : check.Releases → reader.span = {}) (pending : Pending reader committed) :
    ReaderInv config (reader.afterNonempty check) committed readPosition := by
  cases check with
  | result => exact { inv with step := trivial }
  | peek => exact { inv with step := pending }
  | release inClear => exact { inv with step := ⟨span trivial, pending⟩ }
  | clear => exact { inv with step := span }

theorem prefix_concat {consumed committed : List (List UInt8)} {element : List UInt8}
    (prefixed : consumed <+: committed) (next : committed[consumed.length]? = some element) :
    consumed ++ [element] <+: committed := by
  rw [List.prefix_iff_eq_take] at prefixed ⊢
  rw [List.length_append, List.length_singleton, List.take_add_one, next, ← prefixed]
  rfl

theorem QueueInv.reader_continue {target : Reader}
    (inv : QueueInv config queue readPosition writePosition)
    (stepped : queue.reader.continue config queue.writer.tx = some target) :
    ∃ later, QueueInv config { queue with reader := target } later writePosition := by
  have step := inv.reader.step
  unfold Reader.continue at stepped
  split at stepped <;> rename_i stepEq <;> rw [stepEq] at step
  · cases stepped
  · cases stepped
    exact ⟨readPosition, inv.reader_stays { inv.reader with step := ⟨step, rfl⟩ } rfl⟩
  · rename_i check readIndex
    obtain ⟨span, readIndexEq⟩ := step
    split at stepped <;> cases stepped
    · exact ⟨readPosition, inv.reader_stays (readerInv_afterEmpty inv.reader span)
        (by cases check <;> rfl)⟩
    · rename_i differ
      rw [readIndexEq] at differ
      exact ⟨readPosition, inv.reader_stays
        (readerInv_afterNonempty inv.reader span (inv.pending differ)) (by cases check <;> rfl)⟩
  · cases stepped
    exact ⟨readPosition, inv.reader_stays { inv.reader with step := ⟨step, rfl⟩ } rfl⟩
  · rename_i readIndex
    obtain ⟨pending, readIndexEq⟩ := step
    obtain ⟨element, headEq, small, holds, _⟩ := inv.head pending
    have index : readIndex % config.capacity = readPosition % config.capacity := by
      rw [readIndexEq, inv.reader.received_eq, mod_two_mul_mod]
    simp only [index, holds.size_eq small, holds.2] at stepped
    cases stepped
    refine ⟨readPosition, inv.reader_stays { inv.reader with
      peeked := ?_
      span_eq := .inr ⟨element, headEq, rfl⟩
      step := trivial } rfl⟩
    intro entry member
    rcases List.mem_append.mp member with old | new
    · exact inv.reader.peeked entry old
    · rw [List.mem_singleton.mp new]
      exact headEq
  · cases stepped
    exact ⟨readPosition, inv.reader_stays
      { inv.reader with step := ⟨step.1, step.2, rfl⟩ } rfl⟩
  · rename_i inClear readIndex
    obtain ⟨span, pending, readIndexEq⟩ := step
    obtain ⟨element, headEq, small, holds, _⟩ := inv.head pending
    have index : readIndex % config.capacity = readPosition % config.capacity := by
      rw [readIndexEq, inv.reader.received_eq, mod_two_mul_mod]
    have nextIndex : config.advanceIndex readIndex element.length =
        config.advance readPosition element.length % (2 * config.capacity) := by
      rw [readIndexEq, inv.reader.received_eq,
        MemoryQueueConfig.advanceIndex_mod inv.readValid small]
    simp only [index, holds.size_eq small, holds.2, nextIndex] at stepped
    cases stepped
    exact ⟨readPosition, inv.reader_stays
      { inv.reader with step := ⟨span, headEq, rfl⟩ } rfl⟩
  · -- The store gives the bytes of the element back to the writer.
    rename_i inClear readIndex element
    obtain ⟨span, headEq, readIndexEq⟩ := step
    have pending : Pending queue.reader queue.writer.committed :=
      (List.getElem?_eq_some_iff.mp headEq).1
    obtain ⟨head, headEq', small, _, rest⟩ := inv.head pending
    obtain rfl : element = head := Option.some.inj (headEq.symm.trans headEq')
    cases stepped
    have advanced := config.le_advance readPosition element.length
    have within := inv.within
    have targetInv : ReaderInv config
        { queue.reader with
          rx.received := readIndex
          step := .idle
          consumed := queue.reader.consumed ++ [element] }
        queue.writer.committed (config.advance readPosition element.length) :=
      { received_eq := readIndexEq
        consumed_prefix := prefix_concat inv.reader.consumed_prefix headEq
        peeked := inv.reader.peeked
        span_eq := .inl span
        step := trivial }
    refine ⟨config.advance readPosition element.length,
      inv.writer.mono (by omega), readerInv_afterRelease targetInv span inClear,
      MemoryQueueConfig.valid_advance _ _, inv.writeValid, by omega, ?_⟩
    simp only [List.length_append, List.length_singleton]
    exact rest

end OpenBsw.Io
