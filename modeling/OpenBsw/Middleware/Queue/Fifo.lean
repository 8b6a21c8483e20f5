import OpenBsw.Data.Ring
import OpenBsw.Middleware.Queue.Queue

/-!
# The middleware queue is first in, first out

The cursors are the counts of published and advanced elements, reduced modulo
two rings.  A cursor that was loaded some time ago belongs to an earlier count,
which is still close enough.
-/

namespace OpenBsw.Middleware

open OpenBsw.Ring
open List hiding next
open OpenBsw.Transition

/-! ## Cursors -/

namespace QueueBase

variable {maxSize : Nat}

theorem size_mod {low high : Nat} (positive : 0 < maxSize) (ordered : low ≤ high)
    (within : high ≤ low + maxSize) :
    size maxSize (high % (2 * maxSize)) (low % (2 * maxSize)) = high - low := by
  rw [← distance_mod ordered (by omega : high < low + 2 * maxSize), size, distance]
  split_ifs <;> omega

/-- The size from a cursor that the other one has passed. -/
theorem size_passed (positive : 0 < maxSize) (position passed : Nat) :
    size maxSize (position % (2 * maxSize)) ((position + passed) % (2 * maxSize)) =
      (2 * maxSize - passed % (2 * maxSize)) % (2 * maxSize) := by
  have inside : position % (2 * maxSize) < 2 * maxSize := Nat.mod_lt _ (by omega)
  have near : passed % (2 * maxSize) < 2 * maxSize := Nat.mod_lt _ (by omega)
  rw [← Nat.add_mod_mod, add_mod_of_lt position near, size]
  rcases Nat.eq_zero_or_pos (passed % (2 * maxSize)) with none | some
  · rw [none, Nat.sub_zero, Nat.mod_self]
    split_ifs <;> omega
  · rw [Nat.mod_eq_of_lt (by omega : 2 * maxSize - passed % (2 * maxSize) < 2 * maxSize)]
    split_ifs <;> omega

/-- The size from a cursor that was loaded before `_received`. -/
theorem size_le_iff {position advanced : Nat} (positive : 0 < maxSize)
    (within : position ≤ advanced + maxSize) :
    size maxSize (position % (2 * maxSize)) (advanced % (2 * maxSize)) ≤ maxSize ↔
      (advanced - position) % (2 * maxSize) = 0 ∨
        maxSize ≤ (advanced - position) % (2 * maxSize) := by
  rcases Nat.le_total advanced position with before | after
  · rw [size_mod positive before within, Nat.sub_eq_zero_of_le before, Nat.zero_mod]
    omega
  · obtain ⟨passed, rfl⟩ := Nat.exists_eq_add_of_le after
    have near : passed % (2 * maxSize) < 2 * maxSize := Nat.mod_lt _ (by omega)
    rw [size_passed positive, Nat.add_sub_cancel_left]
    rcases Nat.eq_zero_or_pos (passed % (2 * maxSize)) with none | some
    · rw [none, Nat.sub_zero, Nat.mod_self]
      omega
    · rw [Nat.mod_eq_of_lt (by omega : 2 * maxSize - passed % (2 * maxSize) < 2 * maxSize)]
      omega

theorem isFull_mod {low high : Nat} (positive : 0 < maxSize) (ordered : low ≤ high)
    (within : high ≤ low + maxSize) :
    isFull maxSize (low % (2 * maxSize)) (high % (2 * maxSize)) = true ↔
      high = low + maxSize := by
  rw [isFull, decide_eq_true_eq, Nat.mod_add_mod]
  constructor
  · intro same
    exact (eq_of_mod_eq within (by omega) same.symm).symm
  · rintro rfl
    rfl

theorem isEmpty_mod {low high : Nat} (positive : 0 < maxSize) (ordered : low ≤ high)
    (within : high ≤ low + maxSize) :
    isEmpty (high % (2 * maxSize)) (low % (2 * maxSize)) = true ↔ high = low := by
  rw [isEmpty, decide_eq_true_eq]
  constructor
  · exact eq_of_mod_eq ordered (by omega)
  · rintro rfl
    rfl

theorem next_mod (position : Nat) :
    next maxSize (position % (2 * maxSize)) = (position + 1) % (2 * maxSize) := by
  rw [next, Nat.mod_add_mod]

end QueueBase

open QueueBase

namespace QueueRun

variable {Sender Element : Type}

/-! ## Invariant -/

/-- The cursors and the slots of the unread elements. -/
structure Cursors (run : QueueRun Sender Element) : Prop where
  positive : 0 < run.maxSize
  ordered : run.advanced ≤ run.published.length
  within : run.published.length ≤ run.advanced + run.maxSize
  sent_eq : run.sent = run.published.length % (2 * run.maxSize)
  received_eq : run.received = run.advanced % (2 * run.maxSize)
  stored : ∀ number, run.advanced ≤ number → number < run.published.length →
    run.buffer (number % run.maxSize) = run.published[number]?

/-- There is room for one more element. -/
def Room (run : QueueRun Sender Element) : Prop :=
  run.published.length < run.advanced + run.maxSize

/-- What the sender with the lock knows. -/
def WriterKnows (run : QueueRun Sender Element) : WriterState Element → Prop
  | .checking _ rxPos unread => ∃ loaded, rxPos = loaded % (2 * run.maxSize) ∧
      loaded ≤ run.advanced ∧ loaded + unread = run.published.length ∧ unread ≤ run.maxSize
  | .notFull _ => run.Room
  | .reserving _ sentVal => run.Room ∧ sentVal = run.sent
  | .reserved _ token => run.Room ∧ token = writeToken run.maxSize run.sent
  | .copying _ token => run.Room ∧ token = writeToken run.maxSize run.sent
  | .copied value token => run.Room ∧ token = writeToken run.maxSize run.sent ∧
      run.buffer token.slotIndex = some value
  | .measuring _ txPos => txPos = run.sent
  | _ => True

/-- A loaded `_sent` belongs to an earlier count of published elements. -/
def Loaded (run : QueueRun Sender Element) (txPos : Nat) : Prop :=
  ∃ position, txPos = position % (2 * run.maxSize) ∧ run.advanced ≤ position ∧
    position ≤ run.published.length

/-- What the receiver knows. -/
def ReaderKnows (run : QueueRun Sender Element) : ReaderState → Prop
  | .idle => True
  | .checking txPos => run.Loaded txPos
  | .ready => run.advanced < run.published.length
  | .advancing next => run.advanced < run.published.length ∧
      next = QueueBase.next run.maxSize run.received
  | .measuring txPos ready => run.Loaded txPos ∧
      (ready = true → run.advanced < run.published.length)

/-- The value whose write is published and did not return yet. -/
def WriterState.inFlight : WriterState Element → List Element
  | .published value => [value]
  | .measuring value _ => [value]
  | _ => []

/-- What was seen so far. -/
structure History (run : QueueRun Sender Element) : Prop where
  published_eq : run.published =
    (run.writes.filter Prod.snd).map Prod.fst ++ WriterState.inFlight run.writer
  failures_eq : run.failures = List.replicate (run.writes.countP fun entry => !entry.2) run.maxSize
  lost_eq : run.stats.lostMessages = UInt32.ofNat run.failures.length
  few : run.failures.length < 2 ^ 32
  seen : ∀ entry ∈ run.seen, ∃ value, entry.2 = some value ∧
    run.published[entry.1]? = some value
  sizes : ∀ size ∈ run.sizes, size ≤ run.maxSize
  sizesOutside : ∀ size ∈ run.sizesOutside, size ≤ run.maxSize
  observers : ∀ sender txPos publishedThen, run.observers sender = some (txPos, publishedThen) →
    publishedThen ≤ run.advanced + run.maxSize ∧ txPos = publishedThen % (2 * run.maxSize)

structure Consistent (run : QueueRun Sender Element) : Prop where
  cursors : Cursors run
  writer : WriterKnows run run.writer
  reader : ReaderKnows run run.reader
  history : History run

variable {run target : QueueRun Sender Element}

/-! ## The sender -/

/-- A token for the slot after the published elements. -/
theorem Cursors.writeToken_eq (cursors : Cursors run) :
    writeToken run.maxSize run.sent =
      { slotIndex := run.published.length % run.maxSize
        nextSent := (run.published.length + 1) % (2 * run.maxSize) } := by
  rw [writeToken, cursors.sent_eq, next_mod, mod_two_mul_mod]

/-- The slot after the published elements holds no unread element. -/
theorem Cursors.stored_update (cursors : Cursors run) (room : Room run) (value : Option Element)
    {number : Nat} (unread : run.advanced ≤ number) (below : number < run.published.length) :
    Function.update run.buffer (writeToken run.maxSize run.sent).slotIndex value
      (number % run.maxSize) = run.published[number]? := by
  have other : number % run.maxSize ≠ run.published.length % run.maxSize := by
    intro same
    have equal := eq_of_mod_eq (Nat.le_of_lt below)
      (by rw [Room] at room; omega : run.published.length < number + run.maxSize) same.symm
    omega
  rw [cursors.writeToken_eq, Function.update_of_ne other]
  exact cursors.stored number unread below

theorem Consistent.lock (consistent : Consistent run) {value : Element}
    (idle : run.writer = .idle) : Consistent { run with writer := .locked value } := by
  obtain ⟨cursors, -, readerKnows, history⟩ := consistent
  have publishedEq := history.published_eq
  rw [idle] at publishedEq
  exact ⟨{ cursors with }, trivial, readerKnows, { history with published_eq := publishedEq }⟩

/-- A published element is still ahead of the receiver. -/
theorem readerKnows_publish (knows : ReaderKnows run run.reader) {value : Element} {sent : Nat}
    {writer : WriterState Element} :
    ReaderKnows { run with sent, published := run.published ++ [value], writer } run.reader := by
  have longer : (run.published ++ [value]).length = run.published.length + 1 :=
    List.length_append
  have loaded : ∀ txPos, Loaded run txPos →
      Loaded { run with sent, published := run.published ++ [value], writer } txPos := by
    rintro txPos ⟨position, reduced, after, before⟩
    refine ⟨position, reduced, after, ?_⟩
    change position ≤ (run.published ++ [value]).length
    omega
  cases state : run.reader with
  | idle => trivial
  | checking txPos =>
    rw [state] at knows
    exact loaded _ knows
  | ready =>
    rw [state] at knows
    change run.advanced < run.published.length at knows
    change run.advanced < (run.published ++ [value]).length
    omega
  | advancing next =>
    rw [state] at knows
    obtain ⟨below, nextEq⟩ := knows
    refine ⟨?_, nextEq⟩
    change run.advanced < (run.published ++ [value]).length
    omega
  | measuring txPos ready =>
    rw [state] at knows
    obtain ⟨old, below⟩ := knows
    refine ⟨loaded _ old, fun isReady => ?_⟩
    have before := below isReady
    change run.advanced < (run.published ++ [value]).length
    omega

/-- The element is published when its slot holds it. -/
theorem Cursors.publish (cursors : Cursors run) (room : Room run) {value : Element}
    (written : run.buffer (writeToken run.maxSize run.sent).slotIndex = some value)
    {writer : WriterState Element} :
    Cursors { run with
      sent := (writeToken run.maxSize run.sent).nextSent
      published := run.published ++ [value]
      writer } := by
  have longer : (run.published ++ [value]).length = run.published.length + 1 :=
    List.length_append
  have ordered := cursors.ordered
  rw [Room] at room
  rw [cursors.writeToken_eq] at written ⊢
  refine { cursors with ordered := ?_, within := ?_, sent_eq := ?_, stored := ?_ }
  · change run.advanced ≤ (run.published ++ [value]).length
    omega
  · change (run.published ++ [value]).length ≤ run.advanced + run.maxSize
    omega
  · change (run.published.length + 1) % (2 * run.maxSize) =
      (run.published ++ [value]).length % (2 * run.maxSize)
    rw [longer]
  · intro number unread below
    change number < (run.published ++ [value]).length at below
    change run.buffer (number % run.maxSize) = (run.published ++ [value])[number]?
    rcases Nat.lt_or_eq_of_le (by omega : number ≤ run.published.length) with old | rfl
    · rw [List.getElem?_append_left old]
      exact cursors.stored number unread old
    · rw [List.getElem?_concat_length]
      exact written

theorem Consistent.writeStep (consistent : Consistent run)
    (few : run.refuses = true → run.failures.length + 1 < 2 ^ 32)
    (performed : run.writeStep = some target) : Consistent target := by
  obtain ⟨cursors, writerKnows, readerKnows, history⟩ := consistent
  have publishedEq := history.published_eq
  have positive := cursors.positive
  have ordered := cursors.ordered
  have within := cursors.within
  rw [QueueRun.writeStep] at performed
  cases state : run.writer with
  | idle =>
    rw [state] at performed
    cases performed
  | locked value =>
    rw [state] at performed publishedEq
    cases performed
    refine ⟨{ cursors with }, ⟨run.advanced, cursors.received_eq, Nat.le_refl _, ?_, ?_⟩,
      readerKnows, { history with published_eq := publishedEq }⟩
    · change run.advanced + (run.published.length - run.advanced) = run.published.length
      omega
    · change run.published.length - run.advanced ≤ run.maxSize
      omega
  | checking value rxPos unread =>
    rw [state] at performed publishedEq writerKnows
    obtain ⟨loaded, rfl, before, total, atMost⟩ := writerKnows
    have fullIff : isFull run.maxSize (loaded % (2 * run.maxSize)) run.sent = true ↔
        run.published.length = loaded + run.maxSize := by
      rw [cursors.sent_eq]
      exact isFull_mod positive (by omega) (by omega)
    simp only at performed
    split at performed
    · rename_i full
      cases performed
      have unreadEq : unread = run.maxSize := by
        have all := fullIff.mp full
        omega
      have failuresEq := history.failures_eq
      have lostEq := history.lost_eq
      refine ⟨{ cursors with }, trivial, readerKnows,
        { history with published_eq := ?_, failures_eq := ?_, lost_eq := ?_, few := ?_ }⟩
      · change run.published =
          ((run.writes ++ [(value, false)]).filter Prod.snd).map Prod.fst ++ []
        rw [filter_append, publishedEq]
        simp [WriterState.inFlight]
      · change run.failures ++ [unread] = List.replicate
          ((run.writes ++ [(value, false)]).countP fun entry => !entry.2) run.maxSize
        rw [countP_append, replicate_add, ← failuresEq, unreadEq]
        rfl
      · change run.stats.lostMessages + 1 = UInt32.ofNat (run.failures ++ [unread]).length
        rw [lostEq, List.length_append]
        exact (UInt32.ofNat_add _ _).symm
      · change (run.failures ++ [unread]).length < 2 ^ 32
        rw [List.length_append]
        exact few (by rw [refuses, state]; exact full)
    · rename_i notFull
      cases performed
      refine ⟨{ cursors with }, ?_, readerKnows, { history with published_eq := publishedEq }⟩
      change run.published.length < run.advanced + run.maxSize
      have short : run.published.length ≠ loaded + run.maxSize := fun all =>
        notFull (fullIff.mpr all)
      omega
  | notFull value =>
    rw [state] at performed publishedEq writerKnows
    cases performed
    exact ⟨{ cursors with }, ⟨writerKnows, rfl⟩, readerKnows,
      { history with published_eq := publishedEq }⟩
  | reserving value sentVal =>
    rw [state] at performed publishedEq writerKnows
    obtain ⟨room, rfl⟩ := writerKnows
    cases performed
    refine ⟨{ cursors with }, ⟨room, rfl⟩, readerKnows,
      { history with published_eq := publishedEq, lost_eq := ?_ }⟩
    dsimp only
    split
    · exact history.lost_eq
    · exact history.lost_eq
  | reserved value token =>
    rw [state] at performed publishedEq writerKnows
    obtain ⟨room, rfl⟩ := writerKnows
    cases performed
    exact ⟨{ cursors with stored := fun number => cursors.stored_update room none },
      ⟨room, rfl⟩, readerKnows, { history with published_eq := publishedEq }⟩
  | copying value token =>
    rw [state] at performed publishedEq writerKnows
    obtain ⟨room, rfl⟩ := writerKnows
    cases performed
    exact ⟨{ cursors with stored := fun number => cursors.stored_update room (some value) },
      ⟨room, rfl, Function.update_self _ _ _⟩, readerKnows,
      { history with published_eq := publishedEq }⟩
  | copied value token =>
    rw [state] at performed publishedEq writerKnows
    obtain ⟨room, rfl, written⟩ := writerKnows
    cases performed
    refine ⟨cursors.publish room written, trivial, readerKnows_publish readerKnows,
      { history with published_eq := ?_, seen := ?_ }⟩
    · change run.published ++ [value] = (run.writes.filter Prod.snd).map Prod.fst ++ [value]
      rw [publishedEq]
      simp [WriterState.inFlight]
    · intro entry member
      obtain ⟨seenValue, valueEq, numbered⟩ := history.seen entry member
      refine ⟨seenValue, valueEq, ?_⟩
      change (run.published ++ [value])[entry.1]? = some seenValue
      rw [List.getElem?_append_left]
      · exact numbered
      · exact (List.getElem?_eq_some_iff.mp numbered).1
  | published value =>
    rw [state] at performed publishedEq
    cases performed
    exact ⟨{ cursors with }, rfl, readerKnows, { history with published_eq := publishedEq }⟩
  | measuring value txPos =>
    rw [state] at performed publishedEq writerKnows
    obtain rfl : txPos = run.sent := writerKnows
    cases performed
    refine ⟨{ cursors with }, trivial, readerKnows,
      { history with published_eq := ?_, failures_eq := ?_, lost_eq := ?_, sizes := ?_ }⟩
    · change run.published =
        ((run.writes ++ [(value, true)]).filter Prod.snd).map Prod.fst ++ []
      rw [filter_append, publishedEq]
      simp [WriterState.inFlight]
    · have failuresEq := history.failures_eq
      dsimp only
      rw [countP_append]
      exact failuresEq
    · dsimp only
      split
      · exact history.lost_eq
      · exact history.lost_eq
    · intro size member
      rcases mem_append.mp member with old | new
      · exact history.sizes size old
      · rw [mem_singleton.mp new, cursors.sent_eq, cursors.received_eq,
          size_mod positive ordered within]
        change run.published.length - run.advanced ≤ run.maxSize
        omega

/-! ## The receiver -/

/-- The room does not shrink when the receiver advances. -/
theorem writerKnows_advance (knows : WriterKnows run run.writer) {received : Nat}
    {stats : QueueStats} {reader : ReaderState} :
    WriterKnows { run with received, stats, reader, advanced := run.advanced + 1 }
      run.writer := by
  have roomy : Room run →
      Room { run with received, stats, reader, advanced := run.advanced + 1 } := by
    intro room
    rw [Room] at room
    change run.published.length < run.advanced + 1 + run.maxSize
    omega
  cases state : run.writer with
  | checking value rxPos unread =>
    rw [state] at knows
    obtain ⟨loaded, rxEq, before, rest⟩ := knows
    refine ⟨loaded, rxEq, ?_, rest⟩
    change loaded ≤ run.advanced + 1
    omega
  | notFull value =>
    rw [state] at knows
    exact roomy knows
  | reserving value sentVal =>
    rw [state] at knows
    exact ⟨roomy knows.1, knows.2⟩
  | reserved value token =>
    rw [state] at knows
    exact ⟨roomy knows.1, knows.2⟩
  | copying value token =>
    rw [state] at knows
    exact ⟨roomy knows.1, knows.2⟩
  | copied value token =>
    rw [state] at knows
    exact ⟨roomy knows.1, knows.2⟩
  | measuring value txPos =>
    rw [state] at knows
    exact knows
  | idle => trivial
  | locked value => trivial
  | published value => trivial

/-- The current `_sent` counts as loaded. -/
theorem Cursors.loaded (cursors : Cursors run) : Loaded run run.sent :=
  ⟨run.published.length, cursors.sent_eq, cursors.ordered, Nat.le_refl _⟩

theorem Consistent.readStep (consistent : Consistent run)
    (performed : run.readStep = some target) : Consistent target := by
  obtain ⟨cursors, writerKnows, readerKnows, history⟩ := consistent
  have positive := cursors.positive
  have within := cursors.within
  rw [QueueRun.readStep] at performed
  cases state : run.reader with
  | idle =>
    rw [state] at performed
    cases performed
  | ready =>
    rw [state] at performed
    cases performed
  | checking txPos =>
    rw [state] at performed readerKnows
    obtain ⟨position, rfl, after, before⟩ := readerKnows
    cases performed
    refine ⟨{ cursors with }, writerKnows, ?_, { history with }⟩
    dsimp only
    rw [cursors.received_eq]
    split
    · trivial
    · rename_i notEmpty
      rw [isEmpty_mod positive after (by omega)] at notEmpty
      change run.advanced < run.published.length
      omega
  | advancing next =>
    rw [state] at performed readerKnows
    obtain ⟨below, rfl⟩ := readerKnows
    cases performed
    refine ⟨{ cursors with ordered := below, within := ?_, received_eq := ?_, stored := ?_ },
      writerKnows_advance writerKnows, trivial, { history with observers := ?_ }⟩
    · change run.published.length ≤ run.advanced + 1 + run.maxSize
      omega
    · change QueueBase.next run.maxSize run.received = (run.advanced + 1) % (2 * run.maxSize)
      rw [cursors.received_eq, next_mod]
    · intro number unread
      change run.advanced + 1 ≤ number at unread
      exact cursors.stored number (by omega)
    · intro sender txPos publishedThen observed
      obtain ⟨near, txEq⟩ := history.observers sender txPos publishedThen observed
      exact ⟨Nat.le_trans near (Nat.add_le_add_right (Nat.le_succ _) _), txEq⟩
  | measuring txPos ready =>
    rw [state] at performed readerKnows
    obtain ⟨⟨position, rfl, after, before⟩, below⟩ := readerKnows
    cases performed
    refine ⟨{ cursors with }, writerKnows, ?_, { history with sizes := ?_ }⟩
    · dsimp only
      split
      · rename_i isReady
        exact below isReady
      · trivial
    · intro size member
      rcases mem_append.mp member with old | new
      · exact history.sizes size old
      · rw [mem_singleton.mp new, cursors.received_eq,
          size_mod positive after (by omega)]
        change position - run.advanced ≤ run.maxSize
        omega

variable [DecidableEq Sender]

theorem Consistent.perform (consistent : Consistent run) {event : QueueEvent Sender Element}
    (counted : run.Counted event) (performed : run.perform event = some target) :
    Consistent target := by
  obtain ⟨cursors, writerKnows, readerKnows, history⟩ := consistent
  cases event with
  | lock value =>
    simp only [QueueRun.perform] at performed
    split at performed
    · rename_i idle
      cases performed
      exact Consistent.lock ⟨cursors, writerKnows, readerKnows, history⟩ idle
    · cases performed
  | write =>
    exact Consistent.writeStep ⟨cursors, writerKnows, readerKnows, history⟩ counted performed
  | read => exact Consistent.readStep ⟨cursors, writerKnows, readerKnows, history⟩ performed
  | loadSent sender =>
    cases performed
    refine ⟨{ cursors with }, writerKnows, readerKnows, { history with observers := ?_ }⟩
    intro other txPos publishedThen observed
    dsimp only at observed
    by_cases same : other = sender
    · subst same
      rw [Function.update_self] at observed
      cases observed
      exact ⟨cursors.within, cursors.sent_eq⟩
    · rw [Function.update_of_ne same] at observed
      exact history.observers other txPos publishedThen observed
  | loadReceived sender =>
    simp only [QueueRun.perform] at performed
    split at performed
    · cases performed
    · rename_i txPos publishedThen observed
      cases performed
      refine ⟨{ cursors with }, writerKnows, readerKnows,
        { history with sizesOutside := ?_, observers := ?_ }⟩
      · intro size member
        rcases mem_append.mp member with old | new
        · exact history.sizesOutside size old
        · obtain ⟨near, rfl⟩ := history.observers sender txPos publishedThen observed
          rw [mem_singleton.mp new, cursors.received_eq]
          exact (size_le_iff cursors.positive near).mpr (counted _ observed)
      · intro other otherPos otherThen seen
        dsimp only at seen
        by_cases same : other = sender
        · subst same
          rw [Function.update_self] at seen
          cases seen
        · rw [Function.update_of_ne same] at seen
          exact history.observers other otherPos otherThen seen
  | isEmpty =>
    simp only [QueueRun.perform] at performed
    split at performed
    · cases performed
      exact ⟨{ cursors with }, writerKnows, cursors.loaded, { history with }⟩
    · cases performed
      exact ⟨{ cursors with }, writerKnows, cursors.loaded, { history with }⟩
    · cases performed
  | peek =>
    simp only [QueueRun.perform] at performed
    split at performed
    · rename_i ready
      cases performed
      refine ⟨{ cursors with }, writerKnows, readerKnows, { history with seen := ?_ }⟩
      intro entry member
      rcases mem_append.mp member with old | new
      · exact history.seen entry old
      · rw [ready] at readerKnows
        have below : run.advanced < run.published.length := readerKnows
        rw [mem_singleton.mp new, cursors.received_eq, mod_two_mul_mod,
          cursors.stored _ (Nat.le_refl _) below]
        exact ⟨run.published[run.advanced], List.getElem?_eq_getElem below,
          List.getElem?_eq_getElem below⟩
    · cases performed
  | advance =>
    simp only [QueueRun.perform] at performed
    split at performed
    · rename_i ready
      rw [ready] at readerKnows
      cases performed
      exact ⟨{ cursors with }, writerKnows, ⟨readerKnows, rfl⟩, { history with }⟩
    · cases performed
  | size =>
    simp only [QueueRun.perform] at performed
    split at performed
    · cases performed
      refine ⟨{ cursors with }, writerKnows, ⟨cursors.loaded, ?_⟩, { history with }⟩
      exact fun impossible => by cases impossible
    · rename_i ready
      rw [ready] at readerKnows
      cases performed
      exact ⟨{ cursors with }, writerKnows, ⟨cursors.loaded, fun _ => readerKnows⟩,
        { history with }⟩
    · cases performed

/-! ## Runs -/

theorem consistent_of_reachable
    (reached : ((system Sender Element).restrict Counted).Reachable run) : Consistent run := by
  induction reached with
  | initial start =>
    obtain ⟨maxSize, buffer, positive, rfl⟩ := start
    refine ⟨⟨positive, Nat.le_refl _, Nat.zero_le _, rfl, rfl, ?_⟩, trivial, trivial, ?_⟩
    · intro number _ below
      exact absurd below (Nat.not_lt_zero _)
    · exact
        { published_eq := rfl
          failures_eq := rfl
          lost_eq := rfl
          few := Nat.two_pow_pos 32
          seen := fun _ member => absurd member not_mem_nil
          sizes := fun _ member => absurd member not_mem_nil
          sizesOutside := fun _ member => absurd member not_mem_nil
          observers := fun _ _ _ observed => by cases observed }
  | step _ stepped consistent => exact consistent.perform stepped.2 stepped.1

/-- What the queue promises its users. -/
structure Fifo (run : QueueRun Sender Element) : Prop where
  /-- The published values are those of the successful writes, in their order. -/
  published_eq : run.published =
    (run.writes.filter Prod.snd).map Prod.fst ++ WriterState.inFlight run.writer
  advanced_le : run.advanced ≤ run.published.length
  capacity : run.published.length - run.advanced ≤ run.maxSize
  seen : ∀ entry ∈ run.seen, ∃ value, entry.2 = some value ∧
    run.published[entry.1]? = some value
  unread_kept : ∀ number, run.advanced ≤ number → number < run.published.length →
    run.buffer (number % run.maxSize) = run.published[number]?
  sent_lt : run.sent < 2 * run.maxSize
  received_lt : run.received < 2 * run.maxSize
  sizes : ∀ size ∈ run.sizes, size ≤ run.maxSize
  sizesOutside : ∀ size ∈ run.sizesOutside, size ≤ run.maxSize
  /-- A write failed only when `maxSize` elements were unread. -/
  failures_eq : run.failures = List.replicate (run.writes.countP fun entry => !entry.2) run.maxSize
  lost_eq : run.stats.lostMessages.toNat = run.writes.countP fun entry => !entry.2

theorem queue_fifo (Sender Element : Type) [DecidableEq Sender] (run : QueueRun Sender Element)
    (reached : ((system Sender Element).restrict Counted).Reachable run) : Fifo run := by
  obtain ⟨cursors, -, -, history⟩ := consistent_of_reachable reached
  have positive := cursors.positive
  have within := cursors.within
  refine
    { published_eq := history.published_eq
      advanced_le := cursors.ordered
      capacity := by omega
      seen := history.seen
      unread_kept := cursors.stored
      sent_lt := ?_
      received_lt := ?_
      sizes := history.sizes
      sizesOutside := history.sizesOutside
      failures_eq := history.failures_eq
      lost_eq := ?_ }
  · rw [cursors.sent_eq]
    exact Nat.mod_lt _ (by omega)
  · rw [cursors.received_eq]
    exact Nat.mod_lt _ (by omega)
  · rw [history.lost_eq, UInt32.toNat_ofNat_of_lt' history.few, history.failures_eq,
      length_replicate]

/-! ## Samples -/

/-- An element is published and looked at in a queue for two elements. -/
def sampleEvents : List (QueueEvent Nat Nat) :=
  List.flatten [[.lock 7], List.replicate 9 .write, [.isEmpty, .read, .peek]]

/-- A further element is published, and one is refused. -/
def furtherEvents : List (QueueEvent Nat Nat) :=
  List.flatten [[.loadSent 1, .lock 8], List.replicate 9 .write,
    [.lock 9, .write, .write, .advance, .read, .loadReceived 1, .isEmpty, .read, .peek]]

instance (run : QueueRun Sender Element) :
    (event : QueueEvent Sender Element) → Decidable (run.Counted event)
  | .loadReceived sender => inferInstanceAs (Decidable (∀ entry ∈ run.observers sender, _))
  | .write => inferInstanceAs (Decidable (_ → _))
  | .lock _ | .loadSent _ | .isEmpty | .peek | .advance | .size | .read =>
    inferInstanceAs (Decidable True)

/-- Two elements are written, a third one is refused, and the first one is advanced past while a
sender outside the lock measures. -/
theorem queue_fifo_sample :
    ∃ run : QueueRun Nat Nat, run.seen = [(0, some 7), (1, some 8)] ∧
      run.writes = [(7, true), (8, true), (9, false)] ∧ run.sizesOutside = [0] ∧ Fifo run := by
  have start : ((system Nat Nat).restrict Counted).Reachable (create 2 fun _ => none) :=
    .initial ⟨2, fun _ => none, by decide, rfl⟩
  have played : ∃ run, System.play (System.performIf perform Counted)
      (create 2 fun _ => none : QueueRun Nat Nat) (sampleEvents ++ furtherEvents) = some run ∧
      run.seen = [(0, some 7), (1, some 8)] ∧
      run.writes = [(7, true), (8, true), (9, false)] ∧ run.sizesOutside = [0] :=
    ⟨_, rfl, rfl, rfl, rfl⟩
  obtain ⟨run, played, seen, writes, sizes⟩ := played
  exact ⟨run, seen, writes, sizes,
    queue_fifo Nat Nat run (start.play_performIf id played)⟩

/-- Between the two loads of a sender outside the lock, another sender
publishes an element and the receiver advances past it: the queue for two
elements seems to hold three. -/
theorem not_bounded_disturbed :
    ∃ run : QueueRun Nat Nat, (system Nat Nat).Reachable run ∧ ¬Fifo run := by
  have start : (system Nat Nat).Reachable (create 2 fun _ => none) :=
    .initial ⟨2, fun _ => none, by decide, rfl⟩
  have played : ∃ run, System.play QueueRun.perform
      (create 2 fun _ => none : QueueRun Nat Nat)
      (.loadSent 1 :: sampleEvents ++ [.advance, .read, .loadReceived 1]) = some run ∧
      run.sizesOutside = [3] ∧ run.maxSize = 2 := ⟨_, rfl, rfl, rfl⟩
  obtain ⟨run, played, sizes, maxSize⟩ := played
  refine ⟨run, start.play (fun performed => performed) played, fun fifo => ?_⟩
  have bounded := fifo.sizesOutside
  rw [sizes, maxSize] at bounded
  exact absurd (bounded 3 (mem_singleton_self _)) (by decide)

end QueueRun

end OpenBsw.Middleware
