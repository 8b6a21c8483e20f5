import OpenBsw.Data.CircularBuffer
import OpenBsw.Transition.System

/-!
# Receiving frames

The receive interrupt stores frames in the software queue of the device.  The
receive task reads their number, passes each of them to the listeners and then
clears the queue.  An interrupt may preempt the task between any two of these
steps, while it is not masked.
-/

namespace OpenBsw.Can

open List

universe u

open OpenBsw.Data
open OpenBsw.Transition

inductive RxDriver where
  | FdCan
  | BxCan
  deriving DecidableEq

def RX_QUEUE_SIZE : Nat := 32

namespace RxDevice

variable {α : Type u}

/-- The loop of `receiveISR` over the frames in the hardware FIFO, for one of them. -/
def receive (queue : CircularBuffer α) (frame : α) : CircularBuffer α :=
  if RX_QUEUE_SIZE ≤ queue.count then queue else queue.store RX_QUEUE_SIZE frame

/-- The frames that the loop stores, and those that it acknowledges without storing. -/
def split (queue : CircularBuffer α) (frames : List α) : List α × List α :=
  (frames.take (RX_QUEUE_SIZE - queue.count), frames.drop (RX_QUEUE_SIZE - queue.count))

def receiveISR (queue : CircularBuffer α) (frames : List α) : CircularBuffer α :=
  frames.foldl receive queue

end RxDevice

/-- Where the task is in `receiveTask`. -/
inductive RxTask where
  | idle
  /-- The receive interrupt was masked, if the driver does that. -/
  | started
  /-- The number of frames was read, and some of them were passed on. -/
  | notifying (count index : Nat)
  /-- The queue was cleared, but the interrupt was not enabled yet. -/
  | cleared
  deriving DecidableEq

structure RxRun (α : Type u) where
  queue : CircularBuffer α
  interruptEnabled : Bool := true
  task : RxTask := .idle
  /-- The frames stored by `receiveISR`. -/
  stored : List α := []
  /-- The frames that were acknowledged without storing, each with the length of the queue. -/
  rejected : List (α × Nat) := []
  /-- The frames passed to the listeners. -/
  delivered : List α := []

inductive RxEvent (α : Type u) where
  /-- An interrupt with frames in the hardware FIFO, which may leave the interrupt masked. -/
  | interrupt (frames : List α) (enabled : Bool)
  /-- The next step of the task. -/
  | step

namespace RxRun

variable {α : Type u}

/-- The interrupt stores the frames for which there is room. -/
def interrupt (run : RxRun α) (frames : List α) (enabled : Bool) : RxRun α :=
  { run with
    queue := RxDevice.receiveISR run.queue frames
    interruptEnabled := enabled
    stored := run.stored ++ (RxDevice.split run.queue frames).1
    rejected := run.rejected ++
      (RxDevice.split run.queue frames).2.map fun frame =>
        (frame, (RxDevice.receiveISR run.queue (RxDevice.split run.queue frames).1).count) }

/-- One step of `receiveTask`. -/
def step (driver : RxDriver) (run : RxRun α) : RxRun α :=
  match run.task with
  | .idle =>
    { run with
      task := .started
      interruptEnabled :=
        match driver with
        | .FdCan => run.interruptEnabled
        | .BxCan => false }
  | .started => { run with task := .notifying run.queue.count 0 }
  | .notifying count index =>
    if index < count then
      { run with
        task := .notifying count (index + 1)
        delivered := run.delivered ++ [run.queue.get RX_QUEUE_SIZE index] }
    else { run with task := .cleared, queue := run.queue.clear RX_QUEUE_SIZE }
  | .cleared => { run with task := .idle, interruptEnabled := true }

def perform (driver : RxDriver) (run : RxRun α) : RxEvent α → Option (RxRun α)
  | .interrupt frames enabled =>
    if run.interruptEnabled then some (run.interrupt frames enabled) else none
  | .step => some (run.step driver)

/-- At first the queue is empty and the interrupt enabled. -/
def system (driver : RxDriver) (α : Type u) : System (RxRun α) (RxEvent α) where
  Initial run := ∃ slots, run = { queue := { slots } }
  Step source event target := source.perform driver event = some target

/-- The frames in the queue that were passed on already. -/
def notified (run : RxRun α) : Nat :=
  match run.task with
  | .notifying _ index => index
  | _ => 0

structure Correct (run : RxRun α) : Prop where
  /-- The head and the count describe the frames that are stored and not delivered, behind those
  of the current batch. -/
  exact : run.stored = run.delivered ++ (run.queue.contents RX_QUEUE_SIZE).drop run.notified
  batch : ∃ before, run.delivered =
    before ++ (run.queue.contents RX_QUEUE_SIZE).take run.notified
  inside : run.notified ≤ run.queue.count
  rejected : ∀ frame ∈ run.rejected, frame.2 = RX_QUEUE_SIZE

/-- While the count of the task is in use, `FdCanTransceiver` needs that nothing is stored. -/
def Undisturbed (driver : RxDriver) (run : RxRun α) : RxEvent α → Prop
  | .interrupt frames _ =>
    driver = .FdCan → ∀ count index, run.task = .notifying count index →
      (RxDevice.split run.queue frames).1 = []
  | .step => True

/-! ## The queue -/

variable {queue : CircularBuffer α}

theorem receiveISR_spec (frames : List α) (fits : queue.count ≤ RX_QUEUE_SIZE) :
    (RxDevice.receiveISR queue frames).contents RX_QUEUE_SIZE =
        queue.contents RX_QUEUE_SIZE ++ (RxDevice.split queue frames).1 ∧
      (RxDevice.receiveISR queue frames).count =
        queue.count + (RxDevice.split queue frames).1.length := by
  induction frames generalizing queue with
  | nil => simp [RxDevice.receiveISR, RxDevice.split]
  | cons frame frames ih =>
    rw [RxDevice.receiveISR, foldl_cons, RxDevice.receive]
    change (RxDevice.receiveISR _ frames).contents _ = _ ∧
      (RxDevice.receiveISR _ frames).count = _
    by_cases full : RX_QUEUE_SIZE ≤ queue.count
    · have none : RX_QUEUE_SIZE - queue.count = 0 := by omega
      rw [if_pos full, (ih fits).1, (ih fits).2, RxDevice.split, RxDevice.split, none,
        take_zero, take_zero]
      exact ⟨rfl, rfl⟩
    · have room : queue.count < RX_QUEUE_SIZE := by omega
      obtain ⟨left, leftEq⟩ : ∃ left, RX_QUEUE_SIZE - queue.count = left + 1 :=
        ⟨RX_QUEUE_SIZE - queue.count - 1, by omega⟩
      have less : RX_QUEUE_SIZE - (queue.store RX_QUEUE_SIZE frame).count = left := by
        change RX_QUEUE_SIZE - (queue.count + 1) = left
        omega
      have fitsStored : (queue.store RX_QUEUE_SIZE frame).count ≤ RX_QUEUE_SIZE :=
        Nat.succ_le_of_lt room
      have stored := ih fitsStored
      rw [RxDevice.split, less] at stored
      rw [if_neg full, stored.1, stored.2, CircularBuffer.contents_store room, RxDevice.split,
        leftEq, take_succ_cons, append_assoc, length_cons]
      refine ⟨rfl, ?_⟩
      change queue.count + 1 + (frames.take left).length =
        queue.count + ((frames.take left).length + 1)
      omega

/-- Frames are only rejected by a full queue. -/
theorem split_spec (queue : CircularBuffer α) (frames : List α) :
    (RxDevice.split queue frames).1.length ≤ RX_QUEUE_SIZE - queue.count ∧
      ((RxDevice.split queue frames).2 ≠ [] →
        (RxDevice.split queue frames).1.length = RX_QUEUE_SIZE - queue.count) := by
  rw [RxDevice.split]
  refine ⟨length_take_le .., fun some => ?_⟩
  have long : RX_QUEUE_SIZE - queue.count < frames.length := by
    by_contra short
    exact some (drop_eq_nil_of_le (Nat.le_of_not_lt short))
  exact length_take_of_le (Nat.le_of_lt long)

/-! ## The invariant -/

variable {driver : RxDriver} {run target : RxRun α}

/-- What holds between any two steps. -/
structure Invariant (driver : RxDriver) (run : RxRun α) : Prop where
  correct : Correct run
  fits : run.queue.count ≤ RX_QUEUE_SIZE
  /-- The count of the task is that of the queue. -/
  counted : ∀ count index, run.task = .notifying count index →
    count = run.queue.count ∧ index ≤ count
  /-- The interrupt stays masked while the task works on the queue. -/
  masked : driver = .BxCan → run.task ≠ .idle → run.interruptEnabled = false

theorem Invariant.interrupt (invariant : Invariant driver run)
    (enabled : run.interruptEnabled = true) (frames : List α) (stays : Bool)
    (undisturbed : Undisturbed driver run (.interrupt frames stays)) :
    Invariant driver (run.interrupt frames stays) := by
  have fits := invariant.fits
  obtain ⟨contents, count⟩ := receiveISR_spec frames fits
  obtain ⟨few, full⟩ := split_spec run.queue frames
  have idle : driver = .BxCan → run.task = .idle := by
    intro isBx
    by_contra busy
    rw [invariant.masked isBx busy] at enabled
    exact Bool.false_ne_true enabled
  have still : ∀ read index, run.task = .notifying read index →
      (RxDevice.split run.queue frames).1 = [] := by
    intro read index busy
    cases driver with
    | FdCan => exact undisturbed rfl read index busy
    | BxCan =>
      rw [idle rfl] at busy
      cases busy
  have inside : run.notified ≤ (run.queue.contents RX_QUEUE_SIZE).length := by
    rw [CircularBuffer.length_contents]
    exact invariant.correct.inside
  refine ⟨⟨?_, ?_, ?_, ?_⟩, ?_, ?_, ?_⟩
  · change run.stored ++ _ = run.delivered ++
      ((RxDevice.receiveISR run.queue frames).contents RX_QUEUE_SIZE).drop run.notified
    rw [contents, drop_append_of_le_length inside, invariant.correct.exact,
      append_assoc]
  · obtain ⟨before, deliveredEq⟩ := invariant.correct.batch
    refine ⟨before, ?_⟩
    change run.delivered = before ++
      ((RxDevice.receiveISR run.queue frames).contents RX_QUEUE_SIZE).take run.notified
    rw [contents, take_append_of_le_length inside]
    exact deliveredEq
  · change run.notified ≤ (RxDevice.receiveISR run.queue frames).count
    rw [count]
    exact Nat.le_trans invariant.correct.inside (Nat.le_add_right _ _)
  · intro rejected member
    rcases mem_append.mp member with earlier | here
    · exact invariant.correct.rejected rejected earlier
    · obtain ⟨frame, frameMember, rfl⟩ := mem_map.mp here
      have stored := (receiveISR_spec (RxDevice.split run.queue frames).1 fits).2
      have most := full (ne_nil_of_mem frameMember)
      have again : (RxDevice.split run.queue (RxDevice.split run.queue frames).1).1 =
          (RxDevice.split run.queue frames).1 := take_of_length_le few
      change (RxDevice.receiveISR run.queue (RxDevice.split run.queue frames).1).count = _
      rw [stored, again, most]
      omega
  · change (RxDevice.receiveISR run.queue frames).count ≤ _
    rw [count]
    omega
  · intro read index busy
    obtain ⟨same, less⟩ := invariant.counted read index busy
    refine ⟨?_, less⟩
    change read = (RxDevice.receiveISR run.queue frames).count
    rw [count, still read index busy]
    exact same
  · intro isBx busy
    exact absurd (idle isBx) busy

theorem Invariant.step (invariant : Invariant driver run) : Invariant driver (run.step driver) := by
  obtain ⟨⟨exact, ⟨before, batch⟩, inside, rejected⟩, fits, counted, masked⟩ := invariant
  cases task : run.task with
  | idle =>
    simp only [RxRun.step, task]
    have none : run.notified = 0 := by rw [notified, task]
    rw [none] at exact batch inside
    refine ⟨⟨exact, ⟨before, batch⟩, inside, rejected⟩, fits, fun _ _ busy => (by cases busy),
      fun isBx _ => ?_⟩
    subst isBx
    rfl
  | started =>
    simp only [RxRun.step, task]
    have none : run.notified = 0 := by rw [notified, task]
    rw [none] at exact batch inside
    refine ⟨⟨exact, ⟨before, batch⟩, inside, rejected⟩, fits, fun read index busy => ?_,
      fun isBx _ => masked isBx (by rw [task]; exact RxTask.noConfusion)⟩
    injection busy with readEq indexEq
    subst readEq
    subst indexEq
    exact ⟨rfl, Nat.zero_le _⟩
  | notifying count index =>
    obtain ⟨same, less⟩ := counted count index task
    have busyMasked : driver = .BxCan → run.interruptEnabled = false := fun isBx =>
      masked isBx (by rw [task]; exact RxTask.noConfusion)
    have some : run.notified = index := by rw [notified, task]
    rw [some] at exact batch inside
    simp only [RxRun.step, task]
    by_cases more : index < count
    · have present := CircularBuffer.getElem?_contents RX_QUEUE_SIZE (same ▸ more)
      obtain ⟨bound, element⟩ := List.getElem?_eq_some_iff.mp present
      simp only [if_pos more]
      refine ⟨⟨?_, ⟨before, ?_⟩, ?_, rejected⟩, fits, fun read next busy => ?_,
        fun isBx _ => busyMasked isBx⟩
      · change run.stored = run.delivered ++ [run.queue.get RX_QUEUE_SIZE index] ++
          (run.queue.contents RX_QUEUE_SIZE).drop (index + 1)
        rw [exact, append_assoc, ← element, singleton_append,
          getElem_cons_drop]
      · change run.delivered ++ [run.queue.get RX_QUEUE_SIZE index] =
          before ++ (run.queue.contents RX_QUEUE_SIZE).take (index + 1)
        rw [take_add_one, present, batch, append_assoc]
        rfl
      · change index + 1 ≤ run.queue.count
        omega
      · injection busy with readEq nextEq
        subst readEq
        subst nextEq
        exact ⟨same, more⟩
    · have all : index = run.queue.count := by omega
      simp only [if_neg more]
      refine ⟨⟨?_, ⟨run.delivered, ?_⟩, Nat.zero_le _, rejected⟩, Nat.zero_le _,
        fun _ _ busy => (by cases busy), fun isBx _ => busyMasked isBx⟩
      · change run.stored = run.delivered ++ []
        rw [exact, drop_of_length_le]
        rw [CircularBuffer.length_contents]
        omega
      · exact (append_nil _).symm
  | cleared =>
    simp only [RxRun.step, task]
    have none : run.notified = 0 := by rw [notified, task]
    rw [none] at exact batch inside
    exact ⟨⟨exact, ⟨before, batch⟩, inside, rejected⟩, fits, fun _ _ busy => (by cases busy),
      fun _ busy => absurd rfl busy⟩

theorem invariant_inductive (driver : RxDriver) :
    ((system driver α).restrict (Undisturbed driver)).Inductive (Invariant driver) where
  initial := by
    rintro _ ⟨slots, rfl⟩
    exact ⟨⟨rfl, ⟨[], rfl⟩, Nat.le_refl _, fun _ member => absurd member not_mem_nil⟩,
      Nat.zero_le _, fun _ _ busy => (by cases busy), fun _ busy => absurd rfl busy⟩
  step := by
    rintro source event target invariant ⟨performed, undisturbed⟩
    cases event with
    | interrupt frames stays =>
      change (if source.interruptEnabled = true then _ else none) = some target at performed
      split_ifs at performed with enabled
      cases performed
      exact invariant.interrupt enabled frames stays undisturbed
    | step =>
      cases performed
      exact invariant.step

/-- Every stored frame is delivered exactly once and in order.  With `FdCanTransceiver` this needs
that no frame is stored between reading the count and clearing the queue. -/
theorem receive_exact (driver : RxDriver)
    (reached : ((system driver α).restrict (Undisturbed driver)).Reachable run) : Correct run :=
  ((invariant_inductive driver).of_reachable reached).correct

/-- Runs of `BxCanTransceiver` are undisturbed. -/
theorem undisturbed_of_bxCan {event : RxEvent α}
    (performed : run.perform .BxCan event = some target) :
    ((system .BxCan α).restrict (Undisturbed .BxCan)).Step run event target := by
  refine ⟨performed, ?_⟩
  cases event with
  | interrupt frames stays => exact fun isFd => RxDriver.noConfusion isFd
  | step => trivial

/-- Two frames arrive and are passed on, and a third one behind them. -/
theorem receive_exact_sample :
    ∃ run, System.play (perform .BxCan) { queue := { slots := fun _ => 0 } }
        [.interrupt [7, 8] false, .step, .step, .step, .step, .step, .step, .interrupt [9] false] =
          some run ∧ run.delivered = [7, 8] ∧ Correct run := by
  have played : System.play (perform .BxCan) { queue := { slots := fun _ => 0 } }
      [.interrupt [7, 8] false, .step, .step, .step, .step, .step, .step,
        .interrupt [9] false] = some _ := rfl
  exact ⟨_, played, rfl, receive_exact .BxCan
    (System.Reachable.play undisturbed_of_bxCan (.initial ⟨_, rfl⟩) played)⟩

/-- A frame that is stored while the task passes on another one is cleared unread. -/
theorem not_receive_exact : ¬ ∀ run, (system .FdCan Nat).Reachable run → Correct run := by
  intro correct
  have played : System.play (perform .FdCan) { queue := { slots := fun _ => 0 } }
      [.interrupt [7] true, .step, .step, .step, .interrupt [8] true, .step] = some _ := rfl
  have lost := (correct _ (System.Reachable.play id (.initial ⟨_, rfl⟩) played)).exact
  revert lost
  decide

end RxRun

end OpenBsw.Can
