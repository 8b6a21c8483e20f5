import OpenBsw.Can.TxJobs
import OpenBsw.Transition.System

/-!
# The job queues of `CanFlex2Transceiver` and `BxCanTransceiver`

Calls of a transceiver may be made by the listeners that it calls, and by other
contexts whenever the lock is free.  A call is therefore a list of sections,
each of which runs without interruption, and the sections of any number of
calls alternate.  The deferred callback has two sections, before and after the
listener is called.
-/

namespace OpenBsw.Can

open List

universe u v

open OpenBsw.Transition

inductive TxDriver where
  | CanFlex2
  | BxCan
  deriving DecidableEq

/-- What a call does between two points where others may run. -/
inductive CallSection (L : Type u) (F : Type v) where
  /-- `stop` of the device. -/
  | stop
  /-- `mute` of the device. -/
  | deviceMute
  /-- `unmute` of the device. -/
  | deviceUnmute
  /-- `init` and `start` of the device, which may fail. -/
  | start
  /-- `fTxQueue.clear()`. -/
  | clear
  | setState (state : TransceiverState)
  | setMuted (muted : Bool)
  /-- The rest of `write` with a listener. -/
  | enqueue (frame : F) (listener : L)
  deriving DecidableEq

def CallSection.isEnqueue {L : Type u} {F : Type v} : CallSection L F → Bool
  | .enqueue _ _ => true
  | _ => false

inductive TxCall (L : Type u) (F : Type v) where
  | write (frame : F) (listener : L)
  | mute
  | unmute
  | close
  | openDevice
  deriving DecidableEq

structure TxRun (L : Type u) (F : Type v) where
  state : TransceiverState := .CLOSED
  /-- `fMuted` of `BxCanTransceiver`. -/
  muted : Bool := false
  jobs : TxJobs L F := {}
  /-- The device is started. -/
  started : Bool := false
  /-- The device was muted since it was started, and not unmuted. -/
  deviceMuted : Bool := false
  /-- The transmissions that lead to a transmit interrupt. -/
  pending : List (TxJobWithCallback L F) := []
  /-- The deferred callback is enqueued. -/
  scheduled : Bool := false
  /-- The callback has called the listener and is going to send again. -/
  resuming : Bool := false
  /-- What remains of the calls. -/
  calls : List (List (CallSection L F)) := []
  /-- The front of an empty queue was read. -/
  emptyFront : Bool := false
  /-- The jobs whose frame was used after they had left the queue. -/
  usedAfter : List (TxJobWithCallback L F) := []

inductive TxEvent (L : Type u) (F : Type v) where
  | call (call : TxCall L F)
  /-- The next section of a call, with the result of the device. -/
  | advance (index : Nat) (succeeds : Bool)
  /-- A pending transmission completes. -/
  | transmitInterrupt (index : Nat)
  /-- A frame without a listener completes. -/
  | plainInterrupt
  /-- The deferred callback, until it calls the listener. -/
  | canFrameSentAsyncCallback
  /-- The rest of the callback, with the result of the device. -/
  | sendAgain (succeeds : Bool)

def TX_QUEUE_CAPACITY : Nat := 3

namespace TxRun

variable {L : Type u} {F : Type v}

/-- The checks at the start of a call, which may return a code at once, and the sections that
follow. -/
def sections (driver : TxDriver) (run : TxRun L F) :
    TxCall L F → Except ErrorCode (List (CallSection L F))
  | .write frame listener =>
    match driver with
    | .CanFlex2 =>
      if run.state = .MUTED then .error .CAN_ERR_ILLEGAL_STATE
      else if run.state = .CLOSED then .error .CAN_ERR_TX_OFFLINE
      else .ok [.enqueue frame listener]
    | .BxCan =>
      if run.state ≠ .OPEN ∨ run.muted = true then .error .CAN_ERR_TX_OFFLINE
      else .ok [.enqueue frame listener]
  | .mute =>
    if run.state = .OPEN then
      match driver with
      | .CanFlex2 => .ok [.deviceMute, .clear, .setState .MUTED]
      | .BxCan => .ok [.setMuted true, .clear, .setState .MUTED]
    else .error .CAN_ERR_ILLEGAL_STATE
  | .unmute =>
    if run.state = .MUTED then
      match driver with
      | .CanFlex2 => .ok [.deviceUnmute, .setState .OPEN]
      | .BxCan => .ok [.setMuted false, .setState .OPEN]
    else .error .CAN_ERR_ILLEGAL_STATE
  | .close =>
    match driver with
    | .CanFlex2 =>
      if run.state = .OPEN ∨ run.state = .MUTED then
        .ok [.stop, .setState .CLOSED, .clear]
      else .error .CAN_ERR_ILLEGAL_STATE
    | .BxCan =>
      if run.state = .CLOSED then .error .CAN_ERR_OK
      else .ok [.stop, .clear, .setState .CLOSED]
  | .openDevice =>
    if run.state = .INITIALIZED ∨ run.state = .CLOSED then
      match driver with
      | .CanFlex2 => .ok [.start, .setState .OPEN]
      | .BxCan => .ok [.start, .setState .OPEN, .setMuted false]
    else .error .CAN_ERR_ILLEGAL_STATE

/-- The device is started and not muted. -/
def active (run : TxRun L F) : Bool :=
  run.started && !run.deviceMuted

/-- A successful transmission, which leads to an interrupt if the device is active. -/
def transmit (run : TxRun L F) (job : TxJobWithCallback L F) : TxRun L F :=
  if run.active then { run with pending := run.pending ++ [job] } else run

/-- The locked part of `write`, with the result of the device. -/
def enqueue (run : TxRun L F) (frame : F) (listener : L) (succeeds : Bool) :
    ErrorCode × TxRun L F :=
  if TX_QUEUE_CAPACITY ≤ run.jobs.txQueue.length then (.CAN_ERR_TX_HW_QUEUE_FULL, run)
  else if run.jobs.txQueue ≠ [] then
    (.CAN_ERR_OK, { run with jobs := run.jobs.accept listener frame })
  else if succeeds then
    (.CAN_ERR_OK, { run with jobs := run.jobs.accept listener frame }.transmit
      (run.jobs.newJob listener frame))
  else (.CAN_ERR_TX_HW_QUEUE_FULL, run)

def perform (run : TxRun L F) (succeeds : Bool) : CallSection L F → TxRun L F
  | .stop => { run with started := false, pending := [] }
  | .deviceMute => { run with deviceMuted := true, pending := [] }
  -- A device that is stopped stays stopped.
  | .deviceUnmute => { run with deviceMuted := false }
  | .start => if succeeds then { run with started := true, deviceMuted := false } else run
  | .clear => { run with jobs := run.jobs.clear }
  | .setState state => { run with state := state }
  | .setMuted muted => { run with muted := muted }
  | .enqueue frame listener => (run.enqueue frame listener succeeds).2

/-- A call ends when the device cannot be started. -/
def remaining (succeeds : Bool) : CallSection L F → List (CallSection L F) →
    List (CallSection L F)
  | .start, rest => if succeeds then rest else []
  | _, rest => rest

def advance (run : TxRun L F) (index : Nat) (succeeds : Bool) : Option (TxRun L F) :=
  match run.calls[index]? with
  | some (first :: rest) =>
    some ({ run with calls := run.calls.set index (remaining succeeds first rest) }.perform
      succeeds first)
  | _ => none

/-- `canFrameSentCallback`, which `BxCanTransceiver` only calls while there are jobs. -/
def schedule (driver : TxDriver) (run : TxRun L F) : TxRun L F :=
  if driver = .BxCan ∧ run.jobs.txQueue = [] then run else { run with scheduled := true }

/-- The pop, the decision and the call of the listener. -/
def confirm (run : TxRun L F) : TxRun L F :=
  { run with
    jobs := run.jobs.confirm
    resuming := decide (run.jobs.confirm.txQueue ≠ []) }

def canFrameSentAsyncCallback (driver : TxDriver) (run : TxRun L F) : TxRun L F :=
  match driver, run.jobs.txQueue with
  | _, [] => run
  | .CanFlex2, job :: _ =>
    if run.state = .OPEN ∨ run.state = .INITIALIZED then
      -- The listener is called with a reference to the frame of the popped job.
      { run.confirm with usedAfter := run.usedAfter ++ [job] }
    else { run with jobs := run.jobs.confirm.clear, usedAfter := run.usedAfter ++ [job] }
  | .BxCan, _ :: _ =>
    if run.state = .OPEN then run.confirm else { run with jobs := run.jobs.clear }

def sendAgain (run : TxRun L F) (succeeds : Bool) : TxRun L F :=
  match run.jobs.txQueue with
  | [] => { run with emptyFront := true }
  | job :: _ =>
    if succeeds then run.transmit job
    else { run with jobs := run.jobs.clear, usedAfter := run.usedAfter ++ [job] }

def step (driver : TxDriver) (run : TxRun L F) : TxEvent L F → Option (TxRun L F)
  | .call call =>
    match run.sections driver call with
    | .ok sections => some { run with calls := run.calls ++ [sections] }
    | .error _ => some run
  | .advance index succeeds => run.advance index succeeds
  | .transmitInterrupt index =>
    if index < run.pending.length then
      some ({ run with pending := run.pending.eraseIdx index }.schedule driver)
    else none
  | .plainInterrupt => if driver = .BxCan then some (run.schedule driver) else none
  | .canFrameSentAsyncCallback =>
    if run.scheduled = true ∧ run.resuming = false then
      some ({ run with scheduled := false }.canFrameSentAsyncCallback driver)
    else none
  | .sendAgain succeeds =>
    if run.resuming then some ({ run with resuming := false }.sendAgain succeeds) else none

def system (driver : TxDriver) (L : Type u) (F : Type v) : System (TxRun L F) (TxEvent L F) where
  Initial run := run = {}
  Step source event target := source.step driver event = some target

/-- A close or a mute behind its first section, which is going to drop the jobs. -/
def Drops (call : List (CallSection L F)) : Prop :=
  .clear ∈ call ∧ .stop ∉ call ∧ .deviceMute ∉ call ∧ .setMuted true ∉ call

/-- A close or a mute has stopped or muted and is going to drop the jobs. -/
def Dropping (run : TxRun L F) : Prop :=
  ∃ call ∈ run.calls, Drops call

structure QueueCorrect (run : TxRun L F) : Prop where
  frontPresent : run.emptyFront = false
  /-- Each accepted job is confirmed, dropped or waiting, and only one of these. -/
  complete : (run.jobs.confirmed ++ (run.jobs.dropped ++ run.jobs.txQueue)).Perm run.jobs.accepted
  different : run.jobs.accepted.Nodup
  ordered : run.jobs.confirmed.Sublist run.jobs.accepted
  advancing : run.state = .OPEN → ¬run.Dropping → ∀ job ∈ run.jobs.txQueue.head?,
    job ∈ run.pending ∨ run.scheduled = true ∨ run.resuming = true

structure Correct (run : TxRun L F) : Prop extends QueueCorrect run where
  framesInside : run.usedAfter = []

/-! ## When it goes right -/

/-- The first job is accepted only while the device is active, and the callback continues only
while there are jobs. -/
def Safe (run : TxRun L F) : TxEvent L F → Prop
  | .advance index _ =>
    ∀ call ∈ run.calls[index]?, ∀ first ∈ call.head?, first.isEnqueue = true →
      run.jobs.txQueue = [] → run.active = true
  | .sendAgain _ => run.jobs.txQueue ≠ []
  | _ => True

/-- No frame is used that left the queue: `CanFlex2Transceiver` has no job to confirm, and no
further transmission fails. -/
def FramesKept (driver : TxDriver) (run : TxRun L F) : TxEvent L F → Prop
  | .canFrameSentAsyncCallback => driver = .CanFlex2 → run.jobs.txQueue = []
  | .sendAgain succeeds => succeeds = true ∨ run.jobs.txQueue = []
  | _ => True

instance (run : TxRun L F) : (event : TxEvent L F) → Decidable (run.Safe event)
  | .advance _ _ => inferInstanceAs (Decidable (∀ call ∈ _, ∀ first ∈ _, _ → _ → _))
  | .sendAgain _ => inferInstanceAs (Decidable (_ ≠ _))
  | .call _ | .transmitInterrupt _ | .plainInterrupt | .canFrameSentAsyncCallback =>
    inferInstanceAs (Decidable True)

instance (driver : TxDriver) (run : TxRun L F) :
    (event : TxEvent L F) → Decidable (FramesKept driver run event)
  | .canFrameSentAsyncCallback => inferInstanceAs (Decidable (_ → _))
  | .sendAgain _ => inferInstanceAs (Decidable (_ ∨ _))
  | .call _ | .advance _ _ | .transmitInterrupt _ | .plainInterrupt =>
    inferInstanceAs (Decidable True)

/-! ## The invariant -/

/-- A call that stops the device drops the jobs later, and one that starts it does not. -/
def WellFormed : List (CallSection L F) → Prop
  | [] => True
  | first :: rest =>
    (first = .stop ∨ first = .deviceMute → Drops rest) ∧ (first = .start → .clear ∉ rest) ∧
      WellFormed rest

/-- A callback follows in which the first job is confirmed or transmitted. -/
def Alive (run : TxRun L F) : Prop :=
  ∀ job ∈ run.jobs.txQueue.head?, run.active = true ∧
    (job ∈ run.pending ∨ run.scheduled = true ∨ run.resuming = true)

structure Invariant (run : TxRun L F) : Prop where
  accounted : run.jobs.Accounted
  frontPresent : run.emptyFront = false
  wellFormed : ∀ call ∈ run.calls, WellFormed call
  alive : ¬run.Dropping → run.Alive

variable {driver : TxDriver} {run : TxRun L F}

theorem Invariant.queueCorrect (invariant : run.Invariant) : run.QueueCorrect where
  frontPresent := invariant.frontPresent
  complete := invariant.accounted.complete
  different := invariant.accounted.nodup
  ordered := invariant.accounted.confirmed_sublist
  advancing := fun _ undisturbed job first => (invariant.alive undisturbed job first).2

theorem alive_of_nil (empty : run.jobs.txQueue = []) : run.Alive := by
  intro job first
  rw [empty] at first
  cases first

/-! ## Calls -/

theorem wellFormed_sections {call : TxCall L F} {sections : List (CallSection L F)}
    (begun : run.sections driver call = .ok sections) : WellFormed sections := by
  cases call <;> cases driver <;> simp only [TxRun.sections] at begun <;> split_ifs at begun <;>
    cases begun <;> simp [WellFormed, Drops]

theorem Invariant.call (invariant : run.Invariant) {sections : List (CallSection L F)}
    (wellFormed : WellFormed sections) :
    ({ run with calls := run.calls ++ [sections] } : TxRun L F).Invariant where
  accounted := invariant.accounted
  frontPresent := invariant.frontPresent
  wellFormed := by
    intro call member
    rcases mem_append.mp member with earlier | here
    · exact invariant.wellFormed call earlier
    · rw [mem_singleton.mp here]
      exact wellFormed
  alive := by
    intro undisturbed
    apply invariant.alive
    rintro ⟨call, member, drops⟩
    exact undisturbed ⟨call, mem_append_left _ member, drops⟩

/-! ## Sections -/

theorem wellFormed_remaining {succeeds : Bool} {first : CallSection L F}
    {rest : List (CallSection L F)} (wellFormed : WellFormed (first :: rest)) :
    WellFormed (remaining succeeds first rest) := by
  cases first with
  | start =>
    cases succeeds with
    | false => trivial
    | true => exact wellFormed.2.2
  | stop => exact wellFormed.2.2
  | deviceMute => exact wellFormed.2.2
  | deviceUnmute => exact wellFormed.2.2
  | clear => exact wellFormed.2.2
  | setState state => exact wellFormed.2.2
  | setMuted muted => exact wellFormed.2.2
  | enqueue frame listener => exact wellFormed.2.2

/-- A call that is going to drop the jobs still does so behind another section. -/
theorem drops_remaining {succeeds : Bool} {first : CallSection L F}
    {rest : List (CallSection L F)} (wellFormed : WellFormed (first :: rest))
    (other : first ≠ .clear) (drops : Drops (first :: rest)) :
    Drops (remaining succeeds first rest) := by
  have later : Drops rest := by
    obtain ⟨clears, stops, mutes, sets⟩ := drops
    rw [mem_cons, not_or] at stops mutes sets
    refine ⟨?_, stops.2, mutes.2, sets.2⟩
    rcases mem_cons.mp clears with here | later
    · exact absurd here.symm other
    · exact later
  cases first with
  | start => exact absurd later.1 (wellFormed.2.1 rfl)
  | stop => exact later
  | deviceMute => exact later
  | deviceUnmute => exact later
  | clear => exact later
  | setState state => exact later
  | setMuted muted => exact later
  | enqueue frame listener => exact later

section Advance

variable {index : Nat} {succeeds : Bool} {first : CallSection L F} {rest : List (CallSection L F)}

/-- The run without the section that is going to be performed. -/
def taken (run : TxRun L F) (index : Nat) (succeeds : Bool) (first : CallSection L F)
    (rest : List (CallSection L F)) : TxRun L F :=
  { run with calls := run.calls.set index (remaining succeeds first rest) }

theorem Invariant.wellFormed_taken (invariant : run.Invariant)
    (present : run.calls[index]? = some (first :: rest)) :
    ∀ call ∈ (run.taken index succeeds first rest).calls, WellFormed call := by
  intro call member
  rcases mem_or_eq_of_mem_set member with earlier | rfl
  · exact invariant.wellFormed call earlier
  · exact wellFormed_remaining (invariant.wellFormed _ (mem_of_getElem? present))

/-- The rest of the call is among the calls. -/
theorem remaining_mem_taken (present : run.calls[index]? = some (first :: rest)) :
    remaining succeeds first rest ∈ (run.taken index succeeds first rest).calls := by
  obtain ⟨inside, _⟩ := List.getElem?_eq_some_iff.mp present
  exact mem_iff_getElem.mpr ⟨index, by rwa [taken, length_set],
    getElem_set_self _⟩

theorem Invariant.dropping_taken (invariant : run.Invariant)
    (present : run.calls[index]? = some (first :: rest)) (other : first ≠ .clear)
    (dropping : run.Dropping) : (run.taken index succeeds first rest).Dropping := by
  obtain ⟨call, member, drops⟩ := dropping
  obtain ⟨place, inside, element⟩ := mem_iff_getElem.mp member
  by_cases same : place = index
  · subst same
    have whole : call = first :: rest := by
      rw [List.getElem?_eq_getElem inside, element] at present
      exact Option.some.inj present
    rw [whole] at drops member
    exact ⟨_, remaining_mem_taken present,
      drops_remaining (invariant.wellFormed _ member) other drops⟩
  · refine ⟨call, mem_iff_getElem.mpr ⟨place, ?_, ?_⟩, drops⟩
    · rwa [taken, length_set]
    · rw [← element]
      exact getElem_set_ne (Ne.symm same) _

/-- Nothing but the calls has changed. -/
theorem Invariant.taken (invariant : run.Invariant) (succeeds : Bool)
    (present : run.calls[index]? = some (first :: rest)) (other : first ≠ .clear) :
    (run.taken index succeeds first rest).Invariant where
  accounted := invariant.accounted
  frontPresent := invariant.frontPresent
  wellFormed := invariant.wellFormed_taken present
  alive := fun undisturbed => invariant.alive fun dropping =>
    undisturbed (invariant.dropping_taken present other dropping)

/-- The device loses its transmissions, but the jobs are going to be dropped. -/
theorem Invariant.inactive (invariant : run.Invariant)
    (present : run.calls[index]? = some (first :: rest))
    (stops : first = .stop ∨ first = .deviceMute) (started deviceMuted : Bool) :
    ({ run.taken index succeeds first rest with started, deviceMuted, pending := [] } :
      TxRun L F).Invariant where
  accounted := invariant.accounted
  frontPresent := invariant.frontPresent
  wellFormed := invariant.wellFormed_taken present
  alive := by
    intro undisturbed
    apply absurd _ undisturbed
    refine ⟨_, remaining_mem_taken present, ?_⟩
    have wellFormed := invariant.wellFormed _ (mem_of_getElem? present)
    rcases stops with rfl | rfl
    · exact wellFormed.1 (Or.inl rfl)
    · exact wellFormed.1 (Or.inr rfl)

end Advance

theorem Invariant.enqueue (invariant : run.Invariant) {frame : F} {listener : L} {succeeds : Bool}
    (active : run.jobs.txQueue = [] → run.active = true) :
    (run.enqueue frame listener succeeds).2.Invariant := by
  rw [TxRun.enqueue]
  by_cases full : TX_QUEUE_CAPACITY ≤ run.jobs.txQueue.length
  · rw [if_pos full]
    exact invariant
  rw [if_neg full]
  by_cases waiting : run.jobs.txQueue ≠ []
  · rw [if_pos waiting]
    refine ⟨invariant.accounted.accept listener frame, invariant.frontPresent,
      invariant.wellFormed, fun undisturbed job first => ?_⟩
    apply invariant.alive undisturbed job
    change (run.jobs.txQueue ++ _).head? = _ at first
    rwa [List.head?_append_of_ne_nil _ waiting] at first
  · rw [if_neg waiting]
    cases succeeds with
    | false => exact invariant
    | true =>
      have empty := not_not.mp waiting
      have isActive := active empty
      have accepting : ({ run with jobs := run.jobs.accept listener frame } : TxRun L F).active =
          true := isActive
      rw [if_pos rfl, transmit, if_pos accepting]
      refine ⟨invariant.accounted.accept listener frame, invariant.frontPresent,
        invariant.wellFormed, fun _ job first => ⟨isActive, Or.inl ?_⟩⟩
      change (run.jobs.txQueue ++ [_]).head? = _ at first
      rw [empty] at first
      cases first
      exact mem_append_right _ (mem_singleton_self _)

theorem Invariant.advance (invariant : run.Invariant) {target : TxRun L F} {index : Nat}
    {succeeds : Bool} (safe : run.Safe (.advance index succeeds))
    (performed : run.advance index succeeds = some target) : target.Invariant := by
  rw [TxRun.advance] at performed
  split at performed
  · rename_i first rest present
    cases performed
    change ((run.taken index succeeds first rest).perform succeeds first).Invariant
    cases first with
    | stop => exact invariant.inactive present (Or.inl rfl) false _
    | deviceMute => exact invariant.inactive present (Or.inr rfl) _ true
    | deviceUnmute =>
      have taken := invariant.taken succeeds present (by simp)
      refine ⟨taken.accounted, taken.frontPresent, taken.wellFormed,
        fun undisturbed job head => ?_⟩
      obtain ⟨active, follows⟩ := taken.alive undisturbed job head
      rw [TxRun.active, Bool.and_eq_true] at active
      exact ⟨Bool.and_eq_true _ _ ▸ ⟨active.1, rfl⟩, follows⟩
    | start =>
      have taken := invariant.taken succeeds present (by simp)
      cases succeeds with
      | false => exact taken
      | true =>
        exact ⟨taken.accounted, taken.frontPresent, taken.wellFormed,
          fun undisturbed job head => ⟨rfl, (taken.alive undisturbed job head).2⟩⟩
    | clear =>
      exact ⟨invariant.accounted.clear, invariant.frontPresent,
        invariant.wellFormed_taken present, fun _ => alive_of_nil rfl⟩
    | setState state =>
      have taken := invariant.taken succeeds present (by simp)
      exact ⟨taken.accounted, taken.frontPresent, taken.wellFormed, taken.alive⟩
    | setMuted muted =>
      have taken := invariant.taken succeeds present (by simp)
      exact ⟨taken.accounted, taken.frontPresent, taken.wellFormed, taken.alive⟩
    | enqueue frame listener =>
      apply (invariant.taken succeeds present (by simp)).enqueue
      exact safe _ present _ rfl rfl
  · cases performed

/-! ## Interrupts and callbacks -/

theorem Invariant.schedule (invariant : run.Invariant) (driver : TxDriver)
    (pending : List (TxJobWithCallback L F)) :
    (({ run with pending := pending } : TxRun L F).schedule driver).Invariant := by
  rw [TxRun.schedule]
  split_ifs with idle
  · exact ⟨invariant.accounted, invariant.frontPresent, invariant.wellFormed,
      fun _ => alive_of_nil idle.2⟩
  · exact ⟨invariant.accounted, invariant.frontPresent, invariant.wellFormed,
      fun undisturbed job first =>
        ⟨(invariant.alive undisturbed job first).1, Or.inr (Or.inl rfl)⟩⟩

/-- Behind the listener the callback continues if there are further jobs. -/
theorem Invariant.confirm (invariant : run.Invariant) (waiting : run.jobs.txQueue ≠ [])
    (scheduled : Bool) :
    (({ run with scheduled := scheduled } : TxRun L F).confirm).Invariant := by
  refine ⟨invariant.accounted.confirm, invariant.frontPresent, invariant.wellFormed,
    fun undisturbed job first => ?_⟩
  obtain ⟨front, rest, queue⟩ := exists_cons_of_ne_nil waiting
  have active : run.active = true := by
    apply (invariant.alive undisturbed front _).1
    rw [queue]
    rfl
  refine ⟨active, Or.inr (Or.inr (decide_eq_true ?_))⟩
  intro empty
  change run.jobs.confirm.txQueue.head? = some job at first
  rw [show run.jobs.confirm.txQueue = [] from empty] at first
  cases first

theorem Invariant.canFrameSentAsyncCallback (invariant : run.Invariant) (driver : TxDriver) :
    (({ run with scheduled := false } : TxRun L F).canFrameSentAsyncCallback driver).Invariant := by
  unfold TxRun.canFrameSentAsyncCallback
  split
  · rename_i empty
    exact ⟨invariant.accounted, invariant.frontPresent, invariant.wellFormed,
      fun _ => alive_of_nil empty⟩
  · rename_i job rest queue
    have waiting : run.jobs.txQueue ≠ [] := by
      rw [show run.jobs.txQueue = job :: rest from queue]
      exact cons_ne_nil _ _
    split_ifs with usable
    · have confirmed := invariant.confirm waiting false
      exact ⟨confirmed.accounted, confirmed.frontPresent, confirmed.wellFormed, confirmed.alive⟩
    · exact ⟨invariant.accounted.confirm.clear, invariant.frontPresent, invariant.wellFormed,
        fun _ => alive_of_nil rfl⟩
  · rename_i job rest queue
    have waiting : run.jobs.txQueue ≠ [] := by
      rw [show run.jobs.txQueue = job :: rest from queue]
      exact cons_ne_nil _ _
    split_ifs with usable
    · exact invariant.confirm waiting false
    · exact ⟨invariant.accounted.clear, invariant.frontPresent, invariant.wellFormed,
        fun _ => alive_of_nil rfl⟩

theorem Invariant.sendAgain (invariant : run.Invariant) (waiting : run.jobs.txQueue ≠ [])
    (succeeds : Bool) :
    (({ run with resuming := false } : TxRun L F).sendAgain succeeds).Invariant := by
  rw [TxRun.sendAgain]
  split
  · rename_i empty
    exact absurd empty waiting
  · rename_i job rest queue
    cases succeeds with
    | false =>
      exact ⟨invariant.accounted.clear, invariant.frontPresent, invariant.wellFormed,
        fun _ => alive_of_nil rfl⟩
    | true =>
      rw [if_pos rfl, transmit]
      split_ifs with active
      · refine ⟨invariant.accounted, invariant.frontPresent, invariant.wellFormed,
          fun _ other first => ⟨active, Or.inl ?_⟩⟩
        change run.jobs.txQueue.head? = some other at first
        rw [show run.jobs.txQueue = job :: rest from queue] at first
        cases first
        exact mem_append_right _ (mem_singleton_self _)
      · refine ⟨invariant.accounted, invariant.frontPresent, invariant.wellFormed,
          fun undisturbed other first => ?_⟩
        exact absurd (invariant.alive undisturbed other first).1 active

/-! ## Runs -/

theorem invariant_inductive (driver : TxDriver) :
    ((system driver L F).restrict Safe).Inductive Invariant where
  initial := by
    rintro _ rfl
    exact ⟨TxJobs.Accounted.initial, rfl, fun _ member => absurd member not_mem_nil,
      fun _ => alive_of_nil rfl⟩
  step := by
    rintro source event target invariant ⟨performed, safe⟩
    change source.step driver event = some target at performed
    cases event with
    | call call =>
      rw [step] at performed
      split at performed
      · rename_i sections begun
        cases performed
        exact invariant.call (wellFormed_sections begun)
      · cases performed
        exact invariant
    | advance index succeeds => exact invariant.advance safe performed
    | transmitInterrupt index =>
      rw [step] at performed
      split_ifs at performed
      cases performed
      exact invariant.schedule driver _
    | plainInterrupt =>
      rw [step] at performed
      split_ifs at performed
      cases performed
      exact invariant.schedule driver source.pending
    | canFrameSentAsyncCallback =>
      rw [step] at performed
      split_ifs at performed
      cases performed
      exact invariant.canFrameSentAsyncCallback driver
    | sendAgain succeeds =>
      rw [step] at performed
      split_ifs at performed
      cases performed
      exact invariant.sendAgain safe succeeds

/-! ## Frames that left the queue -/

theorem usedAfter_perform (succeeds : Bool) (first : CallSection L F) :
    (run.perform succeeds first).usedAfter = run.usedAfter := by
  cases first with
  | enqueue frame listener =>
    rw [perform, TxRun.enqueue]
    split_ifs
    · rfl
    · rfl
    · rw [transmit]
      split_ifs <;> rfl
    · rfl
  | start =>
    rw [perform]
    split_ifs <;> rfl
  | stop => rfl
  | deviceMute => rfl
  | deviceUnmute => rfl
  | clear => rfl
  | setState state => rfl
  | setMuted muted => rfl

theorem usedAfter_schedule (driver : TxDriver) :
    (run.schedule driver).usedAfter = run.usedAfter := by
  rw [schedule]
  split_ifs <;> rfl

/-- Only the callback uses frames that left the queue. -/
theorem usedAfter_step {event : TxEvent L F} {target : TxRun L F}
    (performed : run.step driver event = some target) (kept : FramesKept driver run event) :
    target.usedAfter = run.usedAfter := by
  cases event with
  | call call =>
    rw [step] at performed
    split at performed
    · cases performed
      rfl
    · cases performed
      rfl
  | advance index succeeds =>
    rw [step, TxRun.advance] at performed
    split at performed
    · cases performed
      exact usedAfter_perform _ _
    · cases performed
  | transmitInterrupt index =>
    rw [step] at performed
    split_ifs at performed
    cases performed
    exact usedAfter_schedule driver
  | plainInterrupt =>
    rw [step] at performed
    split_ifs at performed
    cases performed
    exact usedAfter_schedule driver
  | canFrameSentAsyncCallback =>
    rw [step] at performed
    split_ifs at performed
    cases performed
    unfold TxRun.canFrameSentAsyncCallback
    split
    · rfl
    · rename_i job rest queue
      have empty := kept rfl
      rw [show run.jobs.txQueue = job :: rest from queue] at empty
      cases empty
    · split_ifs <;> rfl
  | sendAgain succeeds =>
    rw [step] at performed
    split_ifs at performed
    cases performed
    rw [TxRun.sendAgain]
    split
    · rfl
    · rename_i job rest queue
      rcases kept with rfl | empty
      · rw [if_pos rfl, transmit]
        split_ifs <;> rfl
      · rw [show run.jobs.txQueue = job :: rest from queue] at empty
        cases empty

end TxRun

end OpenBsw.Can
