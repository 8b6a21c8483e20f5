import OpenBsw.Can.TxJobs
import OpenBsw.Transition.System

/-!
# The transmission queue of `FdCanTransceiver`

The controller has a FIFO of three frames and one completion flag for all of
them.  The transceiver transmits one job of its queue at a time, with the
interrupt of the flag enabled, and the callback that the interrupt schedules
confirms the first job of the queue and transmits the next one.
-/

namespace OpenBsw.Can

universe u v

open OpenBsw.Transition

/-- A frame in the controller, of a job or without a listener. -/
inductive TxFrame (L : Type u) (F : Type v) where
  | plain (frame : F)
  | ofJob (job : TxJobWithCallback L F)
  deriving DecidableEq

structure FdCanDevice (L : Type u) (F : Type v) where
  /-- The controller has left the init mode. -/
  running : Bool := false
  /-- The interrupt enable bit `FDCAN_IE_TCE`. -/
  tce : Bool := false
  /-- The completion flag `FDCAN_IR_TC`. -/
  tc : Bool := false
  fifo : List (TxFrame L F) := []

def TX_HW_FIFO_DEPTH : Nat := 3

namespace FdCanDevice

variable {L : Type u} {F : Type v}

/-- In the init mode the controller loses its pending frames. -/
def init (device : FdCanDevice L F) : FdCanDevice L F :=
  { device with running := false, fifo := [] }

/-- Only the receive interrupt is enabled. -/
def start (device : FdCanDevice L F) : FdCanDevice L F :=
  { device with running := true, tce := false }

def stop (device : FdCanDevice L F) : FdCanDevice L F :=
  { device with running := false, tce := false, fifo := [] }

/-- Clears the flag and enables its interrupt. -/
def arm (device : FdCanDevice L F) : FdCanDevice L F :=
  { device with tc := false, tce := true }

def isFull (device : FdCanDevice L F) : Bool :=
  decide (TX_HW_FIFO_DEPTH ≤ device.fifo.length)

/-- `transmit` without its second argument. -/
def put (device : FdCanDevice L F) (frame : TxFrame L F) : Bool × FdCanDevice L F :=
  if device.isFull then (false, device)
  else (true, { device with fifo := device.fifo ++ [frame] })

def transmit (device : FdCanDevice L F) (frame : TxFrame L F) (txInterruptNeeded : Bool) :
    Bool × FdCanDevice L F :=
  if txInterruptNeeded then device.arm.put frame else device.put frame

def transmitISR (device : FdCanDevice L F) : FdCanDevice L F :=
  { device with tce := false, tc := false }

/-- The controller has transmitted its first frame. -/
def complete (device : FdCanDevice L F) : FdCanDevice L F :=
  { device with tc := true, fifo := device.fifo.tail }

end FdCanDevice

structure FdCanTransceiver (L : Type u) (F : Type v) where
  state : TransceiverState := .CLOSED
  muted : Bool := false
  jobs : TxJobs L F := {}
  /-- The deferred callback is enqueued. -/
  scheduled : Bool := false
  device : FdCanDevice L F := {}
  /-- The frames that the controller has transmitted. -/
  sent : List (TxFrame L F) := []

namespace FdCanTransceiver

variable {L : Type u} {F : Type v}

def init (self : FdCanTransceiver L F) (initialized : Bool) : ErrorCode × FdCanTransceiver L F :=
  if self.state ≠ .CLOSED then (.CAN_ERR_ILLEGAL_STATE, self)
  else if initialized then
    (.CAN_ERR_OK, { self with state := .INITIALIZED, device := self.device.init })
  else (.CAN_ERR_INIT_FAILED, self)

/-- The end of `open`. -/
def start (self : FdCanTransceiver L F) (started : Bool) : ErrorCode × FdCanTransceiver L F :=
  if started then
    (.CAN_ERR_OK, { self with state := .OPEN, muted := false, device := self.device.start })
  else (.CAN_ERR_ILLEGAL_STATE, self)

/-- `open`, with the results of the device. -/
def openDevice (self : FdCanTransceiver L F) (initialized started : Bool) :
    ErrorCode × FdCanTransceiver L F :=
  if self.state ≠ .INITIALIZED ∧ self.state ≠ .CLOSED then (.CAN_ERR_ILLEGAL_STATE, self)
  else if self.state = .CLOSED then
    if initialized then { self with device := self.device.init }.start started
    else (.CAN_ERR_INIT_FAILED, self)
  else self.start started

def close (self : FdCanTransceiver L F) : ErrorCode × FdCanTransceiver L F :=
  if self.state = .CLOSED then (.CAN_ERR_OK, self)
  else (.CAN_ERR_OK, { self with state := .CLOSED, device := self.device.stop })

def mute (self : FdCanTransceiver L F) : ErrorCode × FdCanTransceiver L F :=
  if self.state ≠ .OPEN then (.CAN_ERR_ILLEGAL_STATE, self)
  else (.CAN_ERR_OK, { self with muted := true, state := .MUTED })

def unmute (self : FdCanTransceiver L F) : ErrorCode × FdCanTransceiver L F :=
  if self.state ≠ .MUTED then (.CAN_ERR_ILLEGAL_STATE, self)
  else (.CAN_ERR_OK, { self with muted := false, state := .OPEN })

/-- The check at the start of both kinds of `write`. -/
def isOffline (self : FdCanTransceiver L F) : Bool :=
  decide (self.state ≠ .OPEN) || self.muted

def write (self : FdCanTransceiver L F) (frame : F) : ErrorCode × FdCanTransceiver L F :=
  if self.isOffline then (.CAN_ERR_TX_OFFLINE, self)
  else
    match self.device.transmit (.plain frame) false with
    | (false, device) => (.CAN_ERR_TX_HW_QUEUE_FULL, { self with device := device })
    | (true, device) => (.CAN_ERR_OK, { self with device := device })

/-- `write` with a listener. -/
def writeListener (self : FdCanTransceiver L F) (frame : F) (listener : L) :
    ErrorCode × FdCanTransceiver L F :=
  if self.isOffline then (.CAN_ERR_TX_OFFLINE, self)
  else if TX_HW_FIFO_DEPTH ≤ self.jobs.txQueue.length then (.CAN_ERR_TX_HW_QUEUE_FULL, self)
  else if self.jobs.txQueue ≠ [] then
    (.CAN_ERR_OK, { self with jobs := self.jobs.accept listener frame })
  else
    match self.device.transmit (.ofJob (self.jobs.newJob listener frame)) true with
    | (false, device) => (.CAN_ERR_TX_HW_QUEUE_FULL, { self with device := device })
    | (true, device) =>
      (.CAN_ERR_OK, { self with jobs := self.jobs.accept listener frame, device := device })

/-- The interrupt handler reads the flag, whether its interrupt is enabled or not. -/
def transmitInterrupt (self : FdCanTransceiver L F) : FdCanTransceiver L F :=
  { self with device := self.device.transmitISR, scheduled := true }

/-- The transmission of the next job, when there is one. -/
def sendAgain (self : FdCanTransceiver L F) : FdCanTransceiver L F :=
  match self.jobs.txQueue with
  | [] => self
  | job :: _ =>
    match self.device.transmit (.ofJob job) true with
    | (false, device) => { self with jobs := self.jobs.clear, device := device }
    | (true, device) => { self with device := device }

def canFrameSentAsyncCallback (self : FdCanTransceiver L F) : FdCanTransceiver L F :=
  if self.jobs.txQueue = [] then self
  else if self.state = .OPEN ∨ self.state = .INITIALIZED then
    { self with jobs := self.jobs.confirm }.sendAgain
  else { self with jobs := self.jobs.confirm.clear }

def cyclicTask (self : FdCanTransceiver L F) (isBusOff : Bool) : FdCanTransceiver L F :=
  if isBusOff then
    if self.state = .OPEN then { self with state := .MUTED } else self
  else if self.state = .MUTED ∧ self.muted = false then { self with state := .OPEN }
  else self

def pollTxCallback (self : FdCanTransceiver L F) : FdCanTransceiver L F :=
  if self.jobs.txQueue = [] then self else self.canFrameSentAsyncCallback

/-- The controller has transmitted its first frame. -/
def transmitted (self : FdCanTransceiver L F) : FdCanTransceiver L F :=
  { self with device := self.device.complete, sent := self.sent ++ self.device.fifo.take 1 }

end FdCanTransceiver

inductive FdCanEvent (L : Type u) (F : Type v) where
  | init (initialized : Bool)
  | openDevice (initialized started : Bool)
  | close
  | mute
  | unmute
  | write (frame : F)
  | writeListener (frame : F) (listener : L)
  /-- The controller transmits a frame. -/
  | transmitted
  | transmitInterrupt
  /-- The deferred callback. -/
  | canFrameSentAsyncCallback
  | pollTxCallback
  | cyclicTask (isBusOff : Bool)

namespace FdCanTransceiver

variable {L : Type u} {F : Type v}

def perform (self : FdCanTransceiver L F) : FdCanEvent L F → Option (FdCanTransceiver L F)
  | .init initialized => some (self.init initialized).2
  | .openDevice initialized started => some (self.openDevice initialized started).2
  | .close => some self.close.2
  | .mute => some self.mute.2
  | .unmute => some self.unmute.2
  | .write frame => some (self.write frame).2
  | .writeListener frame listener => some (self.writeListener frame listener).2
  | .transmitted =>
    if self.device.running ∧ self.device.fifo ≠ [] then some self.transmitted else none
  | .transmitInterrupt => if self.device.tc then some self.transmitInterrupt else none
  | .canFrameSentAsyncCallback =>
    if self.scheduled then some { self with scheduled := false }.canFrameSentAsyncCallback
    else none
  | .pollTxCallback => some self.pollTxCallback
  | .cyclicTask isBusOff => some (self.cyclicTask isBusOff)

def system (L : Type u) (F : Type v) : System (FdCanTransceiver L F) (FdCanEvent L F) where
  Initial self := self = {}
  Step source event target := source.perform event = some target

/-- The frame of the job is in the controller with the interrupt enabled, or it was sent and the
interrupt is pending or the callback scheduled. -/
def UnderWay (self : FdCanTransceiver L F) (job : TxJobWithCallback L F) : Prop :=
  (.ofJob job ∈ self.device.fifo ∧ self.device.tce = true) ∨
    (.ofJob job ∈ self.sent ∧
      ((self.device.tc = true ∧ self.device.tce = true) ∨ self.scheduled = true))

structure Correct (run : FdCanTransceiver L F) : Prop where
  /-- The listeners are called in the order of the jobs and with their frames. -/
  ordered : run.jobs.confirmed.Sublist run.jobs.accepted
  /-- No two accepted jobs are the same, and so none is confirmed twice. -/
  different : run.jobs.accepted.Nodup
  sentFirst : ∀ job ∈ run.jobs.confirmed, .ofJob job ∈ run.sent
  advancing : run.state = .OPEN → ∀ job, run.jobs.txQueue.head? = some job → run.UnderWay job

/-! ## When it goes right -/

/-- The callback transmits a further job. -/
def Resends (self : FdCanTransceiver L F) : Prop :=
  2 ≤ self.jobs.txQueue.length ∧ (self.state = .OPEN ∨ self.state = .INITIALIZED)

/-- A job is handed to the controller only when no other frame waits there. -/
def Alone (self : FdCanTransceiver L F) : Prop :=
  self.device.isFull = false → self.device.fifo = []

/-- What each step relies on. -/
def Safe (self : FdCanTransceiver L F) : FdCanEvent L F → Prop
  | .writeListener _ _ =>
    self.isOffline = false → self.jobs.txQueue = [] → self.device.isFull = false →
      self.device.fifo = [] ∧ self.scheduled = false
  | .canFrameSentAsyncCallback => self.Resends → self.Alone
  | .pollTxCallback =>
    ∀ job ∈ self.jobs.txQueue.head?,
      .ofJob job ∈ self.sent ∧ (self.Resends → self.Alone ∧ self.scheduled = false)
  | .openDevice initialized started =>
    (self.openDevice initialized started).1 = .CAN_ERR_OK → self.jobs.txQueue ≠ [] →
      self.scheduled = true
  | _ => True

/-! ## The invariant -/

/-- Where the first job of the queue is. -/
def Tracked (self : FdCanTransceiver L F) (job : TxJobWithCallback L F) : Prop :=
  -- It is the next frame that the controller transmits.
  (self.device.running = true ∧ self.device.fifo.head? = some (.ofJob job) ∧
      self.device.tce = true ∧ self.device.tc = false ∧ self.scheduled = false) ∨
    -- It was lost when the controller was stopped.
    (self.device.running = false ∧ self.device.tc = false ∧ self.scheduled = false) ∨
    -- It was sent, and the callback follows unless the controller was stopped.
    (.ofJob job ∈ self.sent ∧ (self.device.running = true →
      (self.device.tc = true ∧ self.device.tce = true) ∨ self.scheduled = true))

/-- What the callback leaves behind before it transmits the next job. -/
structure Sound (run : FdCanTransceiver L F) : Prop where
  accounted : run.jobs.Accounted
  sentFirst : ∀ job ∈ run.jobs.confirmed, .ofJob job ∈ run.sent
  running : run.device.running = true ↔ run.state = .OPEN ∨ run.state = .MUTED

structure Invariant (run : FdCanTransceiver L F) : Prop extends Sound run where
  tracked : ∀ job, run.jobs.txQueue.head? = some job → run.Tracked job

variable {self : FdCanTransceiver L F}

theorem Invariant.correct (invariant : self.Invariant) : self.Correct where
  ordered := invariant.accounted.confirmed_sublist
  different := invariant.accounted.nodup
  sentFirst := invariant.sentFirst
  advancing := by
    intro isOpen job first
    have running := invariant.running.mpr (Or.inl isOpen)
    rcases invariant.tracked job first with waiting | lost | sent
    · exact Or.inl ⟨List.mem_of_mem_head? waiting.2.1, waiting.2.2.1⟩
    · rw [lost.1] at running
      exact absurd running Bool.false_ne_true
    · exact Or.inr ⟨sent.1, sent.2 running⟩

/-- When the callback is scheduled or the flag set, the first job was sent. -/
theorem Tracked.sent {job : TxJobWithCallback L F} (tracked : self.Tracked job)
    (raised : self.device.tc = true ∨ self.scheduled = true) : .ofJob job ∈ self.sent := by
  rcases tracked with waiting | lost | sent
  · rw [waiting.2.2.2.1, waiting.2.2.2.2] at raised
    rcases raised with raised | raised <;> cases raised
  · rw [lost.2.1, lost.2.2] at raised
    rcases raised with raised | raised <;> cases raised
  · exact sent.1

theorem put_of_isFull {device : FdCanDevice L F} {frame : TxFrame L F}
    (full : device.isFull = true) : device.put frame = (false, device) := by
  rw [FdCanDevice.put, if_pos full]

theorem put_of_not_isFull {device : FdCanDevice L F} {frame : TxFrame L F}
    (room : device.isFull = false) :
    device.put frame = (true, { device with fifo := device.fifo ++ [frame] }) := by
  rw [FdCanDevice.put, if_neg (Bool.eq_false_iff.mp room)]

/-! ## The operations on the controller -/

theorem Invariant.init (invariant : self.Invariant) (initialized : Bool) :
    (self.init initialized).2.Invariant := by
  rw [FdCanTransceiver.init]
  by_cases closed : self.state = .CLOSED
  · rw [if_neg (not_not_intro closed)]
    cases initialized with
    | false => exact invariant
    | true =>
      have stopped : self.device.running = false := by
        rw [← Bool.not_eq_true, invariant.running, closed]
        rintro (isOpen | isMuted)
        · cases isOpen
        · cases isMuted
      refine ⟨⟨?_, ?_, ?_⟩, ?_⟩
      · exact invariant.accounted
      · exact invariant.sentFirst
      · constructor
        · intro isRunning
          cases isRunning
        · rintro (isOpen | isMuted)
          · cases isOpen
          · cases isMuted
      · intro job first
        rcases invariant.tracked job first with waiting | lost | sent
        · rw [stopped] at waiting
          exact absurd waiting.1 Bool.false_ne_true
        · exact Or.inr (Or.inl ⟨rfl, lost.2⟩)
        · exact Or.inr (Or.inr ⟨sent.1, fun isRunning => absurd isRunning Bool.false_ne_true⟩)
  · rw [if_pos closed]
    exact invariant

theorem Invariant.start (invariant : self.Invariant) {started : Bool}
    (scheduled : started = true → self.jobs.txQueue ≠ [] → self.scheduled = true) :
    (self.start started).2.Invariant := by
  cases started with
  | false => exact invariant
  | true =>
    refine ⟨⟨invariant.accounted, invariant.sentFirst, ?_⟩, ?_⟩
    · exact ⟨fun _ => Or.inl rfl, fun _ => rfl⟩
    · intro job first
      have isScheduled := scheduled rfl (by
        intro empty
        change self.jobs.txQueue.head? = some job at first
        rw [empty] at first
        cases first)
      have sent := (invariant.tracked job first).sent (Or.inr isScheduled)
      exact Or.inr (Or.inr ⟨sent, fun _ => Or.inr isScheduled⟩)

/-- The device is initialized again before it is started. -/
theorem Invariant.initialized (invariant : self.Invariant) (closed : self.state = .CLOSED) :
    ({ self with device := self.device.init } : FdCanTransceiver L F).Invariant := by
  have initialized := invariant.init true
  rw [FdCanTransceiver.init, if_neg (not_not_intro closed)] at initialized
  refine ⟨⟨?_, ?_, ?_⟩, ?_⟩
  · exact invariant.accounted
  · exact invariant.sentFirst
  · change false = true ↔ self.state = .OPEN ∨ self.state = .MUTED
    rw [closed]
    simp
  · exact initialized.tracked

theorem Invariant.openDevice (invariant : self.Invariant) {initialized started : Bool}
    (safe : self.Safe (.openDevice initialized started)) :
    (self.openDevice initialized started).2.Invariant := by
  rw [Safe, FdCanTransceiver.openDevice] at safe
  rw [FdCanTransceiver.openDevice]
  by_cases illegal : self.state ≠ .INITIALIZED ∧ self.state ≠ .CLOSED
  · rw [if_pos illegal]
    exact invariant
  rw [if_neg illegal] at safe ⊢
  by_cases closed : self.state = .CLOSED
  · rw [if_pos closed] at safe ⊢
    cases initialized with
    | false => exact invariant
    | true =>
      apply (invariant.initialized closed).start
      rintro rfl
      exact safe rfl
  · rw [if_neg closed] at safe ⊢
    apply invariant.start
    rintro rfl
    exact safe rfl

theorem Invariant.close (invariant : self.Invariant) : self.close.2.Invariant := by
  rw [FdCanTransceiver.close]
  by_cases closed : self.state = .CLOSED
  · rw [if_pos closed]
    exact invariant
  · rw [if_neg closed]
    refine ⟨⟨?_, ?_, ?_⟩, ?_⟩
    · exact invariant.accounted
    · exact invariant.sentFirst
    · constructor
      · intro isRunning
        cases isRunning
      · rintro (isOpen | isMuted)
        · cases isOpen
        · cases isMuted
    · intro job first
      rcases invariant.tracked job first with waiting | lost | sent
      · exact Or.inr (Or.inl ⟨rfl, waiting.2.2.2⟩)
      · exact Or.inr (Or.inl ⟨rfl, lost.2⟩)
      · exact Or.inr (Or.inr ⟨sent.1, fun isRunning => absurd isRunning Bool.false_ne_true⟩)

/-- Nothing is lost between `OPEN` and `MUTED`. -/
theorem Invariant.toggle (invariant : self.Invariant) {state : TransceiverState} {muted : Bool}
    (running : self.state = .OPEN ∨ self.state = .MUTED) (stays : state = .OPEN ∨ state = .MUTED) :
    ({ self with state := state, muted := muted } : FdCanTransceiver L F).Invariant where
  accounted := invariant.accounted
  sentFirst := invariant.sentFirst
  running := ⟨fun _ => stays, fun _ => invariant.running.mpr running⟩
  tracked := invariant.tracked

theorem Invariant.mute (invariant : self.Invariant) : self.mute.2.Invariant := by
  rw [FdCanTransceiver.mute]
  by_cases isOpen : self.state = .OPEN
  · rw [if_neg (not_not_intro isOpen)]
    exact invariant.toggle (Or.inl isOpen) (Or.inr rfl)
  · rw [if_pos isOpen]
    exact invariant

theorem Invariant.unmute (invariant : self.Invariant) : self.unmute.2.Invariant := by
  rw [FdCanTransceiver.unmute]
  by_cases isMuted : self.state = .MUTED
  · rw [if_neg (not_not_intro isMuted)]
    exact invariant.toggle (Or.inr isMuted) (Or.inl rfl)
  · rw [if_pos isMuted]
    exact invariant

theorem Invariant.cyclicTask (invariant : self.Invariant) (isBusOff : Bool) :
    (self.cyclicTask isBusOff).Invariant := by
  rw [FdCanTransceiver.cyclicTask]
  cases isBusOff with
  | true =>
    by_cases isOpen : self.state = .OPEN
    · rw [if_pos rfl, if_pos isOpen]
      exact invariant.toggle (Or.inl isOpen) (Or.inr rfl)
    · rw [if_pos rfl, if_neg isOpen]
      exact invariant
  | false =>
    by_cases isMuted : self.state = .MUTED ∧ self.muted = false
    · rw [if_neg Bool.false_ne_true, if_pos isMuted]
      exact invariant.toggle (Or.inr isMuted.1) (Or.inl rfl)
    · rw [if_neg Bool.false_ne_true, if_neg isMuted]
      exact invariant

/-! ## Transmissions -/

theorem Invariant.write (invariant : self.Invariant) (frame : F) :
    (self.write frame).2.Invariant := by
  rw [FdCanTransceiver.write]
  by_cases offline : self.isOffline = true
  · rw [if_pos offline]
    exact invariant
  · rw [if_neg offline, FdCanDevice.transmit, if_neg Bool.false_ne_true]
    cases full : self.device.isFull with
    | true =>
      rw [put_of_isFull full]
      exact invariant
    | false =>
      rw [put_of_not_isFull full]
      refine ⟨⟨?_, ?_, ?_⟩, ?_⟩
      · exact invariant.accounted
      · exact invariant.sentFirst
      · exact invariant.running
      · intro job first
        rcases invariant.tracked job first with waiting | lost | sent
        · obtain ⟨running, next, armed⟩ := waiting
          refine Or.inl ⟨running, ?_, armed⟩
          obtain ⟨rest, fifo⟩ := List.head?_eq_some_iff.mp next
          change (self.device.fifo ++ _).head? = _
          rw [fifo]
          rfl
        · exact Or.inr (Or.inl lost)
        · exact Or.inr (Or.inr sent)

/-- The state after a job was handed to the controller, which has no other frame. -/
theorem Tracked.handed {job : TxJobWithCallback L F} (empty : self.device.fifo = [])
    (unscheduled : self.scheduled = false) (jobs : TxJobs L F) :
    Tracked { self with
      jobs := jobs
      device := { self.device.arm with fifo := self.device.arm.fifo ++ [.ofJob job] } } job := by
  cases running : self.device.running with
  | true =>
    refine Or.inl ⟨running, ?_, rfl, rfl, unscheduled⟩
    change (self.device.fifo ++ _).head? = _
    rw [empty]
    rfl
  | false => exact Or.inr (Or.inl ⟨running, rfl, unscheduled⟩)

theorem Invariant.writeListener (invariant : self.Invariant) {frame : F} {listener : L}
    (safe : self.Safe (.writeListener frame listener)) :
    (self.writeListener frame listener).2.Invariant := by
  rw [FdCanTransceiver.writeListener]
  by_cases offline : self.isOffline = true
  · rw [if_pos offline]
    exact invariant
  rw [if_neg offline]
  by_cases full : TX_HW_FIFO_DEPTH ≤ self.jobs.txQueue.length
  · rw [if_pos full]
    exact invariant
  rw [if_neg full]
  by_cases waiting : self.jobs.txQueue ≠ []
  · rw [if_pos waiting]
    refine ⟨⟨?_, ?_, ?_⟩, ?_⟩
    · exact invariant.accounted.accept listener frame
    · exact invariant.sentFirst
    · exact invariant.running
    · intro job first
      apply invariant.tracked job
      change (self.jobs.txQueue ++ _).head? = _ at first
      rwa [List.head?_append_of_ne_nil _ waiting] at first
  · rw [if_neg waiting, FdCanDevice.transmit, if_pos rfl]
    have empty : self.jobs.txQueue = [] := not_not.mp waiting
    cases room : self.device.isFull with
    | true =>
      rw [put_of_isFull (show self.device.arm.isFull = true from room)]
      refine ⟨⟨?_, ?_, ?_⟩, ?_⟩
      · exact invariant.accounted
      · exact invariant.sentFirst
      · exact invariant.running
      · intro job first
        change self.jobs.txQueue.head? = _ at first
        rw [empty] at first
        cases first
    | false =>
      rw [put_of_not_isFull (show self.device.arm.isFull = false from room)]
      obtain ⟨idle, unscheduled⟩ := safe (Bool.eq_false_iff.mpr offline) empty room
      refine ⟨⟨?_, ?_, ?_⟩, ?_⟩
      · exact invariant.accounted.accept listener frame
      · exact invariant.sentFirst
      · exact invariant.running
      · intro job first
        change (self.jobs.txQueue ++ [_]).head? = _ at first
        rw [empty] at first
        cases first
        exact Tracked.handed idle unscheduled _

theorem Invariant.transmitted (invariant : self.Invariant) (running : self.device.running = true)
    : self.transmitted.Invariant := by
  have kept : ∀ {frame}, frame ∈ self.sent → frame ∈ self.transmitted.sent := fun member =>
    List.mem_append_left _ member
  refine ⟨⟨?_, ?_, ?_⟩, ?_⟩
  · exact invariant.accounted
  · exact fun job member => kept (invariant.sentFirst job member)
  · exact invariant.running
  · intro job first
    rcases invariant.tracked job first with waiting | lost | sent
    · obtain ⟨_, next, armed, _⟩ := waiting
      refine Or.inr (Or.inr ⟨?_, fun _ => Or.inl ⟨rfl, armed⟩⟩)
      obtain ⟨rest, fifo⟩ := List.head?_eq_some_iff.mp next
      apply List.mem_append_right
      rw [fifo]
      exact List.mem_singleton_self _
    · rw [lost.1] at running
      exact absurd running Bool.false_ne_true
    · refine Or.inr (Or.inr ⟨kept sent.1, fun isRunning => ?_⟩)
      rcases sent.2 isRunning with pending | scheduled
      · exact Or.inl ⟨rfl, pending.2⟩
      · exact Or.inr scheduled

theorem Invariant.transmitInterrupt (invariant : self.Invariant) (raised : self.device.tc = true) :
    self.transmitInterrupt.Invariant where
  accounted := invariant.accounted
  sentFirst := invariant.sentFirst
  running := invariant.running
  tracked := fun job first =>
    Or.inr (Or.inr ⟨(invariant.tracked job first).sent (Or.inl raised), fun _ => Or.inr rfl⟩)

/-! ## The callback -/

/-- A sound state without waiting jobs. -/
theorem Sound.idle (sound : self.Sound) (empty : self.jobs.txQueue = []) : self.Invariant where
  toSound := sound
  tracked := by
    intro job first
    rw [empty] at first
    cases first

/-- The callback confirms a job that was sent, and hands the next one to the controller. -/
theorem Sound.callback (sound : self.Sound)
    (sent : ∀ job, self.jobs.txQueue.head? = some job → .ofJob job ∈ self.sent)
    (alone : self.Resends → self.Alone ∧ self.scheduled = false) :
    self.canFrameSentAsyncCallback.Invariant := by
  rw [FdCanTransceiver.canFrameSentAsyncCallback]
  by_cases empty : self.jobs.txQueue = []
  · rw [if_pos empty]
    exact sound.idle empty
  rw [if_neg empty]
  obtain ⟨job, rest, queue⟩ := List.exists_cons_of_ne_nil empty
  have confirmed : self.jobs.confirm.confirmed = self.jobs.confirmed ++ [job] := by
    rw [TxJobs.confirm, queue]
    rfl
  have remaining : self.jobs.confirm.txQueue = rest := by
    rw [TxJobs.confirm, queue]
    rfl
  have sentFirst : ∀ other ∈ self.jobs.confirm.confirmed, .ofJob other ∈ self.sent := by
    intro other member
    rw [confirmed] at member
    rcases List.mem_append.mp member with earlier | here
    · exact sound.sentFirst other earlier
    · rw [List.mem_singleton.mp here]
      apply sent
      rw [queue]
      rfl
  have popped : ({ self with jobs := self.jobs.confirm } : FdCanTransceiver L F).Sound :=
    ⟨sound.accounted.confirm, sentFirst, sound.running⟩
  by_cases active : self.state = .OPEN ∨ self.state = .INITIALIZED
  · rw [if_pos active, FdCanTransceiver.sendAgain]
    change FdCanTransceiver.Invariant (match self.jobs.confirm.txQueue with
      | [] => _
      | job :: _ => _)
    rw [remaining]
    cases rest with
    | nil => exact popped.idle remaining
    | cons next rest =>
      have resends : self.Resends := by
        refine ⟨?_, active⟩
        rw [queue]
        exact Nat.le_add_left 2 _
      obtain ⟨isAlone, unscheduled⟩ := alone resends
      simp only [FdCanDevice.transmit, if_true]
      cases room : self.device.isFull with
      | true =>
        rw [put_of_isFull (show self.device.arm.isFull = true from room)]
        apply Sound.idle _ rfl
        exact ⟨popped.accounted.clear, sentFirst, sound.running⟩
      | false =>
        rw [put_of_not_isFull (show self.device.arm.isFull = false from room)]
        refine ⟨⟨popped.accounted, sentFirst, sound.running⟩, fun other first => ?_⟩
        change self.jobs.confirm.txQueue.head? = _ at first
        rw [remaining] at first
        cases first
        exact Tracked.handed (isAlone room) unscheduled _
  · rw [if_neg active]
    apply Sound.idle _ rfl
    exact ⟨popped.accounted.clear, sentFirst, sound.running⟩

theorem Invariant.canFrameSentAsyncCallback (invariant : self.Invariant)
    (scheduled : self.scheduled = true) (safe : self.Safe .canFrameSentAsyncCallback) :
    ({ self with scheduled := false } : FdCanTransceiver L F).canFrameSentAsyncCallback.Invariant
    := by
  apply Sound.callback
  · exact ⟨invariant.accounted, invariant.sentFirst, invariant.running⟩
  · exact fun job first => (invariant.tracked job first).sent (Or.inr scheduled)
  · exact fun resends => ⟨safe resends, rfl⟩

theorem Invariant.pollTxCallback (invariant : self.Invariant) (safe : self.Safe .pollTxCallback) :
    self.pollTxCallback.Invariant := by
  rw [FdCanTransceiver.pollTxCallback]
  by_cases empty : self.jobs.txQueue = []
  · rw [if_pos empty]
    exact invariant
  · rw [if_neg empty]
    obtain ⟨job, rest, queue⟩ := List.exists_cons_of_ne_nil empty
    have first : self.jobs.txQueue.head? = some job := by
      rw [queue]
      rfl
    exact invariant.toSound.callback (fun other same => (safe other same).1) (safe job first).2

/-! ## Runs -/

theorem invariant_inductive : ((system L F).restrict Safe).Inductive Invariant where
  initial := by
    rintro _ rfl
    apply Sound.idle _ rfl
    constructor
    · exact TxJobs.Accounted.initial
    · exact fun job member => absurd member List.not_mem_nil
    · change false = true ↔ TransceiverState.CLOSED = _ ∨ TransceiverState.CLOSED = _
      simp
  step := by
    rintro source event target invariant ⟨performed, safe⟩
    change source.perform event = some target at performed
    cases event with
    | transmitted =>
      rw [perform] at performed
      split_ifs at performed with possible
      cases performed
      exact invariant.transmitted possible.1
    | transmitInterrupt =>
      rw [perform] at performed
      split_ifs at performed with raised
      cases performed
      exact invariant.transmitInterrupt raised
    | canFrameSentAsyncCallback =>
      rw [perform] at performed
      split_ifs at performed with scheduled
      cases performed
      exact invariant.canFrameSentAsyncCallback scheduled safe
    | init initialized =>
      cases performed
      exact invariant.init initialized
    | openDevice initialized started =>
      cases performed
      exact invariant.openDevice safe
    | close =>
      cases performed
      exact invariant.close
    | mute =>
      cases performed
      exact invariant.mute
    | unmute =>
      cases performed
      exact invariant.unmute
    | write frame =>
      cases performed
      exact invariant.write frame
    | writeListener frame listener =>
      cases performed
      exact invariant.writeListener safe
    | pollTxCallback =>
      cases performed
      exact invariant.pollTxCallback safe
    | cyclicTask isBusOff =>
      cases performed
      exact invariant.cyclicTask isBusOff

/-- In runs of safe steps the jobs are confirmed in order and only after their transmission, and
the first job is always under way. -/
theorem confirm_exact (reached : ((system L F).restrict Safe).Reachable self) : self.Correct :=
  (invariant_inductive.of_reachable reached).correct

instance [DecidableEq L] [DecidableEq F] (self : FdCanTransceiver L F) :
    (event : FdCanEvent L F) → Decidable (self.Safe event)
  | .writeListener _ _ => inferInstanceAs (Decidable (_ → _ → _ → _ ∧ _))
  | .canFrameSentAsyncCallback => inferInstanceAs (Decidable (_ ∧ _ → (_ → _)))
  | .pollTxCallback => inferInstanceAs (Decidable (∀ job ∈ _, _ ∧ (_ ∧ _ → (_ → _) ∧ _)))
  | .openDevice _ _ => inferInstanceAs (Decidable (_ → _ → _))
  | .init _ | .close | .mute | .unmute | .write _ | .transmitted | .transmitInterrupt
  | .cyclicTask _ => inferInstanceAs (Decidable True)

/-- Two jobs are transmitted one after the other, also across a mute, and a third one after a
close and an open. -/
theorem confirm_exact_sample :
    ∃ run : FdCanTransceiver Nat Nat, System.play (System.performIf perform Safe) {}
        [.openDevice true true, .writeListener 10 1, .writeListener 20 2, .transmitted, .mute,
          .transmitInterrupt, .unmute, .canFrameSentAsyncCallback, .transmitted,
          .transmitInterrupt, .canFrameSentAsyncCallback, .pollTxCallback, .close,
          .openDevice true true, .writeListener 30 3] = some run ∧
      run.jobs.confirmed = [⟨0, 1, 10⟩, ⟨1, 2, 20⟩] ∧ run.Correct := by
  have played : System.play (System.performIf perform Safe) ({} : FdCanTransceiver Nat Nat)
      [.openDevice true true, .writeListener 10 1, .writeListener 20 2, .transmitted, .mute,
        .transmitInterrupt, .unmute, .canFrameSentAsyncCallback, .transmitted,
        .transmitInterrupt, .canFrameSentAsyncCallback, .pollTxCallback, .close,
        .openDevice true true, .writeListener 30 3] = some _ := rfl
  exact ⟨_, played, rfl, confirm_exact
    (System.Reachable.play_performIf id (.initial rfl) played)⟩

/-- A frame without a listener completes first, and the listener of the frame behind it is
called; and a job that waits while the transceiver is closed and opened is never transmitted. -/
theorem not_confirm_exact :
    ¬ (∀ run : FdCanTransceiver Nat Nat, (system Nat Nat).Reachable run →
        ∀ job ∈ run.jobs.confirmed, .ofJob job ∈ run.sent) ∧
      ¬ (∀ run : FdCanTransceiver Nat Nat, (system Nat Nat).Reachable run →
        run.state = .OPEN → ∀ job ∈ run.jobs.txQueue.head?, run.UnderWay job) := by
  constructor
  · intro sentFirst
    have played : System.play perform ({} : FdCanTransceiver Nat Nat)
        [.openDevice true true, .write 5, .writeListener 10 1, .transmitted, .transmitInterrupt,
          .canFrameSentAsyncCallback] = some _ := rfl
    have early := sentFirst _ (System.Reachable.play id (.initial rfl) played) ⟨0, 1, 10⟩
    revert early
    decide
  · intro advancing
    have played : System.play perform ({} : FdCanTransceiver Nat Nat)
        [.openDevice true true, .writeListener 10 1, .close, .openDevice true true] = some _ := rfl
    have stuck := advancing _ (System.Reachable.play id (.initial rfl) played) rfl ⟨0, 1, 10⟩ rfl
    rcases stuck with ⟨_, disabled⟩ | ⟨_, ⟨_, disabled⟩ | unscheduled⟩
    · cases disabled
    · cases disabled
    · cases unscheduled

end FdCanTransceiver

end OpenBsw.Can
