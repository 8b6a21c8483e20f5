import OpenBsw.Async.Queue
import OpenBsw.Timer.Core
import OpenBsw.Transition.System

/-!
# Task context

A task context runs runnables in one task.  Other tasks, interrupts and the
runnables themselves enqueue runnables, schedule and cancel timeouts; the
dispatch loop of the task waits for events, drains the queue and processes the
timer.  A step is one locked section, one setting or one waiting for events, or
one access outside of the locks, and the steps of all parties interleave.
-/

namespace OpenBsw.Async

/-- The events of a task: to run enqueued runnables, to process the timer, and
to stop dispatching. -/
inductive Event
  | execute
  | timer
  | stop
  deriving DecidableEq, Repr

/-- An event mask, by the events whose bits are set. -/
abbrev EventMask := Finset Event

/-- `TICK_IN_US` and `WAIT_EVENTS_TICK_COUNT`. -/
structure Config where
  tickInUs : UInt32
  waitEventsTickCount : UInt32
  tick_pos : 0 < tickInUs.toNat
  tick_le : tickInUs.toNat ≤ 2 ^ 31

structure TimeoutType (Runnable : Type) where
  runnable : Option Runnable
  time : UInt32
  cycleTime : UInt32

/-- The arguments of `addTimeout`.  The time was read at `now`; the deadline is
`absoluteTimeout` without the wrap. -/
structure Addition (Timeout : Type) where
  timeout : Timeout
  absoluteTimeout : UInt32
  cycleTime : UInt32
  now : Nat
  deadline : Nat
  deriving DecidableEq

/-- What the parties share.  The time in microseconds is counted without a
wrap. The runnables in the order of their successful enqueues, those executed
by the executor, those executed by timeouts, and the deadlines of the timeouts
without the wrap are kept for the statements only. -/
structure Shared (Runnable Timeout : Type) where
  queue : Queue Runnable
  timeouts : Timeout → TimeoutType Runnable
  timeoutList : List Timeout
  events : EventMask
  clock : Nat
  accepted : List Runnable
  executed : List Runnable
  expired : List Runnable
  deadline : Timeout → Nat

namespace Shared

variable {Runnable Timeout : Type} (shared : Shared Runnable Timeout)

def getSystemTimeUs32Bit : UInt32 :=
  UInt32.ofNat shared.clock

/-- The timer with the times its timeouts have. -/
def timer : Timer Timeout where
  timeoutList := shared.timeoutList.map fun id =>
    { id, time := (shared.timeouts id).time, cycleTime := (shared.timeouts id).cycleTime }

variable [DecidableEq Timeout]

def setRunnable (timeout : Timeout) (runnable : Runnable) : Shared Runnable Timeout :=
  { shared with
    timeouts := Function.update shared.timeouts timeout
      { shared.timeouts timeout with runnable := some runnable } }

/-- `addTimeout` sets the times before it takes the lock. -/
def setTimes (addition : Addition Timeout) : Shared Runnable Timeout :=
  { shared with
    timeouts := Function.update shared.timeouts addition.timeout
      { shared.timeouts addition.timeout with
        time := addition.absoluteTimeout, cycleTime := addition.cycleTime }
    deadline := Function.update shared.deadline addition.timeout addition.deadline }

/-- The locked section of `addTimeout`.  The list library asserts that the
timeout is not linked; a failed assertion resets the ECU. -/
def insertTimeout (addition : Addition Timeout) : Option (Shared Runnable Timeout × Bool) :=
  if addition.timeout ∈ shared.timeoutList then none
  else
    let timeoutList := (Timer.insertTimeout (UInt32.ofNat addition.now)
      { id := addition.timeout
        time := (shared.timeouts addition.timeout).time
        cycleTime := (shared.timeouts addition.timeout).cycleTime }
      shared.timer.timeoutList).map fun entry => entry.id
    some ({ shared with timeoutList }, timeoutList.head? = some addition.timeout)

/-- The locked section of `cancel`. -/
def eraseTimeout (timeout : Timeout) : Shared Runnable Timeout :=
  { shared with timeoutList := shared.timeoutList.erase timeout }

variable [DecidableEq Runnable]

/-- The locked section of `RunnableExecutor::enqueue`. -/
def enqueue (runnable : Runnable) : Shared Runnable Timeout :=
  if shared.queue.isEnqueued runnable then shared
  else { shared with queue := shared.queue.enqueue runnable }

end Shared

/-! ## Calls from other contexts -/

/-- What a caller asks for.  The units of a delay and of a period are given in
microseconds. -/
inductive Request (Runnable Timeout : Type)
  | execute (runnable : Runnable)
  | schedule (runnable : Runnable) (timeout : Timeout) (delay unit : UInt32)
  | scheduleAtFixedRate (runnable : Runnable) (timeout : Timeout) (period unit : UInt32)
  | cancel (timeout : Timeout)
  | stopDispatch

/-- Where a call stands: what its next step does. -/
inductive Call (Runnable Timeout : Type)
  | idle
  | enqueue (runnable : Runnable)
  | setEvent (event : Event)
  | isActive (runnable : Runnable) (timeout : Timeout) (delay : UInt32) (cyclic : Bool)
  | setRunnable (runnable : Runnable) (timeout : Timeout) (delay : UInt32) (cyclic : Bool)
  | readTime (timeout : Timeout) (delay : UInt32) (cyclic : Bool)
  | isLinked (addition : Addition Timeout)
  | setTimes (addition : Addition Timeout)
  | insert (addition : Addition Timeout)
  | cancel (timeout : Timeout)
  | erase (timeout : Timeout)
  deriving DecidableEq

variable {Runnable Timeout : Type}

/-- The first step of a request. -/
def Request.start : Request Runnable Timeout → Call Runnable Timeout
  | .execute runnable => .enqueue runnable
  | .schedule runnable timeout delay unit => .isActive runnable timeout (delay * unit) false
  | .scheduleAtFixedRate runnable timeout period unit =>
    .isActive runnable timeout (period * unit) true
  | .cancel timeout => .cancel timeout
  | .stopDispatch => .setEvent .stop

section

variable [DecidableEq Runnable] [DecidableEq Timeout]

/-- One step of a call.  An enqueue that finds its runnable not enqueued is recorded. -/
def Call.step (shared : Shared Runnable Timeout) :
    Call Runnable Timeout → Option (Shared Runnable Timeout × Call Runnable Timeout)
  | .idle => none
  | .enqueue runnable =>
    let accepted :=
      if shared.queue.isEnqueued runnable then shared.accepted
      else shared.accepted ++ [runnable]
    some ({ shared.enqueue runnable with accepted }, .setEvent .execute)
  | .setEvent event => some ({ shared with events := shared.events ∪ {event} }, .idle)
  | .isActive runnable timeout delay cyclic =>
    if timeout ∈ shared.timeoutList then some (shared, .idle)
    else some (shared, .setRunnable runnable timeout delay cyclic)
  | .setRunnable runnable timeout delay cyclic =>
    some (shared.setRunnable timeout runnable, .readTime timeout delay cyclic)
  | .readTime timeout delay cyclic =>
    some (shared, .isLinked
      { timeout
        absoluteTimeout := delay + shared.getSystemTimeUs32Bit
        cycleTime := if cyclic then delay else 0
        now := shared.clock
        deadline := shared.clock + delay.toNat })
  | .isLinked addition =>
    if addition.timeout ∈ shared.timeoutList then some (shared, .idle)
    else some (shared, .setTimes addition)
  | .setTimes addition => some (shared.setTimes addition, .insert addition)
  | .insert addition =>
    (shared.insertTimeout addition).map fun (after, first) =>
      (after, if first then .setEvent .timer else .idle)
  | .cancel timeout =>
    if timeout ∈ shared.timeoutList then some (shared, .erase timeout)
    else some (shared, .idle)
  | .erase timeout => some (shared.eraseTimeout timeout, .idle)

end

/-! ## The dispatch loop -/

/-- What `waitEvents` computed from the time it read: how many ticks it waits,
and whether this is for a timeout. -/
structure Wait where
  now : Nat
  ticks : UInt32
  hasDelta : Bool
  deriving DecidableEq

/-- Where the dispatch loop stands: what its next step does.  Most phases keep
the event mask that is handled; those that process the timer keep whether they
process the next timeout then. -/
inductive Phase (Runnable Timeout : Type)
  | loop (eventMask : EventMask)
  | readTime
  | getNextDelta (now : Nat)
  | notifyWait (wait : Wait)
  | waiting (wait : Wait) (start : Nat)
  | dequeue (eventMask : EventMask)
  | execute (eventMask : EventMask) (runnable : Runnable)
  | executing (eventMask : EventMask)
  | handleTimeout (eventMask : EventMask)
  | processNextTimeout (eventMask : EventMask) (now : Nat)
  | reschedule (eventMask : EventMask) (now : Nat) (timeout : Timeout) (again : Bool)
  | isLinked (eventMask : EventMask) (addition : Addition Timeout) (again : Bool)
  | setTimes (eventMask : EventMask) (addition : Addition Timeout) (again : Bool)
  | insert (eventMask : EventMask) (addition : Addition Timeout) (again : Bool)
  | expire (eventMask : EventMask) (timeout : Timeout) (again : Bool)
  | expiring (eventMask : EventMask) (again : Bool)
  | stopped
  deriving DecidableEq

namespace Phase

/-- The handler of the timer comes behind the one of the executor. -/
def handleTimerEvent (eventMask : EventMask) : Phase Runnable Timeout :=
  if .timer ∈ eventMask then .handleTimeout eventMask else .loop eventMask

def handleEvents (eventMask : EventMask) : Phase Runnable Timeout :=
  if .execute ∈ eventMask then .dequeue eventMask else handleTimerEvent eventMask

/-- What `waitEvents` does with the result of `getNextDelta`. -/
def computeWait (config : Config) (now : Nat) (result : Bool × UInt32) : Wait :=
  { now
    ticks :=
      if result.1 then (result.2 + (config.tickInUs - 1)) / config.tickInUs
      else config.waitEventsTickCount
    hasDelta := result.1 }

variable [DecidableEq Runnable] [DecidableEq Timeout]

/-- One step of the dispatch loop.  Waiting for events has a step when an event
is set. -/
def step (config : Config) (shared : Shared Runnable Timeout) :
    Phase Runnable Timeout → Option (Shared Runnable Timeout × Phase Runnable Timeout)
  | .loop eventMask => some (shared, if .stop ∈ eventMask then .stopped else .readTime)
  | .readTime => some (shared, .getNextDelta shared.clock)
  | .getNextDelta now =>
    some (shared, .notifyWait (computeWait config now
      (shared.timer.getNextDelta (UInt32.ofNat now))))
  | .notifyWait wait => some (shared, .waiting wait shared.clock)
  | .waiting _ _ =>
    if shared.events = ∅ then none
    else some ({ shared with events := ∅ }, handleEvents shared.events)
  | .dequeue eventMask =>
    match shared.queue.dequeue with
    | (some runnable, queue) => some ({ shared with queue }, .execute eventMask runnable)
    | (none, queue) => some ({ shared with queue }, handleTimerEvent eventMask)
  | .execute eventMask runnable =>
    some ({ shared with executed := shared.executed ++ [runnable] }, .executing eventMask)
  | .executing eventMask => some (shared, .dequeue eventMask)
  | .handleTimeout eventMask => some (shared, .processNextTimeout eventMask shared.clock)
  | .processNextTimeout eventMask now =>
    match shared.timeoutList with
    | [] => some (shared, .loop eventMask)
    | timeout :: rest =>
      let diffTimeout := Timer.diff (shared.timeouts timeout).time (UInt32.ofNat now)
      if diffTimeout ≤ 0 then
        some ({ shared with timeoutList := rest },
          .reschedule eventMask now timeout (diffTimeout = 0))
      else some (shared, .loop eventMask)
  | .reschedule eventMask now timeout again =>
    let cycleTime := (shared.timeouts timeout).cycleTime
    if 0 < cycleTime then
      some (shared, .isLinked eventMask
        { timeout
          absoluteTimeout := cycleTime + (shared.timeouts timeout).time
          cycleTime
          now
          deadline := shared.deadline timeout + cycleTime.toNat } again)
    else some (shared, .expire eventMask timeout again)
  | .isLinked eventMask addition again =>
    if addition.timeout ∈ shared.timeoutList then
      some (shared, .expire eventMask addition.timeout again)
    else some (shared, .setTimes eventMask addition again)
  | .setTimes eventMask addition again =>
    some (shared.setTimes addition, .insert eventMask addition again)
  | .insert eventMask addition again =>
    (shared.insertTimeout addition).map fun (after, _) =>
      (after, .expire eventMask addition.timeout again)
  | .expire eventMask timeout again =>
    some ({ shared with
      expired := shared.expired ++ (shared.timeouts timeout).runnable.toList },
      .expiring eventMask again)
  | .expiring eventMask again =>
    some (shared, if again then .handleTimeout eventMask else .loop eventMask)
  | .stopped => none

end Phase

/-! ## The whole context -/

/-- A task context with the contexts that call it. -/
structure TaskContext (Runnable Timeout Caller : Type) where
  shared : Shared Runnable Timeout
  phase : Phase Runnable Timeout
  calls : Caller → Call Runnable Timeout

/-- A caller starts a request or takes the next step of it, the task takes its
next step, its wait times out, or time passes. -/
inductive Action (Runnable Timeout Caller : Type)
  | call (caller : Caller) (request : Request Runnable Timeout)
  | proceed (caller : Caller)
  | dispatch
  | timeOut
  | elapse (duration : Nat)

namespace Wait

/-- A wait for a number of ticks ends with the last of these ticks at the latest. -/
def ends (config : Config) (wait : Wait) (start : Nat) : Nat :=
  start + wait.ticks.toNat * config.tickInUs.toNat

end Wait

namespace TaskContext

variable {Caller : Type} [DecidableEq Runnable] [DecidableEq Timeout] [DecidableEq Caller]

/-- A waiting task is woken by its time out before time passes on. -/
def mayElapse (config : Config) (context : TaskContext Runnable Timeout Caller)
    (duration : Nat) : Bool :=
  match context.phase with
  | .waiting wait start => context.shared.clock + duration ≤ wait.ends config start
  | _ => true

/-- One step of one party, where it is possible. -/
def step (config : Config) (context : TaskContext Runnable Timeout Caller) :
    Action Runnable Timeout Caller → Option (TaskContext Runnable Timeout Caller)
  | .call caller request =>
    match context.calls caller with
    | .idle =>
      some { context with calls := Function.update context.calls caller request.start }
    | _ => none
  | .proceed caller =>
    ((context.calls caller).step context.shared).map fun (shared, call) =>
      { context with shared, calls := Function.update context.calls caller call }
  | .dispatch =>
    (context.phase.step config context.shared).map fun (shared, phase) =>
      { context with shared, phase }
  | .timeOut =>
    match context.phase with
    | .waiting wait start =>
      -- the last tick is over, and no event is set
      if context.shared.events = ∅ ∧
          wait.ends config start < context.shared.clock + config.tickInUs.toNat then
        some { context with
          phase := .handleEvents (if wait.hasDelta then {.timer} else ∅) }
      else none
    | _ => none
  | .elapse duration =>
    if context.mayElapse config duration then
      some { context with
        shared := { context.shared with clock := context.shared.clock + duration } }
    else none

/-- A context at the start of its dispatch loop: no event is set, no runnable is
enqueued, no timeout is linked, and nobody calls. -/
structure Initial (context : TaskContext Runnable Timeout Caller) : Prop where
  queue : context.shared.queue = .empty
  timeoutList : context.shared.timeoutList = []
  events : context.shared.events = ∅
  accepted : context.shared.accepted = []
  executed : context.shared.executed = []
  times : ∀ timeout, (context.shared.timeouts timeout).time =
    UInt32.ofNat (context.shared.deadline timeout)
  phase : context.phase = .loop ∅
  calls : ∀ caller, context.calls caller = .idle

/-- All interleavings. -/
def system (config : Config) (Runnable Timeout Caller : Type)
    [DecidableEq Runnable] [DecidableEq Timeout] [DecidableEq Caller] :
    Transition.System (TaskContext Runnable Timeout Caller) (Action Runnable Timeout Caller) where
  Initial := Initial
  Step source action target := source.step config action = some target

end TaskContext

end OpenBsw.Async
