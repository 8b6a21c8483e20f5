import OpenBsw.Data.StableInsert

/-!
# Timer

The timer keeps its pending timeouts in a list ordered by their 32-bit times.
Two times are compared by their signed differences to the current time, so the
clock may wrap.  The callback of an expired timeout runs after the list was
updated; what it does to the timer are further calls.
-/

namespace OpenBsw

/-- A timeout in the list: `_time` and `_cycleTime`, which is zero for a single
shot. -/
structure Timeout (Id : Type) where
  id : Id
  time : UInt32
  cycleTime : UInt32
  deriving DecidableEq, Repr

structure Timer (Id : Type) where
  timeoutList : List (Timeout Id)
  deriving DecidableEq, Repr

/-- What `processNextTimeout` does: the timer afterwards, the timeout whose
callback it runs, and its result. -/
structure Processed (Id : Type) where
  timer : Timer Id
  expired : Option Id
  result : Bool
  deriving DecidableEq, Repr

namespace Timer

/-- `a - b` as a signed number. -/
def diff (a b : UInt32) : Int :=
  (a - b).toInt32.toInt

/-- The search loop of `addTimeout` and the insertion at the place it found. -/
def insertTimeout {Id : Type} (now : UInt32) (timeout : Timeout Id) :
    List (Timeout Id) → List (Timeout Id)
  | [] => [timeout]
  | current :: rest =>
    if diff current.time now > diff timeout.time now then timeout :: current :: rest
    else current :: insertTimeout now timeout rest

variable {Id : Type} [DecidableEq Id]

def isActive (timer : Timer Id) (id : Id) : Bool :=
  timer.timeoutList.any fun timeout => timeout.id = id

/-- Insert a timeout unless it is linked already; the result tells whether it
will expire before all others. -/
def addTimeout (timer : Timer Id) (id : Id) (absoluteTimeout cycleTime now : UInt32) :
    Timer Id × Bool :=
  if timer.isActive id then (timer, false)
  else
    let timeoutList :=
      insertTimeout now { id, time := absoluteTimeout, cycleTime } timer.timeoutList
    ({ timeoutList }, timeoutList.head?.map Timeout.id = some id)

def set (timer : Timer Id) (id : Id) (delay now : UInt32) : Timer Id × Bool :=
  timer.addTimeout id (delay + now) 0 now

def setCyclic (timer : Timer Id) (id : Id) (period now : UInt32) : Timer Id × Bool :=
  timer.addTimeout id (period + now) period now

def cancel (timer : Timer Id) (id : Id) : Timer Id :=
  if timer.isActive id then
    { timeoutList := timer.timeoutList.eraseP fun timeout => timeout.id = id }
  else timer

def rescheduleCyclicTimeout (timer : Timer Id) (timeout : Timeout Id) (now : UInt32) : Timer Id :=
  if 0 < timeout.cycleTime then
    (timer.addTimeout timeout.id (timeout.cycleTime + timeout.time) timeout.cycleTime now).1
  else timer

def processNextTimeout (timer : Timer Id) (now : UInt32) : Processed Id :=
  match timer.timeoutList with
  | [] => { timer, expired := none, result := false }
  | timeout :: rest =>
    let diffTimeout := diff timeout.time now
    if diffTimeout ≤ 0 then
      { timer := rescheduleCyclicTimeout { timeoutList := rest } timeout now
        expired := some timeout.id
        result := diffTimeout = 0 }
    else { timer, expired := none, result := false }

omit [DecidableEq Id] in
/-- The result and `nextDelta`. -/
def getNextDelta (timer : Timer Id) (now : UInt32) : Bool × UInt32 :=
  match timer.timeoutList with
  | [] => (false, 0)
  | timeout :: _ => if diff timeout.time now < 0 then (true, 0) else (true, timeout.time - now)

end Timer

end OpenBsw
