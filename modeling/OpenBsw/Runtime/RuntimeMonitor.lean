import Mathlib

/-!
# Runtime monitor

The monitor keeps a stack of contexts, tasks and interrupt groups, and each
context keeps a stack of functions.  The entries of a stack are linked to the
entries below them.  Times are 32-bit numbers that wrap, and a suspended time
is added only to the entry on top of a stack and handed down when that entry
is popped.
-/

namespace OpenBsw.Runtime

universe u

/-- The arguments of `addRun`, and the entry it is called for. -/
structure Run (E : Type u) where
  entry : E
  startTimestamp : BitVec 32
  runtime : BitVec 32
  suspendedTime : BitVec 32
  deriving DecidableEq

/-- An entry is used when it has a previous entry, which may be null. -/
structure RuntimeStackEntry (E : Type u) where
  prevEntry : Option (Option E) := none
  startTimestamp : BitVec 32 := 0
  suspendedTime : BitVec 32 := 0

namespace RuntimeStackEntry

variable {E : Type u}

def isUsed (self : RuntimeStackEntry E) : Bool :=
  self.prevEntry.isSome

def push (self : RuntimeStackEntry E) (now : BitVec 32) (prevEntry : Option E) :
    RuntimeStackEntry E :=
  if self.isUsed then self
  else { prevEntry := some prevEntry, startTimestamp := now, suspendedTime := 0 }

/-- The local `thisRuntime` of `pop`. -/
def thisRuntime (self : RuntimeStackEntry E) (now : BitVec 32) : BitVec 32 :=
  now - self.startTimestamp - self.suspendedTime

/-- What `pop` adds to the suspended time of the previous entry. -/
def handedDown (cutOut : Bool) (self : RuntimeStackEntry E) (now : BitVec 32) : BitVec 32 :=
  self.suspendedTime + if cutOut then self.thisRuntime now else 0

/-- What `pop` leaves of its own entry. -/
def release (self : RuntimeStackEntry E) : RuntimeStackEntry E :=
  { self with prevEntry := none }

def addSuspendedTime (self : RuntimeStackEntry E) (suspendedTime : BitVec 32) :
    RuntimeStackEntry E :=
  { self with suspendedTime := self.suspendedTime + suspendedTime }

/-- The call of `addRun` in `pop`. -/
def run (self : RuntimeStackEntry E) (entry : E) (now : BitVec 32) : Run E where
  entry := entry
  startTimestamp := self.startTimestamp
  runtime := self.thisRuntime now
  suspendedTime := self.suspendedTime

end RuntimeStackEntry

/-- The entries of the functions, wherever they are used. -/
abbrev FunctionEntries (F : Type u) := F → RuntimeStackEntry F

/-- `RuntimeStack::addSuspendedTime` of a stack of functions. -/
def FunctionEntries.addSuspendedTime {F : Type u} [DecidableEq F] (functions : FunctionEntries F)
    (topEntry : Option F) (suspendedTime : BitVec 32) : FunctionEntries F :=
  match topEntry with
  | none => functions
  | some top => Function.update functions top ((functions top).addSuspendedTime suspendedTime)

inductive ContextId where
  | task (taskIdx : Nat)
  | isrGroup (isrGroupIdx : Nat)
  deriving DecidableEq

/-- A context is an entry in the stack of contexts, and a stack of functions. -/
structure ContextEntry (F : Type u) where
  stackEntry : RuntimeStackEntry ContextId := {}
  topEntry : Option F := none
  suspendTimestamp : BitVec 32 := 0

structure RuntimeMonitor (F : Type u) where
  topEntry : Option ContextId := none
  contexts : ContextId → ContextEntry F := fun _ => {}
  functions : FunctionEntries F := fun _ => {}
  /-- The calls of `addRun` for contexts. -/
  contextRuns : List (Run ContextId) := []
  /-- The calls of `addRun` for functions. -/
  functionRuns : List (Run F) := []

namespace RuntimeMonitor

variable {F : Type u} [DecidableEq F]

/-- Changes the entry of a context. -/
def modify (self : RuntimeMonitor F) (context : ContextId)
    (change : ContextEntry F → ContextEntry F) : RuntimeMonitor F :=
  { self with
    contexts := Function.update self.contexts context (change (self.contexts context)) }

/-- `RuntimeStack<Nested>::addSuspendedTime` of a context. -/
def addFunctionsSuspendedTime (self : RuntimeMonitor F) (context : ContextId)
    (suspendedTime : BitVec 32) : RuntimeMonitor F :=
  { self with
    functions :=
      self.functions.addSuspendedTime (self.contexts context).topEntry suspendedTime }

/-- `NestedRuntimeEntry::addSuspendedTime`. -/
def addSuspendedTime (self : RuntimeMonitor F) (context : ContextId)
    (suspendedTime : BitVec 32) : RuntimeMonitor F :=
  (self.addFunctionsSuspendedTime context suspendedTime).modify context fun entry =>
    { entry with stackEntry := entry.stackEntry.addSuspendedTime suspendedTime }

/-- `RuntimeStack<Nested>::resume` of a context. -/
def resume (self : RuntimeMonitor F) (context : ContextId) (now : BitVec 32) : RuntimeMonitor F :=
  self.addFunctionsSuspendedTime context (now - (self.contexts context).suspendTimestamp)

/-- `RuntimeStack<Nested>::suspend` of a context. -/
def suspend (self : RuntimeMonitor F) (context : ContextId) (now : BitVec 32) : RuntimeMonitor F :=
  self.modify context fun entry => { entry with suspendTimestamp := now }

/-- `NestedRuntimeEntry::push`. -/
def push (self : RuntimeMonitor F) (context : ContextId) (now : BitVec 32)
    (prevEntry : Option ContextId) : RuntimeMonitor F :=
  (self.resume context now).modify context fun entry =>
    { entry with stackEntry := entry.stackEntry.push now prevEntry }

/-- `pushEntry` of the stack of contexts. -/
def pushContext (self : RuntimeMonitor F) (context : ContextId) (now : BitVec 32) :
    RuntimeMonitor F :=
  if (self.contexts context).stackEntry.isUsed then self
  else { self.push context now self.topEntry with topEntry := some context }

/-- Adds the suspended time that is handed down to the previous context, if there is one. -/
def handDown (self : RuntimeMonitor F) (prevEntry : Option ContextId)
    (suspendedTime : BitVec 32) : RuntimeMonitor F :=
  match prevEntry with
  | none => self
  | some previous => self.addSuspendedTime previous suspendedTime

/-- `NestedRuntimeEntry::pop`. -/
def pop (self : RuntimeMonitor F) (context : ContextId) (now : BitVec 32) : RuntimeMonitor F :=
  let entry := (self.contexts context).stackEntry
  let prevEntry := entry.prevEntry.getD none
  { (((self.suspend context now).handDown prevEntry (entry.handedDown true now)).modify context
      fun popped => { popped with stackEntry := popped.stackEntry.release }) with
    contextRuns := self.contextRuns ++ [entry.run context now]
    topEntry := prevEntry }

/-- `popEntry` of the stack of contexts. -/
def popContext (self : RuntimeMonitor F) (context : ContextId) (now : BitVec 32) :
    RuntimeMonitor F :=
  if self.topEntry = some context then self.pop context now else self

/-- `pushEntry` of the stack of functions of a context. -/
def pushFunction (self : RuntimeMonitor F) (context : ContextId) (function : F)
    (now : BitVec 32) : RuntimeMonitor F :=
  if (self.functions function).isUsed then self
  else
    { self.modify context fun entry => { entry with topEntry := some function } with
      functions :=
        Function.update self.functions function
          ((self.functions function).push now (self.contexts context).topEntry) }

/-- `popEntry` of the stack of functions of a context. -/
def popFunction (self : RuntimeMonitor F) (context : ContextId) (function : F)
    (now : BitVec 32) : RuntimeMonitor F :=
  if (self.contexts context).topEntry = some function then
    let entry := self.functions function
    let prevEntry := entry.prevEntry.getD none
    let functions := self.functions.addSuspendedTime prevEntry (entry.handedDown false now)
    { self.modify context fun popped => { popped with topEntry := prevEntry } with
      functions := Function.update functions function (functions function).release
      functionRuns := self.functionRuns ++ [entry.run function now] }
  else self

def enterTask (self : RuntimeMonitor F) (taskIdx : Nat) (timestamp : BitVec 32) :
    RuntimeMonitor F :=
  self.pushContext (.task taskIdx) timestamp

def leaveTask (self : RuntimeMonitor F) (taskIdx : Nat) (timestamp : BitVec 32) :
    RuntimeMonitor F :=
  self.popContext (.task taskIdx) timestamp

def enterIsrGroup (self : RuntimeMonitor F) (isrGroupIdx : Nat) (timestamp : BitVec 32) :
    RuntimeMonitor F :=
  self.pushContext (.isrGroup isrGroupIdx) timestamp

def leaveIsrGroup (self : RuntimeMonitor F) (isrGroupIdx : Nat) (timestamp : BitVec 32) :
    RuntimeMonitor F :=
  self.popContext (.isrGroup isrGroupIdx) timestamp

def enterFunction (self : RuntimeMonitor F) (function : F) (now : BitVec 32) : RuntimeMonitor F :=
  match self.topEntry with
  | none => self
  | some context => self.pushFunction context function now

def leaveFunction (self : RuntimeMonitor F) (function : F) (now : BitVec 32) : RuntimeMonitor F :=
  match self.topEntry with
  | none => self
  | some context => self.popFunction context function now

end RuntimeMonitor

inductive RuntimeCall (F : Type u) where
  | enterTask (taskIdx : Nat)
  | leaveTask (taskIdx : Nat)
  | enterIsrGroup (isrGroupIdx : Nat)
  | leaveIsrGroup (isrGroupIdx : Nat)
  | enterFunction (function : F)
  | leaveFunction (function : F)
  deriving DecidableEq

/-- A call at a time, of which the monitor sees 32 bits. -/
def RuntimeMonitor.call {F : Type u} [DecidableEq F] (self : RuntimeMonitor F) (now : Nat) :
    RuntimeCall F → RuntimeMonitor F
  | .enterTask taskIdx => self.enterTask taskIdx now
  | .leaveTask taskIdx => self.leaveTask taskIdx now
  | .enterIsrGroup isrGroupIdx => self.enterIsrGroup isrGroupIdx now
  | .leaveIsrGroup isrGroupIdx => self.leaveIsrGroup isrGroupIdx now
  | .enterFunction function => self.enterFunction function now
  | .leaveFunction function => self.leaveFunction function now

end OpenBsw.Runtime
