import OpenBsw.Runtime.RuntimeMonitor

/-!
# The account of the time

What the runtime statistics are for: between two calls the time is that of the
context on top of the stack, and the functions of all other contexts are
suspended.  Times are natural numbers.
-/

namespace OpenBsw.Runtime

open List Function

universe u

/-- A context that was entered and not left yet. -/
structure OpenContext where
  context : ContextId
  entered : Nat
  /-- The time in which the context was on top. -/
  own : Nat := 0
  /-- The time, from enter to leave, of the contexts nested in it. -/
  nested : Nat := 0
  deriving DecidableEq

/-- A function that was entered and not left yet. -/
structure OpenFunction (F : Type u) where
  function : F
  entered : Nat
  /-- The time in which its context was switched away or interrupted. -/
  suspended : Nat := 0
  deriving DecidableEq

/-- A context run that is over. -/
structure ContextRun extends OpenContext where
  left : Nat
  deriving DecidableEq

/-- A function run that is over. -/
structure FunctionRun (F : Type u) extends OpenFunction F where
  left : Nat
  deriving DecidableEq

structure Account (F : Type u) where
  /-- The time of the last call. -/
  now : Nat
  /-- The time in which at least one context was active. -/
  busy : Nat := 0
  /-- The active contexts, the innermost one first. -/
  stack : List OpenContext := []
  /-- The open functions of each context, the innermost one first. -/
  functions : ContextId → List (OpenFunction F) := fun _ => []
  /-- The last time at which a context ceased to be on top. -/
  since : ContextId → Nat := fun _ => 0
  contextRuns : List ContextRun := []
  functionRuns : List (FunctionRun F) := []

namespace Account

variable {F : Type u}

/-- The context on top. -/
def current (account : Account F) : Option ContextId :=
  account.stack.head?.map OpenContext.context

def OpenContext.work (elapsed : Nat) (entry : OpenContext) : OpenContext :=
  { entry with own := entry.own + elapsed }

def OpenFunction.wait (elapsed : Nat) (entry : OpenFunction F) : OpenFunction F :=
  { entry with suspended := entry.suspended + elapsed }

/-- The time passes. -/
def pass (account : Account F) (now : Nat) : Account F :=
  let elapsed := now - account.now
  { account with
    now := now
    busy := if account.stack = [] then account.busy else account.busy + elapsed
    stack := account.stack.modifyHead (OpenContext.work elapsed)
    functions := fun context =>
      if account.current = some context then account.functions context
      else (account.functions context).map (OpenFunction.wait elapsed) }

/-- The context that was on top is not any more. -/
def interrupted (account : Account F) : ContextId → Nat :=
  match account.current with
  | none => account.since
  | some context => update account.since context account.now

def enter (account : Account F) (context : ContextId) : Account F :=
  { account with
    since := account.interrupted
    stack := { context := context, entered := account.now } :: account.stack }

def OpenContext.nest (time : Nat) (entry : OpenContext) : OpenContext :=
  { entry with nested := entry.nested + time }

def leave (account : Account F) : Account F :=
  match account.stack with
  | [] => account
  | entry :: rest =>
    { account with
      since := account.interrupted
      stack := rest.modifyHead (OpenContext.nest (account.now - entry.entered))
      contextRuns := account.contextRuns ++ [{ entry with left := account.now }] }

def enterFunction [DecidableEq F] (account : Account F) (function : F) : Account F :=
  match account.current with
  | none => account
  | some context =>
    { account with
      functions := update account.functions context
        ({ function := function, entered := account.now } :: account.functions context) }

/-- The innermost function of the context on top is left, unless another one is meant. -/
def leaveFunction [DecidableEq F] (account : Account F) (function : F) : Account F :=
  match account.current with
  | none => account
  | some context =>
    match account.functions context with
    | [] => account
    | entry :: rest =>
      if entry.function = function then
        { account with
          functions := update account.functions context rest
          functionRuns := account.functionRuns ++ [{ entry with left := account.now }] }
      else account

def call [DecidableEq F] (account : Account F) (now : Nat) : RuntimeCall F → Account F
  | .enterTask taskIdx => (account.pass now).enter (.task taskIdx)
  | .leaveTask _ => (account.pass now).leave
  | .enterIsrGroup isrGroupIdx => (account.pass now).enter (.isrGroup isrGroupIdx)
  | .leaveIsrGroup _ => (account.pass now).leave
  | .enterFunction function => (account.pass now).enterFunction function
  | .leaveFunction function => (account.pass now).leaveFunction function

/-- The function is open in no context. -/
def IsClosed (account : Account F) (function : F) : Prop :=
  ∀ context, function ∉ (account.functions context).map OpenFunction.function

/-- A context may be entered when it is not active. -/
def MayEnter (account : Account F) (context : ContextId) : Prop :=
  context ∉ account.stack.map OpenContext.context

/-- The span of a 32-bit time. -/
def SPAN : Nat := 2 ^ 32

/-- A context is left when it is on top, and within the span of the time. -/
def MayLeave (account : Account F) (now : Nat) (context : ContextId) : Prop :=
  ∃ entry ∈ account.stack.head?, entry.context = context ∧ now - entry.entered < SPAN

/-- A function is left when it is the innermost one of the context on top, or it was entered
without a context. -/
def MayLeaveFunction (account : Account F) (now : Nat) (function : F) : Prop :=
  account.IsClosed function ∨
    ∃ context ∈ account.current, ∃ entry ∈ (account.functions context).head?,
      entry.function = function ∧ now - entry.entered < SPAN

/-- The calls are properly nested, and the times do not go back. -/
def ProperlyNested (account : Account F) (now : Nat) (call : RuntimeCall F) : Prop :=
  account.now ≤ now ∧
    match call with
    | .enterTask taskIdx => account.MayEnter (.task taskIdx)
    | .leaveTask taskIdx => account.MayLeave now (.task taskIdx)
    | .enterIsrGroup isrGroupIdx => account.MayEnter (.isrGroup isrGroupIdx)
    | .leaveIsrGroup isrGroupIdx => account.MayLeave now (.isrGroup isrGroupIdx)
    | .enterFunction function => account.IsClosed function
    | .leaveFunction function => account.MayLeaveFunction now function

/-! ## What holds of the account -/

/-- The time from the enter of a context up to the enter of the context above it, or up to now, is
its own time and that of the contexts nested in it. -/
def Balanced (since : ContextId → Nat) : Nat → List OpenContext → Prop
  | _, [] => True
  | limit, entry :: rest =>
    entry.entered + entry.own + entry.nested = limit ∧
      (∀ parent ∈ rest.head?, since parent.context = entry.entered) ∧
      Balanced since entry.entered rest

theorem Balanced.congr {since changed : ContextId → Nat} {limit : Nat} {stack : List OpenContext}
    (balanced : Balanced since limit stack)
    (same : ∀ entry ∈ stack.tail, changed entry.context = since entry.context) :
    Balanced changed limit stack := by
  induction stack generalizing limit with
  | nil => trivial
  | cons entry rest ih =>
    obtain ⟨sum, above, balanced⟩ := balanced
    refine ⟨sum, ?_, ih balanced fun other member => same other (mem_of_mem_tail member)⟩
    intro parent first
    rw [same parent (mem_of_mem_head? first)]
    exact above parent first

structure Consistent (account : Account F) : Prop where
  nodup : (account.stack.map OpenContext.context).Nodup
  balanced : Balanced account.since account.now account.stack
  past : ∀ context, account.since context ≤ account.now
  /-- Every tick in which a context was active is the own time of one context. -/
  total : (account.contextRuns.map fun run => run.own).sum +
    (account.stack.map OpenContext.own).sum = account.busy
  distinct : ∀ context, ((account.functions context).map OpenFunction.function).Nodup
  apart : ∀ context other, context ≠ other → ∀ function,
    function ∈ (account.functions context).map OpenFunction.function →
      function ∉ (account.functions other).map OpenFunction.function
  within : ∀ context, ∀ entry ∈ account.functions context,
    entry.entered + entry.suspended ≤ account.now

variable {account : Account F} {now : Nat}

theorem contexts_pass (account : Account F) (now : Nat) :
    (account.pass now).stack.map OpenContext.context =
      account.stack.map OpenContext.context := by
  change (account.stack.modifyHead _).map _ = _
  cases account.stack with
  | nil => rfl
  | cons entry rest => rfl

theorem current_pass (account : Account F) (now : Nat) :
    (account.pass now).current = account.current := by
  change (account.stack.modifyHead _).head?.map _ = account.stack.head?.map _
  cases account.stack with
  | nil => rfl
  | cons entry rest => rfl

theorem functions_pass (account : Account F) (now : Nat) (context : ContextId) :
    ((account.pass now).functions context).map OpenFunction.function =
      (account.functions context).map OpenFunction.function := by
  change List.map _ (if _ then _ else _) = _
  split_ifs
  · rfl
  · rw [map_map]
    rfl

theorem Consistent.pass (consistent : account.Consistent) (later : account.now ≤ now) :
    (account.pass now).Consistent where
  nodup := by
    rw [contexts_pass]
    exact consistent.nodup
  balanced := by
    have balanced := consistent.balanced
    change Balanced account.since now (account.stack.modifyHead _)
    cases stack : account.stack with
    | nil => trivial
    | cons entry rest =>
      rw [stack] at balanced
      obtain ⟨sum, above, balanced⟩ := balanced
      refine ⟨?_, above, balanced⟩
      change entry.entered + (entry.own + (now - account.now)) + entry.nested = now
      omega
  past := fun context => Nat.le_trans (consistent.past context) later
  total := by
    have total := consistent.total
    change _ + ((account.stack.modifyHead _).map _).sum = if _ then _ else _
    cases stack : account.stack with
    | nil =>
      rw [stack] at total
      rw [if_pos rfl]
      exact total
    | cons entry rest =>
      rw [stack, map_cons, sum_cons] at total
      rw [if_neg (cons_ne_nil _ _), modifyHead_cons, map_cons, sum_cons]
      change _ + (entry.own + (now - account.now) + _) = _
      change (account.contextRuns.map fun run => run.own).sum + _ = _
      omega
  distinct := by
    intro context
    rw [functions_pass]
    exact consistent.distinct context
  apart := by
    intro context other different function
    rw [functions_pass, functions_pass]
    exact consistent.apart context other different function
  within := by
    intro context entry member
    change entry ∈ (if _ then _ else _) at member
    split_ifs at member
    · exact Nat.le_trans (consistent.within context entry member) later
    · obtain ⟨waiting, present, rfl⟩ := mem_map.mp member
      have within := consistent.within context waiting present
      change waiting.entered + (waiting.suspended + (now - account.now)) ≤ now
      omega

theorem interrupted_of_ne {context : ContextId} (other : account.current ≠ some context) :
    account.interrupted context = account.since context := by
  rw [interrupted]
  cases current : account.current with
  | none => rfl
  | some top =>
    apply update_of_ne
    rintro rfl
    exact other current

theorem interrupted_current {context : ContextId} (current : account.current = some context) :
    account.interrupted context = account.now := by
  rw [interrupted, current]
  exact update_self _ _ _

theorem Consistent.past_interrupted (consistent : account.Consistent) (context : ContextId) :
    account.interrupted context ≤ account.now := by
  by_cases current : account.current = some context
  · rw [interrupted_current current]
  · rw [interrupted_of_ne current]
    exact consistent.past context

/-- The contexts below the top are not interrupted again. -/
theorem Consistent.below_current (consistent : account.Consistent) {entry : OpenContext}
    (member : entry ∈ account.stack.tail) : account.current ≠ some entry.context := by
  have nodup := consistent.nodup
  rw [current]
  cases stack : account.stack with
  | nil =>
    rw [stack] at member
    cases member
  | cons first rest =>
    rw [stack] at nodup member
    intro same
    apply (nodup_cons.mp nodup).1
    rw [Option.some.inj same]
    exact mem_map_of_mem member

theorem Consistent.enter (consistent : account.Consistent) {context : ContextId}
    (enters : account.MayEnter context) : (account.enter context).Consistent := by
  refine ⟨nodup_cons.mpr ⟨enters, consistent.nodup⟩, ⟨Nat.add_zero _, ?_, ?_⟩, ?_, ?_, ?_, ?_, ?_⟩
  · intro parent first
    exact interrupted_current (congrArg (Option.map OpenContext.context) first)
  · exact consistent.balanced.congr fun entry member =>
      interrupted_of_ne (consistent.below_current member)
  · exact consistent.past_interrupted
  · change _ + (0 + (account.stack.map OpenContext.own).sum) = _
    rw [zero_add]
    exact consistent.total
  · exact consistent.distinct
  · exact consistent.apart
  · exact consistent.within

theorem Consistent.leave (consistent : account.Consistent) : account.leave.Consistent := by
  rw [Account.leave]
  cases stack : account.stack with
  | nil => exact consistent
  | cons entry rest =>
    dsimp only
    have nodup := consistent.nodup
    have balanced := consistent.balanced
    have total := consistent.total
    rw [stack] at nodup balanced total
    obtain ⟨sum, above, balanced⟩ := balanced
    have unchanged : ∀ other ∈ rest,
        account.interrupted other.context = account.since other.context := by
      intro other member
      apply interrupted_of_ne
      apply consistent.below_current
      rw [stack]
      exact member
    refine ⟨?_, ?_, ?_, ?_, ?_, ?_, ?_⟩
    · change ((rest.modifyHead _).map _).Nodup
      cases rest with
      | nil => exact nodup_nil
      | cons parent rest => exact (nodup_cons.mp nodup).2
    · change Balanced account.interrupted account.now (rest.modifyHead _)
      cases rest with
      | nil => trivial
      | cons parent rest =>
        obtain ⟨parentSum, parentAbove, balanced⟩ := balanced.congr
          (fun other member => unchanged other (mem_of_mem_tail member))
        refine ⟨?_, parentAbove, balanced⟩
        change parent.entered + parent.own +
          (parent.nested + (account.now - entry.entered)) = account.now
        omega
    · exact consistent.past_interrupted
    · change ((account.contextRuns ++ [_]).map _).sum + ((rest.modifyHead _).map _).sum =
        account.busy
      have owned : (rest.modifyHead (OpenContext.nest (account.now - entry.entered))).map
          OpenContext.own = rest.map OpenContext.own := by
        cases rest with
        | nil => rfl
        | cons parent rest => rfl
      rw [owned, map_append, sum_append, map_singleton, sum_singleton]
      rw [map_cons, sum_cons] at total
      change _ + entry.own + _ = _
      omega
    · exact consistent.distinct
    · exact consistent.apart
    · exact consistent.within

variable [DecidableEq F]

theorem Consistent.enterFunction (consistent : account.Consistent) {function : F}
    (closed : account.IsClosed function) : (account.enterFunction function).Consistent := by
  rw [Account.enterFunction]
  cases current : account.current with
  | none => exact consistent
  | some top =>
    dsimp only
    refine ⟨consistent.nodup, consistent.balanced, consistent.past, consistent.total, ?_, ?_, ?_⟩
    · intro context
      dsimp only
      by_cases same : context = top
      · subst same
        rw [update_self]
        exact nodup_cons.mpr ⟨closed context, consistent.distinct context⟩
      · rw [update_of_ne same]
        exact consistent.distinct context
    · intro context other different candidate
      dsimp only
      by_cases same : context = top
      · subst same
        rw [update_self, update_of_ne (Ne.symm different)]
        intro member
        rcases mem_cons.mp member with rfl | member
        · exact closed other
        · exact consistent.apart context other different candidate member
      · rw [update_of_ne same]
        by_cases otherSame : other = top
        · subst otherSame
          rw [update_self]
          intro member
          refine not_mem_cons_of_ne_of_not_mem ?_
            (consistent.apart context other different candidate member)
          rintro rfl
          exact closed context member
        · rw [update_of_ne otherSame]
          exact consistent.apart context other different candidate
    · intro context entry member
      dsimp only at member ⊢
      by_cases same : context = top
      · subst same
        rw [update_self] at member
        rcases mem_cons.mp member with rfl | member
        · exact Nat.le_refl _
        · exact consistent.within context entry member
      · rw [update_of_ne same] at member
        exact consistent.within context entry member

theorem Consistent.leaveFunction (consistent : account.Consistent) (function : F) :
    (account.leaveFunction function).Consistent := by
  rw [Account.leaveFunction]
  cases current : account.current with
  | none => exact consistent
  | some top =>
    dsimp only
    cases opened : account.functions top with
    | nil => exact consistent
    | cons entry rest =>
      dsimp only
      split_ifs with here
      · have part : ∀ context, (update account.functions top rest context).Sublist
            (account.functions context) := by
          intro context
          by_cases same : context = top
          · subst same
            rw [update_self, opened]
            exact sublist_cons_self _ _
          · rw [update_of_ne same]
        refine ⟨consistent.nodup, consistent.balanced, consistent.past, consistent.total,
          fun context => ?_, fun context other different candidate member => ?_,
          fun context entry member => ?_⟩
        · exact (consistent.distinct context).sublist ((part context).map _)
        · intro further
          exact consistent.apart context other different candidate
            (((part context).map _).mem member) (((part other).map _).mem further)
        · exact consistent.within context entry ((part context).mem member)
      · exact consistent

end Account

end OpenBsw.Runtime
