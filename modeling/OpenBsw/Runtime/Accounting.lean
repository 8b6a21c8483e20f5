import OpenBsw.Runtime.Stacks
import OpenBsw.Transition.System

/-!
# The statistics account for every tick once

The monitor follows the account of the time through every properly nested
sequence of calls, although it adds suspended times late and its times wrap.
-/

namespace OpenBsw.Runtime

open List Function

universe u

open OpenBsw.Transition

variable {F : Type u}

/-- The suspended time of the open functions of a context that is in no entry yet. -/
def Account.pending (account : Account F) (context : ContextId) : Nat :=
  if account.current = some context then 0 else account.now - account.since context

/-- The runtime of a context is the time from its enter to its leave without the time of the
contexts nested in it. -/
def ContextRun.ReportedBy (run : Run ContextId) (actual : ContextRun) : Prop :=
  run.entry = actual.context ∧ run.runtime.toNat = actual.own ∧
    run.runtime.toNat + actual.nested + actual.entered = actual.left

/-- The runtime of a function is the time from its enter to its leave without the time in which
its context was suspended. -/
def FunctionRun.ReportedBy (run : Run F) (actual : FunctionRun F) : Prop :=
  run.entry = actual.function ∧
    run.runtime.toNat + actual.suspended + actual.entered = actual.left

structure Follows (monitor : RuntimeMonitor F) (account : Account F) : Prop where
  linked : Linked (fun context => (monitor.contexts context).stackEntry) monitor.topEntry
    (account.stack.map OpenContext.context)
  measured : ∀ entry ∈ account.stack,
    (monitor.contexts entry.context).stackEntry.startTimestamp = (entry.entered : BitVec 32) ∧
      (monitor.contexts entry.context).stackEntry.suspendedTime = (entry.nested : BitVec 32)
  unused : ∀ context, context ∉ account.stack.map OpenContext.context →
    (monitor.contexts context).stackEntry.prevEntry = none ∧
      (monitor.contexts context).suspendTimestamp = (account.since context : BitVec 32)
  held : ∀ context, Held monitor.functions (monitor.contexts context).topEntry
    (account.functions context) (account.pending context : BitVec 32)
  closed : ∀ function, account.IsClosed function → (monitor.functions function).prevEntry = none
  contextRuns : List.Forall₂ (fun run actual => ContextRun.ReportedBy run actual)
    monitor.contextRuns account.contextRuns
  functionRuns : List.Forall₂ (fun run actual => FunctionRun.ReportedBy run actual)
    monitor.functionRuns account.functionRuns

variable {monitor : RuntimeMonitor F} {account : Account F}

theorem Follows.topEntry (follows : Follows monitor account) :
    monitor.topEntry = account.current := by
  rw [follows.linked.top_eq, List.head?_map]
  rfl

/-! ## The time passes -/

theorem Follows.pass (follows : Follows monitor account) (consistent : account.Consistent)
    {now : Nat} (later : account.now ≤ now) : Follows monitor (account.pass now) where
  linked := by
    rw [Account.contexts_pass]
    exact follows.linked
  measured := by
    intro entry member
    have measured := follows.measured
    change entry ∈ account.stack.modifyHead _ at member
    cases stack : account.stack with
    | nil =>
      rw [stack] at member
      cases member
    | cons first rest =>
      rw [stack] at member measured
      rcases mem_cons.mp member with rfl | below
      · exact measured first (.head _)
      · exact measured entry (.tail _ below)
  unused := by
    rw [Account.contexts_pass]
    exact follows.unused
  held := by
    intro context
    have held := follows.held context
    rw [Account.pending] at held ⊢
    rw [Account.current_pass]
    change Held _ _ (if _ then _ else _) _
    by_cases current : account.current = some context
    · rw [if_pos current] at held ⊢
      rw [if_pos current]
      exact held
    · rw [if_neg current] at held ⊢
      rw [if_neg current]
      have past := consistent.past context
      have waited : now - account.since context =
          account.now - account.since context + (now - account.now) := by omega
      change Held _ _ _ ((now - account.since context : Nat) : BitVec 32)
      rw [waited, Nat.cast_add]
      exact held.wait _
  closed := by
    intro function closed
    apply follows.closed
    intro context
    have apart := closed context
    rw [Account.functions_pass] at apart
    exact apart
  contextRuns := follows.contextRuns
  functionRuns := follows.functionRuns

/-! ## Entries of functions -/

variable {entry : OpenContext} {now : BitVec 32} {context : ContextId} {rest : List OpenContext}
  {function : F}

section Functions

variable [DecidableEq F] {functions : FunctionEntries F}

/-- A suspended time that is added leaves the links. -/
theorem prevEntry_addSuspendedTime (topEntry : Option F) (time : BitVec 32) (function : F) :
    (functions.addSuspendedTime topEntry time function).prevEntry =
      (functions function).prevEntry := by
  cases topEntry with
  | none => rfl
  | some top =>
    by_cases same : function = top
    · subst same
      change (update functions function _ function).prevEntry = _
      rw [update_self]
      rfl
    · change (update functions top _ function).prevEntry = _
      rw [update_of_ne same]

theorem addSuspendedTime_of_ne {topEntry : Option F} (other : topEntry ≠ some function)
    (time : BitVec 32) :
    functions.addSuspendedTime topEntry time function = functions function := by
  cases topEntry with
  | none => rfl
  | some top =>
    apply update_of_ne
    rintro rfl
    exact other rfl

/-- The functions of one context are unaffected by the suspended time of another one. -/
theorem Follows.held_other (follows : Follows monitor account) (consistent : account.Consistent)
    {context other : ContextId} (different : context ≠ other) (time : BitVec 32)
    {credit : BitVec 32}
    (held : Held monitor.functions (monitor.contexts context).topEntry
      (account.functions context) credit) :
    Held (monitor.functions.addSuspendedTime (monitor.contexts other).topEntry time)
      (monitor.contexts context).topEntry (account.functions context) credit := by
  apply held.congr
  intro entry member
  apply addSuspendedTime_of_ne
  intro isTop
  rw [(follows.held other).top_eq] at isTop
  apply consistent.apart context other different entry.function (mem_map_of_mem member)
  obtain ⟨first, head, same⟩ := Option.map_eq_some_iff.mp isTop
  rw [← same]
  exact mem_map_of_mem (mem_of_mem_head? head)

end Functions

/-! ## Entering a context -/

/-- Where no function of the context was suspended meanwhile, nothing is pending. -/
theorem Account.pending_enter (account : Account F) {context other : ContextId}
    (different : other ≠ context) :
    (account.enter context).pending other = account.pending other := by
  have above : (account.enter context).current ≠ some other := by
    intro same
    exact different (Option.some.inj same).symm
  rw [Account.pending, if_neg above, Account.pending]
  change account.now - account.interrupted other = _
  by_cases current : account.current = some other
  · rw [if_pos current, Account.interrupted_current current, Nat.sub_self]
  · rw [if_neg current, Account.interrupted_of_ne current]

/-! ## Leaving a context -/

/-- The own time of the context on top is what `pop` reports. -/
theorem Follows.reportedBy (follows : Follows monitor account) (consistent : account.Consistent)
    (stack : account.stack = entry :: rest) (short : account.now - entry.entered < Account.SPAN) :
    ContextRun.ReportedBy
      ((monitor.contexts entry.context).stackEntry.run entry.context account.now)
      { entry with left := account.now } := by
  have balanced := consistent.balanced
  obtain ⟨start, suspended⟩ := follows.measured entry (by rw [stack]; exact .head _)
  rw [stack] at balanced
  have sum : entry.entered + entry.own + entry.nested = account.now := balanced.1
  have runtime : ((monitor.contexts entry.context).stackEntry.thisRuntime account.now).toNat =
      entry.own := by
    rw [RuntimeStackEntry.thisRuntime, start, suspended, ← sum]
    have difference : ((entry.entered + entry.own + entry.nested : Nat) : BitVec 32) -
        (entry.entered : BitVec 32) - (entry.nested : BitVec 32) = (entry.own : BitVec 32) := by
      push_cast
      ring
    rw [difference]
    apply Nat.mod_eq_of_lt
    rw [Account.SPAN] at short
    omega
  refine ⟨rfl, runtime, ?_⟩
  change ((monitor.contexts entry.context).stackEntry.thisRuntime account.now).toNat +
    entry.nested + entry.entered = account.now
  rw [runtime]
  omega

theorem Account.leave_eq (stack : account.stack = entry :: rest) :
    account.leave = { account with
      since := account.interrupted
      stack := rest.modifyHead (Account.OpenContext.nest (account.now - entry.entered))
      contextRuns := account.contextRuns ++ [{ entry with left := account.now }] } := by
  rw [Account.leave, stack]

theorem Account.contexts_nest (time : Nat) (rest : List OpenContext) :
    (rest.modifyHead (Account.OpenContext.nest time)).map OpenContext.context =
      rest.map OpenContext.context := by
  cases rest with
  | nil => rfl
  | cons parent rest => rfl

/-- The pending time of a context that is neither left nor resumed. -/
theorem Account.pending_leave (stack : account.stack = entry :: rest)
    (different : context ≠ entry.context)
    (notParent : (rest.map OpenContext.context).head? ≠ some context) :
    account.leave.pending context = account.pending context := by
  have before : account.current ≠ some context := by
    rw [Account.current, stack]
    intro same
    exact different (Option.some.inj same).symm
  have after : account.leave.current ≠ some context := by
    rw [Account.leave_eq stack, Account.current, ← List.head?_map, Account.contexts_nest]
    exact notParent
  rw [Account.pending, Account.pending, if_neg before, if_neg after, Account.leave_eq stack]
  change account.now - account.interrupted context = _
  rw [Account.interrupted_of_ne before]

/-- The left context was on top up to now. -/
theorem Account.pending_left (stack : account.stack = entry :: rest) :
    account.pending entry.context = 0 ∧ account.leave.pending entry.context = 0 := by
  have before : account.current = some entry.context := by
    rw [Account.current, stack]
    rfl
  constructor
  · rw [Account.pending, if_pos before]
  · rw [Account.pending]
    split_ifs
    · rfl
    · rw [Account.leave_eq stack]
      change account.now - account.interrupted entry.context = 0
      rw [Account.interrupted_current before, Nat.sub_self]

section Contexts

variable [DecidableEq F]

theorem pushContext_eq (unused : (monitor.contexts context).stackEntry.prevEntry = none) :
    monitor.pushContext context now =
      { monitor with
        topEntry := some context
        contexts := update monitor.contexts context
          { monitor.contexts context with
            stackEntry := {
              prevEntry := some monitor.topEntry, startTimestamp := now, suspendedTime := 0 } }
        functions := monitor.functions.addSuspendedTime (monitor.contexts context).topEntry
          (now - (monitor.contexts context).suspendTimestamp) } := by
  have free : (monitor.contexts context).stackEntry.isUsed = false := by
    rw [RuntimeStackEntry.isUsed, unused]
    rfl
  have pushed : (monitor.contexts context).stackEntry.push now monitor.topEntry =
      { prevEntry := some monitor.topEntry, startTimestamp := now, suspendedTime := 0 } := by
    rw [RuntimeStackEntry.push, free, if_neg Bool.false_ne_true]
  rw [RuntimeMonitor.pushContext, free, if_neg Bool.false_ne_true, ← pushed]
  rfl

theorem Follows.enter (follows : Follows monitor account) (consistent : account.Consistent)
    (enters : account.MayEnter context) :
    Follows (monitor.pushContext context account.now) (account.enter context) := by
  obtain ⟨free, suspendedAt⟩ := follows.unused context enters
  have notCurrent : account.current ≠ some context := by
    intro current
    obtain ⟨first, head, same⟩ := Option.map_eq_some_iff.mp current
    apply enters
    rw [← same]
    exact mem_map_of_mem (mem_of_mem_head? head)
  have other : ∀ entry ∈ account.stack, entry.context ≠ context := by
    rintro entry member rfl
    exact enters (mem_map_of_mem member)
  rw [pushContext_eq free]
  constructor
  · refine ⟨rfl, monitor.topEntry, ?_, ?_⟩
    · change (update monitor.contexts context _ context).stackEntry.prevEntry = _
      rw [update_self]
    · apply follows.linked.congr
      intro below member
      change (update monitor.contexts context _ below).stackEntry.prevEntry = _
      rw [update_of_ne]
      rintro rfl
      exact enters member
  · intro entry member
    rcases mem_cons.mp member with rfl | below
    · change (update monitor.contexts context _ context).stackEntry.startTimestamp = _ ∧
        (update monitor.contexts context _ context).stackEntry.suspendedTime = _
      rw [update_self]
      exact ⟨rfl, rfl⟩
    · change (update monitor.contexts context _ _).stackEntry.startTimestamp = _ ∧
        (update monitor.contexts context _ _).stackEntry.suspendedTime = _
      rw [update_of_ne (other entry below)]
      exact follows.measured entry below
  · intro candidate outside
    have different : candidate ≠ context := fun same => outside (same ▸ .head _)
    have below : candidate ∉ account.stack.map OpenContext.context := fun member =>
      outside (.tail _ member)
    change (update monitor.contexts context _ candidate).stackEntry.prevEntry = _ ∧
      (update monitor.contexts context _ candidate).suspendTimestamp =
        (account.interrupted candidate : BitVec 32)
    rw [update_of_ne different, Account.interrupted_of_ne]
    · exact follows.unused candidate below
    · intro current
      obtain ⟨first, head, same⟩ := Option.map_eq_some_iff.mp current
      apply below
      rw [← same]
      exact mem_map_of_mem (mem_of_mem_head? head)
  · intro candidate
    change Held _ (update monitor.contexts context _ candidate).topEntry
      (account.functions candidate) _
    have held := follows.held candidate
    by_cases same : candidate = context
    · subst same
      rw [update_self]
      have pending : account.pending candidate = account.now - account.since candidate := by
        rw [Account.pending, if_neg notCurrent]
      have top : (account.enter candidate).pending candidate = 0 := by
        rw [Account.pending]
        exact if_pos rfl
      rw [pending, Nat.cast_sub (consistent.past candidate), ← suspendedAt,
        ← zero_add ((account.now : BitVec 32) - _)] at held
      rw [top]
      exact held.addSuspendedTime (consistent.distinct candidate)
    · rw [update_of_ne same, Account.pending_enter account same]
      exact follows.held_other consistent same _ held
  · intro function closed
    rw [prevEntry_addSuspendedTime]
    exact follows.closed function closed
  · exact follows.contextRuns
  · exact follows.functionRuns

/-- The context is the last one of the stack. -/
theorem pop_none (link : (monitor.contexts context).stackEntry.prevEntry = some none) :
    monitor.pop context now =
      { monitor with
        topEntry := none
        contexts := update monitor.contexts context
          { monitor.contexts context with
            stackEntry := (monitor.contexts context).stackEntry.release
            suspendTimestamp := now }
        contextRuns := monitor.contextRuns ++
          [(monitor.contexts context).stackEntry.run context now] } := by
  rw [RuntimeMonitor.pop, link]
  simp only [Option.getD_some, RuntimeMonitor.handDown, RuntimeMonitor.suspend,
    RuntimeMonitor.modify, update_self, update_idem]

/-- Another context is below. -/
theorem pop_some {context previous : ContextId}
    (link : (monitor.contexts context).stackEntry.prevEntry = some (some previous))
    (different : previous ≠ context) :
    monitor.pop context now =
      { monitor with
        topEntry := some previous
        contexts := update
          (update monitor.contexts previous
            { monitor.contexts previous with
              stackEntry := (monitor.contexts previous).stackEntry.addSuspendedTime
                ((monitor.contexts context).stackEntry.handedDown true now) })
          context
          { monitor.contexts context with
            stackEntry := (monitor.contexts context).stackEntry.release
            suspendTimestamp := now }
        functions := monitor.functions.addSuspendedTime (monitor.contexts previous).topEntry
          ((monitor.contexts context).stackEntry.handedDown true now)
        contextRuns := monitor.contextRuns ++
          [(monitor.contexts context).stackEntry.run context now] } := by
  rw [RuntimeMonitor.pop, link]
  simp only [Option.getD_some, RuntimeMonitor.handDown, RuntimeMonitor.suspend,
    RuntimeMonitor.modify, RuntimeMonitor.addSuspendedTime,
    RuntimeMonitor.addFunctionsSuspendedTime, update_of_ne different,
    update_of_ne (Ne.symm different), update_self]
  rw [update_comm different, update_idem,
    update_comm (Ne.symm different)]

/-- What a popped context hands down is the time from its enter on. -/
theorem handedDown_eq (entry : RuntimeStackEntry ContextId) (now : BitVec 32) :
    entry.handedDown true now = now - entry.startTimestamp := by
  rw [RuntimeStackEntry.handedDown, if_pos rfl, RuntimeStackEntry.thisRuntime]
  ring

theorem Follows.leave (follows : Follows monitor account) (consistent : account.Consistent)
    (leaves : account.MayLeave account.now context) :
    Follows (monitor.popContext context account.now) account.leave := by
  obtain ⟨entry, head, rfl, short⟩ := leaves
  obtain ⟨rest, stack⟩ := List.head?_eq_some_iff.mp head
  have linked := follows.linked
  have nodup := consistent.nodup
  have balanced := consistent.balanced
  rw [stack] at linked nodup balanced
  obtain ⟨isTop, previous, link, linked⟩ := linked
  obtain ⟨apart, _⟩ := nodup_cons.mp nodup
  obtain ⟨_, above, _⟩ := balanced
  have reported := follows.reportedBy consistent stack short
  have currentEq : account.current = some entry.context := by
    rw [Account.current, stack]
    rfl
  have ofRest : ∀ other ∈ rest, other.context ≠ entry.context := by
    intro other member same
    exact apart (same ▸ mem_map_of_mem member)
  have measured : ∀ other ∈ rest, _ := fun other member =>
    follows.measured other (by rw [stack]; exact .tail _ member)
  rw [RuntimeMonitor.popContext, if_pos isTop]
  have leftEq := Account.leave_eq stack
  cases rest with
  | nil =>
    obtain rfl : previous = none := linked
    rw [pop_none link]
    refine ⟨?_, ?_, ?_, ?_, ?_, ?_, ?_⟩
    · rw [leftEq]
      rfl
    · rw [leftEq]
      intro other member
      cases member
    · intro candidate _
      rw [leftEq]
      change (update monitor.contexts entry.context _ candidate).stackEntry.prevEntry =
        _ ∧ (update monitor.contexts entry.context _ candidate).suspendTimestamp =
          (account.interrupted candidate : BitVec 32)
      by_cases same : candidate = entry.context
      · subst same
        rw [update_self, Account.interrupted_current currentEq]
        exact ⟨rfl, rfl⟩
      · rw [update_of_ne same, Account.interrupted_of_ne]
        · apply follows.unused
          rw [stack]
          exact fun member => same (mem_singleton.mp member)
        · rw [currentEq]
          exact fun equal => same (Option.some.inj equal).symm
    · intro candidate
      have held := follows.held candidate
      change Held monitor.functions
        (update monitor.contexts entry.context _ candidate).topEntry _ _
      by_cases same : candidate = entry.context
      · subst same
        obtain ⟨before, after⟩ := Account.pending_left stack
        rw [before] at held
        rw [update_self, after, leftEq]
        exact held
      · rw [update_of_ne same,
          Account.pending_leave stack same (fun equal => by cases equal), leftEq]
        exact held
    · rw [leftEq]
      exact follows.closed
    · rw [leftEq]
      exact rel_append follows.contextRuns (.cons reported .nil)
    · rw [leftEq]
      exact follows.functionRuns
  | cons parent rest =>
    obtain ⟨rfl, further⟩ := linked
    have parentNot : parent.context ≠ entry.context := ofRest parent (.head _)
    have parentSince : account.since parent.context = entry.entered := above parent rfl
    have handed : (monitor.contexts entry.context).stackEntry.handedDown true
        (account.now : BitVec 32) = ((account.now - entry.entered : Nat) : BitVec 32) := by
      rw [handedDown_eq, (follows.measured entry (by rw [stack]; exact .head _)).1,
        Nat.cast_sub]
      rw [← parentSince]
      exact consistent.past parent.context
    rw [pop_some link parentNot, handed]
    have notParent : ∀ {candidate}, candidate ≠ parent.context →
        (((parent :: rest).map OpenContext.context).head? ≠ some candidate) :=
      fun different same => different (Option.some.inj same).symm
    refine ⟨?_, ?_, ?_, ?_, ?_, ?_, ?_⟩
    · rw [leftEq, Account.contexts_nest]
      have linked : Linked (fun context => (monitor.contexts context).stackEntry)
          (some parent.context) ((parent :: rest).map OpenContext.context) := ⟨rfl, further⟩
      refine linked.congr fun other member => ?_
      have different : other ≠ entry.context := fun same => apart (same ▸ member)
      change (update (update monitor.contexts parent.context _) entry.context _
        other).stackEntry.prevEntry = _
      rw [update_of_ne different]
      by_cases same : other = parent.context
      · subst same
        rw [update_self]
        rfl
      · rw [update_of_ne same]
    · rw [leftEq]
      intro other member
      change (update (update monitor.contexts parent.context _) entry.context _
          other.context).stackEntry.startTimestamp = _ ∧
        (update (update monitor.contexts parent.context _) entry.context _
          other.context).stackEntry.suspendedTime = _
      rcases mem_cons.mp member with rfl | below
      · obtain ⟨start, suspended⟩ := measured parent (.head _)
        change (update (update monitor.contexts parent.context _)
            entry.context _ parent.context).stackEntry.startTimestamp =
              (parent.entered : BitVec 32) ∧
          (update (update monitor.contexts parent.context _)
            entry.context _ parent.context).stackEntry.suspendedTime =
              ((parent.nested + (account.now - entry.entered) : Nat) : BitVec 32)
        rw [update_of_ne parentNot, update_self, Nat.cast_add, ← suspended]
        exact ⟨start, rfl⟩
      · have different : other.context ≠ parent.context := by
          intro same
          apply (nodup_cons.mp (nodup_cons.mp nodup).2).1
          rw [← same]
          exact mem_map_of_mem below
        rw [update_of_ne (ofRest other (.tail _ below)),
          update_of_ne different]
        exact measured other (.tail _ below)
    · intro candidate
      rw [leftEq, Account.contexts_nest]
      intro outside
      have different : candidate ≠ parent.context := fun same => outside (same ▸ .head _)
      change (update (update monitor.contexts parent.context _) entry.context _
          candidate).stackEntry.prevEntry = _ ∧
        (update (update monitor.contexts parent.context _) entry.context _
          candidate).suspendTimestamp = (account.interrupted candidate : BitVec 32)
      by_cases same : candidate = entry.context
      · subst same
        rw [update_self, Account.interrupted_current currentEq]
        exact ⟨rfl, rfl⟩
      · rw [update_of_ne same, update_of_ne different,
          Account.interrupted_of_ne]
        · apply follows.unused
          rw [stack]
          intro member
          rcases mem_cons.mp member with equal | below
          · exact same equal
          · exact outside below
        · rw [currentEq]
          exact fun equal => same (Option.some.inj equal).symm
    · intro candidate
      have held := follows.held candidate
      change Held _ (update (update monitor.contexts parent.context _)
        entry.context _ candidate).topEntry _ _
      by_cases same : candidate = entry.context
      · subst same
        obtain ⟨before, after⟩ := Account.pending_left stack
        rw [before] at held
        rw [update_self, after, leftEq]
        exact follows.held_other consistent (Ne.symm parentNot) _ held
      · rw [update_of_ne same]
        by_cases isParent : candidate = parent.context
        · subst isParent
          have before : account.pending parent.context = account.now - entry.entered := by
            rw [Account.pending, if_neg, parentSince]
            rw [currentEq]
            exact fun equal => parentNot (Option.some.inj equal).symm
          have after : account.leave.pending parent.context = 0 := by
            rw [Account.pending, if_pos]
            rw [leftEq]
            rfl
          rw [before, ← zero_add ((account.now - entry.entered : Nat) : BitVec 32)] at held
          rw [update_self, after, leftEq]
          exact held.addSuspendedTime (consistent.distinct parent.context)
        · rw [update_of_ne isParent,
            Account.pending_leave stack same (notParent isParent), leftEq]
          exact follows.held_other consistent isParent _ held
    · rw [leftEq]
      intro function closed
      rw [prevEntry_addSuspendedTime]
      exact follows.closed function closed
    · rw [leftEq]
      exact rel_append follows.contextRuns (.cons reported .nil)
    · rw [leftEq]
      exact follows.functionRuns

end Contexts

/-! ## Functions -/

section FunctionCalls

variable [DecidableEq F]

/-- Functions of other contexts are not affected by a function of this one. -/
theorem Held.update_other {functions : FunctionEntries F} {top : Option F}
    {list : List (OpenFunction F)} {credit : BitVec 32} (held : Held functions top list credit)
    (apart : function ∉ list.map OpenFunction.function) (entry : RuntimeStackEntry F) :
    Held (update functions function entry) top list credit := by
  apply held.congr
  intro other member
  apply update_of_ne
  rintro same
  exact apart (same ▸ mem_map_of_mem member)

omit [DecidableEq F] in
theorem Account.pending_current (current : account.current = some context) :
    account.pending context = 0 := by
  rw [Account.pending, if_pos current]

omit [DecidableEq F] in
/-- A change of the function stack of a context leaves the stack of contexts. -/
theorem Follows.withFunctions (follows : Follows monitor account) {topEntry : Option F}
    {functions : FunctionEntries F} {opened : ContextId → List (OpenFunction F)}
    {functionRuns : List (Run F)} {actualRuns : List (FunctionRun F)}
    (held : ∀ candidate, Held functions
      (update monitor.contexts context
        { monitor.contexts context with topEntry := topEntry } candidate).topEntry
      (opened candidate) (account.pending candidate : BitVec 32))
    (closed : ∀ function, ({ account with functions := opened } : Account F).IsClosed function →
      (functions function).prevEntry = none)
    (runs : List.Forall₂ (fun run actual => FunctionRun.ReportedBy run actual) functionRuns
      actualRuns) :
    Follows
      { monitor.modify context (fun entry => { entry with topEntry := topEntry }) with
        functions := functions, functionRuns := functionRuns }
      { account with functions := opened, functionRuns := actualRuns } where
  linked := by
    apply follows.linked.congr
    intro other member
    change (update monitor.contexts context _ other).stackEntry.prevEntry = _
    by_cases same : other = context
    · subst same
      rw [update_self]
    · rw [update_of_ne same]
  measured := by
    intro entry member
    change (update monitor.contexts context _ entry.context).stackEntry.startTimestamp =
        _ ∧ (update monitor.contexts context _ entry.context).stackEntry.suspendedTime = _
    by_cases same : entry.context = context
    · rw [same, update_self, ← same]
      exact follows.measured entry member
    · rw [update_of_ne same]
      exact follows.measured entry member
  unused := by
    intro other outside
    change (update monitor.contexts context _ other).stackEntry.prevEntry = _ ∧
      (update monitor.contexts context _ other).suspendTimestamp = _
    by_cases same : other = context
    · subst same
      rw [update_self]
      exact follows.unused other outside
    · rw [update_of_ne same]
      exact follows.unused other outside
  held := held
  closed := closed
  contextRuns := follows.contextRuns
  functionRuns := runs

theorem Follows.enterFunction (follows : Follows monitor account)
    (isClosed : account.IsClosed function) :
    Follows (monitor.enterFunction function account.now) (account.enterFunction function) := by
  rw [RuntimeMonitor.enterFunction, Account.enterFunction, follows.topEntry]
  cases current : account.current with
  | none => exact follows
  | some context =>
    have unused := follows.closed function isClosed
    dsimp only
    rw [RuntimeMonitor.pushFunction, if_neg]
    · apply follows.withFunctions
      · intro candidate
        have held := follows.held candidate
        by_cases same : candidate = context
        · subst same
          rw [Account.pending_current current] at held ⊢
          rw [update_self, update_self]
          exact held.push (isClosed candidate) unused
        · rw [update_of_ne same, update_of_ne same]
          exact held.update_other (isClosed candidate) _
      · intro other closed
        have different : other ≠ function := by
          rintro rfl
          apply closed context
          change other ∈ (update account.functions context _ context).map _
          rw [update_self]
          exact .head _
        rw [update_of_ne different]
        apply follows.closed
        intro candidate member
        apply closed candidate
        change other ∈ (update account.functions context _ candidate).map _
        by_cases same : candidate = context
        · subst same
          rw [update_self]
          exact .tail _ member
        · rw [update_of_ne same]
          exact member
      · exact follows.functionRuns
    · rw [RuntimeStackEntry.isUsed, unused]
      exact Bool.false_ne_true

theorem Follows.leaveFunction (follows : Follows monitor account)
    (consistent : account.Consistent) (leaves : account.MayLeaveFunction account.now function) :
    Follows (monitor.leaveFunction function account.now) (account.leaveFunction function) := by
  rw [RuntimeMonitor.leaveFunction, Account.leaveFunction, follows.topEntry]
  cases current : account.current with
  | none => exact follows
  | some context =>
    dsimp only
    have held := follows.held context
    rw [Account.pending_current current] at held
    cases opened : account.functions context with
    | nil =>
      rw [opened] at held
      rw [RuntimeMonitor.popFunction, show (monitor.contexts context).topEntry = none from held,
        if_neg (fun same => by cases same)]
      exact follows
    | cons entry rest =>
      rw [opened] at held
      dsimp only
      by_cases here : entry.function = function
      · subst here
        have distinct := consistent.distinct context
        rw [opened] at distinct
        have short : account.now - entry.entered < Account.SPAN := by
          rcases leaves with isClosed | ⟨top, same, first, head, _, short⟩
          · apply absurd _ (isClosed context)
            rw [opened]
            exact .head _
          · obtain rfl : context = top := Option.some.inj (current.symm.trans same)
            rw [opened] at head
            cases head
            exact short
        obtain ⟨⟨start, runtime, suspended⟩, popped⟩ := held.pop distinct account.now
        have within := consistent.within context entry (by rw [opened]; exact .head _)
        rw [if_pos rfl, RuntimeMonitor.popFunction, if_pos held.1]
        apply follows.withFunctions
        · intro candidate
          by_cases same : candidate = context
          · subst same
            rw [Account.pending_current current, update_self, update_self]
            exact popped
          · rw [update_of_ne same, update_of_ne same]
            have others := follows.held candidate
            have outside : ∀ name ∈ (entry :: rest).map OpenFunction.function,
                name ∉ (account.functions candidate).map OpenFunction.function := by
              intro name member
              apply consistent.apart context candidate (Ne.symm same) name
              rw [opened]
              exact member
            apply Held.update_other _ (outside entry.function (.head _))
            apply others.congr
            intro other member
            apply addSuspendedTime_of_ne
            rw [(show Held _ _ rest 0 from popped).top_eq]
            intro isTop
            obtain ⟨first, head, name⟩ := Option.map_eq_some_iff.mp isTop
            apply outside other.function _ (mem_map_of_mem member)
            rw [← name]
            exact .tail _ (mem_map_of_mem (mem_of_mem_head? head))
        · intro other closed
          by_cases same : other = entry.function
          · subst same
            rw [update_self]
            rfl
          · rw [update_of_ne same, prevEntry_addSuspendedTime]
            apply follows.closed
            intro candidate member
            apply closed candidate
            change other ∈ (update account.functions context rest candidate).map _
            by_cases isContext : candidate = context
            · subst isContext
              rw [update_self]
              rw [opened] at member
              rcases mem_cons.mp member with equal | below
              · exact absurd equal same
              · exact below
            · rw [update_of_ne isContext]
              exact member
        · apply rel_append follows.functionRuns (.cons ⟨rfl, ?_⟩ .nil)
          change ((monitor.functions entry.function).thisRuntime account.now).toNat +
            entry.suspended + entry.entered = account.now
          have difference : (account.now : BitVec 32) - (entry.entered : BitVec 32) -
              (entry.suspended : BitVec 32) =
                ((account.now - entry.entered - entry.suspended : Nat) : BitVec 32) := by
            rw [Nat.sub_sub, Nat.cast_sub within]
            push_cast
            ring
          have exactly : ((account.now - entry.entered - entry.suspended : Nat) :
              BitVec 32).toNat = account.now - entry.entered - entry.suspended := by
            apply Nat.mod_eq_of_lt
            rw [Account.SPAN] at short
            omega
          rw [runtime, difference, exactly]
          omega
      · rw [if_neg here, RuntimeMonitor.popFunction, if_neg]
        · exact follows
        · rw [held.1]
          exact fun same => here (Option.some.inj same)

end FunctionCalls

/-! ## Runs -/

/-- A monitor and the account of its calls. -/
structure MonitorRun (F : Type u) where
  monitor : RuntimeMonitor F
  account : Account F

namespace MonitorRun

variable [DecidableEq F]

/-- Properly nested calls from some time on. -/
def system (F : Type u) [DecidableEq F] : System (MonitorRun F) (Nat × RuntimeCall F) where
  Initial run := ∃ now, run = { monitor := {}, account := { now := now } }
  Step source event target :=
    source.account.ProperlyNested event.1 event.2 ∧
      target = {
        monitor := source.monitor.call event.1 event.2
        account := source.account.call event.1 event.2 }

/-- Every tick is in the runtime of one context, and the runtimes of the functions are those of
their contexts. -/
structure Exact (run : MonitorRun F) : Prop where
  contextRuns : List.Forall₂ (fun reported actual => ContextRun.ReportedBy reported actual)
    run.monitor.contextRuns run.account.contextRuns
  functionRuns : List.Forall₂ (fun reported actual => FunctionRun.ReportedBy reported actual)
    run.monitor.functionRuns run.account.functionRuns
  total : (run.monitor.contextRuns.map fun reported => reported.runtime.toNat).sum +
    (run.account.stack.map OpenContext.own).sum = run.account.busy

structure Invariant (run : MonitorRun F) : Prop where
  consistent : run.account.Consistent
  follows : Follows run.monitor run.account

/-- The reported runtimes are the own times. -/
theorem sum_runtimes {reported : List (Run ContextId)} {actual : List ContextRun}
    (each : List.Forall₂ (fun run context => ContextRun.ReportedBy run context) reported actual) :
    (reported.map fun run => run.runtime.toNat).sum = (actual.map fun run => run.own).sum := by
  induction each with
  | nil => rfl
  | cons first rest ih =>
    rw [map_cons, map_cons, sum_cons, sum_cons, ih, first.2.1]

omit [DecidableEq F] in
theorem Invariant.exact {run : MonitorRun F} (invariant : run.Invariant) : run.Exact where
  contextRuns := invariant.follows.contextRuns
  functionRuns := invariant.follows.functionRuns
  total := by
    rw [sum_runtimes invariant.follows.contextRuns]
    exact invariant.consistent.total

theorem Invariant.call {run : MonitorRun F} (invariant : run.Invariant) {now : Nat}
    {call : RuntimeCall F} (nested : run.account.ProperlyNested now call) :
    ({ monitor := run.monitor.call now call, account := run.account.call now call } :
      MonitorRun F).Invariant := by
  obtain ⟨later, possible⟩ := nested
  have consistent := invariant.consistent.pass later
  have follows := invariant.follows.pass invariant.consistent later
  have mayEnter : ∀ {context}, run.account.MayEnter context →
      (run.account.pass now).MayEnter context := by
    intro context enters
    rw [Account.MayEnter, Account.contexts_pass]
    exact enters
  have mayLeave : ∀ {context}, run.account.MayLeave now context →
      (run.account.pass now).MayLeave (run.account.pass now).now context := by
    rintro context ⟨entry, head, same, short⟩
    obtain ⟨rest, stack⟩ := List.head?_eq_some_iff.mp head
    refine ⟨Account.OpenContext.work (now - run.account.now) entry, ?_, same, short⟩
    change (run.account.stack.modifyHead _).head? = _
    rw [stack]
    rfl
  have isClosed : ∀ {function}, run.account.IsClosed function →
      (run.account.pass now).IsClosed function := by
    intro function closed context
    rw [Account.functions_pass]
    exact closed context
  cases call with
  | enterTask taskIdx =>
    exact ⟨consistent.enter (mayEnter possible), follows.enter consistent (mayEnter possible)⟩
  | leaveTask taskIdx =>
    exact ⟨consistent.leave, follows.leave consistent (mayLeave possible)⟩
  | enterIsrGroup isrGroupIdx =>
    exact ⟨consistent.enter (mayEnter possible), follows.enter consistent (mayEnter possible)⟩
  | leaveIsrGroup isrGroupIdx =>
    exact ⟨consistent.leave, follows.leave consistent (mayLeave possible)⟩
  | enterFunction function =>
    exact ⟨consistent.enterFunction (isClosed possible),
      follows.enterFunction (isClosed possible)⟩
  | leaveFunction function =>
    refine ⟨consistent.leaveFunction function, follows.leaveFunction consistent ?_⟩
    rcases possible with closed | ⟨context, current, entry, head, same, short⟩
    · exact Or.inl (isClosed closed)
    · refine Or.inr ⟨context, ?_, entry, ?_, same, short⟩
      · rw [Account.current_pass]
        exact current
      · change (if _ then _ else _ : List (OpenFunction F)).head? = _
        rw [if_pos (show run.account.current = some context from current)]
        exact head

theorem invariant_inductive : (system F).Inductive Invariant where
  initial := by
    rintro _ ⟨now, rfl⟩
    constructor
    · exact ⟨nodup_nil, trivial, fun _ => Nat.zero_le _, rfl, fun _ => nodup_nil,
        fun _ _ _ _ member => absurd member not_mem_nil,
        fun _ _ member => absurd member not_mem_nil⟩
    · exact ⟨rfl, fun _ member => absurd member not_mem_nil, fun _ _ => ⟨rfl, rfl⟩,
        fun _ => rfl, fun _ _ => rfl, .nil, .nil⟩
  step := by
    rintro source ⟨now, call⟩ target invariant ⟨nested, rfl⟩
    exact invariant.call nested

/-- In every properly nested sequence of calls the statistics account every tick exactly once. -/
theorem runtime_exact {run : MonitorRun F} (reached : (system F).Reachable run) : run.Exact :=
  (invariant_inductive.of_reachable reached).exact

/-- The run behind some calls. -/
def play (run : MonitorRun F) (events : List (Nat × RuntimeCall F)) : MonitorRun F :=
  events.foldl (fun run event => {
    monitor := run.monitor.call event.1 event.2
    account := run.account.call event.1 event.2 }) run

/-- Each call is properly nested behind those before it. -/
def Nested (run : MonitorRun F) : List (Nat × RuntimeCall F) → Prop
  | [] => True
  | event :: rest =>
    run.account.ProperlyNested event.1 event.2 ∧ Nested (play run [event]) rest

theorem reachable_play {run : MonitorRun F} (reached : (system F).Reachable run)
    {events : List (Nat × RuntimeCall F)} (nested : Nested run events) :
    (system F).Reachable (play run events) := by
  induction events generalizing run with
  | nil => exact reached
  | cons event rest ih => exact ih (reached.step ⟨nested.1, rfl⟩) nested.2

/-- A task that is interrupted, switched away and resumed with a function open. -/
def sampleCalls : List (Nat × RuntimeCall Nat) :=
  [(4294967290, .enterTask 0), (4294967292, .enterFunction 9), (4294967294, .enterIsrGroup 1),
    (4294967298, .leaveIsrGroup 1), (4294967300, .leaveTask 0), (4294967310, .enterTask 0),
    (4294967313, .leaveFunction 9), (4294967315, .leaveTask 0)]

/-- The runtimes are exact although the time wraps. -/
theorem runtime_exact_sample :
    (play { monitor := {}, account := { now := 0 } } sampleCalls).monitor.contextRuns.map
        (fun reported => (reported.entry, reported.runtime)) =
      [(.isrGroup 1, 4), (.task 0, 6), (.task 0, 5)] ∧
    (play { monitor := {}, account := { now := 0 } } sampleCalls).monitor.functionRuns.map
        (fun reported => (reported.entry, reported.runtime)) = [(9, 7)] ∧
    (play { monitor := {}, account := { now := 0 } } sampleCalls).Exact := by
  have nested : Nested { monitor := {}, account := { now := 0 } } sampleCalls := by
    refine ⟨⟨by decide, not_mem_nil⟩, ⟨by decide, fun context => ?_⟩,
      ⟨by decide, not_mem_cons_of_ne_of_not_mem (by decide) not_mem_nil⟩,
      ⟨by decide, ⟨_, rfl, rfl, by decide⟩⟩, ⟨by decide, ⟨_, rfl, rfl, by decide⟩⟩,
      ⟨by decide, not_mem_nil⟩,
      ⟨by decide, Or.inr ⟨.task 0, rfl, _, rfl, rfl, by decide⟩⟩,
      ⟨by decide, ⟨_, rfl, rfl, by decide⟩⟩, trivial⟩
    simp [play, Account.call, Account.pass, Account.enter]
  exact ⟨by decide, by decide,
    runtime_exact (reachable_play (.initial ⟨0, rfl⟩) nested)⟩

end MonitorRun

end OpenBsw.Runtime
