import OpenBsw.Async.TaskContext

/-!
# Executed runnables

The runnables that were accepted are the executed ones, then the one the
dispatch loop holds, then those in the queue.  Whenever the queue is not empty,
the execute event is set or about to be set, or the dispatch loop is draining
the queue: the event is cleared before the queue is drained, and it is set
behind every enqueue.
-/

namespace OpenBsw.Async

variable {Runnable Timeout Caller : Type} {config : Config}

/-! ## The dispatch loop and the queue -/

namespace Phase

/-- The runnable that was dequeued and is about to be executed. -/
def inHand : Phase Runnable Timeout → List Runnable
  | .execute _ runnable => [runnable]
  | _ => []

/-- The dispatch loop is inside `RunnableExecutor::handleEvent` and will dequeue
again. -/
def draining : Phase Runnable Timeout → Bool
  | .dequeue _ | .execute _ _ | .executing _ => true
  | _ => false

theorem inHand_of_idle {phase : Phase Runnable Timeout} (idle : phase.draining = false) :
    phase.inHand = [] := by
  cases phase with
  | execute => cases idle
  | _ => rfl

@[simp]
theorem inHand_handleTimerEvent (eventMask : EventMask) :
    (handleTimerEvent eventMask : Phase Runnable Timeout).inHand = [] := by
  unfold handleTimerEvent
  split <;> rfl

@[simp]
theorem inHand_handleEvents (eventMask : EventMask) :
    (handleEvents eventMask : Phase Runnable Timeout).inHand = [] := by
  unfold handleEvents
  split
  · rfl
  · exact inHand_handleTimerEvent eventMask

theorem draining_handleEvents {eventMask : EventMask} (member : .execute ∈ eventMask) :
    (handleEvents eventMask : Phase Runnable Timeout).draining = true := by
  rw [handleEvents, if_pos member]
  rfl

end Phase

namespace Shared

/-- Nothing of the executor changed, and no event. -/
structure SameExecutor (shared after : Shared Runnable Timeout) : Prop where
  queue : after.queue = shared.queue
  accepted : after.accepted = shared.accepted
  executed : after.executed = shared.executed
  events : after.events = shared.events

theorem SameExecutor.refl (shared : Shared Runnable Timeout) : SameExecutor shared shared :=
  ⟨rfl, rfl, rfl, rfl⟩

theorem SameExecutor.insertTimeout [DecidableEq Timeout] {shared : Shared Runnable Timeout}
    {addition : Addition Timeout} {result : Shared Runnable Timeout × Bool}
    (inserted : shared.insertTimeout addition = some result) : SameExecutor shared result.1 := by
  unfold Shared.insertTimeout at inserted
  split at inserted
  · cases inserted
  · cases inserted
    exact ⟨rfl, rfl, rfl, rfl⟩

theorem events_enqueue [DecidableEq Runnable] (shared : Shared Runnable Timeout)
    (runnable : Runnable) : (shared.enqueue runnable).events = shared.events := by
  unfold enqueue
  split <;> rfl

end Shared

section

variable [DecidableEq Runnable] [DecidableEq Timeout] {shared after : Shared Runnable Timeout}

/-- What a step of a call does to the executor and to the events. -/
theorem Call.step_cases {call next : Call Runnable Timeout}
    (stepped : call.step shared = some (after, next)) :
    (∃ runnable, call = .enqueue runnable ∧
      after = { shared.enqueue runnable with
        accepted := if shared.queue.isEnqueued runnable then shared.accepted
          else shared.accepted ++ [runnable] } ∧
      next = .setEvent .execute) ∨
    (∃ event, call = .setEvent event ∧
      after = { shared with events := shared.events ∪ {event} }) ∨
    ((∀ event, call ≠ .setEvent event) ∧ shared.SameExecutor after) := by
  cases call with
  | idle => cases stepped
  | enqueue runnable =>
    cases stepped
    exact .inl ⟨runnable, rfl, rfl, rfl⟩
  | setEvent event =>
    cases stepped
    exact .inr (.inl ⟨event, rfl, rfl⟩)
  | insert addition =>
    obtain ⟨result, inserted, same⟩ := Option.map_eq_some_iff.mp stepped
    cases same
    exact .inr (.inr ⟨by simp, .insertTimeout inserted⟩)
  | isActive | isLinked | cancel =>
    refine .inr (.inr ⟨by simp, ?_⟩)
    simp only [Call.step] at stepped
    split at stepped <;> cases stepped <;> exact .refl _
  | setRunnable | readTime | setTimes | erase =>
    cases stepped
    exact .inr (.inr ⟨by simp, rfl, rfl, rfl, rfl⟩)

/-- What a step of the dispatch loop does to the executor and to the events. -/
theorem Phase.step_cases {phase next : Phase Runnable Timeout}
    (stepped : phase.step config shared = some (after, next)) :
    (∃ eventMask, phase = .dequeue eventMask ∧
      after = { shared with queue := shared.queue.dequeue.2 } ∧
      ((∃ runnable, shared.queue.dequeue.1 = some runnable ∧
          next = .execute eventMask runnable) ∨
        (shared.queue.dequeue.1 = none ∧ next = handleTimerEvent eventMask))) ∨
    (∃ eventMask runnable, phase = .execute eventMask runnable ∧
      after = { shared with executed := shared.executed ++ [runnable] } ∧
      next = .executing eventMask) ∨
    (∃ eventMask, phase = .executing eventMask ∧ after = shared ∧ next = .dequeue eventMask) ∨
    (∃ wait start, phase = .waiting wait start ∧ after = { shared with events := ∅ } ∧
      next = handleEvents shared.events) ∨
    (phase.draining = false ∧ next.inHand = [] ∧ shared.SameExecutor after) := by
  cases phase with
  | dequeue eventMask =>
    refine .inl ⟨eventMask, rfl, ?_⟩
    rcases dequeued : shared.queue.dequeue with ⟨taken, queue⟩
    simp only [Phase.step, dequeued] at stepped
    cases taken with
    | none =>
      cases stepped
      exact ⟨rfl, .inr ⟨rfl, rfl⟩⟩
    | some runnable =>
      cases stepped
      exact ⟨rfl, .inl ⟨runnable, rfl, rfl⟩⟩
  | execute eventMask runnable =>
    cases stepped
    exact .inr (.inl ⟨eventMask, runnable, rfl, rfl, rfl⟩)
  | executing eventMask =>
    cases stepped
    exact .inr (.inr (.inl ⟨eventMask, rfl, rfl, rfl⟩))
  | waiting wait start =>
    simp only [Phase.step] at stepped
    split at stepped
    · cases stepped
    · cases stepped
      exact .inr (.inr (.inr (.inl ⟨wait, start, rfl, rfl, rfl⟩)))
  | insert eventMask addition again =>
    obtain ⟨result, inserted, same⟩ := Option.map_eq_some_iff.mp stepped
    cases same
    exact .inr (.inr (.inr (.inr ⟨rfl, rfl, .insertTimeout inserted⟩)))
  | processNextTimeout eventMask now =>
    refine .inr (.inr (.inr (.inr ⟨rfl, ?_⟩)))
    simp only [Phase.step] at stepped
    split at stepped
    · cases stepped
      exact ⟨rfl, .refl _⟩
    · split at stepped <;> cases stepped <;> exact ⟨rfl, rfl, rfl, rfl, rfl⟩
  | isLinked eventMask addition again =>
    refine .inr (.inr (.inr (.inr ⟨rfl, ?_⟩)))
    simp only [Phase.step] at stepped
    split at stepped <;> cases stepped <;> exact ⟨rfl, .refl _⟩
  | reschedule eventMask now timeout again =>
    refine .inr (.inr (.inr (.inr ⟨rfl, ?_⟩)))
    simp only [Phase.step] at stepped
    split at stepped <;> cases stepped <;> exact ⟨rfl, .refl _⟩
  | loop eventMask =>
    cases stepped
    refine .inr (.inr (.inr (.inr ⟨rfl, ?_, .refl _⟩)))
    split <;> rfl
  | expiring eventMask again =>
    cases stepped
    refine .inr (.inr (.inr (.inr ⟨rfl, ?_, .refl _⟩)))
    split <;> rfl
  | readTime | getNextDelta | notifyWait | handleTimeout | setTimes | expire =>
    cases stepped
    exact .inr (.inr (.inr (.inr ⟨rfl, rfl, rfl, rfl, rfl, rfl⟩)))
  | stopped => cases stepped

end

/-! ## Events -/

variable {action : Action Runnable Timeout Caller} {calls : Caller → Call Runnable Timeout}

namespace TaskContext

variable {context target : TaskContext Runnable Timeout Caller} {event : Event}

/-- An event is set, or a caller is about to set it. -/
def Announced (context : TaskContext Runnable Timeout Caller) (event : Event) : Prop :=
  event ∈ context.shared.events ∨ ∃ caller, context.calls caller = .setEvent event

variable [DecidableEq Runnable] [DecidableEq Timeout] [DecidableEq Caller]

omit [DecidableEq Runnable] [DecidableEq Timeout] in
/-- A caller that does not set the event leaves those that are about to. -/
theorem exists_setEvent_update {caller : Caller} (about : ∃ other, calls other = .setEvent event)
    (apart : calls caller ≠ .setEvent event) (call : Call Runnable Timeout) :
    ∃ other, Function.update calls caller call other = .setEvent event := by
  obtain ⟨other, about⟩ := about
  refine ⟨other, ?_⟩
  rw [Function.update_of_ne]
  · exact about
  · rintro rfl
    exact apart about

/-- Only waiting takes the announcement of an event back. -/
theorem Announced.step (announced : context.Announced event)
    (stepped : context.step config action = some target) :
    target.Announced event ∨
      ∃ wait start, context.phase = .waiting wait start ∧ event ∈ context.shared.events ∧
        target.phase = .handleEvents context.shared.events := by
  cases action with
  | call caller request =>
    simp only [TaskContext.step] at stepped
    split at stepped
    · rename_i idle
      cases stepped
      refine .inl (announced.imp_right fun about => exists_setEvent_update about ?_ _)
      simp [idle]
    · cases stepped
  | proceed caller =>
    obtain ⟨⟨after, next⟩, callStepped, same⟩ := Option.map_eq_some_iff.mp stepped
    cases same
    left
    rcases Call.step_cases callStepped with
      ⟨runnable, here, rfl, rfl⟩ | ⟨other, here, rfl⟩ | ⟨apart, executor⟩
    · refine announced.imp (fun member => ?_) fun about => exists_setEvent_update about ?_ _
      · rw [Shared.events_enqueue]
        exact member
      · simp [here]
    · by_cases same : other = event
      · subst same
        exact .inl (Finset.mem_union_right _ (Finset.mem_singleton_self _))
      · refine announced.imp (fun member => Finset.mem_union_left _ member) fun about =>
          exists_setEvent_update about ?_ _
        rw [here]
        exact fun equal => same (Call.setEvent.inj equal)
    · refine announced.imp (fun member => ?_) fun about =>
        exists_setEvent_update about (apart event) _
      rw [executor.events]
      exact member
  | dispatch =>
    obtain ⟨⟨after, next⟩, phaseStepped, same⟩ := Option.map_eq_some_iff.mp stepped
    cases same
    rcases Phase.step_cases phaseStepped with
      ⟨_, _, rfl, _⟩ | ⟨_, _, _, rfl, _⟩ | ⟨_, _, rfl, _⟩ | ⟨wait, start, here, rfl, rfl⟩ |
        ⟨_, _, executor⟩
    · exact .inl announced
    · exact .inl announced
    · exact .inl announced
    · rcases announced with member | about
      · exact .inr ⟨wait, start, here, member, rfl⟩
      · exact .inl (.inr about)
    · refine .inl (announced.imp_left fun member => ?_)
      rw [executor.events]
      exact member
  | timeOut =>
    simp only [TaskContext.step] at stepped
    split at stepped
    · split at stepped
      · cases stepped
        exact .inl announced
      · cases stepped
    · cases stepped
  | elapse duration =>
    simp only [TaskContext.step] at stepped
    split at stepped
    · cases stepped
      exact .inl announced
    · cases stepped

/-! ## Invariant -/

omit [DecidableEq Runnable] [DecidableEq Timeout] [DecidableEq Caller] in
/-- The runnables, in the order they were accepted, are the executed ones, then
the one about to be executed, then those in the queue, which is a list without
cycles that holds each of them once. -/
def InOrder (context : TaskContext Runnable Timeout Caller) : Prop :=
  ∃ enqueued, context.shared.queue.Holds enqueued ∧
    context.shared.accepted = context.shared.executed ++ context.phase.inHand ++ enqueued

omit [DecidableEq Runnable] [DecidableEq Timeout] [DecidableEq Caller] in
/-- An enqueued runnable will be seen. -/
def Awake (context : TaskContext Runnable Timeout Caller) : Prop :=
  context.shared.queue.first ≠ none →
    context.Announced .execute ∨ context.phase.draining = true

omit [DecidableEq Runnable] [DecidableEq Timeout] [DecidableEq Caller] in
theorem InOrder.of_same {shared : Shared Runnable Timeout} {phase : Phase Runnable Timeout}
    (inOrder : context.InOrder) (executor : context.shared.SameExecutor shared)
    (inHand : phase.inHand = context.phase.inHand) : InOrder { shared, phase, calls } := by
  obtain ⟨enqueued, holds, accepted⟩ := inOrder
  refine ⟨enqueued, ?_, ?_⟩
  · rw [executor.queue]
    exact holds
  · rw [executor.accepted, executor.executed, inHand, accepted]

omit [DecidableEq Caller] in
theorem InOrder.call (inOrder : context.InOrder) {caller : Caller}
    {after : Shared Runnable Timeout} {next : Call Runnable Timeout}
    (stepped : (context.calls caller).step context.shared = some (after, next)) :
    InOrder { shared := after, phase := context.phase, calls } := by
  rcases Call.step_cases stepped with ⟨runnable, _, rfl, _⟩ | ⟨_, _, rfl⟩ | ⟨_, executor⟩
  · obtain ⟨enqueued, holds, accepted⟩ := inOrder
    cases already : context.shared.queue.isEnqueued runnable with
    | true =>
      refine ⟨enqueued, ?_⟩
      simp only [Shared.enqueue, already, if_true]
      exact ⟨holds, accepted⟩
    | false =>
      refine ⟨enqueued ++ [runnable], ?_⟩
      simp only [Shared.enqueue, already, Bool.false_eq_true, if_false]
      exact ⟨holds.enqueue already, by rw [accepted, List.append_assoc]⟩
  · exact inOrder
  · exact inOrder.of_same executor rfl

omit [DecidableEq Caller] in
theorem InOrder.dispatch (inOrder : context.InOrder) {after : Shared Runnable Timeout}
    {next : Phase Runnable Timeout}
    (stepped : context.phase.step config context.shared = some (after, next)) :
    InOrder { shared := after, phase := next, calls := context.calls } := by
  obtain ⟨enqueued, holds, accepted⟩ := inOrder
  rcases Phase.step_cases stepped with
    ⟨eventMask, here, rfl, dequeued⟩ | ⟨eventMask, runnable, here, rfl, rfl⟩ |
      ⟨eventMask, here, rfl, rfl⟩ | ⟨wait, start, here, rfl, rfl⟩ | ⟨idle, inHand, executor⟩
  · rw [here] at accepted
    cases enqueued with
    | nil =>
      rw [holds.dequeue_nil] at dequeued ⊢
      obtain ⟨runnable, taken, _⟩ | ⟨_, rfl⟩ := dequeued
      · cases taken
      · exact ⟨[], holds, by rwa [Phase.inHand_handleTimerEvent]⟩
    | cons first rest =>
      obtain ⟨taken, behind⟩ := holds.dequeue_cons
      obtain ⟨runnable, same, rfl⟩ | ⟨none, _⟩ := dequeued
      · obtain rfl := Option.some.inj (taken.symm.trans same)
        exact ⟨rest, behind, by simpa [Phase.inHand] using accepted⟩
      · rw [taken] at none
        cases none
  · rw [here] at accepted
    exact ⟨enqueued, holds, by simpa [Phase.inHand] using accepted⟩
  · rw [here] at accepted
    exact ⟨enqueued, holds, accepted⟩
  · rw [here] at accepted
    exact ⟨enqueued, holds, by rwa [Phase.inHand_handleEvents]⟩
  · refine ⟨enqueued, ?_, ?_⟩
    · rw [executor.queue]
      exact holds
    · rw [Phase.inHand_of_idle idle] at accepted
      rw [executor.accepted, executor.executed, inHand]
      exact accepted

theorem InOrder.step (inOrder : context.InOrder)
    (stepped : context.step config action = some target) : target.InOrder := by
  cases action with
  | call caller request =>
    simp only [TaskContext.step] at stepped
    split at stepped <;> cases stepped
    exact inOrder
  | proceed caller =>
    obtain ⟨⟨after, next⟩, callStepped, same⟩ := Option.map_eq_some_iff.mp stepped
    cases same
    exact inOrder.call callStepped
  | dispatch =>
    obtain ⟨⟨after, next⟩, phaseStepped, same⟩ := Option.map_eq_some_iff.mp stepped
    cases same
    exact inOrder.dispatch phaseStepped
  | timeOut =>
    simp only [TaskContext.step] at stepped
    split at stepped
    · rename_i wait start here
      split at stepped <;> cases stepped
      exact inOrder.of_same (.refl _) (by rw [here, Phase.inHand_handleEvents]; rfl)
    · cases stepped
  | elapse duration =>
    simp only [TaskContext.step] at stepped
    split at stepped <;> cases stepped
    exact inOrder

/-- A step that keeps the queue keeps it seen, unless it leaves the draining. -/
theorem Awake.of_same (awake : context.Awake) (stepped : context.step config action = some target)
    (queue : target.shared.queue = context.shared.queue)
    (draining : context.phase.draining = true → target.phase.draining = true) : target.Awake := by
  intro waiting
  rw [queue] at waiting
  rcases awake waiting with announced | inside
  · rcases announced.step stepped with still | ⟨_, _, _, member, phase⟩
    · exact .inl still
    · rw [phase]
      exact .inr (Phase.draining_handleEvents member)
  · exact .inr (draining inside)

theorem Awake.step (inOrder : context.InOrder) (awake : context.Awake)
    (stepped : context.step config action = some target) : target.Awake := by
  cases action with
  | call caller request =>
    refine awake.of_same stepped ?_ ?_ <;>
      (simp only [TaskContext.step] at stepped; split at stepped <;> cases stepped)
    · rfl
    · exact id
  | proceed caller =>
    obtain ⟨⟨after, next⟩, callStepped, same⟩ := Option.map_eq_some_iff.mp stepped
    cases same
    rcases Call.step_cases callStepped with
      ⟨runnable, _, rfl, rfl⟩ | ⟨_, _, rfl⟩ | ⟨_, executor⟩
    · exact fun _ => .inl (.inr ⟨caller, Function.update_self ..⟩)
    · exact awake.of_same stepped rfl id
    · exact awake.of_same stepped executor.queue id
  | dispatch =>
    obtain ⟨⟨after, next⟩, phaseStepped, same⟩ := Option.map_eq_some_iff.mp stepped
    cases same
    rcases Phase.step_cases phaseStepped with
      ⟨eventMask, here, rfl, dequeued⟩ | ⟨eventMask, runnable, here, rfl, rfl⟩ |
        ⟨eventMask, here, rfl, rfl⟩ | ⟨wait, start, here, rfl, rfl⟩ | ⟨idle, _, executor⟩
    · obtain ⟨enqueued, holds, _⟩ := inOrder
      rcases dequeued with ⟨_, _, rfl⟩ | ⟨taken, _⟩
      · exact fun _ => .inr rfl
      · cases enqueued with
        | nil =>
          intro waiting
          simp only [holds.dequeue_nil] at waiting
          exact absurd holds.first_eq waiting
        | cons first rest =>
          rw [holds.dequeue_cons.1] at taken
          cases taken
    · exact fun _ => .inr rfl
    · exact fun _ => .inr rfl
    · refine awake.of_same stepped rfl fun inside => ?_
      rw [here] at inside
      cases inside
    · refine awake.of_same stepped executor.queue fun inside => ?_
      rw [idle] at inside
      cases inside
  | timeOut =>
    have stepped' := stepped
    simp only [TaskContext.step] at stepped
    split at stepped
    · rename_i wait start here
      split at stepped <;> cases stepped
      refine awake.of_same stepped' rfl fun inside => ?_
      rw [here] at inside
      cases inside
    · cases stepped
  | elapse duration =>
    refine awake.of_same stepped ?_ ?_ <;>
      (simp only [TaskContext.step] at stepped; split at stepped <;> cases stepped)
    · rfl
    · exact id

/-- Every interleaving keeps the order, and sees each enqueued runnable. -/
theorem inductive_inOrder_awake : (system config Runnable Timeout Caller).Inductive
    fun context => context.InOrder ∧ context.Awake := by
  constructor
  · intro context initial
    constructor
    · refine ⟨[], ?_, ?_⟩
      · rw [initial.queue]
        exact Queue.holds_empty
      · rw [initial.accepted, initial.executed, initial.phase]
        rfl
    · intro waiting
      rw [initial.queue] at waiting
      exact absurd rfl waiting
  · rintro source action target ⟨inOrder, awake⟩ stepped
    exact ⟨inOrder.step stepped, awake.step inOrder stepped⟩

end TaskContext

end OpenBsw.Async
