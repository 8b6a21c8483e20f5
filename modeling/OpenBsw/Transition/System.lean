import Mathlib

/-!
# Labelled transition systems

A system has initial states and steps labelled by events.  Nothing is assumed
about determinism: an event may carry the results of an environment, and a
step that is impossible is simply absent.  Safety properties are proved as
inductive invariants of the reachable states.  A run is guarded when every event
meets a condition in the state it meets; whatever the condition protects in one
step it protects in the whole run.
-/

namespace OpenBsw.Transition

universe u v

structure System (State : Type u) (Event : Type v) where
  Initial : State → Prop
  Step : State → Event → State → Prop

namespace System

variable {State : Type u} {Event : Type v}

/-- The states some finite run ends in. -/
inductive Reachable (system : System State Event) : State → Prop
  | initial {state : State} (start : system.Initial state) : Reachable system state
  | step {source target : State} {event : Event} (reached : Reachable system source)
      (stepped : system.Step source event target) : Reachable system target

/-- A property that holds at the start and survives every step. -/
structure Inductive (system : System State Event) (Property : State → Prop) : Prop where
  initial : ∀ {state}, system.Initial state → Property state
  step : ∀ {source event target}, Property source → system.Step source event target →
    Property target

/-- An inductive property holds in every reachable state. -/
theorem Inductive.of_reachable {system : System State Event} {Property : State → Prop}
    (invariant : system.Inductive Property) {state : State} (reached : system.Reachable state) :
    Property state := by
  induction reached with
  | initial start => exact invariant.initial start
  | step _ stepped ih => exact invariant.step ih stepped

/-- The same system with only those steps that meet a condition. -/
def restrict (system : System State Event) (Condition : State → Event → Prop) :
    System State Event where
  Initial := system.Initial
  Step source event target := system.Step source event target ∧ Condition source event

theorem restrict_true (system : System State Event) :
    system.restrict (fun _ _ => True) = system := by
  simp only [restrict, and_true]

/-- Runs whose steps all meet a condition are runs. -/
theorem Reachable.of_restrict {system : System State Event} {Condition : State → Event → Prop}
    {state : State} (reached : (system.restrict Condition).Reachable state) :
    system.Reachable state := by
  induction reached with
  | initial start => exact .initial start
  | step _ stepped ih => exact .step ih stepped.1

/-! ## Runs of a function -/

/-- The state after the events, where each of them is possible. -/
def play (perform : State → Event → Option State) (state : State) (events : List Event) :
    Option State :=
  events.foldlM perform state

/-- Playing events of the system leads to reachable states. -/
theorem Reachable.play {system : System State Event} {perform : State → Event → Option State}
    (sound : ∀ {source event target}, perform source event = some target →
      system.Step source event target)
    {source target : State} (reached : system.Reachable source) {events : List Event}
    (played : System.play perform source events = some target) : system.Reachable target := by
  induction events generalizing source with
  | nil =>
    cases played
    exact reached
  | cons event rest ih =>
    rw [System.play, List.foldlM_cons] at played
    obtain ⟨between, performed, played⟩ := Option.bind_eq_some_iff.mp played
    exact ih (reached.step (sound performed)) played

/-- Performs an event that meets a condition. -/
def performIf (perform : State → Event → Option State) (Condition : State → Event → Prop)
    [∀ state event, Decidable (Condition state event)] (state : State) (event : Event) :
    Option State :=
  if Condition state event then perform state event else none

/-- Playing events that meet a condition leads to states of the restricted system. -/
theorem Reachable.play_performIf {system : System State Event}
    {perform : State → Event → Option State} {Condition : State → Event → Prop}
    [∀ state event, Decidable (Condition state event)]
    (sound : ∀ {source event target}, perform source event = some target →
      system.Step source event target)
    {source target : State} (reached : (system.restrict Condition).Reachable source)
    {events : List Event} (played : System.play (performIf perform Condition) source events =
      some target) : (system.restrict Condition).Reachable target := by
  refine reached.play (fun performed => ?_) played
  obtain ⟨condition, performed⟩ := Option.ite_none_right_eq_some.mp performed
  exact ⟨sound performed, condition⟩

/-- Events that meet the condition in every state lead to states of the restricted system. -/
theorem Reachable.play_restrict {system : System State Event}
    {perform : State → Event → Option State} {Condition : State → Event → Prop}
    (sound : ∀ {source event target}, perform source event = some target →
      system.Step source event target)
    {source target : State} (reached : (system.restrict Condition).Reachable source)
    {events : List Event} (conditions : ∀ event ∈ events, ∀ state, Condition state event)
    (played : System.play perform source events = some target) :
    (system.restrict Condition).Reachable target := by
  induction events generalizing source with
  | nil =>
    cases played
    exact reached
  | cons event rest ih =>
    obtain ⟨condition, others⟩ := List.forall_mem_cons.mp conditions
    rw [System.play, List.foldlM_cons] at played
    obtain ⟨between, performed, played⟩ := Option.bind_eq_some_iff.mp played
    exact ih (reached.step ⟨sound performed, condition source⟩) others played

/-! ## Guarded runs -/

variable {perform : State → Event → Option State} {Condition : State → Event → Prop}

/-- Every event of a run meets the condition in the state it is played in. -/
def Guarded (perform : State → Event → Option State) (Condition : State → Event → Prop) :
    State → List Event → Prop
  | _, [] => True
  | state, event :: rest =>
    Condition state event ∧
      ∀ next, perform state event = some next → Guarded perform Condition next rest

/-- A property that guarded steps preserve holds behind every guarded run. -/
theorem play_of_guarded (Property : State → Prop)
    (step : ∀ {state event}, Property state → Condition state event →
      ∃ next, perform state event = some next ∧ Property next)
    {state : State} {events : List Event} (start : Property state)
    (guarded : Guarded perform Condition state events) :
    ∃ final, play perform state events = some final ∧ Property final := by
  induction events generalizing state with
  | nil => exact ⟨state, rfl, start⟩
  | cons event rest ih =>
    obtain ⟨condition, further⟩ := guarded
    obtain ⟨next, performed, property⟩ := step start condition
    obtain ⟨final, played, finalProperty⟩ := ih property (further next performed)
    refine ⟨final, ?_, finalProperty⟩
    rw [play, List.foldlM_cons, performed]
    exact played

end System

end OpenBsw.Transition
