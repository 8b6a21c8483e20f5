import OpenBsw.Transition.System

/-!
# Forward simulations

The events of a system show labels, or nothing.  A forward simulation answers every step of a
system with steps of a more abstract one that show the same.  Whatever the first system shows in
a run, the second one can show as well.
-/

namespace OpenBsw.Transition.System

universe u v w x y

variable {State : Type u} {Event : Type v} {Label : Type w} {Abstract : Type x}
  {AbstractEvent : Type y}

/-- Steps from a state on, with the labels that they show. -/
inductive Path (system : System State Event) (label : State → Event → List Label)
    (source : State) : List Label → State → Prop
  | refl : Path system label source [] source
  | step {between target : State} {event : Event} {labels : List Label}
      (path : Path system label source labels between)
      (stepped : system.Step between event target) :
      Path system label source (labels ++ label between event) target

/-- The labels that a run shows, and the state it ends in. -/
def Shows (system : System State Event) (label : State → Event → List Label)
    (labels : List Label) (state : State) : Prop :=
  ∃ start, system.Initial start ∧ Path system label start labels state

theorem Path.trans {system : System State Event} {label : State → Event → List Label}
    {source between target : State} {before after : List Label}
    (first : Path system label source before between)
    (second : Path system label between after target) :
    Path system label source (before ++ after) target := by
  induction second with
  | refl =>
    rw [List.append_nil]
    exact first
  | step _ stepped ih =>
    rw [← List.append_assoc]
    exact ih.step stepped

/-- Related states of two systems stay related, and show the same. -/
structure Simulates (concrete : System State Event) (abstract : System Abstract AbstractEvent)
    (label : State → Event → List Label)
    (abstractLabel : Abstract → AbstractEvent → List Label)
    (Related : State → Abstract → Prop) : Prop where
  initial : ∀ {state}, concrete.Initial state → ∃ start, abstract.Initial start ∧
    Related state start
  step : ∀ {source event target related}, Related source related →
    concrete.Step source event target → ∃ next, Related target next ∧
      Path abstract abstractLabel related (label source event) next

/-- What a run shows, a run of the abstract system shows. -/
theorem Simulates.shows {concrete : System State Event}
    {abstract : System Abstract AbstractEvent} {label : State → Event → List Label}
    {abstractLabel : Abstract → AbstractEvent → List Label}
    {Related : State → Abstract → Prop}
    (simulates : Simulates concrete abstract label abstractLabel Related)
    {labels : List Label} {state : State} (shown : Shows concrete label labels state) :
    ∃ related, Related state related ∧ Shows abstract abstractLabel labels related := by
  obtain ⟨start, started, path⟩ := shown
  obtain ⟨first, abstractStarted, related⟩ := simulates.initial started
  induction path with
  | refl => exact ⟨first, related, first, abstractStarted, .refl⟩
  | step _ stepped ih =>
    obtain ⟨before, related, first, abstractStarted, shown⟩ := ih
    obtain ⟨next, stays, answer⟩ := simulates.step related stepped
    exact ⟨next, stays, first, abstractStarted, shown.trans answer⟩

/-! ## Runs of a function -/

variable (perform : State → Event → Option State) (label : State → Event → List Label)

/-- The labels of events that are played one after the other. -/
def trace : State → List Event → List Label
  | _, [] => []
  | state, event :: rest =>
    label state event ++ ((perform state event).elim [] fun next => trace next rest)

variable {perform label}

theorem path_of_play {system : System State Event}
    (sound : ∀ {source event target}, perform source event = some target →
      system.Step source event target)
    {source target : State} {events : List Event}
    (played : play perform source events = some target) :
    Path system label source (trace perform label source events) target := by
  induction events generalizing source with
  | nil =>
    cases played
    exact .refl
  | cons event rest ih =>
    rw [play, List.foldlM_cons] at played
    obtain ⟨between, performed, played⟩ := Option.bind_eq_some_iff.mp played
    rw [trace, performed, Option.elim_some]
    exact (Path.refl.step (sound performed)).trans (ih played)

end OpenBsw.Transition.System
