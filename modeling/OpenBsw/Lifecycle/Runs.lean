import OpenBsw.Lifecycle.Layout
import OpenBsw.Transition.System

/-!
# Runs of the lifecycle manager

The manager, the contexts that run its executors, and the components that
report when they are done.  Requests may come between any two steps, also from
the listeners while they are told.  The history of every component is the list
of the transitions that were started on it, and how many of them it reported.
-/

namespace OpenBsw.Lifecycle

/-- `Listener` stands for the pointers to the listeners. -/
structure LifecycleRun (Component Listener : Type) where
  manager : LifecycleManager Component
  listeners : List Listener
  added : List (Component × UInt8)
  /-- The level of the last request. -/
  requested : UInt8
  /-- Is the manager queued for execution? -/
  queued : Bool
  /-- The executors that wait for execution in the contexts of their components. -/
  waiting : List (Component × Transition)
  starts : Component → List Transition
  finished : Component → Nat
  /-- The level transitions that were begun. -/
  begun : List (UInt8 × Transition)
  /-- Who was told about which level. -/
  told : List (List Listener × UInt8 × Transition)

inductive LifecycleEvent (Component Listener : Type)
  | addComponent (component : Component) (level : UInt8)
  | transitionToLevel (level : UInt8)
  /-- The manager is executed; the requests come while listeners are told. -/
  | execute (requests : List UInt8)
  /-- An executor starts the transition of its component. -/
  | startTransition (component : Component) (transition : Transition)
  | transitionDone (component : Component)
  | addLifecycleListener (listener : Listener)
  | removeLifecycleListener (listener : Listener)

namespace LifecycleRun

variable {Component Listener : Type}

def transitionToLevel (run : LifecycleRun Component Listener) (level : UInt8) :
    LifecycleRun Component Listener :=
  { run with
    manager := run.manager.transitionToLevel level
    requested := level
    queued := true }

/-- Begin the next level transition, if there is one. -/
def beginTransition (run : LifecycleRun Component Listener) : LifecycleRun Component Listener :=
  match run.manager.nextTransition with
  | none => run
  | some next =>
    let executors := next.levelExecutors next.transitionLevel next.transition
    { run with
      manager := next.startTransitions
      waiting := run.waiting ++ executors.map fun executor =>
        (executor.component, executor.transition)
      begun := run.begun ++ [(next.transitionLevel, next.transition)]
      queued := run.queued || next.startTransitions.componentTransitionExecutors.isEmpty }

/-- The listeners are told about a level, and may make requests. -/
def notify (run : LifecycleRun Component Listener) (requests : List UInt8) :
    Option (UInt8 × Transition) → LifecycleRun Component Listener
  | none => run
  | some notice =>
    requests.foldl transitionToLevel { run with told := run.told ++ [(run.listeners, notice)] }

def execute (run : LifecycleRun Component Listener) (requests : List UInt8) :
    LifecycleRun Component Listener :=
  let checked := run.manager.checkLevelTransitionDone
  let dequeued := { run with queued := false }
  if checked.1 then
    beginTransition (notify { dequeued with manager := checked.2.1 } requests checked.2.2)
  else dequeued

variable [DecidableEq Component]

def startTransition (run : LifecycleRun Component Listener) (component : Component)
    (transition : Transition) : LifecycleRun Component Listener :=
  { run with
    waiting := run.waiting.erase (component, transition)
    starts := Function.update run.starts component (run.starts component ++ [transition]) }

def transitionDone (run : LifecycleRun Component Listener) (component : Component) :
    LifecycleRun Component Listener :=
  { run with
    manager := run.manager.transitionDone component
    finished := Function.update run.finished component (run.finished component + 1)
    queued := run.queued || run.manager.componentTransitionExecutors.any fun executor =>
      executor.component = component }

/-- Components are added to levels that were not reached yet; executors run in
any order; components report each started transition once. -/
def system (Component Listener : Type) [DecidableEq Component] [DecidableEq Listener] :
    OpenBsw.Transition.System (LifecycleRun Component Listener)
      (LifecycleEvent Component Listener) where
  Initial run := ∃ components executors levels, 0 < levels ∧ run =
    { manager := LifecycleManager.create components executors levels
      listeners := [], added := [], requested := 0, queued := false, waiting := []
      starts := fun _ => [], finished := fun _ => 0, begun := [], told := [] }
  Step source event target :=
    match event with
    | .addComponent component level =>
      component ∉ source.added.map Prod.fst ∧ source.manager.initLevelCount < level ∧
        ∃ manager, source.manager.addComponent component level = some manager ∧
          target = { source with manager, added := source.added ++ [(component, level)] }
    | .transitionToLevel level => target = source.transitionToLevel level
    | .execute requests => source.queued = true ∧ target = source.execute requests
    | .startTransition component transition =>
      (component, transition) ∈ source.waiting ∧
        target = source.startTransition component transition
    | .transitionDone component =>
      source.finished component < (source.starts component).length ∧
        target = source.transitionDone component
    | .addLifecycleListener listener =>
      listener ∉ source.listeners ∧
        target = { source with listeners := listener :: source.listeners }
    | .removeLifecycleListener listener =>
      target = { source with listeners := source.listeners.erase listener }

omit [DecidableEq Component] in
/-- The tables count components in bytes. -/
def FewComponents (run : LifecycleRun Component Listener) :
    LifecycleEvent Component Listener → Prop
  | .addComponent _ _ => run.added.length < 255
  | _ => True

end LifecycleRun

/-! ## Courses -/

namespace Transition

/-- The transition that follows. -/
def next : Transition → Transition
  | INIT => RUN
  | RUN => SHUTDOWN
  | SHUTDOWN => RUN

end Transition

/-- The course of a component: initialised once, then run and shut down in turn. -/
def nth : Nat → Transition
  | 0 => .INIT
  | number + 1 => if number % 2 = 0 then .RUN else .SHUTDOWN

theorem nth_succ (number : Nat) : nth (number + 1) = (nth number).next := by
  cases number with
  | zero => rfl
  | succ number =>
    rw [nth, nth]
    rcases Nat.mod_two_eq_zero_or_one number with even | odd
    · rw [if_neg (by omega), if_pos even]
      rfl
    · rw [if_pos (by omega), if_neg (by omega)]
      rfl

/-- The first transitions of the course. -/
def course (count : Nat) : List Transition :=
  (List.range count).map nth

theorem course_succ (count : Nat) : course (count + 1) = course count ++ [nth count] := by
  rw [course, List.range_succ, List.map_append]
  rfl

@[simp]
theorem length_course (count : Nat) : (course count).length = count := by
  simp [course]

/-- The transition a component of a level waits for. -/
def dueAt (initLevelCount currentLevel level : Nat) : Transition :=
  if level ≤ currentLevel then .SHUTDOWN
  else if level ≤ initLevelCount then .RUN
  else .INIT

end OpenBsw.Lifecycle
