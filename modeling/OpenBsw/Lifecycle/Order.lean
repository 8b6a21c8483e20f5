import OpenBsw.Lifecycle.Execution

/-!
# Order of the transitions

In every run of the lifecycle manager with at most 255 components, the
transitions of the components follow the levels.
-/

namespace OpenBsw.Lifecycle.LifecycleRun

open OpenBsw.Transition

variable {Component Listener : Type} {run : LifecycleRun Component Listener}

theorem staged_of_reachable [DecidableEq Component] [DecidableEq Listener]
    (reached : ((system Component Listener).restrict FewComponents).Reachable run) :
    Staged run := by
  induction reached with
  | initial start =>
    obtain ⟨components, executors, levels, positive, rfl⟩ := start
    exact
      { layout := LifecycleManager.layout_create components executors positive
        distinct := List.nodup_nil
        untouched := fun _ _ => ⟨rfl, rfl⟩
        current_le := Nat.le_refl _
        levels := by simpa [LifecycleManager.create] using positive
        settled := fun _ => ⟨rfl, rfl, fun _ impossible => by cases impossible⟩
        underway := fun impossible => by cases impossible
        arrived := fun _ _ => rfl
        target_eq := (Nat.zero_min _).symm
        told_eq := rfl }
  | @step source target event _ stepped staged =>
    obtain ⟨stepped, few⟩ := stepped
    cases event with
    | addComponent component level =>
      obtain ⟨fresh, above, manager, success, rfl⟩ := stepped
      exact staged.addComponent few fresh above success
    | transitionToLevel level =>
      obtain rfl := stepped
      exact staged.transitionToLevel level
    | execute requests =>
      obtain ⟨-, rfl⟩ := stepped
      exact staged.execute requests
    | startTransition component transition =>
      obtain ⟨listed, rfl⟩ := stepped
      exact staged.startTransition listed
    | transitionDone component =>
      obtain ⟨opened, rfl⟩ := stepped
      exact staged.transitionDone opened
    | addLifecycleListener listener =>
      obtain ⟨-, rfl⟩ := stepped
      exact staged.listeners _
    | removeLifecycleListener listener =>
      obtain rfl := stepped
      exact staged.listeners _

/-- A component that rests was last run exactly when it waits for its shutdown. -/
theorem Rests.last_run_iff {component : Component} {due : Transition}
    (rests : Rests run component due) :
    (run.starts component).getLast? = some .RUN ↔ due = .SHUTDOWN := by
  obtain ⟨count, startsEq, -, rfl⟩ := rests
  rw [startsEq]
  cases count with
  | zero => simp [course, nth]
  | succ count =>
    rw [Lifecycle.course_succ, List.getLast?_concat, nth_succ, Option.some_inj]
    cases nth count <;> simp [Transition.next]

/-- What the manager promises about the order of the transitions. -/
structure Ordered [DecidableEq Component] [DecidableEq Listener]
    (run : LifecycleRun Component Listener) : Prop where
  /-- INIT comes once and first; RUN and SHUTDOWN follow in turn. -/
  courses : ∀ component, ∃ count, run.starts component = course count
  runs : ∀ component level, (component, level) ∈ run.added →
    (component, .RUN) ∈ run.waiting → ∀ other lower, (other, lower) ∈ run.added →
    lower < level → run.finished other = (run.starts other).length ∧
      (run.starts other).getLast? = some .RUN
  shutdowns : ∀ component level, (component, level) ∈ run.added →
    (component, .SHUTDOWN) ∈ run.waiting → ∀ other higher, (other, higher) ∈ run.added →
    level < higher → run.finished other = (run.starts other).length ∧
      (run.starts other).getLast? ≠ some .RUN
  /-- A level begins when all started transitions are done. -/
  begins : ∀ event target, (system Component Listener).Step run event target →
    target.begun ≠ run.begun → run.waiting = [] ∧
      ∀ component, run.finished component = (run.starts component).length
  current_le : run.manager.currentLevel ≤ run.manager.initLevelCount
  told_eq : run.told.map Prod.snd =
    ((completed run).filter fun entry => entry.2 ≠ .INIT).map reached
  arrived : run.manager.isTransitionPending = false → run.queued = false →
    run.manager.currentLevel.toNat =
      min run.requested.toNat (run.manager.levelIndices.length - 1)

theorem Staged.course (staged : Staged run) (component : Component) :
    ∃ count, run.starts component = course count := by
  by_cases member : component ∈ run.added.map Prod.fst
  swap
  · exact ⟨0, (staged.untouched component member).1⟩
  obtain ⟨⟨other, level⟩, inside, rfl⟩ := List.mem_map.mp member
  cases pending : run.manager.isTransitionPending with
  | false =>
    obtain ⟨count, startsEq, -⟩ := (staged.settled pending).rests _ inside
    exact ⟨count, startsEq⟩
  | true =>
    by_cases here : level = run.manager.transitionLevel
    · cases (staged.underway pending).inside _ inside here with
      | waiting _ rests _ => exact ⟨_, rests.choose_spec.1⟩
      | active _ active _ => exact ⟨_, active.choose_spec.1⟩
      | done _ rests _ => exact ⟨_, rests.choose_spec.1⟩
    · obtain ⟨count, startsEq, -⟩ := (staged.underway pending).outside _ inside here
      exact ⟨count, startsEq⟩

/-- While a component of a level waits, the components of other levels rest. -/
theorem Staged.others_rest (staged : Staged run) {component other : Component}
    {level otherLevel : UInt8} {transition : Transition}
    (member : (component, level) ∈ run.added) (listed : (component, transition) ∈ run.waiting)
    (otherMember : (other, otherLevel) ∈ run.added) (different : otherLevel ≠ level) :
    transition.next = run.due level ∧ Rests run other (run.due otherLevel) := by
  have pending : run.manager.isTransitionPending = true := by
    by_contra idle
    rw [(staged.settled (Bool.eq_false_iff.mpr idle)).waiting] at listed
    exact List.not_mem_nil listed
  have underway := staged.underway pending
  obtain ⟨same, inside⟩ := underway.waiting _ listed
  change transition = run.manager.transition at same
  subst same
  obtain rfl := staged.level_unique member inside
  exact ⟨underway.next_due, underway.outside _ otherMember different⟩

/-- No transition is pending when a level begins. -/
theorem Staged.quiet_of_begun_ne [DecidableEq Component] [DecidableEq Listener]
    (staged : Staged run) {event : LifecycleEvent Component Listener}
    {target : LifecycleRun Component Listener}
    (stepped : (system Component Listener).Step run event target)
    (changed : target.begun ≠ run.begun) :
    run.waiting = [] ∧ ∀ component, run.finished component = (run.starts component).length := by
  have finished : (∀ entry ∈ run.added, Rests run entry.1 (run.due entry.2)) →
      ∀ component, run.finished component = (run.starts component).length := by
    intro rests component
    by_cases member : component ∈ run.added.map Prod.fst
    · obtain ⟨entry, inside, rfl⟩ := List.mem_map.mp member
      exact (rests entry inside).finished_eq
    · obtain ⟨startsEq, finishedEq⟩ := staged.untouched component member
      rw [startsEq, finishedEq]
      rfl
  cases event with
  | execute requests =>
    obtain ⟨-, rfl⟩ := stepped
    cases pending : run.manager.isTransitionPending with
    | false =>
      have settled := staged.settled pending
      exact ⟨settled.waiting, finished settled.rests⟩
    | true =>
      cases some : run.manager.componentTransitionExecutors.any
          ComponentTransitionExecutor.isPending with
      | false =>
        obtain ⟨waitingEq, rests⟩ := (staged.underway pending).settled some
        exact ⟨waitingEq, finished rests⟩
      | true =>
        refine absurd ?_ changed
        simp only [LifecycleRun.execute, LifecycleManager.checkLevelTransitionDone, pending,
          some]
        rfl
  | addComponent component level =>
    obtain ⟨-, -, manager, -, rfl⟩ := stepped
    exact absurd rfl changed
  | transitionToLevel level =>
    obtain rfl := stepped
    exact absurd rfl changed
  | startTransition component transition =>
    obtain ⟨-, rfl⟩ := stepped
    exact absurd rfl changed
  | transitionDone component =>
    obtain ⟨-, rfl⟩ := stepped
    exact absurd rfl changed
  | addLifecycleListener listener =>
    obtain ⟨-, rfl⟩ := stepped
    exact absurd rfl changed
  | removeLifecycleListener listener =>
    obtain rfl := stepped
    exact absurd rfl changed

/-- In every run with at most 255 components the transitions are ordered. -/
theorem transitions_ordered (Component Listener : Type) [DecidableEq Component]
    [DecidableEq Listener] (run : LifecycleRun Component Listener)
    (reached : ((system Component Listener).restrict FewComponents).Reachable run) :
    Ordered run := by
  have staged := staged_of_reachable reached
  have currentLe := staged.current_le
  refine
    { courses := staged.course
      runs := ?_
      shutdowns := ?_
      begins := fun event target stepped changed => staged.quiet_of_begun_ne stepped changed
      current_le := UInt8.le_iff_toNat_le.mpr currentLe
      told_eq := staged.told_eq
      arrived := ?_ }
  · intro component level member listed other lower otherMember below
    rw [UInt8.lt_iff_toNat_lt] at below
    have different : lower ≠ level := by
      rintro rfl
      exact Nat.lt_irrefl _ below
    obtain ⟨nextEq, rests⟩ := staged.others_rest member listed otherMember different
    refine ⟨rests.finished_eq, rests.last_run_iff.mpr ?_⟩
    -- The level runs already, and so do the lower ones.
    have running : level.toNat ≤ run.manager.currentLevel.toNat := by
      by_contra above
      rw [due, dueAt, if_neg above] at nextEq
      split at nextEq <;> cases nextEq
    rw [due, dueAt, if_pos (by omega)]
  · intro component level member listed other higher otherMember above
    rw [UInt8.lt_iff_toNat_lt] at above
    have different : higher ≠ level := by
      rintro rfl
      exact Nat.lt_irrefl _ above
    obtain ⟨nextEq, rests⟩ := staged.others_rest member listed otherMember different
    refine ⟨rests.finished_eq, rests.last_run_iff.not.mpr ?_⟩
    have stopped : ¬level.toNat ≤ run.manager.currentLevel.toNat := by
      intro running
      rw [due, dueAt, if_pos running] at nextEq
      cases nextEq
    rw [due, dueAt, if_neg (by omega)]
    split <;> exact fun impossible => by cases impossible
  · intro idle notQueued
    rw [staged.arrived idle notQueued]
    exact staged.target_eq

/-! ## Samples -/

/-- The state after an event that is possible. -/
def perform (run : LifecycleRun Nat Nat) :
    LifecycleEvent Nat Nat → Option (LifecycleRun Nat Nat)
  | .addComponent component level =>
    if component ∉ run.added.map Prod.fst ∧ run.manager.initLevelCount < level then
      (run.manager.addComponent component level).map fun manager =>
        { run with manager, added := run.added ++ [(component, level)] }
    else none
  | .transitionToLevel level => some (run.transitionToLevel level)
  | .execute requests => if run.queued then some (run.execute requests) else none
  | .startTransition component transition =>
    if (component, transition) ∈ run.waiting then
      some (run.startTransition component transition)
    else none
  | .transitionDone component =>
    if run.finished component < (run.starts component).length then
      some (run.transitionDone component)
    else none
  | .addLifecycleListener listener =>
    if listener ∉ run.listeners then
      some { run with listeners := listener :: run.listeners }
    else none
  | .removeLifecycleListener listener =>
    some { run with listeners := run.listeners.erase listener }

theorem perform_step {source target : LifecycleRun Nat Nat} {event : LifecycleEvent Nat Nat}
    (performed : source.perform event = some target) :
    (system Nat Nat).Step source event target := by
  cases event with
  | addComponent component level =>
    obtain ⟨⟨fresh, above⟩, performed⟩ := Option.ite_none_right_eq_some.mp performed
    obtain ⟨manager, success, targetEq⟩ := Option.map_eq_some_iff.mp performed
    exact ⟨fresh, above, manager, success, targetEq.symm⟩
  | transitionToLevel level => exact (Option.some.inj performed).symm
  | execute requests =>
    obtain ⟨queued, performed⟩ := Option.ite_none_right_eq_some.mp performed
    exact ⟨queued, (Option.some.inj performed).symm⟩
  | startTransition component transition =>
    obtain ⟨listed, performed⟩ := Option.ite_none_right_eq_some.mp performed
    exact ⟨listed, (Option.some.inj performed).symm⟩
  | transitionDone component =>
    obtain ⟨opened, performed⟩ := Option.ite_none_right_eq_some.mp performed
    exact ⟨opened, (Option.some.inj performed).symm⟩
  | addLifecycleListener listener =>
    obtain ⟨fresh, performed⟩ := Option.ite_none_right_eq_some.mp performed
    exact ⟨fresh, (Option.some.inj performed).symm⟩
  | removeLifecycleListener listener => exact (Option.some.inj performed).symm

/-- A manager with two levels. -/
def sampleStart (room : Nat) : LifecycleRun Nat Nat :=
  { manager := LifecycleManager.create room room 3
    listeners := [], added := [], requested := 0, queued := false, waiting := []
    starts := fun _ => [], finished := fun _ => 0, begun := [], told := [] }

instance (run : LifecycleRun Nat Nat) :
    (event : LifecycleEvent Nat Nat) → Decidable (FewComponents run event)
  | .addComponent _ _ => inferInstanceAs (Decidable (_ < 255))
  | .transitionToLevel _ | .execute _ | .startTransition _ _ | .transitionDone _
  | .addLifecycleListener _ | .removeLifecycleListener _ => inferInstanceAs (Decidable True)

/-- A component is initialised and runs, then another one of the level above, and both are shut
down again. -/
def sampleEvents : List (LifecycleEvent Nat Nat) :=
  [.addLifecycleListener 1, .addComponent 7 1, .addComponent 9 2, .transitionToLevel 2,
    .execute [], .startTransition 7 .INIT, .transitionDone 7,
    .execute [], .startTransition 7 .RUN, .transitionDone 7,
    .execute [], .startTransition 9 .INIT, .transitionDone 9,
    .execute [], .startTransition 9 .RUN, .transitionDone 9,
    .execute [], .transitionToLevel 0,
    .execute [], .startTransition 9 .SHUTDOWN, .transitionDone 9,
    .execute [], .startTransition 7 .SHUTDOWN, .transitionDone 7, .execute []]

theorem transitions_ordered_sample :
    ∃ run : LifecycleRun Nat Nat, Ordered run ∧ run.starts 7 = [.INIT, .RUN, .SHUTDOWN] ∧
      run.starts 9 = [.INIT, .RUN, .SHUTDOWN] ∧
      run.told.map Prod.snd = [(1, .RUN), (2, .RUN), (1, .SHUTDOWN), (0, .SHUTDOWN)] := by
  have results : (System.play (System.performIf perform FewComponents) (sampleStart 4)
      sampleEvents).map (fun run => (run.starts 7, run.starts 9, run.told.map Prod.snd)) =
      some ([.INIT, .RUN, .SHUTDOWN], [.INIT, .RUN, .SHUTDOWN],
        [(1, .RUN), (2, .RUN), (1, .SHUTDOWN), (0, .SHUTDOWN)]) := by decide
  obtain ⟨run, played, result⟩ := Option.map_eq_some_iff.mp results
  obtain ⟨first, result⟩ := Prod.mk.inj result
  obtain ⟨second, told⟩ := Prod.mk.inj result
  have start : ((system Nat Nat).restrict FewComponents).Reachable (sampleStart 4) :=
    .initial ⟨4, 4, 3, by decide, rfl⟩
  exact ⟨run, transitions_ordered Nat Nat run (start.play_performIf perform_step played), first,
    second, told⟩

/-- The first components of the first level. -/
def crowd (count : Nat) : LifecycleRun Nat Nat :=
  { sampleStart 300 with
    manager := { (sampleStart 300).manager with
      componentInfos := (List.range count).map some ++ List.replicate (300 - count) none
      levelIndices := [0, UInt8.ofNat count, 0]
      levelCount := 1
      componentCount := UInt8.ofNat count }
    added := (List.range count).map fun component => (component, 1) }

theorem infos_crowd {count : Nat} (few : count < 256) :
    ((List.range count).map some ++ List.replicate (300 - count) none).set count (some count) =
      (List.range (count + 1)).map some ++ List.replicate (300 - (count + 1)) none := by
  have more : 300 - count = 300 - (count + 1) + 1 := by omega
  rw [more, List.replicate_succ, List.set_append_right _ _ (by simp), List.length_map,
    List.length_range, Nat.sub_self, List.set_cons_zero, List.range_succ, List.map_append,
    List.append_assoc]
  rfl

theorem perform_crowd {count : Nat} (few : count < 256) :
    (crowd count).perform (.addComponent count 1) = some (crowd (count + 1)) := by
  have code : (UInt8.ofNat count).toNat = count := by
    rw [UInt8.toNat_ofNat', Nat.mod_eq_of_lt few]
  have next : UInt8.ofNat count + 1 = UInt8.ofNat (count + 1) := (UInt8.ofNat_add count 1).symm
  have fresh : count ∉ (crowd count).added.map Prod.fst := by
    simp [crowd]
  have below : (crowd count).manager.componentCount.toNat <
      (crowd count).manager.componentInfos.length := by
    rw [crowd, List.length_append, List.length_map, List.length_range, List.length_replicate]
    change (UInt8.ofNat count).toNat < _
    omega
  have levels : UInt8.toNat 1 < (crowd count).manager.levelIndices.length := by
    change 1 < 3
    decide
  have room : (crowd count).manager.getLevelComponentCount 1 < 300 := by
    change (((UInt8.ofNat count).toNat - (0 : Nat) : Int) % 2 ^ 64).toNat < 300
    rw [code]
    omega
  have added : (crowd count).manager.addComponent count 1 = some (crowd (count + 1)).manager := by
    rw [LifecycleManager.addComponent, if_pos ⟨below, by decide, levels, UInt8.le_refl 1⟩]
    refine (if_pos room).trans ?_
    change some { (crowd count).manager with
      componentInfos := ((List.range count).map some ++ List.replicate (300 - count) none).set
        (UInt8.ofNat count).toNat (some count)
      levelIndices := [0, UInt8.ofNat count + 1, 0]
      componentCount := UInt8.ofNat count + 1 } = _
    rw [code, infos_crowd few, next]
    rfl
  rw [perform, if_pos ⟨fresh, (by decide : (0 : UInt8) < 1)⟩, added]
  simp only [crowd, List.range_succ, List.map_append]
  rfl

theorem reachable_crowd {count : Nat} (few : count < 256) :
    (system Nat Nat).Reachable (crowd (count + 1)) := by
  induction count with
  | zero =>
    -- The first component opens the level.
    have below : (0 : UInt8).toNat < (List.replicate 300 (none : Option Nat)).length := by
      rw [List.length_replicate]
      decide
    have added : (sampleStart 300).manager.addComponent 0 1 = some (crowd 1).manager := by
      rw [LifecycleManager.addComponent, if_pos ⟨below, by decide, by decide, by decide⟩,
        if_pos (by decide), crowd, ← infos_crowd few]
      rfl
    have performed : (sampleStart 300).perform (.addComponent 0 1) = some (crowd 1) := by
      rw [perform, if_pos (by decide), added]
      rfl
    have start : (system Nat Nat).Reachable (sampleStart 300) :=
      .initial ⟨300, 300, 3, by decide, rfl⟩
    exact start.step (perform_step performed)
  | succ count ih => exact (ih (by omega)).step (perform_step (perform_crowd few))

/-- One component of the second level, and a request. -/
def crowdedEvents : List (LifecycleEvent Nat Nat) :=
  [.addComponent 256 2, .transitionToLevel 2, .execute [], .execute [], .execute [],
    .startTransition 256 .INIT, .transitionDone 256, .execute []]

-- The samples are evaluated.
set_option maxRecDepth 2000

/-- With 256 components in a level, the next level runs before any of them was
initialised. -/
theorem not_ordered_crowded :
    ∃ run, (system Nat Nat).Reachable run ∧ (0, 1) ∈ run.added ∧ run.starts 0 = [] ∧
      (256, 2) ∈ run.added ∧ (256, .RUN) ∈ run.waiting ∧ ¬Ordered run := by
  have crowded : ∃ run, System.play perform (crowd 256) crowdedEvents = some run ∧
      (0, 1) ∈ run.added ∧ run.starts 0 = [] ∧ (256, 2) ∈ run.added ∧
        (256, .RUN) ∈ run.waiting := by
    have checked : (System.play perform (crowd 256) crowdedEvents).any (fun run =>
        (0, 1) ∈ run.added ∧ run.starts 0 = [] ∧ (256, 2) ∈ run.added ∧
          (256, .RUN) ∈ run.waiting) = true := by
      decide
    obtain ⟨run, played, holds⟩ := (Option.any_eq_true _ _).mp checked
    exact ⟨run, played, of_decide_eq_true holds⟩
  obtain ⟨run, played, first, idle, second, listed⟩ := crowded
  have start : (system Nat Nat).Reachable (crowd 256) := reachable_crowd (Nat.lt_succ_self 255)
  refine ⟨run, start.play perform_step played, first, idle, second, listed, fun ordered => ?_⟩
  have ran := (ordered.runs _ _ second listed _ _ first (by decide)).2
  rw [idle] at ran
  cases ran

end OpenBsw.Lifecycle.LifecycleRun
