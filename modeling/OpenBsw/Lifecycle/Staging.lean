import OpenBsw.Lifecycle.Runs

/-!
# Staging of the levels

Levels up to the current one run, the others up to the initialised ones are
idle, and the rest is untouched.  Only the level in transition differs: each of
its components waits for its start, is active, or is done.
-/

namespace OpenBsw.Lifecycle.LifecycleRun

variable {Component Listener : Type}

/-- The component reported everything that was started on it, and waits for a
transition of its course. -/
def Rests (run : LifecycleRun Component Listener) (component : Component) (due : Transition) :
    Prop :=
  ∃ count, run.starts component = course count ∧ run.finished component = count ∧ nth count = due

/-- A transition of its course was started on the component, which did not
report it yet. -/
def Active (run : LifecycleRun Component Listener) (component : Component)
    (transition : Transition) : Prop :=
  ∃ count, run.starts component = course (count + 1) ∧ run.finished component = count ∧
    nth count = transition

/-- The executor of the component is pending. -/
def Flagged (run : LifecycleRun Component Listener) (component : Component) : Prop :=
  ∃ executor ∈ run.manager.componentTransitionExecutors,
    executor.component = component ∧ executor.isPending = true

/-- A component in a level transition. -/
inductive InTransition (run : LifecycleRun Component Listener) (component : Component)
    (transition : Transition) : Prop
  | waiting (listed : (component, transition) ∈ run.waiting)
      (rests : Rests run component transition) (flagged : Flagged run component)
  | active (unlisted : (component, transition) ∉ run.waiting)
      (active : Active run component transition) (flagged : Flagged run component)
  | done (unlisted : (component, transition) ∉ run.waiting)
      (rests : Rests run component transition.next) (unflagged : ¬Flagged run component)

/-- The transition a component waits for outside a level transition. -/
def due (run : LifecycleRun Component Listener) (level : UInt8) : Transition :=
  dueAt run.manager.initLevelCount.toNat run.manager.currentLevel.toNat level.toNat

/-- The level that was reached, as the listeners are told. -/
def reached : UInt8 × Transition → UInt8 × Transition
  | (level, .SHUTDOWN) => (level - 1, .SHUTDOWN)
  | entry => entry

/-- The level transitions that are done. -/
def completed (run : LifecycleRun Component Listener) : List (UInt8 × Transition) :=
  if run.manager.isTransitionPending then run.begun.dropLast else run.begun

/-- No level transition is pending. -/
structure Settled (run : LifecycleRun Component Listener) : Prop where
  executors : run.manager.componentTransitionExecutors = []
  waiting : run.waiting = []
  rests : ∀ entry ∈ run.added, Rests run entry.1 (run.due entry.2)

/-- A level transition is pending. -/
structure Underway (run : LifecycleRun Component Listener) : Prop where
  positive : 0 < run.manager.transitionLevel.toNat
  level_le : run.manager.transitionLevel.toNat ≤ run.manager.initLevelCount.toNat
  next_due : run.manager.transition.next = run.due run.manager.transitionLevel
  components : run.manager.componentTransitionExecutors.map ComponentTransitionExecutor.component =
    LifecycleManager.componentsAt run.added run.manager.transitionLevel
  waiting : ∀ entry ∈ run.waiting, entry.2 = run.manager.transition ∧
    (entry.1, run.manager.transitionLevel) ∈ run.added
  nodup : run.waiting.Nodup
  inside : ∀ entry ∈ run.added, entry.2 = run.manager.transitionLevel →
    InTransition run entry.1 run.manager.transition
  outside : ∀ entry ∈ run.added, entry.2 ≠ run.manager.transitionLevel →
    Rests run entry.1 (run.due entry.2)
  alive : run.manager.componentTransitionExecutors.any
    ComponentTransitionExecutor.isPending = false → run.queued = true
  last : run.begun.getLast? = some (run.manager.transitionLevel, run.manager.transition)
  reached_eq : run.manager.transition ≠ .INIT →
    reached (run.manager.transitionLevel, run.manager.transition) =
      (run.manager.currentLevel, run.manager.transition)

/-- The invariant of the runs. -/
structure Staged (run : LifecycleRun Component Listener) : Prop where
  layout : run.manager.Layout run.added
  distinct : (run.added.map Prod.fst).Nodup
  untouched : ∀ component, component ∉ run.added.map Prod.fst →
    run.starts component = [] ∧ run.finished component = 0
  current_le : run.manager.currentLevel.toNat ≤ run.manager.initLevelCount.toNat
  levels : 0 < run.manager.levelIndices.length
  settled : run.manager.isTransitionPending = false → Settled run
  underway : run.manager.isTransitionPending = true → Underway run
  arrived : run.manager.isTransitionPending = false → run.queued = false →
    run.manager.currentLevel = run.manager.targetLevel
  target_eq : run.manager.targetLevel.toNat =
    min run.requested.toNat (run.manager.levelIndices.length - 1)
  told_eq : run.told.map Prod.snd =
    ((completed run).filter fun entry => entry.2 ≠ .INIT).map reached

variable {run : LifecycleRun Component Listener}

/-! ## Components -/

/-- A component has one level. -/
theorem Staged.level_unique (staged : Staged run) {component : Component} {level other : UInt8}
    (member : (component, level) ∈ run.added) (otherMember : (component, other) ∈ run.added) :
    level = other :=
  congrArg Prod.snd (List.inj_on_of_nodup_map staged.distinct member otherMember rfl)

theorem Rests.finished_eq {component : Component} {due : Transition}
    (rests : Rests run component due) :
    run.finished component = (run.starts component).length := by
  obtain ⟨count, startsEq, finishedEq, -⟩ := rests
  rw [startsEq, finishedEq, length_course]

/-- The state of a component in transition depends on its history, its executor
and the waiting executors only. -/
theorem InTransition.transport {target : LifecycleRun Component Listener} {component : Component}
    {transition : Transition} (inTransition : InTransition run component transition)
    (waitingEq : target.waiting = run.waiting)
    (startsEq : target.starts component = run.starts component)
    (finishedEq : target.finished component = run.finished component)
    (executorsEq : target.manager.componentTransitionExecutors =
      run.manager.componentTransitionExecutors) :
    InTransition target component transition := by
  have flaggedIff : Flagged target component ↔ Flagged run component := by
    rw [Flagged, Flagged, executorsEq]
  have rests : ∀ due, Rests run component due → Rests target component due := by
    rintro due ⟨count, starts, finished, nthEq⟩
    exact ⟨count, startsEq.trans starts, finishedEq.trans finished, nthEq⟩
  cases inTransition with
  | waiting listed old flagged =>
    exact .waiting (waitingEq ▸ listed) (rests _ old) (flaggedIff.mpr flagged)
  | active unlisted active flagged =>
    obtain ⟨count, starts, finished, nthEq⟩ := active
    exact .active (waitingEq ▸ unlisted)
      ⟨count, startsEq.trans starts, finishedEq.trans finished, nthEq⟩ (flaggedIff.mpr flagged)
  | done unlisted old unflagged =>
    exact .done (waitingEq ▸ unlisted) (rests _ old) (mt flaggedIff.mp unflagged)

/-- Starting the transition a component waits for makes it active. -/
theorem Rests.course_succ {component : Component} {due : Transition}
    (rests : Rests run component due) :
    ∃ count, run.starts component ++ [due] = course (count + 1) ∧
      run.finished component = count ∧ nth count = due := by
  obtain ⟨count, startsEq, finishedEq, rfl⟩ := rests
  exact ⟨count, by rw [startsEq, Lifecycle.course_succ], finishedEq, rfl⟩

/-! ## Begin of a transition -/

theorem dueAt_of_ne {initLevelCount currentLevel level : Nat} {init' current' changed : Nat}
    (different : level ≠ changed)
    (step : (init' = initLevelCount ∧ current' = currentLevel + 1 ∧ changed = currentLevel + 1) ∨
      (init' = initLevelCount ∧ current' + 1 = currentLevel ∧ changed = currentLevel) ∨
      (init' = initLevelCount + 1 ∧ current' = currentLevel ∧ changed = initLevelCount + 1)) :
    dueAt init' current' level = dueAt initLevelCount currentLevel level := by
  rw [dueAt, dueAt]
  split_ifs <;> first | rfl | omega

/-- What `nextTransition` does to the levels. -/
structure Begins (source target : LifecycleManager Component) : Prop where
  tables : ∃ initLevelCount currentLevel transitionLevel transition, target =
    { source with initLevelCount, currentLevel, transitionLevel, transition }
  current_le : target.currentLevel.toNat ≤ target.initLevelCount.toNat
  positive : 0 < target.transitionLevel.toNat
  level_le : target.transitionLevel.toNat ≤ target.initLevelCount.toNat
  due_eq : dueAt source.initLevelCount.toNat source.currentLevel.toNat
    target.transitionLevel.toNat = target.transition
  next_due : target.transition.next = dueAt target.initLevelCount.toNat target.currentLevel.toNat
    target.transitionLevel.toNat
  others : ∀ level, level ≠ target.transitionLevel.toNat →
    dueAt target.initLevelCount.toNat target.currentLevel.toNat level =
      dueAt source.initLevelCount.toNat source.currentLevel.toNat level
  reached_eq : target.transition ≠ .INIT →
    reached (target.transitionLevel, target.transition) =
      (target.currentLevel, target.transition)

theorem toNat_succ {level bound : UInt8} (less : level < bound) :
    (level + 1).toNat = level.toNat + 1 := by
  have boundSmall := bound.toNat_lt
  rw [UInt8.lt_iff_toNat_lt] at less
  rw [UInt8.toNat_add]
  exact Nat.mod_eq_of_lt (by rw [UInt8.toNat_one]; omega)

/-- Either the target is reached, or a transition towards it begins. -/
theorem nextTransition_cases {manager : LifecycleManager Component}
    (currentLe : manager.currentLevel.toNat ≤ manager.initLevelCount.toNat) :
    (manager.nextTransition = none ∧ manager.currentLevel = manager.targetLevel) ∨
      ∃ target, manager.nextTransition = some target ∧ Begins manager target := by
  rw [LifecycleManager.nextTransition]
  by_cases arrived : manager.currentLevel = manager.targetLevel ∧
      manager.initLevelCount ≥ manager.targetLevel
  · rw [if_pos arrived]
    exact .inl ⟨rfl, arrived.1⟩
  rw [if_neg arrived]
  right
  by_cases down : manager.targetLevel < manager.currentLevel
  · have positive : 0 < manager.currentLevel.toNat := by
      rw [UInt8.lt_iff_toNat_lt] at down
      omega
    have pred : (manager.currentLevel - 1).toNat = manager.currentLevel.toNat - 1 := by
      rw [UInt8.toNat_sub_of_le]
      · rfl
      · rw [UInt8.le_iff_toNat_le]
        exact positive
    rw [if_pos down]
    refine ⟨_, rfl, ⟨_, _, _, _, rfl⟩, ?_, positive, currentLe, ?_, ?_, ?_, ?_⟩
    · change (manager.currentLevel - 1).toNat ≤ manager.initLevelCount.toNat
      omega
    · exact if_pos (Nat.le_refl _)
    · change Transition.RUN = dueAt manager.initLevelCount.toNat (manager.currentLevel - 1).toNat
        manager.currentLevel.toNat
      rw [dueAt, if_neg (by omega), if_pos currentLe]
    · intro level different
      refine dueAt_of_ne different (.inr (.inl ⟨rfl, ?_, rfl⟩))
      change (manager.currentLevel - 1).toNat + 1 = manager.currentLevel.toNat
      omega
    · intro _
      rfl
  rw [if_neg down]
  rw [UInt8.lt_iff_toNat_lt, Nat.not_lt] at down
  by_cases initialise : manager.initLevelCount < manager.targetLevel ∧
      manager.initLevelCount = manager.currentLevel
  · have succ := toNat_succ initialise.1
    have same := congrArg UInt8.toNat initialise.2
    rw [if_pos initialise]
    refine ⟨_, rfl, ⟨_, _, _, _, rfl⟩, ?_, ?_, Nat.le_refl _, ?_, ?_, ?_, ?_⟩
    · change manager.currentLevel.toNat ≤ (manager.initLevelCount + 1).toNat
      omega
    · change 0 < (manager.initLevelCount + 1).toNat
      omega
    · change dueAt manager.initLevelCount.toNat manager.currentLevel.toNat
        (manager.initLevelCount + 1).toNat = .INIT
      rw [dueAt, if_neg (by omega), if_neg (by omega)]
    · change Transition.RUN = dueAt (manager.initLevelCount + 1).toNat manager.currentLevel.toNat
        (manager.initLevelCount + 1).toNat
      rw [dueAt, if_neg (by omega), if_pos (Nat.le_refl _)]
    · intro level different
      refine dueAt_of_ne different (.inr (.inr ⟨succ, rfl, ?_⟩))
      exact succ
    · intro notInit
      exact absurd rfl notInit
  · have less : manager.currentLevel < manager.targetLevel := by
      rw [UInt8.lt_iff_toNat_lt]
      rcases Nat.lt_or_eq_of_le down with less | same
      · exact less
      · refine absurd ⟨UInt8.toNat_inj.mp same, ?_⟩ arrived
        rw [ge_iff_le, UInt8.le_iff_toNat_le]
        omega
    have succ := toNat_succ less
    have below : manager.currentLevel.toNat + 1 ≤ manager.initLevelCount.toNat := by
      by_contra above
      have same : manager.initLevelCount = manager.currentLevel := UInt8.toNat_inj.mp (by omega)
      exact initialise ⟨by rw [same]; exact less, same⟩
    rw [if_neg initialise]
    refine ⟨_, rfl, ⟨_, _, _, _, rfl⟩, ?_, ?_, ?_, ?_, ?_, ?_, ?_⟩
    · change (manager.currentLevel + 1).toNat ≤ manager.initLevelCount.toNat
      omega
    · change 0 < (manager.currentLevel + 1).toNat
      omega
    · change (manager.currentLevel + 1).toNat ≤ manager.initLevelCount.toNat
      omega
    · change dueAt manager.initLevelCount.toNat manager.currentLevel.toNat
        (manager.currentLevel + 1).toNat = .RUN
      rw [dueAt, if_neg (by omega), if_pos (by omega)]
    · change Transition.SHUTDOWN = dueAt manager.initLevelCount.toNat
        (manager.currentLevel + 1).toNat (manager.currentLevel + 1).toNat
      rw [dueAt, if_pos (Nat.le_refl _)]
    · intro level different
      exact dueAt_of_ne different (.inl ⟨rfl, succ, succ⟩)
    · intro _
      rfl

end OpenBsw.Lifecycle.LifecycleRun
