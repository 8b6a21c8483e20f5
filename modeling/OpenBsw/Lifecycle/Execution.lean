import OpenBsw.Lifecycle.Steps

/-!
# Execution of the manager

The manager closes the level transition that is done, tells the listeners, and
begins the next one.  Between the two no transition is pending, but the manager
need not be queued: this state is staged as soon as it counts as queued.
-/

namespace OpenBsw.Lifecycle.LifecycleRun

open List

variable {Component Listener : Type} {run : LifecycleRun Component Listener}

/-- Staged, except that the manager may have left the queue. -/
def StagedIfQueued (run : LifecycleRun Component Listener) : Prop :=
  Staged { run with queued := true }

theorem Staged.ifQueued (staged : Staged run) : StagedIfQueued run :=
  { staged with
    layout := { staged.layout with }
    settled := fun idle => { staged.settled idle with }
    underway := fun pending =>
      { staged.underway pending with
        inside := fun entry member here =>
          ((staged.underway pending).inside entry member here).transport rfl rfl rfl rfl
        alive := fun _ => rfl }
    arrived := fun _ notQueued => by cases notQueued }

/-! ## End of a transition -/

/-- Without pending executors, every component of the level is done. -/
theorem Underway.settled (underway : Underway run)
    (noneIsPending : run.manager.componentTransitionExecutors.any
      ComponentTransitionExecutor.isPending = false) :
    run.waiting = [] ∧ ∀ entry ∈ run.added, Rests run entry.1 (run.due entry.2) := by
  have unflagged : ∀ component, ¬Flagged run component := by
    rintro component ⟨executor, member, -, isPending⟩
    have some := any_eq_true.mpr ⟨executor, member, isPending⟩
    rw [noneIsPending] at some
    cases some
  have done : ∀ entry ∈ run.added, entry.2 = run.manager.transitionLevel →
      (entry.1, run.manager.transition) ∉ run.waiting ∧
        Rests run entry.1 run.manager.transition.next := by
    intro entry member here
    cases underway.inside entry member here with
    | waiting _ _ flagged => exact absurd flagged (unflagged _)
    | active _ _ flagged => exact absurd flagged (unflagged _)
    | done unlisted rests _ => exact ⟨unlisted, rests⟩
  constructor
  · refine eq_nil_iff_forall_not_mem.mpr ?_
    rintro ⟨component, transition⟩ member
    obtain ⟨same, inside⟩ := underway.waiting _ member
    change transition = run.manager.transition at same
    subst same
    exact (done _ inside rfl).1 member
  · intro entry member
    by_cases here : entry.2 = run.manager.transitionLevel
    · rw [here, ← underway.next_due]
      exact (done entry member here).2
    · exact underway.outside entry member here

theorem Underway.begun_eq (underway : Underway run) :
    run.begun = run.begun.dropLast ++ [(run.manager.transitionLevel, run.manager.transition)] :=
  (dropLast_append_getLast? _ underway.last).symm

/-- A transition that is done is closed. -/
theorem Staged.close (staged : Staged run) (pending : run.manager.isTransitionPending = true)
    (noneIsPending : run.manager.componentTransitionExecutors.any
      ComponentTransitionExecutor.isPending = false)
    (transition : Transition) {told : List (List Listener × UInt8 × Transition)}
    (toldEq : told.map Prod.snd =
      (run.begun.filter fun entry => entry.2 ≠ .INIT).map reached) :
    StagedIfQueued
      { run with
        manager :=
          { run.manager with
            isTransitionPending := false
            componentTransitionExecutors := []
            transition }
        queued := false
        told } := by
  obtain ⟨waitingEq, rests⟩ := (staged.underway pending).settled noneIsPending
  exact
    { staged with
      layout := { staged.layout with }
      settled := fun _ => ⟨rfl, waitingEq, rests⟩
      underway := fun impossible => by cases impossible
      arrived := fun _ impossible => by cases impossible
      told_eq := toldEq }

theorem StagedIfQueued.foldl (staged : StagedIfQueued run) (requests : List UInt8) :
    StagedIfQueued (requests.foldl transitionToLevel run) ∧
      (requests.foldl transitionToLevel run).manager.isTransitionPending =
        run.manager.isTransitionPending := by
  induction requests generalizing run with
  | nil => exact ⟨staged, rfl⟩
  | cons level rest ih =>
    have first : StagedIfQueued (run.transitionToLevel level) :=
      Staged.transitionToLevel staged level
    exact ih first

/-- The check leaves a pending transition alone, or no transition is pending
when the listeners have been told. -/
theorem Staged.check (staged : Staged run) (requests : List UInt8) :
    (run.manager.checkLevelTransitionDone.1 = false ∧
      run.manager.isTransitionPending = true ∧ run.manager.componentTransitionExecutors.any
        ComponentTransitionExecutor.isPending = true) ∨
    (run.manager.checkLevelTransitionDone.1 = true ∧
      let reachedRun :=
        notify { run with queued := false, manager := run.manager.checkLevelTransitionDone.2.1 }
          requests run.manager.checkLevelTransitionDone.2.2
      reachedRun.manager.isTransitionPending = false ∧ StagedIfQueued reachedRun) := by
  rw [LifecycleManager.checkLevelTransitionDone]
  cases pending : run.manager.isTransitionPending with
  | false =>
    right
    rw [if_pos (by simp)]
    exact ⟨rfl, pending, staged.ifQueued⟩
  | true =>
    rw [if_neg (by simp)]
    cases noneIsPending : run.manager.componentTransitionExecutors.any
        ComponentTransitionExecutor.isPending with
    | true =>
      left
      rw [if_pos rfl]
      exact ⟨rfl, rfl, rfl⟩
    | false =>
      right
      have underway := staged.underway pending
      have toldEq := staged.told_eq
      rw [completed, if_pos pending] at toldEq
      rw [if_neg Bool.false_ne_true]
      by_cases isInit : run.manager.transition = .INIT
      · have closed := @Staged.close _ _ _ staged pending noneIsPending
          run.manager.transition run.told (by
            rw [toldEq, underway.begun_eq, dropLast_concat, filter_append, isInit]
            simp)
        dsimp only
        rw [if_neg (not_not_intro isInit)]
        exact ⟨rfl, rfl, closed⟩
      · have closed := @Staged.close _ _ _ staged pending noneIsPending .INIT
          (run.told ++
            [(run.listeners, (run.manager.currentLevel, run.manager.transition))]) (by
            rw [map_append, toldEq, underway.begun_eq, dropLast_concat,
              filter_append, map_append,
              filter_cons_of_pos (by simpa using isInit), filter_nil,
              map_cons, map_cons, underway.reached_eq isInit]
            rfl)
        dsimp only
        rw [if_pos isInit]
        exact ⟨rfl, (closed.foldl requests).2, (closed.foldl requests).1⟩

/-! ## Begin of a transition -/

/-- Without a pending transition the manager either stays at its target, or
begins a transition for which every component of the level waits. -/
theorem StagedIfQueued.beginTransition (staged : StagedIfQueued run)
    (idle : run.manager.isTransitionPending = false) : Staged run.beginTransition := by
  have settled := staged.settled idle
  have currentLe := staged.current_le
  change run.manager.currentLevel.toNat ≤ run.manager.initLevelCount.toNat at currentLe
  rw [LifecycleRun.beginTransition]
  rcases nextTransition_cases currentLe with ⟨none, arrived⟩ | ⟨next, some, begins⟩
  · rw [none]
    exact
      { staged with
        layout := { staged.layout with }
        settled := fun _ => { settled with }
        underway := fun pending => absurd (idle.symm.trans pending) Bool.false_ne_true
        arrived := fun _ _ => arrived }
  · rw [some]
    have layout : next.Layout run.added := by
      obtain ⟨_, _, _, _, rfl⟩ := begins.tables
      exact { staged.layout with }
    have kept : next.levelIndices = run.manager.levelIndices ∧
        next.targetLevel = run.manager.targetLevel ∧
        next.componentTransitionExecutors = [] := by
      obtain ⟨_, _, _, _, rfl⟩ := begins.tables
      exact ⟨rfl, rfl, settled.executors⟩
    obtain ⟨indicesEq, targetEq, noExecutors⟩ := kept
    obtain ⟨componentsEq, executorsEq⟩ :=
      layout.levelExecutors_spec begins.positive next.transition
    have waitingEq : run.waiting ++ (next.levelExecutors next.transitionLevel
        next.transition).map (fun executor => (executor.component, executor.transition)) =
        (LifecycleManager.componentsAt run.added next.transitionLevel).map
          fun component => (component, next.transition) := by
      have noneWaits : run.waiting = [] := settled.waiting
      rw [noneWaits, nil_append, ← componentsEq, map_map]
      refine map_congr_left fun executor member => ?_
      rw [Function.comp_apply, (executorsEq executor member).1]
    have startedEq : next.startTransitions.componentTransitionExecutors =
        next.levelExecutors next.transitionLevel next.transition := by
      rw [LifecycleManager.startTransitions, noExecutors, nil_append]
    refine
      { layout := { layout with }
        distinct := staged.distinct
        untouched := staged.untouched
        current_le := begins.current_le
        levels := ?_
        settled := fun impossible => by cases impossible
        underway := fun _ => ?_
        arrived := fun impossible => by cases impossible
        target_eq := ?_
        told_eq := ?_ }
    · change 0 < next.levelIndices.length
      rw [indicesEq]
      exact staged.levels
    · refine
        { positive := begins.positive
          level_le := begins.level_le
          next_due := begins.next_due
          components := ?_
          waiting := ?_
          nodup := ?_
          inside := ?_
          outside := ?_
          alive := ?_
          last := List.getLast?_concat
          reached_eq := begins.reached_eq }
      · dsimp only
        rw [startedEq]
        exact componentsEq
      · intro entry member
        dsimp only at member
        rw [waitingEq] at member
        obtain ⟨component, inside, rfl⟩ := mem_map.mp member
        exact ⟨rfl, LifecycleManager.mem_componentsAt.mp inside⟩
      · dsimp only
        rw [waitingEq]
        refine List.Nodup.map (fun first second same => congrArg Prod.fst same) ?_
        exact staged.distinct.sublist (filter_sublist.map Prod.fst)
      · rintro ⟨component, level⟩ member here
        obtain rfl : level = next.transitionLevel := here
        have inside : component ∈ LifecycleManager.componentsAt run.added next.transitionLevel :=
          LifecycleManager.mem_componentsAt.mpr member
        refine .waiting ?_ ?_ ?_
        · dsimp only
          rw [waitingEq]
          exact mem_map_of_mem inside
        · have rests := settled.rests _ member
          rw [due] at rests
          change Rests run component _ at rests
          rw [begins.due_eq] at rests
          exact rests
        · rw [← componentsEq] at inside
          obtain ⟨executor, made, same⟩ := mem_map.mp inside
          refine ⟨executor, ?_, same, (executorsEq executor made).2⟩
          dsimp only
          rw [startedEq]
          exact made
      · intro entry member different
        have rests := settled.rests entry member
        have dueEq := begins.others entry.2.toNat fun same => different (UInt8.toNat_inj.mp same)
        rw [due] at rests ⊢
        change Rests run entry.1 _
        change Rests run entry.1 _ at rests
        dsimp only [LifecycleManager.startTransitions]
        rw [dueEq]
        exact rests
      · intro noneIsPending
        dsimp only at noneIsPending ⊢
        rw [startedEq] at noneIsPending ⊢
        have none : next.levelExecutors next.transitionLevel next.transition = [] := by
          refine eq_nil_iff_forall_not_mem.mpr fun executor member => ?_
          have isPending := any_eq_false.mp noneIsPending executor member
          exact isPending (executorsEq executor member).2
        rw [none, isEmpty_nil, Bool.or_true]
    · change next.targetLevel.toNat = min run.requested.toNat (next.levelIndices.length - 1)
      rw [indicesEq, targetEq]
      exact staged.target_eq
    · have toldEq := staged.told_eq
      rw [completed, if_neg (by simpa using idle)] at toldEq
      change run.told.map Prod.snd =
        (((run.begun ++ [(next.transitionLevel, next.transition)]).dropLast.filter
          fun entry => entry.2 ≠ .INIT).map reached)
      rw [dropLast_concat]
      exact toldEq

theorem Staged.execute (staged : Staged run) (requests : List UInt8) :
    Staged (run.execute requests) := by
  rw [LifecycleRun.execute]
  rcases staged.check requests with ⟨notDone, pending, somePending⟩ | ⟨done, idle, reachedRun⟩
  · dsimp only
    rw [if_neg (by rw [notDone]; exact Bool.false_ne_true)]
    have underway := staged.underway pending
    exact
      { staged with
        layout := { staged.layout with }
        settled := fun idle => absurd (idle.symm.trans pending) Bool.false_ne_true
        underway := fun _ =>
          { underway with
            inside := fun entry member here =>
              (underway.inside entry member here).transport rfl rfl rfl rfl
            alive := fun none => absurd (none.symm.trans somePending) Bool.false_ne_true }
        arrived := fun idle => absurd (idle.symm.trans pending) Bool.false_ne_true }
  · dsimp only
    rw [if_pos done]
    exact reachedRun.beginTransition idle

end OpenBsw.Lifecycle.LifecycleRun
