import OpenBsw.Lifecycle.Staging

/-!
# Steps keep the staging

One lemma for each event of the lifecycle runs.
-/

namespace OpenBsw.Lifecycle.LifecycleRun

open List

variable {Component Listener : Type} {run : LifecycleRun Component Listener}

/-! ## Requests -/

theorem Staged.transitionToLevel (staged : Staged run) (level : UInt8) :
    Staged (run.transitionToLevel level) where
  layout := { staged.layout with }
  distinct := staged.distinct
  untouched := staged.untouched
  current_le := staged.current_le
  levels := staged.levels
  settled := by
    intro idle
    have settled := staged.settled idle
    exact { settled with }
  underway := by
    intro pending
    have underway := staged.underway pending
    exact { underway with
      inside := fun entry member here =>
        (underway.inside entry member here).transport rfl rfl rfl rfl
      alive := fun _ => rfl }
  arrived := by
    intro _ notQueued
    cases notQueued
  target_eq := by
    have positive := staged.levels
    have small := level.toNat_lt
    change (if level.toNat < run.manager.levelIndices.length then level
      else UInt8.ofNat (run.manager.levelIndices.length - 1)).toNat =
        min level.toNat (run.manager.levelIndices.length - 1)
    split
    · omega
    · rw [UInt8.toNat_ofNat', Nat.mod_eq_of_lt (by omega)]
      omega
  told_eq := staged.told_eq

/-- The listeners play no part. -/
theorem Staged.listeners (staged : Staged run) (listeners : List Listener) :
    Staged { run with listeners } :=
  { staged with
    settled := fun idle => { staged.settled idle with }
    underway := fun pending =>
      { staged.underway pending with
        inside := fun entry member here =>
          ((staged.underway pending).inside entry member here).transport rfl rfl rfl rfl } }

theorem Staged.addComponent (staged : Staged run) (room : run.added.length < 255)
    {component : Component} {level : UInt8} (fresh : component ∉ run.added.map Prod.fst)
    (above : run.manager.initLevelCount < level) {manager : LifecycleManager Component}
    (success : run.manager.addComponent component level = some manager) :
    Staged { run with manager, added := run.added ++ [(component, level)] } := by
  obtain ⟨⟨_, _, _, _, rfl, length⟩, layout⟩ := staged.layout.addComponent room success
  rw [UInt8.lt_iff_toNat_lt] at above
  have currentLe := staged.current_le
  have newRests : Rests run component (run.due level) := by
    obtain ⟨startsEq, finishedEq⟩ := staged.untouched component fresh
    refine ⟨0, startsEq, finishedEq, ?_⟩
    rw [due, dueAt, if_neg (by omega), if_neg (by omega)]
    rfl
  refine
    { staged with
      layout
      distinct := ?_
      untouched := ?_
      levels := ?_
      settled := ?_
      underway := ?_
      target_eq := ?_ }
  · change ((run.added ++ [(component, level)]).map Prod.fst).Nodup
    rw [map_append, nodup_append]
    refine ⟨staged.distinct, nodup_singleton _, ?_⟩
    intro first firstIn second secondIn same
    have equal : first = component := same.trans (mem_singleton.mp secondIn)
    exact fresh (equal ▸ firstIn)
  · intro other absent
    refine staged.untouched other fun old => absent ?_
    change other ∈ (run.added ++ [(component, level)]).map Prod.fst
    rw [map_append]
    exact mem_append_left _ old
  · rw [length]
    exact staged.levels
  · intro idle
    have settled := staged.settled idle
    refine ⟨settled.executors, settled.waiting, ?_⟩
    intro entry member
    rcases mem_append.mp member with old | new
    · exact settled.rests entry old
    · rw [mem_singleton.mp new]
      exact newRests
  · intro pending
    have underway := staged.underway pending
    have levelLe := underway.level_le
    have notHere : level ≠ run.manager.transitionLevel := by
      rintro rfl
      omega
    refine { underway with components := ?_, waiting := ?_, inside := ?_, outside := ?_ }
    · exact underway.components.trans
        (LifecycleManager.componentsAt_append_of_ne notHere component).symm
    · intro entry member
      obtain ⟨same, inside⟩ := underway.waiting entry member
      exact ⟨same, mem_append_left _ inside⟩
    · intro entry member here
      rcases mem_append.mp member with old | new
      · exact (underway.inside entry old here).transport rfl rfl rfl rfl
      · rw [mem_singleton.mp new] at here
        exact absurd here notHere
    · intro entry member different
      rcases mem_append.mp member with old | new
      · exact underway.outside entry old different
      · rw [mem_singleton.mp new]
        exact newRests
  · change run.manager.targetLevel.toNat = min run.requested.toNat (List.length _ - 1)
    rw [length]
    exact staged.target_eq

/-! ## Components -/

/-- The executors of a level belong to different components. -/
theorem Staged.executors_nodup (staged : Staged run) (underway : Underway run) :
    (run.manager.componentTransitionExecutors.map
      ComponentTransitionExecutor.component).Nodup := by
  rw [underway.components]
  exact staged.distinct.sublist (filter_sublist.map Prod.fst)

/-- A component with an open transition belongs to the pending level, and is active. -/
theorem Staged.active_of_open (staged : Staged run) {component : Component}
    (opened : run.finished component < (run.starts component).length) :
    run.manager.isTransitionPending = true ∧ Underway run ∧
      (component, run.manager.transitionLevel) ∈ run.added ∧
      (component, run.manager.transition) ∉ run.waiting ∧
      Active run component run.manager.transition := by
  have member : component ∈ run.added.map Prod.fst := by
    by_contra absent
    rw [(staged.untouched component absent).1] at opened
    exact Nat.not_lt_zero _ opened
  obtain ⟨⟨other, level⟩, inside, same⟩ := mem_map.mp member
  obtain rfl : component = other := same.symm
  have notResting : ∀ due, ¬Rests run component due := by
    intro due rests
    rw [rests.finished_eq] at opened
    exact Nat.lt_irrefl _ opened
  cases pending : run.manager.isTransitionPending with
  | false => exact absurd ((staged.settled pending).rests _ inside) (notResting _)
  | true =>
    have underway := staged.underway pending
    by_cases here : level = run.manager.transitionLevel
    · subst here
      cases underway.inside _ inside rfl with
      | waiting _ rests _ => exact absurd rests (notResting _)
      | active unlisted active _ => exact ⟨rfl, underway, inside, unlisted, active⟩
      | done _ rests _ => exact absurd rests (notResting _)
    · exact absurd (underway.outside _ inside here) (notResting _)

variable [DecidableEq Component]

theorem Staged.startTransition (staged : Staged run) {component : Component}
    {transition : Transition} (listed : (component, transition) ∈ run.waiting) :
    Staged (run.startTransition component transition) := by
  have pending : run.manager.isTransitionPending = true := by
    by_contra idle
    rw [(staged.settled (Bool.eq_false_iff.mpr idle)).waiting] at listed
    exact not_mem_nil listed
  have underway := staged.underway pending
  obtain ⟨same, member⟩ := underway.waiting _ listed
  change transition = run.manager.transition at same
  subst same
  change (component, run.manager.transitionLevel) ∈ run.added at member
  have others : ∀ other ≠ component,
      (run.startTransition component run.manager.transition).starts other = run.starts other :=
    fun other different => Function.update_of_ne different _ _
  have rests_of : ∀ other ≠ component, ∀ due, Rests run other due →
      Rests (run.startTransition component run.manager.transition) other due := by
    rintro other different due ⟨count, startsEq, rest⟩
    exact ⟨count, (others other different).trans startsEq, rest⟩
  have listed_iff : ∀ other ≠ component,
      (other, run.manager.transition) ∈
          (run.startTransition component run.manager.transition).waiting ↔
        (other, run.manager.transition) ∈ run.waiting := by
    intro other different
    refine mem_erase_of_ne fun equal => different (congrArg Prod.fst equal)
  refine
    { staged with
      layout := { staged.layout with }
      untouched := ?_
      settled := ?_
      underway := ?_ }
  · intro other absent
    have different : other ≠ component := by
      rintro rfl
      exact absent (mem_map_of_mem member)
    rw [others other different]
    exact staged.untouched other absent
  · intro idle
    exact absurd (idle.symm.trans pending) Bool.false_ne_true
  · intro _
    refine { underway with waiting := ?_, nodup := ?_, inside := ?_, outside := ?_ }
    · intro entry inside
      exact underway.waiting entry (mem_of_mem_erase inside)
    · exact underway.nodup.erase _
    · rintro ⟨other, level⟩ inside here
      by_cases same : other = component
      · subst same
        cases underway.inside _ inside here with
        | waiting _ rests flagged =>
          obtain ⟨count, startsEq, finishedEq, nthEq⟩ := rests.course_succ
          refine .active ?_ ⟨count, ?_, finishedEq, nthEq⟩ flagged
          · exact fun still => (underway.nodup.not_mem_erase) still
          · exact (Function.update_self _ _ _).trans startsEq
        | active unlisted _ _ => exact absurd listed unlisted
        | done unlisted _ _ => exact absurd listed unlisted
      · cases underway.inside _ inside here with
        | waiting listed rests flagged =>
          exact .waiting ((listed_iff other same).mpr listed) (rests_of other same _ rests)
            flagged
        | active unlisted active flagged =>
          obtain ⟨count, startsEq, rest⟩ := active
          exact .active (fun still => unlisted ((listed_iff other same).mp still))
            ⟨count, (others other same).trans startsEq, rest⟩ flagged
        | done unlisted rests unflagged =>
          exact .done (fun still => unlisted ((listed_iff other same).mp still))
            (rests_of other same _ rests) unflagged
    · rintro ⟨other, level⟩ inside different
      have notHere : other ≠ component := by
        rintro rfl
        exact different (staged.level_unique inside member)
      exact rests_of other notHere _ (underway.outside _ inside different)

/-- With distinct components, only the executor of the component changes. -/
theorem modify_executor {executors : List (ComponentTransitionExecutor Component)}
    (distinct : (executors.map ComponentTransitionExecutor.component).Nodup)
    (component : Component) :
    executors.modify (executors.findIdx fun executor => executor.component = component)
        (fun executor => { executor with isPending := false }) =
      executors.map fun executor =>
        if executor.component = component then { executor with isPending := false }
        else executor := by
  induction executors with
  | nil => rfl
  | cons first rest ih =>
    rw [map_cons, nodup_cons] at distinct
    rw [findIdx_cons, map_cons]
    by_cases here : first.component = component
    · have others : rest.map (fun executor : ComponentTransitionExecutor Component =>
          if executor.component = component then { executor with isPending := false }
          else executor) = rest := by
        refine (map_congr_left fun executor member => if_neg ?_).trans (map_id _)
        rintro rfl
        exact distinct.1 (here ▸ mem_map_of_mem member)
      rw [others, if_pos here, decide_eq_true here, cond_true, modify_zero_cons]
    · rw [if_neg here, decide_eq_false here, cond_false, modify_succ_cons, ih distinct.2]

theorem Staged.transitionDone (staged : Staged run) {component : Component}
    (opened : run.finished component < (run.starts component).length) :
    Staged (run.transitionDone component) := by
  obtain ⟨pending, underway, member, unlisted, active⟩ := staged.active_of_open opened
  have executorsEq : (run.transitionDone component).manager.componentTransitionExecutors =
      run.manager.componentTransitionExecutors.map fun executor =>
        if executor.component = component then { executor with isPending := false }
        else executor :=
    modify_executor (staged.executors_nodup underway) component
  have others : ∀ other ≠ component,
      (run.transitionDone component).finished other = run.finished other :=
    fun other different => Function.update_of_ne different _ _
  have rests_of : ∀ other ≠ component, ∀ due, Rests run other due →
      Rests (run.transitionDone component) other due := by
    rintro other different due ⟨count, startsEq, finishedEq, rest⟩
    exact ⟨count, startsEq, (others other different).trans finishedEq, rest⟩
  have flagged_iff : ∀ other ≠ component,
      Flagged (run.transitionDone component) other ↔ Flagged run other := by
    intro other different
    rw [Flagged, executorsEq]
    constructor
    · rintro ⟨_, made, same, isPending⟩
      obtain ⟨executor, inside, rfl⟩ := mem_map.mp made
      split at same
      · rename_i here
        exact absurd (same.symm.trans here) different
      · rename_i here
        rw [if_neg here] at isPending
        exact ⟨executor, inside, same, isPending⟩
    · rintro ⟨executor, inside, rfl, isPending⟩
      refine ⟨executor, mem_map.mpr ⟨executor, inside, if_neg different⟩, rfl, isPending⟩
  have unflagged : ¬Flagged (run.transitionDone component) component := by
    rw [Flagged, executorsEq]
    rintro ⟨_, made, same, isPending⟩
    obtain ⟨executor, inside, rfl⟩ := mem_map.mp made
    split at same
    · rename_i here
      rw [if_pos here] at isPending
      cases isPending
    · rename_i here
      exact here same
  have restsNext : Rests (run.transitionDone component) component
      run.manager.transition.next := by
    obtain ⟨count, startsEq, finishedEq, nthEq⟩ := active
    refine ⟨count + 1, startsEq, ?_, by rw [nth_succ, nthEq]⟩
    exact (Function.update_self _ _ _).trans (congrArg (· + 1) finishedEq)
  have isQueued : (run.transitionDone component).queued = true := by
    have listed : component ∈ run.manager.componentTransitionExecutors.map
        ComponentTransitionExecutor.component := by
      rw [underway.components]
      exact LifecycleManager.mem_componentsAt.mpr member
    obtain ⟨executor, inside, same⟩ := mem_map.mp listed
    refine Bool.or_eq_true_iff.mpr (.inr (any_eq_true.mpr ⟨executor, inside, ?_⟩))
    exact decide_eq_true same
  refine
    { staged with
      layout := { staged.layout with }
      untouched := ?_
      settled := ?_
      underway := ?_
      arrived := ?_ }
  · intro other absent
    have different : other ≠ component := by
      rintro rfl
      exact absent (mem_map_of_mem member)
    rw [others other different]
    exact staged.untouched other absent
  · intro idle
    exact absurd (idle.symm.trans pending) Bool.false_ne_true
  · intro _
    refine { underway with components := ?_, inside := ?_, outside := ?_, alive := ?_ }
    · rw [executorsEq, map_map]
      refine (map_congr_left fun executor _ => ?_).trans underway.components
      rw [Function.comp_apply]
      split <;> rfl
    · rintro ⟨other, level⟩ inside here
      by_cases same : other = component
      · subst same
        exact .done unlisted restsNext unflagged
      · cases underway.inside _ inside here with
        | waiting listed rests flagged =>
          exact .waiting listed (rests_of other same _ rests) ((flagged_iff other same).mpr flagged)
        | active unlisted active flagged =>
          obtain ⟨count, startsEq, finishedEq, rest⟩ := active
          exact .active unlisted ⟨count, startsEq, (others other same).trans finishedEq, rest⟩
            ((flagged_iff other same).mpr flagged)
        | done unlisted rests unflagged =>
          exact .done unlisted (rests_of other same _ rests)
            fun flagged => unflagged ((flagged_iff other same).mp flagged)
    · rintro ⟨other, level⟩ inside different
      have notHere : other ≠ component := by
        rintro rfl
        exact different (staged.level_unique inside member)
      exact rests_of other notHere _ (underway.outside _ inside different)
    · exact fun _ => isQueued
  · intro idle
    exact absurd (idle.symm.trans pending) Bool.false_ne_true

end OpenBsw.Lifecycle.LifecycleRun
