import OpenBsw.Data.BinarySearch
import OpenBsw.Lifecycle.LifecycleManager

/-!
# Levels of components

The level indices of the manager count the components up to each level, so the
components of a level are a range of the component infos.  The indices are
bytes: this holds for up to 255 components.
-/

namespace OpenBsw.Lifecycle

open List

variable {Component : Type}

namespace LifecycleManager

/-- The tables of the manager describe the components that were added. -/
structure Layout (manager : LifecycleManager Component) (added : List (Component × UInt8)) :
    Prop where
  small : added.length ≤ 255
  count_eq : manager.componentCount.toNat = added.length
  infos_eq : manager.componentInfos.take added.length = added.map fun entry => some entry.1
  sorted : added.Pairwise fun first second => first.2.toNat ≤ second.2.toNat
  levels : ∀ entry ∈ added, 0 < entry.2.toNat ∧ entry.2.toNat ≤ manager.levelCount.toNat
  levelCount_lt : manager.levelCount.toNat < manager.levelIndices.length
  index_le : ∀ level ≤ manager.levelCount.toNat,
    (manager.levelIndex level).toNat = added.countP fun entry => entry.2.toNat ≤ level
  index_gt : ∀ level, manager.levelCount.toNat < level → manager.levelIndex level = 0

variable {manager : LifecycleManager Component} {added : List (Component × UInt8)}

theorem layout_create (components executors : Nat) {levels : Nat} (positive : 0 < levels) :
    Layout (create components executors levels : LifecycleManager Component) [] where
  small := Nat.zero_le _
  count_eq := rfl
  infos_eq := rfl
  sorted := .nil
  levels := by simp
  levelCount_lt := by simpa [create] using positive
  index_le := by
    intro level le
    simp only [create, levelIndex, getD_eq_getElem?_getD, List.getElem?_replicate]
    split <;> rfl
  index_gt := by
    intro level _
    simp only [create, levelIndex, getD_eq_getElem?_getD, List.getElem?_replicate]
    split <;> rfl

/-- The components of a level, in the order they were added. -/
def componentsAt (added : List (Component × UInt8)) (level : UInt8) : List Component :=
  (added.filter fun entry => entry.2 = level).map Prod.fst

theorem mem_componentsAt {level : UInt8} {component : Component} :
    component ∈ componentsAt added level ↔ (component, level) ∈ added := by
  simp [componentsAt]

/-- A component of another level does not change the level. -/
theorem componentsAt_append_of_ne {level other : UInt8} (different : other ≠ level)
    (component : Component) :
    componentsAt (added ++ [(component, other)]) level = componentsAt added level := by
  have excluded : [(component, other)].filter (fun entry => entry.2 = level) = [] :=
    filter_cons_of_neg (by simpa using different)
  rw [componentsAt, filter_append, excluded, append_nil]
  rfl

/-- The executors of a level are those of its components. -/
theorem Layout.levelExecutors_spec (layout : Layout manager added) {level : UInt8}
    (positive : 0 < level.toNat) (transition : Transition) :
    (manager.levelExecutors level transition).map ComponentTransitionExecutor.component =
        componentsAt added level ∧
      ∀ executor ∈ manager.levelExecutors level transition,
        executor.transition = transition ∧ executor.isPending = true := by
  have fields : ∀ executor ∈ manager.levelExecutors level transition,
      executor.transition = transition ∧ executor.isPending = true := by
    intro executor member
    obtain ⟨⟨info, index⟩, _, made⟩ := mem_filterMap.mp member
    obtain ⟨component, _, rfl⟩ := Option.map_eq_some_iff.mp made
    exact ⟨rfl, rfl⟩
  refine ⟨?_, fields⟩
  by_cases inside : level.toNat ≤ manager.levelCount.toNat
  · obtain ⟨front, middle, back, addedEq, less, equal, greater⟩ :=
      BinarySearch.exists_split layout.sorted level.toNat
    have counted : ∀ bound, (∀ entry ∈ front, entry.2.toNat ≤ bound) →
        added.countP (fun entry => entry.2.toNat ≤ bound) = front.length +
          (middle.countP (fun entry => entry.2.toNat ≤ bound) +
            back.countP fun entry => entry.2.toNat ≤ bound) := by
      intro bound all
      rw [addedEq, append_assoc, countP_append, countP_append]
      congr 1
      exact countP_eq_length.mpr fun entry member => decide_eq_true (all entry member)
    have first : (manager.levelIndex (level.toNat - 1)).toNat = front.length := by
      have noMiddle : middle.countP (fun entry => entry.2.toNat ≤ level.toNat - 1) = 0 := by
        refine countP_eq_zero.mpr fun entry member => ?_
        have same := equal entry member
        rw [decide_eq_true_eq]
        omega
      have noBack : back.countP (fun entry => entry.2.toNat ≤ level.toNat - 1) = 0 := by
        refine countP_eq_zero.mpr fun entry member => ?_
        have above := greater entry member
        rw [decide_eq_true_eq]
        omega
      rw [layout.index_le _ (by omega), counted _ fun entry member => by
        have below := less entry member
        omega, noMiddle, noBack]
      rfl
    have last : (manager.levelIndex level.toNat).toNat = front.length + middle.length := by
      have allMiddle : middle.countP (fun entry => entry.2.toNat ≤ level.toNat) =
          middle.length :=
        countP_eq_length.mpr fun entry member =>
          decide_eq_true (Nat.le_of_eq (equal entry member))
      have noBack : back.countP (fun entry => entry.2.toNat ≤ level.toNat) = 0 := by
        refine countP_eq_zero.mpr fun entry member => ?_
        have above := greater entry member
        rw [decide_eq_true_eq]
        omega
      rw [layout.index_le _ inside, counted _ fun entry member => Nat.le_of_lt (less entry member),
        allMiddle, noBack]
      rfl
    have infos : manager.componentInfos = front.map (fun entry => some entry.1) ++
        (middle.map (fun entry => some entry.1) ++ (back.map (fun entry => some entry.1) ++
          manager.componentInfos.drop added.length)) := by
      conv_lhs => rw [← take_append_drop added.length manager.componentInfos]
      rw [layout.infos_eq, addedEq, map_append, map_append, append_assoc,
        append_assoc]
    have range : ((manager.componentInfos.zipIdx.take (front.length + middle.length)).drop
        front.length) = (middle.map fun entry => some entry.1).zipIdx front.length := by
      rw [infos, zipIdx_append, zipIdx_append, ← append_assoc, take_left',
        drop_left']
      · simp
      · simp
      · simp
    have selected : componentsAt added level = middle.map Prod.fst := by
      rw [componentsAt, addedEq, filter_append, filter_append]
      have noFront : front.filter (fun entry => entry.2 = level) = [] := by
        refine filter_eq_nil_iff.mpr fun entry member same => ?_
        have below := less entry member
        rw [of_decide_eq_true same] at below
        exact Nat.lt_irrefl _ below
      have noBack : back.filter (fun entry => entry.2 = level) = [] := by
        refine filter_eq_nil_iff.mpr fun entry member same => ?_
        have above := greater entry member
        rw [of_decide_eq_true same] at above
        exact Nat.lt_irrefl _ above
      have allMiddle : middle.filter (fun entry => entry.2 = level) = middle :=
        filter_eq_self.mpr fun entry member =>
          decide_eq_true (UInt8.toNat_inj.mp (equal entry member))
      rw [noFront, noBack, allMiddle, nil_append, append_nil]
    simp only [levelExecutors, first, last, range, selected]
    generalize front.length = start
    clear * -
    induction middle generalizing start with
    | nil => rfl
    | cons entry rest ih =>
      rw [map_cons, zipIdx_cons, filterMap_cons, map_cons]
      simp only [Option.map_some, map_cons, ih]
  · have none : (manager.levelIndex level.toNat).toNat = 0 := by
      rw [layout.index_gt _ (by omega)]
      rfl
    have empty : componentsAt added level = [] := by
      refine eq_nil_iff_forall_not_mem.mpr fun component member => ?_
      have le := (layout.levels _ (mem_componentsAt.mp member)).2
      exact inside le
    simp [levelExecutors, none, empty]

/-! ## Adding components -/

/-- Opening a level copies the index of the last one. -/
theorem Layout.openLevel (layout : Layout manager added)
    (room : manager.levelCount.toNat + 1 < manager.levelIndices.length)
    (small : manager.levelCount.toNat + 1 < 256) :
    Layout
      { manager with
        levelCount := manager.levelCount + 1
        levelIndices := manager.levelIndices.set (manager.levelCount + 1).toNat
          (manager.levelIndex ((manager.levelCount + 1).toNat - 1)) } added := by
  have next : (manager.levelCount + 1).toNat = manager.levelCount.toNat + 1 := by
    rw [UInt8.toNat_add]
    exact Nat.mod_eq_of_lt small
  refine { layout with levels := ?_, levelCount_lt := ?_, index_le := ?_, index_gt := ?_ }
  · intro entry member
    have bounds := layout.levels entry member
    change 0 < entry.2.toNat ∧ entry.2.toNat ≤ (manager.levelCount + 1).toNat
    omega
  · change (manager.levelCount + 1).toNat < (manager.levelIndices.set _ _).length
    rw [next, length_set]
    exact room
  · intro level le
    change level ≤ (manager.levelCount + 1).toNat at le
    simp only [levelIndex, getD_eq_getElem?_getD, List.getElem?_set, next] at le ⊢
    by_cases top : manager.levelCount.toNat + 1 = level
    · have last := layout.index_le manager.levelCount.toNat (Nat.le_refl _)
      simp only [levelIndex, getD_eq_getElem?_getD] at last
      rw [if_pos top, if_pos room, Option.getD_some, Nat.add_sub_cancel, last]
      refine countP_congr fun entry member => ?_
      have bound := (layout.levels entry member).2
      simp only [decide_eq_true_eq]
      omega
    · rw [if_neg top]
      have old := layout.index_le level (by omega)
      simpa only [levelIndex, getD_eq_getElem?_getD] using old
  · intro level gt
    change (manager.levelCount + 1).toNat < level at gt
    have old := layout.index_gt level (by omega)
    simp only [levelIndex, getD_eq_getElem?_getD, List.getElem?_set, next] at old ⊢
    rw [if_neg (by omega)]
    exact old

/-- Opening levels changes the level count and the indices only. -/
theorem Layout.openLevels (layout : Layout manager added) {rounds : Nat}
    (room : manager.levelCount.toNat + rounds < manager.levelIndices.length)
    (small : manager.levelCount.toNat + rounds < 256) :
    ∃ levelCount levelIndices, LifecycleManager.openLevels rounds manager =
        { manager with levelCount, levelIndices } ∧
      levelIndices.length = manager.levelIndices.length ∧
      levelCount.toNat = manager.levelCount.toNat + rounds ∧
      Layout { manager with levelCount, levelIndices } added := by
  induction rounds generalizing manager with
  | zero => exact ⟨_, _, rfl, rfl, rfl, layout⟩
  | succ rounds ih =>
    have next : (manager.levelCount + 1).toNat = manager.levelCount.toNat + 1 := by
      rw [UInt8.toNat_add]
      exact Nat.mod_eq_of_lt (by rw [UInt8.toNat_one]; omega)
    have opened := layout.openLevel (by omega) (by omega)
    obtain ⟨levelCount, levelIndices, result, length, count, final⟩ := ih opened
      (by
        change (manager.levelCount + 1).toNat + rounds < (manager.levelIndices.set _ _).length
        rw [length_set]
        omega)
      (by
        change (manager.levelCount + 1).toNat + rounds < 256
        omega)
    refine ⟨levelCount, levelIndices, result, ?_, ?_, final⟩
    · rw [length]
      exact length_set
    · rw [count]
      change (manager.levelCount + 1).toNat + rounds = _
      omega

/-- Adding a component changes the tables only, which describe it afterwards. -/
theorem Layout.addComponent (layout : Layout manager added) (room : added.length < 255)
    {component : Component} {level : UInt8} {changed : LifecycleManager Component}
    (success : manager.addComponent component level = some changed) :
    (∃ componentInfos levelIndices levelCount componentCount, changed =
        { manager with componentInfos, levelIndices, levelCount, componentCount } ∧
        levelIndices.length = manager.levelIndices.length) ∧
      Layout changed (added ++ [(component, level)]) := by
  rw [LifecycleManager.addComponent] at success
  split at success
  swap
  · cases success
  rename_i checks
  obtain ⟨countLt, positive, inside, notBelow⟩ := checks
  have levelSmall := level.toNat_lt
  rw [ge_iff_le, UInt8.le_iff_toNat_le] at notBelow
  obtain ⟨levelCount, levelIndices, result, length, count, opened⟩ :=
    @Layout.openLevels _ _ _ layout (level.toNat - manager.levelCount.toNat) (by omega) (by omega)
  have levelEq : levelCount.toNat = level.toNat := by omega
  rw [result] at success
  simp only at success
  split at success
  swap
  · cases success
  cases success
  refine ⟨⟨_, _, _, _, rfl, by rw [length_set, length]⟩, ?_⟩
  have lengthLe : added.length + 1 ≤ manager.componentInfos.length := by
    rw [← layout.count_eq]
    omega
  have top : levelCount.toNat < levelIndices.length := opened.levelCount_lt
  refine ⟨?_, ?_, ?_, ?_, ?_, ?_, ?_, ?_⟩
  · rw [List.length_append, length_singleton]
    omega
  · change (manager.componentCount + 1).toNat = _
    rw [UInt8.toNat_add, layout.count_eq, List.length_append, length_singleton,
      UInt8.toNat_one]
    exact Nat.mod_eq_of_lt (by omega)
  · change (manager.componentInfos.set manager.componentCount.toNat (some component)).take _ = _
    have outside : added.length < manager.componentInfos.length := by omega
    rw [layout.count_eq, List.length_append, length_singleton, map_append,
      ← layout.infos_eq, take_succ_eq_append_getElem (by simpa using outside),
      take_set_of_le (Nat.le_refl _), getElem_set_self]
    rfl
  · rw [pairwise_append]
    refine ⟨layout.sorted, pairwise_singleton _ _, ?_⟩
    intro first firstIn second secondIn
    rw [mem_singleton.mp secondIn]
    exact Nat.le_trans (layout.levels first firstIn).2 notBelow
  · intro entry member
    change 0 < entry.2.toNat ∧ entry.2.toNat ≤ levelCount.toNat
    rcases mem_append.mp member with old | new
    · have bounds := layout.levels entry old
      omega
    · rw [mem_singleton.mp new]
      rw [gt_iff_lt, UInt8.lt_iff_toNat_lt] at positive
      exact ⟨positive, Nat.le_of_eq levelEq.symm⟩
  · change levelCount.toNat < (levelIndices.set _ _).length
    rw [length_set]
    exact top
  · intro other le
    change other ≤ levelCount.toNat at le
    have old := opened.index_le other le
    have last := opened.index_le levelCount.toNat (Nat.le_refl _)
    simp only [levelIndex, getD_eq_getElem?_getD, List.getElem?_set, countP_append,
      countP_singleton, decide_eq_true_eq] at old last ⊢
    by_cases here : levelCount.toNat = other
    · subst here
      have countLe := countP_le_length (p := fun entry : Component × UInt8 =>
        decide (entry.2.toNat ≤ levelCount.toNat)) (l := added)
      rw [if_pos rfl, if_pos top, Option.getD_some, UInt8.toNat_add, last,
        if_pos (Nat.le_of_eq levelEq.symm), UInt8.toNat_one]
      exact Nat.mod_eq_of_lt (by omega)
    · rw [if_neg here, if_neg (by omega), old, Nat.add_zero]
  · intro other gt
    change levelCount.toNat < other at gt
    have old := opened.index_gt other gt
    simp only [levelIndex, getD_eq_getElem?_getD, List.getElem?_set] at old ⊢
    rw [if_neg (by omega)]
    exact old

end LifecycleManager

end OpenBsw.Lifecycle
