import Mathlib

/-!
# Cuts of a complete binary tree

The nodes of a complete binary tree lie in an array level by level.  A cut is a
set of nodes with exactly one of them above each leaf; replacing a node of it by
its children, or two children by their parent, makes another cut.
-/

namespace OpenBsw.CompleteTree

/-! ## Positions -/

/-- Where a node of a level lies in the array. -/
def position (level index : Nat) : Nat :=
  2 ^ level - 1 + index

variable {height level index : Nat}

theorem position_add_one (level index : Nat) : position level index + 1 = 2 ^ level + index := by
  have positive : 0 < 2 ^ level := Nat.two_pow_pos level
  rw [position]
  omega

theorem position_lt (inside : level ≤ height) (small : index < 2 ^ level) :
    position level index < 2 ^ (height + 1) - 1 := by
  have grows : 2 ^ (level + 1) ≤ 2 ^ (height + 1) :=
    Nat.pow_le_pow_right (by decide) (Nat.succ_le_succ inside)
  have number := position_add_one level index
  rw [Nat.pow_succ] at grows
  omega

/-- A level ends before the next one begins. -/
theorem level_le_of_position_le {level' index' : Nat} (small' : index' < 2 ^ level')
    (ordered : position level index ≤ position level' index') : level ≤ level' := by
  by_contra above
  have grows : 2 ^ (level' + 1) ≤ 2 ^ level := Nat.pow_le_pow_right (by decide) (by omega)
  have number := position_add_one level index
  have number' := position_add_one level' index'
  rw [Nat.pow_succ] at grows
  omega

theorem position_inj {level' index' : Nat} (small : index < 2 ^ level)
    (small' : index' < 2 ^ level') :
    position level index = position level' index' ↔ level = level' ∧ index = index' := by
  constructor
  · intro equal
    have below := level_le_of_position_le small' (Nat.le_of_eq equal)
    have above := level_le_of_position_le small (Nat.le_of_eq equal.symm)
    obtain rfl := Nat.le_antisymm below above
    exact ⟨rfl, Nat.add_left_cancel equal⟩
  · rintro ⟨rfl, rfl⟩
    rfl

theorem position_left (level index : Nat) :
    position (level + 1) (2 * index) = 2 * position level index + 1 := by
  have number := position_add_one level index
  have child := position_add_one (level + 1) (2 * index)
  rw [Nat.pow_succ] at child
  omega

/-- Every place of the array is that of a node. -/
theorem exists_position {place : Nat} (inside : place < 2 ^ (height + 1) - 1) :
    ∃ level ≤ height, ∃ index < 2 ^ level, place = position level index := by
  have nonzero : place + 1 ≠ 0 := Nat.succ_ne_zero place
  have lower : 2 ^ (place + 1).log2 ≤ place + 1 := Nat.log2_self_le nonzero
  have upper : place + 1 < 2 ^ ((place + 1).log2 + 1) := Nat.lt_log2_self
  have high : (place + 1).log2 < height + 1 := (Nat.log2_lt nonzero).mpr (by omega)
  rw [Nat.pow_succ] at upper
  refine ⟨(place + 1).log2, Nat.le_of_lt_succ high, place + 1 - 2 ^ (place + 1).log2, by omega, ?_⟩
  have number := position_add_one (place + 1).log2 (place + 1 - 2 ^ (place + 1).log2)
  omega

/-! ## Ancestors -/

/-- The index of the node of a level that is above a leaf. -/
def above (height level leaf : Nat) : Nat :=
  leaf / 2 ^ (height - level)

theorem above_lt {leaf : Nat} (inside : level ≤ height) (small : leaf < 2 ^ height) :
    above height level leaf < 2 ^ level := by
  rw [above, Nat.div_lt_iff_lt_mul (Nat.two_pow_pos _), ← Nat.pow_add,
    Nat.add_sub_cancel' inside]
  exact small

theorem above_div {level' : Nat} (leaf : Nat) (ordered : level ≤ level')
    (inside : level' ≤ height) :
    above height level' leaf / 2 ^ (level' - level) = above height level leaf := by
  rw [above, above, Nat.div_div_eq_div_mul, ← Nat.pow_add]
  congr 2
  omega

theorem above_succ_div (leaf : Nat) (inside : level < height) :
    above height (level + 1) leaf / 2 = above height level leaf := by
  have parent := above_div leaf (Nat.le_succ level) (Nat.succ_le_of_lt inside)
  rw [Nat.succ_sub (Nat.le_refl level), Nat.sub_self] at parent
  exact parent

/-- A node is above its first leaf. -/
theorem above_first (height level index : Nat) :
    above height level (index * 2 ^ (height - level)) = index :=
  Nat.mul_div_cancel index (Nat.two_pow_pos _)

theorem first_lt (inside : level ≤ height) (small : index < 2 ^ level) :
    index * 2 ^ (height - level) < 2 ^ height := by
  have whole : 2 ^ level * 2 ^ (height - level) = 2 ^ height := by
    rw [← Nat.pow_add, Nat.add_sub_cancel' inside]
  rw [← whole]
  exact Nat.mul_lt_mul_of_pos_right small (Nat.two_pow_pos _)

/-- A node is above the leaves from its first one on. -/
theorem above_eq_iff {leaf : Nat} :
    above height level leaf = index ↔
      index * 2 ^ (height - level) ≤ leaf ∧
        leaf < index * 2 ^ (height - level) + 2 ^ (height - level) := by
  rw [above, Nat.div_eq_iff (Nat.two_pow_pos _)]
  have positive := Nat.two_pow_pos (height - level)
  omega

/-! ## Cuts -/

/-- Each leaf has exactly one marked node above it. -/
structure IsCut (height : Nat) (Marked : Nat → Nat → Prop) : Prop where
  covered : ∀ leaf < 2 ^ height, ∃ level ≤ height, Marked level (above height level leaf)
  unique : ∀ leaf < 2 ^ height, ∀ first ≤ height, ∀ second ≤ height,
    Marked first (above height first leaf) → Marked second (above height second leaf) →
      first = second

variable {Marked Marked' : Nat → Nat → Prop}

theorem IsCut.congr (cut : IsCut height Marked)
    (same : ∀ level ≤ height, ∀ index < 2 ^ level, Marked' level index ↔ Marked level index) :
    IsCut height Marked' := by
  have equal : ∀ leaf < 2 ^ height, ∀ level ≤ height,
      (Marked' level (above height level leaf) ↔ Marked level (above height level leaf)) :=
    fun leaf small level inside => same level inside _ (above_lt inside small)
  constructor
  · intro leaf small
    obtain ⟨level, inside, marked⟩ := cut.covered leaf small
    exact ⟨level, inside, (equal leaf small level inside).mpr marked⟩
  · intro leaf small first firstInside second secondInside markedFirst markedSecond
    exact cut.unique leaf small first firstInside second secondInside
      ((equal leaf small first firstInside).mp markedFirst)
      ((equal leaf small second secondInside).mp markedSecond)

/-- No marked node is above another one. -/
theorem IsCut.level_eq (cut : IsCut height Marked) {level' index' : Nat} (ordered : level ≤ level')
    (inside : level' ≤ height) (small : index' < 2 ^ level')
    (ancestor : index' / 2 ^ (level' - level) = index) (marked : Marked level index)
    (marked' : Marked level' index') : level = level' := by
  have first := above_first height level' index'
  refine cut.unique (index' * 2 ^ (height - level')) (first_lt inside small) level
    (ordered.trans inside) level' inside ?_ ?_
  · rw [← above_div _ ordered inside, first, ancestor]
    exact marked
  · rw [first]
    exact marked'

/-- The marked nodes above some leaves are replaced by those of one level. -/
theorem IsCut.replace (cut : IsCut height Marked) (Under : Nat → Prop) [DecidablePred Under]
    {new : Nat} (newInside : new ≤ height)
    (at_leaf : ∀ leaf < 2 ^ height, ∀ level ≤ height,
      (Marked' level (above height level leaf) ↔
        if Under leaf then level = new else Marked level (above height level leaf))) :
    IsCut height Marked' := by
  constructor
  · intro leaf small
    by_cases under : Under leaf
    · refine ⟨new, newInside, ?_⟩
      rw [at_leaf leaf small _ newInside, if_pos under]
    · obtain ⟨level, inside, old⟩ := cut.covered leaf small
      refine ⟨level, inside, ?_⟩
      rw [at_leaf leaf small _ inside, if_neg under]
      exact old
  · intro leaf small first firstInside second secondInside markedFirst markedSecond
    rw [at_leaf leaf small _ firstInside] at markedFirst
    rw [at_leaf leaf small _ secondInside] at markedSecond
    by_cases under : Under leaf
    · rw [if_pos under] at markedFirst markedSecond
      exact markedFirst.trans markedSecond.symm
    · rw [if_neg under] at markedFirst markedSecond
      exact cut.unique leaf small first firstInside second secondInside markedFirst markedSecond

/-- A node is replaced by its children. -/
theorem IsCut.split (cut : IsCut height Marked) (inside : level < height)
    (marked : Marked level index)
    (replaced : ∀ level' ≤ height, ∀ index' < 2 ^ level', Marked' level' index' ↔
      (Marked level' index' ∧ ¬ (level' = level ∧ index' = index)) ∨
        (level' = level + 1 ∧ index' / 2 = index)) :
    IsCut height Marked' := by
  have at_leaf : ∀ leaf < 2 ^ height, ∀ level' ≤ height,
      (Marked' level' (above height level' leaf) ↔
        (if above height level leaf = index then level' = level + 1
          else Marked level' (above height level' leaf))) := by
    intro leaf small level' inside'
    rw [replaced level' inside' _ (above_lt inside' small)]
    by_cases under : above height level leaf = index
    · rw [if_pos under]
      constructor
      · rintro (⟨old, other⟩ | ⟨rfl, -⟩)
        · have same : level' = level := cut.unique leaf small level' inside' level
            (Nat.le_of_lt inside) old (by rw [under]; exact marked)
          exact absurd ⟨same, by rw [same, under]⟩ other
        · rfl
      · rintro rfl
        exact .inr ⟨rfl, (above_succ_div leaf inside).trans under⟩
    · rw [if_neg under]
      constructor
      · rintro (⟨old, -⟩ | ⟨rfl, child⟩)
        · exact old
        · exact absurd ((above_succ_div leaf inside).symm.trans child) under
      · intro old
        refine .inl ⟨old, ?_⟩
        rintro ⟨rfl, same⟩
        exact under same
  exact cut.replace _ (Nat.succ_le_of_lt inside) at_leaf

/-- Two children are replaced by their parent. -/
theorem IsCut.merge (cut : IsCut height Marked) (inside : level < height)
    (left : Marked (level + 1) (2 * index)) (right : Marked (level + 1) (2 * index + 1))
    (replaced : ∀ level' ≤ height, ∀ index' < 2 ^ level', Marked' level' index' ↔
      (Marked level' index' ∧ ¬ (level' = level + 1 ∧ index' / 2 = index)) ∨
        (level' = level ∧ index' = index)) :
    IsCut height Marked' := by
  have child : ∀ leaf, above height level leaf = index →
      Marked (level + 1) (above height (level + 1) leaf) := by
    intro leaf under
    have parent := (above_succ_div leaf inside).trans under
    have cases : above height (level + 1) leaf = 2 * index ∨
        above height (level + 1) leaf = 2 * index + 1 := by omega
    rcases cases with isLeft | isRight
    · rw [isLeft]
      exact left
    · rw [isRight]
      exact right
  have at_leaf : ∀ leaf < 2 ^ height, ∀ level' ≤ height,
      (Marked' level' (above height level' leaf) ↔
        (if above height level leaf = index then level' = level
          else Marked level' (above height level' leaf))) := by
    intro leaf small level' inside'
    rw [replaced level' inside' _ (above_lt inside' small)]
    by_cases under : above height level leaf = index
    · rw [if_pos under]
      constructor
      · rintro (⟨old, other⟩ | ⟨rfl, -⟩)
        · have same : level' = level + 1 := cut.unique leaf small level' inside' (level + 1)
            (Nat.succ_le_of_lt inside) old (child leaf under)
          refine absurd ⟨same, ?_⟩ other
          rw [same]
          exact (above_succ_div leaf inside).trans under
        · rfl
      · rintro rfl
        exact .inr ⟨rfl, under⟩
    · rw [if_neg under]
      constructor
      · rintro (⟨old, -⟩ | ⟨rfl, same⟩)
        · exact old
        · exact absurd same under
      · intro old
        refine .inl ⟨old, ?_⟩
        rintro ⟨rfl, parent⟩
        exact under ((above_succ_div leaf inside).symm.trans parent)
  exact cut.replace _ (Nat.le_of_lt inside) at_leaf

/-- Below a node that has no marked node at or above it there are two marked
children of one parent. -/
theorem IsCut.exists_pair (cut : IsCut height Marked) (inside : level ≤ height)
    (small : index < 2 ^ level)
    (none : ∀ level' ≤ level, ¬ Marked level' (index / 2 ^ (level - level'))) :
    ∃ level' index', level ≤ level' ∧ level' < height ∧ index' / 2 ^ (level' - level) = index ∧
      Marked (level' + 1) (2 * index') ∧ Marked (level' + 1) (2 * index' + 1) := by
  obtain ⟨rest, rfl⟩ := Nat.exists_eq_add_of_le inside
  induction rest generalizing level index with
  | zero =>
    obtain ⟨level', inside', marked⟩ := cut.covered index small
    exact absurd marked (none level' inside')
  | succ rest ih =>
    have child : ∀ side < 2, ¬ Marked (level + 1) (2 * index + side) →
        ∀ level' ≤ level + 1,
          ¬ Marked level' ((2 * index + side) / 2 ^ (level + 1 - level')) := by
      intro side one unmarked level' inside'
      rcases Nat.lt_or_eq_of_le inside' with upper | rfl
      · have shift : level + 1 - level' = (level - level') + 1 := by omega
        rw [shift, Nat.pow_succ', ← Nat.div_div_eq_div_mul]
        have parent : (2 * index + side) / 2 = index := by omega
        rw [parent]
        exact none level' (Nat.lt_succ_iff.mp upper)
      · rw [Nat.sub_self, Nat.pow_zero, Nat.div_one]
        exact unmarked
    have below : ∀ side < 2, ¬ Marked (level + 1) (2 * index + side) →
        ∃ level' index', level ≤ level' ∧ level' < level + (rest + 1) ∧
          index' / 2 ^ (level' - level) = index ∧
          Marked (level' + 1) (2 * index') ∧ Marked (level' + 1) (2 * index' + 1) := by
      intro side one unmarked
      have total : level + 1 + rest = level + (rest + 1) := by omega
      obtain ⟨level', index', lower, upper, ancestor, pair⟩ :=
        ih (by rw [Nat.pow_succ]; omega) (child side one unmarked) (total ▸ cut) (by omega)
      refine ⟨level', index', by omega, by omega, ?_, pair⟩
      have shift : level' - level = (level' - (level + 1)) + 1 := by omega
      rw [shift, Nat.pow_succ, ← Nat.div_div_eq_div_mul, ancestor]
      omega
    by_cases left : Marked (level + 1) (2 * index + 0)
    · by_cases right : Marked (level + 1) (2 * index + 1)
      · refine ⟨level, index, Nat.le_refl _, by omega, ?_, left, right⟩
        rw [Nat.sub_self, Nat.pow_zero, Nat.div_one]
      · exact below 1 (by decide) right
    · exact below 0 (by decide) left

end OpenBsw.CompleteTree
