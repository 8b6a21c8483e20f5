import Mathlib

/-!
# Members of a set of numbers, from the largest one down

The numbers below a limit that meet a condition, in descending order.  A list
whose links lead from each member to the next smaller one is walked through by
taking the first of them again and again.
-/

namespace OpenBsw

open List

universe u

variable {P Q : Nat → Prop} [DecidablePred P] [DecidablePred Q] {limit lower number : Nat}
  {rest : List Nat}

/-- The numbers below the limit that meet the condition, the largest one first. -/
def downward (P : Nat → Prop) [DecidablePred P] (limit : Nat) : List Nat :=
  (List.range limit).reverse.filter P

theorem downward_succ :
    downward P (limit + 1) = if P limit then limit :: downward P limit else downward P limit := by
  rw [downward, range_succ, reverse_append, reverse_singleton, singleton_append,
    filter_cons]
  simp only [decide_eq_true_eq]
  rfl

@[simp]
theorem mem_downward : number ∈ downward P limit ↔ number < limit ∧ P number := by
  rw [downward, mem_filter, mem_reverse, mem_range, decide_eq_true_iff]

theorem downward_descending : (downward P limit).Pairwise (· > ·) :=
  (pairwise_reverse.mpr pairwise_lt_range).filter _

theorem downward_congr (same : ∀ number < limit, P number ↔ Q number) :
    downward P limit = downward Q limit := by
  apply filter_congr
  intro number member
  rw [mem_reverse, mem_range] at member
  exact decide_eq_decide.mpr (same number member)

/-- Numbers that do not meet the condition may be left out at the top. -/
theorem downward_skip (ordered : lower ≤ limit)
    (none : ∀ number, lower ≤ number → number < limit → ¬ P number) :
    downward P limit = downward P lower := by
  induction limit, ordered using Nat.le_induction with
  | base => rfl
  | succ limit ordered ih =>
    rw [downward_succ, if_neg (none limit ordered (Nat.lt_succ_self limit))]
    exact ih fun number above below => none number above (Nat.lt_succ_of_lt below)

/-- Behind a member come the members below it. -/
theorem downward_eq_cons (split : downward P limit = number :: rest) :
    number < limit ∧ P number ∧ rest = downward P number ∧
      ∀ other, number < other → other < limit → ¬ P other := by
  have member : number ∈ downward P limit := by
    rw [split]
    exact mem_cons_self
  obtain ⟨below, holds⟩ := mem_downward.mp member
  have gap : ∀ other, number < other → other < limit → ¬ P other := by
    intro other above inside meets
    have listed : other ∈ number :: rest := split ▸ mem_downward.mpr ⟨inside, meets⟩
    have descending : (number :: rest).Pairwise (· > ·) := by
      rw [← split]
      exact downward_descending
    rcases mem_cons.mp listed with rfl | later
    · exact Nat.lt_irrefl _ above
    · exact Nat.lt_asymm above ((pairwise_cons.mp descending).1 other later)
  refine ⟨below, holds, ?_, gap⟩
  rw [downward_skip (Nat.succ_le_of_lt below) fun other above => gap other above, downward_succ,
    if_pos holds] at split
  exact (List.cons.inj split).2.symm

theorem downward_eq_nil_iff : downward P limit = [] ↔ ∀ number < limit, ¬ P number := by
  rw [eq_nil_iff_forall_not_mem]
  constructor
  · intro none number below holds
    exact none number (mem_downward.mpr ⟨below, holds⟩)
  · intro none number member
    exact none number (mem_downward.mp member).1 (mem_downward.mp member).2

/-- The largest member below the limit. -/
def below (P : Nat → Prop) [DecidablePred P] (limit : Nat) : Option Nat :=
  (downward P limit).head?

theorem below_eq_none_iff : below P limit = none ↔ ∀ number < limit, ¬ P number := by
  rw [below, List.head?_eq_none_iff, downward_eq_nil_iff]

theorem below_eq_some_iff :
    below P limit = some number ↔
      number < limit ∧ P number ∧ ∀ other, number < other → other < limit → ¬ P other := by
  constructor
  · intro first
    obtain ⟨rest, split⟩ := List.head?_eq_some_iff.mp first
    obtain ⟨inside, holds, _, gap⟩ := downward_eq_cons split
    exact ⟨inside, holds, gap⟩
  · rintro ⟨inside, holds, gap⟩
    rw [below, downward_skip (Nat.succ_le_of_lt inside) fun other above => gap other above,
      downward_succ, if_pos holds]
    rfl

theorem below_congr (same : ∀ number < limit, P number ↔ Q number) :
    below P limit = below Q limit :=
  congrArg List.head? (downward_congr same)

theorem below_skip (ordered : lower ≤ limit)
    (none : ∀ number, lower ≤ number → number < limit → ¬ P number) :
    below P limit = below P lower :=
  congrArg List.head? (downward_skip ordered none)

theorem below_succ : below P (limit + 1) = if P limit then some limit else below P limit := by
  rw [below, downward_succ]
  split
  · rfl
  · rfl

/-! ## Visiting -/

/-- Visit the numbers in turn as long as the visitor wants to go on. -/
def visit {T : Type u} (visitor : T → Nat → Bool × T) : T → List Nat → T
  | state, [] => state
  | state, number :: rest =>
    if (visitor state number).1 then visit visitor (visitor state number).2 rest
    else (visitor state number).2

/-- A visitor that remembers the numbers. -/
theorem visit_collect {found list : List Nat} :
    visit (fun found number => (true, found ++ [number])) found list = found ++ list := by
  induction list generalizing found with
  | nil => exact (append_nil found).symm
  | cons number rest ih =>
    rw [visit, if_pos rfl, ih, append_assoc]
    rfl

end OpenBsw
