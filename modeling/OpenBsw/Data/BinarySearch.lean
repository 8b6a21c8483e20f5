import Mathlib

/-!
# Binary search

The search keeps a first position and a count of positions behind it, and
halves the count.  On a list whose front satisfies the test and whose back does
not, it returns the border between them.
-/

namespace OpenBsw.BinarySearch

open List

universe u

variable {α : Type u} {before : α → Bool}

/-- The loop of a lower bound; the count decreases in every round. -/
def searchLoop (before : α → Bool) (entries : List α) : Nat → Nat → Nat → Nat
  | 0, first, _ => first
  | rounds + 1, first, count =>
    if count = 0 then first
    else
      let step := count / 2
      if entries[first + step]?.any before then
        searchLoop before entries rounds (first + step + 1) (count - (step + 1))
      else searchLoop before entries rounds first step

/-- The first position whose entry does not satisfy the test. -/
def partitionPoint (before : α → Bool) (entries : List α) : Nat :=
  searchLoop before entries entries.length 0 entries.length

/-- The positions of the entries between two tests. -/
def equalRange (less greater : α → Bool) (entries : List α) : Nat × Nat :=
  (partitionPoint less entries, partitionPoint (fun entry => !greater entry) entries)

theorem searchLoop_eq {front back : List α} (inFront : ∀ entry ∈ front, before entry = true)
    (inBack : ∀ entry ∈ back, before entry = false) {rounds first count : Nat}
    (enough : count ≤ rounds) (lower : first ≤ front.length) (upper : front.length ≤ first + count)
    (inside : first + count ≤ (front ++ back).length) :
    searchLoop before (front ++ back) rounds first count = front.length := by
  induction rounds generalizing first count with
  | zero =>
    rw [searchLoop]
    omega
  | succ rounds ih =>
    rw [searchLoop]
    by_cases empty : count = 0
    · rw [if_pos empty]
      omega
    · rw [if_neg empty]
      by_cases front_lt : first + count / 2 < front.length
      · have tested : (front ++ back)[first + count / 2]?.any before = true := by
          rw [List.getElem?_append_left front_lt, List.getElem?_eq_getElem front_lt]
          exact inFront _ (getElem_mem _)
        simp only [tested, if_true]
        exact ih (by omega) (by omega) (by omega) (by omega)
      · have tested : (front ++ back)[first + count / 2]?.any before = false := by
          have bound : first + count / 2 - front.length < back.length := by
            rw [List.length_append] at inside
            omega
          rw [List.getElem?_append_right (by omega), List.getElem?_eq_getElem bound]
          exact inBack _ (getElem_mem _)
        simp only [tested, Bool.false_eq_true, if_false]
        exact ih (by omega) lower (by omega) (by omega)

/-- Between a front that satisfies the test and a back that does not, the search returns some
border of the middle. -/
theorem searchLoop_between {front middle back : List α}
    (inFront : ∀ entry ∈ front, before entry = true)
    (inBack : ∀ entry ∈ back, before entry = false) {rounds first count : Nat}
    (lower : first ≤ front.length + middle.length) (upper : front.length ≤ first + count)
    (inside : first + count ≤ (front ++ middle ++ back).length) (enough : count ≤ rounds) :
    front.length ≤ searchLoop before (front ++ middle ++ back) rounds first count ∧
      searchLoop before (front ++ middle ++ back) rounds first count ≤
        front.length + middle.length := by
  induction rounds generalizing first count with
  | zero =>
    rw [searchLoop]
    omega
  | succ rounds ih =>
    rw [searchLoop]
    by_cases empty : count = 0
    · rw [if_pos empty]
      omega
    · rw [if_neg empty]
      have bound : first + count / 2 < (front ++ middle ++ back).length := by omega
      cases tested : (front ++ middle ++ back)[first + count / 2]?.any before with
      | true =>
        have notBack : first + count / 2 < front.length + middle.length := by
          by_contra behind
          have position : (front ++ middle).length ≤ first + count / 2 := by
            rw [List.length_append]
            omega
          have inside : first + count / 2 - (front ++ middle).length < back.length := by
            rw [List.length_append] at bound
            omega
          rw [List.getElem?_append_right position, List.getElem?_eq_getElem inside,
            Option.any_some, inBack _ (getElem_mem _)] at tested
          cases tested
        simp only [tested, if_true]
        exact ih (by omega) (by omega) (by omega) (by omega)
      | false =>
        have notFront : front.length ≤ first + count / 2 := by
          by_contra ahead
          have inside : first + count / 2 < front.length := by omega
          rw [append_assoc, List.getElem?_append_left inside,
            List.getElem?_eq_getElem inside, Option.any_some,
            inFront _ (getElem_mem _)] at tested
          cases tested
        simp only [tested, Bool.false_eq_true, if_false]
        exact ih lower notFront (by omega) (by omega)

theorem partitionPoint_between {front middle back : List α}
    (inFront : ∀ entry ∈ front, before entry = true)
    (inBack : ∀ entry ∈ back, before entry = false) :
    front.length ≤ partitionPoint before (front ++ middle ++ back) ∧
      partitionPoint before (front ++ middle ++ back) ≤ front.length + middle.length := by
  have size : (front ++ middle ++ back).length =
      front.length + middle.length + back.length := by
    rw [List.length_append, List.length_append]
  exact searchLoop_between inFront inBack (by omega) (by omega) (by omega) le_rfl

/-- The border between the entries that satisfy the test and the others. -/
theorem partitionPoint_append {front back : List α}
    (inFront : ∀ entry ∈ front, before entry = true)
    (inBack : ∀ entry ∈ back, before entry = false) :
    partitionPoint before (front ++ back) = front.length :=
  searchLoop_eq inFront inBack (Nat.le_refl _) (Nat.zero_le _) (by simp) (by simp)

theorem searchLoop_congr {entries others : List α}
    (same : ∀ position : Nat, entries[position]?.any before = others[position]?.any before)
    (rounds first count : Nat) :
    searchLoop before entries rounds first count = searchLoop before others rounds first count := by
  induction rounds generalizing first count with
  | zero => rfl
  | succ rounds ih => simp only [searchLoop, same, ih]

/-- The search does not see more of an entry than its test. -/
theorem partitionPoint_set {entries : List α} {position : Nat} {entry : α}
    (inside : position < entries.length) (same : before entry = before entries[position]) :
    partitionPoint before (entries.set position entry) = partitionPoint before entries := by
  rw [partitionPoint, partitionPoint, length_set]
  apply searchLoop_congr
  intro other
  by_cases atPosition : position = other
  · subst atPosition
    rw [List.getElem?_set_self inside, List.getElem?_eq_getElem inside, Option.any_some,
      Option.any_some, same]
  · rw [List.getElem?_set_ne atPosition]

/-- The entries between two tests are the middle of three parts. -/
theorem equalRange_append {less greater : α → Bool} {front middle back : List α}
    (inFront : ∀ entry ∈ front, less entry = true ∧ greater entry = false)
    (inMiddle : ∀ entry ∈ middle, less entry = false ∧ greater entry = false)
    (inBack : ∀ entry ∈ back, less entry = false ∧ greater entry = true) :
    equalRange less greater (front ++ middle ++ back) =
      (front.length, front.length + middle.length) := by
  have first : partitionPoint less (front ++ (middle ++ back)) = front.length := by
    refine partitionPoint_append (fun entry member => (inFront entry member).1) ?_
    intro entry member
    rcases mem_append.mp member with inside | behind
    · exact (inMiddle entry inside).1
    · exact (inBack entry behind).1
  have last : partitionPoint (fun entry => !greater entry) ((front ++ middle) ++ back) =
      (front ++ middle).length := by
    refine partitionPoint_append ?_ ?_
    · intro entry member
      rcases mem_append.mp member with ahead | inside
      · simp [(inFront entry ahead).2]
      · simp [(inMiddle entry inside).2]
    · intro entry member
      simp [(inBack entry member).2]
  rw [equalRange, last, append_assoc, first, List.length_append]

/-! ## Sorted lists -/

variable {Key : Type*} [LinearOrder Key]

/-- A list with increasing keys splits at every entry. -/
theorem exists_split_of_mem {key : α → Key} {entries : List α}
    (sorted : entries.Pairwise fun first second => key first < key second) {entry : α}
    (member : entry ∈ entries) :
    ∃ front back, entries = front ++ entry :: back ∧
      (∀ other ∈ front, key other < key entry) ∧ ∀ other ∈ back, key entry < key other := by
  obtain ⟨front, back, rfl⟩ := append_of_mem member
  rw [pairwise_append, pairwise_cons] at sorted
  exact ⟨front, back, rfl, fun other inFront => sorted.2.2 other inFront entry mem_cons_self,
    sorted.2.1.1⟩

/-- An ordered list splits at every key into the smaller, the equal and the
greater entries. -/
theorem exists_split {key : α → Key} {entries : List α}
    (sorted : entries.Pairwise fun first second => key first ≤ key second) (value : Key) :
    ∃ front middle back, entries = front ++ middle ++ back ∧
      (∀ other ∈ front, key other < value) ∧ (∀ other ∈ middle, key other = value) ∧
      ∀ other ∈ back, value < key other := by
  induction entries with
  | nil => exact ⟨[], [], [], rfl, by simp, by simp, by simp⟩
  | cons entry rest ih =>
    rw [pairwise_cons] at sorted
    obtain ⟨front, middle, back, restEq, less, equal, greater⟩ := ih sorted.2
    rcases lt_trichotomy (key entry) value with below | same | above
    · refine ⟨entry :: front, middle, back, by simp [restEq], ?_, equal, greater⟩
      intro other member
      rcases mem_cons.mp member with rfl | inFront
      · exact below
      · exact less other inFront
    · have noFront : front = [] := by
        refine eq_nil_iff_forall_not_mem.mpr fun other inFront => ?_
        have le := sorted.1 other (by simp [restEq, inFront])
        exact absurd (less other inFront) (by rw [← same]; exact not_lt.mpr le)
      subst noFront
      refine ⟨[], entry :: middle, back, by simp [restEq], by simp, ?_, greater⟩
      intro other member
      rcases mem_cons.mp member with rfl | inMiddle
      · exact same
      · exact equal other inMiddle
    · refine ⟨[], [], entry :: rest, rfl, by simp, by simp, ?_⟩
      intro other member
      rcases mem_cons.mp member with rfl | inRest
      · exact above
      · exact lt_of_lt_of_le above (sorted.1 other inRest)

end OpenBsw.BinarySearch
