import Mathlib

/-!
# Bottom-up merge sort

Runs of a list, at first its single elements, are merged pairwise until one is
left.  A comparison that is no order may leave any permutation, so only this
much is proved here.
-/

namespace OpenBsw.MergeSort

open scoped List

universe u

variable {α : Type u} (less : α → α → Bool)

/-- Merge two runs; an element of the right run goes first only if it is less. -/
def mergeRuns (left right : List α) : List α :=
  left.merge right fun l r => !less r l

/-- One pass over all runs. -/
def mergePass : List (List α) → List (List α)
  | left :: right :: runs => mergeRuns less left right :: mergePass runs
  | runs => runs

/-- Repeat passes until a single run is left; each pass halves the number of
runs, so `passes` need not exceed it. -/
def mergePasses : Nat → List (List α) → List (List α)
  | 0, runs => runs
  | passes + 1, runs =>
    if runs.length ≤ 1 then runs else mergePasses passes (mergePass less runs)

def sort (elements : List α) : List α :=
  (mergePasses less elements.length (elements.map ([·]))).flatten

variable {less}

theorem mergePass_perm (runs : List (List α)) :
    (mergePass less runs).flatten.Perm runs.flatten := by
  induction runs using mergePass.induct with
  | case1 left right runs ih =>
    simp only [mergePass, List.flatten_cons, ← List.append_assoc]
    exact (List.merge_perm_append _).append ih
  | case2 runs short =>
    rw [mergePass]
    exact short

theorem mergePasses_perm (passes : Nat) (runs : List (List α)) :
    (mergePasses less passes runs).flatten.Perm runs.flatten := by
  induction passes generalizing runs with
  | zero => exact .refl _
  | succ passes ih =>
    rw [mergePasses]
    split
    · exact .refl _
    · exact (ih _).trans (mergePass_perm runs)

/-- Sorting permutes the elements. -/
theorem sort_perm (elements : List α) : (sort less elements).Perm elements := by
  calc sort less elements
      _ ~ (elements.map ([·])).flatten := mergePasses_perm _ _
      _ = elements := by rw [← List.flatMap_def, List.flatMap_singleton']

end OpenBsw.MergeSort
