import Mathlib

/-!
# The contents of a row of slots

A row of numbered slots is read from its lowest slot to its highest one.  An
element that is put above all others comes last, and an element that is taken
from below all others was the first one.
-/

namespace OpenBsw.Data.Slots

universe u

variable {α : Type u} {slots others : Nat → Option α} {first count index : Nat} {element : α}

/-- What the slots hold, from the lowest one to the highest. -/
def contents (slots : Nat → Option α) (first count : Nat) : List α :=
  (List.range' first count).filterMap slots

theorem contents_congr
    (same : ∀ slot, first ≤ slot → slot < first + count → slots slot = others slot) :
    contents slots first count = contents others first count := by
  apply List.filterMap_congr
  intro slot member
  rcases List.mem_range'_1.mp member with ⟨lower, upper⟩
  exact same slot lower upper

theorem contents_eq_nil
    (free : ∀ slot, first ≤ slot → slot < first + count → slots slot = none) :
    contents slots first count = [] := by
  apply List.filterMap_eq_nil_iff.mpr
  intro slot member
  rcases List.mem_range'_1.mp member with ⟨lower, upper⟩
  exact free slot lower upper

/-- The contents below a slot, of the slot, and above it. -/
theorem contents_split (slots : Nat → Option α) (lower : first ≤ index)
    (upper : index < first + count) :
    contents slots first count =
      contents slots first (index - first) ++ (slots index).toList ++
        contents slots (index + 1) (first + count - (index + 1)) := by
  have parts : List.range' first count =
      List.range' first (index - first) ++
        (index :: List.range' (index + 1) (first + count - (index + 1))) := by
    have here : first + (index - first) = index := by omega
    have whole : count = (index - first) + ((first + count - (index + 1)) + 1) := by omega
    conv_lhs => rw [whole, ← List.range'_append_1, here, List.range'_succ]
  rw [contents, parts, List.filterMap_append]
  cases held : slots index with
  | none => simp [contents, held]
  | some element => simp [contents, held]

theorem contents_above (same : ∀ slot, slot ≠ index → slots slot = others slot) (count : Nat) :
    contents slots (index + 1) count = contents others (index + 1) count := by
  apply contents_congr
  intro slot lower _
  exact same slot (by omega)

theorem contents_below (same : ∀ slot, slot ≠ index → slots slot = others slot) :
    contents slots first (index - first) = contents others first (index - first) := by
  apply contents_congr
  intro slot _ upper
  exact same slot (by omega)

/-- An element that is put above all others comes last. -/
theorem contents_put (lower : first ≤ index) (upper : index < first + count)
    (free : ∀ slot, index ≤ slot → slot < first + count → slots slot = none)
    (same : ∀ slot, slot ≠ index → others slot = slots slot)
    (put : others index = some element) :
    contents others first count = contents slots first count ++ [element] := by
  have nothing : contents slots (index + 1) (first + count - (index + 1)) = [] := by
    apply contents_eq_nil
    intro slot above inside
    exact free slot (by omega) (by omega)
  rw [contents_split slots lower upper, contents_split others lower upper,
    contents_below same, contents_above same, nothing, put, free index le_rfl upper]
  simp

/-- An element that is taken from below all others was the first one. -/
theorem contents_take (lower : first ≤ index) (upper : index < first + count)
    (free : ∀ slot, first ≤ slot → slot < index → slots slot = none)
    (same : ∀ slot, slot ≠ index → others slot = slots slot)
    (held : slots index = some element) (taken : others index = none) :
    contents slots first count = element :: contents others first count := by
  have nothing : contents slots first (index - first) = [] := by
    apply contents_eq_nil
    intro slot inside below
    exact free slot inside (by omega)
  rw [contents_split slots lower upper, contents_split others lower upper,
    contents_below same, contents_above same, nothing, held, taken]
  simp

end OpenBsw.Data.Slots
