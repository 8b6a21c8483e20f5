import OpenBsw.Data.Bytes

/-!
# Copying forward inside a buffer

A loop that copies element by element from the front reads elements it has already
overwritten where the target begins inside the source.  What arrives is then the first part
of the source, as long as the distance between the two, over and over.
-/

namespace OpenBsw.Bytes

universe u

variable {α : Type u}

/-- Buffers that agree in a block have the same block. -/
theorem slice_congr {first second : List α} {offset size : Nat}
    (same : ∀ i, offset ≤ i → i < offset + size → first[i]? = second[i]?) :
    slice first offset size = slice second offset size := by
  apply List.ext_getElem?
  intro i
  rw [getElem?_slice, getElem?_slice]
  split
  · exact same _ (by omega) (by omega)
  · rfl

/-- Copy `size` elements from `source` on to `target` on, the first one first. -/
def copyForward (buffer : List α) (source target : Nat) : Nat → List α
  | 0 => buffer
  | size + 1 =>
    let copied := copyForward buffer source target size
    match copied[source + size]? with
    | some element => copied.set (target + size) element
    | none => copied

@[simp]
theorem length_copyForward (buffer : List α) (source target size : Nat) :
    (copyForward buffer source target size).length = buffer.length := by
  induction size with
  | zero => rfl
  | succ size ih =>
    simp only [copyForward]
    split
    · rw [List.length_set, ih]
    · exact ih

/-- In front of the target nothing changes. -/
theorem getElem?_copyForward_before (buffer : List α) {source target i : Nat} (size : Nat)
    (before : i < target) : (copyForward buffer source target size)[i]? = buffer[i]? := by
  induction size with
  | zero => rfl
  | succ size ih =>
    simp only [copyForward]
    split
    · rw [List.getElem?_set_ne (by omega), ih]
    · exact ih

/-- The element `i` of the target is the element `i` of the source modulo the distance. -/
theorem getElem?_copyForward (buffer : List α) {source target size i : Nat}
    (apart : source < target) (inside : target + size ≤ buffer.length) (lt : i < size) :
    (copyForward buffer source target size)[target + i]? =
      buffer[source + i % (target - source)]? := by
  induction size generalizing i with
  | zero => omega
  | succ size ih =>
    -- what is read last has been copied before, or lies in front of the target
    have read : (copyForward buffer source target size)[source + size]? =
        buffer[source + size % (target - source)]? := by
      by_cases early : source + size < target
      · rw [getElem?_copyForward_before buffer size early, Nat.mod_eq_of_lt (by omega)]
      · have shifted : source + size = target + (size - (target - source)) := by omega
        rw [shifted, ih (by omega) (by omega), ← Nat.mod_eq_sub_mod (by omega)]
    have present : source + size % (target - source) < buffer.length := by
      have small := Nat.mod_lt size (show 0 < target - source by omega)
      omega
    simp only [copyForward]
    rw [read, List.getElem?_eq_getElem present]
    simp only
    by_cases last : i = size
    · subst last
      rw [List.getElem?_set_self (by rw [length_copyForward]; omega),
        List.getElem?_eq_getElem present]
    · rw [List.getElem?_set_ne (by omega), ih (by omega) (by omega)]

end OpenBsw.Bytes
