import Mathlib

/-!
# Positions in a ring

Counters that only grow are read modulo the size of a ring.  The lemmas relate
what is computed from the reduced counters to the counters themselves, as long
as these are at most one ring apart.
-/

namespace OpenBsw.Ring

/-! ## Two counters -/

/-- Counters less than one ring apart are equal when they reduce equally. -/
theorem eq_of_mod_eq {size low high : Nat} (ordered : low ≤ high) (near : high < low + size)
    (modEq : high % size = low % size) : high = low := by
  have divides : size ∣ high - low := (Nat.modEq_iff_dvd' ordered).mp modEq.symm
  have zero : high - low = 0 := Nat.eq_zero_of_dvd_of_lt divides (by omega)
  omega

/-- A counter advanced by less than one ring wraps at most once. -/
theorem add_mod_of_lt {size step : Nat} (position : Nat) (small : step < size) :
    (position + step) % size =
      if size ≤ position % size + step then position % size + step - size
      else position % size + step := by
  rw [Nat.add_mod_eq_ite, Nat.mod_eq_of_lt small]

/-- The distance between two reduced counters. -/
def distance (size high low : Nat) : Nat :=
  if high < low then high + size - low else high - low

theorem distance_mod {size low high : Nat} (ordered : low ≤ high) (near : high < low + size) :
    distance size (high % size) (low % size) = high - low := by
  obtain ⟨step, rfl⟩ := Nat.exists_eq_add_of_le ordered
  have inside : low % size < size := Nat.mod_lt _ (by omega)
  rw [distance, add_mod_of_lt low (by omega : step < size)]
  by_cases wraps : size ≤ low % size + step
  · rw [if_pos wraps, if_pos (by omega)]
    omega
  · rw [if_neg wraps, if_neg (by omega)]
    omega

/-- A block starting at `high` and ending within one ring after `low` stays
clear of the bytes between the two positions. -/
theorem disjoint_mod {size low high lowLength highLength : Nat} (positive : 0 < size)
    (before : low + lowLength ≤ high) (within : high + highLength ≤ low + size) :
    low % size + lowLength ≤ high % size ∨ high % size + highLength ≤ low % size := by
  obtain ⟨step, rfl⟩ := Nat.exists_eq_add_of_le (by omega : low ≤ high)
  by_cases small : step < size
  · rw [add_mod_of_lt low small]
    by_cases wraps : size ≤ low % size + step
    · rw [if_pos wraps]
      omega
    · rw [if_neg wraps]
      omega
  · have full : step = size := by omega
    subst full
    rw [Nat.add_mod_right]
    omega

/-! ## Skipping to the start of the ring -/

/-- The bytes between a position and the next start of the ring. -/
def gap (size position : Nat) : Nat :=
  (size - position % size) % size

theorem gap_lt {size : Nat} (positive : 0 < size) (position : Nat) : gap size position < size :=
  Nat.mod_lt _ positive

/-- A position is at the start of the ring, or the gap fills up to its end. -/
theorem gap_cases {size : Nat} (positive : 0 < size) (position : Nat) :
    position % size = 0 ∧ gap size position = 0 ∨
      0 < position % size ∧ position % size + gap size position = size := by
  have inside : position % size < size := Nat.mod_lt _ positive
  by_cases start : position % size = 0
  · left
    rw [gap, start, Nat.sub_zero, Nat.mod_self]
    exact ⟨rfl, rfl⟩
  · right
    rw [gap, Nat.mod_eq_of_lt (by omega : size - position % size < size)]
    omega

theorem add_gap_mod {size : Nat} (positive : 0 < size) (position : Nat) :
    (position + gap size position) % size = 0 := by
  rw [Nat.add_mod_eq_ite, Nat.mod_eq_of_lt (gap_lt positive position)]
  rcases gap_cases positive position with ⟨start, none⟩ | ⟨_, fills⟩
  · rw [start, none, if_neg (by omega)]
  · rw [if_pos (by omega)]
    omega

theorem mod_two_mul_mod (size position : Nat) :
    position % (2 * size) % size = position % size :=
  Nat.mod_mod_of_dvd position ⟨2, Nat.mul_comm 2 size⟩

/-- A counter modulo two rings lies in the first or in the second one. -/
theorem mod_two_mul_cases {size : Nat} (positive : 0 < size) (position : Nat) :
    position % (2 * size) = position % size ∨
      position % (2 * size) = position % size + size := by
  have inside : position % (2 * size) < 2 * size := Nat.mod_lt _ (by omega)
  have reduced := mod_two_mul_mod size position
  by_cases first : position % (2 * size) < size
  · left
    rw [← reduced, Nat.mod_eq_of_lt first]
  · right
    rw [← reduced, Nat.mod_eq_sub_mod (by omega : size ≤ position % (2 * size)),
      Nat.mod_eq_of_lt (by omega : position % (2 * size) - size < size)]
    omega

/-- The gap computed from a counter modulo two rings. -/
theorem gap_of_mod_two_mul {size : Nat} (positive : 0 < size) (position : Nat) :
    (2 * size - position % (2 * size)) % size = gap size position := by
  have inside : position % size < size := Nat.mod_lt _ positive
  rcases mod_two_mul_cases positive position with first | second
  · rw [first, gap, show 2 * size - position % size = size - position % size + size by omega,
      Nat.add_mod_right]
  · rw [second, gap, show 2 * size - (position % size + size) = size - position % size by omega]

/-- Skipping a gap shorter than `reserve` does not pass a later position that
keeps `reserve` clear of the end of the ring. -/
theorem add_gap_le {size reserve position limit : Nat} (positive : 0 < size)
    (before : position ≤ limit) (short : gap size position < reserve)
    (clear : limit % size + reserve ≤ size) : position + gap size position ≤ limit := by
  have aligned := Nat.div_add_mod (position + gap size position) size
  rw [add_gap_mod positive, Nat.add_zero] at aligned
  have limitSplit := Nat.div_add_mod limit size
  have gapLt := gap_lt positive position
  by_contra beyond
  -- The limit lies in the ring that ends with the gap.
  have quotient : limit / size + 1 = (position + gap size position) / size := by
    apply Nat.le_antisymm
    · exact Nat.div_lt_of_lt_mul (by rw [aligned]; omega)
    · by_contra smaller
      have step : size * (limit / size + 1) + size ≤
          size * ((position + gap size position) / size) := by
        rw [← Nat.mul_succ]
        exact Nat.mul_le_mul_left size (by omega)
      have below : limit < size * (limit / size + 1) := by
        rw [Nat.mul_succ]
        have inside := Nat.mod_lt limit positive
        omega
      omega
  rw [← quotient, Nat.mul_succ] at aligned
  omega

end OpenBsw.Ring
