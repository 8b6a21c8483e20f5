import Mathlib

/-!
# Arithmetic of 32-bit numbers

Unsigned numbers of 32 bits are natural numbers, and their sums and differences
wrap.
-/

namespace OpenBsw.Word32

/-- The count of the numbers of 32 bits. -/
def modulus : Nat := 2 ^ 32

/-- The sum, which wraps. -/
def add (first second : Nat) : Nat := (first + second) % modulus

/-- The difference, which wraps. -/
def sub (first second : Nat) : Nat := (first + modulus - second) % modulus

variable {first second : Nat}

theorem add_eq (small : first + second < modulus) : add first second = first + second :=
  Nat.mod_eq_of_lt small

/-- A sum of exactly the modulus wraps to zero. -/
theorem add_eq_zero (wraps : first + second = modulus) : add first second = 0 := by
  rw [add, wraps, Nat.mod_self]

theorem sub_eq (ordered : second ≤ first) (small : first < modulus) :
    sub first second = first - second := by
  rw [sub, Nat.add_comm, Nat.add_sub_assoc ordered, Nat.add_mod_left, Nat.mod_eq_of_lt (by omega)]

/-- The difference of two counters that are near each other, from what is left of them. -/
theorem sub_mod_mod (ordered : second ≤ first) (near : first - second < modulus) :
    sub (first % modulus) (second % modulus) = first - second := by
  unfold sub
  unfold modulus at near ⊢
  omega

/-- A sum with a difference, where the whole is neither negative nor too large. -/
theorem add_sub_eq {third : Nat} (lifted : third ≤ second + modulus)
    (enough : third ≤ first + second) (small : first + second - third < modulus) :
    add first (sub second third) = first + second - third := by
  have sum : first + (second + modulus - third) = first + second - third + modulus := by omega
  rw [add, sub, Nat.add_mod_mod, sum, Nat.add_mod_right, Nat.mod_eq_of_lt small]

-- the lemmas above are what the proofs know of wrapping
attribute [irreducible] modulus add sub

end OpenBsw.Word32
