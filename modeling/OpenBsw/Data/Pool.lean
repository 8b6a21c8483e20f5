import Mathlib

/-!
# Fixed pools

A pool hands out the slots of a fixed number of objects.  The slots that are free form
a list, to whose front a slot is given back.  A pool holds a list of slots where these
and the free ones are all slots of the pool, each once.
-/

namespace OpenBsw

structure Pool where
  capacity : Nat
  free : List Nat
  deriving DecidableEq, Repr

namespace Pool

def create (capacity : Nat) : Pool where
  capacity := capacity
  free := List.range capacity

def isFull (pool : Pool) : Bool :=
  pool.free.isEmpty

def allocate (pool : Pool) : Option (Nat × Pool) :=
  match pool.free with
  | [] => none
  | slot :: rest => some (slot, { pool with free := rest })

def release (pool : Pool) (slot : Nat) : Pool :=
  { pool with free := slot :: pool.free }

/-- Slots that are given back one after the other. -/
def releaseAll (pool : Pool) (slots : List Nat) : Pool :=
  slots.foldl release pool

/-- The slots that are in use. -/
def Holds (pool : Pool) (used : List Nat) : Prop :=
  (used ++ pool.free).Perm (List.range pool.capacity)

variable {pool rest : Pool} {used others : List Nat} {slot : Nat}

theorem holds_create (capacity : Nat) : (create capacity).Holds [] :=
  List.Perm.refl _

theorem Holds.perm (holds : pool.Holds used) (same : used.Perm others) : pool.Holds others :=
  (same.symm.append_right _).trans holds

theorem Holds.nodup (holds : pool.Holds used) : (used ++ pool.free).Nodup :=
  holds.nodup_iff.mpr List.nodup_range

/-- A slot that is in use is not free. -/
theorem Holds.notMem_free (holds : pool.Holds used) (member : slot ∈ used) :
    slot ∉ pool.free :=
  fun free => (List.nodup_append.mp holds.nodup).2.2 slot member slot free rfl

theorem Holds.length (holds : pool.Holds used) :
    used.length + pool.free.length = pool.capacity := by
  have same := holds.length_eq
  rw [List.length_append, List.length_range] at same
  exact same

theorem Holds.isFull_iff (holds : pool.Holds used) :
    pool.isFull = true ↔ used.length = pool.capacity := by
  have same := holds.length
  rw [isFull, List.isEmpty_iff, ← List.length_eq_zero_iff]
  omega

theorem allocate_eq_none_iff : pool.allocate = none ↔ pool.isFull = true := by
  rw [allocate, isFull]
  cases pool.free with
  | nil => simp
  | cons slot rest => simp

theorem Holds.allocate (holds : pool.Holds used) (allocated : pool.allocate = some (slot, rest)) :
    rest.Holds (slot :: used) ∧ slot ∉ used ∧ rest.capacity = pool.capacity := by
  rw [Pool.allocate] at allocated
  split at allocated
  · cases allocated
  · rename_i first others free
    obtain ⟨rfl, rfl⟩ := Prod.mk.inj (Option.some.inj allocated)
    refine ⟨?_, ?_, rfl⟩
    · have swapped : (first :: used ++ others).Perm (used ++ first :: others) :=
        List.perm_middle.symm
      rw [Holds, free] at holds
      exact swapped.trans holds
    · intro member
      exact holds.notMem_free member (free ▸ List.mem_cons_self)

/-- Giving a slot back undoes handing it out. -/
theorem release_of_allocate (allocated : pool.allocate = some (slot, rest)) :
    rest.release slot = pool := by
  rw [allocate] at allocated
  split at allocated
  · cases allocated
  · rename_i first others free
    cases allocated
    rw [release, ← free]

theorem Holds.release (holds : pool.Holds (slot :: used)) : (pool.release slot).Holds used :=
  List.perm_middle.trans holds

theorem capacity_releaseAll (pool : Pool) (slots : List Nat) :
    (pool.releaseAll slots).capacity = pool.capacity := by
  induction slots generalizing pool with
  | nil => rfl
  | cons slot rest ih => exact ih (pool.release slot)

theorem Holds.releaseAll (holds : pool.Holds (others ++ used)) :
    (pool.releaseAll others).Holds used := by
  induction others generalizing pool with
  | nil => exact holds
  | cons slot rest ih => exact ih holds.release

end Pool

end OpenBsw
