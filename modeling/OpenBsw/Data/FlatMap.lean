import Mathlib.Data.List.Basic

/-!
# Bounded maps

A map with a fixed capacity.  A key is inserted once and its value is changed in
place, so that the map is as full afterwards as before.
-/

namespace OpenBsw

universe u v

structure FlatMap (Key : Type u) (Value : Type v) where
  capacity : Nat
  entries : List (Key × Value) := []

namespace FlatMap

variable {Key : Type u} {Value : Type v} [DecidableEq Key]

def find? (map : FlatMap Key Value) (key : Key) : Option Value :=
  (map.entries.find? fun entry => entry.1 = key).map Prod.snd

def isFull (map : FlatMap Key Value) : Bool :=
  map.capacity ≤ map.entries.length

/-- Insert a key that is not in the map. -/
def insert (map : FlatMap Key Value) (key : Key) (value : Value) : FlatMap Key Value :=
  { map with entries := (key, value) :: map.entries }

/-- Change the value of a key in place. -/
def modify (map : FlatMap Key Value) (key : Key) (change : Value → Value) : FlatMap Key Value :=
  { map with
    entries := map.entries.map fun entry =>
      if entry.1 = key then (entry.1, change entry.2) else entry }

def erase (map : FlatMap Key Value) (key : Key) : FlatMap Key Value :=
  { map with entries := map.entries.filter fun entry => entry.1 ≠ key }

def clear (map : FlatMap Key Value) : FlatMap Key Value :=
  { map with entries := [] }

variable {map : FlatMap Key Value} {key other : Key} {value : Value} {change : Value → Value}

@[simp]
theorem find?_insert_self : (map.insert key value).find? key = some value := by
  simp only [find?, insert, List.find?_cons, decide_true, Option.map_some]

theorem find?_insert_of_ne (different : other ≠ key) :
    (map.insert key value).find? other = map.find? other := by
  have head : decide (key = other) = false := decide_eq_false (Ne.symm different)
  simp only [find?, insert, List.find?_cons, head]

theorem find?_modify (map : FlatMap Key Value) (key other : Key) (change : Value → Value) :
    (map.modify key change).find? other =
      if other = key then (map.find? other).map change else map.find? other := by
  obtain ⟨capacity, entries⟩ := map
  simp only [find?, modify]
  induction entries with
  | nil =>
    split <;> rfl
  | cons entry rest ih =>
    rw [List.map_cons, List.find?_cons, List.find?_cons]
    by_cases changed : entry.1 = key
    · rw [if_pos changed]
      by_cases same : entry.1 = other
      · simp only [same, decide_true, Option.map_some]
        rw [if_pos (same.symm.trans changed)]
      · simp only [same, decide_false]
        exact ih
    · rw [if_neg changed]
      by_cases same : entry.1 = other
      · simp only [same, decide_true, Option.map_some]
        rw [if_neg (fun equal => changed (same.trans equal))]
      · simp only [same, decide_false]
        exact ih

@[simp]
theorem find?_modify_self : (map.modify key change).find? key = (map.find? key).map change := by
  rw [find?_modify, if_pos rfl]

theorem find?_modify_of_ne (different : other ≠ key) :
    (map.modify key change).find? other = map.find? other := by
  rw [find?_modify, if_neg different]

@[simp]
theorem isFull_modify : (map.modify key change).isFull = map.isFull := by
  simp only [isFull, modify, List.length_map]

@[simp]
theorem find?_erase_self : (map.erase key).find? key = none := by
  rw [find?, Option.map_eq_none_iff, List.find?_eq_none]
  intro entry member
  have kept := (List.mem_filter.mp member).2
  simpa using kept

theorem find?_erase_of_ne (different : other ≠ key) :
    (map.erase key).find? other = map.find? other := by
  simp only [find?, erase, List.find?_filter]
  congr 2
  funext entry
  by_cases same : entry.1 = other
  · simp [same, different]
  · simp [same]

end FlatMap

end OpenBsw
