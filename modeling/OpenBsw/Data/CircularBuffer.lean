import OpenBsw.Data.Ring

/-!
# Circular buffers that are emptied in a batch

Elements are stored behind the others, in an array of fixed size that is used
as a ring.  They are read by their distance from the head and released all at
once.
-/

namespace OpenBsw.Data

universe u

structure CircularBuffer (α : Type u) where
  slots : Nat → α
  head : Nat := 0
  count : Nat := 0

namespace CircularBuffer

variable {α : Type u} {size : Nat} {buffer : CircularBuffer α} {element : α}

def get (size : Nat) (buffer : CircularBuffer α) (index : Nat) : α :=
  buffer.slots ((buffer.head + index) % size)

def store (size : Nat) (buffer : CircularBuffer α) (element : α) : CircularBuffer α :=
  { buffer with
    slots := Function.update buffer.slots ((buffer.head + buffer.count) % size) element
    count := buffer.count + 1 }

def clear (size : Nat) (buffer : CircularBuffer α) : CircularBuffer α :=
  { buffer with
    head := (buffer.head + buffer.count) % size
    count := 0 }

/-- The stored elements, the oldest first. -/
def contents (size : Nat) (buffer : CircularBuffer α) : List α :=
  (List.range buffer.count).map (buffer.get size)

@[simp]
theorem length_contents : (buffer.contents size).length = buffer.count := by
  rw [contents, List.length_map, List.length_range]

theorem getElem?_contents (size : Nat) {index : Nat} (inside : index < buffer.count) :
    (buffer.contents size)[index]? = some (buffer.get size index) := by
  rw [contents, List.getElem?_map, List.getElem?_range inside]
  rfl

/-- An element behind the others is stored in a slot of its own. -/
theorem get_store_of_lt {index : Nat} (inside : index < buffer.count)
    (room : buffer.count < size) : (buffer.store size element).get size index =
      buffer.get size index := by
  have apart : (buffer.head + index) % size ≠ (buffer.head + buffer.count) % size := by
    intro same
    have equal := Ring.eq_of_mod_eq (by omega) (by omega) same.symm
    omega
  exact Function.update_of_ne apart ..

theorem contents_store (room : buffer.count < size) :
    (buffer.store size element).contents size = buffer.contents size ++ [element] := by
  have last : (buffer.store size element).get size buffer.count = element :=
    Function.update_self ..
  change (List.range (buffer.count + 1)).map ((buffer.store size element).get size) = _
  rw [List.range_succ, List.map_append, List.map_singleton, last, contents]
  congr 1
  refine List.map_congr_left fun index member => ?_
  exact get_store_of_lt (List.mem_range.mp member) room

end CircularBuffer

end OpenBsw.Data
