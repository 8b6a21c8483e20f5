import OpenBsw.Data.Bytes
import OpenBsw.Data.Ring

/-!
# A window of a stream in a ring of memory

A stream that only grows is kept in a memory of fixed size.  Its positions are
taken modulo that size, so a block may be cut at the end of the memory and
continued at its start.
-/

namespace OpenBsw.RingMemory

open List

universe u

open OpenBsw.Bytes

variable {α : Type u}

/-- A pointer moved by at most the size of the memory. -/
def move (size pointer offset : Nat) : Nat :=
  if size ≤ pointer + offset then pointer + offset - size else pointer + offset

/-- Copy a block to a position, in two parts where it passes the end. -/
def put (memory : List α) (pointer : Nat) (block : List α) : List α :=
  if memory.length < pointer + block.length then
    overwrite (overwrite memory pointer (block.take (memory.length - pointer))) 0
      (block.drop (memory.length - pointer))
  else overwrite memory pointer block

/-- Read a block from a position, in two parts where it passes the end. -/
def get (memory : List α) (pointer count : Nat) : List α :=
  if memory.length < pointer + count then
    slice memory pointer (memory.length - pointer) ++
      slice memory 0 (count - (memory.length - pointer))
  else slice memory pointer count

/-- The memory holds the elements of the stream between two positions. -/
def Holds (memory stream : List α) (low high : Nat) : Prop :=
  ∀ position, low ≤ position → position < high →
    memory[position % memory.length]? = stream[position]?

variable {memory stream block : List α} {low high pointer position : Nat}

theorem move_mod {size offset : Nat} (position : Nat) (small : offset ≤ size)
    (positive : 0 < size) :
    move size (position % size) offset = (position + offset) % size := by
  have inside := Nat.mod_lt position positive
  rw [move]
  by_cases whole : offset = size
  · subst whole
    rw [if_pos (Nat.le_add_left _ _), Nat.add_sub_cancel, Nat.add_mod_right]
  · rw [Ring.add_mod_of_lt position (Nat.lt_of_le_of_ne small whole)]

theorem move_of_lt {size pointer offset : Nat} (inside : pointer + offset < size) :
    move size pointer offset = pointer + offset := by
  rw [move, if_neg (by omega)]

theorem length_put (inside : pointer ≤ memory.length) (fits : block.length ≤ memory.length) :
    (put memory pointer block).length = memory.length := by
  rw [put]
  split_ifs with passes
  · have front : (overwrite memory pointer (block.take (memory.length - pointer))).length =
        memory.length := by
      apply length_overwrite
      rw [length_take]
      omega
    rw [length_overwrite, front]
    rw [front, length_drop]
    omega
  · exact length_overwrite (Nat.le_of_not_lt passes)

/-- The elements of the memory after a block was copied. -/
theorem getElem?_put (inside : pointer < memory.length) (fits : block.length ≤ memory.length)
    {index : Nat} (bound : index < memory.length) :
    (put memory pointer block)[index]? =
      if pointer ≤ index ∧ index < pointer + block.length then block[index - pointer]?
      else if index + memory.length < pointer + block.length then
        block[index + memory.length - pointer]?
      else memory[index]? := by
  rw [put]
  split_ifs with passes here there here there
  · have front : (block.take (memory.length - pointer)).length = memory.length - pointer :=
      length_take_of_le (by omega)
    have frontFits : pointer + (block.take (memory.length - pointer)).length ≤ memory.length := by
      omega
    rw [getElem?_overwrite, getElem?_overwrite frontFits, front, if_neg, if_pos (by omega),
      List.getElem?_take, if_pos (by omega)]
    · rw [length_drop]
      omega
    · rw [length_overwrite frontFits, length_drop]
      omega
  · have front : (block.take (memory.length - pointer)).length = memory.length - pointer :=
      length_take_of_le (by omega)
    have frontFits : pointer + (block.take (memory.length - pointer)).length ≤ memory.length := by
      omega
    rw [getElem?_overwrite, if_pos, List.getElem?_drop]
    · congr 1
      omega
    · rw [length_drop]
      omega
    · rw [length_overwrite frontFits, length_drop]
      omega
  · have front : (block.take (memory.length - pointer)).length = memory.length - pointer :=
      length_take_of_le (by omega)
    have frontFits : pointer + (block.take (memory.length - pointer)).length ≤ memory.length := by
      omega
    rw [getElem?_overwrite, getElem?_overwrite frontFits, front, if_neg, if_neg (by omega)]
    · rw [length_drop]
      omega
    · rw [length_overwrite frontFits, length_drop]
      omega
  · rw [getElem?_overwrite (Nat.le_of_not_lt passes), if_pos here]
  · omega
  · rw [getElem?_overwrite (Nat.le_of_not_lt passes), if_neg here]

/-- Growing the stream by a block for which there is room. -/
theorem Holds.put (holds : Holds memory stream low high) (length : stream.length = high)
    (ordered : low ≤ high) (room : high + block.length ≤ low + memory.length)
    (positive : 0 < memory.length) :
    Holds (put memory (high % memory.length) block) (stream ++ block) low
      (high + block.length) := by
  have inside := Nat.mod_lt high positive
  have fits : block.length ≤ memory.length := by omega
  intro position above below
  rw [length_put (Nat.le_of_lt inside) fits, getElem?_put inside fits (Nat.mod_lt _ positive)]
  by_cases old : position < high
  · obtain ⟨step, rfl⟩ := Nat.exists_eq_add_of_le (Nat.le_of_lt old)
    have stepLt : step < memory.length ∨ block = [] := by
      by_cases empty : block = []
      · exact Or.inr empty
      · have some := length_pos_of_ne_nil empty
        exact Or.inl (by omega)
    rw [List.getElem?_append_left (by omega), ← holds position above old]
    rcases stepLt with stepLt | rfl
    · have reduced := Ring.add_mod_of_lt position stepLt
      have atMost : step + block.length ≤ memory.length := by omega
      split_ifs at reduced with wraps
      · rw [if_neg (by omega), if_neg (by omega)]
      · rw [if_neg (by omega), if_neg (by omega)]
    · rw [if_neg (by rw [length_nil]; omega), if_neg]
      rw [length_nil]
      omega
  · obtain ⟨step, rfl⟩ := Nat.exists_eq_add_of_le (Nat.le_of_not_lt old)
    have stepLt : step < memory.length := by omega
    have reduced := Ring.add_mod_of_lt high stepLt
    rw [List.getElem?_append_right (by omega), length, Nat.add_sub_cancel_left, reduced]
    by_cases wraps : memory.length ≤ high % memory.length + step
    · rw [if_pos wraps, if_neg (by omega), if_pos (by omega)]
      congr 1
      omega
    · rw [if_neg wraps, if_pos (by omega)]
      congr 1
      omega

/-- Only a later part of the stream is of interest. -/
theorem Holds.mono (holds : Holds memory stream low high) {later : Nat} (le : low ≤ later) :
    Holds memory stream later high :=
  fun position above below => holds position (Nat.le_trans le above) below

/-- A block of the window is read as it is in the stream. -/
theorem Holds.get (holds : Holds memory stream low high) {count : Nat} (above : low ≤ position)
    (below : position + count ≤ high) (fits : count ≤ memory.length)
    (positive : 0 < memory.length) :
    get memory (position % memory.length) count = slice stream position count := by
  have inside := Nat.mod_lt position positive
  apply ext_getElem?
  intro index
  rw [getElem?_slice]
  by_cases within : index < count
  · rw [if_pos within, ← holds (position + index) (by omega) (by omega),
      Ring.add_mod_of_lt position (by omega : index < memory.length), RingMemory.get]
    by_cases passes : memory.length < position % memory.length + count
    · have front : (slice memory (position % memory.length)
          (memory.length - position % memory.length)).length =
            memory.length - position % memory.length := length_slice (by omega)
      rw [if_pos passes]
      by_cases wraps : memory.length ≤ position % memory.length + index
      · rw [if_pos wraps, List.getElem?_append_right (by omega), front, getElem?_slice,
          if_pos (by omega)]
        congr 1
        omega
      · rw [if_neg wraps, List.getElem?_append_left (by omega), getElem?_slice,
          if_pos (by omega)]
    · rw [if_neg passes, if_neg (by omega), getElem?_slice, if_pos within]
  · rw [if_neg within]
    apply List.getElem?_eq_none
    rw [RingMemory.get]
    split_ifs with passes
    · rw [List.length_append, length_slice (by omega), length_slice (by omega)]
      omega
    · rw [length_slice (by omega)]
      omega

end OpenBsw.RingMemory
