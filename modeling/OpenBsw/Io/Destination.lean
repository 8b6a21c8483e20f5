import OpenBsw.Io.MemoryQueue.Core

/-!
# Destinations of writers

What a user of `MemoryQueue::Writer` sees: the slot that the next element is
written to, and the elements that were committed.  Whether there is room is up
to the reader, who only ever makes more of it; a commit goes on to another
slot, whose bytes and room are not known before.
-/

namespace OpenBsw.Io

open OpenBsw.Bytes

structure Destination where
  maxSize : Nat
  /-- As many bytes as one element may have. -/
  slot : List UInt8
  allocated : Nat
  room : Bool
  elements : List (List UInt8)

/-- The slot after a committed element. -/
structure NextSlot where
  slot : List UInt8
  room : Bool

namespace Destination

/-- The size of the returned slice, which starts at the start of the slot. -/
def allocate (destination : Destination) (size : Nat) : Nat × Destination :=
  if size > destination.maxSize ∨ size = 0 ∨ destination.room = false then
    (0, { destination with allocated := 0 })
  else (size, { destination with allocated := size })

def commit (destination : Destination) (next : NextSlot) : Destination :=
  if destination.allocated = 0 then destination
  else
    { destination with
      slot := next.slot
      allocated := 0
      room := next.room
      elements := destination.elements ++ [destination.slot.take destination.allocated] }

/-- The user writes to the slot. -/
def write (destination : Destination) (position : Nat) (bytes : List UInt8) : Destination :=
  { destination with slot := overwrite destination.slot position bytes }

/-- The reader makes room. -/
def release (destination : Destination) : Destination :=
  { destination with room := true }

variable {destination : Destination} {size : Nat}

theorem allocate_of_room (positive : 0 < size) (small : size ≤ destination.maxSize)
    (room : destination.room = true) :
    destination.allocate size = (size, { destination with allocated := size }) := by
  rw [allocate, if_neg]
  rintro (large | zero | noRoom)
  · omega
  · omega
  · rw [room] at noRoom
    cases noRoom

theorem allocate_zero (destination : Destination) :
    destination.allocate 0 = (0, { destination with allocated := 0 }) :=
  if_pos (.inr (.inl rfl))

/-- A call fails, or returns what was requested. -/
theorem allocate_cases (destination : Destination) (size : Nat) :
    destination.allocate size = (0, { destination with allocated := 0 }) ∨
      (0 < size ∧ size ≤ destination.maxSize ∧ destination.room = true ∧
        destination.allocate size = (size, { destination with allocated := size })) := by
  by_cases fails : size > destination.maxSize ∨ size = 0 ∨ destination.room = false
  · exact .inl (if_pos fails)
  · have bounds := fails
    rw [not_or, not_or, Bool.not_eq_false] at bounds
    exact .inr ⟨by omega, by omega, bounds.2.2, if_neg fails⟩

theorem commit_of_zero (none : destination.allocated = 0) (next : NextSlot) :
    destination.commit next = destination :=
  if_pos none

theorem commit_of_pos (positive : 0 < destination.allocated) (next : NextSlot) :
    destination.commit next =
      { destination with
        slot := next.slot
        allocated := 0
        room := next.room
        elements := destination.elements ++ [destination.slot.take destination.allocated] } :=
  if_neg (by omega)

end Destination

end OpenBsw.Io
