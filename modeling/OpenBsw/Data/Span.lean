import OpenBsw.Data.Bytes

/-!
# Views of bytes

A view is the list of the elements it shows.  An operation that would leave
the view has no result, so a computation with a result has read inside its
views only.
-/

namespace OpenBsw.Span

universe u

variable {α : Type u} {bytes front back : List α} {count : Nat}

/-- The view of the first elements. -/
def first (bytes : List α) (count : Nat) : Option (List α) :=
  if count ≤ bytes.length then some (bytes.take count) else none

/-- The view without its first elements. -/
def subspan (bytes : List α) (offset : Nat) : Option (List α) :=
  if offset ≤ bytes.length then some (bytes.drop offset) else none

/-- Split off the first elements. -/
def take (bytes : List α) (count : Nat) : Option (List α × List α) :=
  if count ≤ bytes.length then some (bytes.take count, bytes.drop count) else none

/-- Split off a big-endian number of `width` bytes. -/
def takeNumber (width : Nat) (bytes : List UInt8) : Option (Nat × List UInt8) := do
  let (number, rest) ← take bytes width
  return (Bytes.ofBigEndian number, rest)

theorem first_eq (inside : count ≤ bytes.length) : first bytes count = some (bytes.take count) :=
  if_pos inside

theorem subspan_eq (inside : count ≤ bytes.length) :
    subspan bytes count = some (bytes.drop count) :=
  if_pos inside

theorem take_eq (inside : count ≤ bytes.length) :
    take bytes count = some (bytes.take count, bytes.drop count) :=
  if_pos inside

theorem take_append (size : front.length = count) :
    take (front ++ back) count = some (front, back) := by
  rw [take_eq (by rw [List.length_append]; omega), List.take_left' size, List.drop_left' size]

theorem takeNumber_eq {width : Nat} {bytes : List UInt8} (inside : width ≤ bytes.length) :
    takeNumber width bytes = some (Bytes.ofBigEndian (bytes.take width), bytes.drop width) := by
  rw [takeNumber, take_eq inside]
  rfl

/-- A number that was written in front is split off again. -/
theorem takeNumber_bigEndian {width value : Nat} (small : value < 256 ^ width)
    (rest : List UInt8) :
    takeNumber width (Bytes.bigEndian width value ++ rest) = some (value, rest) := by
  rw [takeNumber, take_append (Bytes.length_bigEndian width value)]
  change some (Bytes.ofBigEndian (Bytes.bigEndian width value), rest) = _
  rw [Bytes.ofBigEndian_bigEndian small]

end OpenBsw.Span
