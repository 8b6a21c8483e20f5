import OpenBsw.Data.Ring
import OpenBsw.Io.MemoryQueue.Core

/-!
# Elements in the ring

Proofs count bytes with positions that only grow; an index of the queue is a
position modulo `2 * CAPACITY` and a place in the array is one modulo
`CAPACITY`.  The elements between two positions lie one behind the other, each
with its header, except where too little contiguous space was left.
-/

namespace OpenBsw.Io

open OpenBsw.Bytes
open OpenBsw.Ring

namespace MemoryQueueConfig

variable (config : MemoryQueueConfig)

/-! ## Positions -/

/-- An allocation of any size fits between the position and the end of the
array. -/
def Valid (position : Nat) : Prop :=
  position % config.capacity + config.reserve ≤ config.capacity

/-- The position behind an element of the given size. -/
def advance (position size : Nat) : Nat :=
  let next := position + (size + config.headerSize)
  if gap config.capacity next < config.reserve then next + gap config.capacity next else next

variable {config}

theorem valid_zero : config.Valid 0 := by
  rw [Valid, Nat.zero_mod, Nat.zero_add]
  exact config.reserve_le_capacity

theorem valid_advance (position size : Nat) : config.Valid (config.advance position size) := by
  have positive := config.capacity_pos
  simp only [Valid, advance]
  split
  · rw [add_gap_mod positive, Nat.zero_add]
    exact config.reserve_le_capacity
  · rename_i roomy
    rcases gap_cases positive (position + (size + config.headerSize)) with
      ⟨start, none⟩ | ⟨_, fills⟩
    · rw [start, Nat.zero_add]
      exact config.reserve_le_capacity
    · omega

variable (config) in
theorem le_advance (position size : Nat) :
    position + (size + config.headerSize) ≤ config.advance position size := by
  simp only [advance]
  split <;> omega

/-- Advancing over an element that fits into the room up to `limit + CAPACITY`
stays within that room, the skipped bytes included. -/
theorem advance_le {position size limit : Nat} (valid : config.Valid limit)
    (small : size ≤ config.maxElementSize)
    (room : position + config.reserve ≤ limit + config.capacity) :
    config.advance position size ≤ limit + config.capacity := by
  have next : position + (size + config.headerSize) ≤ limit + config.capacity := by
    simp only [reserve] at room
    omega
  simp only [advance]
  split
  · rename_i short
    apply add_gap_le config.capacity_pos next short
    rw [Nat.add_mod_right]
    exact valid
  · exact next

/-! ## Index arithmetic on reduced positions -/

theorem sub_of_le {left right : Nat} (ordered : right ≤ left) (small : left < config.sizeLimit) :
    config.sub left right = left - right := by
  rw [sub, show left + config.sizeLimit - right = left - right + config.sizeLimit by omega,
    Nat.add_mod_right, Nat.mod_eq_of_lt (by omega)]

/-- A sum that wraps in `size_t` is repaired by the subtraction. -/
theorem sub_mod_of_le {left right : Nat} (ordered : right ≤ left)
    (rightSmall : right < config.sizeLimit) (near : left < right + config.sizeLimit) :
    config.sub (left % config.sizeLimit) right = left - right := by
  by_cases small : left < config.sizeLimit
  · rw [Nat.mod_eq_of_lt small, sub_of_le ordered small]
  · rw [Nat.mod_eq_sub_mod (by omega), Nat.mod_eq_of_lt (by omega : _ < config.sizeLimit), sub,
      show left - config.sizeLimit + config.sizeLimit - right = left - right by omega,
      Nat.mod_eq_of_lt (by omega)]

theorem advanceIndex_mod {position size : Nat} (valid : config.Valid position)
    (small : size ≤ config.maxElementSize) :
    config.advanceIndex (position % (2 * config.capacity)) size =
      config.advance position size % (2 * config.capacity) := by
  have positive := config.capacity_pos
  have addressable := config.addressable
  have inside : position % (2 * config.capacity) + size + config.headerSize ≤
      2 * config.capacity := by
    simp only [Valid, reserve] at valid
    rcases mod_two_mul_cases positive position with first | second <;> omega
  have next : (position % (2 * config.capacity) + size + config.headerSize) % config.sizeLimit %
      (2 * config.capacity) = (position + (size + config.headerSize)) % (2 * config.capacity) := by
    rw [Nat.mod_eq_of_lt (by omega : _ < config.sizeLimit), Nat.add_assoc, Nat.mod_add_mod]
  have nextLt : (position + (size + config.headerSize)) % (2 * config.capacity) <
      2 * config.capacity := Nat.mod_lt _ (by omega)
  have space : config.sub (2 * config.capacity)
      ((position + (size + config.headerSize)) % (2 * config.capacity)) % config.capacity =
      gap config.capacity (position + (size + config.headerSize)) := by
    rw [sub_of_le (by omega) addressable, gap_of_mod_two_mul positive]
  have spaceLe : gap config.capacity (position + (size + config.headerSize)) ≤
      2 * config.capacity - (position + (size + config.headerSize)) % (2 * config.capacity) := by
    rw [← gap_of_mod_two_mul positive]
    exact Nat.mod_le _ _
  simp only [advanceIndex, advance, next, space]
  split
  · rw [Nat.mod_eq_of_lt (by omega : _ < config.sizeLimit), Nat.mod_add_mod]
  · rfl

/-- The free bytes computed from the two indices, which may be older than the
positions when the reader has advanced. -/
theorem available_mod {readPosition writePosition : Nat} (ordered : readPosition ≤ writePosition)
    (within : writePosition ≤ readPosition + config.capacity) :
    config.available (writePosition % (2 * config.capacity))
        (readPosition % (2 * config.capacity)) =
      if readPosition + config.capacity - writePosition < config.reserve then 0
      else readPosition + config.capacity - writePosition := by
  have positive := config.capacity_pos
  have addressable := config.addressable
  have writeLt : writePosition % (2 * config.capacity) < 2 * config.capacity :=
    Nat.mod_lt _ (by omega)
  have readLt : readPosition % (2 * config.capacity) < 2 * config.capacity :=
    Nat.mod_lt _ (by omega)
  have used := distance_mod ordered
    (by omega : writePosition < readPosition + 2 * config.capacity)
  have usedBytes :
      (if writePosition % (2 * config.capacity) < readPosition % (2 * config.capacity) then
        config.sub ((writePosition % (2 * config.capacity) + 2 * config.capacity) %
          config.sizeLimit) (readPosition % (2 * config.capacity))
      else config.sub (writePosition % (2 * config.capacity))
        (readPosition % (2 * config.capacity))) = writePosition - readPosition := by
    rw [← used, distance]
    split
    · rw [sub_mod_of_le (by omega) (by omega) (by omega)]
    · rw [sub_of_le (by omega) (by omega)]
  have free : config.sub config.capacity (writePosition - readPosition) =
      readPosition + config.capacity - writePosition := by
    rw [sub_of_le (by omega) (by omega)]
    omega
  simp only [available, usedBytes, free]

end MemoryQueueConfig

/-! ## Stored elements -/

variable {data : List UInt8} {elements : List (List UInt8)} {first last : Nat}

section Stored

variable (config : MemoryQueueConfig)

/-- The element lies in the array at the position, behind its header. -/
def Holds (data : List UInt8) (position : Nat) (element : List UInt8) : Prop :=
  slice data (position % config.capacity) config.headerSize =
      bigEndian config.headerSize element.length ∧
    slice data (position % config.capacity + config.headerSize) element.length = element

/-- The array holds the elements one behind the other from `first` on, and
`last` is the position behind them. -/
def Stored (data : List UInt8) : Nat → List (List UInt8) → Nat → Prop
  | first, [], last => first = last
  | first, element :: elements, last =>
    element.length ≤ config.maxElementSize ∧ Holds config data first element ∧
      Stored data (config.advance first element.length) elements last

variable {config}

/-- Writing the header in front of a block makes the block an element. -/
theorem holds_header {position size : Nat} (length : data.length = config.capacity)
    (valid : config.Valid position) (small : size ≤ config.maxElementSize) :
    Holds config
      (Bytes.overwrite data (position % config.capacity) (bigEndian config.headerSize size))
      position (slice data (position % config.capacity + config.headerSize) size) := by
  have clear : position % config.capacity + config.reserve ≤ config.capacity := valid
  simp only [MemoryQueueConfig.reserve] at clear
  have sizeEq : (slice data (position % config.capacity + config.headerSize) size).length = size :=
    length_slice (by omega)
  have headerFits : position % config.capacity +
      (bigEndian config.headerSize size).length ≤ data.length := by
    rw [length_bigEndian]
    omega
  have header := slice_overwrite_self headerFits
  rw [length_bigEndian] at header
  rw [Holds, sizeEq]
  refine ⟨header, slice_overwrite_of_disjoint headerFits (.inr ?_)⟩
  rw [length_bigEndian]

/-- The size read from the header of an element. -/
theorem Holds.size_eq {data element : List UInt8} {position : Nat}
    (holds : Holds config data position element) (small : element.length ≤ config.maxElementSize) :
    ofBigEndian (slice data (position % config.capacity) config.headerSize) = element.length := by
  rw [holds.1, ofBigEndian_bigEndian (Nat.lt_of_le_of_lt small config.representable)]

theorem Stored.le (stored : Stored config data first elements last) : first ≤ last := by
  induction elements generalizing first with
  | nil => exact Nat.le_of_eq stored
  | cons element elements ih =>
    have next := ih stored.2.2
    have advanced := config.le_advance first element.length
    omega

/-- A block of an element that ends before `write` is disjoint from everything
the writer may touch from `write` on. -/
theorem blocks_disjoint {position write limit length : Nat} (after : limit ≤ position)
    (before : position + length ≤ write) (room : write + config.reserve ≤ limit + config.capacity) :
    position % config.capacity + length ≤ write % config.capacity ∨
      write % config.capacity + config.reserve ≤ position % config.capacity :=
  disjoint_mod config.capacity_pos before (by omega)

/-- What the writer writes into its room leaves the elements as they are. -/
theorem Stored.overwrite {data block : List UInt8} {first last limit offset : Nat}
    (stored : Stored config data first elements last) (length : data.length = config.capacity)
    (after : limit ≤ first) (valid : config.Valid last)
    (room : last + config.reserve ≤ limit + config.capacity)
    (fromLast : last % config.capacity ≤ offset)
    (inside : offset + block.length ≤ last % config.capacity + config.reserve) :
    Stored config (Bytes.overwrite data offset block) first elements last := by
  have fits : offset + block.length ≤ data.length := by
    have clear : last % config.capacity + config.reserve ≤ config.capacity := valid
    omega
  induction elements generalizing first with
  | nil => exact stored
  | cons element elements ih =>
    obtain ⟨small, ⟨header, bytes⟩, rest⟩ := stored
    have advanced := config.le_advance first element.length
    have restLe := rest.le
    have disjoint := blocks_disjoint after
      (by omega : first + (element.length + config.headerSize) ≤ last) room
    refine ⟨small, ⟨?_, ?_⟩, ih rest (by omega)⟩
    · rw [slice_overwrite_of_disjoint fits (by omega)]
      exact header
    · rw [slice_overwrite_of_disjoint fits (by omega)]
      exact bytes

/-- The two ends differ exactly when there are elements between them. -/
theorem Stored.ne_nil_iff (stored : Stored config data first elements last) :
    elements ≠ [] ↔ first < last := by
  cases elements with
  | nil =>
    have equal : first = last := stored
    simp [equal]
  | cons element elements =>
    have rest := stored.2.2.le
    have advanced := config.le_advance first element.length
    have positive := config.headerPositive
    simp only [ne_eq, reduceCtorEq, not_false_eq_true, true_iff]
    omega

theorem Stored.concat {element : List UInt8} (stored : Stored config data first elements last)
    (small : element.length ≤ config.maxElementSize) (holds : Holds config data last element) :
    Stored config data first (elements ++ [element]) (config.advance last element.length) := by
  induction elements generalizing first with
  | nil =>
    have equal : first = last := stored
    subst equal
    exact ⟨small, holds, rfl⟩
  | cons head elements ih => exact ⟨stored.1, stored.2.1, ih stored.2.2⟩

end Stored

end OpenBsw.Io
