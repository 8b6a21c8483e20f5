import OpenBsw.Data.Memory

/-!
# Memory pools

A pool hands out the elements of one buffer.  The free elements are linked
through their own first bytes, and a bitmap tells which elements are busy.  The
statistics of a pool are only counted and have no influence; they are left out.

The size of a pointer in bytes is a parameter.
-/

namespace OpenBsw.Middleware

structure PoolBase where
  buffer : Nat
  elementSize : Nat
  elementAlignedSize : Nat
  elementCount : Nat
  flags : List UInt8
  nextChunk : Nat
  available : Nat
  deriving DecidableEq, Repr

namespace PoolBase

/-- The bytes of the bitmap. -/
def flagsSize (elementCount : Nat) : Nat :=
  if elementCount % 8 = 0 then elementCount / 8 else elementCount / 8 + 1

/-- The loop of `initialize` that links each chunk to the one behind it, and
the null pointer of the last one. -/
def linkChunks (pointerSize elementAlignedSize : Nat) : Nat → Nat → Memory → Memory
  | 0, chunk, memory => memory.writePointer pointerSize chunk 0
  | count + 1, chunk, memory =>
    linkChunks pointerSize elementAlignedSize count (chunk + elementAlignedSize)
      (memory.writePointer pointerSize chunk (chunk + elementAlignedSize))

def initializePool (pointerSize : Nat) (pool : PoolBase) (memory : Memory) : PoolBase × Memory :=
  -- `_elementCount - 1U` is computed in `size_t`.
  let count := (pool.elementCount + 256 ^ pointerSize - 1) % 256 ^ pointerSize
  ({ pool with
      flags := List.replicate (flagsSize pool.elementCount) 0
      nextChunk := pool.buffer
      available := pool.elementCount },
    linkChunks pointerSize pool.elementAlignedSize count pool.buffer
      (memory.fill pool.buffer (pool.elementAlignedSize * pool.elementCount) 0))

def isEmpty (pool : PoolBase) : Bool :=
  pool.available = pool.elementCount

def isFull (pool : PoolBase) : Bool :=
  pool.available = 0

def updatePtrFlag (pool : PoolBase) (position : Nat) (ptrBusy : Bool) : PoolBase :=
  let mask := UInt8.ofNat (1 <<< (position % 8))
  { pool with
    flags := pool.flags.modify (position / 8) fun byte =>
      if ptrBusy then byte ||| mask else byte &&& ~~~mask }

def checkPtrFlag (pool : PoolBase) (position : Nat) : Bool :=
  pool.flags.getD (position / 8) 0 &&& UInt8.ofNat (1 <<< (position % 8)) ≠ 0

/-- The position of an element in the buffer. -/
def ptrPosition (pool : PoolBase) (ptr : Nat) : Nat :=
  (ptr - pool.buffer) / pool.elementAlignedSize

def isValidPointer (pool : PoolBase) (ptr : Nat) : Bool :=
  let last := pool.buffer + pool.elementCount * pool.elementAlignedSize
  let isInRange := pool.buffer ≤ ptr ∧ ptr ≤ last - pool.elementAlignedSize
  let isMultiple := (ptr - pool.buffer) % pool.elementAlignedSize = 0
  if isInRange ∧ isMultiple then pool.checkPtrFlag (pool.ptrPosition ptr) else false

def allocate (pointerSize : Nat) (pool : PoolBase) (memory : Memory) (size : Nat) :
    Nat × PoolBase :=
  if size ≤ pool.elementSize ∧ ¬pool.isFull then
    (pool.nextChunk,
      { pool with
        nextChunk := memory.readPointer pointerSize pool.nextChunk
        available := pool.available - 1 }.updatePtrFlag (pool.ptrPosition pool.nextChunk) true)
  else (0, pool)

/-- `none` where the function returns `false`. -/
def deallocate (pointerSize : Nat) (pool : PoolBase) (memory : Memory) (ptr : Nat) :
    Option (PoolBase × Memory) :=
  if pool.isValidPointer ptr then
    some ({ pool.updatePtrFlag (pool.ptrPosition ptr) false with
        available := pool.available + 1
        nextChunk := ptr },
      memory.writePointer pointerSize ptr pool.nextChunk)
  else none

/-! ## Busy flags -/

theorem toBitVec_mask {bit : Nat} (inside : bit < 8) :
    (UInt8.ofNat (1 <<< bit)).toBitVec = BitVec.twoPow 8 bit := by
  apply BitVec.eq_of_toNat_eq
  rw [BitVec.toNat_twoPow_of_lt inside, Nat.one_shiftLeft]
  exact Nat.mod_eq_of_lt (Nat.pow_lt_pow_right (by decide) inside)

theorem and_mask_ne_zero (byte : UInt8) {bit : Nat} (inside : bit < 8) :
    byte &&& UInt8.ofNat (1 <<< bit) ≠ 0 ↔ byte.toBitVec.getLsbD bit = true := by
  rw [ne_eq, ← UInt8.toBitVec_inj, UInt8.toBitVec_and, toBitVec_mask inside, BitVec.and_twoPow]
  cases byte.toBitVec.getLsbD bit with
  | true =>
    have nonzero : BitVec.twoPow 8 bit ≠ 0#8 := by
      intro zero
      have bits := congrArg (BitVec.getLsbD · bit) zero
      simp [inside] at bits
    simpa using nonzero
  | false => simp

theorem checkPtrFlag_eq (pool : PoolBase) (position : Nat) :
    pool.checkPtrFlag position =
      (pool.flags.getD (position / 8) 0).toBitVec.getLsbD (position % 8) := by
  rw [Bool.eq_iff_iff, checkPtrFlag, decide_eq_true_eq]
  exact and_mask_ne_zero _ (Nat.mod_lt _ (by decide))

/-- One flag is changed, and no other. -/
theorem checkPtrFlag_updatePtrFlag (pool : PoolBase) {position : Nat}
    (inside : position / 8 < pool.flags.length) (ptrBusy : Bool) (other : Nat) :
    (pool.updatePtrFlag position ptrBusy).checkPtrFlag other =
      if other = position then ptrBusy else pool.checkPtrFlag other := by
  have bit : position % 8 < 8 := Nat.mod_lt _ (by decide)
  have otherBit : other % 8 < 8 := Nat.mod_lt _ (by decide)
  rw [checkPtrFlag_eq, checkPtrFlag_eq]
  simp only [updatePtrFlag, List.getD_eq_getElem?_getD, List.getElem?_modify]
  by_cases sameByte : position / 8 = other / 8
  · have present : pool.flags[other / 8]? = some pool.flags[other / 8] :=
      List.getElem?_eq_getElem (by omega)
    have samePosition : other = position ↔ position % 8 = other % 8 := by omega
    simp only [if_pos sameByte, present, Option.map_eq_map, Option.map_some, Option.getD_some,
      samePosition]
    cases ptrBusy with
    | true =>
      simp only [if_true, UInt8.toBitVec_or, toBitVec_mask bit, BitVec.getLsbD_or,
        BitVec.getLsbD_twoPow, bit, decide_true, Bool.true_and]
      by_cases same : position % 8 = other % 8 <;> simp [same]
    | false =>
      simp only [Bool.false_eq_true, if_false, UInt8.toBitVec_and, UInt8.toBitVec_not,
        toBitVec_mask bit, BitVec.getLsbD_and, BitVec.getLsbD_not, BitVec.getLsbD_twoPow, bit,
        otherBit, decide_true, Bool.true_and]
      by_cases same : position % 8 = other % 8 <;> simp [same]
  · have different : other ≠ position := by
      intro same
      exact sameByte (by rw [same])
    simp [sameByte, different]

end PoolBase

end OpenBsw.Middleware
