import Mathlib

/-!
# Byte buffers and big-endian numbers

Buffers are lists.  `overwrite` copies a block into a buffer and `slice` reads
one back, both totally; every law asks that the block lies inside the buffer
where that matters.  A number is stored in a fixed count of bytes, most
significant byte first.
-/

namespace OpenBsw.Bytes

open List

universe u

variable {α : Type u}

/-! ## Blocks inside a buffer -/

/-- Replace the bytes of `buffer` from `offset` on by `block`. -/
def overwrite (buffer : List α) (offset : Nat) (block : List α) : List α :=
  buffer.take offset ++ block ++ buffer.drop (offset + block.length)

/-- The `size` bytes of `buffer` from `offset` on. -/
def slice (buffer : List α) (offset size : Nat) : List α :=
  (buffer.drop offset).take size

@[simp]
theorem length_overwrite {buffer block : List α} {offset : Nat}
    (fits : offset + block.length ≤ buffer.length) :
    (overwrite buffer offset block).length = buffer.length := by
  simp only [overwrite, List.length_append, length_take, length_drop]
  omega

theorem length_slice {buffer : List α} {offset size : Nat}
    (fits : offset + size ≤ buffer.length) :
    (slice buffer offset size).length = size := by
  simp only [slice, length_take, length_drop]
  omega

theorem getElem?_slice (buffer : List α) (offset size i : Nat) :
    (slice buffer offset size)[i]? = if i < size then buffer[offset + i]? else none := by
  simp [slice, List.getElem?_take, List.getElem?_drop]

/-- Inside the block an overwritten buffer holds the block, elsewhere the old
bytes. -/
theorem getElem?_overwrite {buffer block : List α} {offset : Nat}
    (fits : offset + block.length ≤ buffer.length) (i : Nat) :
    (overwrite buffer offset block)[i]? =
      if offset ≤ i ∧ i < offset + block.length then block[i - offset]?
      else buffer[i]? := by
  have headLength : (buffer.take offset).length = offset := by
    rw [length_take]
    omega
  rw [overwrite, append_assoc, List.getElem?_append, headLength]
  by_cases before : i < offset
  · rw [if_pos before, if_neg (by omega), List.getElem?_take, if_pos before]
  · rw [if_neg before, List.getElem?_append]
    by_cases inside : i - offset < block.length
    · rw [if_pos inside, if_pos (by omega)]
    · rw [if_neg inside, if_neg (by omega), List.getElem?_drop]
      congr 1
      omega

/-- Cutting a buffer behind a block that was written into it. -/
theorem take_overwrite (buffer block : List α) {offset : Nat}
    (inside : offset ≤ buffer.length) :
    (overwrite buffer offset block).take (offset + block.length) =
      buffer.take offset ++ block := by
  have headLength : (buffer.take offset).length = offset := by
    rw [length_take]
    omega
  rw [overwrite, take_append_of_le_length (by simp [headLength]),
    take_of_length_le (by simp [headLength])]

/-- Two blocks written one behind the other are one block. -/
theorem overwrite_append {buffer first second : List α} {offset : Nat}
    (fits : offset + (first ++ second).length ≤ buffer.length) :
    overwrite (overwrite buffer offset first) (offset + first.length) second =
      overwrite buffer offset (first ++ second) := by
  rw [List.length_append] at fits
  have back : (overwrite buffer offset first).drop (offset + first.length + second.length) =
      buffer.drop (offset + (first ++ second).length) := by
    rw [overwrite, append_assoc, drop_append, drop_of_length_le (by
      rw [length_take]; omega), nil_append, drop_append,
      drop_of_length_le (by rw [length_take]; omega), nil_append, drop_drop,
      length_take, List.length_append]
    congr 1
    omega
  rw [overwrite, take_overwrite buffer first (by omega), back, overwrite]
  simp only [append_assoc]

@[simp]
theorem overwrite_nil (buffer : List α) (offset : Nat) : overwrite buffer offset [] = buffer := by
  simp [overwrite]

theorem overwrite_middle (front middle back block : List α)
    (same : block.length = middle.length) :
    overwrite (front ++ middle ++ back) front.length block = front ++ block ++ back := by
  rw [overwrite, append_assoc front, take_left, same, ← append_assoc,
    ← List.length_append, drop_left]

/-- A block is read back as it was written. -/
theorem slice_overwrite_self {buffer block : List α} {offset : Nat}
    (fits : offset + block.length ≤ buffer.length) :
    slice (overwrite buffer offset block) offset block.length = block := by
  apply ext_getElem?
  intro i
  rw [getElem?_slice, getElem?_overwrite fits]
  by_cases inside : i < block.length
  · rw [if_pos inside, if_pos (by omega)]
    congr 1
    omega
  · rw [if_neg inside]
    exact (List.getElem?_eq_none (by omega)).symm

/-- Writing a block leaves every disjoint block as it was. -/
theorem slice_overwrite_of_disjoint {buffer block : List α} {offset start size : Nat}
    (fits : offset + block.length ≤ buffer.length)
    (disjoint : start + size ≤ offset ∨ offset + block.length ≤ start) :
    slice (overwrite buffer offset block) start size = slice buffer start size := by
  apply ext_getElem?
  intro i
  rw [getElem?_slice, getElem?_slice, getElem?_overwrite fits]
  by_cases inside : i < size
  · rw [if_pos inside, if_pos inside, if_neg (by omega)]
  · rw [if_neg inside, if_neg inside]

/-- Writing into a part of a buffer is writing into the buffer. -/
theorem slice_overwrite_within {buffer block : List α} {start size position : Nat}
    (inside : start + size ≤ buffer.length) (fits : position + block.length ≤ size) :
    slice (overwrite buffer (start + position) block) start size =
      overwrite (slice buffer start size) position block := by
  have lengthEq : (slice buffer start size).length = size := length_slice inside
  apply ext_getElem?
  intro i
  rw [getElem?_slice, getElem?_overwrite (by omega), getElem?_overwrite (by omega), getElem?_slice]
  grind

/-- A part of the middle of three blocks is read from that block. -/
theorem slice_middle {front middle rest : List α} {offset start size : Nat}
    (offsetEq : front.length = offset) (inside : start + size ≤ middle.length) :
    slice (front ++ middle ++ rest) (offset + start) size = slice middle start size := by
  subst offsetEq
  rw [slice, slice, append_assoc, drop_append, drop_of_length_le (by omega),
    nil_append, Nat.add_sub_cancel_left, drop_append_of_le_length (by omega),
    take_append_of_le_length (by rw [length_drop]; omega)]

/-- The end of a buffer behind its front. -/
theorem slice_back {front back : List α} {offset size : Nat}
    (offsetEq : front.length = offset) (sizeEq : back.length = size) :
    slice (front ++ back) offset size = back := by
  rw [slice, drop_left' offsetEq, take_of_length_le (by omega)]

/-- A property of bytes can be checked on the 256 of them. -/
theorem forall_byte {property : UInt8 → Prop}
    (all : ∀ value : Fin 256, property ⟨⟨value⟩⟩) (byte : UInt8) : property byte :=
  all byte.toFin

/-! ## Big-endian numbers -/

/-- The low `width` bytes of a number, most significant byte first. -/
def bigEndian : Nat → Nat → List UInt8
  | 0, _ => []
  | width + 1, value => bigEndian width (value / 256) ++ [UInt8.ofNat value]

/-- The number a block of bytes stands for, most significant byte first. -/
def ofBigEndian (block : List UInt8) : Nat :=
  block.foldl (fun value byte => value * 256 + byte.toNat) 0

@[simp]
theorem length_bigEndian (width value : Nat) : (bigEndian width value).length = width := by
  induction width generalizing value with
  | zero => rfl
  | succ width ih => simp [bigEndian, ih]

theorem ofBigEndian_concat (block : List UInt8) (byte : UInt8) :
    ofBigEndian (block ++ [byte]) = ofBigEndian block * 256 + byte.toNat := by
  simp [ofBigEndian]

/-- A block stands for a number below a power of its length. -/
theorem ofBigEndian_lt (block : List UInt8) : ofBigEndian block < 256 ^ block.length := by
  induction block using List.reverseRecOn with
  | nil => exact Nat.one_pos
  | append_singleton block byte ih =>
      have small := byte.toNat_lt
      rw [ofBigEndian_concat, List.length_append, length_singleton, Nat.pow_succ]
      omega

/-- A number below `256 ^ width` is recovered from its `width` bytes. -/
theorem ofBigEndian_bigEndian {width value : Nat} (small : value < 256 ^ width) :
    ofBigEndian (bigEndian width value) = value := by
  induction width generalizing value with
  | zero =>
    have zero : value = 0 := by simpa using small
    subst zero
    rfl
  | succ width ih =>
    have quotient : value / 256 < 256 ^ width := by
      rw [Nat.div_lt_iff_lt_mul (by decide), ← Nat.pow_succ]
      exact small
    rw [bigEndian, ofBigEndian_concat, ih quotient, UInt8.toNat_ofNat']
    omega

end OpenBsw.Bytes
