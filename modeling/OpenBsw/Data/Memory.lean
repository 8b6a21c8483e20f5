import OpenBsw.Data.Bytes

/-!
# Byte-addressed memory

Addresses are numbers, and address zero is the null pointer.  A pointer is
stored in a fixed count of bytes, least significant byte first, so free chunks
can carry the pointers of a list that is threaded through them.
-/

namespace OpenBsw

abbrev Memory := Nat → UInt8

namespace Memory

/-- Write one byte. -/
def store (memory : Memory) (address : Nat) (byte : UInt8) : Memory := fun other =>
  if other = address then byte else memory other

/-- Copy a block to an address. -/
def copy (memory : Memory) (address : Nat) (block : List UInt8) : Memory := fun other =>
  if address ≤ other ∧ other < address + block.length then block.getD (other - address) 0
  else memory other

/-- Set a range of bytes to one value. -/
def fill (memory : Memory) (address size : Nat) (byte : UInt8) : Memory := fun other =>
  if address ≤ other ∧ other < address + size then byte else memory other

/-- The bytes of a range. -/
def load (memory : Memory) (address size : Nat) : List UInt8 :=
  (List.range size).map fun index => memory (address + index)

def writePointer (size : Nat) (memory : Memory) (address pointer : Nat) : Memory :=
  memory.copy address (Bytes.bigEndian size pointer).reverse

def readPointer (size : Nat) (memory : Memory) (address : Nat) : Nat :=
  Bytes.ofBigEndian (memory.load address size).reverse

variable {memory changed : Memory} {address size : Nat}

@[simp]
theorem store_self (memory : Memory) (address : Nat) (byte : UInt8) :
    memory.store address byte address = byte :=
  if_pos rfl

theorem store_of_ne (memory : Memory) {address other : Nat} (byte : UInt8)
    (different : other ≠ address) : memory.store address byte other = memory other :=
  if_neg different

theorem load_copy (memory : Memory) (address : Nat) (block : List UInt8) :
    (memory.copy address block).load address block.length = block := by
  apply List.ext_getElem
  · simp [load]
  · intro index _ inside
    simp [load, copy, inside]

/-- Equal bytes make equal pointers. -/
theorem readPointer_congr
    (same : ∀ other, address ≤ other → other < address + size → changed other = memory other) :
    readPointer size changed address = readPointer size memory address := by
  have loaded : changed.load address size = memory.load address size := by
    apply List.map_congr_left
    intro index inside
    rw [List.mem_range] at inside
    exact same _ (by omega) (by omega)
  rw [readPointer, readPointer, loaded]

/-- A pointer that fits is read as it was written. -/
theorem readPointer_writePointer {pointer : Nat} (small : pointer < 256 ^ size) :
    readPointer size (writePointer size memory address pointer) address = pointer := by
  have loaded := load_copy memory address (Bytes.bigEndian size pointer).reverse
  rw [List.length_reverse, Bytes.length_bigEndian] at loaded
  rw [readPointer, writePointer, loaded, List.reverse_reverse, Bytes.ofBigEndian_bigEndian small]

/-- Writing a pointer leaves all other bytes alone. -/
theorem writePointer_of_outside {pointer other : Nat}
    (outside : other < address ∨ address + size ≤ other) :
    writePointer size memory address pointer other = memory other := by
  rw [writePointer, copy, List.length_reverse, Bytes.length_bigEndian]
  exact if_neg (by omega)

theorem fill_of_outside {byte : UInt8} {other : Nat}
    (outside : other < address ∨ address + size ≤ other) :
    memory.fill address size byte other = memory other :=
  if_neg (by omega)

end Memory

/-! ## Threaded lists -/

/-- The chunks that are met from a pointer on, up to the null pointer. -/
def Chain (next : Nat → Nat) : Nat → List Nat → Prop
  | head, [] => head = 0
  | head, chunk :: rest => head = chunk ∧ chunk ≠ 0 ∧ Chain next (next chunk) rest

namespace Chain

variable {next changed : Nat → Nat} {head : Nat} {chunks : List Nat}

theorem congr (chain : Chain next head chunks)
    (same : ∀ chunk ∈ chunks, changed chunk = next chunk) : Chain changed head chunks := by
  induction chunks generalizing head with
  | nil => exact chain
  | cons chunk rest ih =>
    obtain ⟨headEq, nonzero, further⟩ := chain
    refine ⟨headEq, nonzero, ?_⟩
    rw [same chunk List.mem_cons_self]
    exact ih further fun other member => same other (List.mem_cons_of_mem _ member)

/-- A chunk is put in front. -/
theorem push (chain : Chain next head chunks) {chunk : Nat} (nonzero : chunk ≠ 0)
    (linked : next chunk = head) : Chain next chunk (chunk :: chunks) :=
  ⟨rfl, nonzero, linked ▸ chain⟩

/-- A chain with chunks starts with the first of them. -/
theorem exists_cons (chain : Chain next head chunks) (nonempty : chunks.length ≠ 0) :
    ∃ rest, chunks = head :: rest ∧ head ≠ 0 ∧ Chain next (next head) rest := by
  cases chunks with
  | nil => exact absurd rfl nonempty
  | cons chunk rest =>
    obtain ⟨rfl, nonzero, further⟩ := chain
    exact ⟨rest, rfl, nonzero, further⟩

end Chain

end OpenBsw
