import OpenBsw.Middleware.Memory.PoolBase

/-!
# The free list of a pool

The three representations of a pool agree: the chunks linked from `nextChunk`
are the elements whose flag is clear, each once, and `available` is their
number.  Every operation is described by its effect on the set of valid
pointers and on the free list.
-/

namespace OpenBsw.Middleware.PoolBase

open List

/-! ## Elements -/

/-- An element of the pool starts at this address. -/
def IsSlot (pool : PoolBase) (address : Nat) : Prop :=
  ∃ index < pool.elementCount, address = pool.buffer + index * pool.elementAlignedSize

/-- What the pool classes and the linker guarantee: at least one element, a
free element can hold a pointer, and all addresses fit into one and differ from
the null pointer. -/
structure WellFormed (pointerSize : Nat) (pool : PoolBase) : Prop where
  count_pos : 0 < pool.elementCount
  pointer_pos : 0 < pointerSize
  pointer_le : pointerSize ≤ pool.elementAlignedSize
  size_le : pool.elementSize ≤ pool.elementAlignedSize
  buffer_pos : 0 < pool.buffer
  end_le : pool.buffer + pool.elementCount * pool.elementAlignedSize ≤ 256 ^ pointerSize

variable {pointerSize : Nat} {pool : PoolBase} {memory : Memory} {address : Nat}

theorem WellFormed.aligned_pos (wellFormed : WellFormed pointerSize pool) :
    0 < pool.elementAlignedSize :=
  Nat.lt_of_lt_of_le wellFormed.pointer_pos wellFormed.pointer_le

/-- An element lies inside the buffer. -/
theorem IsSlot.bounds (slot : IsSlot pool address) :
    pool.buffer ≤ address ∧
      address + pool.elementAlignedSize ≤
        pool.buffer + pool.elementCount * pool.elementAlignedSize := by
  obtain ⟨index, inside, rfl⟩ := slot
  have next := Nat.mul_le_mul_right pool.elementAlignedSize inside
  rw [Nat.succ_mul] at next
  omega

/-- Two elements of one pool do not overlap. -/
theorem IsSlot.apart {other : Nat} (slot : IsSlot pool address) (otherSlot : IsSlot pool other)
    (different : address ≠ other) :
    address + pool.elementAlignedSize ≤ other ∨ other + pool.elementAlignedSize ≤ address := by
  obtain ⟨index, _, rfl⟩ := slot
  obtain ⟨otherIndex, _, rfl⟩ := otherSlot
  rcases Nat.lt_trichotomy index otherIndex with less | same | greater
  · have next := Nat.mul_le_mul_right pool.elementAlignedSize less
    rw [Nat.succ_mul] at next
    omega
  · exact absurd (by rw [same]) different
  · have next := Nat.mul_le_mul_right pool.elementAlignedSize greater
    rw [Nat.succ_mul] at next
    omega

theorem ptrPosition_slot (wellFormed : WellFormed pointerSize pool) (index : Nat) :
    pool.ptrPosition (pool.buffer + index * pool.elementAlignedSize) = index := by
  rw [ptrPosition, Nat.add_sub_cancel_left, Nat.mul_div_cancel _ wellFormed.aligned_pos]

theorem slot_ptrPosition (wellFormed : WellFormed pointerSize pool) (slot : IsSlot pool address) :
    pool.ptrPosition address < pool.elementCount ∧
      address = pool.buffer + pool.ptrPosition address * pool.elementAlignedSize := by
  obtain ⟨index, inside, rfl⟩ := slot
  rw [ptrPosition_slot wellFormed]
  exact ⟨inside, rfl⟩

/-- The valid pointers are the elements whose flag is set. -/
theorem isValidPointer_iff (wellFormed : WellFormed pointerSize pool) :
    pool.isValidPointer address = true ↔
      IsSlot pool address ∧ pool.checkPtrFlag (pool.ptrPosition address) = true := by
  have positive := wellFormed.aligned_pos
  have range : (pool.buffer ≤ address ∧ address ≤
      pool.buffer + pool.elementCount * pool.elementAlignedSize - pool.elementAlignedSize) ∧
      (address - pool.buffer) % pool.elementAlignedSize = 0 ↔ IsSlot pool address := by
    constructor
    · rintro ⟨⟨lower, upper⟩, multiple⟩
      have division := Nat.div_add_mod (address - pool.buffer) pool.elementAlignedSize
      rw [multiple, Nat.add_zero, Nat.mul_comm] at division
      refine ⟨(address - pool.buffer) / pool.elementAlignedSize, ?_, by omega⟩
      rw [Nat.div_lt_iff_lt_mul positive]
      have enough := Nat.mul_le_mul_right pool.elementAlignedSize wellFormed.count_pos
      omega
    · rintro ⟨index, inside, rfl⟩
      have bounds := IsSlot.bounds ⟨index, inside, rfl⟩
      rw [Nat.add_sub_cancel_left]
      exact ⟨⟨bounds.1, by omega⟩, Nat.mul_mod_left _ _⟩
  rw [isValidPointer]
  by_cases slot : IsSlot pool address
  · rw [if_pos (range.mpr slot)]
    exact (and_iff_right slot).symm
  · rw [if_neg (slot ∘ range.mp)]
    simp [slot]

/-! ## Agreement of the representations -/

/-- The chunks in the free list, in order. -/
structure Threaded (pointerSize : Nat) (pool : PoolBase) (memory : Memory)
    (chunks : List Nat) : Prop where
  chain : Chain (memory.readPointer pointerSize) pool.nextChunk chunks
  available_eq : pool.available = chunks.length
  nodup : chunks.Nodup
  mem_iff : ∀ address, address ∈ chunks ↔
    IsSlot pool address ∧ pool.checkPtrFlag (pool.ptrPosition address) = false
  flags_length : pool.flags.length = flagsSize pool.elementCount

theorem lt_flagsSize {position elementCount : Nat} (inside : position < elementCount) :
    position / 8 < flagsSize elementCount := by
  rw [flagsSize]
  split <;> omega

variable {chunks : List Nat}

/-- The free list is the same in a memory that agrees on the free elements. -/
theorem Threaded.congr {changed : Memory} (threaded : Threaded pointerSize pool memory chunks)
    (same : ∀ chunk ∈ chunks, ∀ other, chunk ≤ other → other < chunk + pointerSize →
      changed other = memory other) : Threaded pointerSize pool changed chunks :=
  { threaded with
    chain := threaded.chain.congr fun chunk member =>
      Memory.readPointer_congr fun other lower upper => same chunk member other lower upper }

/-- The first chunk of the free list of a pool that is not full. -/
theorem Threaded.exists_cons (threaded : Threaded pointerSize pool memory chunks)
    (notFull : pool.isFull = false) :
    ∃ rest, chunks = pool.nextChunk :: rest ∧ pool.nextChunk ≠ 0 ∧
      Chain (memory.readPointer pointerSize)
        (memory.readPointer pointerSize pool.nextChunk) rest := by
  refine threaded.chain.exists_cons ?_
  rw [← threaded.available_eq]
  rw [isFull, decide_eq_false_iff_not] at notFull
  exact notFull

/-! ## Allocation -/

/-- The pool after its first free chunk was handed out. -/
def takeChunk (pointerSize : Nat) (pool : PoolBase) (memory : Memory) : PoolBase :=
  { pool with
    nextChunk := memory.readPointer pointerSize pool.nextChunk
    available := pool.available - 1 }.updatePtrFlag (pool.ptrPosition pool.nextChunk) true

theorem checkPtrFlag_takeChunk (wellFormed : WellFormed pointerSize pool)
    (threaded : Threaded pointerSize pool memory chunks) (notFull : pool.isFull = false)
    (other : Nat) :
    (pool.takeChunk pointerSize memory).checkPtrFlag other =
      if other = pool.ptrPosition pool.nextChunk then true else pool.checkPtrFlag other := by
  obtain ⟨rest, rfl, -, -⟩ := threaded.exists_cons notFull
  have slot := ((threaded.mem_iff pool.nextChunk).mp mem_cons_self).1
  refine checkPtrFlag_updatePtrFlag _ ?_ true other
  rw [show ({ pool with
      nextChunk := memory.readPointer pointerSize pool.nextChunk
      available := pool.available - 1 } : PoolBase).flags = pool.flags from rfl,
    threaded.flags_length]
  exact lt_flagsSize (slot_ptrPosition wellFormed slot).1

/-- Positions tell elements apart. -/
theorem ptrPosition_inj (wellFormed : WellFormed pointerSize pool) {other : Nat}
    (slot : IsSlot pool address) (otherSlot : IsSlot pool other) :
    pool.ptrPosition address = pool.ptrPosition other ↔ address = other := by
  constructor
  · intro same
    rw [(slot_ptrPosition wellFormed slot).2, (slot_ptrPosition wellFormed otherSlot).2, same]
  · intro same
    rw [same]

theorem threaded_takeChunk (wellFormed : WellFormed pointerSize pool)
    (threaded : Threaded pointerSize pool memory chunks) (notFull : pool.isFull = false) :
    ∃ rest, Threaded pointerSize (pool.takeChunk pointerSize memory) memory rest := by
  obtain ⟨rest, rfl, -, further⟩ := threaded.exists_cons notFull
  have slot := ((threaded.mem_iff pool.nextChunk).mp mem_cons_self).1
  have nodup := nodup_cons.mp threaded.nodup
  refine ⟨rest, further, ?_, nodup.2, ?_, ?_⟩
  · change pool.available - 1 = rest.length
    rw [threaded.available_eq, length_cons, Nat.add_sub_cancel]
  · intro address
    change _ ↔ IsSlot pool address ∧
      (pool.takeChunk pointerSize memory).checkPtrFlag (pool.ptrPosition address) = false
    rw [checkPtrFlag_takeChunk wellFormed threaded notFull]
    have member := threaded.mem_iff address
    rw [mem_cons] at member
    constructor
    · intro inRest
      obtain ⟨otherSlot, clear⟩ := member.mp (.inr inRest)
      have different : pool.ptrPosition address ≠ pool.ptrPosition pool.nextChunk := by
        rw [ne_eq, ptrPosition_inj wellFormed otherSlot slot]
        rintro rfl
        exact nodup.1 inRest
      rw [if_neg different]
      exact ⟨otherSlot, clear⟩
    · rintro ⟨otherSlot, clear⟩
      split at clear
      · cases clear
      · rename_i different
        rcases member.mpr ⟨otherSlot, clear⟩ with rfl | inRest
        · exact absurd rfl different
        · exact inRest
  · change (pool.flags.modify _ _).length = _
    rw [length_modify]
    exact threaded.flags_length

/-- Exactly the chunk handed out becomes a valid pointer. -/
theorem isValidPointer_takeChunk (wellFormed : WellFormed pointerSize pool)
    (threaded : Threaded pointerSize pool memory chunks) (notFull : pool.isFull = false) :
    (pool.takeChunk pointerSize memory).isValidPointer address = true ↔
      address = pool.nextChunk ∨ pool.isValidPointer address = true := by
  have flag := checkPtrFlag_takeChunk wellFormed threaded notFull (pool.ptrPosition address)
  obtain ⟨rest, rfl, -, -⟩ := threaded.exists_cons notFull
  have slot := ((threaded.mem_iff pool.nextChunk).mp mem_cons_self).1
  rw [@isValidPointer_iff pointerSize (pool.takeChunk pointerSize memory) _ { wellFormed with },
    isValidPointer_iff wellFormed]
  change IsSlot pool address ∧
    (pool.takeChunk pointerSize memory).checkPtrFlag (pool.ptrPosition address) = true ↔ _
  rw [flag]
  constructor
  · rintro ⟨otherSlot, busy⟩
    split at busy
    · rename_i same
      exact .inl ((ptrPosition_inj wellFormed otherSlot slot).mp same)
    · exact .inr ⟨otherSlot, busy⟩
  · rintro (rfl | ⟨otherSlot, busy⟩)
    · exact ⟨slot, if_pos rfl⟩
    · refine ⟨otherSlot, ?_⟩
      rw [busy, ite_self]

/-- The chunk handed out was not valid before. -/
theorem not_isValidPointer_nextChunk (wellFormed : WellFormed pointerSize pool)
    (threaded : Threaded pointerSize pool memory chunks) (notFull : pool.isFull = false) :
    IsSlot pool pool.nextChunk ∧ pool.isValidPointer pool.nextChunk = false := by
  obtain ⟨rest, rfl, -, -⟩ := threaded.exists_cons notFull
  obtain ⟨slot, clear⟩ := (threaded.mem_iff pool.nextChunk).mp mem_cons_self
  refine ⟨slot, Bool.eq_false_iff.mpr ?_⟩
  rw [ne_eq, isValidPointer_iff wellFormed, clear]
  simp

/-! ## Deallocation -/

/-- The pool after a chunk was put in front of its free list. -/
def giveChunk (pool : PoolBase) (ptr : Nat) : PoolBase :=
  { pool.updatePtrFlag (pool.ptrPosition ptr) false with
    available := pool.available + 1
    nextChunk := ptr }

theorem checkPtrFlag_giveChunk (wellFormed : WellFormed pointerSize pool)
    (threaded : Threaded pointerSize pool memory chunks) (slot : IsSlot pool address)
    (other : Nat) :
    (pool.giveChunk address).checkPtrFlag other =
      if other = pool.ptrPosition address then false else pool.checkPtrFlag other := by
  refine checkPtrFlag_updatePtrFlag pool ?_ false other
  rw [threaded.flags_length]
  exact lt_flagsSize (slot_ptrPosition wellFormed slot).1

theorem threaded_giveChunk (wellFormed : WellFormed pointerSize pool)
    (threaded : Threaded pointerSize pool memory chunks)
    (valid : pool.isValidPointer address = true) :
    Threaded pointerSize (pool.giveChunk address)
      (memory.writePointer pointerSize address pool.nextChunk) (address :: chunks) := by
  obtain ⟨slot, busy⟩ := (isValidPointer_iff wellFormed).mp valid
  have absent : address ∉ chunks := by
    intro member
    rw [((threaded.mem_iff address).mp member).2] at busy
    cases busy
  have endLe := wellFormed.end_le
  have nextSmall : pool.nextChunk < 256 ^ pointerSize := by
    have positive : 0 < 256 ^ pointerSize := Nat.pow_pos (by decide)
    cases chunks with
    | nil =>
      rw [show pool.nextChunk = 0 from threaded.chain]
      exact positive
    | cons chunk rest =>
      have nextSlot := ((threaded.mem_iff chunk).mp mem_cons_self).1.bounds
      have alignedPos := wellFormed.aligned_pos
      rw [show pool.nextChunk = chunk from threaded.chain.1]
      omega
  have frame : Threaded pointerSize pool
      (memory.writePointer pointerSize address pool.nextChunk) chunks := by
    refine threaded.congr ?_
    intro chunk member other lower upper
    apply Memory.writePointer_of_outside
    have different : chunk ≠ address := by
      rintro rfl
      exact absent member
    have apart := ((threaded.mem_iff chunk).mp member).1.apart slot different
    have fits := wellFormed.pointer_le
    omega
  refine ⟨?_, ?_, ?_, ?_, ?_⟩
  · have nonzero : address ≠ 0 := by
      have lower := slot.bounds.1
      have positive := wellFormed.buffer_pos
      omega
    exact frame.chain.push nonzero (Memory.readPointer_writePointer nextSmall)
  · change pool.available + 1 = _
    rw [threaded.available_eq, length_cons]
  · exact nodup_cons.mpr ⟨absent, threaded.nodup⟩
  · intro other
    change _ ↔ IsSlot pool other ∧
      (pool.giveChunk address).checkPtrFlag (pool.ptrPosition other) = false
    rw [checkPtrFlag_giveChunk wellFormed threaded slot, mem_cons]
    constructor
    · rintro (rfl | member)
      · exact ⟨slot, if_pos rfl⟩
      · obtain ⟨otherSlot, clear⟩ := (threaded.mem_iff other).mp member
        exact ⟨otherSlot, by rw [clear, ite_self]⟩
    · rintro ⟨otherSlot, clear⟩
      split at clear
      · rename_i same
        exact .inl ((ptrPosition_inj wellFormed otherSlot slot).mp same)
      · exact .inr ((threaded.mem_iff other).mpr ⟨otherSlot, clear⟩)
  · change (pool.flags.modify _ _).length = _
    rw [length_modify]
    exact threaded.flags_length

/-- Exactly the chunk given back becomes invalid. -/
theorem isValidPointer_giveChunk (wellFormed : WellFormed pointerSize pool)
    (threaded : Threaded pointerSize pool memory chunks) (slot : IsSlot pool address)
    (other : Nat) :
    (pool.giveChunk address).isValidPointer other = true ↔
      other ≠ address ∧ pool.isValidPointer other = true := by
  rw [@isValidPointer_iff pointerSize (pool.giveChunk address) _ { wellFormed with },
    isValidPointer_iff wellFormed]
  change IsSlot pool other ∧
    (pool.giveChunk address).checkPtrFlag (pool.ptrPosition other) = true ↔ _
  rw [checkPtrFlag_giveChunk wellFormed threaded slot]
  constructor
  · rintro ⟨otherSlot, busy⟩
    split at busy
    · cases busy
    · rename_i different
      rw [ptrPosition_inj wellFormed otherSlot slot] at different
      exact ⟨different, otherSlot, busy⟩
  · rintro ⟨different, otherSlot, busy⟩
    rw [if_neg (by rwa [ptrPosition_inj wellFormed otherSlot slot])]
    exact ⟨otherSlot, busy⟩

/-! ## Initialisation -/

/-- The links run through the chunks, and nothing else is written. -/
theorem linkChunks_spec {elementAlignedSize : Nat} (fits : pointerSize ≤ elementAlignedSize)
    (positive : 0 < pointerSize) (count chunk : Nat) (memory : Memory) (nonzero : 0 < chunk)
    (small : chunk + (count + 1) * elementAlignedSize ≤ 256 ^ pointerSize) :
    Chain ((linkChunks pointerSize elementAlignedSize count chunk memory).readPointer pointerSize)
        chunk ((List.range (count + 1)).map fun index => chunk + index * elementAlignedSize) ∧
      ∀ other, other < chunk ∨ chunk + (count + 1) * elementAlignedSize ≤ other →
        linkChunks pointerSize elementAlignedSize count chunk memory other = memory other := by
  induction count generalizing chunk memory with
  | zero =>
    rw [Nat.zero_add, Nat.one_mul] at small ⊢
    constructor
    · have zero : (linkChunks pointerSize elementAlignedSize 0 chunk memory).readPointer
          pointerSize chunk = 0 :=
        Memory.readPointer_writePointer (Nat.pow_pos (by decide))
      simpa [Chain, Nat.pos_iff_ne_zero.mp nonzero] using zero
    · intro other outside
      exact Memory.writePointer_of_outside (by omega)
  | succ count ih =>
    rw [Nat.succ_mul] at small
    obtain ⟨chain, frame⟩ := ih (chunk + elementAlignedSize)
      (memory.writePointer pointerSize chunk (chunk + elementAlignedSize)) (by omega) (by omega)
    have more : elementAlignedSize ≤ (count + 1) * elementAlignedSize := by
      rw [Nat.succ_mul]
      omega
    constructor
    · have linked : (linkChunks pointerSize elementAlignedSize (count + 1) chunk
          memory).readPointer pointerSize chunk = chunk + elementAlignedSize := by
        have kept : (linkChunks pointerSize elementAlignedSize (count + 1) chunk
            memory).readPointer pointerSize chunk =
            (memory.writePointer pointerSize chunk (chunk + elementAlignedSize)).readPointer
              pointerSize chunk :=
          Memory.readPointer_congr fun other _ upper => frame other (by omega)
        rw [kept, Memory.readPointer_writePointer (by omega)]
      have chunks : ((List.range (count + 1 + 1)).map fun index =>
          chunk + index * elementAlignedSize) =
          chunk :: (List.range (count + 1)).map fun index =>
            chunk + elementAlignedSize + index * elementAlignedSize := by
        rw [range_succ_eq_map, map_cons, map_map, Nat.zero_mul]
        congr 2
        funext index
        simp only [Function.comp_apply, Nat.succ_mul]
        omega
      rw [chunks]
      refine ⟨rfl, by omega, ?_⟩
      rw [linked]
      exact chain
    · intro other outside
      rw [Nat.succ_mul] at outside
      rw [linkChunks, frame other (by omega)]
      exact Memory.writePointer_of_outside (by omega)

/-- After `initialize` all elements are free, and only the buffer was written. -/
theorem initializePool_spec (wellFormed : WellFormed pointerSize pool) (memory : Memory) :
    (∃ chunks, Threaded pointerSize (pool.initializePool pointerSize memory).1
        (pool.initializePool pointerSize memory).2 chunks) ∧
      (∀ address, (pool.initializePool pointerSize memory).1.isValidPointer address = false) ∧
      ∀ other, other < pool.buffer ∨
          pool.buffer + pool.elementCount * pool.elementAlignedSize ≤ other →
        (pool.initializePool pointerSize memory).2 other = memory other := by
  have endLe := wellFormed.end_le
  have bufferPos := wellFormed.buffer_pos
  have countPos := wellFormed.count_pos
  have enough : pool.elementCount * 1 ≤ pool.elementCount * pool.elementAlignedSize :=
    Nat.mul_le_mul_left _ wellFormed.aligned_pos
  have loops : (pool.elementCount + 256 ^ pointerSize - 1) % 256 ^ pointerSize =
      pool.elementCount - 1 := by
    rw [show pool.elementCount + 256 ^ pointerSize - 1 =
      pool.elementCount - 1 + 256 ^ pointerSize by omega, Nat.add_mod_right]
    exact Nat.mod_eq_of_lt (by omega)
  have count : pool.elementCount - 1 + 1 = pool.elementCount := by omega
  obtain ⟨chain, frame⟩ := linkChunks_spec wellFormed.pointer_le wellFormed.pointer_pos
    (pool.elementCount - 1) pool.buffer
    (memory.fill pool.buffer (pool.elementAlignedSize * pool.elementCount) 0) bufferPos
    (by rw [count]; exact endLe)
  rw [count] at chain frame
  have clear : ∀ position,
      (pool.initializePool pointerSize memory).1.checkPtrFlag position = false := by
    intro position
    rw [checkPtrFlag_eq]
    simp only [initializePool, getD_eq_getElem?_getD, List.getElem?_replicate]
    split <;> simp
  refine ⟨⟨(List.range pool.elementCount).map fun index =>
    pool.buffer + index * pool.elementAlignedSize, ?_, ?_, ?_, ?_, ?_⟩, ?_, ?_⟩
  · simp only [initializePool, loops]
    exact chain
  · simp [initializePool]
  · refine nodup_range.map_on ?_
    intro index _ other _ same
    exact Nat.eq_of_mul_eq_mul_right wellFormed.aligned_pos (by omega)
  · intro address
    rw [clear, mem_map]
    constructor
    · rintro ⟨index, inside, rfl⟩
      exact ⟨⟨index, mem_range.mp inside, rfl⟩, rfl⟩
    · rintro ⟨⟨index, inside, rfl⟩, -⟩
      exact ⟨index, mem_range.mpr inside, rfl⟩
  · simp [initializePool]
  · intro address
    refine Bool.eq_false_iff.mpr ?_
    rw [ne_eq, @isValidPointer_iff pointerSize
      (pool.initializePool pointerSize memory).1 _ { wellFormed with }, clear]
    simp
  · intro other outside
    simp only [initializePool, loops]
    rw [frame other outside]
    exact Memory.fill_of_outside (by rw [Nat.mul_comm pool.elementAlignedSize]; exact outside)

end OpenBsw.Middleware.PoolBase
