import OpenBsw.Middleware.Memory.FreeList

/-!
# Allocator over several pools

The aggregator tries its pools in order: for an allocation until one returns an
element, for a deallocation until one accepts the pointer.  The base allocator
on top keeps the reference counter of a shared block in the byte behind the
payload.  Its lock and its statistics are left out.
-/

namespace OpenBsw.Middleware

open List

/-- The pools and the memory their buffers lie in. -/
structure Aggregator where
  pools : List PoolBase
  memory : Memory

namespace Aggregator

/-- `TryDo::initialize`. -/
def initializePools (pointerSize : Nat) : List PoolBase → Memory → List PoolBase × Memory
  | [], memory => ([], memory)
  | pool :: rest, memory =>
    let first := pool.initializePool pointerSize memory
    let others := initializePools pointerSize rest first.2
    (first.1 :: others.1, others.2)

/-- The constructor, for pools that are placed in a memory. -/
def construct (pointerSize : Nat) (pools : List PoolBase) (memory : Memory) : Aggregator :=
  let initialized := initializePools pointerSize pools memory
  { pools := initialized.1, memory := initialized.2 }

/-- `TryDo::allocate`. -/
def tryAllocate (pointerSize : Nat) (memory : Memory) (size : Nat) :
    List PoolBase → Nat × List PoolBase
  | [] => (0, [])
  | pool :: rest =>
    let result := pool.allocate pointerSize memory size
    if result.1 ≠ 0 then (result.1, result.2 :: rest)
    else
      let others := tryAllocate pointerSize memory size rest
      (others.1, result.2 :: others.2)

/-- `TryDo::deallocate`. -/
def tryDeallocate (pointerSize : Nat) (memory : Memory) (ptr : Nat) :
    List PoolBase → List PoolBase × Memory
  | [] => ([], memory)
  | pool :: rest =>
    match pool.deallocate pointerSize memory ptr with
    | some (changed, written) => (changed :: rest, written)
    | none =>
      let others := tryDeallocate pointerSize memory ptr rest
      (pool :: others.1, others.2)

def isPtrValid (aggregator : Aggregator) (ptr : Nat) : Bool :=
  aggregator.pools.any fun pool => pool.isValidPointer ptr

def allocateImpl (pointerSize : Nat) (aggregator : Aggregator) (size : UInt32) :
    Nat × Aggregator :=
  if size ≠ 0 then
    let result := tryAllocate pointerSize aggregator.memory size.toNat aggregator.pools
    (result.1, { aggregator with pools := result.2 })
  else (0, aggregator)

def deallocateImpl (pointerSize : Nat) (aggregator : Aggregator) (ptr : Nat) : Aggregator :=
  let result := tryDeallocate pointerSize aggregator.memory ptr aggregator.pools
  { pools := result.1, memory := result.2 }

/-! ## The base allocator -/

def allocate (pointerSize : Nat) (aggregator : Aggregator) (payloadSize : UInt32) :
    Nat × Aggregator :=
  aggregator.allocateImpl pointerSize payloadSize

def allocateShared (pointerSize : Nat) (aggregator : Aggregator) (payloadSize : UInt32)
    (referenceCounter : UInt8) : Nat × Aggregator :=
  -- The sum is passed on as a 32-bit size.
  let result := aggregator.allocateImpl pointerSize (payloadSize + 1)
  if result.1 ≠ 0 then
    (result.1, { result.2 with
      memory := result.2.memory.store (result.1 + payloadSize.toNat) referenceCounter })
  else result

def deallocate (pointerSize : Nat) (aggregator : Aggregator) (ptr : Nat) : Bool × Aggregator :=
  if aggregator.isPtrValid ptr then (true, aggregator.deallocateImpl pointerSize ptr)
  else (false, aggregator)

def deallocateShared (pointerSize : Nat) (aggregator : Aggregator) (ptr : Nat)
    (payloadSize : UInt32) : Bool × Aggregator :=
  if aggregator.isPtrValid ptr then
    let referenceCounter := aggregator.memory (ptr + payloadSize.toNat)
    if referenceCounter > 1 then
      (true, { aggregator with
        memory := aggregator.memory.store (ptr + payloadSize.toNat) (referenceCounter - 1) })
    else (true, aggregator.deallocateImpl pointerSize ptr)
  else (false, aggregator)

/-! ## Pools in a memory -/

/-- The buffers of two pools do not overlap. -/
def Apart (pool other : PoolBase) : Prop :=
  pool.buffer + pool.elementCount * pool.elementAlignedSize ≤ other.buffer ∨
    other.buffer + other.elementCount * other.elementAlignedSize ≤ pool.buffer

instance : Std.Symm Apart where
  symm _ _ := Or.symm

/-- Pools as they can be placed. -/
structure Placed (pointerSize : Nat) (pools : List PoolBase) : Prop where
  wellFormed : ∀ pool ∈ pools, pool.WellFormed pointerSize
  apart : pools.Pairwise Apart

/-- Placed pools with their free lists. -/
structure Ready (pointerSize : Nat) (aggregator : Aggregator) : Prop
    extends Placed pointerSize aggregator.pools where
  threaded : ∀ pool ∈ aggregator.pools, ∃ chunks,
    PoolBase.Threaded pointerSize pool aggregator.memory chunks

variable {pointerSize : Nat} {aggregator : Aggregator} {pools : List PoolBase}

/-- Elements of the pools are equal or do not overlap. -/
theorem Placed.slots_apart (placed : Placed pointerSize pools) {pool other : PoolBase}
    (member : pool ∈ pools) (otherMember : other ∈ pools) {address otherAddress : Nat}
    (slot : PoolBase.IsSlot pool address) (otherSlot : PoolBase.IsSlot other otherAddress) :
    (pool = other ∧ address = otherAddress) ∨
      address + pool.elementAlignedSize ≤ otherAddress ∨
      otherAddress + other.elementAlignedSize ≤ address := by
  by_cases samePool : pool = other
  · subst samePool
    by_cases same : address = otherAddress
    · exact .inl ⟨rfl, same⟩
    · exact .inr (slot.apart otherSlot same)
  · have apart := placed.apart.forall member otherMember samePool
    have bounds := slot.bounds
    have otherBounds := otherSlot.bounds
    rw [Apart] at apart
    omega

/-- A pointer belongs to one pool. -/
theorem Placed.slot_unique (placed : Placed pointerSize pools) {pool other : PoolBase}
    (member : pool ∈ pools) (otherMember : other ∈ pools) {address : Nat}
    (slot : PoolBase.IsSlot pool address) (otherSlot : PoolBase.IsSlot other address) :
    pool = other := by
  have positive := (placed.wellFormed pool member).aligned_pos
  have otherPositive := (placed.wellFormed other otherMember).aligned_pos
  rcases placed.slots_apart member otherMember slot otherSlot with same | apart
  · exact same.1
  · omega

theorem isPtrValid_iff {ptr : Nat} :
    aggregator.isPtrValid ptr = true ↔
      ∃ pool ∈ aggregator.pools, pool.isValidPointer ptr = true := by
  rw [isPtrValid, any_eq_true]

/-- The places of the pools stay the same when one of them changes its state. -/
theorem Placed.replace {before after : List PoolBase} {pool changed : PoolBase}
    (placed : Placed pointerSize (before ++ pool :: after))
    (wellFormed : changed.WellFormed pointerSize)
    (apart : ∀ other, (Apart other pool → Apart other changed) ∧
      (Apart pool other → Apart changed other)) :
    Placed pointerSize (before ++ changed :: after) := by
  have pairs := placed.apart
  rw [pairwise_append, pairwise_cons] at pairs
  constructor
  · intro other member
    rcases mem_append.mp member with inBefore | inAfter
    · exact placed.wellFormed other (mem_append_left _ inBefore)
    rcases mem_cons.mp inAfter with rfl | inAfter
    · exact wellFormed
    · exact placed.wellFormed other (mem_append_right _ (mem_cons_of_mem _ inAfter))
  · rw [pairwise_append, pairwise_cons]
    refine ⟨pairs.1, ⟨fun other member => (apart other).2 (pairs.2.1.1 other member),
      pairs.2.1.2⟩, ?_⟩
    intro first inBefore second inAfter
    rcases mem_cons.mp inAfter with rfl | inAfter
    · exact (apart first).1 (pairs.2.2 first inBefore pool mem_cons_self)
    · exact pairs.2.2 first inBefore second (mem_cons_of_mem _ inAfter)

/-- A write outside all free elements keeps the free lists. -/
theorem Ready.write (ready : Ready pointerSize aggregator) {memory : Memory}
    (same : ∀ pool ∈ aggregator.pools, ∀ chunk, PoolBase.IsSlot pool chunk →
      pool.isValidPointer chunk = false →
      ∀ other, chunk ≤ other → other < chunk + pool.elementAlignedSize →
        memory other = aggregator.memory other) :
    Ready pointerSize { aggregator with memory } := by
  refine { ready with threaded := ?_ }
  intro pool member
  obtain ⟨chunks, threaded⟩ := ready.threaded pool member
  refine ⟨chunks, threaded.congr ?_⟩
  intro chunk inChunks other lower upper
  obtain ⟨slot, clear⟩ := (threaded.mem_iff chunk).mp inChunks
  have wellFormed := ready.wellFormed pool member
  have invalid : pool.isValidPointer chunk = false := by
    refine Bool.eq_false_iff.mpr ?_
    rw [ne_eq, PoolBase.isValidPointer_iff wellFormed, clear]
    simp
  have fits := wellFormed.pointer_le
  exact same pool member chunk slot invalid other lower (by omega)

/-! ## Initialisation -/

theorem initializePools_spec (placed : Placed pointerSize pools) (memory : Memory) :
    Ready pointerSize (construct pointerSize pools memory) ∧
      (∀ ptr, (construct pointerSize pools memory).isPtrValid ptr = false) ∧
      (∀ changed ∈ (construct pointerSize pools memory).pools, ∃ pool ∈ pools,
        changed.buffer = pool.buffer ∧ changed.elementCount = pool.elementCount ∧
          changed.elementAlignedSize = pool.elementAlignedSize) ∧
      ∀ other, (∀ pool ∈ pools, other < pool.buffer ∨
          pool.buffer + pool.elementCount * pool.elementAlignedSize ≤ other) →
        (construct pointerSize pools memory).memory other = memory other := by
  induction pools generalizing memory with
  | nil =>
    refine ⟨{ wellFormed := ?_, apart := .nil, threaded := ?_ }, fun _ => rfl, ?_, fun _ _ => rfl⟩
    all_goals
      intro pool member
      cases member
  | cons pool rest ih =>
    have wellFormed := placed.wellFormed pool mem_cons_self
    have pairs := pairwise_cons.mp placed.apart
    obtain ⟨⟨chunks, threaded⟩, invalid, frame⟩ :=
      PoolBase.initializePool_spec wellFormed memory
    obtain ⟨ready, othersInvalid, same, othersFrame⟩ := ih
      ⟨fun other member => placed.wellFormed other (mem_cons_of_mem _ member), pairs.2⟩
      (pool.initializePool pointerSize memory).2
    have apart : ∀ other ∈ rest, Apart pool other := pairs.1
    refine ⟨{ wellFormed := ?_, apart := ?_, threaded := ?_ }, ?_, ?_, ?_⟩
    · intro other member
      rcases mem_cons.mp member with rfl | inRest
      · exact { wellFormed with }
      · exact ready.wellFormed other inRest
    · refine pairwise_cons.mpr ⟨?_, ready.apart⟩
      intro other inRest
      obtain ⟨original, inside, buffer, count, aligned⟩ := same other inRest
      have originalApart := apart original inside
      rw [Apart] at originalApart ⊢
      rw [buffer, count, aligned]
      exact originalApart
    · intro other member
      rcases mem_cons.mp member with rfl | inRest
      · refine ⟨chunks, threaded.congr ?_⟩
        intro chunk inChunks address lower upper
        have bounds := ((threaded.mem_iff chunk).mp inChunks).1.bounds
        have fits := wellFormed.pointer_le
        refine othersFrame address fun original inside => ?_
        have originalApart := apart original inside
        rw [Apart] at originalApart
        change pool.buffer ≤ chunk ∧ chunk + pool.elementAlignedSize ≤
          pool.buffer + pool.elementCount * pool.elementAlignedSize at bounds
        omega
      · exact ready.threaded other inRest
    · intro ptr
      have others := othersInvalid ptr
      simp only [isPtrValid, construct, initializePools, any_cons] at others ⊢
      rw [invalid, others]
      rfl
    · intro changed member
      rcases mem_cons.mp member with rfl | inRest
      · exact ⟨pool, mem_cons_self, rfl, rfl, rfl⟩
      · obtain ⟨original, inside, shape⟩ := same changed inRest
        exact ⟨original, mem_cons_of_mem _ inside, shape⟩
    · intro other outside
      refine (othersFrame other fun original inside =>
        outside original (mem_cons_of_mem _ inside)).trans ?_
      exact frame other (outside pool mem_cons_self)

/-! ## Effects of the operations -/

/-- One pool gave its first free chunk, or none could. -/
theorem tryAllocate_cases {memory : Memory} {size : Nat} (pools : List PoolBase)
    (threaded : ∀ pool ∈ pools, ∃ chunks, PoolBase.Threaded pointerSize pool memory chunks) :
    (tryAllocate pointerSize memory size pools = (0, pools) ∧
        ∀ pool ∈ pools, size ≤ pool.elementSize → pool.isFull = true) ∨
      ∃ before pool after, pools = before ++ pool :: after ∧ size ≤ pool.elementSize ∧
        pool.isFull = false ∧ tryAllocate pointerSize memory size pools =
          (pool.nextChunk, before ++ pool.takeChunk pointerSize memory :: after) := by
  induction pools with
  | nil => exact .inl ⟨rfl, by simp⟩
  | cons pool rest ih =>
    by_cases free : size ≤ pool.elementSize ∧ ¬pool.isFull = true
    · have notFull : pool.isFull = false := Bool.eq_false_iff.mpr free.2
      obtain ⟨chunks, poolThreaded⟩ := threaded pool mem_cons_self
      obtain ⟨_, _, nonzero, _⟩ := poolThreaded.exists_cons notFull
      refine .inr ⟨[], pool, rest, rfl, free.1, notFull, ?_⟩
      have taken : pool.allocate pointerSize memory size =
          (pool.nextChunk, pool.takeChunk pointerSize memory) := if_pos free
      simp only [tryAllocate, taken, if_pos nonzero, nil_append]
    · have refused : pool.allocate pointerSize memory size = (0, pool) := if_neg free
      have further := ih fun other member => threaded other (mem_cons_of_mem _ member)
      rcases further with ⟨result, full⟩ | ⟨before, other, after, rfl, fits, notFull, result⟩
      · refine .inl ⟨?_, ?_⟩
        · simp only [tryAllocate, refused, result, ne_eq, not_true_eq_false, if_false]
        · intro other member fits
          rcases mem_cons.mp member with rfl | inRest
          · by_contra notFull
            exact free ⟨fits, notFull⟩
          · exact full other inRest fits
      · refine .inr ⟨pool :: before, other, after, rfl, fits, notFull, ?_⟩
        simp only [tryAllocate, refused, result, ne_eq, not_true_eq_false, if_false,
          cons_append]

/-- The pool of a valid pointer takes the chunk back. -/
theorem tryDeallocate_eq {memory : Memory} {ptr : Nat} {pools : List PoolBase}
    (valid : ∃ pool ∈ pools, pool.isValidPointer ptr = true) :
    ∃ before pool after, pools = before ++ pool :: after ∧ pool.isValidPointer ptr = true ∧
      tryDeallocate pointerSize memory ptr pools =
        (before ++ pool.giveChunk ptr :: after,
          memory.writePointer pointerSize ptr pool.nextChunk) := by
  induction pools with
  | nil => simp at valid
  | cons pool rest ih =>
    cases poolValid : pool.isValidPointer ptr with
    | true =>
      refine ⟨[], pool, rest, rfl, poolValid, ?_⟩
      simp only [tryDeallocate, PoolBase.deallocate, poolValid, if_true, nil_append]
      rfl
    | false =>
      obtain ⟨other, member, otherValid⟩ := valid
      have inRest : other ∈ rest := by
        rcases mem_cons.mp member with rfl | inRest
        · rw [poolValid] at otherValid
          cases otherValid
        · exact inRest
      obtain ⟨before, found, after, rfl, foundValid, result⟩ := ih ⟨other, inRest, otherValid⟩
      refine ⟨pool :: before, found, after, rfl, foundValid, ?_⟩
      simp only [tryDeallocate, PoolBase.deallocate, poolValid, Bool.false_eq_true, if_false,
        cons_append]
      exact Prod.ext (by rw [result]) (by rw [result])

/-- An element of the pools with room for some bytes starts at this address. -/
def Fits (pools : List PoolBase) (address bytes : Nat) : Prop :=
  ∃ pool ∈ pools, PoolBase.IsSlot pool address ∧ bytes ≤ pool.elementSize

/-- Two live elements do not overlap. -/
theorem Placed.fits_apart (placed : Placed pointerSize pools) {address other bytes otherBytes : Nat}
    (fits : Fits pools address bytes) (otherFits : Fits pools other otherBytes)
    (different : address ≠ other) : address + bytes ≤ other ∨ other + otherBytes ≤ address := by
  obtain ⟨pool, member, slot, le⟩ := fits
  obtain ⟨otherPool, otherMember, otherSlot, otherLe⟩ := otherFits
  have sizeLe := (placed.wellFormed pool member).size_le
  have otherSizeLe := (placed.wellFormed otherPool otherMember).size_le
  rcases placed.slots_apart member otherMember slot otherSlot with same | apart
  · exact absurd same.2 different
  · omega

theorem fits_replace {before after : List PoolBase} {pool changed : PoolBase}
    (slots : ∀ address, PoolBase.IsSlot changed address ↔ PoolBase.IsSlot pool address)
    (size : changed.elementSize = pool.elementSize) (address bytes : Nat) :
    Fits (before ++ changed :: after) address bytes ↔
      Fits (before ++ pool :: after) address bytes := by
  simp only [Fits, mem_append, mem_cons, or_and_right, exists_or, exists_eq_left, slots,
    size]

/-- An element was handed out: it was free before and is valid now. -/
structure Taken (pointerSize : Nat) (source target : Aggregator) (ptr bytes : Nat) : Prop where
  ready : Ready pointerSize target
  memory_eq : target.memory = source.memory
  nonzero : ptr ≠ 0
  fits : Fits source.pools ptr bytes
  unused : source.isPtrValid ptr = false
  valid_iff : ∀ address, target.isPtrValid address = true ↔
    address = ptr ∨ source.isPtrValid address = true
  fits_iff : ∀ address bytes, Fits target.pools address bytes ↔ Fits source.pools address bytes

/-- An element was given back: only its own bytes were written. -/
structure Given (pointerSize : Nat) (source target : Aggregator) (ptr : Nat) : Prop where
  ready : Ready pointerSize target
  frame : ∀ other, (∀ pool ∈ source.pools, PoolBase.IsSlot pool ptr →
    other < ptr ∨ ptr + pool.elementAlignedSize ≤ other) →
    target.memory other = source.memory other
  valid_iff : ∀ address, target.isPtrValid address = true ↔
    address ≠ ptr ∧ source.isPtrValid address = true
  fits_iff : ∀ address bytes, Fits target.pools address bytes ↔ Fits source.pools address bytes

/-- An allocation of some bytes takes an element, or all pools that have large
enough ones are full. -/
theorem Ready.allocateImpl_cases (ready : Ready pointerSize aggregator) {size : UInt32}
    (nonzero : size ≠ 0) :
    (aggregator.allocateImpl pointerSize size = (0, aggregator) ∧
        ∀ pool ∈ aggregator.pools, size.toNat ≤ pool.elementSize → pool.isFull = true) ∨
      Taken pointerSize aggregator (aggregator.allocateImpl pointerSize size).2
        (aggregator.allocateImpl pointerSize size).1 size.toNat := by
  have cases := @tryAllocate_cases pointerSize aggregator.memory size.toNat aggregator.pools
    ready.threaded
  rcases cases with ⟨result, full⟩ | ⟨before, pool, after, poolsEq, fits, notFull, result⟩
  · refine .inl ⟨?_, full⟩
    rw [allocateImpl, if_pos nonzero, result]
  · right
    have allocated : aggregator.allocateImpl pointerSize size =
        (pool.nextChunk, { aggregator with
          pools := before ++ pool.takeChunk pointerSize aggregator.memory :: after }) := by
      rw [allocateImpl, if_pos nonzero, result]
    rw [allocated]
    have member : pool ∈ aggregator.pools := by simp [poolsEq]
    have wellFormed := ready.wellFormed pool member
    obtain ⟨chunks, threaded⟩ := ready.threaded pool member
    obtain ⟨slot, unused⟩ := PoolBase.not_isValidPointer_nextChunk wellFormed threaded notFull
    obtain ⟨rest, _, nextNonzero, _⟩ := threaded.exists_cons notFull
    have placed : Placed pointerSize (before ++ pool :: after) := poolsEq ▸ ready.toPlaced
    have changed : Placed pointerSize
        (before ++ pool.takeChunk pointerSize aggregator.memory :: after) :=
      placed.replace { wellFormed with } fun _ => ⟨id, id⟩
    refine ⟨⟨changed, ?_⟩, rfl, nextNonzero, ⟨pool, member, slot, fits⟩, ?_, ?_, ?_⟩
    · intro other inside
      rcases mem_append.mp inside with inBefore | inAfter
      · exact ready.threaded other (by simp [poolsEq, inBefore])
      rcases mem_cons.mp inAfter with rfl | inAfter
      · exact PoolBase.threaded_takeChunk wellFormed threaded notFull
      · exact ready.threaded other (by simp [poolsEq, inAfter])
    · refine Bool.eq_false_iff.mpr fun valid => ?_
      obtain ⟨owner, inside, ownerValid⟩ := isPtrValid_iff.mp valid
      have ownerSlot := ((PoolBase.isValidPointer_iff (ready.wellFormed owner inside)).mp
        ownerValid).1
      rw [ready.slot_unique inside member ownerSlot slot, unused] at ownerValid
      cases ownerValid
    · intro address
      simp only [isPtrValid, poolsEq, any_append, any_cons, Bool.or_eq_true,
        PoolBase.isValidPointer_takeChunk wellFormed threaded notFull]
      tauto
    · intro address bytes
      rw [poolsEq]
      change
        Fits (before ++ pool.takeChunk pointerSize aggregator.memory :: after) address bytes ↔ _
      apply fits_replace
      · exact fun _ => .rfl
      · rfl

/-- A valid pointer is given back. -/
theorem Ready.deallocateImpl_given (ready : Ready pointerSize aggregator) {ptr : Nat}
    (valid : aggregator.isPtrValid ptr = true) :
    Given pointerSize aggregator (aggregator.deallocateImpl pointerSize ptr) ptr := by
  obtain ⟨before, pool, after, poolsEq, poolValid, result⟩ :=
    @tryDeallocate_eq pointerSize aggregator.memory _ _
      (isPtrValid_iff.mp valid)
  rw [deallocateImpl, result]
  have member : pool ∈ aggregator.pools := by simp [poolsEq]
  have wellFormed := ready.wellFormed pool member
  obtain ⟨chunks, threaded⟩ := ready.threaded pool member
  obtain ⟨slot, busy⟩ := (PoolBase.isValidPointer_iff wellFormed).mp poolValid
  have placed : Placed pointerSize (before ++ pool :: after) := poolsEq ▸ ready.toPlaced
  have written : ∀ other, other < ptr ∨ ptr + pool.elementAlignedSize ≤ other →
      aggregator.memory.writePointer pointerSize ptr pool.nextChunk other =
        aggregator.memory other := by
    intro other outside
    have fits := wellFormed.pointer_le
    exact Memory.writePointer_of_outside (by omega)
  have pairs := ready.apart
  rw [poolsEq, pairwise_append, pairwise_cons] at pairs
  have kept : ∀ other ∈ aggregator.pools, Apart pool other →
      ∃ chunks, PoolBase.Threaded pointerSize other
        (aggregator.memory.writePointer pointerSize ptr pool.nextChunk) chunks := by
    intro other inside apart
    obtain ⟨otherChunks, otherThreaded⟩ := ready.threaded other inside
    refine ⟨otherChunks, otherThreaded.congr ?_⟩
    intro chunk inChunks address lower upper
    have bounds := ((otherThreaded.mem_iff chunk).mp inChunks).1.bounds
    have slotBounds := slot.bounds
    have fits := (ready.wellFormed other inside).pointer_le
    rw [Apart] at apart
    exact written address (by omega)
  have othersInvalid : ∀ other ∈ aggregator.pools, Apart pool other →
      other.isValidPointer ptr = false := by
    intro other inside apart
    refine Bool.eq_false_iff.mpr fun otherValid => ?_
    have otherSlot := ((PoolBase.isValidPointer_iff (ready.wellFormed other inside)).mp
      otherValid).1
    have bounds := slot.bounds
    have otherBounds := otherSlot.bounds
    have positive := wellFormed.aligned_pos
    have otherPositive := (ready.wellFormed other inside).aligned_pos
    rw [Apart] at apart
    omega
  have inBefore : ∀ other ∈ before, other ∈ aggregator.pools ∧ Apart pool other :=
    fun other inside => ⟨by simp [poolsEq, inside],
      Or.symm (pairs.2.2 other inside pool mem_cons_self)⟩
  have inAfter : ∀ other ∈ after, other ∈ aggregator.pools ∧ Apart pool other :=
    fun other inside => ⟨by simp [poolsEq, inside], pairs.2.1.1 other inside⟩
  have changed : Placed pointerSize (before ++ pool.giveChunk ptr :: after) :=
    placed.replace { wellFormed with } fun _ => ⟨id, id⟩
  refine ⟨⟨changed, ?_⟩, ?_, ?_, ?_⟩
  · intro other inside
    rcases mem_append.mp inside with first | second
    · exact kept other (inBefore other first).1 (inBefore other first).2
    rcases mem_cons.mp second with rfl | second
    · exact ⟨_, PoolBase.threaded_giveChunk wellFormed threaded poolValid⟩
    · exact kept other (inAfter other second).1 (inAfter other second).2
  · exact fun other outside => written other (outside pool member slot)
  · intro address
    have others : ∀ other ∈ aggregator.pools, Apart pool other →
        other.isValidPointer address = true → address ≠ ptr := by
      rintro other inside apart otherValid rfl
      rw [othersInvalid other inside apart] at otherValid
      cases otherValid
    simp only [isPtrValid, poolsEq, any_eq_true, mem_append, mem_cons, or_and_right,
      exists_or, exists_eq_left, PoolBase.isValidPointer_giveChunk wellFormed threaded slot]
    constructor
    · rintro (⟨other, inside, otherValid⟩ | ⟨different, poolStays⟩ | ⟨other, inside, otherValid⟩)
      · exact ⟨others other (inBefore other inside).1 (inBefore other inside).2 otherValid,
          .inl ⟨other, inside, otherValid⟩⟩
      · exact ⟨different, .inr (.inl poolStays)⟩
      · exact ⟨others other (inAfter other inside).1 (inAfter other inside).2 otherValid,
          .inr (.inr ⟨other, inside, otherValid⟩)⟩
    · rintro ⟨different, first | poolStays | second⟩
      · exact .inl first
      · exact .inr (.inl ⟨different, poolStays⟩)
      · exact .inr (.inr second)
  · intro address bytes
    rw [poolsEq]
    change Fits (before ++ pool.giveChunk ptr :: after) address bytes ↔ _
    apply fits_replace
    · exact fun _ => .rfl
    · rfl

/-- A byte of a valid element can be written. -/
theorem Ready.store_valid (ready : Ready pointerSize aggregator) {ptr offset : Nat}
    (valid : aggregator.isPtrValid ptr = true) (fits : Fits aggregator.pools ptr (offset + 1))
    (byte : UInt8) :
    Ready pointerSize
      { aggregator with memory := aggregator.memory.store (ptr + offset) byte } := by
  obtain ⟨owner, ownerIn, ownerValid⟩ := isPtrValid_iff.mp valid
  obtain ⟨pool, member, slot, le⟩ := fits
  have sizeLe := (ready.wellFormed pool member).size_le
  have ownerSlot := ((PoolBase.isValidPointer_iff (ready.wellFormed owner ownerIn)).mp
    ownerValid).1
  refine ready.write ?_
  intro other otherIn chunk chunkSlot invalid address lower upper
  apply Memory.store_of_ne
  rcases ready.slots_apart member otherIn slot chunkSlot with ⟨rfl, rfl⟩ | apart
  · rw [ready.slot_unique ownerIn member ownerSlot slot, invalid] at ownerValid
    cases ownerValid
  · omega

end Aggregator

end OpenBsw.Middleware
