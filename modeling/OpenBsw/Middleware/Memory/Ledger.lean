import OpenBsw.Middleware.Memory.Aggregator
import OpenBsw.Transition.System

/-!
# Ledger of the allocated blocks

The purpose of the allocator: a ledger of live blocks, each with the size that
was asked for and the number of its owners.  The ledger is kept from the calls
alone; the allocator agrees with it in every run.
-/

namespace OpenBsw.Middleware

open List

/-- A live block.  A shared one has a number of owners, some of which already
released it. -/
structure Block where
  address : Nat
  size : UInt32
  owners : Option UInt8
  released : Nat
  deriving DecidableEq, Repr

namespace Block

/-- The payload, and the reference counter of a shared block. -/
def bytes (block : Block) : Nat :=
  block.size.toNat + if block.owners.isSome then 1 else 0

/-- Does the next release end the block? -/
def isLast (block : Block) : Bool :=
  match block.owners with
  | some owners => owners.toNat ≤ block.released + 1
  | none => true

/-- Two blocks do not overlap. -/
def Apart (block other : Block) : Prop :=
  block.address + block.bytes ≤ other.address ∨ other.address + other.bytes ≤ block.address

instance (block other : Block) : Decidable (Apart block other) :=
  inferInstanceAs (Decidable (_ ∨ _))

end Block

namespace Ledger

def free (live : List Block) (ptr : Nat) : List Block :=
  live.filter fun block => block.address ≠ ptr

/-- One owner releases a block; the last one frees it. -/
def release (live : List Block) (ptr : Nat) : List Block :=
  if live.any fun block => block.address = ptr ∧ block.isLast then free live ptr
  else live.map fun block =>
    if block.address = ptr then { block with released := block.released + 1 } else block

end Ledger

/-! ## Runs -/

inductive AllocatorCall
  | allocate (payloadSize : UInt32)
  | allocateShared (payloadSize : UInt32) (referenceCounter : UInt8)
  | deallocate (ptr : Nat)
  | deallocateShared (ptr : Nat) (payloadSize : UInt32)
  /-- The owner of a block writes a byte of its payload. -/
  | write (ptr offset : Nat) (byte : UInt8)

structure AllocatorRun where
  aggregator : Aggregator
  live : List Block

namespace AllocatorRun

/-- Enter the block of a successful allocation. -/
def enter (run : AllocatorRun) (result : Nat × Aggregator) (size : UInt32)
    (owners : Option UInt8) : AllocatorRun :=
  { aggregator := result.2
    live :=
      if result.1 = 0 then run.live
      else { address := result.1, size, owners, released := 0 } :: run.live }

def apply (pointerSize : Nat) (run : AllocatorRun) : AllocatorCall → AllocatorRun
  | .allocate payloadSize =>
    run.enter (run.aggregator.allocate pointerSize payloadSize) payloadSize none
  | .allocateShared payloadSize referenceCounter =>
    run.enter (run.aggregator.allocateShared pointerSize payloadSize referenceCounter)
      payloadSize (some referenceCounter)
  | .deallocate ptr =>
    { aggregator := (run.aggregator.deallocate pointerSize ptr).2
      live := Ledger.free run.live ptr }
  | .deallocateShared ptr payloadSize =>
    { aggregator := (run.aggregator.deallocateShared pointerSize ptr payloadSize).2
      live := Ledger.release run.live ptr }
  | .write ptr offset byte =>
    { run with aggregator :=
      { run.aggregator with memory := run.aggregator.memory.store (ptr + offset) byte } }

/-- The owner of a shared block releases it with its own size, and owners write
their payload only.  Pointers that are no live blocks are arbitrary. -/
def Allowed (run : AllocatorRun) : AllocatorCall → Prop
  | .deallocateShared ptr payloadSize =>
    ∀ block ∈ run.live, block.address = ptr →
      block.owners.isSome = true ∧ block.size = payloadSize
  | .write ptr offset _ => ∃ block ∈ run.live, block.address = ptr ∧ offset < block.size.toNat
  | .allocate _ | .allocateShared _ _ | .deallocate _ => True

/-- Any calls on an allocator over any pools. -/
def system (pointerSize : Nat) : Transition.System AllocatorRun AllocatorCall where
  Initial run := ∃ pools memory, Aggregator.Placed pointerSize pools ∧
    run = { aggregator := Aggregator.construct pointerSize pools memory, live := [] }
  Step source call target := source.Allowed call ∧ target = source.apply pointerSize call

/-- The allocator agrees with the ledger. -/
structure Agrees (pointerSize : Nat) (run : AllocatorRun) : Prop where
  ready : run.aggregator.Ready pointerSize
  distinct : (run.live.map Block.address).Nodup
  valid_iff : ∀ ptr, run.aggregator.isPtrValid ptr = true ↔
    ptr ∈ run.live.map Block.address
  nonzero : ∀ block ∈ run.live, block.address ≠ 0
  fits : ∀ block ∈ run.live, Aggregator.Fits run.aggregator.pools block.address block.bytes
  counted : ∀ block ∈ run.live, ∀ owners, block.owners = some owners →
    (run.aggregator.memory (block.address + block.size.toNat)).toNat + block.released =
        owners.toNat ∧ (block.released = 0 ∨ block.released < owners.toNat)

variable {pointerSize : Nat} {run : AllocatorRun}

theorem agrees_construct {pools : List PoolBase} (placed : Aggregator.Placed pointerSize pools)
    (memory : Memory) :
    Agrees pointerSize
      { aggregator := Aggregator.construct pointerSize pools memory, live := [] } := by
  obtain ⟨ready, invalid, -, -⟩ := Aggregator.initializePools_spec placed memory
  refine ⟨ready, nodup_nil, ?_, by simp, by simp, by simp⟩
  intro ptr
  rw [invalid]
  simp

/-- Blocks are told apart by their addresses. -/
theorem Agrees.eq_of_address (agrees : Agrees pointerSize run) {block other : Block}
    (member : block ∈ run.live) (otherMember : other ∈ run.live)
    (same : block.address = other.address) : block = other :=
  inj_on_of_nodup_map agrees.distinct member otherMember same

/-- The reference counter of a block lies outside every other block. -/
theorem Agrees.counter_outside (agrees : Agrees pointerSize run) {block : Block}
    (member : block ∈ run.live) (shared : block.owners.isSome = true) {address bytes : Nat}
    (fits : Aggregator.Fits run.aggregator.pools address bytes)
    (different : block.address ≠ address) :
    block.address + block.size.toNat < address ∨
      address + bytes ≤ block.address + block.size.toNat := by
  have apart := agrees.ready.fits_apart (agrees.fits block member) fits different
  rw [Block.bytes, if_pos shared] at apart
  omega

/-- A new block is entered; only its own bytes may have been written. -/
theorem Agrees.enter (agrees : Agrees pointerSize run) {target : Aggregator} {block : Block}
    {memory : Memory}
    (taken : Aggregator.Taken pointerSize run.aggregator target block.address block.bytes)
    (ready : Aggregator.Ready pointerSize { target with memory })
    (frame : ∀ other, other < block.address ∨ block.address + block.bytes ≤ other →
      memory other = target.memory other)
    (unreleased : block.released = 0)
    (counted : ∀ owners, block.owners = some owners →
      memory (block.address + block.size.toNat) = owners) :
    Agrees pointerSize
      { aggregator := { target with memory }, live := block :: run.live } := by
  have absent : block.address ∉ run.live.map Block.address := by
    rw [← agrees.valid_iff, taken.unused]
    simp
  refine ⟨ready, nodup_cons.mpr ⟨absent, agrees.distinct⟩, ?_, ?_, ?_, ?_⟩
  · intro ptr
    rw [map_cons, mem_cons, ← agrees.valid_iff]
    exact taken.valid_iff ptr
  · intro other member
    rcases mem_cons.mp member with rfl | old
    · exact taken.nonzero
    · exact agrees.nonzero other old
  · intro other member
    refine (taken.fits_iff _ _).mpr ?_
    rcases mem_cons.mp member with rfl | old
    · exact taken.fits
    · exact agrees.fits other old
  · intro other member owners shared
    change (memory (other.address + other.size.toNat)).toNat + _ = _ ∧ _
    rcases mem_cons.mp member with rfl | old
    · rw [counted owners shared, unreleased]
      exact ⟨rfl, .inl rfl⟩
    · have different : other.address ≠ block.address := by
        intro same
        exact absent (same ▸ mem_map_of_mem old)
      rw [frame _ (agrees.counter_outside old (by simp [shared]) taken.fits different),
        taken.memory_eq]
      exact agrees.counted other old owners shared

theorem Agrees.allocate (agrees : Agrees pointerSize run) (payloadSize : UInt32) :
    Agrees pointerSize (run.apply pointerSize (.allocate payloadSize)) := by
  rw [apply, AllocatorRun.enter, Aggregator.allocate]
  by_cases nonzero : payloadSize = 0
  · have refused : run.aggregator.allocateImpl pointerSize payloadSize = (0, run.aggregator) :=
      if_neg (not_not.mpr nonzero)
    rw [refused]
    exact agrees
  · rcases agrees.ready.allocateImpl_cases nonzero with ⟨refused, -⟩ | taken
    · rw [refused]
      exact agrees
    · rw [if_neg taken.nonzero]
      refine agrees.enter taken taken.ready (fun _ _ => rfl) rfl ?_
      rintro owners ⟨⟩

theorem toNat_add_one {payloadSize : UInt32} (nonzero : payloadSize + 1 ≠ 0) :
    (payloadSize + 1).toNat = payloadSize.toNat + 1 := by
  have sum : (payloadSize + 1).toNat = (payloadSize.toNat + 1) % 2 ^ 32 := UInt32.toNat_add _ _
  have different : (payloadSize + 1).toNat ≠ 0 := by
    rwa [ne_eq, ← UInt32.toNat_inj] at nonzero
  have small := payloadSize.toNat_lt
  omega

theorem Agrees.allocateShared (agrees : Agrees pointerSize run) (payloadSize : UInt32)
    (referenceCounter : UInt8) :
    Agrees pointerSize (run.apply pointerSize (.allocateShared payloadSize referenceCounter)) := by
  rw [apply, AllocatorRun.enter, Aggregator.allocateShared]
  by_cases nonzero : payloadSize + 1 = 0
  · have refused : run.aggregator.allocateImpl pointerSize (payloadSize + 1) =
        (0, run.aggregator) := if_neg (not_not.mpr nonzero)
    rw [refused]
    exact agrees
  · rcases agrees.ready.allocateImpl_cases nonzero with ⟨refused, -⟩ | taken
    · rw [refused]
      exact agrees
    · rw [toNat_add_one nonzero] at taken
      simp only [ne_eq, taken.nonzero, not_false_eq_true, if_true, if_false]
      have fits := (taken.fits_iff _ _).mpr taken.fits
      refine agrees.enter taken
        (taken.ready.store_valid ((taken.valid_iff _).mpr (.inl rfl)) fits referenceCounter)
        ?_ rfl ?_
      · intro other outside
        apply Memory.store_of_ne
        simp only [Block.bytes, Option.isSome_some, if_true] at outside
        omega
      · rintro owners ⟨⟩
        exact Memory.store_self _ _ _

/-- A block is freed. -/
theorem Agrees.free (agrees : Agrees pointerSize run) {target : Aggregator} {ptr : Nat}
    (given : Aggregator.Given pointerSize run.aggregator target ptr) :
    Agrees pointerSize { aggregator := target, live := Ledger.free run.live ptr } := by
  have kept : ∀ block ∈ Ledger.free run.live ptr, block ∈ run.live ∧ block.address ≠ ptr := by
    intro block member
    simpa [Ledger.free] using member
  refine ⟨given.ready, ?_, ?_, ?_, ?_, ?_⟩
  · exact agrees.distinct.sublist (filter_sublist.map _)
  · intro address
    rw [given.valid_iff, agrees.valid_iff, Ledger.free]
    simp only [mem_map, mem_filter, decide_eq_true_eq]
    constructor
    · rintro ⟨different, block, member, rfl⟩
      exact ⟨block, ⟨member, different⟩, rfl⟩
    · rintro ⟨block, ⟨member, different⟩, rfl⟩
      exact ⟨different, block, member, rfl⟩
  · exact fun block member => agrees.nonzero block (kept block member).1
  · exact fun block member => (given.fits_iff _ _).mpr (agrees.fits block (kept block member).1)
  · intro block member owners shared
    change (target.memory (block.address + block.size.toNat)).toNat + _ = _ ∧ _
    obtain ⟨old, different⟩ := kept block member
    obtain ⟨pool, poolIn, slot, le⟩ := agrees.fits block old
    have sizeLe := (agrees.ready.wellFormed pool poolIn).size_le
    rw [Block.bytes, shared, Option.isSome_some, if_pos rfl] at le
    have outside : target.memory (block.address + block.size.toNat) =
        run.aggregator.memory (block.address + block.size.toNat) := by
      refine given.frame _ fun owner ownerIn ownerSlot => ?_
      rcases agrees.ready.slots_apart poolIn ownerIn slot ownerSlot with same | apart
      · exact absurd same.2 different
      · omega
    rw [outside]
    exact agrees.counted block old owners shared

theorem free_of_not_mem {live : List Block} {ptr : Nat} (absent : ptr ∉ live.map Block.address) :
    Ledger.free live ptr = live := by
  rw [Ledger.free, filter_eq_self]
  intro block member
  rw [decide_eq_true_eq]
  rintro rfl
  exact absent (mem_map_of_mem member)

theorem release_of_not_mem {live : List Block} {ptr : Nat}
    (absent : ptr ∉ live.map Block.address) : Ledger.release live ptr = live := by
  have others : ∀ block ∈ live, block.address ≠ ptr := by
    rintro block member rfl
    exact absent (mem_map_of_mem member)
  have kept : (live.map fun block =>
      if block.address = ptr then { block with released := block.released + 1 } else block) =
      live := by
    refine (map_congr_left fun block member => ?_).trans (map_id _)
    exact if_neg (others block member)
  rw [Ledger.release, free_of_not_mem absent, kept, ite_self]

theorem Agrees.deallocate (agrees : Agrees pointerSize run) (ptr : Nat) :
    Agrees pointerSize (run.apply pointerSize (.deallocate ptr)) := by
  rw [apply, Aggregator.deallocate]
  cases valid : run.aggregator.isPtrValid ptr with
  | true =>
    rw [if_pos rfl]
    exact agrees.free (agrees.ready.deallocateImpl_given valid)
  | false =>
    have absent : ptr ∉ run.live.map Block.address := by
      rw [← agrees.valid_iff, valid]
      simp
    rw [if_neg (by simp), free_of_not_mem absent]
    exact agrees

/-- The counter of a shared block tells whether the next release is the last. -/
theorem Agrees.counter_gt_one_iff (agrees : Agrees pointerSize run) {block : Block}
    (member : block ∈ run.live) (shared : block.owners.isSome = true) :
    run.aggregator.memory (block.address + block.size.toNat) > 1 ↔ block.isLast = false := by
  obtain ⟨owners, ownersEq⟩ := Option.isSome_iff_exists.mp shared
  have counted := (agrees.counted block member owners ownersEq).1
  rw [gt_iff_lt, UInt8.lt_iff_toNat_lt, Block.isLast, ownersEq]
  simp only [decide_eq_false_iff_not, UInt8.toNat_one]
  omega

/-- An owner that is not the last one releases a block. -/
theorem Agrees.releaseOne (agrees : Agrees pointerSize run) {block : Block}
    (member : block ∈ run.live) (shared : block.owners.isSome = true)
    (notLast : block.isLast = false) :
    Agrees pointerSize
      { aggregator := { run.aggregator with
          memory := run.aggregator.memory.store (block.address + block.size.toNat)
            (run.aggregator.memory (block.address + block.size.toNat) - 1) }
        live := run.live.map fun other =>
          if other.address = block.address then { other with released := other.released + 1 }
          else other } := by
  have greater := (agrees.counter_gt_one_iff member shared).mpr notLast
  rw [gt_iff_lt, UInt8.lt_iff_toNat_lt, UInt8.toNat_one] at greater
  have room : block.bytes = block.size.toNat + 1 := by rw [Block.bytes, if_pos shared]
  have blockFits := agrees.fits block member
  rw [room] at blockFits
  have addresses : (run.live.map fun other =>
      if other.address = block.address then { other with released := other.released + 1 }
      else other).map Block.address = run.live.map Block.address := by
    rw [map_map]
    refine map_congr_left fun other _ => ?_
    rw [Function.comp_apply]
    split <;> rfl
  have valid : run.aggregator.isPtrValid block.address = true :=
    (agrees.valid_iff _).mpr (mem_map_of_mem member)
  refine ⟨agrees.ready.store_valid valid blockFits _, ?_, ?_, ?_, ?_, ?_⟩
  · rw [addresses]
    exact agrees.distinct
  · intro ptr
    rw [addresses]
    exact agrees.valid_iff ptr
  · intro changed changedIn
    obtain ⟨other, otherIn, rfl⟩ := mem_map.mp changedIn
    split <;> exact agrees.nonzero other otherIn
  · intro changed changedIn
    obtain ⟨other, otherIn, rfl⟩ := mem_map.mp changedIn
    split <;> exact agrees.fits other otherIn
  · intro changed changedIn owners ownersEq
    obtain ⟨other, otherIn, rfl⟩ := mem_map.mp changedIn
    by_cases same : other.address = block.address
    · rw [agrees.eq_of_address otherIn member same] at ownersEq ⊢
      rw [if_pos rfl] at ownersEq ⊢
      have counted := agrees.counted block member owners ownersEq
      have one : (1 : UInt8) ≤ run.aggregator.memory (block.address + block.size.toNat) := by
        rw [UInt8.le_iff_toNat_le, UInt8.toNat_one]
        omega
      simp only [Memory.store_self, UInt8.toNat_sub_of_le _ _ one, UInt8.toNat_one]
      omega
    · rw [if_neg same] at ownersEq ⊢
      have outside := agrees.counter_outside otherIn (by simp [ownersEq]) blockFits same
      change (run.aggregator.memory.store _ _ _).toNat + _ = _ ∧ _
      rw [Memory.store_of_ne _ _ (by omega)]
      exact agrees.counted other otherIn owners ownersEq

theorem Agrees.deallocateShared (agrees : Agrees pointerSize run) (ptr : Nat)
    (payloadSize : UInt32) (allowed : run.Allowed (.deallocateShared ptr payloadSize)) :
    Agrees pointerSize (run.apply pointerSize (.deallocateShared ptr payloadSize)) := by
  rw [apply, Aggregator.deallocateShared]
  cases valid : run.aggregator.isPtrValid ptr with
  | true =>
    obtain ⟨block, member, rfl⟩ := mem_map.mp ((agrees.valid_iff ptr).mp valid)
    obtain ⟨shared, rfl⟩ := allowed block member rfl
    have counter := agrees.counter_gt_one_iff member shared
    have found : (run.live.any fun other => other.address = block.address ∧ other.isLast) =
        block.isLast := by
      rw [Bool.eq_iff_iff, any_eq_true]
      constructor
      · rintro ⟨other, otherIn, holds⟩
        rw [decide_eq_true_eq] at holds
        rw [← agrees.eq_of_address otherIn member holds.1]
        exact holds.2
      · intro last
        exact ⟨block, member, by simp [last]⟩
    rw [if_pos rfl, Ledger.release, found]
    cases last : block.isLast with
    | true =>
      rw [last] at counter
      rw [if_pos rfl, if_neg (by rw [counter]; simp)]
      exact agrees.free (agrees.ready.deallocateImpl_given valid)
    | false =>
      rw [if_pos (counter.mpr last), if_neg Bool.false_ne_true]
      exact agrees.releaseOne member shared last
  | false =>
    have absent : ptr ∉ run.live.map Block.address := by
      rw [← agrees.valid_iff, valid]
      simp
    rw [if_neg (by simp), release_of_not_mem absent]
    exact agrees

theorem Agrees.write (agrees : Agrees pointerSize run) (ptr offset : Nat) (byte : UInt8)
    (allowed : run.Allowed (.write ptr offset byte)) :
    Agrees pointerSize (run.apply pointerSize (.write ptr offset byte)) := by
  obtain ⟨block, member, rfl, inside⟩ := allowed
  have valid : run.aggregator.isPtrValid block.address = true :=
    (agrees.valid_iff _).mpr (mem_map_of_mem member)
  have blockFits : Aggregator.Fits run.aggregator.pools block.address (offset + 1) := by
    obtain ⟨pool, poolIn, slot, le⟩ := agrees.fits block member
    rw [Block.bytes] at le
    exact ⟨pool, poolIn, slot, by omega⟩
  refine ⟨agrees.ready.store_valid valid blockFits byte, agrees.distinct, agrees.valid_iff,
    agrees.nonzero, agrees.fits, ?_⟩
  intro other otherIn owners ownersEq
  have outside : other.address + other.size.toNat ≠ block.address + offset := by
    by_cases same : other.address = block.address
    · rw [agrees.eq_of_address otherIn member same]
      omega
    · have apart := agrees.counter_outside otherIn (by simp [ownersEq]) blockFits same
      omega
  change (run.aggregator.memory.store (block.address + offset) byte _).toNat + _ = _ ∧ _
  rw [Memory.store_of_ne _ _ outside]
  exact agrees.counted other otherIn owners ownersEq

/-- In every run the allocator agrees with the ledger. -/
theorem agrees_of_reachable (reached : (system pointerSize).Reachable run) :
    Agrees pointerSize run := by
  refine Transition.System.Inductive.of_reachable ⟨?_, ?_⟩ reached
  · rintro state ⟨pools, memory, placed, rfl⟩
    exact agrees_construct placed memory
  · rintro source call target agrees ⟨allowed, rfl⟩
    cases call with
    | allocate payloadSize => exact agrees.allocate payloadSize
    | allocateShared payloadSize referenceCounter =>
      exact agrees.allocateShared payloadSize referenceCounter
    | deallocate ptr => exact agrees.deallocate ptr
    | deallocateShared ptr payloadSize => exact agrees.deallocateShared ptr payloadSize allowed
    | write ptr offset byte => exact agrees.write ptr offset byte allowed

/-! ## Exactness -/

/-- The free list of a pool: as long as `_available` says, without repetition,
and exactly the elements whose flag is clear. -/
def FreeListAgrees (pointerSize : Nat) (memory : Memory) (pool : PoolBase) : Prop :=
  ∃ chunks : List Nat, Chain (memory.readPointer pointerSize) pool.nextChunk chunks ∧
    pool.available = chunks.length ∧ chunks.Nodup ∧
    (∀ chunk ∈ chunks, PoolBase.IsSlot pool chunk) ∧
    ∀ index < pool.elementCount,
      pool.buffer + index * pool.elementAlignedSize ∈ chunks ↔ pool.checkPtrFlag index = false

/-- What the allocator promises about its live blocks. -/
structure Exact (pointerSize : Nat) (run : AllocatorRun) : Prop where
  fits : ∀ block ∈ run.live, Aggregator.Fits run.aggregator.pools block.address block.bytes
  apart : run.live.Pairwise Block.Apart
  deallocates : ∀ ptr, (run.aggregator.deallocate pointerSize ptr).1 = true ↔
    ptr ∈ run.live.map Block.address
  refuses : ∀ ptr, ptr ∉ run.live.map Block.address →
    run.aggregator.deallocate pointerSize ptr = (false, run.aggregator) ∧
      ∀ size, run.aggregator.deallocateShared pointerSize ptr size = (false, run.aggregator)
  frees : ∀ ptr address, (run.aggregator.deallocate pointerSize ptr).2.isPtrValid address = true ↔
    address ≠ ptr ∧ address ∈ run.live.map Block.address
  freeLists : ∀ pool ∈ run.aggregator.pools,
    FreeListAgrees pointerSize run.aggregator.memory pool
  allocateFails : ∀ size, size ≠ 0 → (run.aggregator.allocate pointerSize size).1 = 0 →
    ∀ pool ∈ run.aggregator.pools, size.toNat ≤ pool.elementSize → pool.isFull = true
  allocateSharedFails : ∀ size owners, size + 1 ≠ 0 →
    (run.aggregator.allocateShared pointerSize size owners).1 = 0 →
    ∀ pool ∈ run.aggregator.pools, size.toNat + 1 ≤ pool.elementSize → pool.isFull = true
  releases : ∀ block ∈ run.live, ∀ owners, block.owners = some owners → owners ≠ 0 →
    block.released < owners.toNat ∧
      ((run.aggregator.deallocateShared pointerSize block.address block.size).2.isPtrValid
        block.address = false ↔ block.released + 1 = owners.toNat)

theorem Agrees.freeListAgrees (agrees : Agrees pointerSize run) {pool : PoolBase}
    (member : pool ∈ run.aggregator.pools) :
    FreeListAgrees pointerSize run.aggregator.memory pool := by
  obtain ⟨chunks, threaded⟩ := agrees.ready.threaded pool member
  refine ⟨chunks, threaded.chain, threaded.available_eq, threaded.nodup,
    fun chunk inside => ((threaded.mem_iff chunk).mp inside).1, ?_⟩
  intro index inside
  rw [threaded.mem_iff, PoolBase.ptrPosition_slot (agrees.ready.wellFormed pool member)]
  exact and_iff_right ⟨index, inside, rfl⟩

theorem Agrees.apart (agrees : Agrees pointerSize run) : run.live.Pairwise Block.Apart := by
  have pairs : run.live.Pairwise fun block other => block.address ≠ other.address :=
    pairwise_map.mp agrees.distinct
  refine pairs.imp_of_mem fun {block other} member otherMember different => ?_
  exact agrees.ready.fits_apart (agrees.fits block member) (agrees.fits other otherMember) different

theorem Agrees.refuses (agrees : Agrees pointerSize run) {ptr : Nat}
    (absent : ptr ∉ run.live.map Block.address) :
    run.aggregator.deallocate pointerSize ptr = (false, run.aggregator) ∧
      ∀ size, run.aggregator.deallocateShared pointerSize ptr size = (false, run.aggregator) := by
  rw [← agrees.valid_iff] at absent
  exact ⟨if_neg absent, fun size => if_neg absent⟩

theorem Agrees.releases (agrees : Agrees pointerSize run) {block : Block}
    (member : block ∈ run.live) {owners : UInt8} (shared : block.owners = some owners)
    (nonzero : owners ≠ 0) :
    block.released < owners.toNat ∧
      ((run.aggregator.deallocateShared pointerSize block.address block.size).2.isPtrValid
        block.address = false ↔ block.released + 1 = owners.toNat) := by
  have positive : 0 < owners.toNat := by
    rw [Nat.pos_iff_ne_zero]
    exact fun zero => nonzero (UInt8.toNat_inj.mp zero)
  have released : block.released < owners.toNat := by
    have bounded := (agrees.counted block member owners shared).2
    omega
  have last : block.isLast = decide (owners.toNat ≤ block.released + 1) := by
    rw [Block.isLast, shared]
  have valid : run.aggregator.isPtrValid block.address = true :=
    (agrees.valid_iff _).mpr (mem_map_of_mem member)
  have counter := agrees.counter_gt_one_iff member (by simp [shared])
  refine ⟨released, ?_⟩
  rw [Aggregator.deallocateShared, if_pos valid]
  by_cases ends : block.released + 1 = owners.toNat
  · have given := (agrees.ready.deallocateImpl_given valid).valid_iff block.address
    rw [if_neg (by rw [counter, last]; simp [ends])]
    refine iff_of_true ?_ ends
    rw [Bool.eq_false_iff, ne_eq, given]
    simp
  · rw [if_pos (by rw [counter, last]; simpa using by omega)]
    refine iff_of_false ?_ ends
    change ¬run.aggregator.isPtrValid block.address = false
    rw [valid]
    simp

/-- In every run live blocks are disjoint and large enough, exactly they can be
deallocated, the representations of the pools agree, allocations of at least
one byte fail only for want of space, and the last owner frees a block. -/
theorem allocator_exact (pointerSize : Nat) (run : AllocatorRun)
    (reached : (system pointerSize).Reachable run) : Exact pointerSize run := by
  have agrees := agrees_of_reachable reached
  refine ⟨agrees.fits, agrees.apart, ?_, fun ptr => agrees.refuses, ?_,
    fun pool => agrees.freeListAgrees, ?_, ?_,
    fun block member owners => agrees.releases member⟩
  · intro ptr
    rw [← agrees.valid_iff, Aggregator.deallocate]
    split
    · rename_i valid
      exact iff_of_true rfl valid
    · rename_i invalid
      exact iff_of_false (by simp) invalid
  · intro ptr address
    rw [← agrees.valid_iff]
    by_cases valid : run.aggregator.isPtrValid ptr = true
    · rw [Aggregator.deallocate, if_pos valid]
      exact (agrees.ready.deallocateImpl_given valid).valid_iff address
    · rw [Aggregator.deallocate, if_neg valid]
      constructor
      · intro addressValid
        refine ⟨?_, addressValid⟩
        rintro rfl
        exact valid addressValid
      · exact And.right
  · intro size nonzero failed
    rcases agrees.ready.allocateImpl_cases nonzero with ⟨-, full⟩ | taken
    · exact full
    · exact absurd failed taken.nonzero
  · intro size owners nonzero failed pool member fits
    rcases agrees.ready.allocateImpl_cases nonzero with ⟨-, full⟩ | taken
    · refine full pool member ?_
      rw [toNat_add_one nonzero]
      exact fits
    · rw [Aggregator.allocateShared, if_pos taken.nonzero] at failed
      exact absurd failed taken.nonzero

/-! ## A sample pool -/

/-- Three elements of 16 bytes, with 64-bit pointers. -/
def samplePool : PoolBase :=
  { buffer := 4096, elementSize := 16, elementAlignedSize := 16, elementCount := 3
    flags := [], nextChunk := 0, available := 0 }

def sampleStart : AllocatorRun :=
  { aggregator := Aggregator.construct 8 [samplePool] fun _ => 0, live := [] }

/-- A block with two owners, one of which released it. -/
def sample : AllocatorRun :=
  (sampleStart.apply 8 (.allocateShared 8 2)).apply 8 (.deallocateShared 4096 8)

theorem sample_reachable : (system 8).Reachable sample := by
  have placed : Aggregator.Placed 8 [samplePool] := by
    refine ⟨?_, pairwise_singleton _ _⟩
    intro pool member
    rw [mem_singleton.mp member]
    constructor <;> decide
  have start : (system 8).Reachable sampleStart := .initial ⟨_, _, placed, rfl⟩
  have shared : (system 8).Reachable (sampleStart.apply 8 (.allocateShared 8 2)) :=
    @Transition.System.Reachable.step _ _ _ _ _ (.allocateShared 8 2) start ⟨trivial, rfl⟩
  refine @Transition.System.Reachable.step _ _ _ _ _ (.deallocateShared 4096 8) shared ⟨?_, rfl⟩
  intro block member _
  have only : (sampleStart.apply 8 (.allocateShared 8 2)).live =
      [{ address := 4096, size := 8, owners := some 2, released := 0 }] := by decide
  rw [only, mem_singleton] at member
  rw [member]
  exact ⟨rfl, rfl⟩

theorem allocator_exact_sample :
    sample.live = [{ address := 4096, size := 8, owners := some 2, released := 1 }] ∧
      Exact 8 sample :=
  ⟨by decide, allocator_exact 8 sample sample_reachable⟩

/-- An allocation of no bytes fails in an empty pool, and releasing a block that
is not shared decrements a byte behind it, here in a link of the free list: the
fourth block then overlaps the third one. -/
theorem not_exact_unsharedRelease :
    ((sampleStart.aggregator.allocate 8 0).1 = 0 ∧
      ∀ pool ∈ sampleStart.aggregator.pools, pool.isFull = false) ∧
    ¬((((sampleStart.apply 8 (.allocate 16)).apply 8 (.deallocateShared 4096 16)).apply 8
      (.allocate 16)).apply 8 (.allocate 16)).live.Pairwise Block.Apart := by
  decide

end AllocatorRun

end OpenBsw.Middleware
