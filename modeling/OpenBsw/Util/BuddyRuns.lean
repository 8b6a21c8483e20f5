import OpenBsw.Util.BuddyBlocks

/-!
# Runs of the buddy memory manager

A run records the blocks that were acquired and not released.  Numbers of type
`size_t` wrap, and so the release of an index close to the largest number may be
taken for the release of another block.
-/

namespace OpenBsw.Util

open BuddyMemoryManager
open OpenBsw.Transition

/-- A manager, and the blocks that were acquired and not released. -/
structure BuddyRun where
  manager : BuddyMemoryManager
  held : List (Nat × Nat) := []

inductive BuddyEvent
  | acquireMemory (numBuckets : Nat)
  | releaseMemory (bucketIndex : Nat)
  | clear

namespace BuddyRun

/-- The state after an event, whose argument is a number of `sizeBits` bits. -/
def perform (sizeBits : Nat) (run : BuddyRun) : BuddyEvent → Option BuddyRun
  | .acquireMemory numBuckets =>
    if numBuckets < 2 ^ sizeBits then
      let acquired := run.manager.acquireMemory numBuckets
      some
        { manager := acquired.2
          held :=
            if acquired.1.isValid then (acquired.1.bucketIndex, acquired.1.numBuckets) :: run.held
            else run.held }
    else none
  | .releaseMemory bucketIndex =>
    if bucketIndex < 2 ^ sizeBits then
      some
        { manager := (run.manager.releaseMemoryExtended sizeBits bucketIndex).2
          held := run.held.filter fun block => block.1 != bucketIndex }
    else none
  | .clear => some { manager := run.manager.clear, held := [] }

/-- A new manager of a tree of any depth that fits into the memory. -/
def system (sizeBits : Nat) : System BuddyRun BuddyEvent where
  Initial run := ∃ depth nodeTree, 0 < depth ∧ depth < sizeBits ∧
    nodeTree.length = 2 ^ depth - 1 ∧ run = { manager := .new nodeTree }
  Step source event target := source.perform sizeBits event = some target

/-- The release of an index is not misread. -/
def Readable (sizeBits : Nat) (run : BuddyRun) : BuddyEvent → Prop
  | .releaseMemory bucketIndex => ¬ Misread sizeBits run.manager bucketIndex
  | _ => True

/-! ## What a manager promises -/

/-- An acquired block has the right size, starts at a multiple of it and is apart
from all others; a request fails where it is too large or no aligned run is free. -/
def Acquires (run : BuddyRun) (numBuckets : Nat) : Prop :=
  ∃ power, Rounded numBuckets power ∧
    ((run.manager.acquireMemory numBuckets).1.isValid = true →
      (run.manager.acquireMemory numBuckets).1.numBuckets = 2 ^ power ∧
      2 ^ power ∣ (run.manager.acquireMemory numBuckets).1.bucketIndex ∧
      (run.manager.acquireMemory numBuckets).1.bucketIndex + 2 ^ power ≤ run.manager.numBuckets ∧
      ∀ block ∈ run.held,
        Apart block ((run.manager.acquireMemory numBuckets).1.bucketIndex, 2 ^ power)) ∧
    ((run.manager.acquireMemory numBuckets).1.isValid = false ↔
      run.manager.numBuckets < numBuckets ∨
        ∀ start, 2 ^ power ∣ start → start + 2 ^ power ≤ run.manager.numBuckets →
          ∃ block ∈ run.held, ¬ Apart block (start, 2 ^ power))

/-- A release frees exactly the block that starts at the index, and tells its
size; without such a block nothing changes. -/
def Releases (sizeBits : Nat) (run : BuddyRun) (bucketIndex : Nat) : Prop :=
  (∀ size, (bucketIndex, size) ∈ run.held →
    (run.manager.releaseMemoryExtended sizeBits bucketIndex).1 = size ∧
    ∀ block, IsUsedBlock (run.manager.releaseMemoryExtended sizeBits bucketIndex).2 block ↔
      IsUsedBlock run.manager block ∧ block ≠ (bucketIndex, size)) ∧
  ((∀ size, (bucketIndex, size) ∉ run.held) →
    run.manager.releaseMemoryExtended sizeBits bucketIndex = (0, run.manager))

structure Correct (run : BuddyRun) : Prop where
  held : ∀ block, IsUsedBlock run.manager block ↔ block ∈ run.held
  aligned : ∀ block ∈ run.held,
    (∃ power, block.2 = 2 ^ power) ∧ block.2 ∣ block.1 ∧
      block.1 + block.2 ≤ run.manager.numBuckets
  apart : run.held.Pairwise Apart
  isEmpty : run.manager.isEmpty = true ↔ run.held = []
  acquires : ∀ numBuckets, Acquires run numBuckets

/-! ## The invariant -/

/-- The nodes in use are the blocks that are held. -/
structure Ledger (height : Nat) (run : BuddyRun) : Prop where
  partition : Partition height (fun level index => block height level index ∈ run.held) Coalesced
    run.manager
  known : ∀ held ∈ run.held, ∃ level ≤ height, ∃ index < 2 ^ level, held = block height level index
  apart : run.held.Pairwise Apart

variable {height sizeBits : Nat} {run target : BuddyRun}

theorem Ledger.isUsedBlock_iff (ledger : Ledger height run) (other : Nat × Nat) :
    IsUsedBlock run.manager other ↔ other ∈ run.held := by
  rw [ledger.partition.isUsedBlock_iff]
  constructor
  · rintro ⟨level, inside, index, small, member, rfl⟩
    exact member
  · intro member
    obtain ⟨level, inside, index, small, rfl⟩ := ledger.known other member
    exact ⟨level, inside, index, small, member, rfl⟩

/-- Nodes in use are marked. -/
theorem Ledger.marked (ledger : Ledger height run) {level index : Nat} (inside : level ≤ height)
    (small : index < 2 ^ level) (member : block height level index ∈ run.held) :
    run.manager.Marked level index := by
  rw [Marked, (ledger.partition.used level inside index small).mpr member]
  decide

/-- Only one block starts at an index. -/
theorem Ledger.same_start (ledger : Ledger height run) {level index level' index' : Nat}
    (inside : level ≤ height) (small : index < 2 ^ level) (inside' : level' ≤ height)
    (small' : index' < 2 ^ level') (member : block height level index ∈ run.held)
    (member' : block height level' index' ∈ run.held)
    (start : (block height level' index').1 = (block height level index).1) :
    level' = level ∧ index' = index := by
  by_contra other
  have positive := block_pos height level index
  have positive' := block_pos height level' index'
  rcases ledger.partition.apart inside small inside' (ledger.marked inside small member)
    (ledger.marked inside' small' member') other with before | behind <;> omega

/-! ### Acquiring -/

theorem exists_rounded (numBuckets : Nat) : ∃ power, Rounded numBuckets power := by
  have some : ∃ power, max numBuckets 1 ≤ 2 ^ power :=
    ⟨max numBuckets 1, Nat.le_of_lt Nat.lt_two_pow_self⟩
  exact ⟨Nat.find some, Nat.find_spec some, fun other enough =>
    Nat.pow_le_pow_right (by decide) (Nat.find_min' some enough)⟩

/-- The block of a node at the level of a request. -/
theorem block_request {power : Nat} (low : power ≤ height) (index : Nat) :
    block height (height - power) index = (index * 2 ^ power, 2 ^ power) := by
  rw [block, Nat.sub_sub_self low]

/-- A block that was acquired is apart from the ones that are held. -/
theorem Ledger.apart_acquired (ledger : Ledger height run) {manager : BuddyMemoryManager}
    {level index : Nat} (inside : level ≤ height) (small : index < 2 ^ level)
    (unused : block height level index ∉ run.held)
    (partition : Partition height
      (fun level' index' => block height level' index' ∈ run.held ∨
        (level' = level ∧ index' = index)) Coalesced manager) :
    ∀ held ∈ run.held, Apart held (block height level index) := by
  intro held member
  obtain ⟨level', inside', index', small', rfl⟩ := ledger.known held member
  have marked : ∀ level' ≤ height, ∀ index' < 2 ^ level',
      (block height level' index' ∈ run.held ∨ (level' = level ∧ index' = index)) →
        manager.Marked level' index' := by
    intro level' inside' index' small' isUsed
    rw [Marked, (partition.used level' inside' index' small').mpr isUsed]
    decide
  refine partition.apart inside' small' inside (marked level' inside' index' small' (.inl member))
    (marked level inside index small (.inr ⟨rfl, rfl⟩)) ?_
  rintro ⟨rfl, rfl⟩
  exact unused member

/-- Where no free node is at or above the level, each aligned run overlaps a block
that is held. -/
theorem Ledger.overlapping (ledger : Ledger height run) {power : Nat} (low : power ≤ height)
    (none : ∀ level ≤ height - power, ∀ index < 2 ^ level,
      run.manager.nodeTag level index ≠ .free)
    {start : Nat} (aligned : 2 ^ power ∣ start) (inside : start + 2 ^ power ≤ 2 ^ height) :
    ∃ held ∈ run.held, ¬ Apart held (start, 2 ^ power) := by
  by_contra separate
  obtain ⟨index, rfl⟩ := aligned
  have whole : 2 ^ power * 2 ^ (height - power) = 2 ^ height := by
    rw [← Nat.pow_add, Nat.add_sub_cancel' low]
  have small : index < 2 ^ (height - power) := by
    rw [← whole, ← Nat.mul_succ] at inside
    exact Nat.le_of_mul_le_mul_left inside (Nat.two_pow_pos power)
  obtain ⟨level, below, index', small', isFree⟩ :=
    ledger.partition.exists_free (Nat.sub_le height power) small (by
      intro level' inside' index' small' member
      by_contra overlap
      rw [block_request low, Nat.mul_comm] at overlap
      exact separate ⟨_, member, overlap⟩)
  exact none level below index' small' isFree

theorem Ledger.acquires (ledger : Ledger height run) (numBuckets : Nat) :
    Acquires run numBuckets := by
  rw [Acquires, ledger.partition.numBuckets]
  rcases ledger.partition.acquireMemory_cases numBuckets with
    ⟨large, failed⟩ | ⟨few, power, low, rounded, ⟨failed, none⟩ | acquired⟩
  · obtain ⟨power, rounded⟩ := exists_rounded numBuckets
    rw [failed]
    refine ⟨power, rounded, fun impossible => ?_, iff_of_true rfl (.inl large)⟩
    cases impossible
  · rw [failed]
    refine ⟨power, rounded, fun impossible => ?_, iff_of_true rfl (.inr ?_)⟩
    · cases impossible
    · intro start aligned inside
      exact ledger.overlapping low none aligned inside
  · obtain ⟨index, small, unused, result, partition⟩ := acquired
    have apart := ledger.apart_acquired (Nat.sub_le height power) small unused partition
    have fits := block_end_le (Nat.sub_le height power) small
    rw [block_request low] at apart fits result
    rw [result]
    refine ⟨power, rounded, fun _ => ⟨rfl, Nat.dvd_mul_left .., fits, apart⟩, ?_⟩
    constructor
    · intro invalid
      have positive := Nat.two_pow_pos power
      rw [AcquireResult.isValid, bne_eq_false_iff_eq] at invalid
      exact absurd invalid (Nat.ne_of_gt positive)
    · rintro (large | overlapping)
      · omega
      · obtain ⟨held, member, overlap⟩ := overlapping _ (Nat.dvd_mul_left ..) fits
        exact absurd (apart held member) overlap

theorem Ledger.acquireMemory (ledger : Ledger height run) (numBuckets : Nat) :
    Ledger height
      { manager := (run.manager.acquireMemory numBuckets).2
        held :=
          if (run.manager.acquireMemory numBuckets).1.isValid then
            ((run.manager.acquireMemory numBuckets).1.bucketIndex,
              (run.manager.acquireMemory numBuckets).1.numBuckets) :: run.held
          else run.held } := by
  rcases ledger.partition.acquireMemory_cases numBuckets with
    ⟨-, failed⟩ | ⟨-, power, low, -, ⟨failed, -⟩ | acquired⟩
  · rw [failed]
    exact ledger
  · rw [failed]
    exact ledger
  · obtain ⟨index, small, unused, result, partition⟩ := acquired
    have inside : height - power ≤ height := Nat.sub_le height power
    have valid : (run.manager.acquireMemory numBuckets).1.isValid = true := by
      rw [result, AcquireResult.isValid, bne_iff_ne]
      exact Nat.ne_of_gt (Nat.two_pow_pos _)
    rw [if_pos valid, result]
    refine ⟨partition.congr fun level' inside' index' small' => ?_, ?_, ?_⟩
    · rw [List.mem_cons]
      constructor
      · rintro (member | ⟨rfl, rfl⟩)
        · exact .inr member
        · exact .inl rfl
      · rintro (equal | member)
        · exact .inr (block_inj inside' inside equal)
        · exact .inl member
    · intro held member
      rcases List.mem_cons.mp member with rfl | old
      · exact ⟨height - power, inside, index, small, rfl⟩
      · exact ledger.known held old
    · refine List.pairwise_cons.mpr ⟨fun held member => ?_, ledger.apart⟩
      exact (ledger.apart_acquired inside small unused partition held member).symm

/-! ### Releasing -/

theorem Ledger.releases (ledger : Ledger height run) {bucketIndex : Nat}
    (wide : height + 1 < sizeBits) (representable : bucketIndex < 2 ^ sizeBits)
    (read : ¬ Misread sizeBits run.manager bucketIndex) : Releases sizeBits run bucketIndex := by
  rcases ledger.partition.releaseMemoryExtended_cases wide representable read with
    ⟨level, inside, index, small, member, start, size, partition⟩ | ⟨result, none⟩
  · refine ⟨fun size' member' => ?_, fun none => ?_⟩
    · obtain ⟨level', inside', index', small', equal⟩ := ledger.known _ member'
      have start' : (block height level' index').1 = bucketIndex := by rw [← equal]
      obtain ⟨rfl, rfl⟩ := ledger.same_start inside small inside' small' member (equal ▸ member')
        (start'.trans start.symm)
      refine ⟨size.trans (by rw [← equal]), fun other => ?_⟩
      rw [partition.isUsedBlock_iff, ledger.partition.isUsedBlock_iff, equal]
      constructor
      · rintro ⟨level, inside, index, small, ⟨isUsed, different⟩, rfl⟩
        exact ⟨⟨level, inside, index, small, isUsed, rfl⟩,
          fun same => different (block_inj inside inside' same)⟩
      · rintro ⟨⟨level, inside, index, small, isUsed, rfl⟩, different⟩
        refine ⟨level, inside, index, small, ⟨isUsed, ?_⟩, rfl⟩
        rintro ⟨rfl, rfl⟩
        exact different rfl
    · refine absurd ?_ (none (block height level index).2)
      rw [← start]
      exact member
  · refine ⟨fun size member => ?_, fun _ => result⟩
    obtain ⟨level, inside, index, small, equal⟩ := ledger.known _ member
    refine absurd ?_ (none level inside index small (equal ▸ member))
    rw [← equal]

theorem Ledger.releaseMemory (ledger : Ledger height run) {bucketIndex : Nat}
    (wide : height + 1 < sizeBits) (representable : bucketIndex < 2 ^ sizeBits)
    (read : ¬ Misread sizeBits run.manager bucketIndex) :
    Ledger height
      { manager := (run.manager.releaseMemoryExtended sizeBits bucketIndex).2
        held := run.held.filter fun block => block.1 != bucketIndex } := by
  have known : ∀ held ∈ run.held.filter fun block => block.1 != bucketIndex,
      ∃ level ≤ height, ∃ index < 2 ^ level, held = block height level index :=
    fun held member => ledger.known held (List.mem_of_mem_filter member)
  rcases ledger.partition.releaseMemoryExtended_cases wide representable read with
    ⟨level, inside, index, small, member, start, -, partition⟩ | ⟨result, none⟩
  · refine ⟨partition.congr fun level' inside' index' small' => ?_, known, ledger.apart.filter _⟩
    rw [List.mem_filter, bne_iff_ne]
    refine and_congr_right fun member' => not_congr ⟨?_, ?_⟩
    · rintro ⟨rfl, rfl⟩
      exact start
    · intro start'
      exact ledger.same_start inside small inside' small' member member' (start'.trans start.symm)
  · refine ⟨?_, known, ledger.apart.filter _⟩
    rw [result]
    refine ledger.partition.congr fun level inside index small => ?_
    rw [List.mem_filter, bne_iff_ne]
    exact ⟨fun member => ⟨member, none level inside index small member⟩, And.left⟩

/-! ### Reachable states -/

theorem fastLog2_size (height : Nat) : fastLog2 (2 ^ (height + 1) - 1 + 1) = height + 1 := by
  rw [Nat.sub_add_cancel (Nat.two_pow_pos _), fastLog2, Nat.log2_two_pow]

/-- A new manager is ready, whatever was in the span. -/
theorem sized_new (nodeTree : List NodeTag) (length : nodeTree.length = 2 ^ (height + 1) - 1) :
    Partition height (fun _ _ => False) Coalesced (BuddyMemoryManager.new nodeTree) := by
  rw [BuddyMemoryManager.new, length, fastLog2_size]
  refine Sized.partition_clear ⟨length, rfl, ?_⟩
  change 1 <<< (height + 1 - 1) = _
  rw [Nat.one_shiftLeft, Nat.add_sub_cancel]

theorem ledger_of_nothing {manager : BuddyMemoryManager}
    (partition : Partition height (fun _ _ => False) Coalesced manager) :
    Ledger height { manager } := by
  refine ⟨partition.congr fun level _ index _ => ?_, fun held member => ?_, .nil⟩
  · exact ⟨False.elim, fun member => absurd member List.not_mem_nil⟩
  · exact absurd member List.not_mem_nil

theorem ledger_of_reachable
    (reached : ((system sizeBits).restrict (Readable sizeBits)).Reachable run) :
    ∃ height, height + 1 < sizeBits ∧ Ledger height run := by
  induction reached with
  | initial start =>
    obtain ⟨depth, nodeTree, some, wide, length, rfl⟩ := start
    obtain ⟨height, rfl⟩ := Nat.exists_eq_succ_of_ne_zero (Nat.ne_of_gt some)
    exact ⟨height, wide, ledger_of_nothing (sized_new nodeTree length)⟩
  | @step source target event _ stepped ih =>
    obtain ⟨height, wide, ledger⟩ := ih
    obtain ⟨performed, readable⟩ := stepped
    refine ⟨height, wide, ?_⟩
    cases event with
    | acquireMemory numBuckets =>
      obtain ⟨-, performed⟩ := Option.ite_none_right_eq_some.mp performed
      cases performed
      exact ledger.acquireMemory numBuckets
    | releaseMemory bucketIndex =>
      obtain ⟨representable, performed⟩ := Option.ite_none_right_eq_some.mp performed
      cases performed
      exact ledger.releaseMemory wide representable readable
    | clear =>
      cases performed
      exact ledger_of_nothing ledger.partition.toSized.partition_clear

theorem Ledger.correct (ledger : Ledger height run) : Correct run := by
  refine ⟨ledger.isUsedBlock_iff, fun held member => ?_, ledger.apart, ?_, ledger.acquires⟩
  · obtain ⟨level, inside, index, small, rfl⟩ := ledger.known held member
    rw [ledger.partition.numBuckets]
    exact ⟨⟨_, rfl⟩, Nat.dvd_mul_left .., block_end_le inside small⟩
  · rw [ledger.partition.isEmpty_iff, List.eq_nil_iff_forall_not_mem]
    constructor
    · intro unused held member
      obtain ⟨level, inside, index, small, rfl⟩ := ledger.known held member
      exact unused level inside index small member
    · exact fun none level _ index _ => none _

/-- A manager whose releases were all read right is correct, and releases right
exactly the indices that are not misread. -/
theorem buddy_exact (run : BuddyRun)
    (reached : ((system sizeBits).restrict (Readable sizeBits)).Reachable run) :
    Correct run ∧ ∀ bucketIndex < 2 ^ sizeBits,
      (Releases sizeBits run bucketIndex ↔ ¬ Misread sizeBits run.manager bucketIndex) := by
  obtain ⟨height, wide, ledger⟩ := ledger_of_reachable reached
  refine ⟨ledger.correct, fun bucketIndex representable => ⟨?_, ledger.releases wide representable⟩⟩
  intro releases misread
  obtain ⟨large, released⟩ :=
    ledger.partition.toSized.releaseMemoryExtended_misread wide representable misread
  have none : ∀ size, (bucketIndex, size) ∉ run.held := by
    intro size member
    obtain ⟨level, inside, index, small, equal⟩ := ledger.known _ member
    have fits := block_end_le inside small
    have positive := block_pos height level index
    rw [← equal] at fits positive
    dsimp only at fits positive
    omega
  rw [releases.2 none] at released
  cases released

/-! ### Samples -/

/-- A manager of four buckets. -/
def sampleStart : BuddyRun :=
  { manager := .new (List.replicate 7 .link) }

theorem initial_sampleStart : (system 64).Initial sampleStart :=
  ⟨3, List.replicate 7 .link, by decide, by decide, rfl, rfl⟩

instance (sizeBits : Nat) (run : BuddyRun) :
    (event : BuddyEvent) → Decidable (Readable sizeBits run event)
  | .releaseMemory _ => inferInstanceAs (Decidable (¬ _))
  | .acquireMemory _ | .clear => inferInstanceAs (Decidable True)

/-- The third request fails, until the first block is released. -/
theorem buddy_exact_sample :
    ∃ run : BuddyRun, run.held = [(3, 1), (0, 2)] ∧ Correct run ∧
      ∀ bucketIndex < 2 ^ 64,
        (Releases 64 run bucketIndex ↔ ¬ Misread 64 run.manager bucketIndex) := by
  have start : ((system 64).restrict (Readable 64)).Reachable sampleStart :=
    .initial initial_sampleStart
  have results : (System.play (System.performIf (perform 64) (Readable 64)) sampleStart
      [.acquireMemory 1, .acquireMemory 2, .acquireMemory 2, .releaseMemory 0, .acquireMemory 2,
        .releaseMemory 2, .releaseMemory 5, .acquireMemory 1, .acquireMemory 1,
        .releaseMemory 2]).map (fun run => run.held) = some [(3, 1), (0, 2)] := by
    decide +kernel
  obtain ⟨run, played, held⟩ := Option.map_eq_some_iff.mp results
  exact ⟨run, held, buddy_exact run (start.play_performIf id played)⟩

/-- The largest index is taken for the release of the second half of four buckets. -/
theorem not_buddy_exact :
    ¬∀ run, (system 64).Reachable run → Correct run ∧
      ∀ bucketIndex < 2 ^ 64, Releases 64 run bucketIndex := by
  intro all
  have results : (System.play (perform 64) sampleStart
      [.acquireMemory 2, .acquireMemory 2]).map (fun run =>
        (run.held, (run.manager.releaseMemoryExtended 64 (2 ^ 64 - 1)).1)) =
          some ([(2, 2), (0, 2)], 1) := by
    decide
  obtain ⟨run, played, result⟩ := Option.map_eq_some_iff.mp results
  obtain ⟨held, released⟩ := Prod.mk.inj result
  have reached : (system 64).Reachable run :=
    (System.Reachable.initial initial_sampleStart).play (fun done => done) played
  have none : ∀ size, (2 ^ 64 - 1, size) ∉ run.held := by
    intro size member
    rw [held] at member
    simp at member
  rw [((all run reached).2 (2 ^ 64 - 1) (by decide)).2 none] at released
  cases released

end BuddyRun

end OpenBsw.Util
