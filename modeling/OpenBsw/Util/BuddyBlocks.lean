import OpenBsw.Util.BuddyOperations

/-!
# Blocks of the buddy memory manager

The partition in terms of blocks of buckets: when the manager is empty, where a
free run of buckets shows that a request succeeds, and which block a release
frees.
-/

namespace OpenBsw.Util

open CompleteTree

namespace BuddyMemoryManager

variable {height : Nat} {manager : BuddyMemoryManager} {Used : Nat → Nat → Prop}

/-! ## Empty managers -/

theorem Sized.clear (sized : Sized height manager) : Sized height manager.clear := by
  refine ⟨?_, sized.nodeTreeDepth, sized.numBuckets⟩
  rw [BuddyMemoryManager.clear, clearNodeTree, List.length_set, List.length_replicate]
  exact sized.length

theorem Sized.nodeTag_clear (sized : Sized height manager) {level index : Nat}
    (small : index < 2 ^ level) :
    manager.clear.nodeTag level index = if level = 0 then .free else .link := by
  have positive : 0 < 2 ^ (height + 1) - 1 := by
    have pos : 0 < 2 ^ height := Nat.two_pow_pos height
    rw [Nat.pow_succ]
    omega
  rw [nodeTag, tag, BuddyMemoryManager.clear, clearNodeTree, List.getD, List.getElem?_set,
    List.length_replicate, sized.length]
  have number := position_add_one level index
  by_cases root : level = 0
  · subst root
    rw [Nat.pow_zero] at small number
    rw [if_pos (by omega), if_pos positive, if_pos rfl]
    rfl
  · have two : 2 ^ 1 ≤ 2 ^ level := Nat.pow_le_pow_right (by decide) (by omega)
    rw [if_neg (by omega), if_neg root, List.getElem?_replicate]
    split <;> rfl

/-- Nothing is used in a cleared manager. -/
theorem Sized.partition_clear (sized : Sized height manager) :
    Partition height (fun _ _ => False) Coalesced manager.clear := by
  have marked : ∀ level index, index < 2 ^ level →
      (manager.clear.Marked level index ↔ level = 0) := by
    intro level index small
    rw [Marked, sized.nodeTag_clear small]
    by_cases root : level = 0
    · simp [root]
    · simp [root]
  refine ⟨sized.clear, ⟨fun leaf small => ?_, ?_⟩, ?_, ?_⟩
  · exact ⟨0, Nat.zero_le _, (marked 0 _ (above_lt (Nat.zero_le _) small)).mpr rfl⟩
  · intro leaf small first firstInside second secondInside markedFirst markedSecond
    rw [marked _ _ (above_lt firstInside small)] at markedFirst
    rw [marked _ _ (above_lt secondInside small)] at markedSecond
    rw [markedFirst, markedSecond]
  · intro level inside index small left
    rw [sized.nodeTag_clear (by rw [Nat.pow_succ]; omega), if_neg (Nat.succ_ne_zero level)] at left
    cases left
  · intro level inside index small
    rw [sized.nodeTag_clear small]
    split <;> simp

/-- A manager is empty when no node is used. -/
theorem Partition.isEmpty_iff (partition : Partition height Used Coalesced manager) :
    manager.isEmpty = true ↔ ∀ level ≤ height, ∀ index < 2 ^ level, ¬ Used level index := by
  have rootSmall : 0 < 2 ^ 0 := by decide
  rw [isEmpty, Bool.and_eq_true, beq_iff_eq, List.all_eq_true]
  constructor
  · rintro ⟨rootFree, others⟩ level inside index small isUsed
    have tag := (partition.used level inside index small).mpr isUsed
    have number := position_add_one level index
    have fits := position_lt inside small
    by_cases root : position level index = 0
    · rw [nodeTag, root, rootFree] at tag
      cases tag
    · have isLink := others (position level index - 1) (List.mem_range.mpr (by
        rw [partition.length]
        omega))
      rw [beq_iff_eq, Nat.sub_add_cancel (by omega)] at isLink
      rw [nodeTag, isLink] at tag
      cases tag
  · intro unused
    have free : ∀ level ≤ height, ∀ index < 2 ^ level, manager.Marked level index →
        manager.nodeTag level index = .free := by
      intro level inside index small marked
      have notUsed :=
        mt (partition.used level inside index small).mp (unused level inside index small)
      unfold Marked at marked
      cases tag : manager.nodeTag level index with
      | free => rfl
      | used => exact absurd tag notUsed
      | link => exact absurd tag marked
    have rootMarked : manager.Marked 0 0 := by
      by_contra unmarked
      obtain ⟨level, index, -, inside, ancestor, left, right⟩ :=
        partition.cut.exists_pair (Nat.zero_le height) rootSmall (by
          intro level below
          obtain rfl := Nat.le_zero.mp below
          exact unmarked)
      have small : index < 2 ^ level := by
        rw [Nat.sub_zero, Nat.div_eq_zero_iff] at ancestor
        exact ancestor.resolve_left (Nat.ne_of_gt (Nat.two_pow_pos level))
      have wide : 2 * index + 1 < 2 ^ (level + 1) := by
        rw [Nat.pow_succ]
        omega
      exact partition.coalesced level inside index small
        (free _ inside _ (by omega) left) (free _ inside _ wide right)
    refine ⟨free 0 (Nat.zero_le _) 0 rootSmall rootMarked, fun place member => ?_⟩
    rw [List.mem_range, partition.length] at member
    obtain ⟨level, inside, index, small, here⟩ :=
      exists_position (show place + 1 < 2 ^ (height + 1) - 1 by omega)
    rw [beq_iff_eq, here]
    by_contra marked
    have root : 0 = level := partition.cut.level_eq (Nat.zero_le level) inside small
      (Nat.div_eq_of_lt small) rootMarked marked
    subst root
    have number := position_add_one 0 index
    omega

/-! ## Blocks -/

/-- Two blocks have no bucket in common. -/
def Apart (first second : Nat × Nat) : Prop :=
  first.1 + first.2 ≤ second.1 ∨ second.1 + second.2 ≤ first.1

/-- The bucket lies in the block. -/
def Within (bucket : Nat) (block : Nat × Nat) : Prop :=
  block.1 ≤ bucket ∧ bucket < block.1 + block.2

theorem apart_iff {first second : Nat × Nat} (some : 0 < first.2) (some' : 0 < second.2) :
    Apart first second ↔ ∀ bucket, Within bucket first → ¬ Within bucket second := by
  constructor
  · intro apart bucket ⟨lower, upper⟩ ⟨lower', upper'⟩
    rcases apart with before | behind <;> omega
  · intro separate
    by_contra overlap
    rw [Apart, not_or, Nat.not_le, Nat.not_le] at overlap
    refine separate (max first.1 second.1) ⟨Nat.le_max_left .., ?_⟩ ⟨Nat.le_max_right .., ?_⟩
    · omega
    · omega

theorem block_pos (height level index : Nat) : 0 < (block height level index).2 :=
  Nat.two_pow_pos _

theorem block_inj {level index level' index' : Nat} (inside : level ≤ height)
    (inside' : level' ≤ height) (equal : block height level index = block height level' index') :
    level = level' ∧ index = index' := by
  obtain ⟨starts, sizes⟩ := Prod.mk.inj equal
  have powers := Nat.pow_right_injective (Nat.le_refl 2) sizes
  obtain rfl : level = level' := by omega
  exact ⟨rfl, Nat.mul_right_cancel (Nat.two_pow_pos _) starts⟩

/-- A bucket belongs to the block of the node above it. -/
theorem within_block_iff {level index bucket : Nat} :
    Within bucket (block height level index) ↔ above height level bucket = index :=
  above_eq_iff.symm

theorem block_end_le {level index : Nat} (inside : level ≤ height) (small : index < 2 ^ level) :
    (block height level index).1 + (block height level index).2 ≤ 2 ^ height := by
  have whole : 2 ^ level * 2 ^ (height - level) = 2 ^ height := by
    rw [← Nat.pow_add, Nat.add_sub_cancel' inside]
  have next : (index + 1) * 2 ^ (height - level) ≤ 2 ^ level * 2 ^ (height - level) :=
    Nat.mul_le_mul_right _ small
  rw [whole, Nat.succ_mul] at next
  exact next

/-- The blocks of two marked nodes are apart. -/
theorem Partition.apart {Exempt : Nat → Nat → Prop}
    (partition : Partition height Used Exempt manager) {level index level' index' : Nat}
    (inside : level ≤ height) (small : index < 2 ^ level) (inside' : level' ≤ height)
    (marked : manager.Marked level index) (marked' : manager.Marked level' index')
    (other : ¬ (level' = level ∧ index' = index)) :
    Apart (block height level index) (block height level' index') := by
  rw [apart_iff (block_pos ..) (block_pos ..)]
  intro bucket within within'
  have bounded : bucket < 2 ^ height := Nat.lt_of_lt_of_le within.2 (block_end_le inside small)
  rw [within_block_iff] at within within'
  obtain rfl := partition.cut.unique bucket bounded level inside level' inside'
    (by rw [within]; exact marked) (by rw [within']; exact marked')
  exact other ⟨rfl, within'.symm.trans within⟩

/-- Where an aligned run of buckets is apart from all used nodes, there is a free
node at or above its level. -/
theorem Partition.exists_free (partition : Partition height Used Coalesced manager)
    {level index : Nat} (inside : level ≤ height) (small : index < 2 ^ level)
    (apart : ∀ level' ≤ height, ∀ index' < 2 ^ level', Used level' index' →
      Apart (block height level' index') (block height level index)) :
    ∃ level' ≤ level, ∃ index' < 2 ^ level', manager.nodeTag level' index' = .free := by
  -- a marked node that shares a bucket with the run is not used
  have free : ∀ level' ≤ height, ∀ index' < 2 ^ level', manager.Marked level' index' →
      ∀ bucket, above height level' bucket = index' → above height level bucket = index →
        manager.nodeTag level' index' = .free := by
    intro level' inside' index' small' marked bucket ofNode ofRun
    unfold Marked at marked
    cases tag : manager.nodeTag level' index' with
    | free => rfl
    | link => exact absurd tag marked
    | used =>
      have isUsed := (partition.used level' inside' index' small').mp tag
      exact absurd (within_block_iff.mpr ofRun)
        ((apart_iff (block_pos ..) (block_pos ..)).mp
          (apart level' inside' index' small' isUsed) bucket (within_block_iff.mpr ofNode))
  by_contra none
  obtain ⟨level', index', lower, upper, ancestor, left, right⟩ :=
    partition.cut.exists_pair inside small (by
      intro level' below marked
      refine none ⟨level', below, _, ?_, free level' (below.trans inside) _ ?_ marked
        (index * 2 ^ (height - level)) ?_ (above_first height level index)⟩
      · rw [Nat.div_lt_iff_lt_mul (Nat.two_pow_pos _), ← Nat.pow_add, Nat.add_sub_cancel' below]
        exact small
      · rw [Nat.div_lt_iff_lt_mul (Nat.two_pow_pos _), ← Nat.pow_add, Nat.add_sub_cancel' below]
        exact small
      · rw [← above_div _ below inside, above_first])
  have small' : index' < 2 ^ level' := by
    rw [← ancestor, Nat.div_lt_iff_lt_mul (Nat.two_pow_pos _), ← Nat.pow_add,
      Nat.add_sub_cancel' lower] at small
    exact small
  have child : ∀ side < 2, manager.Marked (level' + 1) (2 * index' + side) →
      manager.nodeTag (level' + 1) (2 * index' + side) = .free := by
    intro side one marked
    refine free (level' + 1) upper _ (by rw [Nat.pow_succ]; omega) marked
      ((2 * index' + side) * 2 ^ (height - (level' + 1))) (above_first ..) ?_
    have parent := above_succ_div ((2 * index' + side) * 2 ^ (height - (level' + 1))) upper
    rw [above_first] at parent
    rw [← above_div _ lower (Nat.le_of_lt upper), ← parent]
    have half : (2 * index' + side) / 2 = index' := by omega
    rw [half]
    exact ancestor
  exact partition.coalesced level' upper index' small' (child 0 (by decide) left)
    (child 1 (by decide) right)

/-- Which nodes are used may be said in other words. -/
theorem Partition.congr {Used' : Nat → Nat → Prop}
    (partition : Partition height Used Coalesced manager)
    (same : ∀ level ≤ height, ∀ index < 2 ^ level, (Used level index ↔ Used' level index)) :
    Partition height Used' Coalesced manager :=
  { partition with
    used := fun level inside index small =>
      (partition.used level inside index small).trans (same level inside index small) }

/-! ## Releasing an index -/

/-- A release frees the node in use that starts at the index, and does nothing if
there is none. -/
theorem Partition.releaseMemoryExtended_cases
    (partition : Partition height Used Coalesced manager) {sizeBits bucketIndex : Nat}
    (wide : height + 1 < sizeBits) (representable : bucketIndex < 2 ^ sizeBits)
    (read : ¬ Misread sizeBits manager bucketIndex) :
    (∃ level ≤ height, ∃ index < 2 ^ level, Used level index ∧
      (block height level index).1 = bucketIndex ∧
      (manager.releaseMemoryExtended sizeBits bucketIndex).1 = (block height level index).2 ∧
      Partition height
        (fun level' index' => Used level' index' ∧ ¬ (level' = level ∧ index' = index)) Coalesced
        (manager.releaseMemoryExtended sizeBits bucketIndex).2) ∨
    (manager.releaseMemoryExtended sizeBits bucketIndex = (0, manager) ∧
      ∀ level ≤ height, ∀ index < 2 ^ level, Used level index →
        (block height level index).1 ≠ bucketIndex) := by
  have sized := partition.toSized
  rw [releaseMemoryExtended, sized.nodeTreeDepth, sized.numBuckets]
  by_cases small : bucketIndex < 2 ^ height
  · rcases sized.releaseFromLevel_cases wide small (height + 1)
        (show height + 1 + 0 = height + 1 from rfl) with
      ⟨level, inside, ⟨aligned, isUsed⟩, result⟩ | ⟨result, none⟩
    · rw [Nat.sub_zero, Nat.pow_zero] at result
      rw [result]
      have indexSmall : bucketIndex / 2 ^ (height - level) < 2 ^ level := above_lt inside small
      refine .inl ⟨level, inside, _, indexSmall,
        (partition.used level inside _ indexSmall).mp isUsed,
        Nat.div_mul_cancel (Nat.dvd_of_mod_eq_zero aligned), rfl, ?_⟩
      exact freeNode_spec inside indexSmall (partition.release inside indexSmall isUsed) sized
    · rw [Nat.sub_zero, Nat.pow_zero] at result
      refine .inr ⟨result, fun level inside index indexSmall isUsed start => ?_⟩
      subst start
      refine none level (Nat.zero_le _) inside ⟨Nat.mul_mod_left .., ?_⟩
      rw [block, Nat.mul_div_cancel _ (Nat.two_pow_pos _)]
      exact (partition.used level inside index indexSmall).mpr isUsed
  · have outside := sized.releaseFromLevel_outside wide (Nat.le_of_not_lt small)
      representable height (show height + 0 = height from rfl) (fun root some => by omega)
    rw [Nat.sub_zero, Nat.pow_zero, if_neg read] at outside
    refine .inr ⟨outside, fun level inside index indexSmall _ start => ?_⟩
    have fits := block_end_le inside indexSmall
    have positive := block_pos height level index
    omega

/-- A misread release reports a freed bucket. -/
theorem Sized.releaseMemoryExtended_misread (sized : Sized height manager)
    {sizeBits bucketIndex : Nat} (wide : height + 1 < sizeBits)
    (representable : bucketIndex < 2 ^ sizeBits) (misread : Misread sizeBits manager bucketIndex) :
    2 ^ height ≤ bucketIndex ∧ (manager.releaseMemoryExtended sizeBits bucketIndex).1 = 1 := by
  have bound : 2 ^ (height + 1) ≤ 2 ^ sizeBits :=
    Nat.pow_le_pow_right (by decide) (Nat.le_of_lt wide)
  have large : 2 ^ height ≤ bucketIndex := by
    have wraps := misread.2.1
    rw [sized.numBuckets] at wraps
    rw [Nat.pow_succ] at bound
    omega
  have outside := sized.releaseFromLevel_outside wide large representable height
    (show height + 0 = height from rfl) (fun root some => by omega)
  rw [Nat.sub_zero, Nat.pow_zero, if_pos misread] at outside
  rw [releaseMemoryExtended, sized.nodeTreeDepth, sized.numBuckets, outside]
  exact ⟨large, rfl⟩

/-- The block of a node in use. -/
def IsUsedBlock (manager : BuddyMemoryManager) (block : Nat × Nat) : Prop :=
  ∃ level < manager.nodeTreeDepth, ∃ index < 2 ^ level,
    manager.isNodeUsed (2 ^ level - 1 + index) = true ∧
      block = (index * manager.levelToBucketNum level, manager.levelToBucketNum level)

theorem Partition.isUsedBlock_iff (partition : Partition height Used Coalesced manager)
    (other : Nat × Nat) :
    IsUsedBlock manager other ↔
      ∃ level ≤ height, ∃ index < 2 ^ level,
        Used level index ∧ other = block height level index := by
  have same : ∀ level ≤ height, ∀ index < 2 ^ level,
      (manager.isNodeUsed (2 ^ level - 1 + index) = true ↔ Used level index) :=
    fun level inside index small =>
      (isNodeUsed_position level index).trans (partition.used level inside index small)
  rw [IsUsedBlock, partition.nodeTreeDepth]
  simp only [Nat.lt_succ_iff, partition.toSized.levelToBucketNum]
  constructor
  · rintro ⟨level, inside, index, small, isUsed, equal⟩
    exact ⟨level, inside, index, small, (same level inside index small).mp isUsed, equal⟩
  · rintro ⟨level, inside, index, small, isUsed, equal⟩
    exact ⟨level, inside, index, small, (same level inside index small).mpr isUsed, equal⟩

end BuddyMemoryManager

end OpenBsw.Util
