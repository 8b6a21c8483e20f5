import OpenBsw.Util.BuddyMemoryManager

/-!
# The partition of the memory

The nodes that are free or used cut the tree: each bucket belongs to exactly one
of them.  Buddies are not both free, except for one pair while a node is split or
merged.
-/

namespace OpenBsw.Util.BuddyMemoryManager

open CompleteTree

variable {height : Nat} {manager : BuddyMemoryManager}

/-! ## Tags of nodes -/

def nodeTag (manager : BuddyMemoryManager) (level index : Nat) : NodeTag :=
  manager.tag (position level index)

/-- The node stands for its memory. -/
def Marked (manager : BuddyMemoryManager) (level index : Nat) : Prop :=
  manager.nodeTag level index ≠ .link

/-- A manager of `2 ^ height` buckets. -/
structure Sized (height : Nat) (manager : BuddyMemoryManager) : Prop where
  length : manager.nodeTree.length = 2 ^ (height + 1) - 1
  nodeTreeDepth : manager.nodeTreeDepth = height + 1
  numBuckets : manager.numBuckets = 2 ^ height

theorem Sized.setTag (sized : Sized height manager) (nodePosition : Nat) (tag : NodeTag) :
    Sized height (manager.setTag nodePosition tag) :=
  ⟨(List.length_set ..).trans sized.length, sized.nodeTreeDepth, sized.numBuckets⟩

theorem Sized.levelToBucketNum (sized : Sized height manager) (level : Nat) :
    manager.levelToBucketNum level = 2 ^ (height - level) := by
  rw [BuddyMemoryManager.levelToBucketNum, sized.nodeTreeDepth, Nat.one_shiftLeft,
    Nat.add_sub_cancel]

theorem Sized.tag_setTag (sized : Sized height manager) {nodePosition : Nat}
    (inside : nodePosition < 2 ^ (height + 1) - 1) (tag : NodeTag) (other : Nat) :
    (manager.setTag nodePosition tag).tag other =
      if other = nodePosition then tag else manager.tag other := by
  rw [BuddyMemoryManager.tag, BuddyMemoryManager.tag, BuddyMemoryManager.setTag, List.getD,
    List.getD, List.getElem?_set]
  by_cases same : other = nodePosition
  · rw [if_pos same, if_pos same.symm, if_pos (by rw [sized.length]; exact inside)]
    rfl
  · rw [if_neg same, if_neg (Ne.symm same)]

/-- Only the tagged node changes. -/
theorem Sized.nodeTag_setTag (sized : Sized height manager) {level index : Nat}
    (inside : level ≤ height) (small : index < 2 ^ level) (tag : NodeTag) {level' index' : Nat}
    (small' : index' < 2 ^ level') :
    (manager.setTag (position level index) tag).nodeTag level' index' =
      if level' = level ∧ index' = index then tag else manager.nodeTag level' index' := by
  rw [nodeTag, sized.tag_setTag (position_lt inside small)]
  simp only [position_inj small' small]
  rfl

theorem isNodeFree_position (level index : Nat) :
    manager.isNodeFree (position level index) = true ↔ manager.nodeTag level index = .free :=
  beq_iff_eq

theorem isNodeUsed_position (level index : Nat) :
    manager.isNodeUsed (position level index) = true ↔ manager.nodeTag level index = .used :=
  beq_iff_eq

/-! ## The invariant -/

/-- The tags cut the tree into free nodes and the nodes in use; buddies below an
exempt node may both be free. -/
structure Partition (height : Nat) (Used Exempt : Nat → Nat → Prop)
    (manager : BuddyMemoryManager) : Prop extends Sized height manager where
  cut : IsCut height manager.Marked
  coalesced : ∀ level < height, ∀ index < 2 ^ level,
    manager.nodeTag (level + 1) (2 * index) = .free →
      manager.nodeTag (level + 1) (2 * index + 1) = .free → Exempt level index
  used : ∀ level ≤ height, ∀ index < 2 ^ level,
    (manager.nodeTag level index = .used ↔ Used level index)

/-- No buddies are both free. -/
def Coalesced (_level _index : Nat) : Prop := False

/-- Only a node and its buddy may both be free. -/
def ParentOf (level index : Nat) (parentLevel parentIndex : Nat) : Prop :=
  parentLevel + 1 = level ∧ parentIndex = index / 2

variable {Used Exempt : Nat → Nat → Prop} {level index : Nat}

/-- A node in the middle of an operation: it is free, perhaps as its buddy. -/
structure Pending (height : Nat) (Used : Nat → Nat → Prop) (level index : Nat)
    (manager : BuddyMemoryManager) : Prop where
  partition : Partition height Used (ParentOf level index) manager
  isFree : manager.nodeTag level index = .free

/-- Between operations a free node is pending. -/
theorem Partition.pending (partition : Partition height Used Coalesced manager)
    (isFree : manager.nodeTag level index = .free) : Pending height Used level index manager :=
  ⟨{ partition with
      coalesced := fun level inside index small left right =>
        (partition.coalesced level inside index small left right).elim },
    isFree⟩

/-- The pending node is taken. -/
theorem Pending.tagNodeUsed (pending : Pending height Used level index manager)
    (inside : level ≤ height) (small : index < 2 ^ level) :
    Partition height (fun level' index' => Used level' index' ∨ (level' = level ∧ index' = index))
      Coalesced (manager.tagNodeUsed (position level index)) := by
  have partition := pending.partition
  have tags : ∀ level' index', index' < 2 ^ level' →
      (manager.tagNodeUsed (position level index)).nodeTag level' index' =
        if level' = level ∧ index' = index then .used else manager.nodeTag level' index' :=
    fun level' index' small' => partition.toSized.nodeTag_setTag inside small .used small'
  refine ⟨partition.toSized.setTag _ _, ?_, ?_, ?_⟩
  · refine partition.cut.congr fun level' _ index' small' => ?_
    rw [Marked, Marked, tags level' index' small']
    by_cases same : level' = level ∧ index' = index
    · obtain ⟨rfl, rfl⟩ := same
      simp [pending.isFree]
    · rw [if_neg same]
  · intro level' inside' index' small' left right
    have wide : 2 * index' + 1 < 2 ^ (level' + 1) := by
      rw [Nat.pow_succ]
      omega
    rw [tags _ _ (by omega)] at left
    rw [tags _ _ wide] at right
    split at left
    · cases left
    · split at right
      · cases right
      · obtain ⟨parent, half⟩ := partition.coalesced level' inside' index' small' left right
        omega
  · intro level' inside' index' small'
    rw [tags level' index' small', ← partition.used level' inside' index' small']
    by_cases same : level' = level ∧ index' = index
    · simp [same]
    · simp [same]

/-! ## Splitting -/

theorem Sized.splitNode (sized : Sized height manager) (nodePosition : Nat) :
    Sized height (manager.splitNode nodePosition) :=
  ((sized.setTag _ _).setTag _ _).setTag _ _

/-- A split links the node and frees its children. -/
theorem Sized.nodeTag_splitNode (sized : Sized height manager) (inside : level < height)
    (small : index < 2 ^ level) {level' index' : Nat} (small' : index' < 2 ^ level') :
    (manager.splitNode (position level index)).nodeTag level' index' =
      if level' = level ∧ index' = index then .link
      else if level' = level + 1 ∧ index' / 2 = index then .free
      else manager.nodeTag level' index' := by
  have wide : 2 * index + 1 < 2 ^ (level + 1) := by
    rw [Nat.pow_succ]
    omega
  have leftChild : (position level index <<< 1) + 1 = position (level + 1) (2 * index) := by
    rw [position_left, Nat.shiftLeft_eq, Nat.pow_one, Nat.mul_comm]
  have rightChild : position (level + 1) (2 * index) + 1 =
      position (level + 1) (2 * index + 1) := rfl
  rw [BuddyMemoryManager.splitNode, leftChild, rightChild, tagNodeFree, tagNodeFree, tagNodeLink,
    ((sized.setTag _ _).setTag _ _).nodeTag_setTag (Nat.succ_le_of_lt inside) wide _ small',
    (sized.setTag _ _).nodeTag_setTag (Nat.succ_le_of_lt inside) (by omega) _ small',
    sized.nodeTag_setTag (Nat.le_of_lt inside) small _ small']
  split_ifs <;> first | rfl | omega

/-- The left child of a pending node is pending. -/
theorem Pending.splitNode (pending : Pending height Used level index manager)
    (inside : level < height) (small : index < 2 ^ level) :
    Pending height Used (level + 1) (2 * index) (manager.splitNode (position level index)) := by
  have partition := pending.partition
  have tags : ∀ level' index', index' < 2 ^ level' →
      (manager.splitNode (position level index)).nodeTag level' index' = _ :=
    fun level' index' small' => partition.toSized.nodeTag_splitNode inside small small'
  have wide : 2 * index + 1 < 2 ^ (level + 1) := by
    rw [Nat.pow_succ]
    omega
  have marked : manager.Marked level index := by
    rw [Marked, pending.isFree]
    decide
  refine ⟨⟨partition.toSized.splitNode _, ?_, ?_, ?_⟩, ?_⟩
  · refine partition.cut.split inside marked fun level' _ index' small' => ?_
    rw [Marked, Marked, tags level' index' small']
    split_ifs with same child
    · simp only [ne_eq, not_true_eq_false, same, and_self, and_false, false_or, false_iff]
      omega
    · simp only [ne_eq, reduceCtorEq, not_false_eq_true, child, and_self, or_true]
    · simp only [same, not_false_eq_true, and_true, child, or_false]
  · intro level' inside' index' small' left right
    have wide' : 2 * index' + 1 < 2 ^ (level' + 1) := by
      rw [Nat.pow_succ]
      omega
    rw [tags _ _ (by omega)] at left
    rw [tags _ _ wide'] at right
    by_cases here : level' = level ∧ index' = index
    · obtain ⟨rfl, rfl⟩ := here
      exact ⟨rfl, by omega⟩
    · split_ifs at left with same child
      · omega
      · split_ifs at right with same' child'
        · omega
        · obtain ⟨parent, half⟩ := partition.coalesced level' inside' index' small' left right
          omega
  · intro level' inside' index' small'
    rw [tags level' index' small', ← partition.used level' inside' index' small']
    split_ifs with same child
    · obtain ⟨rfl, rfl⟩ := same
      rw [pending.isFree]
      decide
    · obtain ⟨rfl, half⟩ := child
      have below : ¬ manager.Marked (level + 1) index' := by
        intro both
        have ancestor : index' / 2 ^ (level + 1 - level) = index := by
          rw [Nat.add_sub_cancel_left, Nat.pow_one]
          exact half
        have equal := partition.cut.level_eq (Nat.le_succ level) inside' small' ancestor marked both
        omega
      rw [not_not.mp below]
      decide
    · rfl
  · rw [tags _ _ (by omega), if_neg (by omega), if_pos ⟨rfl, by omega⟩]

/-! ## Merging -/

/-- Two free buddies become their free parent, which is pending. -/
theorem Pending.merge {merged : BuddyMemoryManager}
    (partition : Partition height Used (ParentOf (level + 1) index) manager)
    (inside : level < height) (small : index < 2 ^ (level + 1))
    (left : manager.nodeTag (level + 1) (2 * (index / 2)) = .free)
    (right : manager.nodeTag (level + 1) (2 * (index / 2) + 1) = .free)
    (sized : Sized height merged)
    (tags : ∀ level' index', index' < 2 ^ level' → merged.nodeTag level' index' =
      if level' = level ∧ index' = index / 2 then .free
      else if level' = level + 1 ∧ index' / 2 = index / 2 then .link
      else manager.nodeTag level' index') :
    Pending height Used level (index / 2) merged := by
  have half : index / 2 < 2 ^ level := by
    rw [Nat.pow_succ] at small
    omega
  have wide : 2 * (index / 2) + 1 < 2 ^ (level + 1) := by
    rw [Nat.pow_succ]
    omega
  have markedLeft : manager.Marked (level + 1) (2 * (index / 2)) := by
    rw [Marked, left]
    decide
  have markedRight : manager.Marked (level + 1) (2 * (index / 2) + 1) := by
    rw [Marked, right]
    decide
  refine ⟨⟨sized, ?_, ?_, ?_⟩, ?_⟩
  · refine partition.cut.merge inside markedLeft markedRight fun level' _ index' small' => ?_
    rw [Marked, Marked, tags level' index' small']
    split_ifs with same child
    · simp only [ne_eq, reduceCtorEq, not_false_eq_true, same, and_self, or_true]
    · simp only [ne_eq, not_true_eq_false, child, and_self, and_false, false_or, false_iff]
      omega
    · simp only [same, or_false, child, not_false_eq_true, and_true]
  · intro level' inside' index' small' bothLeft bothRight
    have wide' : 2 * index' + 1 < 2 ^ (level' + 1) := by
      rw [Nat.pow_succ]
      omega
    rw [tags _ _ (by omega)] at bothLeft
    rw [tags _ _ wide'] at bothRight
    by_cases around : level' + 1 = level ∧ index' = index / 2 / 2
    · exact around
    · split_ifs at bothLeft with same child
      · omega
      · split_ifs at bothRight with same' child'
        · omega
        · obtain ⟨parent, equal⟩ :=
            partition.coalesced level' inside' index' small' bothLeft bothRight
          omega
  · intro level' inside' index' small'
    rw [tags level' index' small', ← partition.used level' inside' index' small']
    split_ifs with same child
    · obtain ⟨rfl, rfl⟩ := same
      have above : ¬ manager.Marked level' (index / 2) := by
        intro both
        have ancestor : 2 * (index / 2) / 2 ^ (level' + 1 - level') = index / 2 := by
          rw [Nat.add_sub_cancel_left, Nat.pow_one]
          omega
        have equal := partition.cut.level_eq (Nat.le_succ level') (Nat.succ_le_of_lt inside)
          (by omega) ancestor both markedLeft
        omega
      rw [not_not.mp above]
      decide
    · obtain ⟨rfl, parent⟩ := child
      have cases : index' = 2 * (index / 2) ∨ index' = 2 * (index / 2) + 1 := by omega
      rcases cases with rfl | rfl
      · rw [left]
        decide
      · rw [right]
        decide
    · rfl
  · rw [tags _ _ half, if_pos ⟨rfl, rfl⟩]

/-- The index of the buddy of a node. -/
def buddyIndex (index : Nat) : Nat :=
  if index % 2 = 0 then index + 1 else index - 1

theorem buddyIndex_lt (small : index < 2 ^ (level + 1)) : buddyIndex index < 2 ^ (level + 1) := by
  rw [Nat.pow_succ] at small ⊢
  rw [buddyIndex]
  split <;> omega

theorem buddyIndex_ne (index : Nat) : buddyIndex index ≠ index := by
  rw [buddyIndex]
  split <;> omega

/-- A node with its buddy, in order. -/
theorem buddies_cases (index : Nat) :
    (index = 2 * (index / 2) ∧ buddyIndex index = 2 * (index / 2) + 1) ∨
      (index = 2 * (index / 2) + 1 ∧ buddyIndex index = 2 * (index / 2)) := by
  rw [buddyIndex]
  split <;> omega

theorem buddy_position (level index : Nat) :
    buddy (position (level + 1) index) = position (level + 1) (buddyIndex index) := by
  have number := position_add_one (level + 1) index
  have number' := position_add_one (level + 1) (buddyIndex index)
  have even : 2 ^ (level + 1) = 2 * 2 ^ level := Nat.pow_succ'
  have positive : 0 < 2 ^ level := Nat.two_pow_pos level
  rw [buddy, isLeftSibling, Nat.and_one_is_mod]
  rw [buddyIndex] at number' ⊢
  by_cases isLeft : index % 2 = 0
  · rw [if_pos isLeft] at number' ⊢
    rw [if_pos (by simp only [bne_iff_ne]; omega)]
    omega
  · rw [if_neg isLeft] at number' ⊢
    rw [if_neg (by simp only [bne_iff_ne]; omega)]
    omega

theorem parentPosition_position (level index : Nat) :
    parentPosition (position (level + 1) index) = position level (index / 2) := by
  have number := position_add_one (level + 1) index
  have number' := position_add_one level (index / 2)
  have even : 2 ^ (level + 1) = 2 * 2 ^ level := Nat.pow_succ'
  have positive : 0 < 2 ^ level := Nat.two_pow_pos level
  rw [parentPosition, Nat.shiftRight_eq_div_pow, Nat.pow_one]
  omega

/-- A used node becomes pending. -/
theorem Partition.release (partition : Partition height Used Coalesced manager)
    (inside : level ≤ height) (small : index < 2 ^ level)
    (isUsed : manager.nodeTag level index = .used) :
    Pending height (fun level' index' => Used level' index' ∧ ¬ (level' = level ∧ index' = index))
      level index (manager.tagNodeFree (position level index)) := by
  have tags : ∀ level' index', index' < 2 ^ level' →
      (manager.tagNodeFree (position level index)).nodeTag level' index' =
        if level' = level ∧ index' = index then .free else manager.nodeTag level' index' :=
    fun level' index' small' => partition.toSized.nodeTag_setTag inside small .free small'
  refine ⟨⟨partition.toSized.setTag _ _, ?_, ?_, ?_⟩, ?_⟩
  · refine partition.cut.congr fun level' _ index' small' => ?_
    rw [Marked, Marked, tags level' index' small']
    by_cases same : level' = level ∧ index' = index
    · obtain ⟨rfl, rfl⟩ := same
      simp [isUsed]
    · rw [if_neg same]
  · intro level' inside' index' small' left right
    have wide : 2 * index' + 1 < 2 ^ (level' + 1) := by
      rw [Nat.pow_succ]
      omega
    rw [tags _ _ (by omega)] at left
    rw [tags _ _ wide] at right
    split_ifs at left right with sameLeft sameRight sameRight
    · exact ⟨sameLeft.1, by omega⟩
    · exact ⟨sameLeft.1, by omega⟩
    · exact ⟨sameRight.1, by omega⟩
    · exact (partition.coalesced level' inside' index' small' left right).elim
  · intro level' inside' index' small'
    rw [tags level' index' small', ← partition.used level' inside' index' small']
    by_cases same : level' = level ∧ index' = index
    · simp [same]
    · simp [same]
  · rw [tags _ _ small, if_pos ⟨rfl, rfl⟩]

/-- A pending node without a free buddy is settled. -/
theorem Pending.settled (pending : Pending height Used (level + 1) index manager)
    (buddyTaken : manager.nodeTag (level + 1) (buddyIndex index) ≠ .free) :
    Partition height Used Coalesced manager := by
  refine { pending.partition with coalesced := fun level' inside index' small left right => ?_ }
  obtain ⟨parent, rfl⟩ := pending.partition.coalesced level' inside index' small left right
  obtain rfl : level' = level := by omega
  rcases buddies_cases index with ⟨-, isRight⟩ | ⟨-, isLeft⟩
  · rw [isRight] at buddyTaken
    exact buddyTaken right
  · rw [isLeft] at buddyTaken
    exact buddyTaken left

/-- `freeNode` merges the pending node upwards until it is settled. -/
theorem freeNode_spec (inside : level ≤ height) (small : index < 2 ^ level)
    (pending : Pending height Used level index (manager.tagNodeFree (position level index)))
    (sized : Sized height manager) :
    Partition height Used Coalesced (manager.freeNode (position level index)) := by
  induction level generalizing index manager with
  | zero =>
    have root : position 0 index = 0 := by
      rw [position]
      omega
    rw [BuddyMemoryManager.freeNode, if_neg (by omega)]
    refine { pending.partition with coalesced := fun level' inside index' small left right => ?_ }
    obtain ⟨impossible, -⟩ := pending.partition.coalesced level' inside index' small left right
    cases impossible
  | succ level ih =>
    have positive : 0 < position (level + 1) index := by
      have number := position_add_one (level + 1) index
      have even : 2 ^ (level + 1) = 2 * 2 ^ level := Nat.pow_succ'
      have pos : 0 < 2 ^ level := Nat.two_pow_pos level
      omega
    have buddySmall := buddyIndex_lt small
    have same : (manager.tagNodeFree (position (level + 1) index)).nodeTag (level + 1)
        (buddyIndex index) = manager.nodeTag (level + 1) (buddyIndex index) := by
      rw [tagNodeFree, sized.nodeTag_setTag inside small _ buddySmall, if_neg]
      exact fun equal => buddyIndex_ne index equal.2
    rw [BuddyMemoryManager.freeNode, if_pos positive, buddy_position, parentPosition_position]
    by_cases free : manager.isNodeFree (position (level + 1) (buddyIndex index)) = true
    · rw [if_pos free]
      have buddyFree := (isNodeFree_position _ _).mp free
      have half : index / 2 < 2 ^ level := by
        rw [Nat.pow_succ] at small
        omega
      have linked := (sized.setTag (position (level + 1) index) .link).setTag
        (position (level + 1) (buddyIndex index)) .link
      refine ih (Nat.le_of_succ_le inside) half ?_ linked
      refine Pending.merge pending.partition (Nat.lt_of_succ_le inside) small ?_ ?_
        (linked.setTag _ _) ?_
      · rcases buddies_cases index with ⟨isLeft, -⟩ | ⟨-, isLeft⟩
        · rw [← isLeft]
          exact pending.isFree
        · rw [← isLeft, same]
          exact buddyFree
      · rcases buddies_cases index with ⟨-, isRight⟩ | ⟨isRight, -⟩
        · rw [← isRight, same]
          exact buddyFree
        · rw [← isRight]
          exact pending.isFree
      · intro level' index' small'
        rw [tagNodeFree, tagNodeLink, tagNodeLink,
          linked.nodeTag_setTag (Nat.le_of_succ_le inside) half _ small',
          (sized.setTag _ _).nodeTag_setTag inside buddySmall _ small',
          sized.nodeTag_setTag inside small _ small', tagNodeFree,
          sized.nodeTag_setTag inside small _ small']
        have halves := buddies_cases index
        split_ifs <;> first | rfl | omega
    · rw [if_neg free]
      refine pending.settled ?_
      rw [same]
      exact fun isFree => free ((isNodeFree_position _ _).mpr isFree)

end OpenBsw.Util.BuddyMemoryManager
