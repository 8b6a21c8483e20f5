import OpenBsw.Util.BuddyPartition

/-!
# Operations of the buddy memory manager

What each operation does to the partition: acquiring takes a node of the level of
the request, unless no free node is at or above that level; releasing gives back
the node in use that starts at the index.
-/

namespace OpenBsw.Util.BuddyMemoryManager

open CompleteTree

variable {height : Nat} {manager : BuddyMemoryManager} {Used : Nat → Nat → Prop}
  {level index : Nat}

/-- The first bucket and the number of buckets of a node. -/
def block (height level index : Nat) : Nat × Nat :=
  (index * 2 ^ (height - level), 2 ^ (height - level))

/-! ## Searching -/

theorem findNode_cases (manager : BuddyMemoryManager) (count nodePosition : Nat) :
    (manager.findNode count nodePosition = none ∧
      ∀ offset < count, manager.isNodeFree (nodePosition + offset) = false) ∨
    ∃ offset < count, manager.findNode count nodePosition = some (nodePosition + offset) ∧
      manager.isNodeFree (nodePosition + offset) = true ∧
      ∀ earlier < offset, manager.isNodeFree (nodePosition + earlier) = false := by
  induction count generalizing nodePosition with
  | zero => exact .inl ⟨rfl, fun offset impossible => absurd impossible (Nat.not_lt_zero offset)⟩
  | succ count ih =>
    rw [findNode]
    by_cases free : manager.isNodeFree nodePosition = true
    · rw [if_pos free]
      exact .inr ⟨0, Nat.succ_pos count, rfl, free,
        fun earlier impossible => absurd impossible (Nat.not_lt_zero earlier)⟩
    · rw [if_neg free]
      have here := Bool.eq_false_iff.mpr free
      rcases ih (nodePosition + 1) with ⟨none, taken⟩ | ⟨offset, inside, found, isFree, taken⟩
      · refine .inl ⟨none, fun offset inside => ?_⟩
        cases offset with
        | zero => exact here
        | succ offset =>
          rw [← Nat.add_assoc, Nat.add_right_comm]
          exact taken offset (Nat.lt_of_succ_lt_succ inside)
      · have shift : nodePosition + (offset + 1) = nodePosition + 1 + offset := by omega
        refine .inr ⟨offset + 1, Nat.succ_lt_succ inside, ?_, ?_, fun earlier before => ?_⟩
        · rw [shift]
          exact found
        · rw [shift]
          exact isFree
        · cases earlier with
          | zero => exact here
          | succ earlier =>
            rw [← Nat.add_assoc, Nat.add_right_comm]
            exact taken earlier (Nat.lt_of_succ_lt_succ before)

/-- The search in a level finds the first free node. -/
theorem findLevel_cases (manager : BuddyMemoryManager) (level : Nat) :
    (manager.findNode (1 <<< level) (1 <<< level - 1) = none ∧
      ∀ index < 2 ^ level, manager.nodeTag level index ≠ .free) ∨
    ∃ index < 2 ^ level,
      manager.findNode (1 <<< level) (1 <<< level - 1) = some (position level index) ∧
      manager.nodeTag level index = .free ∧
      ∀ earlier < index, manager.nodeTag level earlier ≠ .free := by
  rw [Nat.one_shiftLeft]
  have taken : ∀ other, manager.isNodeFree (2 ^ level - 1 + other) = false →
      manager.nodeTag level other ≠ .free := by
    intro other notFree isFree
    exact Bool.eq_false_iff.mp notFree ((isNodeFree_position level other).mpr isFree)
  rcases findNode_cases manager (2 ^ level) (2 ^ level - 1) with
    ⟨none, all⟩ | ⟨index, small, found, isFree, before⟩
  · exact .inl ⟨none, fun index small => taken index (all index small)⟩
  · exact .inr ⟨index, small, found, (isNodeFree_position level index).mp isFree,
      fun earlier less => taken earlier (before earlier less)⟩

theorem Sized.findBucketInLevel_cases (sized : Sized height manager) (level : Nat) :
    (manager.findBucketInLevel level = ({}, manager) ∧
      ∀ index < 2 ^ level, manager.nodeTag level index ≠ .free) ∨
    ∃ index < 2 ^ level,
      manager.findBucketInLevel level =
        ({ bucketIndex := (block height level index).1
           numBuckets := (block height level index).2 },
          manager.tagNodeUsed (position level index)) ∧
      manager.nodeTag level index = .free ∧
      ∀ earlier < index, manager.nodeTag level earlier ≠ .free := by
  rw [findBucketInLevel]
  rcases findLevel_cases manager level with ⟨none, taken⟩ | ⟨index, small, found, isFree, before⟩
  · rw [none]
    exact .inl ⟨rfl, taken⟩
  · rw [found]
    refine .inr ⟨index, small, ?_, isFree, before⟩
    have offset : position level index - (1 <<< level - 1) = index := by
      rw [Nat.one_shiftLeft, position, Nat.add_sub_cancel_left]
    dsimp only
    rw [offset, sized.levelToBucketNum]
    rfl

/-! ## Splitting down to a level -/

/-- The rounds of the splitting loop lead to a pending node of the target level,
before all other free nodes there. -/
theorem Pending.splitRounds (rounds : Nat) (pending : Pending height Used level index manager)
    (inside : level + rounds ≤ height) (small : index < 2 ^ level)
    (taken : ∀ other < 2 ^ (level + rounds),
      rounds ≠ 0 → manager.nodeTag (level + rounds) other ≠ .free) :
    Pending height Used (level + rounds) (index * 2 ^ rounds)
        (manager.splitRounds rounds (position level index)) ∧
      (rounds ≠ 0 → ∀ other < 2 ^ (level + rounds),
        (manager.splitRounds rounds (position level index)).nodeTag (level + rounds) other = .free →
          index * 2 ^ rounds ≤ other) := by
  induction rounds generalizing level index manager with
  | zero =>
    rw [Nat.pow_zero, Nat.mul_one]
    exact ⟨pending, fun impossible => absurd rfl impossible⟩
  | succ rounds ih =>
    have next := pending.splitNode (by omega) small
    have child : (position level index <<< 1) + 1 = position (level + 1) (2 * index) := by
      rw [position_left, Nat.shiftLeft_eq, Nat.pow_one, Nat.mul_comm]
    have total : level + 1 + rounds = level + (rounds + 1) := by omega
    have leftmost : 2 * index * 2 ^ rounds = index * 2 ^ (rounds + 1) := by
      rw [Nat.pow_succ', Nat.mul_comm 2 index, Nat.mul_assoc]
    rw [BuddyMemoryManager.splitRounds, child]
    have tags : ∀ {other : Nat}, other < 2 ^ (level + (rounds + 1)) →
        (manager.splitNode (position level index)).nodeTag (level + (rounds + 1)) other = _ :=
      pending.partition.toSized.nodeTag_splitNode (by omega) small
    obtain ⟨result, before⟩ := ih next (by omega) (by rw [Nat.pow_succ]; omega) (by
      intro other bound some
      rw [total] at bound ⊢
      rw [tags bound, if_neg (by omega), if_neg (by omega)]
      exact taken other bound (Nat.succ_ne_zero rounds))
    rw [total, leftmost] at result before
    refine ⟨result, fun _ other bound isFree => ?_⟩
    by_cases last : rounds = 0
    · subst last
      rw [BuddyMemoryManager.splitRounds, tags bound, if_neg (by omega)] at isFree
      by_cases isChild : other / 2 = index
      · rw [Nat.zero_add, Nat.pow_one]
        omega
      · rw [if_neg (by omega)] at isFree
        exact absurd isFree (taken other bound (Nat.succ_ne_zero 0))
    · exact before last other bound isFree

/-- The search up to the root finds a node to split, unless all levels are taken. -/
theorem Partition.splitFromLevel_cases (partition : Partition height Used Coalesced manager)
    (inside : level ≤ height) (taken : ∀ index < 2 ^ level, manager.nodeTag level index ≠ .free)
    (currentLevel : Nat) (lower : currentLevel < level) :
    (manager.splitFromLevel level currentLevel = manager ∧
      ∀ upper ≤ currentLevel, ∀ index < 2 ^ upper, manager.nodeTag upper index ≠ .free) ∨
    ∃ index < 2 ^ level,
      Pending height Used level index (manager.splitFromLevel level currentLevel) ∧
      ∀ other < 2 ^ level,
        (manager.splitFromLevel level currentLevel).nodeTag level other = .free →
          index ≤ other := by
  have splits : ∀ upper < level, ∀ index < 2 ^ upper, manager.nodeTag upper index = .free →
      ∃ first < 2 ^ level,
        Pending height Used level first
          (manager.splitNodeUntilLevelReached (position upper index) upper level) ∧
        ∀ other < 2 ^ level,
          (manager.splitNodeUntilLevelReached (position upper index) upper level).nodeTag level
            other = .free → first ≤ other := by
    intro upper below index small isFree
    have rounds : max 1 (level - upper) = level - upper := by omega
    have total : upper + (level - upper) = level := by omega
    obtain ⟨result, before⟩ := (partition.pending isFree).splitRounds (level - upper) (by omega)
      small (by
        rw [total]
        exact fun other bound _ => taken other bound)
    rw [total] at result before
    rw [splitNodeUntilLevelReached, rounds]
    refine ⟨index * 2 ^ (level - upper), ?_, result, before (by omega)⟩
    have whole : 2 ^ level = 2 ^ upper * 2 ^ (level - upper) := by
      rw [← Nat.pow_add, total]
    rw [whole]
    exact Nat.mul_lt_mul_of_pos_right small (Nat.two_pow_pos _)
  induction currentLevel with
  | zero =>
    rw [BuddyMemoryManager.splitFromLevel]
    rcases findLevel_cases manager 0 with ⟨none, all⟩ | ⟨index, small, found, isFree, -⟩
    · rw [none]
      refine .inl ⟨rfl, fun upper below => ?_⟩
      obtain rfl := Nat.le_zero.mp below
      exact all
    · rw [found]
      exact .inr (splits 0 lower index small isFree)
  | succ currentLevel ih =>
    rw [BuddyMemoryManager.splitFromLevel]
    rcases findLevel_cases manager (currentLevel + 1) with
      ⟨none, all⟩ | ⟨index, small, found, isFree, -⟩
    · rw [none]
      rcases ih (by omega) with ⟨unchanged, allUpper⟩ | split
      · refine .inl ⟨unchanged, fun upper below => ?_⟩
        rcases Nat.lt_or_eq_of_le below with less | rfl
        · exact allUpper upper (Nat.le_of_lt_succ less)
        · exact all
      · exact .inr split
    · rw [found]
      exact .inr (splits (currentLevel + 1) lower index small isFree)

/-! ## Acquiring -/

/-- The least power of two that is enough for a request. -/
structure Rounded (numBuckets power : Nat) : Prop where
  enough : max numBuckets 1 ≤ 2 ^ power
  least : ∀ other, max numBuckets 1 ≤ 2 ^ other → 2 ^ power ≤ 2 ^ other

/-- The level of a request. -/
theorem Sized.requestLevel (sized : Sized height manager) {numBuckets : Nat}
    (few : numBuckets ≤ 2 ^ height) :
    ∃ power ≤ height, Rounded numBuckets power ∧
      manager.nodeTreeDepth -
        fastLog2 (((if numBuckets = 0 then 1 else numBuckets) <<< 1) - 1) - 1 = height - power := by
  have positive : 0 < 2 ^ height := Nat.two_pow_pos height
  have request : (if numBuckets = 0 then 1 else numBuckets) = max numBuckets 1 := by
    split <;> omega
  have doubled : max numBuckets 1 <<< 1 = 2 * max numBuckets 1 := by
    rw [Nat.shiftLeft_eq, Nat.pow_one, Nat.mul_comm]
  rw [request, doubled, sized.nodeTreeDepth, fastLog2]
  have nonzero : 2 * max numBuckets 1 - 1 ≠ 0 := by omega
  have lower := Nat.log2_self_le nonzero
  have upper : 2 * max numBuckets 1 - 1 < 2 ^ ((2 * max numBuckets 1 - 1).log2 + 1) :=
    Nat.lt_log2_self
  have bounded : (2 * max numBuckets 1 - 1).log2 < height + 1 := by
    rw [Nat.log2_lt nonzero, Nat.pow_succ]
    omega
  refine ⟨(2 * max numBuckets 1 - 1).log2, Nat.le_of_lt_succ bounded, ⟨?_, ?_⟩, by omega⟩
  · rw [Nat.pow_succ] at upper
    omega
  · intro other enough
    refine Nat.pow_le_pow_right (by decide) (Nat.le_of_lt_succ ?_)
    rw [Nat.log2_lt nonzero, Nat.pow_succ]
    omega

/-- A search in a level with a free node takes it. -/
theorem Pending.findBucketInLevel (pending : Pending height Used level index manager)
    (inside : level ≤ height) (small : index < 2 ^ level)
    (first : ∀ other < 2 ^ level, manager.nodeTag level other = .free → index ≤ other) :
    (manager.findBucketInLevel level).1 =
        { bucketIndex := (block height level index).1
          numBuckets := (block height level index).2 } ∧
      Partition height
        (fun level' index' => Used level' index' ∨ (level' = level ∧ index' = index))
        Coalesced (manager.findBucketInLevel level).2 := by
  rcases pending.partition.toSized.findBucketInLevel_cases level with
    ⟨-, taken⟩ | ⟨found, inLevel, result, isFree, before⟩
  · exact absurd pending.isFree (taken index small)
  · have least := first found inLevel isFree
    have same : found = index := by
      by_contra other
      exact before index (by omega) pending.isFree
    subst same
    rw [result]
    exact ⟨rfl, pending.tagNodeUsed inside small⟩

/-- A request takes a node of a level, or no free node is at or above it. -/
def AcquiresAt (height : Nat) (Used : Nat → Nat → Prop) (manager : BuddyMemoryManager)
    (level : Nat) (acquired : AcquireResult × BuddyMemoryManager) : Prop :=
  (acquired = ({}, manager) ∧
    ∀ upper ≤ level, ∀ index < 2 ^ upper, manager.nodeTag upper index ≠ .free) ∨
  ∃ index < 2 ^ level, ¬ Used level index ∧
    acquired.1 =
      { bucketIndex := (block height level index).1
        numBuckets := (block height level index).2 } ∧
    Partition height (fun level' index' => Used level' index' ∨ (level' = level ∧ index' = index))
      Coalesced acquired.2

theorem Partition.acquiresAt (partition : Partition height Used Coalesced manager)
    (inside : level ≤ height) :
    AcquiresAt height Used manager level
      (if (manager.findBucketInLevel level).1.isValid then manager.findBucketInLevel level
        else if level = 0 then ({}, manager)
        else (manager.tryToSplitParentLevel level).findBucketInLevel level) := by
  rcases partition.toSized.findBucketInLevel_cases level with
    ⟨none, taken⟩ | ⟨index, small, -, isFree, before⟩
  · have invalid : ¬ (({}, manager) : AcquireResult × BuddyMemoryManager).1.isValid = true :=
      Bool.false_ne_true
    rw [none, if_neg invalid]
    by_cases root : level = 0
    · subst root
      rw [if_pos rfl]
      refine .inl ⟨rfl, fun upper below => ?_⟩
      obtain rfl := Nat.le_zero.mp below
      exact taken
    · rw [if_neg root, tryToSplitParentLevel]
      rcases partition.splitFromLevel_cases inside taken (level - 1) (by omega) with
        ⟨unchanged, all⟩ | ⟨index, small, pending, first⟩
      · rw [unchanged, none]
        refine .inl ⟨rfl, fun upper below => ?_⟩
        by_cases last : upper = level
        · rw [last]
          exact taken
        · exact all upper (by omega)
      · obtain ⟨result, taken⟩ := pending.findBucketInLevel inside small first
        refine .inr ⟨index, small, fun isUsed => ?_, result, taken⟩
        have tag := (pending.partition.used level inside index small).mpr isUsed
        rw [pending.isFree] at tag
        cases tag
  · have first : ∀ other < 2 ^ level, manager.nodeTag level other = .free → index ≤ other := by
      intro other _ free
      by_contra less
      exact before other (by omega) free
    obtain ⟨result, taken⟩ := (partition.pending isFree).findBucketInLevel inside small first
    have valid : (manager.findBucketInLevel level).1.isValid = true := by
      rw [result, AcquireResult.isValid, bne_iff_ne]
      exact Nat.ne_of_gt (Nat.two_pow_pos _)
    rw [if_pos valid]
    refine .inr ⟨index, small, fun isUsed => ?_, result, taken⟩
    have tag := (partition.used level inside index small).mpr isUsed
    rw [isFree] at tag
    cases tag

/-- A request that is not too large acquires at the level of its size. -/
theorem Partition.acquireMemory_cases (partition : Partition height Used Coalesced manager)
    (numBuckets : Nat) :
    (2 ^ height < numBuckets ∧ manager.acquireMemory numBuckets = ({}, manager)) ∨
    (numBuckets ≤ 2 ^ height ∧ ∃ power ≤ height, Rounded numBuckets power ∧
      AcquiresAt height Used manager (height - power) (manager.acquireMemory numBuckets)) := by
  by_cases large : manager.numBuckets < numBuckets
  · left
    rw [partition.numBuckets] at large
    refine ⟨large, if_pos ?_⟩
    rw [partition.numBuckets]
    exact large
  · right
    rw [acquireMemory, if_neg large]
    rw [partition.numBuckets, Nat.not_lt] at large
    obtain ⟨power, low, rounded, level⟩ := partition.toSized.requestLevel large
    refine ⟨large, power, low, rounded, ?_⟩
    simp only [level]
    exact partition.acquiresAt (Nat.sub_le height power)

/-! ## Releasing -/

/-- The node of a level that a release looks at. -/
def releases (manager : BuddyMemoryManager) (height bucketIndex level : Nat) : Prop :=
  bucketIndex % 2 ^ (height - level) = 0 ∧
    manager.nodeTag level (bucketIndex / 2 ^ (height - level)) = .used

/-- One level of the release of a bucket of the manager. -/
theorem Sized.releaseFromLevel_inside (sized : Sized height manager) {sizeBits bucketIndex : Nat}
    (wide : height + 1 < sizeBits) (small : bucketIndex < 2 ^ height) (inside : level ≤ height)
    {remaining : Nat} (rest : remaining + level = height) :
    manager.releaseFromLevel sizeBits bucketIndex (remaining + 1) level (2 ^ (height - level))
        (2 ^ level) =
      (if manager.nodeTag level (bucketIndex / 2 ^ (height - level)) = .used ∧
          bucketIndex % 2 ^ (height - level) = 0 then
        (2 ^ (height - level),
          manager.freeNode (position level (bucketIndex / 2 ^ (height - level))))
      else manager.releaseFromLevel sizeBits bucketIndex remaining (level + 1)
        (2 ^ (height - level) >>> 1) (2 ^ level <<< 1)) := by
  have indexSmall : bucketIndex / 2 ^ (height - level) < 2 ^ level := above_lt inside small
  have number := position_add_one level (bucketIndex / 2 ^ (height - level))
  have fits := position_lt inside indexSmall
  have positive : 0 < 2 ^ level := Nat.two_pow_pos level
  have representable : 2 ^ (height + 1) < 2 ^ sizeBits := Nat.pow_lt_pow_right (by decide) wide
  have shift : manager.nodeTreeDepth - level - 1 = height - level := by
    rw [sized.nodeTreeDepth]
    omega
  have place : (2 ^ level - 1 + bucketIndex >>> (manager.nodeTreeDepth - level - 1)) %
      2 ^ sizeBits = position level (bucketIndex / 2 ^ (height - level)) := by
    rw [shift, Nat.shiftRight_eq_div_pow]
    exact Nat.mod_eq_of_lt (by rw [← position]; omega)
  rw [releaseFromLevel, Nat.and_two_pow_sub_one_eq_mod]
  by_cases aligned : bucketIndex % 2 ^ (height - level) = 0
  · rw [if_pos aligned]
    simp only [place]
    rw [if_neg (by omega)]
    simp only [isNodeUsed_position, aligned, and_true]
  · rw [if_neg aligned, if_neg (fun both => aligned both.2)]

/-- The release of a bucket of the manager frees the node in use that starts
there, if there is one. -/
theorem Sized.releaseFromLevel_cases (sized : Sized height manager) {sizeBits bucketIndex : Nat}
    (wide : height + 1 < sizeBits) (small : bucketIndex < 2 ^ height) (remaining : Nat)
    (rest : remaining + level = height + 1) :
    (∃ found ≤ height, releases manager height bucketIndex found ∧
      manager.releaseFromLevel sizeBits bucketIndex remaining level (2 ^ (height - level))
          (2 ^ level) =
        (2 ^ (height - found),
          manager.freeNode (position found (bucketIndex / 2 ^ (height - found))))) ∨
    (manager.releaseFromLevel sizeBits bucketIndex remaining level (2 ^ (height - level))
        (2 ^ level) = (0, manager) ∧
      ∀ other, level ≤ other → other ≤ height → ¬ releases manager height bucketIndex other) := by
  induction remaining generalizing level with
  | zero => exact .inr ⟨rfl, fun other lower upper => by omega⟩
  | succ remaining ih =>
    rw [sized.releaseFromLevel_inside wide small (by omega) (by omega)]
    by_cases found : manager.nodeTag level (bucketIndex / 2 ^ (height - level)) = .used ∧
        bucketIndex % 2 ^ (height - level) = 0
    · rw [if_pos found]
      exact .inl ⟨level, by omega, ⟨found.2, found.1⟩, rfl⟩
    · rw [if_neg found]
      have doubled : 2 ^ level <<< 1 = 2 ^ (level + 1) := by
        rw [Nat.shiftLeft_eq, ← Nat.pow_add]
      have here : ¬ releases manager height bucketIndex level :=
        fun released => found ⟨released.2, released.1⟩
      by_cases last : level = height
      · obtain rfl : remaining = 0 := by omega
        refine .inr ⟨rfl, fun other lower upper => ?_⟩
        obtain rfl : other = level := by omega
        exact here
      · have halved : 2 ^ (height - level) >>> 1 = 2 ^ (height - (level + 1)) := by
          have shift : height - level = (height - (level + 1)) + 1 := by omega
          rw [Nat.shiftRight_eq_div_pow, shift, Nat.pow_succ, Nat.pow_one,
            Nat.mul_div_cancel _ (by decide)]
        rw [halved, doubled]
        rcases ih (show remaining + (level + 1) = height + 1 by omega) with found | ⟨result, none⟩
        · exact .inl found
        · refine .inr ⟨result, fun other lower upper => ?_⟩
          rcases Nat.lt_or_eq_of_le lower with less | rfl
          · exact none other less upper
          · exact here

/-- The sum with the last position wraps, and hits a node in use. -/
def Misread (sizeBits : Nat) (manager : BuddyMemoryManager) (bucketIndex : Nat) : Prop :=
  bucketIndex % 2 = 1 ∧ 2 ^ sizeBits ≤ manager.numBuckets - 1 + bucketIndex ∧
    manager.isNodeUsed ((manager.numBuckets - 1 + bucketIndex) % 2 ^ sizeBits) = true

instance (sizeBits : Nat) (manager : BuddyMemoryManager) (bucketIndex : Nat) :
    Decidable (Misread sizeBits manager bucketIndex) :=
  inferInstanceAs (Decidable (_ ∧ _ ∧ _))

/-- The release of an index behind the buckets does nothing, unless it is misread. -/
theorem Sized.releaseFromLevel_outside (sized : Sized height manager) {sizeBits bucketIndex : Nat}
    (wide : height + 1 < sizeBits) (large : 2 ^ height ≤ bucketIndex)
    (representable : bucketIndex < 2 ^ sizeBits) (remaining : Nat)
    (rest : remaining + level = height) (odd : level = height → 0 < height → bucketIndex % 2 = 1) :
    manager.releaseFromLevel sizeBits bucketIndex (remaining + 1) level (2 ^ (height - level))
        (2 ^ level) =
      if Misread sizeBits manager bucketIndex then
        (1, manager.freeNode ((manager.numBuckets - 1 + bucketIndex) % 2 ^ sizeBits))
      else (0, manager) := by
  have shift : ∀ level, manager.nodeTreeDepth - level - 1 = height - level := by
    intro level
    rw [sized.nodeTreeDepth]
    omega
  induction remaining generalizing level with
  | zero =>
    obtain rfl : level = height := by omega
    have positive : 0 < 2 ^ level := Nat.two_pow_pos level
    rw [releaseFromLevel, shift, Nat.sub_self, Nat.pow_zero, Nat.sub_self, Nat.and_zero,
      if_pos rfl, Nat.shiftRight_zero]
    simp only [Misread, sized.numBuckets]
    have bound : 2 ^ level < 2 ^ sizeBits := Nat.pow_lt_pow_right (by decide) (by omega)
    by_cases wraps : 2 ^ sizeBits ≤ 2 ^ level - 1 + bucketIndex
    · have wrapped : (2 ^ level - 1 + bucketIndex) % 2 ^ sizeBits =
          2 ^ level - 1 + bucketIndex - 2 ^ sizeBits := by
        rw [Nat.mod_eq_sub_mod wraps, Nat.mod_eq_of_lt (by omega)]
      have someLevels : 0 < level := by
        by_contra root
        obtain rfl : level = 0 := by omega
        omega
      rw [if_neg (by rw [wrapped]; omega)]
      by_cases isUsed :
          manager.isNodeUsed ((2 ^ level - 1 + bucketIndex) % 2 ^ sizeBits) = true
      · rw [if_pos isUsed, if_pos ⟨odd rfl someLevels, wraps, isUsed⟩]
      · rw [if_neg isUsed, if_neg (fun misread => isUsed misread.2.2)]
        rfl
    · rw [if_pos (by rw [Nat.mod_eq_of_lt (by omega)]; omega),
        if_neg (fun misread => wraps misread.2.1)]
  | succ remaining ih =>
    rw [releaseFromLevel, Nat.and_two_pow_sub_one_eq_mod, shift, Nat.shiftRight_eq_div_pow]
    have halves : 2 ^ (height - level) = 2 * 2 ^ (height - (level + 1)) := by
      rw [← Nat.pow_succ']
      congr 1
      omega
    by_cases aligned : bucketIndex % 2 ^ (height - level) = 0
    · rw [if_pos aligned]
      have even : bucketIndex % 2 = 0 := by
        rw [halves] at aligned
        exact Nat.mod_eq_zero_of_dvd
          ((Nat.dvd_mul_right 2 _).trans (Nat.dvd_of_mod_eq_zero aligned))
      have positive : 0 < 2 ^ level := Nat.two_pow_pos level
      have beyond : 2 ^ level ≤ bucketIndex / 2 ^ (height - level) := by
        rw [Nat.le_div_iff_mul_le (Nat.two_pow_pos _), ← Nat.pow_add]
        rw [Nat.add_sub_cancel' (by omega)]
        exact large
      have half : bucketIndex / 2 ^ (height - level) ≤ bucketIndex / 2 := by
        rw [halves, ← Nat.div_div_eq_div_mul]
        exact Nat.div_le_self _ _
      have bound : 2 * 2 ^ level ≤ 2 ^ sizeBits := by
        rw [← Nat.pow_succ']
        exact Nat.pow_le_pow_right (by decide) (by omega)
      have fits : 2 ^ level - 1 + bucketIndex / 2 ^ (height - level) < 2 ^ sizeBits := by omega
      simp only [Nat.mod_eq_of_lt fits]
      rw [if_pos (by omega), if_neg (fun misread => by have := misread.1; omega)]
    · rw [if_neg aligned]
      have halved : 2 ^ (height - level) >>> 1 = 2 ^ (height - (level + 1)) := by
        rw [Nat.shiftRight_eq_div_pow, halves, Nat.pow_one, Nat.mul_div_cancel_left _ (by decide)]
      have doubled : 2 ^ level <<< 1 = 2 ^ (level + 1) := by
        rw [Nat.shiftLeft_eq, ← Nat.pow_add]
      rw [halved, doubled]
      refine ih (by omega) fun last _ => ?_
      have unit : height - level = 1 := by omega
      rw [unit, Nat.pow_one] at aligned
      omega

end OpenBsw.Util.BuddyMemoryManager
