import OpenBsw.Shed.MultiList

/-!
# What the arrays of an index list stand for

The arrays are determined by the bucket of each item: the entry of an item is
the next smaller item of its bucket, the entry of a head is the largest item of
the bucket, and behind the smallest item comes the head again.  Moving an item
changes the bucket of this item only.
-/

namespace OpenBsw.Shed

open Function

variable {list : MultiList} {bucket : Nat → Nat} {n b limit p s d dst : Nat}

/-- The items of a bucket, the largest one first. -/
def members (bucket : Nat → Nat) (n b : Nat) : List Nat :=
  downward (fun i => bucket i = b) n

/-- A bucket has at most all items. -/
theorem length_members : (members bucket n b).length ≤ n := by
  rw [members, downward]
  exact (List.length_filter_le _ _).trans (by rw [List.length_reverse, List.length_range])

/-- The largest item of a bucket below a limit, or else the head of the bucket. -/
def next (bucket : Nat → Nat) (n b limit : Nat) : Nat :=
  (below (fun i => bucket i = b) limit).getD (n + b)

/-- The bucket that a position is in: that of an item, or the one that the head belongs to. -/
def bucketAt (bucket : Nat → Nat) (n p : Nat) : Nat :=
  if p < n then bucket p else p - n

/-- The links of each bucket follow its items downwards, and the backlinks lead back. -/
structure Represents (list : MultiList) (bucket : Nat → Nat) : Prop where
  size : list.n + list.buckets ≤ 65535
  inside : ∀ i < list.n, bucket i < list.buckets
  items : ∀ p < list.n + list.buckets,
    list.items p = next bucket list.n (bucketAt bucket list.n p) (min p list.n)
  itemsInside : ∀ p < list.n + list.buckets, list.items p < list.n + list.buckets
  backlinksInside : ∀ p < list.n + list.buckets, list.backlinks p < list.n + list.buckets
  backlinks_items : ∀ p < list.n + list.buckets, list.backlinks (list.items p) = p
  items_backlinks : ∀ p < list.n + list.buckets, list.items (list.backlinks p) = p

/-! ## Next items -/

theorem next_of_some {x : Nat} (found : below (fun i => bucket i = b) limit = some x) :
    next bucket n b limit = x := by
  rw [next, found]
  rfl

theorem next_of_none (absent : below (fun i => bucket i = b) limit = none) :
    next bucket n b limit = n + b := by
  rw [next, absent]
  rfl

/-- A next item is the largest one below the limit. -/
theorem next_item {x : Nat} (isNext : next bucket n b limit = x)
    (item : x < n) : below (fun i => bucket i = b) limit = some x := by
  cases found : below (fun i => bucket i = b) limit with
  | none =>
    rw [next_of_none found] at isNext
    omega
  | some y =>
    rw [next_of_some found] at isNext
    rw [isNext]

/-- A member below the limit is not passed. -/
theorem le_next {k : Nat} (member : bucket k = b) (inside : k < limit) (within : limit ≤ n) :
    k ≤ next bucket n b limit ∧ next bucket n b limit < n := by
  cases found : below (fun i => bucket i = b) limit with
  | none => exact absurd member (below_eq_none_iff.mp found k inside)
  | some x =>
    obtain ⟨xInside, _, gap⟩ := below_eq_some_iff.mp found
    rw [next_of_some found]
    refine ⟨?_, by omega⟩
    by_contra passed
    exact gap k (by omega) inside member

theorem next_congr {other : Nat → Nat} (same : ∀ k < limit, bucket k = b ↔ other k = b) :
    next bucket n b limit = next other n b limit := by
  rw [next, next, below_congr same]

theorem next_skip {lower : Nat} (ordered : lower ≤ limit)
    (none : ∀ k, lower ≤ k → k < limit → bucket k ≠ b) :
    next bucket n b limit = next bucket n b lower := by
  rw [next, next, below_skip ordered none]

/-- Moving an item that is not next, and does not become next, leaves the next item. -/
theorem next_update (within : limit ≤ n)
    (later : s < limit → (bucket s = b ∨ d = b) →
      ∃ k, s < k ∧ k < limit ∧ bucket k = b) :
    next (update bucket s d) n b limit = next bucket n b limit := by
  by_cases relevant : s < limit ∧ (bucket s = b ∨ d = b)
  · obtain ⟨k, above, inside, member⟩ := later relevant.1 relevant.2
    obtain ⟨passed, item⟩ := le_next member inside within
    have found := next_item rfl item
    rw [below_eq_some_iff] at found
    generalize next bucket n b limit = x at found passed item ⊢
    apply next_of_some
    rw [below_eq_some_iff]
    obtain ⟨xInside, isMember, gap⟩ := found
    refine ⟨xInside, ?_, fun other further low => ?_⟩
    · rw [update_of_ne (by omega)]
      exact isMember
    · rw [update_of_ne (by omega)]
      exact gap other further low
  · apply next_congr
    intro k inside
    by_cases same : k = s
    · subst same
      rw [update_self]
      constructor
      · intro moved
        exact absurd ⟨inside, Or.inr moved⟩ relevant
      · intro stays
        exact absurd ⟨inside, Or.inl stays⟩ relevant
    · rw [update_of_ne same]

namespace Represents

theorem bucketAt_item (item : p < n) : bucketAt bucket n p = bucket p :=
  if_pos item

theorem bucketAt_head : bucketAt bucket n (n + b) = b := by
  rw [bucketAt, if_neg (by omega), Nat.add_sub_cancel_left]

theorem bucketAt_inside (represents : Represents list bucket)
    (valid : p < list.n + list.buckets) : bucketAt bucket list.n p < list.buckets := by
  rw [bucketAt]
  split
  · rename_i item
    exact represents.inside p item
  · omega

/-- Different positions have different next positions. -/
theorem injective (represents : Represents list bucket) {q : Nat}
    (first : p < list.n + list.buckets) (second : q < list.n + list.buckets)
    (same : list.items p = list.items q) : p = q := by
  rw [← represents.backlinks_items p first, same, represents.backlinks_items q second]

theorem idxType_eq (represents : Represents list bucket) (valid : p < list.n + list.buckets) :
    idxType p = p := by
  have := represents.size
  exact Nat.mod_eq_of_lt (by omega)

/-- The position before an item is in its bucket. -/
theorem before (represents : Represents list bucket) (item : s < list.n) :
    list.backlinks s < list.n + list.buckets ∧
      bucketAt bucket list.n (list.backlinks s) = bucket s ∧
      below (fun i => bucket i = bucket s) (min (list.backlinks s) list.n) = some s := by
  have valid : s < list.n + list.buckets := by omega
  have inside := represents.backlinksInside s valid
  have leads := represents.items_backlinks s valid
  rw [represents.items _ inside] at leads
  have found := next_item leads item
  have member := (below_eq_some_iff.mp found).2.1
  rw [← member] at found
  exact ⟨inside, member.symm, found⟩

/-- Rewiring three entries rewires the entries that lead back. -/
theorem inverse_relink {N src : Nat} {items backlinks newItems newBacklinks : Nat → Nat}
    (itemsInside : ∀ p < N, items p < N) (backlinksInside : ∀ p < N, backlinks p < N)
    (backlinks_items : ∀ p < N, backlinks (items p) = p)
    (items_backlinks : ∀ p < N, items (backlinks p) = p)
    (srcInside : src < N) (sInside : s < N) (dstInside : dst < N) (leads : items src = s)
    (srcNot : src ≠ s) (dstNot : dst ≠ s) (apart : src ≠ dst)
    (relinked : newItems = update (update (update items src (items s))
      s (items dst)) dst s)
    (relinkedBack : newBacklinks = update (update (update backlinks
      (items s) src) (items dst) s) s dst)
    (valid : p < N) :
    newItems p < N ∧ newBacklinks p < N ∧ newBacklinks (newItems p) = p ∧
      newItems (newBacklinks p) = p := by
  have injective : ∀ {p q}, p < N → q < N → items p = items q → p = q := fun first second same => by
    rw [← backlinks_items _ first, same, backlinks_items _ second]
  have firstNot : items s ≠ s := fun same =>
    srcNot (injective srcInside sInside (leads.trans same.symm))
  have secondNot : items dst ≠ s := fun same =>
    apart (injective srcInside dstInside (leads.trans same.symm))
  have different : items s ≠ items dst := fun same =>
    dstNot (injective sInside dstInside same).symm
  have itemsSrc : newItems src = items s := by
    rw [relinked, update_of_ne apart, update_of_ne srcNot, update_self]
  have itemsS : newItems s = items dst := by
    rw [relinked, update_of_ne dstNot.symm, update_self]
  have itemsDst : newItems dst = s := by
    rw [relinked, update_self]
  have backS : newBacklinks s = dst := by
    rw [relinkedBack, update_self]
  have backDst : newBacklinks (items dst) = s := by
    rw [relinkedBack, update_of_ne secondNot, update_self]
  have backSrc : newBacklinks (items s) = src := by
    rw [relinkedBack, update_of_ne firstNot, update_of_ne different,
      update_self]
  have forward : newItems p < N ∧ newBacklinks (newItems p) = p := by
    by_cases isDst : p = dst
    · rw [isDst, itemsDst, backS]
      exact ⟨sInside, rfl⟩
    by_cases isS : p = s
    · rw [isS, itemsS, backDst]
      exact ⟨itemsInside dst dstInside, rfl⟩
    by_cases isSrc : p = src
    · rw [isSrc, itemsSrc, backSrc]
      exact ⟨itemsInside s sInside, rfl⟩
    have same : newItems p = items p := by
      rw [relinked, update_of_ne isDst, update_of_ne isS,
        update_of_ne isSrc]
    rw [same]
    refine ⟨itemsInside p valid, ?_⟩
    have notS : items p ≠ s := fun equal =>
      isSrc (injective valid srcInside (equal.trans leads.symm))
    have notDst : items p ≠ items dst := fun equal => isDst (injective valid dstInside equal)
    have notSrc : items p ≠ items s := fun equal => isS (injective valid sInside equal)
    rw [relinkedBack, update_of_ne notS, update_of_ne notDst,
      update_of_ne notSrc]
    exact backlinks_items p valid
  have backward : newBacklinks p < N ∧ newItems (newBacklinks p) = p := by
    by_cases isS : p = s
    · rw [isS, backS, itemsDst]
      exact ⟨dstInside, rfl⟩
    by_cases isDst : p = items dst
    · rw [isDst, backDst, itemsS]
      exact ⟨sInside, rfl⟩
    by_cases isSrc : p = items s
    · rw [isSrc, backSrc, itemsSrc]
      exact ⟨srcInside, rfl⟩
    have same : newBacklinks p = backlinks p := by
      rw [relinkedBack, update_of_ne isS, update_of_ne isDst,
        update_of_ne isSrc]
    rw [same]
    refine ⟨backlinksInside p valid, ?_⟩
    have leadsBack := items_backlinks p valid
    have notDst : backlinks p ≠ dst := fun equal => isDst (by rw [← equal, leadsBack])
    have notS : backlinks p ≠ s := fun equal => isSrc (by rw [← equal, leadsBack])
    have notSrc : backlinks p ≠ src := fun equal => isS (by rw [← leads, ← equal, leadsBack])
    rw [relinked, update_of_ne notDst, update_of_ne notS,
      update_of_ne notSrc]
    exact leadsBack
  exact ⟨forward.1, backward.1, forward.2, backward.2⟩

/-! ## Relinking -/

/-- A position behind which an item belongs: no item of the bucket between is larger. -/
structure Place (list : MultiList) (bucket : Nat → Nat) (s d dst : Nat) : Prop where
  valid : dst < list.n + list.buckets
  at_bucket : bucketAt bucket list.n dst = d
  below : s < min dst list.n
  last : ∀ k, s < k → k < min dst list.n → bucket k ≠ d

/-- The place of an item in its own bucket is the position before it. -/
theorem items_of_place (represents : Represents list bucket)
    (place : Place list bucket s (bucket s) dst) : list.items dst = s := by
  rw [represents.items dst place.valid, place.at_bucket]
  apply next_of_some
  exact below_eq_some_iff.mpr ⟨place.below, rfl, place.last⟩

/-- Moving an item within its bucket changes nothing. -/
theorem relink_same (represents : Represents list bucket) (item : s < list.n)
    (place : Place list bucket s (bucket s) dst) : list.relink s dst = list := by
  have validS : s < list.n + list.buckets := by omega
  have leads := represents.items_of_place place
  have src : list.backlinks s = dst := by
    rw [← leads, represents.backlinks_items dst place.valid]
  have backS : list.backlinks (list.items s) = s := represents.backlinks_items s validS
  have apart : s ≠ dst := by
    have := place.below
    omega
  have items : update (update (update list.items dst (list.items s)) s
      (update list.items dst (list.items s) dst)) dst s = list.items := by
    funext q
    by_cases isDst : q = dst
    · rw [isDst, update_self, leads]
    · rw [update_of_ne isDst, update_self]
      by_cases isS : q = s
      · rw [isS, update_self]
      · rw [update_of_ne isS, update_of_ne isDst]
  have backlinks : update (update (update list.backlinks s dst)
      (list.items s) s) s dst = list.backlinks := by
    funext q
    by_cases isS : q = s
    · rw [isS, update_self, src]
    · rw [update_of_ne isS]
      by_cases isNext : q = list.items s
      · rw [isNext, update_self, backS]
      · rw [update_of_ne isNext, update_of_ne isS]
  rw [MultiList.relink]
  simp only [represents.idxType_eq validS, represents.idxType_eq place.valid, src, items, leads,
    backlinks]

/-- Moving an item to another bucket changes the bucket of this item. -/
theorem relink_other (represents : Represents list bucket) (item : s < list.n)
    (target : d < list.buckets) (different : bucket s ≠ d) (place : Place list bucket s d dst) :
    Represents (list.relink s dst) (update bucket s d) := by
  have validS : s < list.n + list.buckets := by omega
  obtain ⟨srcInside, srcBucket, srcNext⟩ := represents.before item
  have leads := represents.items_backlinks s validS
  have apart : list.backlinks s ≠ dst := by
    intro same
    rw [same, place.at_bucket] at srcBucket
    exact different srcBucket.symm
  have srcAbove := (below_eq_some_iff.mp srcNext).1
  have srcGap := (below_eq_some_iff.mp srcNext).2.2
  generalize src : list.backlinks s = q at srcInside srcBucket srcNext leads apart srcAbove srcGap
  have srcNot : q ≠ s := by omega
  have dstNot : dst ≠ s := by
    have := place.below
    omega
  have items : (list.relink s dst).items = update (update
      (update list.items q (list.items s)) s (list.items dst)) dst s := by
    simp only [MultiList.relink, represents.idxType_eq validS, src,
      update_of_ne apart.symm]
  have itemsS : (list.relink s dst).items s = list.items dst := by
    rw [items, update_of_ne dstNot.symm, update_self]
  have itemsSrc : (list.relink s dst).items q = list.items s := by
    rw [items, update_of_ne apart, update_of_ne srcNot, update_self]
  have itemsDst : (list.relink s dst).items dst = s := by
    rw [items, update_self]
  have backlinks : (list.relink s dst).backlinks = update (update
      (update list.backlinks (list.items s) q) (list.items dst) s) s dst := by
    have unfolded : (list.relink s dst).backlinks = update (update
        (update list.backlinks ((list.relink s dst).items (list.backlinks s))
          (list.backlinks s)) ((list.relink s dst).items s) (idxType s))
        ((list.relink s dst).items dst) (idxType dst) := rfl
    rw [unfolded, src, itemsS, itemsSrc, itemsDst, represents.idxType_eq validS,
      represents.idxType_eq place.valid]
  have inverse := fun p valid => inverse_relink (p := p) represents.itemsInside
    represents.backlinksInside represents.backlinks_items represents.items_backlinks srcInside
    validS place.valid leads srcNot dstNot apart items backlinks valid
  have size : (list.relink s dst).n = list.n := rfl
  have buckets : (list.relink s dst).buckets = list.buckets := rfl
  refine ⟨represents.size, ?_, ?_, fun p valid => (inverse p valid).1,
    fun p valid => (inverse p valid).2.1, fun p valid => (inverse p valid).2.2.1,
    fun p valid => (inverse p valid).2.2.2⟩
  · intro i inside
    rw [size] at inside
    by_cases moved : i = s
    · rw [moved, update_self]
      exact target
    · rw [update_of_ne moved]
      exact represents.inside i inside
  · intro p valid
    rw [size, buckets] at *
    have elsewhere : ∀ {position}, position ≠ s →
        bucketAt (update bucket s d) list.n position =
          bucketAt bucket list.n position := by
      intro position other
      rw [bucketAt, bucketAt, update_of_ne other]
    by_cases isDst : p = dst
    · -- the item comes behind its new place
      rw [isDst, itemsDst, elsewhere dstNot, place.at_bucket]
      symm
      apply next_of_some
      refine below_eq_some_iff.mpr ⟨place.below, update_self _ _ _, ?_⟩
      intro k above inside
      rw [update_of_ne (by omega)]
      exact place.last k above inside
    by_cases isS : p = s
    · -- behind the item comes what was behind its new place
      have lowest : min s list.n = s := by omega
      rw [isS, itemsS, represents.items dst place.valid, place.at_bucket, bucketAt_item item,
        update_self, lowest, next_skip (Nat.le_of_lt place.below)]
      · apply next_congr
        intro k inside
        rw [update_of_ne (by omega)]
      · intro k above inside member
        rcases Nat.lt_or_eq_of_le above with further | rfl
        · exact place.last k further inside member
        · exact different member
    by_cases isSrc : p = q
    · -- behind the old place comes what was behind the item
      have lowest : min s list.n = s := by omega
      rw [isSrc, itemsSrc, elsewhere srcNot, srcBucket, represents.items s validS,
        bucketAt_item item, lowest, next_skip (Nat.le_of_lt srcAbove)]
      · apply next_congr
        intro k inside
        rw [update_of_ne (by omega)]
      · intro k above inside
        rcases Nat.lt_or_eq_of_le above with further | rfl
        · rw [update_of_ne (by omega)]
          exact srcGap k further inside
        · rw [update_self]
          exact fun same => different same.symm
    rw [items, update_of_ne isDst, update_of_ne isS, update_of_ne isSrc,
      elsewhere isS, represents.items p valid]
    symm
    apply next_update (Nat.min_le_right _ _)
    intro above relevant
    rcases relevant with fromHere | toHere
    · obtain ⟨passed, itemNext⟩ := le_next fromHere above (Nat.min_le_right _ _)
      have found := below_eq_some_iff.mp (next_item rfl itemNext)
      rw [← represents.items p valid] at found passed
      have notNext : list.items p ≠ s := fun same =>
        isSrc (represents.injective valid srcInside (same.trans leads.symm))
      exact ⟨list.items p, by omega, found.1, found.2.1⟩
    · have dstAbove := place.below
      have dstBucket := place.at_bucket
      rw [bucketAt] at toHere dstBucket
      by_cases itemP : p < list.n
      · rw [if_pos itemP] at toHere
        have passed : ¬ p < min dst list.n := fun inside =>
          place.last p (by omega) inside toHere.symm
        rw [if_pos (by omega)] at dstBucket
        exact ⟨dst, by omega, by omega, by rw [dstBucket, toHere, bucketAt_item itemP]⟩
      · rw [if_neg itemP] at toHere
        have itemDst : dst < list.n := by
          by_contra headDst
          rw [if_neg headDst] at dstBucket
          omega
        rw [if_pos itemDst] at dstBucket
        refine ⟨dst, by omega, by omega, ?_⟩
        rw [dstBucket, bucketAt, if_neg itemP, toHere]

/-- Moving an item behind its place changes the bucket of this item and no other. -/
theorem relink (represents : Represents list bucket) (item : s < list.n)
    (target : d < list.buckets) (place : Place list bucket s d dst) :
    Represents (list.relink s dst) (update bucket s d) := by
  by_cases same : bucket s = d
  · subst same
    rw [represents.relink_same item place, update_eq_self]
    exact represents
  · exact represents.relink_other item target same place

/-- The search ends at the place of the item. -/
theorem search (represents : Represents list bucket) {rounds : Nat}
    (valid : p < list.n + list.buckets) (at_bucket : bucketAt bucket list.n p = d)
    (above : s < min p list.n) (enough : min p list.n < rounds) :
    ∃ dst, list.search s rounds p = some dst ∧ Place list bucket s d dst := by
  induction rounds generalizing p with
  | zero => exact absurd enough (Nat.not_lt_zero _)
  | succ rounds ih =>
    rw [MultiList.search]
    have isNext := represents.items p valid
    rw [at_bucket] at isNext
    by_cases further : s < list.items p ∧ list.items p < list.n
    · rw [if_pos further]
      obtain ⟨inside, member, _⟩ := below_eq_some_iff.mp (next_item isNext.symm further.2)
      have lowest : min (list.items p) list.n = list.items p := by omega
      exact ih (represents.itemsInside p valid) ((bucketAt_item further.2).trans member)
        (by omega) (by omega)
    · rw [if_neg further]
      refine ⟨p, rfl, valid, at_bucket, above, fun k larger inside member => further ?_⟩
      obtain ⟨passed, isItem⟩ := le_next member inside (Nat.min_le_right _ _)
      rw [← isNext] at passed isItem
      exact ⟨by omega, isItem⟩

theorem moveNode (represents : Represents list bucket) {rounds : Nat} (item : s < list.n)
    (target : d < list.buckets) (valid : p < list.n + list.buckets)
    (at_bucket : bucketAt bucket list.n p = d) (above : s < min p list.n)
    (enough : list.n < rounds) :
    ∃ dst, list.moveNode rounds s p = some (list.relink s dst, dst) ∧
      Place list bucket s d dst ∧
      Represents (list.relink s dst) (update bucket s d) := by
  obtain ⟨dst, found, place⟩ := represents.search valid at_bucket above
    (Nat.lt_of_le_of_lt (Nat.min_le_right _ _) enough)
  refine ⟨dst, ?_, place, represents.relink item target place⟩
  rw [MultiList.moveNode, found]
  rfl

/-- From the head of a bucket every item finds its place. -/
theorem moveNode_head (represents : Represents list bucket) {rounds : Nat} (item : s < list.n)
    (target : d < list.buckets) (enough : list.n < rounds) :
    ∃ dst, list.moveNode rounds s (d + list.n) = some (list.relink s dst, dst) ∧
      Represents (list.relink s dst) (update bucket s d) := by
  rw [Nat.add_comm d]
  obtain ⟨dst, moved, _, after⟩ := represents.moveNode item target (Nat.add_lt_add_left target _)
    bucketAt_head (by omega) enough
  exact ⟨dst, moved, after⟩

end Represents

end OpenBsw.Shed
