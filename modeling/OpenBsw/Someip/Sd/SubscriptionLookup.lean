import OpenBsw.Someip.Sd.SubscriptionManager

/-!
# Looking up subscriptions

Between two operations the set is sorted, every group in it has endpoints, and the pools
hold the objects of the set and no others.  The subscriptions under a key are then those
that a search returns.
-/

namespace OpenBsw.Someip

open OpenBsw List

variable {ip6 : Bool}

namespace EventGroupKey

/-- The ids as one number. -/
def order (key : EventGroupKey) : Nat :=
  ((key.serviceId.toNat * 65536 + key.instanceId.toNat) * 65536 + key.eventgroupId.toNat) * 256 +
    key.majorVersion.toNat

theorem order_inj {key other : EventGroupKey} : key.order = other.order ↔ key = other := by
  constructor
  · intro same
    obtain ⟨service, instance', eventgroup, major⟩ := key
    obtain ⟨otherService, otherInstance, otherEventgroup, otherMajor⟩ := other
    simp only [order] at same
    have := instance'.toNat_lt
    have := otherInstance.toNat_lt
    have := eventgroup.toNat_lt
    have := otherEventgroup.toNat_lt
    have := major.toNat_lt
    have := otherMajor.toNat_lt
    rw [EventGroupKey.mk.injEq, ← UInt16.toNat_inj, ← UInt16.toNat_inj, ← UInt16.toNat_inj,
      ← UInt8.toNat_inj]
    omega
  · rintro rfl
    rfl

/-- The comparator compares the numbers. -/
theorem lessThan_iff {key other : EventGroupKey} :
    key.lessThan other = true ↔ key.order < other.order := by
  obtain ⟨service, instance', eventgroup, major⟩ := key
  obtain ⟨otherService, otherInstance, otherEventgroup, otherMajor⟩ := other
  have := instance'.toNat_lt
  have := otherInstance.toNat_lt
  have := eventgroup.toNat_lt
  have := otherEventgroup.toNat_lt
  have := major.toNat_lt
  have := otherMajor.toNat_lt
  simp only [lessThan, order, ne_eq, ← UInt16.toNat_inj, UInt16.lt_iff_toNat_lt,
    UInt8.lt_iff_toNat_lt]
  split
  · simp only [decide_eq_true_eq]
    omega
  · split
    · simp only [decide_eq_true_eq]
      omega
    · split
      · simp only [decide_eq_true_eq]
        omega
      · simp only [decide_eq_true_eq]
        omega

end EventGroupKey

/-- The comparisons of a group with a key are those of the numbers. -/
theorem compares_lessThan (key : EventGroupKey) :
    FlatSet.Compares (fun eg : SubscribedEventGroup ip6 => eg.key.order)
      (fun eg => eg.key.lessThan key) (fun eg => key.lessThan eg.key) key.order where
  before_iff _ := EventGroupKey.lessThan_iff
  after_iff _ := EventGroupKey.lessThan_iff

/-- The group sorts by its ids. -/
abbrev SortedGroups (groups : List (SubscribedEventGroup ip6)) : Prop :=
  FlatSet.Sorted (fun eg => eg.key.order) groups

/-! ## Looking up -/

/-- The subscriptions of a group. -/
def SubscribedEventGroup.subscriptions (eg : SubscribedEventGroup ip6) :
    List (Subscription ip6) :=
  eg.endpoints.map SubscriptionEndpoint.subscription

/-- The subscriptions under a key. -/
def lookup (groups : List (SubscribedEventGroup ip6)) (key : EventGroupKey) :
    List (Subscription ip6) :=
  ((groups.find? fun eg => eg.key = key).map (·.subscriptions)).getD []

section Lookup

variable {front back groups : List (SubscribedEventGroup ip6)} {eg : SubscribedEventGroup ip6}
  {key : EventGroupKey}

theorem lookup_cons (eg : SubscribedEventGroup ip6) (groups : List (SubscribedEventGroup ip6))
    (key : EventGroupKey) :
    lookup (eg :: groups) key = if eg.key = key then eg.subscriptions else lookup groups key := by
  by_cases same : eg.key = key
  · simp only [lookup, List.find?_cons, same, decide_true, if_true, Option.map_some,
      Option.getD_some]
  · simp only [lookup, List.find?_cons, same, decide_false, if_false]

theorem lookup_of_absent (absent : ∀ eg ∈ groups, eg.key ≠ key) : lookup groups key = [] := by
  have none : (groups.find? fun eg => eg.key = key) = none :=
    List.find?_eq_none.mpr fun eg member => by simpa using absent eg member
  rw [lookup, none]
  rfl

/-- A group that is the first with its key is found under it, and hides no other. -/
theorem lookup_middle (absent : ∀ other ∈ front, other.key ≠ eg.key) :
    lookup (front ++ eg :: back) key =
      if key = eg.key then eg.subscriptions else lookup (front ++ back) key := by
  induction front with
  | nil =>
    rw [nil_append, lookup_cons]
    by_cases same : key = eg.key
    · rw [if_pos same, if_pos same.symm]
    · rw [if_neg same, if_neg (Ne.symm same)]
      rfl
  | cons first front ih =>
    have different := absent first mem_cons_self
    rw [cons_append, cons_append, lookup_cons, lookup_cons,
      ih fun other member => absent other (mem_cons_of_mem _ member)]
    by_cases same : first.key = key
    · rw [if_pos same, if_pos same, if_neg fun equal => different (same.trans equal)]
    · rw [if_neg same, if_neg same]

theorem SortedGroups.absent (sorted : SortedGroups (front ++ eg :: back)) :
    (∀ other ∈ front, other.key ≠ eg.key) ∧ ∀ other ∈ back, other.key ≠ eg.key := by
  obtain ⟨less, greater⟩ := FlatSet.Sorted.of_append sorted
  refine ⟨fun other member same => ?_, fun other member same => ?_⟩
  · exact absurd (less other member) (by rw [same]; exact Nat.lt_irrefl _)
  · exact absurd (greater other member) (by rw [same]; exact Nat.lt_irrefl _)

theorem SortedGroups.lookup_erase (sorted : SortedGroups (front ++ eg :: back)) :
    lookup (front ++ back) key =
      if key = eg.key then [] else lookup (front ++ eg :: back) key := by
  obtain ⟨inFront, inBack⟩ := sorted.absent
  by_cases same : key = eg.key
  · rw [if_pos same, same]
    refine lookup_of_absent fun other member => ?_
    rcases mem_append.mp member with ahead | behind
    · exact inFront other ahead
    · exact inBack other behind
  · rw [if_neg same, lookup_middle inFront, if_neg same]

theorem SortedGroups.lookup_replace (sorted : SortedGroups (front ++ eg :: back))
    {left : SubscribedEventGroup ip6} (same : left.key = eg.key) :
    lookup (front ++ left :: back) key =
      if key = eg.key then left.subscriptions else lookup (front ++ eg :: back) key := by
  obtain ⟨inFront, -⟩ := sorted.absent
  rw [lookup_middle (same ▸ inFront), lookup_middle inFront, same]
  by_cases equal : key = eg.key
  · rw [if_pos equal, if_pos equal]
  · rw [if_neg equal, if_neg equal, if_neg equal]

end Lookup

namespace SubscriptionManager

open EventGroupKey

variable {manager : SubscriptionManager ip6} {key : EventGroupKey}
  {front back : List (SubscribedEventGroup ip6)} {eg : SubscribedEventGroup ip6}

/-! ## Searching -/

theorem findGroup_split (sorted : SortedGroups manager.eventgroups)
    (split : manager.eventgroups = front ++ eg :: back) (same : eg.key = key) :
    manager.findGroup key = some (front.length, eg) := by
  rw [split] at sorted
  have found := (compares_lessThan key).find_mem sorted (congrArg order same)
  rw [findGroup, find, split, found, Option.bind_some,
    List.getElem?_append_right (Nat.le_refl _), Nat.sub_self]
  rfl

theorem find_absent (sorted : SortedGroups manager.eventgroups)
    (absent : ∀ eg ∈ manager.eventgroups, eg.key ≠ key) : manager.find key = none :=
  (compares_lessThan key).find_eq_none sorted fun eg member same =>
    absent eg member (order_inj.mp same)

/-- A key is found at its group, or there is none with it. -/
theorem findGroup_cases (sorted : SortedGroups manager.eventgroups) (key : EventGroupKey) :
    (∃ front eg back, manager.eventgroups = front ++ eg :: back ∧ eg.key = key ∧
        manager.findGroup key = some (front.length, eg)) ∨
      ((∀ eg ∈ manager.eventgroups, eg.key ≠ key) ∧ manager.findGroup key = none) := by
  by_cases present : ∃ eg ∈ manager.eventgroups, eg.key = key
  · left
    obtain ⟨eg, member, same⟩ := present
    obtain ⟨front, back, split⟩ := append_of_mem member
    exact ⟨front, eg, back, split, same, findGroup_split sorted split same⟩
  · right
    push Not at present
    refine ⟨present, ?_⟩
    rw [findGroup, find_absent sorted present]
    rfl

/-! ## Between two operations -/

/-- The slots of the endpoints of groups. -/
def endpointSlots (groups : List (SubscribedEventGroup ip6)) : List Nat :=
  groups.flatMap fun eg => slots eg.endpoints

/-- Two subscriptions are of different endpoints. -/
def Apart (first second : Subscription ip6) : Prop :=
  ¬ (first.address = second.address ∧ first.port = second.port)

structure Consistent (manager : SubscriptionManager ip6) : Prop where
  sorted : SortedGroups manager.eventgroups
  valid : ∀ eg ∈ manager.eventgroups, eg.key.isValid = true
  nonempty : ∀ eg ∈ manager.eventgroups, eg.endpoints ≠ []
  once : ∀ eg ∈ manager.eventgroups, eg.subscriptions.Pairwise Apart
  groupPool : manager.groupPool.Holds (manager.eventgroups.map SubscribedEventGroup.slot)
  endpointPool : manager.endpointPool.Holds (endpointSlots manager.eventgroups)
  groupCapacity : manager.groupPool.capacity = manager.maxGroups
  endpointCapacity : manager.endpointPool.capacity = manager.maxGroups

theorem consistent_create (ip6 : Bool) (numSubscriptions : Nat) :
    Consistent (create ip6 numSubscriptions) where
  sorted := List.Pairwise.nil
  valid _ member := absurd member not_mem_nil
  nonempty _ member := absurd member not_mem_nil
  once _ member := absurd member not_mem_nil
  groupPool := Pool.holds_create _
  endpointPool := Pool.holds_create _
  groupCapacity := rfl
  endpointCapacity := rfl

/-- Reading objects that are in use records nothing. -/
theorem reads_eq {groups endpoints : List Nat}
    (groupsLive : ∀ slot ∈ groups, slot ∉ manager.groupPool.free)
    (endpointsLive : ∀ slot ∈ endpoints, slot ∉ manager.endpointPool.free) :
    manager.reads groups endpoints = manager := by
  have noGroup : groups.filter (· ∈ manager.groupPool.free) = [] :=
    filter_eq_nil_iff.mpr fun slot member => by simpa using groupsLive slot member
  have noEndpoint : endpoints.filter (· ∈ manager.endpointPool.free) = [] :=
    filter_eq_nil_iff.mpr fun slot member => by simpa using endpointsLive slot member
  rw [reads, noGroup, noEndpoint]
  rfl

theorem Consistent.searched_eq (consistent : Consistent manager) :
    manager.searched = manager :=
  reads_eq (fun _ member => consistent.groupPool.notMem_free member)
    fun _ member => absurd member not_mem_nil

theorem slot_mem_endpointSlots {groups : List (SubscribedEventGroup ip6)}
    (member : eg ∈ groups) {slot : Nat} (inGroup : slot ∈ slots eg.endpoints) :
    slot ∈ endpointSlots groups :=
  mem_flatMap.mpr ⟨eg, member, inGroup⟩

/-- Reading a group of the set and its endpoints. -/
theorem Consistent.reads_group (consistent : Consistent manager)
    (member : eg ∈ manager.eventgroups) :
    manager.reads [eg.slot] (slots eg.endpoints) = manager := by
  refine reads_eq ?_ fun slot inGroup =>
    consistent.endpointPool.notMem_free (slot_mem_endpointSlots member inGroup)
  intro slot inList
  rw [mem_singleton.mp inList]
  exact consistent.groupPool.notMem_free (mem_map_of_mem member)

/-- What is under a key is what `getSubscriptions` returns. -/
theorem Consistent.getSubscriptions_eq (consistent : Consistent manager) (key : EventGroupKey) :
    ((manager.getSubscriptions key).getD []).map SubscriptionEndpoint.subscription =
      lookup manager.eventgroups key := by
  rcases findGroup_cases consistent.sorted key with
    ⟨front, eg, back, split, rfl, found⟩ | ⟨absent, found⟩
  · have valid := consistent.valid eg (split ▸ by simp)
    have sorted := consistent.sorted
    rw [split] at sorted
    rw [getSubscriptions, valid, found, split, lookup_middle sorted.absent.1, if_pos rfl]
    rfl
  · rw [lookup_of_absent absent, getSubscriptions]
    split
    · rfl
    · rw [found]
      rfl

/-- A pool of endpoints that is not full leaves room for one more group. -/
theorem Consistent.length_le (consistent : Consistent manager) :
    manager.eventgroups.length ≤ (endpointSlots manager.eventgroups).length := by
  have nonempty := consistent.nonempty
  generalize manager.eventgroups = groups at nonempty ⊢
  induction groups with
  | nil => exact Nat.le_refl 0
  | cons eg rest ih =>
    have positive := length_pos_of_ne_nil (nonempty eg mem_cons_self)
    have later := ih fun other member => nonempty other (mem_cons_of_mem _ member)
    rw [endpointSlots, flatMap_cons, List.length_append, length_cons, slots,
      length_map]
    rw [endpointSlots] at later
    omega

end SubscriptionManager

end OpenBsw.Someip
