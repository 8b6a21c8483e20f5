import OpenBsw.Someip.Sd.SubscriptionLookup

/-!
# Removing subscriptions

Each operation is described by what is found afterwards under every key.  Free objects
are read only where a group is released before it is looked for: with its last endpoint,
as a whole, or when everything is cleared.
-/

namespace OpenBsw.Someip

open OpenBsw List

namespace SubscriptionManager

open EventGroupKey

variable {ip6 : Bool} {manager : SubscriptionManager ip6} {key : EventGroupKey}
  {front back : List (SubscribedEventGroup ip6)} {eg : SubscribedEventGroup ip6}

theorem endpointSlots_middle (front back : List (SubscribedEventGroup ip6))
    (eg : SubscribedEventGroup ip6) :
    (endpointSlots (front ++ eg :: back)).Perm
      (slots eg.endpoints ++ endpointSlots (front ++ back)) := by
  simp only [endpointSlots, flatMap_append, flatMap_cons]
  rw [← append_assoc, ← append_assoc]
  exact perm_append_comm.append_right _

/-- A group is released and then found by its ids. -/
theorem removeGroup_eq (sorted : SortedGroups manager.eventgroups)
    (split : manager.eventgroups = front ++ eg :: back) :
    ∃ strayReads, manager.removeGroup eg =
      { manager with
        eventgroups := front ++ back
        groupPool := manager.groupPool.release eg.slot
        strayReads := strayReads } := by
  rw [split] at sorted
  have found := (compares_lessThan eg.key).find_mem sorted rfl
  have erased : (front ++ eg :: back).eraseIdx front.length = front ++ back := by
    rw [eraseIdx_append_of_length_le (Nat.le_refl _), Nat.sub_self, eraseIdx_zero]
    rfl
  rw [removeGroup, eraseByKey]
  simp only [find, searched, reads, releaseGroup, split, found, erased]
  exact ⟨_, rfl⟩

/-- What an operation leaves that changes the subscriptions under one key. -/
structure Replaces (manager result : SubscriptionManager ip6) (key : EventGroupKey)
    (subscriptions : List (Subscription ip6)) : Prop where
  consistent : Consistent result
  lookup_eq : ∀ other, lookup result.eventgroups other =
    if other = key then subscriptions else lookup manager.eventgroups other

section Remove

variable {removed kept : List (SubscriptionEndpoint ip6)}

theorem holds_released (consistent : Consistent manager)
    (split : manager.eventgroups = front ++ eg :: back)
    (all : (removed ++ kept).Perm eg.endpoints) :
    (manager.endpointPool.releaseAll (slots removed)).Holds
      (slots kept ++ endpointSlots (front ++ back)) := by
  refine Pool.Holds.releaseAll (consistent.endpointPool.perm ?_)
  rw [split, ← append_assoc]
  refine (endpointSlots_middle front back eg).trans (List.Perm.append_right _ ?_)
  rw [slots, slots, slots, ← map_append]
  exact all.symm.map _

theorem holds_groups_erase (consistent : Consistent manager)
    (split : manager.eventgroups = front ++ eg :: back) :
    (manager.groupPool.release eg.slot).Holds ((front ++ back).map SubscribedEventGroup.slot) := by
  refine Pool.Holds.release (consistent.groupPool.perm ?_)
  rw [split, map_append, map_append, map_cons]
  exact perm_middle

/-- Another group with the same key and slot stands in the place of a group, and the pool
holds its endpoints. -/
theorem replaceGroup (consistent : Consistent manager)
    (split : manager.eventgroups = front ++ eg :: back) {left : SubscribedEventGroup ip6}
    {endpointPool : Pool} (sameKey : left.key = eg.key) (sameSlot : left.slot = eg.slot)
    (some : left.endpoints ≠ []) (once : left.subscriptions.Pairwise Apart)
    (holds : endpointPool.Holds (slots left.endpoints ++ endpointSlots (front ++ back)))
    (capacity : endpointPool.capacity = manager.endpointPool.capacity) :
    Replaces manager ({ manager with endpointPool := endpointPool }.setGroup front.length left)
      eg.key left.subscriptions := by
  have sorted := consistent.sorted
  rw [split] at sorted
  have replaced : manager.eventgroups.set front.length left = front ++ left :: back := by
    rw [split, set_append_right _ _ (Nat.le_refl _), Nat.sub_self, set_cons_zero]
  have member : eg ∈ manager.eventgroups := by
    rw [split]
    exact mem_append_right _ mem_cons_self
  have others : ∀ other ∈ manager.eventgroups.set front.length left,
      other = left ∨ other ∈ manager.eventgroups := by
    intro other inside
    rw [replaced] at inside
    rw [split]
    rcases mem_append.mp inside with ahead | here
    · exact .inr (mem_append_left _ ahead)
    · rcases mem_cons.mp here with same | behind
      · exact .inl same
      · exact .inr (mem_append_right _ (mem_cons_of_mem _ behind))
  constructor
  · constructor
    · change SortedGroups (manager.eventgroups.set _ _)
      rw [replaced]
      exact FlatSet.Sorted.replace sorted (congrArg EventGroupKey.order sameKey)
    · intro other inside
      rcases others other inside with rfl | old
      · rw [sameKey]
        exact consistent.valid eg member
      · exact consistent.valid other old
    · intro other inside
      rcases others other inside with rfl | old
      · exact some
      · exact consistent.nonempty other old
    · intro other inside
      rcases others other inside with rfl | old
      · exact once
      · exact consistent.once other old
    · change manager.groupPool.Holds ((manager.eventgroups.set _ _).map _)
      rw [replaced]
      have holdsGroups := consistent.groupPool
      rw [split] at holdsGroups
      refine holdsGroups.perm (List.Perm.of_eq ?_)
      rw [map_append, map_append, map_cons, map_cons, sameSlot]
    · change endpointPool.Holds (endpointSlots (manager.eventgroups.set _ _))
      rw [replaced]
      exact holds.perm (endpointSlots_middle front back left).symm
    · exact consistent.groupCapacity
    · exact capacity.trans consistent.endpointCapacity
  · intro key
    change lookup (manager.eventgroups.set _ _) key = _
    rw [replaced, SortedGroups.lookup_replace sorted sameKey, split]

/-- Endpoints are left: the group stays in its place. -/
theorem removeEndpoints_some (consistent : Consistent manager)
    (split : manager.eventgroups = front ++ eg :: back)
    (all : (removed ++ kept).Perm eg.endpoints) (sublist : kept.Sublist eg.endpoints)
    (some : kept ≠ []) :
    Replaces manager (manager.removeEndpoints front.length eg removed kept) eg.key
        (kept.map SubscriptionEndpoint.subscription) ∧
      (manager.removeEndpoints front.length eg removed kept).strayReads =
        manager.strayReads := by
  have notEmpty : kept.isEmpty = false := by
    cases kept with
    | nil => exact absurd rfl some
    | cons _ _ => rfl
  have member : eg ∈ manager.eventgroups := by
    rw [split]
    exact mem_append_right _ mem_cons_self
  have once : (kept.map SubscriptionEndpoint.subscription).Pairwise Apart :=
    (consistent.once eg member).sublist (sublist.map _)
  have left : Replaces manager
      ({ manager with endpointPool := manager.endpointPool.releaseAll (slots removed) }.setGroup
        front.length { eg with endpoints := kept }) eg.key
      (kept.map SubscriptionEndpoint.subscription) :=
    replaceGroup consistent split rfl rfl some once (holds_released consistent split all)
      (Pool.capacity_releaseAll _ _)
  rw [removeEndpoints, notEmpty, if_neg Bool.false_ne_true]
  exact ⟨left, rfl⟩

/-- No endpoint is left: the group is gone. -/
theorem removeEndpoints_none (consistent : Consistent manager)
    (split : manager.eventgroups = front ++ eg :: back) (all : removed.Perm eg.endpoints) :
    Replaces manager (manager.removeEndpoints front.length eg removed []) eg.key [] ∧
      (manager.removeEndpoints front.length eg removed []).eventgroups = front ++ back := by
  have sorted := consistent.sorted
  rw [split] at sorted
  have replaced : manager.eventgroups.set front.length { eg with endpoints := [] } =
      front ++ { eg with endpoints := [] } :: back := by
    rw [split, set_append_right _ _ (Nat.le_refl _), Nat.sub_self, set_cons_zero]
  have groups : ((manager.releaseEndpoints removed).setGroup front.length
      { eg with endpoints := [] }).eventgroups =
        front ++ { eg with endpoints := [] } :: back := replaced
  obtain ⟨strayReads, result⟩ := removeGroup_eq
    (by rw [groups]; exact FlatSet.Sorted.replace sorted rfl) groups
  have others : ∀ other ∈ front ++ back, other ∈ manager.eventgroups := by
    intro other inside
    rw [split]
    rcases mem_append.mp inside with ahead | behind
    · exact mem_append_left _ ahead
    · exact mem_append_right _ (mem_cons_of_mem _ behind)
  rw [removeEndpoints]
  simp only [isEmpty_nil, if_true]
  rw [result]
  refine ⟨⟨⟨FlatSet.Sorted.erase sorted, ?_, ?_, ?_, ?_, ?_, ?_, ?_⟩, ?_⟩, rfl⟩
  · exact fun other inside => consistent.valid other (others other inside)
  · exact fun other inside => consistent.nonempty other (others other inside)
  · exact fun other inside => consistent.once other (others other inside)
  · change (manager.groupPool.release eg.slot).Holds _
    exact holds_groups_erase consistent split
  · have whole : (removed ++ []).Perm eg.endpoints := (append_nil removed).symm ▸ all
    exact holds_released consistent split whole
  · exact consistent.groupCapacity
  · exact (Pool.capacity_releaseAll _ _).trans consistent.endpointCapacity
  · intro key
    change lookup (front ++ back) key = _
    rw [SortedGroups.lookup_erase sorted, split]

end Remove

theorem slot_nodup (consistent : Consistent manager) (member : eg ∈ manager.eventgroups) :
    (slots eg.endpoints).Nodup := by
  have nodup := (nodup_append.mp consistent.endpointPool.nodup).1
  rw [endpointSlots, nodup_flatMap] at nodup
  exact nodup.1 eg member

/-- The endpoint that is found is the only one that matches, and the others stay. -/
theorem find_endpoint {endpoints : List (SubscriptionEndpoint ip6)}
    {ep : SubscriptionEndpoint ip6} {address : IPAddress ip6} {port : UInt16}
    (nodup : (slots endpoints).Nodup)
    (once : (endpoints.map SubscriptionEndpoint.subscription).Pairwise Apart)
    (found : endpoints.find? (·.subscription.isOf address port) = some ep) :
    ([ep] ++ endpoints.filter (·.slot ≠ ep.slot)).Perm endpoints ∧
      (endpoints.filter (·.slot ≠ ep.slot)).map SubscriptionEndpoint.subscription =
        (endpoints.map SubscriptionEndpoint.subscription).filter
          fun subscription => !subscription.isOf address port := by
  induction endpoints with
  | nil => cases found
  | cons first rest ih =>
    rw [slots, map_cons, nodup_cons] at nodup
    rw [map_cons, pairwise_cons] at once
    by_cases here : first.subscription.isOf address port = true
    · simp only [List.find?_cons, here] at found
      obtain rfl := Option.some.inj found
      have others : rest.filter (·.slot ≠ first.slot) = rest := by
        refine filter_eq_self.mpr fun other member => ?_
        have different : other.slot ≠ first.slot :=
          fun same => nodup.1 (same ▸ mem_map_of_mem member)
        simpa using different
      have apart : (rest.map SubscriptionEndpoint.subscription).filter
          (fun subscription => !subscription.isOf address port) =
            rest.map SubscriptionEndpoint.subscription := by
        refine filter_eq_self.mpr fun other member => ?_
        have different := once.1 other member
        simp only [Subscription.isOf, Bool.and_eq_true, decide_eq_true_eq] at here
        simp only [Subscription.isOf, Bool.not_eq_true', Bool.and_eq_false_iff,
          decide_eq_false_iff_not]
        by_contra both
        push Not at both
        exact different ⟨here.1.trans both.1.symm, here.2.trans both.2.symm⟩
      rw [filter_cons_of_neg (by simp), others, map_cons,
        filter_cons_of_neg (by simp [here]), apart]
      exact ⟨List.Perm.refl _, rfl⟩
    · simp only [List.find?_cons, here] at found
      obtain ⟨perm, filtered⟩ := ih nodup.2 once.2 found
      have member : ep ∈ rest := List.mem_of_find?_eq_some found
      have different : first.slot ≠ ep.slot :=
        fun same => nodup.1 (same ▸ mem_map_of_mem member)
      rw [filter_cons_of_pos (by simpa using different), map_cons, map_cons,
        filter_cons_of_pos (by simpa using here), filtered]
      exact ⟨(List.Perm.swap _ _ _).trans (perm.cons first), rfl⟩

/-- The subscriptions of other endpoints. -/
def without (address : IPAddress ip6) (port : UInt16) (subscriptions : List (Subscription ip6)) :
    List (Subscription ip6) :=
  subscriptions.filter fun subscription => !subscription.isOf address port

theorem without_eq_self {subscriptions : List (Subscription ip6)} {address : IPAddress ip6}
    {port : UInt16} (absent : ∀ subscription ∈ subscriptions,
      ¬ subscription.isOf address port = true) :
    without address port subscriptions = subscriptions :=
  filter_eq_self.mpr fun subscription member => by simpa using absent subscription member

/-- Nothing changes where the key or the endpoint is not there. -/
theorem Replaces.refl (consistent : Consistent manager) {subscriptions : List (Subscription ip6)}
    (same : lookup manager.eventgroups key = subscriptions) :
    Replaces manager manager key subscriptions where
  consistent := consistent
  lookup_eq other := by
    by_cases equal : other = key
    · rw [if_pos equal, equal, same]
    · rw [if_neg equal]

theorem Consistent.lookup_split (consistent : Consistent manager)
    (split : manager.eventgroups = front ++ eg :: back) :
    lookup manager.eventgroups eg.key = eg.subscriptions := by
  have sorted := consistent.sorted
  rw [split] at sorted
  rw [split, lookup_middle sorted.absent.1, if_pos rfl]

/-- An invalid key is that of no group. -/
theorem Consistent.lookup_invalid (consistent : Consistent manager)
    (invalid : (!key.isValid) = true) : lookup manager.eventgroups key = [] := by
  refine lookup_of_absent fun eg member same => ?_
  rw [← same, consistent.valid eg member] at invalid
  exact absurd invalid (by decide)

/-- Removing an endpoint; nothing is read that is free unless the endpoint is the last one of
its group. -/
theorem removeSubscription_spec (consistent : Consistent manager) (key : EventGroupKey)
    (address : IPAddress ip6) (port : UInt16) :
    Replaces manager (manager.removeSubscription key address port) key
        (without address port (lookup manager.eventgroups key)) ∧
      (lookup manager.eventgroups key = [] ∨
          without address port (lookup manager.eventgroups key) ≠ [] →
        (manager.removeSubscription key address port).strayReads = manager.strayReads) := by
  rw [removeSubscription]
  by_cases invalid : (!key.isValid) = true
  · rw [if_pos invalid, consistent.lookup_invalid invalid]
    exact ⟨.refl consistent (consistent.lookup_invalid invalid), fun _ => rfl⟩
  · rw [if_neg invalid, consistent.searched_eq]
    rcases findGroup_cases consistent.sorted key with
      ⟨front, eg, back, split, rfl, found⟩ | ⟨absent, found⟩
    · have member : eg ∈ manager.eventgroups := by
        rw [split]
        exact mem_append_right _ mem_cons_self
      rw [found, consistent.lookup_split split]
      dsimp only
      rw [consistent.reads_group member]
      cases matching : eg.endpoints.find? (·.subscription.isOf address port) with
      | none =>
        have unmatched : without address port eg.subscriptions = eg.subscriptions := by
          refine without_eq_self fun subscription inside => ?_
          obtain ⟨ep, inGroup, rfl⟩ := mem_map.mp inside
          exact List.find?_eq_none.mp matching ep inGroup
        rw [unmatched]
        exact ⟨.refl consistent (consistent.lookup_split split), fun _ => rfl⟩
      | some ep =>
        obtain ⟨perm, filtered⟩ := find_endpoint (slot_nodup consistent member)
          (consistent.once eg member) matching
        have rest : without address port eg.subscriptions =
            (eg.endpoints.filter (·.slot ≠ ep.slot)).map SubscriptionEndpoint.subscription :=
          filtered.symm
        rw [rest]
        dsimp only
        by_cases last : eg.endpoints.filter (·.slot ≠ ep.slot) = []
        · rw [last] at perm ⊢
          refine ⟨(removeEndpoints_none consistent split perm).1, ?_⟩
          rintro (none | some)
          · exact absurd (map_eq_nil_iff.mp none) (consistent.nonempty eg member)
          · exact absurd rfl some
        · obtain ⟨replaces, reads⟩ := removeEndpoints_some consistent split perm
            filter_sublist last
          exact ⟨replaces, fun _ => reads⟩
    · rw [found, lookup_of_absent absent]
      exact ⟨.refl consistent (lookup_of_absent absent), fun _ => rfl⟩

/-- Removing a group. -/
theorem removeSubscriptionsOf_spec (consistent : Consistent manager) (key : EventGroupKey) :
    Replaces manager (manager.removeSubscriptionsOf key) key [] ∧
      (lookup manager.eventgroups key = [] →
        (manager.removeSubscriptionsOf key).strayReads = manager.strayReads) := by
  rw [removeSubscriptionsOf]
  by_cases invalid : (!key.isValid) = true
  · rw [if_pos invalid]
    exact ⟨.refl consistent (consistent.lookup_invalid invalid), fun _ => rfl⟩
  · rw [if_neg invalid, consistent.searched_eq]
    rcases findGroup_cases consistent.sorted key with
      ⟨front, eg, back, split, rfl, found⟩ | ⟨absent, found⟩
    · have member : eg ∈ manager.eventgroups := by
        rw [split]
        exact mem_append_right _ mem_cons_self
      rw [found, consistent.lookup_split split]
      dsimp only
      rw [consistent.reads_group member]
      refine ⟨(removeEndpoints_none consistent split (List.Perm.refl _)).1, ?_⟩
      intro none
      exact absurd (map_eq_nil_iff.mp none) (consistent.nonempty eg member)
    · rw [found]
      exact ⟨.refl consistent (lookup_of_absent absent), fun _ => rfl⟩

/-- All groups are removed, the last one first. -/
theorem clear_spec (consistent : Consistent manager) :
    Consistent manager.clear ∧ manager.clear.eventgroups = [] ∧
      (manager.eventgroups = [] → manager.clear.strayReads = manager.strayReads) := by
  suffices rounds : ∀ left (manager : SubscriptionManager ip6), Consistent manager →
      manager.eventgroups.length = left →
        Consistent (clearGroups left manager) ∧ (clearGroups left manager).eventgroups = [] by
    obtain ⟨cleared, none⟩ := rounds _ manager consistent rfl
    refine ⟨cleared, none, fun empty => ?_⟩
    rw [clear, empty]
    rfl
  intro left
  induction left with
  | zero =>
    intro manager consistent length
    exact ⟨consistent, length_eq_zero_iff.mp length⟩
  | succ left ih =>
    intro manager consistent length
    obtain ⟨front, eg, split⟩ : ∃ front eg, manager.eventgroups = front ++ [eg] := by
      rcases eq_nil_or_concat manager.eventgroups with empty | ⟨front, eg, split⟩
      · rw [empty] at length
        cases length
      · exact ⟨front, eg, by rw [split, concat_eq_append]⟩
    have position : front.length = left := by
      rw [split, List.length_append, length_singleton] at length
      omega
    have last : manager.eventgroups[left]? = some eg := by
      rw [split, ← position, List.getElem?_append_right (Nat.le_refl _), Nat.sub_self]
      rfl
    have member : eg ∈ manager.eventgroups := by
      rw [split]
      exact mem_append_right _ mem_cons_self
    obtain ⟨replaces, rest⟩ := removeEndpoints_none consistent split (List.Perm.refl _)
    rw [clearGroups, last]
    dsimp only
    rw [position] at replaces rest
    rw [consistent.reads_group member]
    refine ih _ replaces.consistent ?_
    rw [rest, append_nil, position]

end SubscriptionManager

end OpenBsw.Someip
