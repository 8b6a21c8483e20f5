import OpenBsw.Someip.Sd.SubscriptionRemoval

/-!
# Adding subscriptions

An endpoint is added to its group, which is made where it is missing, or gets a new time
to live.  Where it fails nothing has changed but that a group may have been made and
released, which is read once more after that.
-/

namespace OpenBsw.Someip

open OpenBsw List

namespace SubscriptionManager

open EventGroupKey

variable {ip6 : Bool} {manager : SubscriptionManager ip6} {key : EventGroupKey}
  {front back : List (SubscribedEventGroup ip6)} {eg : SubscribedEventGroup ip6}

/-- A subscription more, or its new time to live. -/
def subscribe (address : IPAddress ip6) (port : UInt16) (ttl : Nat)
    (subscriptions : List (Subscription ip6)) : List (Subscription ip6) :=
  if subscriptions.any (·.isOf address port) then
    subscriptions.map fun subscription =>
      if subscription.isOf address port then { subscription with ttl := ttl } else subscription
  else ⟨address, port, ttl⟩ :: subscriptions

section Add

variable {address : IPAddress ip6} {port : UInt16} {ttl : Nat}

theorem isOf_iff {subscription : Subscription ip6} :
    subscription.isOf address port = true ↔
      subscription.address = address ∧ subscription.port = port := by
  rw [Subscription.isOf, Bool.and_eq_true, decide_eq_true_eq, decide_eq_true_eq]

theorem slots_refresh (address : IPAddress ip6) (port : UInt16) (ttl : Nat)
    (endpoints : List (SubscriptionEndpoint ip6)) :
    slots (refresh address port ttl endpoints) = slots endpoints := by
  induction endpoints with
  | nil => rfl
  | cons ep rest ih =>
    rw [refresh]
    split
    · rfl
    · rw [slots, map_cons]
      exact congrArg _ ih

/-- The first endpoint that matches is the only one. -/
theorem subscriptions_refresh {endpoints : List (SubscriptionEndpoint ip6)}
    (once : (endpoints.map SubscriptionEndpoint.subscription).Pairwise Apart) :
    (refresh address port ttl endpoints).map SubscriptionEndpoint.subscription =
      (endpoints.map SubscriptionEndpoint.subscription).map fun subscription =>
        if subscription.isOf address port then { subscription with ttl := ttl }
        else subscription := by
  induction endpoints with
  | nil => rfl
  | cons ep rest ih =>
    rw [map_cons, pairwise_cons] at once
    rw [refresh, map_cons, map_cons]
    by_cases here : ep.subscription.isOf address port = true
    · rw [if_pos here, if_pos here, map_cons]
      congr 1
      refine (map_id _).symm.trans (map_congr_left fun other member => ?_)
      have apart := once.1 other member
      rw [isOf_iff] at here
      have different : ¬ other.isOf address port = true := by
        rw [isOf_iff]
        rintro ⟨sameAddress, samePort⟩
        exact apart ⟨here.1.trans sameAddress.symm, here.2.trans samePort.symm⟩
      rw [if_neg different]
      rfl
    · rw [if_neg here, if_neg here, map_cons, ih once.2]

/-- Subscribing keeps the endpoints apart. -/
theorem apart_subscribe (address : IPAddress ip6) (port : UInt16) (ttl : Nat)
    {subscriptions : List (Subscription ip6)} (once : subscriptions.Pairwise Apart) :
    (subscribe address port ttl subscriptions).Pairwise Apart := by
  rw [subscribe]
  split
  · rw [pairwise_map]
    refine once.imp fun {first second} apart same => apart ?_
    split at same
    · split at same
      · exact same
      · exact same
    · split at same
      · exact same
      · exact same
  · rename_i absent
    rw [pairwise_cons]
    refine ⟨fun other member same => absent ?_, once⟩
    exact any_eq_true.mpr ⟨other, member, isOf_iff.mpr ⟨same.1.symm, same.2.symm⟩⟩

/-- A group with one endpoint stands where there was none with its key. -/
theorem insertGroup (consistent : Consistent manager) (split : manager.eventgroups = front ++ back)
    {left : SubscribedEventGroup ip6} {groupPool endpointPool : Pool}
    (sorted : SortedGroups (front ++ left :: back)) (valid : left.key.isValid = true)
    (some : left.endpoints ≠ []) (once : left.subscriptions.Pairwise Apart)
    (holdsGroup : groupPool.Holds (left.slot :: manager.eventgroups.map SubscribedEventGroup.slot))
    (groupCapacity : groupPool.capacity = manager.groupPool.capacity)
    (holds : endpointPool.Holds (slots left.endpoints ++ endpointSlots manager.eventgroups))
    (capacity : endpointPool.capacity = manager.endpointPool.capacity) :
    Replaces manager
      { manager with
        eventgroups := front ++ left :: back
        groupPool := groupPool
        endpointPool := endpointPool } left.key left.subscriptions := by
  have others : ∀ other ∈ front ++ left :: back,
      other = left ∨ other ∈ manager.eventgroups := by
    intro other inside
    rw [split]
    rcases mem_append.mp inside with ahead | here
    · exact .inr (mem_append_left _ ahead)
    · rcases mem_cons.mp here with same | behind
      · exact .inl same
      · exact .inr (mem_append_right _ behind)
  constructor
  · constructor
    · exact sorted
    · intro other inside
      rcases others other inside with rfl | old
      · exact valid
      · exact consistent.valid other old
    · intro other inside
      rcases others other inside with rfl | old
      · exact some
      · exact consistent.nonempty other old
    · intro other inside
      rcases others other inside with rfl | old
      · exact once
      · exact consistent.once other old
    · refine holdsGroup.perm ?_
      rw [split, map_append, map_append, map_cons]
      exact perm_middle.symm
    · rw [split] at holds
      exact holds.perm (endpointSlots_middle front back left).symm
    · exact groupCapacity.trans consistent.groupCapacity
    · exact capacity.trans consistent.endpointCapacity
  · intro key
    change lookup (front ++ left :: back) key = _
    rw [lookup_middle sorted.absent.1, split]

/-- What adding to the group at a position of the set does. -/
theorem addEndpoint_present (address : IPAddress ip6) (port : UInt16) (ttl : Nat)
    (consistent : Consistent manager) (split : manager.eventgroups = front ++ eg :: back) :
    ∃ next result,
      manager.addEndpoint front.length eg false ttl address port = (next, result) ∧
        Replaces manager next eg.key
          (if result = .INTERNAL_SUBSCRIBE_ERROR then eg.subscriptions
            else subscribe address port ttl eg.subscriptions) ∧
        next.strayReads = manager.strayReads ∧
        (result = .INTERNAL_SUBSCRIBE_ERROR ↔
          eg.subscriptions.any (·.isOf address port) = false ∧
            manager.endpointPool.isFull = true) ∧
        (result = .INTERNAL_ALREADY_SUBSCRIBED ↔
          eg.subscriptions.any (·.isOf address port) = true) := by
  have member : eg ∈ manager.eventgroups := by
    rw [split]
    exact mem_append_right _ mem_cons_self
  have once := consistent.once eg member
  have holds := consistent.endpointPool
  rw [split] at holds
  have parts := holds.perm (endpointSlots_middle front back eg)
  have anyEq : eg.subscriptions.any (·.isOf address port) =
      eg.endpoints.any (·.subscription.isOf address port) := any_map
  rw [addEndpoint, consistent.reads_group member, anyEq]
  dsimp only
  by_cases present : eg.endpoints.any (·.subscription.isOf address port) = true
  · rw [if_pos present, present]
    refine ⟨_, _, rfl, ?_, rfl, by simp, by simp⟩
    have refreshed : (refresh address port ttl eg.endpoints).map
        SubscriptionEndpoint.subscription = subscribe address port ttl eg.subscriptions := by
      rw [subscribe, anyEq, if_pos present]
      exact subscriptions_refresh once
    have slotsEq := slots_refresh address port ttl eg.endpoints
    have replaced : Replaces manager
        ({ manager with endpointPool := manager.endpointPool }.setGroup front.length
          { eg with endpoints := refresh address port ttl eg.endpoints }) eg.key
        ((refresh address port ttl eg.endpoints).map SubscriptionEndpoint.subscription) := by
      refine replaceGroup consistent split rfl rfl ?_ ?_ ?_ rfl
      · intro none
        have empty : slots eg.endpoints = [] := slotsEq.symm.trans (congrArg slots none)
        exact consistent.nonempty eg member (map_eq_nil_iff.mp empty)
      · rw [SubscribedEventGroup.subscriptions, refreshed]
        exact apart_subscribe address port ttl once
      · rw [slotsEq]
        exact parts
    rw [refreshed] at replaced
    exact replaced
  · rw [if_neg present]
    have absent := Bool.eq_false_iff.mpr present
    rw [absent]
    cases allocated : manager.endpointPool.allocate with
    | none =>
      have full := Pool.allocate_eq_none_iff.mp allocated
      refine ⟨_, _, rfl, .refl consistent ?_, rfl, by simp [full], by simp⟩
      rw [if_pos rfl]
      exact consistent.lookup_split split
    | some taken =>
      obtain ⟨slot, endpointPool⟩ := taken
      have notFull : manager.endpointPool.isFull ≠ true := by
        intro full
        rw [Pool.allocate_eq_none_iff.mpr full] at allocated
        cases allocated
      obtain ⟨held, -, capacity⟩ := parts.allocate allocated
      refine ⟨_, _, rfl, ?_, rfl, by simp [notFull], by simp⟩
      have added : subscribe address port ttl eg.subscriptions =
          ⟨address, port, ttl⟩ :: eg.subscriptions := by
        rw [subscribe, anyEq, if_neg present]
      have apart := apart_subscribe address port ttl once
      rw [if_neg (by decide), added]
      rw [added] at apart
      exact replaceGroup consistent split rfl rfl (cons_ne_nil _ _) apart held capacity

/-- Other groups, and the pool they come from. -/
abbrev withGroups (manager : SubscriptionManager ip6) (groupPool : Pool)
    (groups : List (SubscribedEventGroup ip6)) : SubscriptionManager ip6 :=
  { manager with groupPool := groupPool, eventgroups := groups }

/-- A group that is made stands at its position in the set, and its slot is in use. -/
theorem addGroup_eq (consistent : Consistent manager)
    (absent : ∀ eg ∈ manager.eventgroups, eg.key ≠ key) {slot : Nat} {groupPool : Pool}
    (allocated : manager.groupPool.allocate = some (slot, groupPool)) :
    ∃ front back, manager.eventgroups = front ++ back ∧
      manager.lowerBound key = front.length ∧
      manager.addGroup key =
        some (manager.withGroups groupPool (front ++ { slot := slot, key := key } :: back),
          { slot := slot, key := key }) ∧
      SortedGroups
        (front ++ ({ slot := slot, key := key } : SubscribedEventGroup ip6) :: back) := by
  have absentOrder : ∀ eg ∈ manager.eventgroups, eg.key.order ≠ key.order :=
    fun eg member same => absent eg member (order_inj.mp same)
  obtain ⟨front, back, split, position, inserted, sorted⟩ :=
    (compares_lessThan key).insert_absent consistent.sorted absentOrder
      (rfl : (({ slot := slot, key := key } : SubscribedEventGroup ip6).key.order) = key.order)
  refine ⟨front, back, split, position, ?_, sorted⟩
  rw [addGroup, allocated, Option.map_some, consistent.searched_eq]
  dsimp only
  rw [inserted]

/-- Adding to a group that was made for it; where it fails nothing has changed. -/
theorem addEndpoint_new (address : IPAddress ip6) (port : UInt16) (ttl : Nat)
    (consistent : Consistent manager) (absent : ∀ eg ∈ manager.eventgroups, eg.key ≠ key)
    (valid : key.isValid = true)
    (split : manager.eventgroups = front ++ back) {slot : Nat} {groupPool : Pool}
    (allocated : manager.groupPool.allocate = some (slot, groupPool))
    (sorted : SortedGroups
      (front ++ ({ slot := slot, key := key } : SubscribedEventGroup ip6) :: back)) :
    ∃ next result,
      addEndpoint (manager.withGroups groupPool (front ++ { slot := slot, key := key } :: back))
        front.length { slot := slot, key := key } true ttl address port = (next, result) ∧
        Replaces manager next key
          (if result = .INTERNAL_SUBSCRIBE_ERROR then [] else subscribe address port ttl []) ∧
        (manager.endpointPool.isFull = false → next.strayReads = manager.strayReads) ∧
        (result = .INTERNAL_SUBSCRIBE_ERROR ↔ manager.endpointPool.isFull = true) ∧
        result ≠ .INTERNAL_ALREADY_SUBSCRIBED := by
  obtain ⟨held, -, groupCapacity⟩ := consistent.groupPool.allocate allocated
  have live : (manager.withGroups groupPool (front ++ { slot := slot, key := key } :: back)).reads
      [slot] (slots ([] : List (SubscriptionEndpoint ip6))) =
        manager.withGroups groupPool (front ++ { slot := slot, key := key } :: back) := by
    refine reads_eq ?_ fun _ member => absurd member not_mem_nil
    intro other member
    rw [mem_singleton.mp member]
    exact held.notMem_free mem_cons_self
  rw [addEndpoint, live]
  dsimp only
  rw [any_nil, if_neg Bool.false_ne_true]
  have none := lookup_of_absent absent
  cases taken : manager.endpointPool.allocate with
  | none =>
    have full := Pool.allocate_eq_none_iff.mp taken
    obtain ⟨strayReads, removed⟩ := removeGroup_eq sorted
      (rfl : (manager.withGroups groupPool
        (front ++ { slot := slot, key := key } :: back)).eventgroups = _)
    refine ⟨_, _, rfl, ?_, by simp [full], by simp [full], by simp⟩
    rw [if_pos rfl, if_pos rfl, removed, Pool.release_of_allocate allocated, ← split]
    exact ⟨⟨consistent.sorted, consistent.valid, consistent.nonempty, consistent.once,
      consistent.groupPool, consistent.endpointPool, consistent.groupCapacity,
      consistent.endpointCapacity⟩, (Replaces.refl consistent none).lookup_eq⟩
  | some pair =>
    obtain ⟨endpointSlot, endpointPool⟩ := pair
    have notFull : manager.endpointPool.isFull ≠ true := by
      intro full
      rw [Pool.allocate_eq_none_iff.mpr full] at taken
      cases taken
    obtain ⟨holds, -, capacity⟩ := consistent.endpointPool.allocate taken
    have replaced : (front ++ ({ slot := slot, key := key } : SubscribedEventGroup ip6) :: back).set
        front.length
          { slot := slot, key := key, endpoints := [⟨endpointSlot, ⟨address, port, ttl⟩⟩] } =
          front ++
            { slot := slot, key := key, endpoints := [⟨endpointSlot, ⟨address, port, ttl⟩⟩] } ::
              back := by
      rw [set_append_right _ _ (Nat.le_refl _), Nat.sub_self, set_cons_zero]
    refine ⟨_, _, rfl, ?_, fun _ => rfl, by simp [notFull], by simp⟩
    rw [if_neg (by decide)]
    simp only [setGroup, replaced]
    exact insertGroup consistent split (FlatSet.Sorted.replace sorted rfl) valid
      (cons_ne_nil _ _) (pairwise_singleton _ _) held groupCapacity holds capacity

/-- Adding fails only for an invalid key and for a new endpoint without room in the pool; it
reads a free object where it has made a group for nothing. -/
theorem addSubscription_spec (consistent : Consistent manager) (key : EventGroupKey) (ttl : Nat)
    (address : IPAddress ip6) (port : UInt16) :
    ∃ next result,
      manager.addSubscription key ttl address port = some (next, result) ∧
        Replaces manager next key
          (if result = .INTERNAL_SUBSCRIBE_ERROR then lookup manager.eventgroups key
            else subscribe address port ttl (lookup manager.eventgroups key)) ∧
        (key.isValid = false ∨ lookup manager.eventgroups key ≠ [] ∨
            manager.endpointPool.isFull = false ∨
            manager.eventgroups.length = manager.maxGroups →
          next.strayReads = manager.strayReads) ∧
        (result = .INTERNAL_SUBSCRIBE_ERROR ↔
          key.isValid = false ∨
            (lookup manager.eventgroups key).any (·.isOf address port) = false ∧
              manager.endpointPool.isFull = true) ∧
        (result = .INTERNAL_ALREADY_SUBSCRIBED ↔
          (lookup manager.eventgroups key).any (·.isOf address port) = true) := by
  rw [addSubscription]
  by_cases invalid : (!key.isValid) = true
  · have none := consistent.lookup_invalid invalid
    rw [Bool.not_eq_true'] at invalid
    rw [invalid, none]
    exact ⟨_, _, rfl, .refl consistent none, fun _ => rfl, by simp, by simp⟩
  · rw [if_neg invalid, consistent.searched_eq]
    rw [Bool.not_eq_true', Bool.not_eq_false] at invalid
    rcases findGroup_cases consistent.sorted key with
      ⟨front, eg, back, split, rfl, found⟩ | ⟨absent, found⟩
    · obtain ⟨next, result, added, replaces, reads, error, already⟩ :=
        addEndpoint_present address port ttl consistent split
      rw [found, consistent.lookup_split split]
      refine ⟨next, result, congrArg some added, replaces, fun _ => reads, ?_, already⟩
      rw [error, invalid]
      simp
    · have none := lookup_of_absent absent
      rw [found, none]
      dsimp only
      by_cases full : manager.eventgroups.length = manager.maxGroups
      · rw [if_pos full]
        have endpoints := consistent.length_le
        have poolFull : manager.endpointPool.isFull = true := by
          rw [consistent.endpointPool.isFull_iff, consistent.endpointCapacity]
          have bound := consistent.endpointPool.length
          rw [consistent.endpointCapacity] at bound
          omega
        refine ⟨_, _, rfl, .refl consistent none, fun _ => rfl, by simp [poolFull], by simp⟩
      · rw [if_neg full]
        have room : manager.groupPool.allocate ≠ .none := by
          rw [ne_eq, Pool.allocate_eq_none_iff, consistent.groupPool.isFull_iff,
            consistent.groupCapacity, length_map]
          exact full
        obtain ⟨⟨slot, groupPool⟩, allocated⟩ := Option.ne_none_iff_exists'.mp room
        obtain ⟨front, back, split, position, made, sorted⟩ :=
          addGroup_eq consistent absent allocated
        obtain ⟨next, result, added, replaces, reads, error, already⟩ :=
          addEndpoint_new address port ttl consistent absent invalid split allocated sorted
        rw [made, Option.map_some, position]
        refine ⟨next, result, congrArg some added, replaces, ?_, ?_, by simp [already]⟩
        · rintro (notValid | some | notFull | same)
          · exact absurd (invalid.symm.trans notValid) (by decide)
          · exact absurd rfl some
          · exact reads notFull
          · exact absurd same full
        · rw [error, invalid]
          simp

end Add

end SubscriptionManager

end OpenBsw.Someip
