import OpenBsw.Someip.Sd.SubscriptionLookup

/-!
# Passes over all subscriptions

A pass leaves the subscriptions that a condition leaves, and the groups that still have
some.  A group without endpoints is erased where the pass has met it, without a search.
-/

namespace OpenBsw.Someip

open OpenBsw List

namespace SubscriptionManager

open EventGroupKey

variable {ip6 : Bool} {manager : SubscriptionManager ip6} {key : EventGroupKey}
  {front back : List (SubscribedEventGroup ip6)} {eg : SubscribedEventGroup ip6}

section Sweep

variable {condition : Subscription ip6 → Option (Subscription ip6)}

/-- What a pass leaves of a group. -/
def sweepGroup (condition : Subscription ip6 → Option (Subscription ip6))
    (eg : SubscribedEventGroup ip6) : Option (SubscribedEventGroup ip6) :=
  if (eg.endpoints.filterMap (keep condition)).isEmpty then none
  else some { eg with endpoints := eg.endpoints.filterMap (keep condition) }

theorem subscriptions_filterMap (endpoints : List (SubscriptionEndpoint ip6)) :
    (endpoints.filterMap (keep condition)).map SubscriptionEndpoint.subscription =
      (endpoints.map SubscriptionEndpoint.subscription).filterMap condition := by
  rw [map_filterMap, filterMap_map]
  congr 1
  funext ep
  simp only [keep, Option.map_map, Function.comp_apply]
  exact Option.map_id'

/-- The slots that are released and those that are kept are all slots of a group. -/
theorem slots_filterMap (condition : Subscription ip6 → Option (Subscription ip6))
    (endpoints : List (SubscriptionEndpoint ip6)) :
    (slots (endpoints.filter fun ep => (condition ep.subscription).isNone) ++
      slots (endpoints.filterMap (keep condition))).Perm (slots endpoints) := by
  induction endpoints with
  | nil => exact List.Perm.refl _
  | cons ep rest ih =>
    cases kept : condition ep.subscription with
    | none =>
      rw [filter_cons_of_pos (by simp [kept]),
        filterMap_cons_none (by simp [keep, kept])]
      exact ih.cons ep.slot
    | some subscription =>
      have left : keep condition ep = some { ep with subscription := subscription } := by
        rw [keep, kept]
        rfl
      rw [filter_cons_of_neg (by simp [kept]), filterMap_cons_some left]
      exact perm_middle.trans (ih.cons ep.slot)

/-- What the loop of a pass leaves; `otherGroups` and `otherEndpoints` are in use beside the
groups that are still to come. -/
structure Swept (condition : Subscription ip6 → Option (Subscription ip6))
    (manager : SubscriptionManager ip6) (groups : List (SubscribedEventGroup ip6))
    (otherGroups otherEndpoints : List Nat)
    (result : SubscriptionManager ip6 × List (SubscribedEventGroup ip6)) : Prop where
  groups_eq : result.2 = groups.filterMap (sweepGroup condition)
  groupPool : result.1.groupPool.Holds (result.2.map SubscribedEventGroup.slot ++ otherGroups)
  endpointPool : result.1.endpointPool.Holds (endpointSlots result.2 ++ otherEndpoints)
  strayReads : result.1.strayReads = manager.strayReads
  maxGroups : result.1.maxGroups = manager.maxGroups
  groupCapacity : result.1.groupPool.capacity = manager.groupPool.capacity
  endpointCapacity : result.1.endpointPool.capacity = manager.endpointPool.capacity

theorem swept_sweep (condition : Subscription ip6 → Option (Subscription ip6))
    (groups : List (SubscribedEventGroup ip6)) (manager : SubscriptionManager ip6)
    (otherGroups otherEndpoints : List Nat)
    (holdsGroups : manager.groupPool.Holds
      (groups.map SubscribedEventGroup.slot ++ otherGroups))
    (holdsEndpoints : manager.endpointPool.Holds (endpointSlots groups ++ otherEndpoints)) :
    Swept condition manager groups otherGroups otherEndpoints
      (sweep condition groups manager) := by
  induction groups generalizing manager otherGroups otherEndpoints with
  | nil => exact ⟨rfl, holdsGroups, holdsEndpoints, rfl, rfl, rfl, rfl⟩
  | cons eg rest ih =>
    have live : manager.reads [eg.slot] (slots eg.endpoints) = manager := by
      refine reads_eq ?_ ?_
      · intro slot member
        rw [mem_singleton.mp member]
        exact holdsGroups.notMem_free mem_cons_self
      · intro slot member
        refine holdsEndpoints.notMem_free (mem_append_left _ ?_)
        exact mem_append_left _ member
    have parts : ((endpointSlots (eg :: rest)) ++ otherEndpoints).Perm
        (slots (eg.endpoints.filter fun ep => (condition ep.subscription).isNone) ++
          (endpointSlots rest ++ (slots (eg.endpoints.filterMap (keep condition)) ++
            otherEndpoints))) := by
      have whole := (slots_filterMap condition eg.endpoints).symm
      rw [endpointSlots, flatMap_cons, append_assoc]
      refine (whole.append_right _).trans ?_
      rw [append_assoc]
      refine List.Perm.append_left _ ?_
      rw [← append_assoc, ← append_assoc]
      exact perm_append_comm.append_right _
    have released := Pool.Holds.releaseAll (holdsEndpoints.perm parts)
    have capacity := Pool.capacity_releaseAll manager.endpointPool
      (slots (eg.endpoints.filter fun ep => (condition ep.subscription).isNone))
    rw [sweep, live]
    dsimp only
    by_cases none : (eg.endpoints.filterMap (keep condition)).isEmpty = true
    · have gone : sweepGroup condition eg = .none := by rw [sweepGroup, if_pos none]
      rw [if_pos none]
      rw [List.isEmpty_iff] at none
      rw [none] at released
      have swept := ih ((manager.releaseEndpoints
        (eg.endpoints.filter fun ep => (condition ep.subscription).isNone)).releaseGroup eg)
        _ _ (Pool.Holds.release holdsGroups) released
      exact ⟨swept.groups_eq.trans (filterMap_cons_none gone).symm, swept.groupPool,
        swept.endpointPool, swept.strayReads, swept.maxGroups, swept.groupCapacity,
        swept.endpointCapacity.trans capacity⟩
    · have stays : sweepGroup condition eg =
          some { eg with endpoints := eg.endpoints.filterMap (keep condition) } := by
        rw [sweepGroup, if_neg none]
      rw [if_neg none]
      have swept := ih (manager.releaseEndpoints
        (eg.endpoints.filter fun ep => (condition ep.subscription).isNone))
        _ _ (holdsGroups.perm perm_middle.symm) released
      refine ⟨?_, ?_, ?_, swept.strayReads, swept.maxGroups, swept.groupCapacity,
        swept.endpointCapacity.trans capacity⟩
      · rw [filterMap_cons_some stays, ← swept.groups_eq]
      · exact swept.groupPool.perm perm_middle
      · refine swept.endpointPool.perm ?_
        rw [endpointSlots, endpointSlots, flatMap_cons, ← append_assoc]
        exact perm_append_comm.append_right _

/-- A condition leaves the endpoint of a subscription as it is. -/
def KeepsEndpoint (condition : Subscription ip6 → Option (Subscription ip6)) : Prop :=
  ∀ subscription left, condition subscription = some left →
    left.address = subscription.address ∧ left.port = subscription.port

theorem key_sweepGroup {left : SubscribedEventGroup ip6}
    (kept : sweepGroup condition eg = some left) :
    left.key = eg.key ∧ left.subscriptions = eg.subscriptions.filterMap condition ∧
      left.endpoints ≠ [] := by
  rw [sweepGroup] at kept
  split at kept
  · cases kept
  · rename_i some
    cases kept
    exact ⟨rfl, subscriptions_filterMap _, fun none => some (List.isEmpty_iff.mpr none)⟩

theorem lookup_filterMap (groups : List (SubscribedEventGroup ip6)) (sorted : SortedGroups groups)
    (key : EventGroupKey) :
    lookup (groups.filterMap (sweepGroup condition)) key =
      (lookup groups key).filterMap condition := by
  induction groups with
  | nil => rfl
  | cons eg rest ih =>
    have first : SortedGroups ([] ++ eg :: rest) := sorted
    obtain ⟨-, absent⟩ := first.absent
    have rest' := ih (List.Pairwise.of_cons sorted)
    cases kept : sweepGroup condition eg with
    | none =>
      rw [filterMap_cons_none kept, rest', lookup_cons]
      split
      · rename_i same
        subst same
        rw [lookup_of_absent absent]
        rw [sweepGroup] at kept
        split at kept
        · rename_i empty
          rw [SubscribedEventGroup.subscriptions, ← subscriptions_filterMap,
            List.isEmpty_iff.mp empty]
          rfl
        · cases kept
      · rfl
    | some left =>
      obtain ⟨sameKey, subscriptions, -⟩ := key_sweepGroup kept
      rw [filterMap_cons_some kept, lookup_cons, lookup_cons, rest', sameKey,
        subscriptions]
      split
      · rfl
      · rfl

/-- A pass over all groups, in which no free object is read. -/
theorem sweepAll_spec (consistent : Consistent manager) (keeps : KeepsEndpoint condition) :
    Consistent (manager.sweepAll condition) ∧
      (∀ key, lookup (manager.sweepAll condition).eventgroups key =
        (lookup manager.eventgroups key).filterMap condition) ∧
      (manager.sweepAll condition).strayReads = manager.strayReads := by
  have swept := swept_sweep condition manager.eventgroups manager [] []
    (by rw [append_nil]; exact consistent.groupPool)
    (by rw [append_nil]; exact consistent.endpointPool)
  have origin : ∀ left ∈ (manager.sweepAll condition).eventgroups,
      ∃ eg ∈ manager.eventgroups, sweepGroup condition eg = some left := by
    intro left member
    change left ∈ (sweep condition manager.eventgroups manager).2 at member
    rw [swept.groups_eq] at member
    exact mem_filterMap.mp member
  refine ⟨⟨?_, ?_, ?_, ?_, ?_, ?_, ?_, ?_⟩, ?_, swept.strayReads⟩
  · change SortedGroups (sweep condition manager.eventgroups manager).2
    rw [swept.groups_eq, SortedGroups, FlatSet.Sorted, pairwise_filterMap]
    refine consistent.sorted.imp fun {first second} less left keptFirst right keptSecond => ?_
    rw [(key_sweepGroup keptFirst).1, (key_sweepGroup keptSecond).1]
    exact less
  · intro left member
    obtain ⟨eg, old, kept⟩ := origin left member
    rw [(key_sweepGroup kept).1]
    exact consistent.valid eg old
  · intro left member
    obtain ⟨eg, -, kept⟩ := origin left member
    exact (key_sweepGroup kept).2.2
  · intro left member
    obtain ⟨eg, old, kept⟩ := origin left member
    rw [(key_sweepGroup kept).2.1, pairwise_filterMap]
    refine (consistent.once eg old).imp fun {first second} apart one keptOne two keptTwo same => ?_
    obtain ⟨addressOne, portOne⟩ := keeps first one keptOne
    obtain ⟨addressTwo, portTwo⟩ := keeps second two keptTwo
    exact apart ⟨addressOne.symm.trans (same.1.trans addressTwo),
      portOne.symm.trans (same.2.trans portTwo)⟩
  · have holds := swept.groupPool
    rw [append_nil] at holds
    exact holds
  · have holds := swept.endpointPool
    rw [append_nil] at holds
    exact holds
  · exact swept.groupCapacity.trans (consistent.groupCapacity.trans swept.maxGroups.symm)
  · exact swept.endpointCapacity.trans (consistent.endpointCapacity.trans swept.maxGroups.symm)
  · intro key
    change lookup (sweep condition manager.eventgroups manager).2 key = _
    rw [swept.groups_eq]
    exact lookup_filterMap _ consistent.sorted key

theorem keepsEndpoint_removeIp (address : IPAddress ip6) :
    KeepsEndpoint (RemoveIpCondition address) := by
  intro subscription left kept
  rw [RemoveIpCondition] at kept
  split at kept
  · cases kept
  · cases kept
    exact ⟨rfl, rfl⟩

theorem keepsEndpoint_removeExpiredTtl (ticks : Nat) :
    KeepsEndpoint (RemoveExpiredTtlCondition ticks :
      Subscription ip6 → Option (Subscription ip6)) := by
  intro subscription left kept
  rw [RemoveExpiredTtlCondition] at kept
  split at kept
  · cases kept
    exact ⟨rfl, rfl⟩
  · cases kept

end Sweep

end SubscriptionManager

end OpenBsw.Someip
