import OpenBsw.Someip.Sd.SubscriptionAddition
import OpenBsw.Someip.Sd.SubscriptionPasses
import OpenBsw.Transition.System

/-!
# The manager refines a map of subscriptions

A map from event groups to subscriptions says what the manager is for.  Both take the
same steps, and an addition that the manager refuses leaves the map as it is.  The manager
then returns what the map holds and its pools hold one object for each of them.  Nothing
that is free is read as long as no group is released that has to be looked for, and the
times to live agree as long as none of them comes to zero exactly.
-/

namespace OpenBsw.Someip

open OpenBsw

variable {ip6 : Bool}

/-! ## The map -/

abbrev SubscriptionTable (ip6 : Bool) := EventGroupKey → List (Subscription ip6)

inductive SubscriptionEvent (ip6 : Bool)
  | add (key : EventGroupKey) (ttl : Nat) (address : IPAddress ip6) (port : UInt16)
  | remove (key : EventGroupKey) (address : IPAddress ip6) (port : UInt16)
  | removeGroup (key : EventGroupKey)
  | removeAddress (address : IPAddress ip6)
  | elapse (seconds : Nat)
  | stop
  deriving DecidableEq, Repr

namespace SubscriptionTable

def empty : SubscriptionTable ip6 :=
  fun _ => []

def add (table : SubscriptionTable ip6) (key : EventGroupKey) (ttl : Nat)
    (address : IPAddress ip6) (port : UInt16) : SubscriptionTable ip6 :=
  Function.update table key (SubscriptionManager.subscribe address port ttl (table key))

def remove (table : SubscriptionTable ip6) (key : EventGroupKey) (address : IPAddress ip6)
    (port : UInt16) : SubscriptionTable ip6 :=
  Function.update table key (SubscriptionManager.without address port (table key))

def removeGroup (table : SubscriptionTable ip6) (key : EventGroupKey) : SubscriptionTable ip6 :=
  Function.update table key []

def removeAddress (table : SubscriptionTable ip6) (address : IPAddress ip6) :
    SubscriptionTable ip6 :=
  fun key => (table key).filter fun subscription => subscription.address ≠ address

/-- Subscriptions whose time to live has run out are gone. -/
def elapse (table : SubscriptionTable ip6) (seconds : Nat) : SubscriptionTable ip6 :=
  fun key => (table key).filterMap fun subscription =>
    if seconds < subscription.ttl then
      some { subscription with ttl := subscription.ttl - seconds }
    else none

end SubscriptionTable

/-! ## Runs of both -/

structure SubscriptionRun (ip6 : Bool) where
  manager : SubscriptionManager ip6
  table : SubscriptionTable ip6

namespace SubscriptionRun

def start (ip6 : Bool) (numSubscriptions : Nat) : SubscriptionRun ip6 where
  manager := .create ip6 numSubscriptions
  table := .empty

def perform (run : SubscriptionRun ip6) : SubscriptionEvent ip6 → Option (SubscriptionRun ip6)
  | .add key ttl address port =>
    (run.manager.addSubscription key ttl address port).map fun added =>
      { manager := added.1
        table :=
          if added.2 = .INTERNAL_SUBSCRIBE_ERROR then run.table
          else run.table.add key ttl address port }
  | .remove key address port =>
    some
      { manager := run.manager.removeSubscription key address port
        table := run.table.remove key address port }
  | .removeGroup key =>
    some
      { manager := run.manager.removeSubscriptionsOf key
        table := run.table.removeGroup key }
  | .removeAddress address =>
    some
      { manager := run.manager.removeSubscriptionsFrom address
        table := run.table.removeAddress address }
  | .elapse seconds =>
    some
      { manager := run.manager.updateTTLs seconds
        table := run.table.elapse seconds }
  | .stop => some { manager := run.manager.stop, table := .empty }

/-- No group is released that is then looked for, and no time to live comes to zero: an
endpoint is added to a group that is there or with room for it, an endpoint is not removed as
the last one of its group, and a group is neither removed nor cleared. -/
def Condition (run : SubscriptionRun ip6) : SubscriptionEvent ip6 → Prop
  | .add key _ _ _ =>
    key.isValid = false ∨ run.table key ≠ [] ∨ run.manager.endpointPool.isFull = false ∨
      run.manager.eventgroups.length = run.manager.maxGroups
  | .remove key address port =>
    run.table key = [] ∨ SubscriptionManager.without address port (run.table key) ≠ []
  | .removeGroup key => run.table key = []
  | .removeAddress _ => True
  | .elapse seconds => ∀ key, ∀ subscription ∈ run.table key, subscription.ttl ≠ seconds
  | .stop => ∀ key, run.table key = []

/-- The manager is exactly the map. -/
structure Exact (run : SubscriptionRun ip6) : Prop where
  getSubscriptions : ∀ key,
    ((run.manager.getSubscriptions key).getD []).map SubscriptionEndpoint.subscription =
      run.table key
  once : ∀ key, (run.table key).Pairwise fun first second =>
    ¬ (first.address = second.address ∧ first.port = second.port)
  sorted : run.manager.eventgroups.Pairwise fun first second =>
    first.key.lessThan second.key = true
  groups : ∀ key, (∃ eg ∈ run.manager.eventgroups, eg.key = key) ↔ run.table key ≠ []
  groupPool : run.manager.groupPool.Holds
    (run.manager.eventgroups.map SubscribedEventGroup.slot)
  endpointPool : run.manager.endpointPool.Holds
    (run.manager.eventgroups.flatMap fun eg => eg.endpoints.map SubscriptionEndpoint.slot)
  strayReads : run.manager.strayReads = []

/-! ## The simulation -/

/-- The invariant of a run. -/
structure Simulates (run : SubscriptionRun ip6) : Prop where
  consistent : run.manager.Consistent
  table : ∀ key, lookup run.manager.eventgroups key = run.table key
  strayReads : run.manager.strayReads = []

open SubscriptionManager

variable {run : SubscriptionRun ip6}

theorem Simulates.exact (simulates : Simulates run) : Exact run where
  getSubscriptions key :=
    (simulates.consistent.getSubscriptions_eq key).trans (simulates.table key)
  once key := by
    rw [← simulates.table key]
    rcases findGroup_cases simulates.consistent.sorted key with
      ⟨front, eg, back, split, rfl, -⟩ | ⟨absent, -⟩
    · rw [simulates.consistent.lookup_split split]
      exact simulates.consistent.once eg (split ▸ List.mem_append_right _ List.mem_cons_self)
    · rw [lookup_of_absent absent]
      exact List.Pairwise.nil
  sorted := simulates.consistent.sorted.imp fun less => EventGroupKey.lessThan_iff.mpr less
  groups key := by
    rw [← simulates.table key]
    constructor
    · rintro ⟨eg, member, rfl⟩ none
      obtain ⟨front, back, split⟩ := List.append_of_mem member
      rw [simulates.consistent.lookup_split split] at none
      exact simulates.consistent.nonempty eg member (List.map_eq_nil_iff.mp none)
    · intro some
      by_contra absent
      push Not at absent
      exact some (lookup_of_absent absent)
  groupPool := simulates.consistent.groupPool
  endpointPool := simulates.consistent.endpointPool
  strayReads := simulates.strayReads

theorem simulates_start (ip6 : Bool) (numSubscriptions : Nat) :
    Simulates (start ip6 numSubscriptions) where
  consistent := consistent_create ip6 numSubscriptions
  table _ := rfl
  strayReads := rfl

/-- A step on one key agrees with the update of the map. -/
theorem Simulates.replaced (simulates : Simulates run) {next : SubscriptionManager ip6}
    {key : EventGroupKey} {subscriptions : List (Subscription ip6)}
    (replaces : Replaces run.manager next key subscriptions) (other : EventGroupKey) :
    lookup next.eventgroups other = Function.update run.table key subscriptions other := by
  rw [replaces.lookup_eq, Function.update_apply, simulates.table other]

/-- The pass over an address filters every list. -/
theorem filterMap_removeIp (address : IPAddress ip6) (subscriptions : List (Subscription ip6)) :
    subscriptions.filterMap (RemoveIpCondition address) =
      subscriptions.filter fun subscription => subscription.address ≠ address := by
  rw [← List.filterMap_eq_filter]
  congr 1
  funext subscription
  by_cases same : subscription.address = address
  · simp only [RemoveIpCondition, same, if_true, Option.guard, ne_eq, not_true_eq_false,
      decide_false, Bool.false_eq_true, if_false]
  · simp only [RemoveIpCondition, same, if_false, Option.guard, ne_eq, not_false_eq_true,
      decide_true, if_true]

/-- Where no time to live comes to zero exactly, both passes leave the same. -/
theorem filterMap_removeExpiredTtl {seconds : Nat} {subscriptions : List (Subscription ip6)}
    (never : ∀ subscription ∈ subscriptions, subscription.ttl ≠ seconds) :
    subscriptions.filterMap (RemoveExpiredTtlCondition seconds) =
      subscriptions.filterMap fun subscription =>
        if seconds < subscription.ttl then
          some { subscription with ttl := subscription.ttl - seconds }
        else none := by
  refine List.filterMap_congr fun subscription member => ?_
  have different := never subscription member
  rw [RemoveExpiredTtlCondition]
  by_cases left : seconds < subscription.ttl
  · rw [if_pos left, if_pos (Nat.le_of_lt left)]
  · rw [if_neg left, if_neg (by omega)]

theorem perform_simulates {event : SubscriptionEvent ip6} (simulates : Simulates run)
    (condition : Condition run event) :
    ∃ next, run.perform event = some next ∧ Simulates next := by
  cases event with
  | add key ttl address port =>
    obtain ⟨next, result, added, replaces, reads, -, -⟩ :=
      addSubscription_spec simulates.consistent key ttl address port
    rw [simulates.table key] at replaces reads
    rw [perform, added, Option.map_some]
    refine ⟨_, rfl, replaces.consistent, fun other => ?_,
      (reads condition).trans simulates.strayReads⟩
    have agrees := simulates.replaced replaces other
    dsimp only
    by_cases error : result = .INTERNAL_SUBSCRIBE_ERROR
    · rw [if_pos error] at agrees ⊢
      rw [agrees, Function.update_eq_self]
    · rw [if_neg error] at agrees ⊢
      exact agrees
  | remove key address port =>
    obtain ⟨replaces, reads⟩ :=
      removeSubscription_spec simulates.consistent key address port
    rw [simulates.table key] at replaces reads
    exact ⟨_, rfl, replaces.consistent, simulates.replaced replaces,
      (reads condition).trans simulates.strayReads⟩
  | removeGroup key =>
    obtain ⟨replaces, reads⟩ := removeSubscriptionsOf_spec simulates.consistent key
    rw [simulates.table key] at reads
    exact ⟨_, rfl, replaces.consistent, simulates.replaced replaces,
      (reads condition).trans simulates.strayReads⟩
  | removeAddress address =>
    obtain ⟨consistent, lookups, reads⟩ :=
      sweepAll_spec simulates.consistent (keepsEndpoint_removeIp address)
    refine ⟨_, rfl, consistent, fun key => ?_, reads.trans simulates.strayReads⟩
    exact (lookups key).trans ((filterMap_removeIp address _).trans
      (congrArg _ (simulates.table key)))
  | elapse seconds =>
    obtain ⟨consistent, lookups, reads⟩ :=
      sweepAll_spec simulates.consistent (keepsEndpoint_removeExpiredTtl seconds)
    refine ⟨_, rfl, consistent, fun key => ?_, reads.trans simulates.strayReads⟩
    exact (lookups key).trans ((congrArg _ (simulates.table key)).trans
      (filterMap_removeExpiredTtl (condition key)))
  | stop =>
    obtain ⟨consistent, none, reads⟩ := clear_spec simulates.consistent
    have already : run.manager.eventgroups = [] := by
      refine List.eq_nil_iff_forall_not_mem.mpr fun eg member => ?_
      have some := (simulates.exact.groups eg.key).mp ⟨eg, member, rfl⟩
      exact some (condition eg.key)
    refine ⟨_, rfl, consistent, fun key => ?_, (reads already).trans simulates.strayReads⟩
    change lookup run.manager.clear.eventgroups key = []
    rw [none]
    rfl

/-- In every run that meets the condition the manager is exactly the map. -/
theorem subscriptions_exact (ip6 : Bool) (numSubscriptions : Nat)
    (events : List (SubscriptionEvent ip6))
    (guarded : Transition.System.Guarded perform Condition (start ip6 numSubscriptions) events) :
    ∃ final, Transition.System.play perform (start ip6 numSubscriptions) events = some final ∧
      Exact final := by
  obtain ⟨final, played, simulates⟩ := Transition.System.play_of_guarded Simulates
    perform_simulates (simulates_start ip6 numSubscriptions) guarded
  exact ⟨final, played, simulates.exact⟩

def sampleKey : EventGroupKey :=
  ⟨1, 2, 3, 4⟩

def sampleAddress : IPAddress false :=
  .make_ip4 false [10, 0, 0, 1]

theorem subscriptions_exact_sample :
    ∃ final, Transition.System.play perform (start false 2)
        [.add sampleKey 5 sampleAddress 7, .elapse 3, .removeAddress sampleAddress] =
          some final ∧ Exact final := by
  refine subscriptions_exact false 2 _ ⟨?_, ?_⟩
  · exact .inr (.inr (.inl (by decide)))
  · rintro next performed
    cases performed
    refine ⟨?_, fun _ _ => ⟨trivial, fun _ _ => trivial⟩⟩
    intro key subscription member
    by_cases same : key = sampleKey
    · subst same
      have only : subscription ∈ [(⟨sampleAddress, 7, 5⟩ : Subscription false)] := member
      rw [List.mem_singleton.mp only]
      decide
    · have none : subscription ∈ ([] : List (Subscription false)) := by
        have other : Function.update (SubscriptionTable.empty : SubscriptionTable false) sampleKey
            (subscribe sampleAddress 7 5 []) key = [] := Function.update_of_ne same _ _
        exact other ▸ member
      exact absurd none List.not_mem_nil

/-- The last endpoint of a group is removed: the group is read after it was released. -/
theorem not_subscriptions_exact :
    ¬ ∀ (ip6 : Bool) (numSubscriptions : Nat) (events : List (SubscriptionEvent ip6)),
      ∃ final, Transition.System.play perform (start ip6 numSubscriptions) events = some final ∧
        Exact final := by
  intro always
  obtain ⟨final, played, exact⟩ := always false 1
    [.add sampleKey 5 sampleAddress 7, .remove sampleKey sampleAddress 7]
  have stray : (Transition.System.play perform (start false 1)
      [.add sampleKey 5 sampleAddress 7, .remove sampleKey sampleAddress 7]).map
        (fun run => run.manager.strayReads) = some [.group 0, .group 0] := by
    decide
  rw [played, Option.map_some, Option.some.injEq, exact.strayReads] at stray
  exact absurd stray (by decide)

end SubscriptionRun

end OpenBsw.Someip
