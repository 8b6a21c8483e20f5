import OpenBsw.Someip.Sd.SdServiceRegistry
import OpenBsw.Someip.Sd.SubscriptionAddition
import OpenBsw.Someip.Sd.SubscriptionPasses
import OpenBsw.Transition.System

/-!
# What providers of event groups are told

The last value that a handler was told is whether its event group has a subscription, as
long as no subscription goes without the handler being told: the first one whose initial
events cannot be notified, and the last ones that expire or belong to a peer that has
rebooted.
-/

namespace OpenBsw.Someip

open SubscriptionManager

variable {ip6 : Bool}

namespace SdServiceRegistry

variable {registry : SdServiceRegistry ip6} {key other : EventGroupKey}

/-- The last value a handler was told, and false where it was told none. -/
def lastTold (registry : SdServiceRegistry ip6) (key : EventGroupKey) : Bool :=
  ((registry.told.find? fun told => told.eventGroup = key).map StateChanged.isSubscribed).getD false

def subscriptions (registry : SdServiceRegistry ip6) (key : EventGroupKey) :
    List (Subscription ip6) :=
  ((registry.subscriptionManager.getSubscriptions key).getD []).map
    SubscriptionEndpoint.subscription

/-- An event group is registered with a handler. -/
def IsProvided (registry : SdServiceRegistry ip6) (key : EventGroupKey) : Prop :=
  ∃ service, ServiceManager.getEventGroup registry.services key = some service ∧
    service.hasHandler = true

/-- Every handler was told the truth last. -/
def Truthful (registry : SdServiceRegistry ip6) : Prop :=
  ∀ key, registry.IsProvided key →
    (registry.lastTold key = true ↔ registry.subscriptions key ≠ [])

/-- Some subscription of an event group that has one is left. -/
def LeavesOne (registry : SdServiceRegistry ip6) (stays : Subscription ip6 → Prop) : Prop :=
  ∀ key, registry.IsProvided key → registry.subscriptions key ≠ [] →
    ∃ subscription ∈ registry.subscriptions key, stays subscription

/-- No event group loses all its subscriptions unnoticed: initial events can be notified
where the subscription would be the first one, and neither the time nor a reboot ends all
subscriptions of an event group at once. -/
def Condition (registry : SdServiceRegistry ip6) : Event ip6 → Prop
  | .subscribeReceived key ttl _ _ proto notified =>
    registry.IsProvided key → ttl ≠ 0 → (proto = SD_L4_PROTO_UDP ∨ proto = SD_L4_PROTO_TCP) →
      registry.subscriptions key ≠ [] ∨
        registry.subscriptionManager.endpointPool.isFull = true ∨ notified = true
  | .rebootDetected address => registry.LeavesOne fun subscription => subscription.address ≠ address
  | .cyclic => registry.LeavesOne fun subscription => cycleSeconds ≤ subscription.ttl

/-! ## What is told -/

theorem lastTold_told (registry : SdServiceRegistry ip6) (key other : EventGroupKey)
    (isSubscribed : Bool) :
    (registry.onEventGroupSubscriptionStateChanged key isSubscribed).lastTold other =
      if other = key then isSubscribed else registry.lastTold other := by
  by_cases same : key = other
  · rw [if_pos same.symm]
    simp only [lastTold, onEventGroupSubscriptionStateChanged, List.find?_cons, same, decide_true,
      Option.map_some, Option.getD_some]
  · rw [if_neg (Ne.symm same)]
    simp only [lastTold, onEventGroupSubscriptionStateChanged, List.find?_cons, same, decide_false]

/-- What both ways of telling leave unchanged. -/
structure Tells (source target : SdServiceRegistry ip6) : Prop where
  services : target.services = source.services
  manager : target.subscriptionManager = source.subscriptionManager

/-- The handler of a first subscription is told so. -/
theorem tellFirst_spec (registry : SdServiceRegistry ip6) (key : EventGroupKey) :
    Tells registry (registry.tellFirst key) ∧
      ∀ other, (registry.tellFirst key).lastTold other =
        if other = key ∧ (registry.subscriptions key).length = 1 then true
        else registry.lastTold other := by
  rw [tellFirst]
  split
  · rename_i ep found
    have one : (registry.subscriptions key).length = 1 := by
      rw [subscriptions, found]
      rfl
    refine ⟨⟨rfl, rfl⟩, fun other => ?_⟩
    rw [lastTold_told]
    simp only [one, and_true]
  · rename_i others
    refine ⟨⟨rfl, rfl⟩, fun other => ?_⟩
    have different : ¬ (registry.subscriptions key).length = 1 := by
      rw [subscriptions, List.length_map]
      intro one
      cases found : registry.subscriptionManager.getSubscriptions key with
      | none =>
        rw [found] at one
        cases one
      | some endpoints =>
        rw [found, Option.getD_some] at one
        obtain ⟨ep, rfl⟩ := List.length_eq_one_iff.mp one
        exact others ep found
    rw [if_neg fun both => different both.2]

/-- The handler without subscriptions is told so. -/
theorem tellLast_spec (registry : SdServiceRegistry ip6) (key : EventGroupKey) :
    Tells registry (registry.tellLast key) ∧
      ∀ other, (registry.tellLast key).lastTold other =
        if other = key ∧ registry.subscriptions key = [] then false
        else registry.lastTold other := by
  rw [tellLast]
  split
  · rename_i found
    have none : registry.subscriptions key = [] := by
      rw [subscriptions, found]
      rfl
    refine ⟨⟨rfl, rfl⟩, fun other => ?_⟩
    rw [lastTold_told]
    simp only [none, and_true]
  · rename_i found
    have none : registry.subscriptions key = [] := by
      rw [subscriptions, found]
      rfl
    refine ⟨⟨rfl, rfl⟩, fun other => ?_⟩
    rw [lastTold_told]
    simp only [none, and_true]
  · rename_i noList noneLeft
    refine ⟨⟨rfl, rfl⟩, fun other => ?_⟩
    have some : registry.subscriptions key ≠ [] := by
      rw [subscriptions, ne_eq, List.map_eq_nil_iff]
      cases found : registry.subscriptionManager.getSubscriptions key with
      | none => exact absurd found noList
      | some endpoints =>
        rintro rfl
        exact noneLeft found
    rw [if_neg fun both => some both.2]

/-! ## Steps -/

/-- The invariant of a run. -/
structure Sound (registry : SdServiceRegistry ip6) : Prop where
  consistent : registry.subscriptionManager.Consistent
  truthful : registry.Truthful

theorem subscriptions_eq (consistent : registry.subscriptionManager.Consistent)
    (key : EventGroupKey) :
    registry.subscriptions key = lookup registry.subscriptionManager.eventgroups key :=
  consistent.getSubscriptions_eq key

/-- A step that changes the subscriptions of one event group only, and tells its handler what
it has then. -/
theorem Sound.of_one (sound : Sound registry) (key : EventGroupKey)
    {next : SdServiceRegistry ip6}
    (services : next.services = registry.services)
    (consistent : next.subscriptionManager.Consistent)
    (others : ∀ other, other ≠ key → next.lastTold other = registry.lastTold other ∧
      next.subscriptions other = registry.subscriptions other)
    (told : registry.IsProvided key →
      (next.lastTold key = true ↔ next.subscriptions key ≠ [])) : Sound next where
  consistent := consistent
  truthful other provided := by
    have before : registry.IsProvided other := by
      rw [IsProvided, ← services]
      exact provided
    by_cases same : other = key
    · subst same
      exact told before
    · obtain ⟨toldSame, subscriptionsSame⟩ := others other same
      rw [toldSame, subscriptionsSame]
      exact sound.truthful other before

/-- The subscriptions after a step of the manager on one key. -/
theorem subscriptions_replaced {manager : SubscriptionManager ip6}
    (consistent : registry.subscriptionManager.Consistent)
    {subscriptionsOfKey : List (Subscription ip6)}
    (replaces : Replaces registry.subscriptionManager manager key subscriptionsOfKey)
    (next : SdServiceRegistry ip6) (same : next.subscriptionManager = manager)
    (other : EventGroupKey) :
    next.subscriptions other =
      if other = key then subscriptionsOfKey else registry.subscriptions other := by
  rw [subscriptions_eq (same ▸ replaces.consistent), same, replaces.lookup_eq,
    subscriptions_eq consistent]

theorem unsubscribe_sound (sound : Sound registry) {service : ProvidedService}
    (found : ServiceManager.getEventGroup registry.services key = some service)
    (address : IPAddress ip6) (port : UInt16) :
    Sound (registry.unsubscribe service key address port).1 := by
  obtain ⟨replaces, -⟩ := removeSubscription_spec sound.consistent key address port
  rw [← subscriptions_eq sound.consistent] at replaces
  rw [unsubscribe]
  dsimp only
  generalize removed : registry.subscriptionManager.removeSubscription key address port = manager
    at replaces ⊢
  have after := subscriptions_replaced sound.consistent replaces
  have left := after { registry with subscriptionManager := manager } rfl
  obtain ⟨tells, lastTold⟩ := tellLast_spec
    { registry with subscriptionManager := manager } key
  split
  · refine sound.of_one key tells.services (tells.manager ▸ replaces.consistent) ?_ ?_
    · intro other different
      refine ⟨?_, ?_⟩
      · rw [lastTold, if_neg fun both => different both.1]
        rfl
      · rw [after _ tells.manager, if_neg different]
    · intro provided
      rw [lastTold, after _ tells.manager, if_pos rfl, left, if_pos rfl]
      by_cases none : without address port (registry.subscriptions key) = []
      · rw [if_pos ⟨rfl, none⟩]
        exact ⟨fun told => (Bool.false_ne_true told).elim, fun some => absurd none some⟩
      · rw [if_neg fun both => none both.2]
        refine ⟨fun _ => none, fun _ => (sound.truthful key provided).mpr fun before => none ?_⟩
        rw [before]
        rfl
  · rename_i noHandler
    refine sound.of_one key rfl replaces.consistent ?_ ?_
    · intro other different
      exact ⟨rfl, by rw [left, if_neg different]⟩
    · rintro ⟨other, foundOther, hasHandler⟩
      rw [found] at foundOther
      cases foundOther
      exact absurd hasHandler noHandler

theorem subscribed_sound (sound : Sound registry) {manager : SubscriptionManager ip6}
    {service : ProvidedService}
    (found : ServiceManager.getEventGroup registry.services key = some service)
    {address : IPAddress ip6} {port : UInt16} {ttl : Nat} {notified : Bool}
    (replaces : Replaces registry.subscriptionManager manager key
      (⟨address, port, ttl⟩ :: registry.subscriptions key))
    (new : (registry.subscriptions key).any (·.isOf address port) = false)
    (others : registry.IsProvided key → registry.subscriptions key ≠ [] ∨ notified = true) :
    Sound ({ registry with subscriptionManager := manager }.subscribed service key address port
      notified).1 := by
  have after := subscriptions_replaced sound.consistent replaces
  have left := after { registry with subscriptionManager := manager } rfl
  rw [subscribed]
  split
  · rename_i noHandler
    refine sound.of_one key rfl replaces.consistent ?_ ?_
    · intro other different
      exact ⟨rfl, by rw [left, if_neg different]⟩
    · rintro ⟨other, foundOther, hasHandler⟩
      rw [found] at foundOther
      cases foundOther
      rw [hasHandler] at noHandler
      exact absurd noHandler (by decide)
  · rename_i handler
    rw [Bool.not_eq_true', Bool.not_eq_false] at handler
    have provided : registry.IsProvided key := ⟨service, found, handler⟩
    obtain ⟨tells, lastTold⟩ := tellFirst_spec { registry with subscriptionManager := manager } key
    rw [left, if_pos rfl, List.length_cons] at lastTold
    generalize ({ registry with subscriptionManager := manager } :
      SdServiceRegistry ip6).tellFirst key = telling at tells lastTold
    have toldOthers : ∀ other, other ≠ key → telling.lastTold other = registry.lastTold other := by
      intro other different
      rw [lastTold, if_neg fun both => different both.1]
      rfl
    have toldKey : (telling.lastTold key = true ↔ True) := by
      rw [lastTold, iff_true]
      by_cases first : registry.subscriptions key = []
      · rw [if_pos ⟨rfl, by rw [first]; rfl⟩]
      · have some := List.length_pos_of_ne_nil first
        rw [if_neg fun both => by omega]
        exact (sound.truthful key provided).mpr first
    dsimp only
    split
    · rename_i failed
      rw [Bool.not_eq_true'] at failed
      have some : registry.subscriptions key ≠ [] := by
        rcases others provided with some | notifiedNow
        · exact some
        · exact absurd (failed.symm.trans notifiedNow) (by decide)
      have kept : without address port (⟨address, port, ttl⟩ :: registry.subscriptions key) =
          registry.subscriptions key := by
        rw [without, List.filter_cons_of_neg (by simp [Subscription.isOf])]
        exact without_eq_self fun subscription member =>
          List.any_eq_false.mp new subscription member
      obtain ⟨removed, -⟩ := removeSubscription_spec replaces.consistent key address port
      rw [replaces.lookup_eq, if_pos rfl, kept] at removed
      have final : ∀ other, ({ telling with
          subscriptionManager := telling.subscriptionManager.removeSubscription key address port } :
            SdServiceRegistry ip6).subscriptions other = registry.subscriptions other := by
        intro other
        rw [subscriptions_eq (by rw [tells.manager]; exact removed.consistent)]
        simp only [tells.manager]
        rw [removed.lookup_eq, replaces.lookup_eq, ← subscriptions_eq sound.consistent]
        by_cases same : other = key
        · rw [if_pos same, same]
        · rw [if_neg same, if_neg same]
      refine sound.of_one key tells.services ?_ ?_ ?_
      · simp only [tells.manager]
        exact removed.consistent
      · exact fun other different => ⟨toldOthers other different, final other⟩
      · intro _
        rw [final]
        exact ⟨fun _ => some, fun _ => toldKey.mpr trivial⟩
    · refine sound.of_one key tells.services (tells.manager ▸ replaces.consistent) ?_ ?_
      · intro other different
        exact ⟨toldOthers other different, by rw [after _ tells.manager, if_neg different]⟩
      · intro _
        rw [after _ tells.manager, if_pos rfl]
        exact ⟨fun _ => List.cons_ne_nil _ _, fun _ => toldKey.mpr trivial⟩

theorem subscribe_sound (sound : Sound registry) {service : ProvidedService}
    (found : ServiceManager.getEventGroup registry.services key = some service) {ttl : Nat}
    {address : IPAddress ip6} {port : UInt16} {notified : Bool}
    (condition : registry.IsProvided key → registry.subscriptions key ≠ [] ∨
      registry.subscriptionManager.endpointPool.isFull = true ∨ notified = true) :
    ∃ next, registry.subscribe service key ttl address port notified = some next ∧
      Sound next.1 := by
  obtain ⟨manager, result, added, replaces, -, error, already⟩ :=
    addSubscription_spec sound.consistent key ttl address port
  rw [← subscriptions_eq sound.consistent] at replaces error already
  have after := subscriptions_replaced sound.consistent replaces
    { registry with subscriptionManager := manager } rfl
  rw [subscribe, added]
  refine ⟨_, rfl, ?_⟩
  cases result with
  | INTERNAL_SUBSCRIBE_OK =>
    have new : (registry.subscriptions key).any (·.isOf address port) = false := by
      rw [Bool.eq_false_iff]
      exact fun any => absurd (already.mpr any) (by decide)
    have room : registry.subscriptionManager.endpointPool.isFull ≠ true :=
      fun full => absurd (error.mpr (.inr ⟨new, full⟩)) (by decide)
    rw [if_neg (by decide), SubscriptionManager.subscribe, new, if_neg Bool.false_ne_true]
      at replaces
    refine subscribed_sound sound found replaces new fun provided => ?_
    rcases condition provided with some | full | now
    · exact .inl some
    · exact absurd full room
    · exact .inr now
  | INTERNAL_ALREADY_SUBSCRIBED =>
    have any := already.mp rfl
    refine sound.of_one key rfl replaces.consistent ?_ ?_
    · exact fun other different => ⟨rfl, by rw [after, if_neg different]⟩
    · intro provided
      have some : registry.subscriptions key ≠ [] := by
        intro none
        rw [none] at any
        exact Bool.false_ne_true any
      have left : SubscriptionManager.subscribe address port ttl (registry.subscriptions key) ≠
          [] := by
        rw [SubscriptionManager.subscribe, if_pos any]
        exact fun none => some (List.map_eq_nil_iff.mp none)
      have error : ¬ InternalSubscribeResult.INTERNAL_ALREADY_SUBSCRIBED =
          .INTERNAL_SUBSCRIBE_ERROR := by decide
      rw [after, if_pos rfl, if_neg error]
      exact ⟨fun _ => left, fun _ => (sound.truthful key provided).mpr some⟩
  | INTERNAL_SUBSCRIBE_ERROR =>
    refine sound.of_one key rfl replaces.consistent ?_ ?_
    · exact fun other different => ⟨rfl, by rw [after, if_neg different]⟩
    · intro provided
      rw [after, if_pos rfl, if_pos rfl]
      exact sound.truthful key provided

/-- A pass that leaves every event group with a subscription at least one. -/
theorem sweepAll_sound (sound : Sound registry)
    {condition : Subscription ip6 → Option (Subscription ip6)} (keeps : KeepsEndpoint condition)
    {stays : Subscription ip6 → Prop}
    (stays_some : ∀ subscription, stays subscription → condition subscription ≠ none)
    (leaves : registry.LeavesOne stays) :
    Sound { registry with
      subscriptionManager := registry.subscriptionManager.sweepAll condition } := by
  obtain ⟨consistent, lookups, -⟩ := sweepAll_spec sound.consistent keeps
  refine ⟨consistent, fun key provided => ?_⟩
  have before : registry.IsProvided key := provided
  have truth := sound.truthful key before
  refine Iff.trans truth ?_
  have after : ({ registry with
      subscriptionManager := registry.subscriptionManager.sweepAll condition } :
        SdServiceRegistry ip6).subscriptions key =
          (registry.subscriptions key).filterMap condition :=
    (consistent.getSubscriptions_eq key).trans ((lookups key).trans
      (congrArg _ (subscriptions_eq sound.consistent key).symm))
  rw [after]
  constructor
  · intro some none
    obtain ⟨subscription, member, stay⟩ := leaves key before some
    exact stays_some subscription stay (List.filterMap_eq_nil_iff.mp none subscription member)
  · intro some none
    rw [none] at some
    exact some rfl

theorem perform_sound {event : Event ip6} (sound : Sound registry)
    (condition : Condition registry event) :
    ∃ next, registry.perform event = some next ∧ Sound next := by
  cases event with
  | subscribeReceived key ttl address port proto notified =>
    rw [perform, subscribeReceived]
    split
    · exact ⟨registry, rfl, sound⟩
    · rename_i known
      have proto' : proto = SD_L4_PROTO_UDP ∨ proto = SD_L4_PROTO_TCP := by
        by_contra neither
        push Not at neither
        exact known neither
      split
      · exact ⟨registry, rfl, sound⟩
      · rename_i service found
        split
        · rename_i some
          obtain ⟨next, subscribed, soundNext⟩ := subscribe_sound sound found
            fun provided => condition provided some proto'
          exact ⟨next.1, by rw [subscribed]; rfl, soundNext⟩
        · exact ⟨_, rfl, unsubscribe_sound sound found address port⟩
  | rebootDetected address =>
    refine ⟨_, rfl, sweepAll_sound sound (keepsEndpoint_removeIp address) ?_ condition⟩
    intro subscription different none
    rw [RemoveIpCondition, if_neg different] at none
    cases none
  | cyclic =>
    refine ⟨_, rfl, sweepAll_sound sound (keepsEndpoint_removeExpiredTtl cycleSeconds) ?_
      condition⟩
    intro subscription long none
    rw [RemoveExpiredTtlCondition, if_pos long] at none
    cases none

/-- A registry with services before any subscription. -/
def start (ip6 : Bool) (services : List ProvidedService) (numSubscriptions : Nat) :
    SdServiceRegistry ip6 where
  services := services
  subscriptionManager := .create ip6 numSubscriptions

/-- In every run that meets the condition the handlers know whether they have subscribers. -/
theorem providers_told (ip6 : Bool) (services : List ProvidedService) (numSubscriptions : Nat)
    (events : List (Event ip6))
    (guarded : Transition.System.Guarded perform Condition
      (start ip6 services numSubscriptions) events) :
    ∃ final, Transition.System.play perform (start ip6 services numSubscriptions) events =
        some final ∧ Truthful final := by
  have sound : Sound (start ip6 services numSubscriptions) := by
    refine ⟨consistent_create ip6 numSubscriptions, fun key _ => ?_⟩
    rw [subscriptions_eq (consistent_create ip6 numSubscriptions)]
    exact ⟨fun told => (Bool.false_ne_true told).elim, fun some => absurd rfl some⟩
  obtain ⟨final, played, soundFinal⟩ :=
    Transition.System.play_of_guarded Sound perform_sound sound guarded
  exact ⟨final, played, soundFinal.truthful⟩

def sampleServices : List ProvidedService :=
  [{ description := ⟨1, 2, 3, 4⟩, hasHandler := true, isMulticast := false }]

def sampleAddress : IPAddress false :=
  .make_ip4 false [10, 0, 0, 1]

theorem providers_told_sample :
    ∃ final, Transition.System.play perform (start false sampleServices 2)
        [.subscribeReceived ⟨1, 2, 3, 4⟩ 5 sampleAddress 7 SD_L4_PROTO_UDP true,
          .subscribeReceived ⟨1, 2, 3, 4⟩ 0 sampleAddress 7 SD_L4_PROTO_UDP true] =
          some final ∧ Truthful final :=
  providers_told false sampleServices 2 _ ⟨fun _ _ _ => .inr (.inr rfl), fun _ _ =>
    ⟨fun _ some => absurd rfl some, fun _ _ => trivial⟩⟩

/-- The only subscription expires, and the handler is not told. -/
theorem not_providers_told :
    ¬ ∀ (ip6 : Bool) (services : List ProvidedService) (numSubscriptions : Nat)
        (events : List (Event ip6)),
      ∃ final, Transition.System.play perform (start ip6 services numSubscriptions) events =
          some final ∧ Truthful final := by
  intro always
  obtain ⟨final, played, truthful⟩ := always false sampleServices 1
    [.subscribeReceived ⟨1, 2, 3, 4⟩ 1 sampleAddress 7 SD_L4_PROTO_UDP true, .cyclic, .cyclic]
  have ending : (Transition.System.play perform (start false sampleServices 1)
      [.subscribeReceived ⟨1, 2, 3, 4⟩ 1 sampleAddress 7 SD_L4_PROTO_UDP true,
        .cyclic, .cyclic]).map
        (fun registry => (registry.services, registry.lastTold ⟨1, 2, 3, 4⟩,
          registry.subscriptions ⟨1, 2, 3, 4⟩)) = some (sampleServices, true, []) := by
    decide
  rw [played, Option.map_some, Option.some.injEq, Prod.mk.injEq, Prod.mk.injEq] at ending
  obtain ⟨services, told, none⟩ := ending
  have provided : final.IsProvided ⟨1, 2, 3, 4⟩ := by
    rw [IsProvided, services]
    exact ⟨⟨⟨1, 2, 3, 4⟩, true, false⟩, by decide, rfl⟩
  exact (truthful _ provided).mp told none

end SdServiceRegistry

end OpenBsw.Someip
