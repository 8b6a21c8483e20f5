import OpenBsw.Data.FlatSet
import OpenBsw.Data.Pool
import OpenBsw.Someip.Sd.SdEndpoint

/-!
# Subscriptions of event groups

The manager keeps a sorted set of pointers to event groups, and every event group a
list of endpoints.  Groups and endpoints are objects of two pools; an object is written
here where the pointer to it stands, together with its slot.  A group keeps its ids when
it is released, since the pool overwrites no more than the head of its list of endpoints.
Beside the state stands a record of the objects that were read while they were free.
-/

namespace OpenBsw.Someip

open OpenBsw

/-- The ids of an event group. -/
structure EventGroupKey where
  serviceId : UInt16
  instanceId : UInt16
  eventgroupId : UInt16
  majorVersion : UInt8
  deriving DecidableEq, Repr

namespace EventGroupKey

/-- `FindEventGroupCondition::isValid`. -/
def isValid (key : EventGroupKey) : Bool :=
  (key.serviceId ≠ 0xFFFF) && (key.majorVersion ≠ 0xFF) && (key.instanceId ≠ 0xFFFF) &&
    (key.eventgroupId ≠ 0xFFFF)

/-- `SubscriptionManager::LessThanComparator`. -/
def lessThan (lhs rhs : EventGroupKey) : Bool :=
  if lhs.serviceId ≠ rhs.serviceId then lhs.serviceId < rhs.serviceId
  else if lhs.instanceId ≠ rhs.instanceId then lhs.instanceId < rhs.instanceId
  else if lhs.eventgroupId ≠ rhs.eventgroupId then lhs.eventgroupId < rhs.eventgroupId
  else lhs.majorVersion < rhs.majorVersion

end EventGroupKey

variable {ip6 : Bool}

/-- The content of an endpoint object. -/
structure Subscription (ip6 : Bool) where
  address : IPAddress ip6
  port : UInt16
  ttl : Nat
  deriving DecidableEq, Repr

/-- The subscription is that of an endpoint. -/
def Subscription.isOf (subscription : Subscription ip6) (address : IPAddress ip6)
    (port : UInt16) : Bool :=
  subscription.address = address && subscription.port = port

structure SubscriptionEndpoint (ip6 : Bool) where
  slot : Nat
  subscription : Subscription ip6
  deriving DecidableEq, Repr

structure SubscribedEventGroup (ip6 : Bool) where
  slot : Nat
  key : EventGroupKey
  endpoints : List (SubscriptionEndpoint ip6) := []
  deriving DecidableEq, Repr

inductive InternalSubscribeResult
  | INTERNAL_SUBSCRIBE_OK
  | INTERNAL_SUBSCRIBE_ERROR
  | INTERNAL_ALREADY_SUBSCRIBED
  deriving DecidableEq, Repr

/-- An object of one of the pools. -/
inductive PoolObject
  | group (slot : Nat)
  | endpoint (slot : Nat)
  deriving DecidableEq, Repr

structure SubscriptionManager (ip6 : Bool) where
  eventgroups : List (SubscribedEventGroup ip6) := []
  maxGroups : Nat
  groupPool : Pool
  endpointPool : Pool
  strayReads : List PoolObject := []
  deriving DecidableEq, Repr

namespace SubscriptionManager

/-- The set and both pools are made for one number of subscriptions. -/
def create (ip6 : Bool) (numSubscriptions : Nat) : SubscriptionManager ip6 where
  maxGroups := numSubscriptions
  groupPool := .create numSubscriptions
  endpointPool := .create numSubscriptions

/-- Objects are read; the free ones are recorded. -/
def reads (manager : SubscriptionManager ip6) (groups endpoints : List Nat) :
    SubscriptionManager ip6 :=
  { manager with
    strayReads :=
      (groups.filter (· ∈ manager.groupPool.free)).map .group ++
        (endpoints.filter (· ∈ manager.endpointPool.free)).map .endpoint ++
        manager.strayReads }

def slots (endpoints : List (SubscriptionEndpoint ip6)) : List Nat :=
  endpoints.map SubscriptionEndpoint.slot

/-- A search reads groups of the set. -/
def searched (manager : SubscriptionManager ip6) : SubscriptionManager ip6 :=
  manager.reads (manager.eventgroups.map SubscribedEventGroup.slot) []

def lowerBound (manager : SubscriptionManager ip6) (key : EventGroupKey) : Nat :=
  FlatSet.lowerBound (fun eg => eg.key.lessThan key) manager.eventgroups

def find (manager : SubscriptionManager ip6) (key : EventGroupKey) : Option Nat :=
  FlatSet.find (fun eg => eg.key.lessThan key) (fun eg => key.lessThan eg.key)
    manager.eventgroups

/-- The object behind the pointer at a position of the set. -/
def setGroup (manager : SubscriptionManager ip6) (index : Nat) (eg : SubscribedEventGroup ip6) :
    SubscriptionManager ip6 :=
  { manager with eventgroups := manager.eventgroups.set index eg }

def releaseGroup (manager : SubscriptionManager ip6) (eg : SubscribedEventGroup ip6) :
    SubscriptionManager ip6 :=
  { manager with groupPool := manager.groupPool.release eg.slot }

def releaseEndpoints (manager : SubscriptionManager ip6)
    (endpoints : List (SubscriptionEndpoint ip6)) : SubscriptionManager ip6 :=
  { manager with endpointPool := manager.endpointPool.releaseAll (slots endpoints) }

/-- The set is searched for a group by its own ids, which are read from the object, and
the pointer that is found is erased. -/
def eraseByKey (manager : SubscriptionManager ip6) (eg : SubscribedEventGroup ip6) :
    SubscriptionManager ip6 :=
  let manager := manager.searched.reads [eg.slot] []
  match manager.find eg.key with
  | none => manager
  | some index => { manager with eventgroups := manager.eventgroups.eraseIdx index }

/-- A group without endpoints is released, and then looked for. -/
def removeGroup (manager : SubscriptionManager ip6) (eg : SubscribedEventGroup ip6) :
    SubscriptionManager ip6 :=
  (manager.releaseGroup eg).eraseByKey eg

/-- The group with a key, and its position. -/
def findGroup (manager : SubscriptionManager ip6) (key : EventGroupKey) :
    Option (Nat × SubscribedEventGroup ip6) :=
  (manager.find key).bind fun index => manager.eventgroups[index]?.map fun eg => (index, eg)

/-! ## Adding -/

/-- The time to live of the first endpoint that matches. -/
def refresh (address : IPAddress ip6) (port : UInt16) (ttl : Nat) :
    List (SubscriptionEndpoint ip6) → List (SubscriptionEndpoint ip6)
  | [] => []
  | ep :: rest =>
    if ep.subscription.isOf address port then
      { ep with subscription := { ep.subscription with ttl := ttl } } :: rest
    else ep :: refresh address port ttl rest

/-- `addSubscription` from the group on that it has found or made. -/
def addEndpoint (manager : SubscriptionManager ip6) (index : Nat) (eg : SubscribedEventGroup ip6)
    (isNew : Bool) (ttl : Nat) (address : IPAddress ip6) (port : UInt16) :
    SubscriptionManager ip6 × InternalSubscribeResult :=
  let manager := manager.reads [eg.slot] (slots eg.endpoints)
  if eg.endpoints.any (·.subscription.isOf address port) then
    (manager.setGroup index { eg with endpoints := refresh address port ttl eg.endpoints },
      .INTERNAL_ALREADY_SUBSCRIBED)
  else
    match manager.endpointPool.allocate with
    | none =>
      (if isNew then manager.removeGroup eg else manager,
        .INTERNAL_SUBSCRIBE_ERROR)
    | some (slot, endpointPool) =>
      let ep : SubscriptionEndpoint ip6 := ⟨slot, ⟨address, port, ttl⟩⟩
      ({ manager with endpointPool := endpointPool }.setGroup index
          { eg with endpoints := ep :: eg.endpoints },
        .INTERNAL_SUBSCRIBE_OK)

/-- A new group, at its position in the set; creating it fails where the pool is empty. -/
def addGroup (manager : SubscriptionManager ip6) (key : EventGroupKey) :
    Option (SubscriptionManager ip6 × SubscribedEventGroup ip6) :=
  manager.groupPool.allocate.map fun allocated =>
    let eg : SubscribedEventGroup ip6 := { slot := allocated.1, key := key }
    ({ manager.searched with
        groupPool := allocated.2
        eventgroups :=
          FlatSet.insert (fun eg => eg.key.lessThan key) (fun eg => key.lessThan eg.key)
            manager.eventgroups eg },
      eg)

def addSubscription (manager : SubscriptionManager ip6) (key : EventGroupKey) (ttl : Nat)
    (address : IPAddress ip6) (port : UInt16) :
    Option (SubscriptionManager ip6 × InternalSubscribeResult) :=
  if !key.isValid then some (manager, .INTERNAL_SUBSCRIBE_ERROR)
  else
    match manager.searched.findGroup key with
    | some (index, eg) => some (manager.searched.addEndpoint index eg false ttl address port)
    | none =>
      if manager.searched.eventgroups.length = manager.searched.maxGroups then
        some (manager.searched, .INTERNAL_SUBSCRIBE_ERROR)
      else
        (manager.searched.addGroup key).map fun added =>
          added.1.addEndpoint (manager.searched.lowerBound key) added.2 true ttl address port

/-! ## Removing -/

/-- Endpoints of a group are taken out of its list and released; the group is released
where no endpoint is left. -/
def removeEndpoints (manager : SubscriptionManager ip6) (index : Nat)
    (eg : SubscribedEventGroup ip6) (removed kept : List (SubscriptionEndpoint ip6)) :
    SubscriptionManager ip6 :=
  let left := { eg with endpoints := kept }
  let manager := (manager.releaseEndpoints removed).setGroup index left
  if kept.isEmpty then manager.removeGroup left else manager

def removeSubscription (manager : SubscriptionManager ip6) (key : EventGroupKey)
    (address : IPAddress ip6) (port : UInt16) : SubscriptionManager ip6 :=
  if !key.isValid then manager
  else
    match manager.searched.findGroup key with
    | none => manager.searched
    | some (index, eg) =>
      let manager := manager.searched.reads [eg.slot] (slots eg.endpoints)
      match eg.endpoints.find? (·.subscription.isOf address port) with
      | none => manager
      | some ep =>
        manager.removeEndpoints index eg [ep] (eg.endpoints.filter (·.slot ≠ ep.slot))

/-- `removeSubscriptions` of an event group. -/
def removeSubscriptionsOf (manager : SubscriptionManager ip6) (key : EventGroupKey) :
    SubscriptionManager ip6 :=
  if !key.isValid then manager
  else
    match manager.searched.findGroup key with
    | none => manager.searched
    | some (index, eg) =>
      (manager.searched.reads [eg.slot] (slots eg.endpoints)).removeEndpoints index eg
        eg.endpoints []

/-- The rounds of `clear` from the last group on; `left` groups are left. -/
def clearGroups : (left : Nat) → SubscriptionManager ip6 → SubscriptionManager ip6
  | 0, manager => manager
  | left + 1, manager =>
    match manager.eventgroups[left]? with
    | none => manager
    | some eg =>
      clearGroups left
        ((manager.reads [eg.slot] (slots eg.endpoints)).removeEndpoints left eg
          eg.endpoints [])

def clear (manager : SubscriptionManager ip6) : SubscriptionManager ip6 :=
  clearGroups manager.eventgroups.length manager

def stop (manager : SubscriptionManager ip6) : SubscriptionManager ip6 :=
  manager.clear

/-! ## Passes over all groups -/

/-- The subscription of an endpoint that is left by a condition, if any. -/
def keep (condition : Subscription ip6 → Option (Subscription ip6))
    (ep : SubscriptionEndpoint ip6) : Option (SubscriptionEndpoint ip6) :=
  (condition ep.subscription).map fun subscription => { ep with subscription := subscription }

/-- Every group keeps the endpoints that a condition leaves; a group without endpoints is
released, and its pointer is erased without a search. -/
def sweep (condition : Subscription ip6 → Option (Subscription ip6)) :
    List (SubscribedEventGroup ip6) → SubscriptionManager ip6 →
      SubscriptionManager ip6 × List (SubscribedEventGroup ip6)
  | [], manager => (manager, [])
  | eg :: rest, manager =>
    let manager := (manager.reads [eg.slot] (slots eg.endpoints)).releaseEndpoints
      (eg.endpoints.filter fun ep => (condition ep.subscription).isNone)
    let kept := eg.endpoints.filterMap (keep condition)
    if kept.isEmpty then sweep condition rest (manager.releaseGroup eg)
    else
      let later := sweep condition rest manager
      (later.1, { eg with endpoints := kept } :: later.2)

def sweepAll (condition : Subscription ip6 → Option (Subscription ip6))
    (manager : SubscriptionManager ip6) : SubscriptionManager ip6 :=
  let swept := sweep condition manager.eventgroups manager
  { swept.1 with eventgroups := swept.2 }

def RemoveIpCondition (address : IPAddress ip6) (subscription : Subscription ip6) :
    Option (Subscription ip6) :=
  if subscription.address = address then none else some subscription

def RemoveExpiredTtlCondition (ticks : Nat) (subscription : Subscription ip6) :
    Option (Subscription ip6) :=
  if ticks ≤ subscription.ttl then some { subscription with ttl := subscription.ttl - ticks }
  else none

/-- `removeSubscriptions` of an address. -/
def removeSubscriptionsFrom (manager : SubscriptionManager ip6) (address : IPAddress ip6) :
    SubscriptionManager ip6 :=
  manager.sweepAll (RemoveIpCondition address)

def updateTTLs (manager : SubscriptionManager ip6) (expiredSeconds : Nat) :
    SubscriptionManager ip6 :=
  manager.sweepAll (RemoveExpiredTtlCondition expiredSeconds)

/-! ## Reading -/

def getSubscriptions (manager : SubscriptionManager ip6) (key : EventGroupKey) :
    Option (List (SubscriptionEndpoint ip6)) :=
  if !key.isValid then none else (manager.findGroup key).map fun found => found.2.endpoints

end SubscriptionManager

end OpenBsw.Someip
