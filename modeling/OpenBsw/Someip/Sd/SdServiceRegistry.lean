import OpenBsw.Someip.Sd.SubscriptionManager

/-!
# Subscriptions at the service registry

The registry passes subscriptions on to the manager and tells the handler of a provided
event group when it gets its first subscription and when it is left without one.  What the
handlers were told is recorded, the last call first.
-/

namespace OpenBsw.Someip

variable {ip6 : Bool}

/-- A provided service as far as subscriptions are concerned. -/
structure ProvidedService where
  description : EventGroupKey
  hasHandler : Bool
  isMulticast : Bool
  deriving DecidableEq, Repr

namespace ServiceManager

/-- The loop over the services from the first one on that can match. -/
def scanEventGroup (service : EventGroupKey) : List ProvidedService → Option ProvidedService
  | [] => none
  | entry :: rest =>
    if entry.description.serviceId ≠ service.serviceId then none
    else if entry.description.eventgroupId = 0xFFFF then scanEventGroup service rest
    else if entry.description = service then some entry
    else scanEventGroup service rest

def getEventGroup (services : List ProvidedService) (service : EventGroupKey) :
    Option ProvidedService :=
  if !service.isValid then none
  else
    scanEventGroup service
      (services.dropWhile fun entry => entry.description.serviceId < service.serviceId)

end ServiceManager

inductive SubscriptionResult
  | SUBSCRIBE_OK
  | SUBSCRIBE_OK_MULTICAST
  | SUBSCRIBE_ERROR
  | UNSUBSCRIBE_OK
  | UNSUBSCRIBE_ERROR
  deriving DecidableEq, Repr

/-- A call of `onEventGroupSubscriptionStateChanged`. -/
structure StateChanged where
  eventGroup : EventGroupKey
  isSubscribed : Bool
  deriving DecidableEq, Repr

structure SdServiceRegistry (ip6 : Bool) where
  services : List ProvidedService
  subscriptionManager : SubscriptionManager ip6
  told : List StateChanged := []
  deriving DecidableEq, Repr

namespace SdServiceRegistry

def SD_L4_PROTO_UDP : UInt8 := 0x11
def SD_L4_PROTO_TCP : UInt8 := 0x06

/-- `CYCLE_TIME_MS / 1000U` -/
def cycleSeconds : Nat := 1

def onEventGroupSubscriptionStateChanged (registry : SdServiceRegistry ip6)
    (eventGroup : EventGroupKey) (isSubscribed : Bool) : SdServiceRegistry ip6 :=
  { registry with told := ⟨eventGroup, isSubscribed⟩ :: registry.told }

/-- The handler is told where the new subscription is the only one. -/
def tellFirst (registry : SdServiceRegistry ip6) (key : EventGroupKey) : SdServiceRegistry ip6 :=
  match registry.subscriptionManager.getSubscriptions key with
  | some [_] => registry.onEventGroupSubscriptionStateChanged key true
  | _ => registry

/-- The handler is told where no subscription is left. -/
def tellLast (registry : SdServiceRegistry ip6) (key : EventGroupKey) : SdServiceRegistry ip6 :=
  match registry.subscriptionManager.getSubscriptions key with
  | none => registry.onEventGroupSubscriptionStateChanged key false
  | some [] => registry.onEventGroupSubscriptionStateChanged key false
  | _ => registry

/-- A new subscription of a handler whose initial events could be notified or not. -/
def subscribed (registry : SdServiceRegistry ip6) (service : ProvidedService)
    (key : EventGroupKey) (address : IPAddress ip6) (port : UInt16) (notified : Bool) :
    SdServiceRegistry ip6 × SubscriptionResult :=
  if !service.hasHandler then (registry, .SUBSCRIBE_ERROR)
  else
    let registry := registry.tellFirst key
    if !notified then
      ({ registry with
          subscriptionManager :=
            registry.subscriptionManager.removeSubscription key address port },
        .SUBSCRIBE_ERROR)
    else
      (registry, if service.isMulticast then .SUBSCRIBE_OK_MULTICAST else .SUBSCRIBE_OK)

/-- `subscribeReceived` with a time to live. -/
def subscribe (registry : SdServiceRegistry ip6) (service : ProvidedService)
    (key : EventGroupKey) (ttl : Nat) (address : IPAddress ip6) (port : UInt16)
    (notified : Bool) : Option (SdServiceRegistry ip6 × SubscriptionResult) :=
  (registry.subscriptionManager.addSubscription key ttl address port).map fun added =>
    let registry := { registry with subscriptionManager := added.1 }
    match added.2 with
    | .INTERNAL_SUBSCRIBE_OK => registry.subscribed service key address port notified
    | .INTERNAL_ALREADY_SUBSCRIBED =>
      (registry, if service.isMulticast then .SUBSCRIBE_OK_MULTICAST else .SUBSCRIBE_OK)
    | .INTERNAL_SUBSCRIBE_ERROR => (registry, .SUBSCRIBE_ERROR)

/-- `subscribeReceived` without a time to live. -/
def unsubscribe (registry : SdServiceRegistry ip6) (service : ProvidedService)
    (key : EventGroupKey) (address : IPAddress ip6) (port : UInt16) :
    SdServiceRegistry ip6 × SubscriptionResult :=
  let registry :=
    { registry with
      subscriptionManager := registry.subscriptionManager.removeSubscription key address port }
  (if service.hasHandler then registry.tellLast key else registry, .UNSUBSCRIBE_OK)

/-- `notified` is what the handler returns from `notifyInitialEvents`. -/
def subscribeReceived (registry : SdServiceRegistry ip6) (key : EventGroupKey) (ttl : Nat)
    (address : IPAddress ip6) (port : UInt16) (proto : UInt8) (notified : Bool) :
    Option (SdServiceRegistry ip6 × SubscriptionResult) :=
  if proto ≠ SD_L4_PROTO_UDP ∧ proto ≠ SD_L4_PROTO_TCP then some (registry, .SUBSCRIBE_ERROR)
  else
    match ServiceManager.getEventGroup registry.services key with
    | none => some (registry, if ttl ≠ 0 then .SUBSCRIBE_ERROR else .UNSUBSCRIBE_ERROR)
    | some service =>
      if ttl ≠ 0 then registry.subscribe service key ttl address port notified
      else some (registry.unsubscribe service key address port)

def rebootDetected (registry : SdServiceRegistry ip6) (address : IPAddress ip6) :
    SdServiceRegistry ip6 :=
  { registry with
    subscriptionManager := registry.subscriptionManager.removeSubscriptionsFrom address }

def cyclic (registry : SdServiceRegistry ip6) : SdServiceRegistry ip6 :=
  { registry with subscriptionManager := registry.subscriptionManager.updateTTLs cycleSeconds }

inductive Event (ip6 : Bool)
  | subscribeReceived (key : EventGroupKey) (ttl : Nat) (address : IPAddress ip6) (port : UInt16)
      (proto : UInt8) (notified : Bool)
  | rebootDetected (address : IPAddress ip6)
  | cyclic
  deriving DecidableEq, Repr

def perform (registry : SdServiceRegistry ip6) : Event ip6 → Option (SdServiceRegistry ip6)
  | .subscribeReceived key ttl address port proto notified =>
    (registry.subscribeReceived key ttl address port proto notified).map Prod.fst
  | .rebootDetected address => some (registry.rebootDetected address)
  | .cyclic => some registry.cyclic

end SdServiceRegistry

end OpenBsw.Someip
