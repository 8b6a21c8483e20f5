import OpenBsw.Data.FlatSet

/-!
# The queries of `QueryManager`

Queries are kept in a flat set that is ordered by their descriptions first and
by a timestamp last.  The timestamp changes while a query is registered, so
that the set is ordered by its service ids only.  When the status of a service
changes, the listeners of its queries are collected in an intrusive list, and
are then called one after the other.
-/

namespace OpenBsw.Someip

universe u

/-! ## Descriptions -/

structure ServiceDescription where
  minorVersion : Nat
  ttl : Nat
  serviceId : Nat
  instanceId : Nat
  eventGroup : Nat
  ipAddress : List UInt8
  port : Nat
  proto : Nat
  majorVersion : Nat
  deriving DecidableEq

namespace ServiceDescription

/-- `instance_id::ANY`. -/
def anyInstance : Nat := 0xFFFF

/-- `eventgroup_id::ALL`. -/
def allEventGroups : Nat := 0xFFFF

/-- `major_version::ANY`. -/
def anyMajorVersion : Nat := 0xFF

def containsEventGroup (desc : ServiceDescription) : Bool :=
  desc.eventGroup != allEventGroups

def isInstanceOf (lhs rhs : ServiceDescription) : Bool :=
  lhs.serviceId == rhs.serviceId &&
    (lhs.instanceId == rhs.instanceId || lhs.instanceId == anyInstance ||
      rhs.instanceId == anyInstance) &&
    lhs.eventGroup == rhs.eventGroup &&
    (lhs.majorVersion == rhs.majorVersion || lhs.majorVersion == anyMajorVersion ||
      rhs.majorVersion == anyMajorVersion)

def isEventgroupOfService (lhs rhs : ServiceDescription) : Bool :=
  (lhs.containsEventGroup && !rhs.containsEventGroup) &&
    lhs.serviceId == rhs.serviceId &&
    (lhs.instanceId == anyInstance || rhs.instanceId == anyInstance ||
      lhs.instanceId == rhs.instanceId) &&
    lhs.majorVersion == rhs.majorVersion

end ServiceDescription

/-! ## Queries -/

inductive ServiceQueryState where
  | QUERY_IDLE_PHASE
  | QUERY_INITIAL_WAIT_PHASE
  | QUERY_REPETITION_PHASE
  | QUERY_MAIN_PHASE
  deriving DecidableEq

inductive SubscriptionState where
  | STATE_UNSUBSCRIBED
  | STATE_WAITING_FOR_ACK
  | STATE_ACK_RECEIVED
  deriving DecidableEq

inductive ServiceStatus where
  | SERVICE_AVAILABLE
  | SERVICE_UNAVAILABLE
  | SERVICE_RELIABLE
  | SERVICE_SUBSCRIPTION_NACK
  deriving DecidableEq

/-- A query, with the listener it points to. -/
structure ServiceQuery (Listener : Type u) where
  timestamp : Nat := 0
  state : ServiceQueryState := .QUERY_IDLE_PHASE
  repetitionCount : Nat := 0
  subscriptionState : SubscriptionState := .STATE_UNSUBSCRIBED
  description : ServiceDescription
  listener : Option Listener
  serviceDiscoveryAddress : List UInt8 := []
  deriving DecidableEq

namespace ServiceQuery

variable {Listener : Type u}

def init (query : ServiceQuery Listener) : ServiceQuery Listener :=
  { query with
      timestamp := 0, state := .QUERY_INITIAL_WAIT_PHASE, repetitionCount := 0,
      subscriptionState := .STATE_UNSUBSCRIBED }

/-- `LessThanComparator`. -/
def lessThan (lhs rhs : ServiceQuery Listener) : Bool :=
  if lhs.description.serviceId ≠ rhs.description.serviceId then
    lhs.description.serviceId < rhs.description.serviceId
  else if lhs.description.instanceId ≠ rhs.description.instanceId then
    lhs.description.instanceId < rhs.description.instanceId
  else if lhs.description.eventGroup ≠ rhs.description.eventGroup then
    lhs.description.eventGroup < rhs.description.eventGroup
  else if lhs.description.majorVersion ≠ rhs.description.majorVersion then
    lhs.description.majorVersion < rhs.description.majorVersion
  else lhs.timestamp < rhs.timestamp

end ServiceQuery

/-- A call of a listener. -/
inductive ListenerCall (Listener : Type u) where
  | serviceStatusChanged (listener : Listener) (service : ServiceDescription)
      (status : ServiceStatus)
  | updateEventgroupDescription (listener : Listener) (eventGroup : ServiceDescription)
      (status : ServiceStatus)
  deriving DecidableEq

namespace QueryManager

open ServiceDescription

variable {Listener : Type u}

/-- The service ids of the queries do not decrease. -/
def Ordered (queries : List (ServiceQuery Listener)) : Prop :=
  queries.Pairwise fun first second =>
    first.description.serviceId ≤ second.description.serviceId

/-! ## Registration -/

/-- The entry that the set takes for a query. -/
def find (queries : List (ServiceQuery Listener)) (query : ServiceQuery Listener) : Option Nat :=
  FlatSet.find (·.lessThan query) query.lessThan queries

def registerQuery (capacity : Nat) (queries : List (ServiceQuery Listener))
    (query : ServiceQuery Listener) : Bool × List (ServiceQuery Listener) :=
  if (find queries query).isSome then (false, queries)
  else if queries.length = capacity then (false, queries)
  else (true, FlatSet.insert (·.lessThan query) query.lessThan queries query.init)

def unregisterQuery (queries : List (ServiceQuery Listener)) (query : ServiceQuery Listener) :
    Bool × List (ServiceQuery Listener) :=
  match find queries query with
  | none => (false, queries)
  | some position => (true, queries.eraseIdx position)

/-! ## Status changes -/

section

variable (service : ServiceDescription) (status : ServiceStatus)

/-- The state of a query whose service has changed. -/
def nextState (state : ServiceQueryState) : ServiceQueryState :=
  if status = .SERVICE_AVAILABLE then .QUERY_MAIN_PHASE
  else if status = .SERVICE_UNAVAILABLE ∧ service.ttl = 0 then .QUERY_INITIAL_WAIT_PHASE
  else state

/-- One round of the first loop; the intrusive list does not take a listener twice. -/
def visit [DecidableEq Listener] (query : ServiceQuery Listener) (listeners : List Listener) :
    Option (ServiceQuery Listener × List Listener) :=
  if isInstanceOf service query.description then
    let query := { query with state := nextState service status query.state }
    match query.listener with
    | none => some (query, listeners)
    | some listener =>
      if listener ∈ listeners then none
      else some ({ query with serviceDiscoveryAddress := service.ipAddress },
        listener :: listeners)
  else if isEventgroupOfService query.description service ∧ status = .SERVICE_UNAVAILABLE then
    some ({ query with subscriptionState := .STATE_UNSUBSCRIBED }, listeners)
  else some (query, listeners)

/-- The first loop from a query on, to the first one of another service. -/
def collect [DecidableEq Listener] : List (ServiceQuery Listener) → List Listener →
    Option (List (ServiceQuery Listener) × List Listener)
  | [], listeners => some ([], listeners)
  | query :: rest, listeners =>
    if query.description.serviceId ≠ service.serviceId then some (query :: rest, listeners)
    else
      match visit service status query listeners with
      | none => none
      | some (query, listeners) =>
        match collect rest listeners with
        | none => none
        | some (rest, listeners) => some (query :: rest, listeners)

/-- The second loop, from the first query on to one of another service. -/
def updateEventgroups (listener : Listener) :
    List (ServiceQuery Listener) → List (ListenerCall Listener)
  | [] => []
  | query :: rest =>
    if query.description.serviceId ≠ service.serviceId then []
    else if isEventgroupOfService query.description service then
      .updateEventgroupDescription listener query.description status ::
        updateEventgroups listener rest
    else updateEventgroups listener rest

/-- The calls for the listeners of the intrusive list. -/
def notify (queries : List (ServiceQuery Listener)) (listeners : List Listener) :
    List (ListenerCall Listener) :=
  listeners.flatMap fun listener =>
    .serviceStatusChanged listener service status ::
      updateEventgroups service status listener queries

/-- Without a result when a listener is put into the intrusive list for the second time. -/
def updateQueries [DecidableEq Listener] (queries : List (ServiceQuery Listener)) :
    Option (List (ServiceQuery Listener) × List (ListenerCall Listener)) :=
  let isBefore := fun query : ServiceQuery Listener =>
    decide (query.description.serviceId < service.serviceId)
  match collect service status (queries.dropWhile isBefore) [] with
  | none => none
  | some (found, listeners) =>
    let queries := queries.takeWhile isBefore ++ found
    some (queries, notify service status queries listeners)

end

end QueryManager

end OpenBsw.Someip
