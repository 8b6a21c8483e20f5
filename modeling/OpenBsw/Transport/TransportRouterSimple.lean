import OpenBsw.Transition.System

/-!
# Routing transport messages

The router lends message buffers to the transport layers.  It forwards requests
to the diagnostic application, and the responses of the application to the bus
that the last request came from.
-/

namespace OpenBsw.Transport

open OpenBsw.Transition List

namespace BusId

def SELFDIAG : Nat := 1
def CAN_0 : Nat := 2
def ETH_0 : Nat := 3
def ETH_1 : Nat := 4

end BusId

/-- What an application configures: the addresses of its testers on the different buses. -/
structure RouterConfiguration where
  supportEthernet : Bool
  isFunctionalAddress : Nat → Bool
  is1ByteDiagAddressBus : Nat → Bool
  convert1ByteAddressTo2Byte : Nat → Nat
  convert2ByteAddressTo1Byte : Nat → Nat

/-- The objects that a message pointer may point to. -/
inductive MessagePointer where
  | message (index : Nat)
  | functionalMessage (index : Nat)
  | other (object : Nat)
  deriving DecidableEq

structure RoutedMessage where
  sourceAddress : Nat
  targetAddress : Nat
  deriving DecidableEq

structure TransportLayer where
  object : Nat
  busId : Nat
  deriving DecidableEq

inductive TpErrorCode where
  | TP_OK
  | TP_SEND_FAIL
  | TP_QUEUE_FULL
  | TP_MESSAGE_INCOMPLETE
  | TP_MESSAGE_ALREADY_IN_PROGRESS
  | TP_GENERAL_ERROR
  deriving DecidableEq

inductive ReceiveResult where
  | RECEIVED_NO_ERROR
  | RECEIVED_ERROR
  deriving DecidableEq

inductive ProviderErrorCode where
  | TPMSG_OK
  | TPMSG_NO_MSG_AVAILABLE
  | TPMSG_SIZE_TOO_LARGE
  deriving DecidableEq

structure TransportRouterSimple where
  locked : List Bool := List.replicate 3 false
  functionalLocked : List Bool := List.replicate 8 false
  transportLayers : List TransportLayer := []
  busIdToReply : Nat := BusId.SELFDIAG
  deriving DecidableEq

/-- What `messageReceived` did with a message. -/
structure Forwarding where
  message : RoutedMessage
  /-- The calls of `send`, each with its result. -/
  sent : List (TransportLayer × TpErrorCode) := []
  result : TpErrorCode

namespace TransportRouterSimple

def BUFFER_SIZE : Nat := 0xFFF
def FUNCTIONAL_BUFFER_SIZE : Nat := 8
def MAX_FUNCTIONAL_MESSAGE_PAYLOAD_SIZE : Nat := 6

/-- The size of the buffer that belongs to a message. -/
def capacity : MessagePointer → Nat
  | .message _ => BUFFER_SIZE
  | .functionalMessage _ => FUNCTIONAL_BUFFER_SIZE
  | .other _ => 0

/-- The first message that is not locked, which gets locked. -/
def getMessage (router : TransportRouterSimple) (size : Nat) :
    TransportRouterSimple × Option MessagePointer × ProviderErrorCode :=
  if BUFFER_SIZE < size then (router, none, .TPMSG_SIZE_TOO_LARGE)
  else
    match router.locked.findIdx? (! ·) with
    | some index =>
      ({ router with locked := router.locked.set index true }, some (.message index), .TPMSG_OK)
    | none => (router, none, .TPMSG_NO_MSG_AVAILABLE)

def getTransportMessage (configuration : RouterConfiguration) (router : TransportRouterSimple)
    (srcBusId targetId size : Nat) :
    TransportRouterSimple × Option MessagePointer × ProviderErrorCode :=
  let targetId2Byte :=
    if configuration.is1ByteDiagAddressBus srcBusId then
      configuration.convert1ByteAddressTo2Byte targetId
    else targetId
  if configuration.isFunctionalAddress targetId2Byte ∧
      size ≤ MAX_FUNCTIONAL_MESSAGE_PAYLOAD_SIZE then
    match router.functionalLocked.findIdx? (! ·) with
    | some index =>
      ({ router with functionalLocked := router.functionalLocked.set index true },
        some (.functionalMessage index), .TPMSG_OK)
    | none => router.getMessage size
  else router.getMessage size

def releaseTransportMessage (router : TransportRouterSimple) :
    MessagePointer → TransportRouterSimple
  | .message index => { router with locked := router.locked.set index false }
  | .functionalMessage index =>
    { router with functionalLocked := router.functionalLocked.set index false }
  | .other _ => router

/-- A message with converted addresses. -/
def convert (message : RoutedMessage) (address : Nat → Nat) : RoutedMessage where
  sourceAddress := address message.sourceAddress
  targetAddress := address message.targetAddress

/-- A message with the addresses of the bus that it goes to. -/
def addressed (configuration : RouterConfiguration) (destBusId : Nat) (message : RoutedMessage) :
    RoutedMessage :=
  if configuration.is1ByteDiagAddressBus destBusId then
    convert message configuration.convert2ByteAddressTo1Byte
  else message

def forwardMessageToTransportLayer (configuration : RouterConfiguration)
    (router : TransportRouterSimple) (send : TransportLayer → RoutedMessage → TpErrorCode)
    (message : RoutedMessage) (destBusId : Nat) (result : TpErrorCode) : Forwarding :=
  let message := addressed configuration destBusId message
  match router.transportLayers.find? fun layer => decide (layer.busId = destBusId) with
  | some layer =>
    { message, sent := [(layer, send layer message)], result := send layer message }
  | none => { message, result }

/-- The addresses of a message as the router compares them. -/
def received (configuration : RouterConfiguration) (sourceBusId : Nat) (message : RoutedMessage) :
    RoutedMessage :=
  if configuration.is1ByteDiagAddressBus sourceBusId then
    convert message configuration.convert1ByteAddressTo2Byte
  else message

/-- Messages from these buses are requests. -/
def isRequestBus (configuration : RouterConfiguration) (sourceBusId : Nat) : Bool :=
  decide (sourceBusId = BusId.CAN_0) ||
    (configuration.supportEthernet && decide (sourceBusId = BusId.ETH_0))

/-- The bus that a message is forwarded to. -/
def destination (configuration : RouterConfiguration) (router : TransportRouterSimple)
    (sourceBusId : Nat) : Option Nat :=
  if isRequestBus configuration sourceBusId then some BusId.SELFDIAG
  else if sourceBusId = BusId.SELFDIAG ∧ router.busIdToReply ≠ BusId.SELFDIAG then
    some router.busIdToReply
  else none

def receiveResult (result : TpErrorCode) : ReceiveResult :=
  if result ≠ .TP_OK then .RECEIVED_ERROR else .RECEIVED_NO_ERROR

def messageReceived (configuration : RouterConfiguration) (router : TransportRouterSimple)
    (send : TransportLayer → RoutedMessage → TpErrorCode) (sourceBusId : Nat)
    (message : RoutedMessage) : TransportRouterSimple × Forwarding × ReceiveResult :=
  let message := received configuration sourceBusId message
  let forwarding :=
    match router.destination configuration sourceBusId with
    | some destBusId =>
      router.forwardMessageToTransportLayer configuration send message destBusId .TP_OK
    | none => { message, result := .TP_SEND_FAIL }
  ({ router with
      busIdToReply :=
        if isRequestBus configuration sourceBusId then sourceBusId else router.busIdToReply },
    forwarding, receiveResult forwarding.result)

def addTransportLayer (router : TransportRouterSimple) (layer : TransportLayer) :
    TransportRouterSimple :=
  if router.transportLayers.any fun other => decide (other.busId = layer.busId) then router
  else { router with transportLayers := router.transportLayers ++ [layer] }

def removeTransportLayer (router : TransportRouterSimple) (layer : TransportLayer) :
    TransportRouterSimple :=
  if layer ∈ router.transportLayers then
    { router with transportLayers := router.transportLayers.erase layer }
  else router

/-- `init` and `shutdown`. -/
def clearTransportLayers (router : TransportRouterSimple) : TransportRouterSimple :=
  { router with transportLayers := [] }

end TransportRouterSimple

/-! ## Runs -/

structure RouterRun where
  router : TransportRouterSimple := {}
  /-- The messages that were handed out and not released since. -/
  outstanding : List MessagePointer := []
  /-- The requests, the last one first: their buses and sources. -/
  requests : List (Nat × Nat) := []
  deriving DecidableEq

inductive RouterEvent where
  | getTransportMessage (srcBusId targetId size : Nat)
  | releaseTransportMessage (message : MessagePointer)
  | messageReceived (sourceBusId : Nat) (message : RoutedMessage)
  | addTransportLayer (layer : TransportLayer)
  | removeTransportLayer (layer : TransportLayer)
  | clearTransportLayers

namespace RouterRun

open TransportRouterSimple

variable (configuration : RouterConfiguration)

/-- A call of the router.  What a layer does with a message does not concern the router. -/
def perform (run : RouterRun) : RouterEvent → RouterRun
  | .getTransportMessage srcBusId targetId size =>
    let (router, message, _) :=
      run.router.getTransportMessage configuration srcBusId targetId size
    { run with router, outstanding := message.toList ++ run.outstanding }
  | .releaseTransportMessage message =>
    { run with
      router := run.router.releaseTransportMessage message
      outstanding := run.outstanding.erase message }
  | .messageReceived sourceBusId message =>
    { run with
      router :=
        (run.router.messageReceived configuration (fun _ _ => .TP_OK) sourceBusId message).1
      requests :=
        if isRequestBus configuration sourceBusId then
          (sourceBusId, (received configuration sourceBusId message).sourceAddress) ::
            run.requests
        else run.requests }
  | .addTransportLayer layer => { run with router := run.router.addTransportLayer layer }
  | .removeTransportLayer layer => { run with router := run.router.removeTransportLayer layer }
  | .clearTransportLayers => { run with router := run.router.clearTransportLayers }

def system : System RouterRun RouterEvent where
  Initial run := run = {}
  Step source event target := source.perform configuration event = target

/-- A layer is registered for the bus that a message goes to. -/
def HasLayer (run : RouterRun) (sourceBusId : Nat) : Prop :=
  ∃ busId, run.router.destination configuration sourceBusId = some busId ∧
    ∃ layer ∈ run.router.transportLayers, layer.busId = busId

/-- The message is passed to the layer of the bus if there is one, and to no other. -/
def PassedTo (run : RouterRun) (send : TransportLayer → RoutedMessage → TpErrorCode)
    (sourceBusId : Nat) (message : RoutedMessage) (busId : Nat) : Prop :=
  (∀ layer ∈ run.router.transportLayers, layer.busId = busId →
    (run.router.messageReceived configuration send sourceBusId message).2.1.sent =
      [(layer, send layer
        (addressed configuration busId (received configuration sourceBusId message)))]) ∧
    ∀ call ∈ (run.router.messageReceived configuration send sourceBusId message).2.1.sent,
      call.1.busId = busId

structure Correct (run : RouterRun) : Prop where
  /-- A message that is handed out was not handed out before, or it was released since, and its
  buffer is large enough. -/
  lent : ∀ srcBusId targetId size message,
    (run.router.getTransportMessage configuration srcBusId targetId size).2.1 = some message →
      message ∉ run.outstanding ∧ size ≤ capacity message
  /-- If a layer is registered for its bus, a message is accepted if and only if the layer sends
  it. -/
  accepted : ∀ send sourceBusId message, HasLayer configuration run sourceBusId →
    ((run.router.messageReceived configuration send sourceBusId message).2.2 =
        .RECEIVED_NO_ERROR ↔
      ∃ layer, (run.router.messageReceived configuration send sourceBusId message).2.1.sent =
        [(layer, .TP_OK)])
  /-- Without a destination a message is refused. -/
  refused : ∀ send sourceBusId message,
    run.router.destination configuration sourceBusId = none →
      (run.router.messageReceived configuration send sourceBusId message).2.1.sent = [] ∧
      (run.router.messageReceived configuration send sourceBusId message).2.2 = .RECEIVED_ERROR
  /-- Requests are passed to the application. -/
  requested : ∀ send sourceBusId message, isRequestBus configuration sourceBusId = true →
    PassedTo configuration run send sourceBusId message BusId.SELFDIAG
  /-- A response is passed to the bus of the last request. -/
  answered : ∀ send message, ∀ request ∈ run.requests.head?,
    PassedTo configuration run send BusId.SELFDIAG message request.1
  /-- A response without a request is refused, and so is what comes from any other bus. -/
  unasked : ∀ sourceBusId, isRequestBus configuration sourceBusId = false →
    (sourceBusId = BusId.SELFDIAG → run.requests = []) →
    run.router.destination configuration sourceBusId = none

/-! ## Locks -/

variable {configuration} {run : RouterRun} {router : TransportRouterSimple}

/-- The locks that belong to some of the outstanding messages. -/
structure Locks (locked : List Bool) (pointer : Nat → MessagePointer)
    (outstanding : List MessagePointer) : Prop where
  locked : ∀ index, pointer index ∈ outstanding → locked[index]? = some true

namespace Locks

variable {locked : List Bool} {pointer : Nat → MessagePointer} {outstanding : List MessagePointer}

/-- A message whose lock is open was not handed out. -/
theorem fresh (locks : Locks locked pointer outstanding) {index : Nat}
    (found : locked.findIdx? (! ·) = some index) : pointer index ∉ outstanding := by
  intro member
  obtain ⟨inside, isOpen, _⟩ := List.findIdx?_eq_some_iff_getElem.mp found
  have closed := locks.locked index member
  rw [List.getElem?_eq_getElem inside, Option.some.injEq] at closed
  rw [closed] at isOpen
  exact Bool.false_ne_true isOpen

/-- Handing out a message closes its lock. -/
theorem lend (locks : Locks locked pointer outstanding) (injective : Function.Injective pointer)
    {index : Nat} (found : locked.findIdx? (! ·) = some index) :
    Locks (locked.set index true) pointer (pointer index :: outstanding) where
  locked := by
    intro other member
    obtain ⟨inside, _⟩ := List.findIdx?_eq_some_iff_getElem.mp found
    by_cases same : index = other
    · subst same
      rw [List.getElem?_set_self inside]
    · rw [List.getElem?_set_ne same]
      refine locks.locked other ((mem_cons.mp member).resolve_left fun equal => ?_)
      exact same (injective equal).symm

/-- A message of another kind has no lock here. -/
theorem cons (locks : Locks locked pointer outstanding) {message : MessagePointer}
    (other : ∀ index, pointer index ≠ message) : Locks locked pointer (message :: outstanding) where
  locked := fun index member =>
    locks.locked index ((mem_cons.mp member).resolve_left (other index))

theorem erase (locks : Locks locked pointer outstanding) (message : MessagePointer) :
    Locks locked pointer (outstanding.erase message) where
  locked := fun index member => locks.locked index (mem_of_mem_erase member)

/-- Releasing a message opens its lock. -/
theorem release (locks : Locks locked pointer outstanding) (nodup : outstanding.Nodup)
    (index : Nat) : Locks (locked.set index false) pointer (outstanding.erase (pointer index)) where
  locked := by
    intro other member
    have inside := locks.locked other (mem_of_mem_erase member)
    have different : index ≠ other := by
      rintro rfl
      exact nodup.not_mem_erase member
    rw [List.getElem?_set_ne different]
    exact inside

end Locks

/-! ## The invariant -/

structure Invariant (run : RouterRun) : Prop where
  nodup : run.outstanding.Nodup
  locked : Locks run.router.locked .message run.outstanding
  functionalLocked : Locks run.router.functionalLocked .functionalMessage run.outstanding
  reply : run.router.busIdToReply = (run.requests.head?.map Prod.fst).getD BusId.SELFDIAG
  apart : ∀ request ∈ run.requests, request.1 ≠ BusId.SELFDIAG
  /-- One layer for each bus. -/
  unique : ∀ layer ∈ run.router.transportLayers, ∀ other ∈ run.router.transportLayers,
    layer.busId = other.busId → layer = other

theorem isRequestBus_ne {sourceBusId : Nat}
    (isRequest : isRequestBus configuration sourceBusId = true) :
    sourceBusId ≠ BusId.SELFDIAG := by
  rintro rfl
  rw [isRequestBus, Bool.or_eq_true, Bool.and_eq_true, decide_eq_true_iff,
    decide_eq_true_iff] at isRequest
  rcases isRequest with same | ⟨_, same⟩
  · exact absurd same (by decide)
  · exact absurd same (by decide)

/-- A normal message is lent. -/
theorem Invariant.getMessage (invariant : Invariant run) (size : Nat) :
    (∀ message, (run.router.getMessage size).2.1 = some message →
      message ∉ run.outstanding ∧ size ≤ capacity message) ∧
    Invariant { run with
      router := (run.router.getMessage size).1
      outstanding := (run.router.getMessage size).2.1.toList ++ run.outstanding } := by
  rw [TransportRouterSimple.getMessage]
  split_ifs with large
  · exact ⟨fun _ none => (by cases none), invariant⟩
  · cases found : run.router.locked.findIdx? (! ·) with
    | none => exact ⟨fun _ none => (by cases none), invariant⟩
    | some index =>
      have fresh := invariant.locked.fresh found
      refine ⟨fun message some => ?_, nodup_cons.mpr ⟨fresh, invariant.nodup⟩,
        invariant.locked.lend (fun _ _ => MessagePointer.message.inj) found,
        invariant.functionalLocked.cons fun _ => MessagePointer.noConfusion,
        invariant.reply, invariant.apart, invariant.unique⟩
      cases some
      exact ⟨fresh, Nat.le_of_not_lt large⟩

/-- A message for a functional request is lent. -/
theorem Invariant.lendFunctional (invariant : Invariant run) {size index : Nat}
    (small : size ≤ MAX_FUNCTIONAL_MESSAGE_PAYLOAD_SIZE)
    (found : run.router.functionalLocked.findIdx? (! ·) = some index) :
    (∀ message, some (MessagePointer.functionalMessage index) = some message →
      message ∉ run.outstanding ∧ size ≤ capacity message) ∧
    Invariant { run with
      router.functionalLocked := run.router.functionalLocked.set index true
      outstanding := .functionalMessage index :: run.outstanding } := by
  have fresh := invariant.functionalLocked.fresh found
  refine ⟨fun message some => ?_, nodup_cons.mpr ⟨fresh, invariant.nodup⟩,
    invariant.locked.cons fun _ => MessagePointer.noConfusion,
    invariant.functionalLocked.lend (fun _ _ => MessagePointer.functionalMessage.inj) found,
    invariant.reply, invariant.apart, invariant.unique⟩
  cases some
  exact ⟨fresh, Nat.le_trans small (show 6 ≤ 8 by decide)⟩

theorem Invariant.getTransportMessage (invariant : Invariant run)
    (configuration : RouterConfiguration) (srcBusId targetId size : Nat) :
    (∀ message,
      (run.router.getTransportMessage configuration srcBusId targetId size).2.1 = some message →
        message ∉ run.outstanding ∧ size ≤ capacity message) ∧
    Invariant (run.perform configuration (.getTransportMessage srcBusId targetId size)) := by
  change _ ∧ Invariant { run with
    router := (run.router.getTransportMessage configuration srcBusId targetId size).1
    outstanding :=
      (run.router.getTransportMessage configuration srcBusId targetId size).2.1.toList ++
        run.outstanding }
  rw [TransportRouterSimple.getTransportMessage]
  split_ifs with oneByte functional functional
  · cases found : run.router.functionalLocked.findIdx? (! ·) with
    | none => exact invariant.getMessage size
    | some index => exact invariant.lendFunctional functional.2 found
  · exact invariant.getMessage size
  · cases found : run.router.functionalLocked.findIdx? (! ·) with
    | none => exact invariant.getMessage size
    | some index => exact invariant.lendFunctional functional.2 found
  · exact invariant.getMessage size

theorem Invariant.perform (invariant : Invariant run) (event : RouterEvent) :
    Invariant (run.perform configuration event) := by
  cases event with
  | getTransportMessage srcBusId targetId size =>
    exact (invariant.getTransportMessage configuration srcBusId targetId size).2
  | releaseTransportMessage message =>
    cases message with
    | message index =>
      exact ⟨invariant.nodup.erase _, invariant.locked.release invariant.nodup index,
        invariant.functionalLocked.erase _, invariant.reply, invariant.apart, invariant.unique⟩
    | functionalMessage index =>
      exact ⟨invariant.nodup.erase _, invariant.locked.erase _,
        invariant.functionalLocked.release invariant.nodup index, invariant.reply,
        invariant.apart, invariant.unique⟩
    | other object =>
      exact ⟨invariant.nodup.erase _, invariant.locked.erase _,
        invariant.functionalLocked.erase _, invariant.reply, invariant.apart, invariant.unique⟩
  | messageReceived sourceBusId message =>
    by_cases isRequest : isRequestBus configuration sourceBusId = true
    · refine ⟨invariant.nodup, invariant.locked, invariant.functionalLocked, ?_, ?_,
        invariant.unique⟩
      · simp only [RouterRun.perform, TransportRouterSimple.messageReceived, if_pos isRequest]
        rfl
      · simp only [RouterRun.perform, if_pos isRequest]
        intro request member
        rcases mem_cons.mp member with rfl | earlier
        · exact isRequestBus_ne isRequest
        · exact invariant.apart request earlier
    · refine ⟨invariant.nodup, invariant.locked, invariant.functionalLocked, ?_, ?_,
        invariant.unique⟩
      · simp only [RouterRun.perform, TransportRouterSimple.messageReceived, if_neg isRequest]
        exact invariant.reply
      · simp only [RouterRun.perform, if_neg isRequest]
        exact invariant.apart
  | addTransportLayer layer =>
    change Invariant { run with router := run.router.addTransportLayer layer }
    rw [TransportRouterSimple.addTransportLayer]
    split_ifs with taken
    · exact invariant
    · refine ⟨invariant.nodup, invariant.locked, invariant.functionalLocked, invariant.reply,
        invariant.apart, ?_⟩
      have free : ∀ other ∈ run.router.transportLayers, other.busId ≠ layer.busId := by
        simpa using taken
      intro first firstMember second secondMember same
      rcases mem_append.mp firstMember with earlier | new <;>
        rcases mem_append.mp secondMember with otherEarlier | otherNew
      · exact invariant.unique first earlier second otherEarlier same
      · rw [mem_singleton.mp otherNew] at same
        exact absurd same (free first earlier)
      · rw [mem_singleton.mp new] at same
        exact absurd same.symm (free second otherEarlier)
      · rw [mem_singleton.mp new, mem_singleton.mp otherNew]
  | removeTransportLayer layer =>
    change Invariant { run with router := run.router.removeTransportLayer layer }
    rw [TransportRouterSimple.removeTransportLayer]
    split_ifs
    · exact ⟨invariant.nodup, invariant.locked, invariant.functionalLocked, invariant.reply,
        invariant.apart, fun first firstMember second secondMember =>
          invariant.unique first (mem_of_mem_erase firstMember) second
            (mem_of_mem_erase secondMember)⟩
    · exact invariant
  | clearTransportLayers =>
    exact ⟨invariant.nodup, invariant.locked, invariant.functionalLocked, invariant.reply,
      invariant.apart, fun _ member => absurd member not_mem_nil⟩

/-! ## Forwarding -/

/-- A message is passed to a layer of its destination, whose result counts. -/
theorem forward_spec (configuration : RouterConfiguration) (router : TransportRouterSimple)
    (send : TransportLayer → RoutedMessage → TpErrorCode) (message : RoutedMessage)
    (destBusId : Nat) (result : TpErrorCode) :
    (∃ layer ∈ router.transportLayers, layer.busId = destBusId ∧
      router.forwardMessageToTransportLayer configuration send message destBusId result =
        ⟨addressed configuration destBusId message,
          [(layer, send layer (addressed configuration destBusId message))],
          send layer (addressed configuration destBusId message)⟩) ∨
    (∀ layer ∈ router.transportLayers, layer.busId ≠ destBusId) ∧
      (router.forwardMessageToTransportLayer configuration send message destBusId result).sent =
        [] := by
  rw [forwardMessageToTransportLayer]
  cases found : router.transportLayers.find? fun layer => decide (layer.busId = destBusId) with
  | none =>
    refine .inr ⟨fun layer member same => ?_, rfl⟩
    have other := List.find?_eq_none.mp found layer member
    exact other (decide_eq_true same)
  | some layer =>
    have same := List.find?_some
      (p := fun other : TransportLayer => decide (other.busId = destBusId)) found
    exact .inl ⟨layer, List.mem_of_find?_eq_some found, of_decide_eq_true same, rfl⟩

/-- What `messageReceived` does with a message that has a destination. -/
theorem messageReceived_of_destination {sourceBusId destBusId : Nat}
    (hasDestination : router.destination configuration sourceBusId = some destBusId)
    (send : TransportLayer → RoutedMessage → TpErrorCode) (message : RoutedMessage) :
    (router.messageReceived configuration send sourceBusId message).2.1 =
      router.forwardMessageToTransportLayer configuration send
        (received configuration sourceBusId message) destBusId .TP_OK := by
  rw [TransportRouterSimple.messageReceived]
  simp only [hasDestination]

theorem messageReceived_of_nowhere {sourceBusId : Nat}
    (nowhere : router.destination configuration sourceBusId = none)
    (send : TransportLayer → RoutedMessage → TpErrorCode) (message : RoutedMessage) :
    (router.messageReceived configuration send sourceBusId message).2.1 =
      { message := received configuration sourceBusId message, result := .TP_SEND_FAIL } := by
  rw [TransportRouterSimple.messageReceived]
  simp only [nowhere]

theorem receiveResult_eq_noError {result : TpErrorCode} :
    receiveResult result = .RECEIVED_NO_ERROR ↔ result = .TP_OK := by
  cases result <;> decide

theorem messageReceived_result (send : TransportLayer → RoutedMessage → TpErrorCode)
    (sourceBusId : Nat) (message : RoutedMessage) :
    (router.messageReceived configuration send sourceBusId message).2.2 =
      receiveResult (router.messageReceived configuration send sourceBusId message).2.1.result :=
  rfl

/-- A message is passed to the layer of its destination. -/
theorem Invariant.passedTo (invariant : Invariant run) {sourceBusId destBusId : Nat}
    (hasDestination : run.router.destination configuration sourceBusId = some destBusId)
    (send : TransportLayer → RoutedMessage → TpErrorCode) (message : RoutedMessage) :
    PassedTo configuration run send sourceBusId message destBusId := by
  rw [PassedTo, messageReceived_of_destination hasDestination]
  rcases forward_spec configuration run.router send (received configuration sourceBusId message)
    destBusId .TP_OK with ⟨layer, member, same, forwarded⟩ | ⟨nowhere, sent⟩
  · rw [forwarded]
    constructor
    · intro other otherMember otherSame
      rw [invariant.unique other otherMember layer member (otherSame.trans same.symm)]
    · intro call isSent
      rw [mem_singleton.mp isSent]
      exact same
  · rw [sent]
    exact ⟨fun layer member same => absurd same (nowhere layer member),
      fun _ isSent => absurd isSent not_mem_nil⟩

theorem destination_of_request {sourceBusId : Nat}
    (isRequest : isRequestBus configuration sourceBusId = true) :
    router.destination configuration sourceBusId = some BusId.SELFDIAG := by
  rw [TransportRouterSimple.destination, if_pos isRequest]

theorem Invariant.correct (invariant : Invariant run) : Correct configuration run where
  lent := fun srcBusId targetId size =>
    (invariant.getTransportMessage configuration srcBusId targetId size).1
  accepted := by
    rintro send sourceBusId message ⟨busId, hasDestination, layer, member, same⟩
    rw [messageReceived_result, receiveResult_eq_noError,
      messageReceived_of_destination hasDestination]
    rcases forward_spec configuration run.router send
      (received configuration sourceBusId message) busId .TP_OK with
      ⟨other, _, _, forwarded⟩ | ⟨nowhere, _⟩
    · rw [forwarded]
      constructor
      · intro result
        exact ⟨other, by rw [← result]⟩
      · rintro ⟨_, equal⟩
        exact (Prod.mk.inj (singleton_inj.mp equal)).2
    · exact absurd same (nowhere layer member)
  refused := by
    intro send sourceBusId message nowhere
    rw [messageReceived_result, messageReceived_of_nowhere nowhere]
    exact ⟨rfl, rfl⟩
  requested := fun send _ message isRequest =>
    invariant.passedTo (destination_of_request isRequest) send message
  answered := by
    intro send message request last
    have noRequest : isRequestBus configuration BusId.SELFDIAG ≠ true := fun isRequest =>
      isRequestBus_ne isRequest rfl
    have member := mem_of_mem_head? last
    have reply := invariant.reply
    rw [Option.mem_def.mp last] at reply
    apply invariant.passedTo
    rw [TransportRouterSimple.destination, if_neg noRequest, if_pos, reply]
    · rfl
    · refine ⟨rfl, ?_⟩
      rw [reply]
      exact invariant.apart request member
  unasked := by
    intro sourceBusId noRequest unasked
    rw [TransportRouterSimple.destination, if_neg (by simp [noRequest]), if_neg]
    rintro ⟨isResponse, replies⟩
    rw [invariant.reply, unasked isResponse] at replies
    exact replies rfl

theorem invariant_inductive (configuration : RouterConfiguration) :
    (system configuration).Inductive Invariant where
  initial := by
    rintro _ rfl
    exact ⟨nodup_nil, ⟨fun _ member => absurd member not_mem_nil⟩,
      ⟨fun _ member => absurd member not_mem_nil⟩, rfl,
      fun _ member => absurd member not_mem_nil, fun _ member => absurd member not_mem_nil⟩
  step := by
    rintro source event _ invariant rfl
    exact invariant.perform event

/-- Message buffers are lent to one user at a time, accepted messages were sent by the layer of
their destination, and responses go to the bus of the last request. -/
theorem route_exact (configuration : RouterConfiguration)
    (reached : (system configuration).Reachable run) : Correct configuration run :=
  ((invariant_inductive configuration).of_reachable reached).correct

/-! ## Two testers -/

/-- The tester addresses of the reference application. -/
def referenceConfiguration : RouterConfiguration where
  supportEthernet := true
  isFunctionalAddress address := decide (address = 0x00DF)
  is1ByteDiagAddressBus busId := decide (busId ≠ BusId.ETH_0) && decide (busId ≠ BusId.ETH_1)
  convert1ByteAddressTo2Byte address :=
    if 0x00F0 ≤ address ∧ address ≤ 0x00FB then address + 0x0E00 else address
  convert2ByteAddressTo1Byte address :=
    if 0x0EF0 ≤ address ∧ address ≤ 0x0EFB then address - 0x0E00 else address

/-- Requests of a tester on the CAN bus and of another one on the Ethernet. -/
def twoRequests : List RouterEvent :=
  [.addTransportLayer ⟨1, BusId.SELFDIAG⟩, .addTransportLayer ⟨2, BusId.CAN_0⟩,
    .addTransportLayer ⟨3, BusId.ETH_0⟩, .messageReceived BusId.CAN_0 ⟨0x00F0, 0x0006⟩,
    .messageReceived BusId.ETH_0 ⟨0x0EF1, 0x0006⟩]

theorem reachable_of_events (configuration : RouterConfiguration) (events : List RouterEvent) :
    (system configuration).Reachable (events.foldl (perform configuration) {}) := by
  induction events using List.reverseRecOn with
  | nil => exact .initial rfl
  | append_singleton events event reached =>
    rw [List.foldl_append]
    exact reached.step rfl

/-- The buffer of the second request is lent before it arrives and released afterwards; then
the response to it comes. -/
def answeredRequest : List RouterEvent :=
  .getTransportMessage BusId.ETH_0 0x0006 100 :: twoRequests ++
    [.getTransportMessage BusId.SELFDIAG 0x0EF1 7, .releaseTransportMessage (.message 0),
      .messageReceived BusId.SELFDIAG ⟨0x0006, 0x00F1⟩]

theorem route_exact_sample :
    (answeredRequest.foldl (perform referenceConfiguration) {}).outstanding = [.message 1] ∧
      Correct referenceConfiguration (answeredRequest.foldl (perform referenceConfiguration) {}) :=
  ⟨by decide, route_exact referenceConfiguration
    (reachable_of_events referenceConfiguration answeredRequest)⟩

/-- Its response is sent by the layer of the Ethernet. -/
example :
    ((answeredRequest.foldl (perform referenceConfiguration) {}).router.messageReceived
      referenceConfiguration (fun _ _ => .TP_OK) BusId.SELFDIAG ⟨0x0006, 0x00F1⟩).2.1.sent =
      [(⟨3, BusId.ETH_0⟩, .TP_OK)] := by
  decide

/-- The response to the first tester is sent to the bus of the second one. -/
theorem not_route_exact :
    ¬ ∀ run, (system referenceConfiguration).Reachable run →
      ∀ send message busId,
        (∀ request ∈ run.requests, request.2 =
          (received referenceConfiguration BusId.SELFDIAG message).targetAddress →
            request.1 = busId) →
        (∃ request ∈ run.requests, request.2 =
          (received referenceConfiguration BusId.SELFDIAG message).targetAddress) →
        ∀ call ∈ (run.router.messageReceived referenceConfiguration send BusId.SELFDIAG
          message).2.1.sent, call.1.busId = busId := by
  intro answers
  have answered := answers _ (reachable_of_events referenceConfiguration twoRequests)
    (fun _ _ => .TP_OK) ⟨0x0006, 0x00F0⟩ BusId.CAN_0 (by decide) (by decide)
    (⟨3, BusId.ETH_0⟩, .TP_OK) (by decide)
  revert answered
  decide

end RouterRun

end OpenBsw.Transport
