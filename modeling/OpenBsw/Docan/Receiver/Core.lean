import OpenBsw.Data.MergeSort
import OpenBsw.Docan.Receiver.MessageReceiver
import OpenBsw.Transition.System

/-!
# Parallel reception of transport messages

`DoCanReceiver` keeps a list of message receivers, each in a block of a pool.
The transport layer above, the transmitter of flow control frames and the
clock are the environment; the receiver asks them during an operation and each
answer depends on the calls made so far.

Within an operation a message receiver is referred to by its position in the
list: receivers are appended at the end and removed only at the end of the
operation, when the remove lock is released.
-/

namespace OpenBsw.Docan

open OpenBsw.Transport
open OpenBsw.Transition

/-! ## Environment -/

/-- The error codes of `ITransportMessageProvider`. -/
inductive ProviderError where
  | ok
  | invalidSrcAddress
  | invalidTgtAddress
  | noMsgAvailable
  | sizeTooLarge
  | notResponsible
  deriving DecidableEq, Repr

/-- The answer to `getTransportMessage`. -/
structure Allocation where
  error : ProviderError
  message : Option TransportMessage

/-- The contract of a provider: only a successful call sets the message, and a
message is not returned again while it is held. -/
def Allocation.Permitted (allocation : Allocation) (held : List Nat) : Prop :=
  ∀ message, allocation.message = some message →
    allocation.error = .ok ∧ message.id ∉ held

instance (allocation : Allocation) (held : List Nat) : Decidable (allocation.Permitted held) :=
  match messageEq : allocation.message with
  | none => .isTrue fun message isSome => by simp [messageEq] at isSome
  | some message =>
    decidable_of_iff (allocation.error = .ok ∧ message.id ∉ held) (by
      simp [Allocation.Permitted, messageEq])

/-- The answers of the environment during an operation, which may depend on
the number of calls made before, and the parameters. -/
structure ReceiverEnvironment where
  getTransportMessage : Nat → Allocation
  sendFlowControl : Nat → Bool
  messageReceived : Nat → Bool
  nowUs : Nat → UInt32
  waitAllocateTimeout : UInt16
  waitRxTimeout : UInt16
  maxAllocateRetryCount : UInt8
  maxBlockSize : UInt8
  encodedMinSeparationTime : UInt8

/-- The calls a receiver makes, with their answers; where a message is obtained
or offered, also the message receiver this is for.  The last two are recorded
for a frame handed to a message receiver and for the notification that a
delivered message has been processed. -/
inductive ReceiverCall (Address : Type) where
  | nowUs (answer : UInt32)
  | getTransportMessage (receiver : MessageReceiver Address)
      (transportAddressPair : TransportAddressPair) (messageSize : Nat) (peek : List UInt8)
      (answer : Allocation)
  | sendFlowControl (config : FrameCodecConfig) (transmissionAddress : Address)
      (flowStatus : FlowStatus) (blockSize encodedMinSeparationTime : UInt8) (answer : Bool)
  | messageReceived (receiver : MessageReceiver Address) (message : TransportMessage)
      (answer : Bool)
  | releaseTransportMessage (message : TransportMessage)
  | consecutiveFrameReceived (before after : MessageReceiver Address)
  | transportMessageProcessed (message : TransportMessage)

/-- What is fixed when a receiver is constructed.  The size of the pool bounds
the number of message receivers. -/
structure ReceiverConfig (Address : Type) where
  invalidAddress : Address
  maxFirstFrameDataSize : Nat
  poolSize : Nat

/-- The head of `pool` is the next block to be allocated. -/
structure Receiver (Address : Type) where
  messageReceivers : List (MessageReceiver Address) := []
  pool : List Nat
  removeLockCount : Nat := 0
  releasedReceiverCount : Nat := 0
  timersUpdated : Bool := false
  calls : List (ReceiverCall Address) := []

namespace Receiver

variable {Address : Type}

/-- The messages held by message receivers. -/
def heldMessages (messageReceivers : List (MessageReceiver Address)) : List Nat :=
  messageReceivers.filterMap fun receiver => receiver.message.map (·.id)

section Access

variable (receiver : Receiver Address)

def receiverAt (position : Nat) : Except Halt (MessageReceiver Address) :=
  match receiver.messageReceivers[position]? with
  | some messageReceiver => .ok messageReceiver
  | none => .error .undefined

def setReceiver (position : Nat) (messageReceiver : MessageReceiver Address) : Receiver Address :=
  { receiver with messageReceivers := receiver.messageReceivers.set position messageReceiver }

def record (call : ReceiverCall Address) : Receiver Address :=
  { receiver with calls := receiver.calls ++ [call] }

end Access

/-! ## Transitions of one message receiver -/

section Transitions

variable [DecidableEq Address] (environment : ReceiverEnvironment)

def timerOffset (timeout : ReceiveTimeout) : UInt32 :=
  match timeout with
  | .allocate => environment.waitAllocateTimeout.toUInt32 * 1000
  | .rx => environment.waitRxTimeout.toUInt32 * 1000
  | .none => 0

def resetTimer (receiver : Receiver Address) (position : Nat) :
    Except Halt (Receiver Address) := do
  let messageReceiver ← receiver.receiverAt position
  let nowUs := environment.nowUs receiver.calls.length
  let expiry := nowUs + timerOffset environment messageReceiver.handler.timeout
  pure ((receiver.record (.nowUs nowUs)).setReceiver position (messageReceiver.setTimer expiry))

/-- The messages of results are only logged. -/
def handleResult (receiver : Receiver Address) (position : Nat) (result : ReceiveResult) :
    Except Halt (Receiver Address) :=
  if result.transition then do
    let receiver ← receiver.resetTimer environment position
    let messageReceiver ← receiver.receiverAt position
    pure (if messageReceiver.isDone then receiver else { receiver with timersUpdated := true })
  else pure receiver

def announceAllocated (receiver : Receiver Address) (position : Nat)
    (message : Option TransportMessage) : Except Halt (Receiver Address × ReceiveResult) := do
  let messageReceiver ← receiver.receiverAt position
  let (messageReceiver, result) :=
    messageReceiver.allocated message environment.maxAllocateRetryCount
  pure (receiver.setReceiver position messageReceiver, result)

/-- What `allocateTransportMessage` sets in a message it got; the payload
length must fit. -/
def prepareMessage (messageReceiver : MessageReceiver Address) (message : TransportMessage) :
    Except Halt TransportMessage :=
  if message.maxPayloadLength < messageReceiver.messageSize % 2 ^ 16 then .error .assertion
  else
    .ok { message.resetValidBytes with
      sourceAddress := messageReceiver.connection.transportAddressPair.sourceId
      targetAddress := messageReceiver.connection.transportAddressPair.targetId
      payloadLength := messageReceiver.messageSize % 2 ^ 16 }

def allocateTransportMessage (receiver : Receiver Address) (position : Nat) (peek : Bool) :
    Except Halt (Receiver Address × ReceiveResult) := do
  let messageReceiver ← receiver.receiverAt position
  if messageReceiver.blocked then
    if peek then pure (receiver, { transition := false })
    else receiver.announceAllocated environment position none
  else
    let allocation := environment.getTransportMessage receiver.calls.length
    if ¬allocation.Permitted (heldMessages receiver.messageReceivers) then .error .contract
    else
      let receiver := receiver.record (.getTransportMessage messageReceiver
        messageReceiver.connection.transportAddressPair messageReceiver.messageSize
        messageReceiver.firstFrameData allocation)
      if allocation.error ≠ .ok ∧ allocation.error ≠ .noMsgAvailable then
        let (handler, result) := messageReceiver.handler.cancel .none
        pure (receiver.setReceiver position { messageReceiver with handler }, result)
      else
        match allocation.message with
        | none =>
          if peek then pure (receiver, { transition := false })
          else receiver.announceAllocated environment position none
        | some message =>
          let message ← prepareMessage messageReceiver message
          receiver.announceAllocated environment position (some message)

/-- Flow status, block size and separation time of the next flow control
frame. -/
def flowControl (messageReceiver : MessageReceiver Address) : FlowStatus × UInt8 × UInt8 :=
  if messageReceiver.handler.isFlowControlWait then (.wait, 0, 0)
  else (.cts, messageReceiver.maxBlockSize, messageReceiver.encodedMinSeparationTime)

def sendFlowControlFrame (receiver : Receiver Address) (position : Nat) :
    Except Halt (Receiver Address × ReceiveResult) := do
  let messageReceiver ← receiver.receiverAt position
  let success := environment.sendFlowControl receiver.calls.length
  let (flowStatus, blockSize, encodedMinSeparationTime) := flowControl messageReceiver
  let receiver := receiver.record (.sendFlowControl messageReceiver.connection.config
    messageReceiver.transmissionAddress flowStatus blockSize encodedMinSeparationTime success)
  let (handler, result) := messageReceiver.handler.frameSent success
  pure (receiver.setReceiver position { messageReceiver with handler }, result)

def startProcessingTransportMessage (receiver : Receiver Address) (position : Nat) :
    Except Halt (Receiver Address × ReceiveResult) := do
  let messageReceiver ← receiver.receiverAt position
  match messageReceiver.message with
  | none => .error .undefined
  | some message =>
    let success := environment.messageReceived receiver.calls.length
    let receiver := receiver.record (.messageReceived messageReceiver message success)
    let receiver :=
      if success then receiver else receiver.record (.releaseTransportMessage message)
    let (handler, result) := messageReceiver.handler.processed success
    pure (receiver.setReceiver position { messageReceiver with handler, message := none },
      result)

/-- Release a message, if there is one. -/
def giveBack (receiver : Receiver Address) : Option TransportMessage → Receiver Address
  | some message => receiver.record (.releaseTransportMessage message)
  | none => receiver

/-- Unblock the first blocked receiver of the address. -/
def unblock (receptionAddress : Address) :
    List (MessageReceiver Address) → List (MessageReceiver Address)
  | [] => []
  | messageReceiver :: rest =>
    if messageReceiver.blocked ∧ messageReceiver.receptionAddress = receptionAddress then
      messageReceiver.setBlocked false :: rest
    else messageReceiver :: unblock receptionAddress rest

def release (receiver : Receiver Address) (position : Nat) :
    Except Halt (Receiver Address × ReceiveResult) := do
  let messageReceiver ← receiver.receiverAt position
  let receiver := receiver.setReceiver position { messageReceiver with message := none }
  let receiver := receiver.giveBack messageReceiver.message
  let receiver := { receiver with
    messageReceivers := unblock messageReceiver.receptionAddress receiver.messageReceivers }
  -- The counter must not wrap.
  if receiver.releasedReceiverCount = 255 then .error .assertion
  else
    pure ({ receiver with releasedReceiverCount := receiver.releasedReceiverCount + 1 },
      { transition := false })

def handleTransition (receiver : Receiver Address) (position : Nat) :
    Except Halt (Receiver Address × ReceiveResult) := do
  let messageReceiver ← receiver.receiverAt position
  match messageReceiver.handler.state with
  | .allocate => receiver.allocateTransportMessage environment position false
  | .send => receiver.sendFlowControlFrame environment position
  | .processing => receiver.startProcessingTransportMessage environment position
  | .done => receiver.release position
  | .wait => pure (receiver, { transition := false })

/-- The loop of `handleTransitions`, which is given up after `rounds` rounds. -/
def handleTransitionsFor (position : Nat) :
    Nat → Receiver Address → ReceiveResult → Except Halt (Receiver Address)
  | 0, receiver, result => if result.transition then .error .endless else pure receiver
  | rounds + 1, receiver, result =>
    if result.transition then do
      let receiver ← receiver.handleResult environment position result
      let (receiver, result) ← receiver.handleTransition environment position
      handleTransitionsFor position rounds receiver result
    else pure receiver

/-- No message receiver takes more than three transitions in a row. -/
def handleTransitions (receiver : Receiver Address) (position : Nat) (result : ReceiveResult) :
    Except Halt (Receiver Address) :=
  handleTransitionsFor environment position 3 receiver result

/-- Replace a handler and handle the transitions that follow. -/
def handleWith (receiver : Receiver Address) (position : Nat)
    (messageReceiver : MessageReceiver Address)
    (outcome : MessageReceiveProtocolHandler × ReceiveResult) : Except Halt (Receiver Address) :=
  (receiver.setReceiver position { messageReceiver with handler := outcome.1 }).handleTransitions
    environment position outcome.2

end Transitions

/-! ## The remove lock -/

section RemoveLock

def setRemoveLock (receiver : Receiver Address) : Except Halt (Receiver Address) :=
  if receiver.removeLockCount = 255 then .error .assertion
  else pure { receiver with removeLockCount := receiver.removeLockCount + 1 }

/-- Remove the given number of finished receivers; their blocks go back to the
pool in this order. -/
def removeReleased : Nat → List (MessageReceiver Address) → List Nat →
    Except Halt (List (MessageReceiver Address) × List Nat)
  | 0, messageReceivers, pool => pure (messageReceivers, pool)
  | _ + 1, [], _ => .error .undefined
  | count + 1, messageReceiver :: rest, pool =>
    if messageReceiver.isDone then removeReleased count rest (messageReceiver.block :: pool)
    else do
      let (rest, pool) ← removeReleased (count + 1) rest pool
      pure (messageReceiver :: rest, pool)

def releaseRemoveLock (receiver : Receiver Address) : Except Halt (Receiver Address) :=
  if receiver.removeLockCount = 0 then .error .assertion
  else
    let receiver := { receiver with removeLockCount := receiver.removeLockCount - 1 }
    if receiver.removeLockCount = 0 ∧ 0 < receiver.releasedReceiverCount then do
      let (messageReceivers, pool) ←
        removeReleased receiver.releasedReceiverCount receiver.messageReceivers receiver.pool
      pure { receiver with messageReceivers, pool, releasedReceiverCount := 0 }
    else pure receiver

/-- An operation under a `RemoveGuard`. -/
def guarded (receiver : Receiver Address)
    (operation : Receiver Address → Except Halt (Receiver Address)) :
    Except Halt (Receiver Address) := do
  let receiver ← receiver.setRemoveLock
  let receiver ← operation receiver
  receiver.releaseRemoveLock

end RemoveLock

/-! ## Operations -/

section Operations

variable [DecidableEq Address] (config : ReceiverConfig Address)
  (environment : ReceiverEnvironment)

def shutdownAt (position : Nat) (receiver : Receiver Address) :
    Except Halt (Receiver Address × Bool) := do
  let messageReceiver ← receiver.receiverAt position
  let receiver ← receiver.handleWith environment position messageReceiver
    messageReceiver.handler.shutdown
  pure (receiver, true)

def shutdown (receiver : Receiver Address) : Except Halt (Receiver Address) :=
  receiver.guarded fun receiver =>
    iterate (shutdownAt environment) 0 receiver.messageReceivers.length receiver

/-- The state is the receiver with the answer found so far. -/
def handlePendingAt (receptionAddress : Address) (position : Nat)
    (state : Receiver Address × Bool) : Except Halt ((Receiver Address × Bool) × Bool) := do
  let (receiver, blocked) := state
  let messageReceiver ← receiver.receiverAt position
  if messageReceiver.receptionAddress = receptionAddress then
    if 1 < messageReceiver.handler.frameCount then
      let receiver ← receiver.handleWith environment position messageReceiver
        (messageReceiver.handler.cancel .none)
      pure ((receiver, blocked), true)
    else pure ((receiver, true), true)
  else pure ((receiver, blocked), true)

def handlePendingMessageReceivers (receiver : Receiver Address) (receptionAddress : Address) :
    Except Halt (Receiver Address × Bool) :=
  iterate (handlePendingAt environment receptionAddress) 0 receiver.messageReceivers.length
    (receiver, false)

/-- The arguments of `firstDataFrameReceived`. -/
structure FirstDataFrame (Address : Type) where
  connection : Connection Address
  messageSize : Nat
  frameCount : Nat
  consecutiveFrameDataSize : Nat
  data : List UInt8

def newMessageReceiver (frame : FirstDataFrame Address) (block : Nat) (blocked : Bool) :
    MessageReceiver Address where
  handler := .init frame.frameCount
  connection := frame.connection
  firstFrameData := frame.data
  messageSize := frame.messageSize
  consecutiveFrameDataSize := frame.consecutiveFrameDataSize
  maxBlockSize := environment.maxBlockSize
  encodedMinSeparationTime := environment.encodedMinSeparationTime
  blocked
  block

def firstDataFrameReceived (receiver : Receiver Address) (frame : FirstDataFrame Address) :
    Except Halt (Receiver Address) :=
  if 1 < frame.frameCount ∧
      frame.connection.dataLinkAddressPair.transmissionAddress = config.invalidAddress then
    pure receiver
  else if receiver.pool.isEmpty then pure receiver
  else
    receiver.guarded fun receiver =>
      if frame.data.length ≤ config.maxFirstFrameDataSize then
        match receiver.pool with
        | [] => .error .undefined
        | block :: pool => do
          let receiver := { receiver with pool }
          let (receiver, blocked) ← receiver.handlePendingMessageReceivers environment
            frame.connection.dataLinkAddressPair.receptionAddress
          let position := receiver.messageReceivers.length
          let receiver := { receiver with
            messageReceivers :=
              receiver.messageReceivers ++ [newMessageReceiver environment frame block blocked] }
          let (receiver, result) ← receiver.handleTransition environment position
          receiver.handleTransitions environment position result
      else pure receiver

def findMessageReceiver (receiver : Receiver Address) (receptionAddress : Address) : Option Nat :=
  receiver.messageReceivers.findIdx? fun messageReceiver =>
    messageReceiver.receptionAddress = receptionAddress

/-- The part of `consecutiveDataFrameReceived` under the guard. -/
def handleConsecutiveFrame (receiver : Receiver Address) (position : Nat)
    (messageReceiver : MessageReceiver Address) (message : TransportMessage)
    (sequenceNumber : UInt8) (expectedSize : Nat) (data : List UInt8) :
    Except Halt (Receiver Address) :=
  let (after, result) :=
    messageReceiver.consecutiveFrameReceived message sequenceNumber expectedSize data
  ((receiver.record (.consecutiveFrameReceived messageReceiver after)).setReceiver position
    after).handleTransitions environment position result

def consecutiveDataFrameReceived (receiver : Receiver Address) (receptionAddress : Address)
    (sequenceNumber : UInt8) (data : List UInt8) : Except Halt (Receiver Address) :=
  match receiver.findMessageReceiver receptionAddress with
  | none => pure receiver
  | some position => do
    let messageReceiver ← receiver.receiverAt position
    match messageReceiver.message with
    | none => pure receiver
    | some message =>
      let expectedSize := messageReceiver.expectedConsecutiveFrameDataSize message.validBytes
      if data.length < expectedSize then pure receiver
      else
        receiver.guarded fun receiver =>
          receiver.handleConsecutiveFrame environment position messageReceiver message
            sequenceNumber expectedSize data

def expireAt (nowUs : UInt32) (position : Nat) (receiver : Receiver Address) :
    Except Halt (Receiver Address × Bool) := do
  let messageReceiver ← receiver.receiverAt position
  let (messageReceiver, expired) := messageReceiver.updateTimer nowUs
  if expired then
    let receiver ← receiver.handleWith environment position messageReceiver
      messageReceiver.handler.expired
    pure (receiver, true)
  else pure (receiver, false)

/-- The list is sorted after the removal. -/
def cyclicTask (receiver : Receiver Address) (nowUs : UInt32) :
    Except Halt (Receiver Address) := do
  let receiver ← receiver.guarded fun receiver =>
    iterate (expireAt environment nowUs) 0 receiver.messageReceivers.length receiver
  if receiver.timersUpdated then
    pure { receiver with
      messageReceivers := MergeSort.sort MessageReceiver.less receiver.messageReceivers
      timersUpdated := false }
  else pure receiver

/-- The call of `processMessageReceivers` that follows is an operation of its
own: it is executed asynchronously. -/
def transportMessageProcessed (receiver : Receiver Address) (message : TransportMessage) :
    Receiver Address :=
  receiver.record (.transportMessageProcessed message)

def peekAt (position : Nat) (receiver : Receiver Address) :
    Except Halt (Receiver Address × Bool) := do
  let messageReceiver ← receiver.receiverAt position
  if messageReceiver.handler.isAllocating then
    let (receiver, result) ← receiver.allocateTransportMessage environment position true
    let receiver ← receiver.handleTransitions environment position result
    let messageReceiver ← receiver.receiverAt position
    pure (receiver, messageReceiver.message.isSome)
  else pure (receiver, true)

def processMessageReceivers (receiver : Receiver Address) : Except Halt (Receiver Address) :=
  receiver.guarded fun receiver =>
    iterate (peekAt environment) 0 receiver.messageReceivers.length receiver

end Operations

end Receiver

/-! ## The receiver as a system -/

inductive ReceiverOperation (Address : Type) where
  | firstDataFrameReceived (frame : Receiver.FirstDataFrame Address)
  | consecutiveDataFrameReceived (receptionAddress : Address) (sequenceNumber : UInt8)
      (data : List UInt8)
  | cyclicTask (nowUs : UInt32)
  | transportMessageProcessed (message : TransportMessage)
  | processMessageReceivers
  | shutdown

structure ReceiverEvent (Address : Type) where
  environment : ReceiverEnvironment
  operation : ReceiverOperation Address

namespace Receiver

variable {Address : Type} [DecidableEq Address] (config : ReceiverConfig Address)

def step (receiver : Receiver Address) (event : ReceiverEvent Address) :
    Except Halt (Receiver Address) :=
  match event.operation with
  | .firstDataFrameReceived frame =>
    receiver.firstDataFrameReceived config event.environment frame
  | .consecutiveDataFrameReceived receptionAddress sequenceNumber data =>
    receiver.consecutiveDataFrameReceived event.environment receptionAddress sequenceNumber data
  | .cyclicTask nowUs => receiver.cyclicTask event.environment nowUs
  | .transportMessageProcessed message => pure (receiver.transportMessageProcessed message)
  | .processMessageReceivers => receiver.processMessageReceivers event.environment
  | .shutdown => receiver.shutdown event.environment

def new : Receiver Address where
  pool := List.range config.poolSize

/-- Any order of operations, in any environment. -/
def system : System (Receiver Address) (ReceiverEvent Address) where
  Initial receiver := receiver = new config
  Step source event target := source.step config event = .ok target

end Receiver

end OpenBsw.Docan
