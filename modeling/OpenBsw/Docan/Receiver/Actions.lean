import Mathlib
import OpenBsw.Docan.Receiver.Core

/-!
# What the receiver does

Every operation is a sequence of actions: a message receiver changes its state,
gets its message, takes a frame, hands its message over or gives it back, and
so on.  An action says what happens to the messages and the data, and leaves
out why the source does it at that point.
-/

namespace OpenBsw.Docan

open OpenBsw.Transport

namespace MessageReceiver

variable {Address : Type}

/-- Two states of one reception in which the same frames have been taken. -/
structure SameReception (source target : MessageReceiver Address) : Prop where
  connection_eq : target.connection = source.connection
  firstFrameData_eq : target.firstFrameData = source.firstFrameData
  messageSize_eq : target.messageSize = source.messageSize
  consecutiveFrameDataSize_eq : target.consecutiveFrameDataSize = source.consecutiveFrameDataSize
  block_eq : target.block = source.block
  frameCount_eq : target.handler.frameCount = source.handler.frameCount
  frameIndex_eq : target.handler.frameIndex = source.handler.frameIndex
  accepted_eq : target.accepted = source.accepted

theorem SameReception.refl (receiver : MessageReceiver Address) :
    receiver.SameReception receiver :=
  ⟨rfl, rfl, rfl, rfl, rfl, rfl, rfl, rfl⟩

/-- Two states of one reception in which it also has the same message. -/
structure Steady (source target : MessageReceiver Address) : Prop
    extends SameReception source target where
  message_eq : target.message = source.message
  allocating : target.handler.isAllocating = true → source.handler.isAllocating = true
  processing : target.handler.state = .processing → source.handler.state = .processing
  ending : source.message.isSome = true →
    source.handler.state = .processing ∨ source.handler.state = .done →
    target.handler.state = .processing ∨ target.handler.state = .done

/-- The receiver without its blocked flag, which another one may clear. -/
def forget (receiver : MessageReceiver Address) : MessageReceiver Address :=
  receiver.setBlocked false

end MessageReceiver

namespace Receiver

variable {Address : Type}

/-! ## Positions in the list -/

/-- The receiver with a message receiver between two parts of its list. -/
def place (receiver : Receiver Address) (before : List (MessageReceiver Address))
    (messageReceiver : MessageReceiver Address) (after : List (MessageReceiver Address)) :
    Receiver Address :=
  { receiver with messageReceivers := before ++ messageReceiver :: after }

section Place

variable (receiver : Receiver Address) (before after : List (MessageReceiver Address))
  (messageReceiver other : MessageReceiver Address)

@[simp]
theorem receiverAt_place :
    (receiver.place before messageReceiver after).receiverAt before.length =
      .ok messageReceiver := by
  simp [receiverAt, place]

@[simp]
theorem setReceiver_place :
    (receiver.place before messageReceiver after).setReceiver before.length other =
      receiver.place before other after := by
  simp [setReceiver, place]

@[simp]
theorem record_place (call : ReceiverCall Address) :
    (receiver.place before messageReceiver after).record call =
      (receiver.record call).place before messageReceiver after :=
  rfl

theorem place_self (listEq : receiver.messageReceivers = before ++ messageReceiver :: after) :
    receiver.place before messageReceiver after = receiver := by
  rw [place, ← listEq]

end Place

/-! ## Unblocking -/

/-- Unblocking changes blocked flags only. -/
theorem map_forget_unblock [DecidableEq Address] (receptionAddress : Address)
    (messageReceivers : List (MessageReceiver Address)) :
    (unblock receptionAddress messageReceivers).map MessageReceiver.forget =
      messageReceivers.map MessageReceiver.forget := by
  induction messageReceivers with
  | nil => rfl
  | cons messageReceiver rest ih =>
    rw [unblock]
    split
    · rfl
    · rw [List.map_cons, List.map_cons, ih]

end Receiver

/-! ## Actions -/

/-- A call that moves no message. -/
def ReceiverCall.Neutral {Address : Type} : ReceiverCall Address → Prop
  | .nowUs _ => True
  | .getTransportMessage _ _ _ _ answer => answer.message = none
  | .sendFlowControl .. => True
  | .transportMessageProcessed _ => True
  | _ => False

namespace Receiver

variable {Address : Type} [DecidableEq Address]

/-- A message receiver without message gets one, which is prepared for it and
filled with the data of the first frame. -/
structure Obtained (receiver target : MessageReceiver Address) (message : TransportMessage) :
    Prop extends receiver.SameReception target where
  allocating : receiver.handler.isAllocating = true
  message_eq_none : receiver.message = none
  message_eq : ∃ prepared : TransportMessage,
    prepared.id = message.id ∧ prepared.validBytes = 0 ∧
      receiver.messageSize % 2 ^ 16 ≤ prepared.maxPayloadLength ∧
      target.message = some (prepared.append receiver.firstFrameData)
  settled : target.handler.isAllocating = false
  processing_iff : target.handler.state = .processing ↔ receiver.handler.frameCount = 1

/-- A message receiver gives its message away. -/
structure Detached (receiver target : MessageReceiver Address) : Prop
    extends receiver.SameReception target where
  message_eq_none : target.message = none
  done : target.handler.state = .done
  settled : target.handler.isAllocating = false

/-- The calls that dispose of a message offered to the listener. -/
def offerCalls (messageReceiver : MessageReceiver Address) (message : TransportMessage)
    (success : Bool) : List (ReceiverCall Address) :=
  .messageReceived messageReceiver message success ::
    if success then [] else [.releaseTransportMessage message]

/-- The call that gives a message back, if there is one. -/
def releaseCalls (message : Option TransportMessage) : List (ReceiverCall Address) :=
  message.toList.map .releaseTransportMessage

variable (Takes : MessageReceiver Address → UInt8 → List UInt8 → Prop)
  (Starts : FirstDataFrame Address → Prop)

/-- The actions of runs in which the consecutive frames taken and the first
frames that start a reception meet two conditions. -/
inductive Action : Receiver Address → Receiver Address → Prop
  | bookkeeping {source : Receiver Address} (pool : List Nat)
      (removeLockCount releasedReceiverCount : Nat) (timersUpdated : Bool) :
      Action source { source with pool, removeLockCount, releasedReceiverCount, timersUpdated }
  | permute {source : Receiver Address} {messageReceivers : List (MessageReceiver Address)}
      (permuted : messageReceivers.Perm source.messageReceivers) :
      Action source { source with messageReceivers }
  | unblock {source : Receiver Address} (receptionAddress : Address) :
      Action source
        { source with messageReceivers := unblock receptionAddress source.messageReceivers }
  | call {source : Receiver Address} {call : ReceiverCall Address} (neutral : call.Neutral) :
      Action source (source.record call)
  | touch {source : Receiver Address} {before after : List (MessageReceiver Address)}
      {receiver target : MessageReceiver Address} (steady : receiver.Steady target) :
      Action (source.place before receiver after) (source.place before target after)
  | obtain {source : Receiver Address} {before after : List (MessageReceiver Address)}
      {receiver target : MessageReceiver Address} {message : TransportMessage}
      {transportAddressPair : TransportAddressPair} {messageSize : Nat} {peek : List UInt8}
      {allocation : Allocation} (message_eq : allocation.message = some message)
      (fresh : message.id ∉ heldMessages (before ++ receiver :: after))
      (obtained : Obtained receiver target message) :
      Action (source.place before receiver after)
        ((source.record (.getTransportMessage receiver transportAddressPair messageSize peek
          allocation)).place before target after)
  | offer {source : Receiver Address} {before after : List (MessageReceiver Address)}
      {receiver target : MessageReceiver Address} {message : TransportMessage} {success : Bool}
      (message_eq : receiver.message = some message)
      (processing : receiver.handler.state = .processing) (detached : Detached receiver target) :
      Action (source.place before receiver after)
        ({ source with calls := source.calls ++ offerCalls receiver message success }.place
          before target after)
  | release {source : Receiver Address} {before after : List (MessageReceiver Address)}
      {receiver target : MessageReceiver Address} (detached : Detached receiver target) :
      Action (source.place before receiver after)
        ({ source with calls := source.calls ++ releaseCalls receiver.message }.place
          before target after)
  | frame {source : Receiver Address} {before after : List (MessageReceiver Address)}
      {receiver : MessageReceiver Address} {message : TransportMessage} {sequenceNumber : UInt8}
      {data : List UInt8} (takes : Takes receiver sequenceNumber data)
      (message_eq : receiver.message = some message)
      (long : receiver.expectedConsecutiveFrameDataSize message.validBytes ≤ data.length) :
      Action (source.place before receiver after)
        ((source.record (.consecutiveFrameReceived receiver
          (receiver.consecutiveFrameReceived message sequenceNumber
            (receiver.expectedConsecutiveFrameDataSize message.validBytes) data).1)).place before
          (receiver.consecutiveFrameReceived message sequenceNumber
            (receiver.expectedConsecutiveFrameDataSize message.validBytes) data).1 after)
  | insert {source : Receiver Address} {environment : ReceiverEnvironment}
      {frame : FirstDataFrame Address} {block : Nat} {blocked : Bool} (starts : Starts frame) :
      Action source
        { source with
          messageReceivers :=
            source.messageReceivers ++ [newMessageReceiver environment frame block blocked] }
  | remove {source : Receiver Address} {before after : List (MessageReceiver Address)}
      {receiver : MessageReceiver Address} (done : receiver.handler.state = .done)
      (message_eq_none : receiver.message = none) :
      Action (source.place before receiver after)
        { source with messageReceivers := before ++ after }

/-- A sequence of actions. -/
abbrev Actions : Receiver Address → Receiver Address → Prop :=
  Relation.ReflTransGen (Action Takes Starts)

end Receiver

end OpenBsw.Docan
