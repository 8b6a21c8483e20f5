import OpenBsw.Data.Word32
import OpenBsw.Someip.SomeIpMessage

/-!
# SOME/IP transport protocol

A message that does not fit into a UDP packet is sent in segments.  A receiver
collects the segments of one message in its buffer and counts their bytes; the
transceiver finds the receiver of a segment, and stops receivers that wait for
too long.  Lengths and positions have 32 bits, and their sums wrap.
-/

namespace OpenBsw.Someip

open OpenBsw.Bytes

/-- The largest multiple of 16 that fits behind the headers. -/
def TP_PAYLOAD_MAX_SIZE : Nat := 1392

namespace ITpTransceiver

def TP_MESSAGE_TYPE_BIT_MASK : UInt8 := 32
def TP_RECEIVE_TIMEOUT : UInt32 := 100
def TP_HEADER_LENGTH : Nat := 4

structure TpHeader where
  payloadOffset : UInt32
  hasMoreSegments : Bool

def serializeTpHeader (input : TpHeader) : UInt32 :=
  let offset := input.payloadOffset &&& 0xFFFFFFF0
  let flags : UInt32 := if input.hasMoreSegments then 1 else 0
  offset ||| flags

def parseTpHeader (input : UInt32) : TpHeader :=
  { payloadOffset := input &&& 0xFFFFFFF0
    hasMoreSegments := input &&& 0x00000001 ≠ 0 }

end ITpTransceiver

open ITpTransceiver

/-! ## Sender -/

namespace TpSender

/-- One round of the loop of `send`: the segment at an offset. -/
def segment (message : SomeIpMessage) (payloadOffset : Nat) : SomeIpMessage :=
  let payloadLeft := message.getPayloadLength - payloadOffset
  let chunkLength := if payloadLeft > TP_PAYLOAD_MAX_SIZE then TP_PAYLOAD_MAX_SIZE else payloadLeft
  let chunk := slice message.payload payloadOffset chunkLength
  let tpHeader : TpHeader :=
    { payloadOffset := UInt32.ofNat payloadOffset
      hasMoreSegments := payloadLeft - chunkLength > 0 }
  { header :=
      { message.header with
        rawMessageType := message.header.rawMessageType ||| TP_MESSAGE_TYPE_BIT_MASK }
    payload := bigEndian TP_HEADER_LENGTH (serializeTpHeader tpHeader).toNat ++ chunk }

/-- The loop of `send`, where the channel sends every packet. -/
def sendFrom (message : SomeIpMessage) : Nat → Nat → List SomeIpMessage
  | 0, _ => []
  | rounds + 1, payloadOffset =>
    let payloadLeft := message.getPayloadLength - payloadOffset
    let chunkLength :=
      if payloadLeft > TP_PAYLOAD_MAX_SIZE then TP_PAYLOAD_MAX_SIZE else payloadLeft
    segment message payloadOffset ::
      if message.getPayloadLength - (payloadOffset + chunkLength) > 0 then
        sendFrom message rounds (payloadOffset + chunkLength)
      else []

/-- The segments of a message; every round but the last one takes bytes. -/
def send (message : SomeIpMessage) : List SomeIpMessage :=
  sendFrom message (message.getPayloadLength + 1) 0

end TpSender

/-! ## Receiver -/

/-- `Channel` stands for the remote endpoint and the local port of a channel.
The buffer is the part behind the header; the listener is left out, it is set
together with the channel.  A copy that is `astray` begins in the header or leaves
the buffer; what it overwrites is left out. -/
structure TpReceiver (Channel : Type) where
  header : SomeIpHeader := {}
  buffer : List UInt8
  pChannel : Option Channel := none
  timestamp : UInt32 := 0
  totalPayloadLength : Nat := 0
  receivedPayloadLength : Nat := 0
  astray : Bool := false

inductive TpResult
  | TP_OK
  | TP_PENDING
  | TP_ERROR
  deriving DecidableEq, Repr

namespace TpReceiver

variable {Channel : Type}

def isActive (receiver : TpReceiver Channel) : Bool :=
  receiver.pChannel.isSome

def isExpired (receiver : TpReceiver Channel) (time : UInt32) : Bool :=
  receiver.timestamp > 0 && time ≥ receiver.timestamp + TP_RECEIVE_TIMEOUT

/-- The header fields that tell messages apart; the session is none of them. -/
def sameKey (header other : SomeIpHeader) : Bool :=
  header.messageId = other.messageId && header.clientId = other.clientId &&
    header.rawMessageType = other.rawMessageType &&
    header.interfaceVersion = other.interfaceVersion

def isMatching [DecidableEq Channel] (receiver : TpReceiver Channel) (channel : Channel)
    (message : SomeIpMessage) : Bool :=
  receiver.pChannel = some channel && sameKey receiver.header message.header

theorem sameKey_iff {header other : SomeIpHeader} :
    sameKey header other = true ↔
      header.messageId = other.messageId ∧ header.clientId = other.clientId ∧
        header.rawMessageType = other.rawMessageType ∧
        header.interfaceVersion = other.interfaceVersion := by
  simp only [sameKey, Bool.and_eq_true, decide_eq_true_eq, and_assoc]

def start (receiver : TpReceiver Channel) (channel : Channel) (message : SomeIpMessage) :
    TpReceiver Channel :=
  { receiver with pChannel := some channel, header := message.header }

def stop (receiver : TpReceiver Channel) : TpReceiver Channel :=
  { buffer := List.replicate receiver.buffer.length 0, astray := receiver.astray }

/-- What the listener is given when the message is complete. -/
def completed (receiver : TpReceiver Channel) : SomeIpMessage :=
  { header :=
      { receiver.header with
        rawMessageType := receiver.header.rawMessageType &&& ~~~TP_MESSAGE_TYPE_BIT_MASK }
    payload := receiver.buffer.take
      (SomeIpMessage.payloadLengthOf (UInt32.ofNat receiver.totalPayloadLength)) }

/-- What a segment carries behind its header. -/
def chunk (message : SomeIpMessage) : List UInt8 :=
  message.payload.drop TP_HEADER_LENGTH

def tpHeader (message : SomeIpMessage) : TpHeader :=
  parseTpHeader (UInt32.ofNat (ofBigEndian (message.payload.take TP_HEADER_LENGTH)))

/-- The end of the bytes of a segment in the whole buffer. -/
def targetLength (message : SomeIpMessage) : Nat :=
  Word32.add (Word32.add (chunk message).length SomeIpMessage.OFFSET_PAYLOAD)
    (tpHeader message).payloadOffset.toNat

/-- Their start in the whole buffer. -/
def destination (message : SomeIpMessage) : Nat :=
  Word32.add SomeIpMessage.OFFSET_PAYLOAD (tpHeader message).payloadOffset.toNat

/-- The sums of a segment do not wrap. -/
def Straight (message : SomeIpMessage) : Prop :=
  SomeIpMessage.OFFSET_PAYLOAD + (tpHeader message).payloadOffset.toNat +
    (chunk message).length < Word32.modulus

/-- The last segment tells the length of the payload. -/
def setTotalPayloadLength (receiver : TpReceiver Channel) (message : SomeIpMessage) :
    TpReceiver Channel :=
  if (tpHeader message).hasMoreSegments then receiver
  else
    { receiver with
      totalPayloadLength :=
        Word32.add (tpHeader message).payloadOffset.toNat (chunk message).length }

/-- The bytes of a segment are copied and counted. -/
def copyChunk (receiver : TpReceiver Channel) (message : SomeIpMessage) : TpReceiver Channel :=
  let received := Word32.add receiver.receivedPayloadLength (chunk message).length
  if SomeIpMessage.OFFSET_PAYLOAD ≤ destination message ∧
      destination message + (chunk message).length ≤
        SomeIpMessage.OFFSET_PAYLOAD + receiver.buffer.length then
    { receiver with
      buffer := overwrite receiver.buffer (destination message - SomeIpMessage.OFFSET_PAYLOAD)
        (chunk message)
      receivedPayloadLength := received }
  else { receiver with receivedPayloadLength := received, astray := true }

/-- As many bytes have been counted as the last segment announced. -/
def isComplete (receiver : TpReceiver Channel) (message : SomeIpMessage) : Bool :=
  (receiver.totalPayloadLength ≠ 0 || !(tpHeader message).hasMoreSegments) &&
    receiver.totalPayloadLength ≤ receiver.receivedPayloadLength

/-- The result, the receiver, and the message for the listener. -/
def receive (receiver : TpReceiver Channel) (message : SomeIpMessage) (timestamp : UInt32) :
    TpResult × TpReceiver Channel × Option SomeIpMessage :=
  if message.payload.length < TP_HEADER_LENGTH then (.TP_ERROR, receiver, none)
  else
    let receiver := receiver.setTotalPayloadLength message
    if SomeIpMessage.OFFSET_PAYLOAD + receiver.buffer.length < targetLength message then
      (.TP_ERROR, receiver, none)
    else
      let receiver := receiver.copyChunk message
      if receiver.isComplete message then (.TP_OK, receiver, some receiver.completed)
      else (.TP_PENDING, { receiver with timestamp }, none)

@[simp]
theorem isActive_stop (receiver : TpReceiver Channel) : receiver.stop.isActive = false :=
  rfl

@[simp]
theorem pChannel_setTotalPayloadLength (receiver : TpReceiver Channel)
    (message : SomeIpMessage) :
    (receiver.setTotalPayloadLength message).pChannel = receiver.pChannel := by
  unfold setTotalPayloadLength
  split <;> rfl

@[simp]
theorem header_setTotalPayloadLength (receiver : TpReceiver Channel) (message : SomeIpMessage) :
    (receiver.setTotalPayloadLength message).header = receiver.header := by
  unfold setTotalPayloadLength
  split <;> rfl

@[simp]
theorem buffer_setTotalPayloadLength (receiver : TpReceiver Channel) (message : SomeIpMessage) :
    (receiver.setTotalPayloadLength message).buffer = receiver.buffer := by
  unfold setTotalPayloadLength
  split <;> rfl

theorem astray_setTotalPayloadLength (receiver : TpReceiver Channel) (message : SomeIpMessage) :
    (receiver.setTotalPayloadLength message).astray = receiver.astray := by
  unfold setTotalPayloadLength
  split <;> rfl

@[simp]
theorem receivedPayloadLength_setTotalPayloadLength (receiver : TpReceiver Channel)
    (message : SomeIpMessage) :
    (receiver.setTotalPayloadLength message).receivedPayloadLength =
      receiver.receivedPayloadLength := by
  unfold setTotalPayloadLength
  split <;> rfl

/-- A copy that ends behind the buffer goes astray. -/
theorem astray_copyChunk {receiver : TpReceiver Channel} {message : SomeIpMessage}
    (behind : receiver.buffer.length <
      (tpHeader message).payloadOffset.toNat + (chunk message).length) :
    (receiver.copyChunk message).astray = true := by
  have small := (tpHeader message).payloadOffset.toNat_lt
  have outside : ¬(SomeIpMessage.OFFSET_PAYLOAD ≤ destination message ∧
      destination message + (chunk message).length ≤
        SomeIpMessage.OFFSET_PAYLOAD + receiver.buffer.length) := by
    rw [destination, Word32.add, Word32.modulus, SomeIpMessage.OFFSET_PAYLOAD]
    omega
  rw [copyChunk, if_neg outside]

/-- A copy inside of the buffer. -/
theorem copyChunk_of_le {receiver : TpReceiver Channel} {message : SomeIpMessage}
    (straight : Straight message)
    (inside : (tpHeader message).payloadOffset.toNat + (chunk message).length ≤
      receiver.buffer.length) :
    receiver.copyChunk message =
      { receiver with
        buffer := overwrite receiver.buffer (tpHeader message).payloadOffset.toNat (chunk message)
        receivedPayloadLength :=
          Word32.add receiver.receivedPayloadLength (chunk message).length } := by
  have destinationEq : destination message =
      SomeIpMessage.OFFSET_PAYLOAD + (tpHeader message).payloadOffset.toNat :=
    Word32.add_eq (Nat.lt_of_le_of_lt (Nat.le_add_right ..) straight)
  rw [copyChunk, destinationEq, if_pos (by omega), Nat.add_sub_cancel_left]

theorem Straight.targetLength {message : SomeIpMessage} (straight : Straight message) :
    targetLength message = SomeIpMessage.OFFSET_PAYLOAD +
      ((tpHeader message).payloadOffset.toNat + (chunk message).length) := by
  rw [Straight] at straight
  have front : Word32.add (chunk message).length SomeIpMessage.OFFSET_PAYLOAD =
      (chunk message).length + SomeIpMessage.OFFSET_PAYLOAD := Word32.add_eq (by omega)
  rw [TpReceiver.targetLength, front, Word32.add_eq (by omega)]
  omega

@[simp]
theorem pChannel_copyChunk (receiver : TpReceiver Channel) (message : SomeIpMessage) :
    (receiver.copyChunk message).pChannel = receiver.pChannel := by
  unfold copyChunk
  dsimp only
  split <;> rfl

@[simp]
theorem header_copyChunk (receiver : TpReceiver Channel) (message : SomeIpMessage) :
    (receiver.copyChunk message).header = receiver.header := by
  unfold copyChunk
  dsimp only
  split <;> rfl

@[simp]
theorem length_buffer_copyChunk (receiver : TpReceiver Channel) (message : SomeIpMessage) :
    (receiver.copyChunk message).buffer.length = receiver.buffer.length := by
  unfold copyChunk
  dsimp only
  split
  · exact length_overwrite (by omega)
  · rfl

/-- No operation changes the size of a buffer. -/
theorem length_buffer_receive (receiver : TpReceiver Channel) (message : SomeIpMessage)
    (timestamp : UInt32) :
    (receiver.receive message timestamp).2.1.buffer.length = receiver.buffer.length := by
  rw [receive]
  by_cases short : message.payload.length < TP_HEADER_LENGTH
  · rw [if_pos short]
  · rw [if_neg short]
    have copied :
        ((receiver.setTotalPayloadLength message).copyChunk message).buffer.length =
          receiver.buffer.length := by
      rw [length_buffer_copyChunk, buffer_setTotalPayloadLength]
    dsimp only
    split
    · rw [buffer_setTotalPayloadLength]
    · split
      · exact copied
      · exact copied

/-- A receiver that waits keeps the time of its segment and belongs to the same
channel and header as before. -/
theorem receive_pending {receiver : TpReceiver Channel} {message : SomeIpMessage}
    {timestamp : UInt32} (pending : (receiver.receive message timestamp).1 = .TP_PENDING) :
    (receiver.receive message timestamp).2.1.timestamp = timestamp ∧
      (receiver.receive message timestamp).2.1.pChannel = receiver.pChannel ∧
      (receiver.receive message timestamp).2.1.header = receiver.header ∧
      (receiver.receive message timestamp).2.2 = none := by
  rw [receive] at pending ⊢
  by_cases short : message.payload.length < TP_HEADER_LENGTH
  · rw [if_pos short] at pending
    contradiction
  · rw [if_neg short] at pending ⊢
    by_cases exceeded : SomeIpMessage.OFFSET_PAYLOAD +
        (receiver.setTotalPayloadLength message).buffer.length < targetLength message
    · rw [if_pos exceeded] at pending
      contradiction
    · rw [if_neg exceeded] at pending ⊢
      by_cases complete :
          ((receiver.setTotalPayloadLength message).copyChunk message).isComplete message = true
      · rw [if_pos complete] at pending
        contradiction
      · rw [if_neg complete]
        exact ⟨rfl, (pChannel_copyChunk ..).trans (pChannel_setTotalPayloadLength ..),
          (header_copyChunk ..).trans (header_setTotalPayloadLength ..), rfl⟩

end TpReceiver

/-! ## Transceiver -/

/-- `cyclicTimeout` tells whether the cyclic function is scheduled. -/
structure TpTransceiver (Channel : Type) where
  receivers : List (TpReceiver Channel)
  busy : Bool := false
  cyclicTimeout : Bool := false

namespace TpTransceiver

variable {Channel : Type}

def stop (transceiver : TpTransceiver Channel) : TpTransceiver Channel :=
  { receivers := transceiver.receivers.map fun receiver =>
      if receiver.isActive then receiver.stop else receiver
    busy := false
    cyclicTimeout := if transceiver.busy then false else transceiver.cyclicTimeout }

/-- The receiver of a segment: the first one that matches, or the first idle one. -/
def findReceiver [DecidableEq Channel] (transceiver : TpTransceiver Channel) (channel : Channel)
    (message : SomeIpMessage) : Option Nat :=
  (transceiver.receivers.findIdx? fun receiver => receiver.isMatching channel message).or
    (transceiver.receivers.findIdx? fun receiver => !receiver.isActive)

/-- The segment is handed to the receiver with this index. -/
def receiveAt (transceiver : TpTransceiver Channel) (index : Nat)
    (receiver : TpReceiver Channel) (channel : Channel) (message : SomeIpMessage)
    (time : UInt32) : TpTransceiver Channel × Option SomeIpMessage :=
  let started := if receiver.isActive then receiver else receiver.start channel message
  let result := started.receive message time
  if result.1 = .TP_PENDING then
    ({ receivers := transceiver.receivers.set index result.2.1
       busy := true
       cyclicTimeout := if transceiver.busy then transceiver.cyclicTimeout else true },
      result.2.2)
  else
    let receivers := transceiver.receivers.set index result.2.1.stop
    let busy := transceiver.busy && receivers.any TpReceiver.isActive
    ({ receivers
       busy
       cyclicTimeout :=
        if transceiver.busy ∧ busy = false then false else transceiver.cyclicTimeout },
      result.2.2)

/-- The transceiver, and the message that is complete. -/
def receiveTpMessage [DecidableEq Channel] (transceiver : TpTransceiver Channel)
    (channel : Channel) (message : SomeIpMessage) (time : UInt32) :
    TpTransceiver Channel × Option SomeIpMessage :=
  match transceiver.findReceiver channel message with
  | none => (transceiver, none)
  | some index =>
    match transceiver.receivers[index]? with
    | none => (transceiver, none)
    | some receiver => transceiver.receiveAt index receiver channel message time

/-- Whether the receiver with this index holds a part of a message. -/
def isWaiting (transceiver : TpTransceiver Channel) (index : Nat) : Bool :=
  transceiver.receivers[index]?.any TpReceiver.isActive

/-- The cyclic function, which was scheduled once. -/
def cyclic (transceiver : TpTransceiver Channel) (time : UInt32) : TpTransceiver Channel :=
  let busy := transceiver.receivers.any fun receiver =>
    !receiver.isExpired time && receiver.isActive
  { receivers := transceiver.receivers.map fun receiver =>
      if receiver.isExpired time then receiver.stop else receiver
    busy
    cyclicTimeout := busy }

theorem isWaiting_of_holds {transceiver : TpTransceiver Channel} {index : Nat}
    {receiver : TpReceiver Channel} (holds : transceiver.receivers[index]? = some receiver) :
    transceiver.isWaiting index = receiver.isActive := by
  rw [isWaiting, holds, Option.any_some]

/-- The receiver a segment is handed to: it matches, or it is idle. -/
theorem findReceiver_some [DecidableEq Channel] {transceiver : TpTransceiver Channel}
    {channel : Channel} {message : SomeIpMessage} {index : Nat}
    (found : transceiver.findReceiver channel message = some index) :
    ∃ receiver, transceiver.receivers[index]? = some receiver ∧
      (receiver.isMatching channel message = true ∨ receiver.isActive = false) := by
  rw [findReceiver, Option.or_eq_some_iff] at found
  rcases found with matching | ⟨-, idle⟩
  · obtain ⟨inside, holds, -⟩ := List.findIdx?_eq_some_iff_getElem.mp matching
    exact ⟨_, List.getElem?_eq_getElem inside, Or.inl holds⟩
  · obtain ⟨inside, holds, -⟩ := List.findIdx?_eq_some_iff_getElem.mp idle
    exact ⟨_, List.getElem?_eq_getElem inside, Or.inr (by simpa using holds)⟩

/-- The receiver that a segment is handed to. -/
def started (receiver : TpReceiver Channel) (channel : Channel) (message : SomeIpMessage) :
    TpReceiver Channel :=
  if receiver.isActive then receiver else receiver.start channel message

/-- A receiver after a segment: it waits on, or it is stopped. -/
def settled (receiver : TpReceiver Channel) (message : SomeIpMessage) (time : UInt32) :
    TpReceiver Channel :=
  if (receiver.receive message time).1 = .TP_PENDING then (receiver.receive message time).2.1
  else (receiver.receive message time).2.1.stop

theorem receiveTpMessage_of_none [DecidableEq Channel] {transceiver : TpTransceiver Channel}
    {channel : Channel} {message : SomeIpMessage}
    (none : transceiver.findReceiver channel message = none) (time : UInt32) :
    transceiver.receiveTpMessage channel message time = (transceiver, .none) := by
  rw [receiveTpMessage, none]

/-- One receiver is replaced, and it decides about the message. -/
theorem receiveTpMessage_of_some [DecidableEq Channel] {transceiver : TpTransceiver Channel}
    {channel : Channel} {message : SomeIpMessage} {index : Nat} {receiver : TpReceiver Channel}
    (found : transceiver.findReceiver channel message = some index)
    (holds : transceiver.receivers[index]? = some receiver) (time : UInt32) :
    (transceiver.receiveTpMessage channel message time).1.receivers =
        transceiver.receivers.set index (settled (started receiver channel message) message time) ∧
      (transceiver.receiveTpMessage channel message time).2 =
        ((started receiver channel message).receive message time).2.2 := by
  simp only [receiveTpMessage, found, holds, receiveAt, settled]
  rw [← started]
  split
  · exact ⟨rfl, rfl⟩
  · exact ⟨rfl, rfl⟩

theorem isActive_started (receiver : TpReceiver Channel) (channel : Channel)
    (message : SomeIpMessage) : (started receiver channel message).isActive = true := by
  rw [started]
  split
  · assumption
  · rfl

end TpTransceiver

/-- What happens to a transceiver from outside. -/
inductive TpEvent (Channel : Type)
  | receiveTpMessage (channel : Channel) (message : SomeIpMessage) (time : UInt32)
  | cyclic (time : UInt32)
  | stop

end OpenBsw.Someip
