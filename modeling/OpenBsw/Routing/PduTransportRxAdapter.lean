import OpenBsw.Data.Span
import OpenBsw.Data.Word32

/-!
# Extraction of PDUs from transport frames

A frame holds messages one after another, each with a header of an id and a
length.  The adapter reads the frames of a reader and returns the PDUs that
its table configures for the ids, one in each call of `peek` behind a
`release`.  A result `none` is a failed assertion, a read outside of a view or
a loop that has not come to an end.  `size_t` has 32 bits.
-/

namespace OpenBsw.Routing

open OpenBsw.Bytes

/-- `ErrorHandler::StatusCode`. -/
inductive StatusCode where
  | OK
  | INVALID_MESSAGE_HEADER_SIZE
  | UNKNOWN_MESSAGE_ID
  | INVALID_PARSED_LENGTH
  | INVALID_MESSAGE_LENGTH
  | INVALID_PAYLOAD_LENGTH
  | MEM_ALLOCATION_FAILURE
  | INVALID_REMOTE_IP_ADDRESS
  deriving DecidableEq

structure RxAdapterTable where
  firstId : UInt32 := 0
  messageIds : List UInt32
  messageLengths : List UInt32
  pduLengthsOffsets : List UInt32
  pduLengths : List UInt32
  pduOffsets : List UInt32

/-- The reader that the frames come from, with the frames it has released. -/
structure InputReader where
  frames : List (List UInt8) := []
  released : List (List UInt8) := []

namespace InputReader

def peek (reader : InputReader) : List UInt8 :=
  reader.frames.headD []

def release (reader : InputReader) : InputReader :=
  match reader.frames with
  | [] => reader
  | frame :: frames => { frames, released := reader.released ++ [frame] }

end InputReader

/-- Counters aside.  The calls of the error handler are recorded with the message id that it
reads, which is `none` if it reads the id out of a released frame. -/
structure PduTransportRxAdapter where
  inputReader : InputReader := {}
  errors : List (StatusCode × Option Nat) := []
  currentFrame : List UInt8 := []
  currentMessageSize : Nat := 0
  currentMessageIndex : Nat := 0
  currentPduIndex : Nat := 0
  currentPdu : List UInt8 := []

def MESSAGE_HEADER_SIZE : Nat := 8

/-- The message id that `ErrorHandler` reports. -/
def reportedMessageId (statusCode : StatusCode) (message : List UInt8) : Option Nat :=
  if statusCode ≠ .INVALID_MESSAGE_HEADER_SIZE ∧ 4 ≤ message.length then do
    let (messageId, _) ← Span.takeNumber 4 message
    return messageId
  else
    return 0

namespace PduTransportRxAdapter

variable (table : RxAdapterTable) (maxElementSize : Nat)

/-- The length of the messages with an index, zero if there are no lengths. -/
def configuredLength (index : Nat) : Option Nat :=
  if table.messageLengths.isEmpty then some 0
  else (table.messageLengths[index]?).map UInt32.toNat

/-- The index of a message in the table. -/
def lookup (message : List UInt8) : Option (Except StatusCode Nat) := do
  let (messageId, message) ← Span.takeNumber 4 message
  match table.messageIds.findIdx? fun known => known.toNat == messageId with
  | none => return .error .UNKNOWN_MESSAGE_ID
  | some index =>
    let (parsedPayloadLength, _) ← Span.takeNumber 4 message
    let messageLength ← configuredLength table index
    if messageLength ≠ 0 ∧ parsedPayloadLength ≠ messageLength then
      return .error .INVALID_MESSAGE_LENGTH
    return .ok index

/-- The size of the message that the frame starts with, and its index in the table. -/
def processMessage (frame : List UInt8) : Option (Nat × Except StatusCode Nat) :=
  if frame.length < MESSAGE_HEADER_SIZE then
    return (frame.length, .error .INVALID_MESSAGE_HEADER_SIZE)
  else do
    let header ← Span.first frame MESSAGE_HEADER_SIZE
    let (_, header) ← Span.takeNumber 4 header
    let (parsedPayloadLength, _) ← Span.takeNumber 4 header
    let messageSize := Word32.add MESSAGE_HEADER_SIZE parsedPayloadLength
    if messageSize > frame.length then
      return (frame.length, .error .INVALID_PARSED_LENGTH)
    let (message, _) ← Span.take frame messageSize
    return (messageSize, ← lookup table message)

/-- The PDU of the message, with its header, if it fits. -/
def extract (message : List UInt8) (channelSpecificPduId : Nat) :
    Option (Option (List UInt8)) := do
  let messagePayload ← Span.subspan message MESSAGE_HEADER_SIZE
  let pduOffset := (← table.pduOffsets[channelSpecificPduId]?).toNat
  let pduLength := (← table.pduLengths[channelSpecificPduId]?).toNat
  if Word32.add pduOffset pduLength > messagePayload.length then
    return none
  -- advancing a view stops at its end
  let (payload, _) ← Span.take (messagePayload.drop pduOffset) pduLength
  if Word32.add MESSAGE_HEADER_SIZE payload.length > maxElementSize then
    return none
  return some (bigEndian 4 (Word32.add table.firstId.toNat channelSpecificPduId) ++
    bigEndian 4 payload.length ++ payload)

/-- The loop over the `count` PDUs from `index` on, up to the first that is extracted. -/
def extractFrom (message : List UInt8) (offset : Nat) :
    Nat → Nat → Option (Nat × Option (List UInt8))
  | 0, index => some (index, none)
  | count + 1, index => do
    match ← extract table maxElementSize message (Word32.add offset index) with
    | some pdu => return (index + 1, some pdu)
    | none => extractFrom message offset count (index + 1)

/-- Go behind the current message, and on to the next frame at the end. -/
def advanceFrame (adapter : PduTransportRxAdapter) : PduTransportRxAdapter :=
  let currentFrame := adapter.currentFrame.drop adapter.currentMessageSize
  if currentFrame.isEmpty then
    let inputReader := adapter.inputReader.release
    { adapter with inputReader, currentFrame := inputReader.peek }
  else
    { adapter with currentFrame }

/-- Record a call of the error handler. -/
def report (adapter : PduTransportRxAdapter) (statusCode : StatusCode) (messageId : Option Nat) :
    PduTransportRxAdapter :=
  { adapter with errors := adapter.errors ++ [(statusCode, messageId)] }

/-- Go on behind the PDUs that were tried, the last of which may have been extracted. -/
def moveOn (adapter : PduTransportRxAdapter) (numberOfPdus currentPduIndex : Nat)
    (pdu : Option (List UInt8)) : PduTransportRxAdapter :=
  let currentPdu := pdu.getD adapter.currentPdu
  if currentPduIndex = numberOfPdus then
    advanceFrame { adapter with currentPduIndex := 0, currentPdu }
  else
    { adapter with currentPduIndex, currentPdu }

/-- The second part of a round of the loop in `peek`: the PDUs of a known message.  The result
tells whether one was extracted. -/
def extractPdus (adapter : PduTransportRxAdapter) (isNewMessage : Bool) :
    Option (PduTransportRxAdapter × Bool) := do
  let offset := (← table.pduLengthsOffsets[adapter.currentMessageIndex]?).toNat
  let nextOffset := (← table.pduLengthsOffsets[adapter.currentMessageIndex + 1]?).toNat
  let numberOfPdus := Word32.sub nextOffset offset
  let message ← Span.first adapter.currentFrame adapter.currentMessageSize
  let (currentPduIndex, pdu) ← extractFrom table maxElementSize message offset
    (numberOfPdus - adapter.currentPduIndex) adapter.currentPduIndex
  let advanced := moveOn adapter numberOfPdus currentPduIndex pdu
  if pdu.isSome then
    return (advanced, true)
  if isNewMessage then
    let messageId ← reportedMessageId .INVALID_PAYLOAD_LENGTH message
    -- the message lies in a frame that may have been released above
    let isReleased :=
      advanced.inputReader.released.length ≠ adapter.inputReader.released.length
    return (advanced.report .INVALID_PAYLOAD_LENGTH (if isReleased then none else some messageId),
      false)
  return (advanced, false)

/-- A round of the loop in `peek`. -/
def processFrame (adapter : PduTransportRxAdapter) : Option (PduTransportRxAdapter × Bool) :=
  if adapter.currentPduIndex = 0 then do
    let (currentMessageSize, found) ← processMessage table adapter.currentFrame
    let adapter := { adapter with currentMessageSize }
    match found with
    | .error statusCode =>
      let message ← Span.first adapter.currentFrame currentMessageSize
      let messageId ← reportedMessageId statusCode message
      return (advanceFrame (adapter.report statusCode (some messageId)), false)
    | .ok currentMessageIndex =>
      extractPdus table maxElementSize { adapter with currentMessageIndex } true
  else
    extractPdus table maxElementSize adapter false

/-- The loop in `peek`, in at most `fuel` rounds. -/
def peekLoop : Nat → PduTransportRxAdapter → Option (PduTransportRxAdapter × List UInt8)
  | 0, _ => none
  | fuel + 1, adapter =>
    if adapter.currentFrame.isEmpty then
      return (adapter, [])
    else do
      let (adapter, isExtracted) ← processFrame table maxElementSize adapter
      if isExtracted then
        return (adapter, adapter.currentPdu)
      peekLoop fuel adapter

def peek (adapter : PduTransportRxAdapter) :
    Option (PduTransportRxAdapter × List UInt8) :=
  if adapter.currentPdu ≠ [] then
    return (adapter, adapter.currentPdu)
  else
    let adapter :=
      if adapter.currentFrame.isEmpty then
        { adapter with currentFrame := adapter.inputReader.peek }
      else adapter
    -- each round consumes a byte
    peekLoop table maxElementSize ((adapter.inputReader.frames.map List.length).sum + 1) adapter

def release (adapter : PduTransportRxAdapter) : PduTransportRxAdapter :=
  { adapter with currentPdu := [] }

end PduTransportRxAdapter

end OpenBsw.Routing
