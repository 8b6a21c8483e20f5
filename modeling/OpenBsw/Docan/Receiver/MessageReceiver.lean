import OpenBsw.Docan.Common
import OpenBsw.Docan.Receiver.ProtocolHandler
import OpenBsw.Transport.TransportMessage

/-!
# Reception of a single transport message

`DoCanMessageReceiver` adds to the protocol handler what belongs to one
reception: the connection, the transport message with the data received so
far, the copy of the first frame's data and a timer.  Message sizes and frame
indices have the default types of the addressing classes.
-/

namespace OpenBsw.Docan

open OpenBsw.Transport

/-! ## Message receivers -/

/-- `block` is the pool block the receiver lives in.  `accepted` records the
sequence numbers and data of the consecutive frames that have advanced the
protocol handler. -/
structure MessageReceiver (Address : Type) where
  handler : MessageReceiveProtocolHandler
  connection : Connection Address
  message : Option TransportMessage := none
  firstFrameData : List UInt8
  timer : UInt32 := 0
  messageSize : Nat
  consecutiveFrameDataSize : Nat
  isTimerSet : Bool := false
  maxBlockSize : UInt8
  encodedMinSeparationTime : UInt8
  blocked : Bool
  block : Nat
  accepted : List (UInt8 × List UInt8) := []

namespace MessageReceiver

variable {Address : Type} (receiver : MessageReceiver Address)

def receptionAddress : Address :=
  receiver.connection.dataLinkAddressPair.receptionAddress

def transmissionAddress : Address :=
  receiver.connection.dataLinkAddressPair.transmissionAddress

def isDone : Bool :=
  receiver.handler.state = .done

/-- Called with the result of an allocation try. -/
def allocated (message : Option TransportMessage) (maxRetryCount : UInt8) :
    MessageReceiver Address × ReceiveResult :=
  let (handler, result) := receiver.handler.allocated message.isSome maxRetryCount
  match message with
  | some message =>
    if handler.isAllocating then ({ receiver with handler }, result)
    else
      ({ receiver with handler, message := some (message.append receiver.firstFrameData) },
        result)
  | none => ({ receiver with handler }, result)

def isConsecutiveFrameExpected : Bool :=
  receiver.message.isSome

/-- The size of the next consecutive frame's data for a message with the given
number of valid bytes. -/
def expectedConsecutiveFrameDataSize (validBytes : Nat) : Nat :=
  if validBytes + receiver.consecutiveFrameDataSize ≤ receiver.messageSize then
    receiver.consecutiveFrameDataSize
  else frameSize (receiver.messageSize + 2 ^ 16 - validBytes)

/-- The message is the one of the receiver, which is not null when this is
called. -/
def consecutiveFrameReceived (message : TransportMessage) (sequenceNumber : UInt8)
    (expectedSize : Nat) (data : List UInt8) : MessageReceiver Address × ReceiveResult :=
  let (handler, result) :=
    receiver.handler.consecutiveFrameReceived .standard sequenceNumber receiver.maxBlockSize
  let accepted :=
    if handler.frameIndex = receiver.handler.frameIndex then receiver.accepted
    else receiver.accepted ++ [(sequenceNumber, data)]
  if handler.state = .done then ({ receiver with handler, accepted }, result)
  else
    ({ receiver with
        handler, accepted, message := some (message.append (data.take expectedSize)) },
      result)

def setTimer (nextExpiryUs : UInt32) : MessageReceiver Address :=
  { receiver with timer := nextExpiryUs, isTimerSet := true }

/-- Less than or equal. -/
def timerExpired (nowUs : UInt32) : Bool :=
  timerLess receiver.timer (nowUs + 1)

/-- Whether the timer has expired, which also stops it. -/
def updateTimer (nowUs : UInt32) : MessageReceiver Address × Bool :=
  if receiver.isTimerSet && receiver.timerExpired nowUs then
    ({ receiver with isTimerSet := false }, true)
  else (receiver, false)

def setBlocked (blocked : Bool) : MessageReceiver Address :=
  { receiver with blocked }

/-- `operator<`: receivers without a timer come last. -/
def less (other : MessageReceiver Address) : Bool :=
  if receiver.isTimerSet = false then false
  else if other.isTimerSet = false then true
  else timerLess receiver.timer other.timer

end MessageReceiver

end OpenBsw.Docan
