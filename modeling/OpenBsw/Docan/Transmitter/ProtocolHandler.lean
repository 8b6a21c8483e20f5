import OpenBsw.Docan.Datalink.FrameCodec
import OpenBsw.Transition.System

/-!
# Protocol handler for a transmitted message

`DoCanMessageTransmitProtocolHandler` decides when the next frame of a message
may be sent.  Each operation returns the new handler together with the result
the transmitter evaluates.  Frame indices wrap as the frame index type does,
the block end included.
-/

namespace OpenBsw.Docan

/-! ## States and results -/

inductive TransmitState where
  | initialized
  | send
  | wait
  | success
  | fail
  deriving DecidableEq, Repr

/-- The enumerator values, which serve as parameters of messages. -/
def TransmitState.code : TransmitState → UInt8
  | initialized => 0
  | send => 1
  | wait => 2
  | success => 3
  | fail => 4

inductive TransmitTimeout where
  | none
  | txCallback
  | flowControl
  | separationTime
  deriving DecidableEq, Repr

inductive TransmitMessage where
  | none
  | illegalState
  | txCallbackTimeoutExpired
  | flowControlWaitCountExceeded
  | flowControlOverflow
  | flowControlTimeoutExpired
  | flowControlInvalid
  deriving DecidableEq, Repr

/-- Result of an event; the two flags stand for the bits of the action set. -/
structure TransmitResult where
  transition : Bool
  storeSeparationTime : Bool := false
  cancelSend : Bool := false
  message : TransmitMessage := .none
  param : UInt8 := 0
  deriving DecidableEq, Repr

/-- The private sub-state that says what is known about flow control. -/
inductive FlowControl where
  | unexpected
  | expected
  | receivedCts
  | receivedWait
  deriving DecidableEq, Repr

structure MessageTransmitProtocolHandler where
  frameIndex : Nat
  frameCount : Nat
  blockEnd : Nat
  state : TransmitState
  timeout : TransmitTimeout
  flowControl : FlowControl
  errorMessage : TransmitMessage
  flowControlWaitCount : UInt8
  hasMinSeparationTime : Bool
  deriving DecidableEq, Repr

namespace MessageTransmitProtocolHandler

/-! ## Operations -/

/-- The constructor of the handler. -/
def init (frameCount : Nat) : MessageTransmitProtocolHandler where
  frameIndex := 0
  frameCount := frameCount
  blockEnd := 1
  state := .initialized
  timeout := .none
  flowControl := .unexpected
  errorMessage := .none
  flowControlWaitCount := 0
  hasMinSeparationTime := false

def isDone (handler : MessageTransmitProtocolHandler) : Bool :=
  handler.state == .success || handler.state == .fail

def setSend (handler : MessageTransmitProtocolHandler) :
    MessageTransmitProtocolHandler × TransmitResult :=
  ({ handler with state := .send, flowControl := .unexpected, timeout := .txCallback },
    { transition := true })

def setState (handler : MessageTransmitProtocolHandler) (state : TransmitState)
    (flowControl : FlowControl) (timeout : TransmitTimeout) :
    MessageTransmitProtocolHandler × TransmitResult :=
  ({ handler with state, flowControl, timeout }, { transition := true })

/-- A pending send is cancelled along with the transfer. -/
def setFailed (handler : MessageTransmitProtocolHandler) (message : TransmitMessage)
    (param : UInt8) : MessageTransmitProtocolHandler × TransmitResult :=
  ({ handler with
      state := .fail, flowControl := .unexpected, timeout := .none, errorMessage := message },
    { transition := true
      cancelSend := handler.state == .wait && handler.timeout == .txCallback
      message, param })

def cancel (handler : MessageTransmitProtocolHandler) (message : TransmitMessage) :
    MessageTransmitProtocolHandler × TransmitResult :=
  handler.setFailed message 0

def start (handler : MessageTransmitProtocolHandler) :
    MessageTransmitProtocolHandler × TransmitResult :=
  handler.setSend

section Indices

variable (layer : DataLinkLayer) (handler : MessageTransmitProtocolHandler)

def frameSending : MessageTransmitProtocolHandler × TransmitResult :=
  if handler.state = .send then
    let nextFrameIndex := layer.frameIndex (handler.frameIndex + 1)
    if nextFrameIndex = handler.blockEnd ∧ nextFrameIndex ≠ handler.frameCount then
      { handler with flowControlWaitCount := 0 }.setState .wait .expected .txCallback
    else handler.setState .wait .unexpected .txCallback
  else handler.setFailed .illegalState handler.state.code

/-- The continuation of `framesSent` once the frame index is updated. -/
def afterFramesSent : MessageTransmitProtocolHandler × TransmitResult :=
  match handler.flowControl with
  | .receivedCts => handler.setSend
  | .receivedWait | .expected => handler.setState .wait handler.flowControl .flowControl
  | .unexpected =>
    if handler.hasMinSeparationTime then handler.setState .wait .unexpected .separationTime
    else handler.setSend

def framesSent (frameCount : Nat) : MessageTransmitProtocolHandler × TransmitResult :=
  if handler.state ≠ .wait ∨ handler.timeout ≠ .txCallback then
    (handler, { transition := true, message := .illegalState, param := handler.state.code })
  else
    let frameIndex := layer.frameIndex (handler.frameIndex + frameCount)
    if handler.frameCount ≤ frameIndex then
      { handler with frameIndex }.setState .success .unexpected .none
    else if 1 < frameCount ∧ handler.blockEnd ≤ frameIndex then
      -- frames of a whole block are confirmed at once
      afterFramesSent { handler with frameIndex := handler.blockEnd, flowControl := .expected }
    else afterFramesSent { handler with frameIndex }

def handleFlowControl (flowStatus : FlowStatus) (blockSize : UInt8)
    (hasMinSeparationTime : Bool) (maxWaitCount : UInt8) :
    MessageTransmitProtocolHandler × TransmitResult :=
  if handler.flowControl ≠ .expected then (handler, { transition := false })
  else
    match flowStatus with
    | .cts =>
      let blockEnd :=
        if 0 < blockSize then layer.frameIndex (handler.blockEnd + blockSize.toNat)
        else handler.frameCount
      let cleared := { handler with blockEnd, hasMinSeparationTime }
      if handler.timeout = .flowControl then
        (cleared.setSend.1, { transition := true, storeSeparationTime := true })
      else
        ({ cleared with flowControl := .receivedCts },
          { transition := false, storeSeparationTime := true })
    | .wait =>
      if handler.flowControlWaitCount < maxWaitCount then
        let counted :=
          { handler with flowControlWaitCount := handler.flowControlWaitCount + 1 }
        if handler.timeout = .flowControl then counted.setState .wait .expected .flowControl
        else ({ counted with flowControl := .receivedWait }, { transition := false })
      else handler.setFailed .flowControlWaitCountExceeded 0
    | .ovflw => handler.setFailed .flowControlOverflow 0
    | .other _ => handler.setFailed .flowControlInvalid 0

end Indices

def expired (handler : MessageTransmitProtocolHandler) :
    MessageTransmitProtocolHandler × TransmitResult :=
  match handler.timeout with
  | .txCallback => handler.setFailed .txCallbackTimeoutExpired 0
  | .flowControl => handler.setFailed .flowControlTimeoutExpired 0
  | .separationTime => handler.setSend
  | .none => (handler, { transition := false })

end MessageTransmitProtocolHandler

end OpenBsw.Docan
