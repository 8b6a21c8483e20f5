import OpenBsw.Docan.Datalink.FrameCodec

/-!
# Protocol handler for a received message

`DoCanMessageReceiveProtocolHandler` follows the reception of one message:
allocation of the transport message, flow control and the sequence of
consecutive frames.  Each operation returns the new handler and the result the
receiver evaluates.
-/

namespace OpenBsw.Docan

/-! ## States and results -/

inductive ReceiveState where
  | allocate
  | wait
  | send
  | processing
  | done
  deriving DecidableEq, Repr

/-- The enumerator values, which serve as parameters of messages. -/
def ReceiveState.code : ReceiveState → UInt8
  | allocate => 0
  | wait => 1
  | send => 2
  | processing => 3
  | done => 4

inductive ReceiveTimeout where
  | none
  | rx
  | allocate
  deriving DecidableEq, Repr

inductive ReceiveMessage where
  | none
  | illegalState
  | allocationRetryCountExceeded
  | rxTimeoutExpired
  | badSequenceNumber
  | processingFailed
  deriving DecidableEq, Repr

structure ReceiveResult where
  transition : Bool
  message : ReceiveMessage := .none
  param : UInt8 := 0
  deriving DecidableEq, Repr

structure MessageReceiveProtocolHandler where
  frameIndex : Nat
  frameCount : Nat
  state : ReceiveState
  timeout : ReceiveTimeout
  blockFrameIndex : UInt8
  allocateRetryCount : UInt8
  isAllocating : Bool
  deriving DecidableEq, Repr

namespace MessageReceiveProtocolHandler

/-! ## Operations -/

/-- The constructor of the handler. -/
def init (frameCount : Nat) : MessageReceiveProtocolHandler where
  frameIndex := 1
  frameCount := frameCount
  state := .allocate
  timeout := .none
  blockFrameIndex := 0
  allocateRetryCount := 0
  isAllocating := true

variable (handler : MessageReceiveProtocolHandler)

/-- Whether the next flow control frame should be a wait frame. -/
def isFlowControlWait : Bool :=
  decide (0 < handler.allocateRetryCount) && decide (1 < handler.frameCount)

def setState (state : ReceiveState) (timeout : ReceiveTimeout) :
    MessageReceiveProtocolHandler × ReceiveResult :=
  ({ handler with state, timeout }, { transition := true })

def setDone (message : ReceiveMessage) (param : UInt8) :
    MessageReceiveProtocolHandler × ReceiveResult :=
  ({ handler with state := .done, timeout := .none, isAllocating := false },
    { transition := true, message, param })

def cancel (message : ReceiveMessage) : MessageReceiveProtocolHandler × ReceiveResult :=
  handler.setDone message 0

def shutdown : MessageReceiveProtocolHandler × ReceiveResult :=
  if handler.state = .processing then (handler, { transition := false })
  else handler.cancel .none

def allocated (success : Bool) (maxRetryCount : UInt8) :
    MessageReceiveProtocolHandler × ReceiveResult :=
  if handler.isAllocating = false then
    (handler, { transition := true, message := .illegalState, param := handler.state.code })
  else if success then
    { handler with isAllocating := false, allocateRetryCount := 0 }.setState
      (if handler.frameCount = 1 then .processing else .send) .none
  else
    let counted := { handler with allocateRetryCount := handler.allocateRetryCount + 1 }
    if handler.frameCount = 1 then
      if 1 < counted.allocateRetryCount then counted.setDone .allocationRetryCountExceeded 0
      else counted.setState .wait .allocate
    else if maxRetryCount < counted.allocateRetryCount then
      counted.setDone .allocationRetryCountExceeded 0
    else counted.setState .send .none

def frameSent (success : Bool) : MessageReceiveProtocolHandler × ReceiveResult :=
  if handler.state ≠ .send then
    (handler, { transition := true, message := .illegalState, param := handler.state.code })
  else if success then
    handler.setState .wait (if handler.isFlowControlWait then .allocate else .rx)
  else (handler, { transition := false })

def consecutiveFrameReceived (layer : DataLinkLayer) (frameIndex maxBlockSize : UInt8) :
    MessageReceiveProtocolHandler × ReceiveResult :=
  if handler.state ≠ .wait ∨ handler.timeout ≠ .rx then (handler, { transition := false })
  else if handler.frameIndex &&& 0xF ≠ frameIndex.toNat then
    handler.setDone .badSequenceNumber frameIndex
  else
    let advanced := { handler with frameIndex := layer.frameIndex (handler.frameIndex + 1) }
    if advanced.frameIndex = advanced.frameCount then advanced.setState .processing .none
    else if 0 < maxBlockSize then
      let counted := { advanced with blockFrameIndex := advanced.blockFrameIndex + 1 }
      if counted.blockFrameIndex = maxBlockSize then
        { counted with blockFrameIndex := 0 }.setState .send .none
      else counted.setState .wait .rx
    else advanced.setState .wait .rx

def processed (success : Bool) : MessageReceiveProtocolHandler × ReceiveResult :=
  handler.setDone (if success then .none else .processingFailed) 0

def expired : MessageReceiveProtocolHandler × ReceiveResult :=
  match handler.timeout with
  | .rx => handler.setDone .rxTimeoutExpired 0
  | .allocate => handler.setState .allocate .none
  | .none => (handler, { transition := false })

end MessageReceiveProtocolHandler

end OpenBsw.Docan
