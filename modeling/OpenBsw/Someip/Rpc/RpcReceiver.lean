import OpenBsw.Someip.Tp.TpTransceiver

/-!
# Received RPC messages

A datagram may hold several messages.  `received` walks over them by their
length fields and hands each one to the handlers or to the transport protocol.
What it calls is a parameter that may change its surroundings; the calls are
recorded in the order in which they are made.  A read outside of a span has no
result.
-/

namespace OpenBsw.Someip

open OpenBsw.Bytes

/-! ## Reading a message -/

namespace SomeIpMessage

def OFFSET_MESSAGE_ID : Nat := 0
def OFFSET_LENGTH : Nat := 4
def OFFSET_REQUEST_ID : Nat := 8
def OFFSET_SESSION_ID : Nat := 10
def OFFSET_PROTOCOL_VERSION : Nat := 12
def OFFSET_INTERFACE_VERSION : Nat := 13
def OFFSET_MESSAGE_TYPE : Nat := 14
def OFFSET_RETURN_CODE : Nat := 15

/-- A part of a span. -/
def subspan (span : List UInt8) (offset count : Nat) : Option (List UInt8) :=
  if offset + count ≤ span.length then some (slice span offset count) else none

def readNumber (span : List UInt8) (offset width : Nat) : Option Nat :=
  (subspan span offset width).map ofBigEndian

def readHeader (span : List UInt8) : Option SomeIpHeader := do
  let messageId ← readNumber span OFFSET_MESSAGE_ID 4
  let clientId ← readNumber span OFFSET_REQUEST_ID 2
  let sessionId ← readNumber span OFFSET_SESSION_ID 2
  let protocolVersion ← readNumber span OFFSET_PROTOCOL_VERSION 1
  let interfaceVersion ← readNumber span OFFSET_INTERFACE_VERSION 1
  let messageType ← readNumber span OFFSET_MESSAGE_TYPE 1
  let returnCode ← readNumber span OFFSET_RETURN_CODE 1
  some {
    messageId := UInt32.ofNat messageId
    clientId := UInt16.ofNat clientId
    sessionId := UInt16.ofNat sessionId
    protocolVersion := UInt8.ofNat protocolVersion
    interfaceVersion := UInt8.ofNat interfaceVersion
    rawMessageType := UInt8.ofNat messageType
    returnCode := UInt8.ofNat returnCode }

/-- `getPayloadLength`, from the length field of a span. -/
def readPayloadLength (span : List UInt8) : Option Nat :=
  (readNumber span OFFSET_LENGTH 4).map fun length =>
    if lengthCorrection.toNat ≤ length then length - lengthCorrection.toNat else 0

/-- The message in the front of a span. -/
def readMessage (span : List UInt8) : Option SomeIpMessage := do
  let header ← readHeader span
  let payloadLength ← readPayloadLength span
  let payload ← subspan span OFFSET_PAYLOAD payloadLength
  some { header := header, payload := payload }

end SomeIpMessage

namespace SomeIpHeader

def REQUEST_NO_RETURN : UInt8 := 0x01
def NOTIFICATION_TYPE : UInt8 := 0x02
def EXCEPTION : UInt8 := 0x81

def SOMEIP_E_OK : UInt8 := 0x00
def SOMEIP_E_NOT_OK : UInt8 := 0x01
def SOMEIP_E_UNKNOWN_SERVICE : UInt8 := 0x02
def SOMEIP_E_UNKNOWN_METHOD : UInt8 := 0x03
def SOMEIP_E_WRONG_PROTOCOL_VERSION : UInt8 := 0x07
def SOMEIP_E_WRONG_INTERFACE_VERSION : UInt8 := 0x08
def SOMEIP_E_MALFORMED_MESSAGE : UInt8 := 0x09
def SOMEIP_E_WRONG_MESSAGE_TYPE : UInt8 := 0x0A

def PROTOCOL_VERSION : UInt8 := 0x01

def MAGIC_COOKIE_CLIENT_MESSAGE_ID : UInt32 := 0xFFFF0000
def MAGIC_COOKIE_SERVER_MESSAGE_ID : UInt32 := 0xFFFF8000
def MAGIC_COOKIE_REQUEST_ID : Nat := 0xDEADBEEF

def getRequestId (header : SomeIpHeader) : Nat :=
  header.clientId.toNat * 2 ^ 16 + header.sessionId.toNat

def isMagicCookie (header : SomeIpHeader) : Bool :=
  (header.messageId == MAGIC_COOKIE_CLIENT_MESSAGE_ID ||
      header.messageId == MAGIC_COOKIE_SERVER_MESSAGE_ID) &&
    header.getRequestId == MAGIC_COOKIE_REQUEST_ID

/-- An incoming error message, which is dropped. -/
def isError (header : SomeIpHeader) : Bool :=
  header.returnCode != SOMEIP_E_OK && header.rawMessageType != EXCEPTION

/-- The sender of the message expects an answer. -/
def isAnswered (header : SomeIpHeader) : Bool :=
  header.rawMessageType != REQUEST_NO_RETURN && header.rawMessageType != NOTIFICATION_TYPE

/-- Nothing is called for the message. -/
def isSilent (header : SomeIpHeader) : Bool :=
  header.isError ||
    if header.protocolVersion ≠ PROTOCOL_VERSION then !header.isAnswered else header.isMagicCookie

/-- The message that `sendError` answers. -/
def errorMessage (header : SomeIpHeader) (returnCode : UInt8) : SomeIpMessage where
  header :=
    { messageId := header.messageId
      clientId := header.clientId
      sessionId := header.sessionId
      protocolVersion := PROTOCOL_VERSION
      interfaceVersion := header.interfaceVersion
      rawMessageType := EXCEPTION
      returnCode := returnCode }
  payload := []

end SomeIpHeader

namespace ITpTransceiver

def SD_L4_PROTO_UDP : UInt8 := 0x11

def isIncomingTpMessage (proto rawMessageType : UInt8) : Bool :=
  proto == SD_L4_PROTO_UDP &&
    rawMessageType &&& TP_MESSAGE_TYPE_BIT_MASK == TP_MESSAGE_TYPE_BIT_MASK

end ITpTransceiver

/-! ## The receiver -/

inductive RpcHandlerErrorCode where
  | RPC_HANDLER_OK
  | RPC_HANDLER_ERROR
  | RPC_HANDLER_UNKNOWN_SERVICE
  | RPC_HANDLER_UNKNOWN_METHOD
  | RPC_HANDLER_WRONG_INTERFACE_VERSION
  | RPC_HANDLER_MALFORMED_MESSAGE
  | RPC_HANDLER_WRONG_MESSAGE_TYPE
  | RPC_HANDLER_WRONG_MESSAGE_TYPE_REQUEST_RESPONSE
  | RPC_HANDLER_WRONG_MESSAGE_TYPE_FIRE_AND_FORGET
  | RPC_HANDLER_NOT_RESPONSIBLE
  deriving DecidableEq

/-- A call that the receiver makes. -/
inductive RpcCall where
  | priorityRpcHandler (message : SomeIpMessage)
  | rpcHandler (message : SomeIpMessage)
  | receiveTpMessage (message : SomeIpMessage)
  | send (response : SomeIpMessage)
  | onError (header : SomeIpHeader) (returnCode : UInt8)
  deriving DecidableEq

/-- What the transport protocol does with a segment: it may give complete messages to the
receiver before it returns. -/
inductive TpReception (World : Type) where
  | returned (world : World)
  | receivedTpMessage (message : SomeIpMessage) (world : World)
      (next : World → TpReception World)

/-- The receiver, with what it calls. -/
structure RpcReceiver (World : Type) where
  getProto : World → UInt8
  hasPriorityRpcHandler : World → Bool
  priorityRpcHandler : World → SomeIpMessage → RpcHandlerErrorCode × World
  rpcHandler : World → SomeIpMessage → RpcHandlerErrorCode × World
  tpTransceiver : World → SomeIpMessage → TpReception World
  send : World → SomeIpMessage → World
  diagnosticListener : Option (World → SomeIpHeader → UInt8 → World)

/-- The surroundings, and the calls that were made so far. -/
structure RpcRun (World : Type) where
  world : World
  calls : List RpcCall := []

namespace RpcReceiver

open SomeIpHeader SomeIpMessage

variable {World : Type}

def getSomeipErrorCode : RpcHandlerErrorCode → UInt8
  | .RPC_HANDLER_OK => SOMEIP_E_OK
  | .RPC_HANDLER_UNKNOWN_SERVICE => SOMEIP_E_UNKNOWN_SERVICE
  | .RPC_HANDLER_UNKNOWN_METHOD => SOMEIP_E_UNKNOWN_METHOD
  | .RPC_HANDLER_WRONG_INTERFACE_VERSION => SOMEIP_E_WRONG_INTERFACE_VERSION
  | .RPC_HANDLER_MALFORMED_MESSAGE => SOMEIP_E_MALFORMED_MESSAGE
  | .RPC_HANDLER_WRONG_MESSAGE_TYPE => SOMEIP_E_WRONG_MESSAGE_TYPE
  | _ => SOMEIP_E_NOT_OK

def sendError (receiver : RpcReceiver World) (run : RpcRun World) (header : SomeIpHeader)
    (returnCode : UInt8) : RpcRun World :=
  let error := header.errorMessage returnCode
  let run := ⟨receiver.send run.world error, run.calls ++ [.send error]⟩
  match receiver.diagnosticListener with
  | none => run
  | some onError =>
    ⟨onError run.world header returnCode, run.calls ++ [.onError header returnCode]⟩

/-- The answer of a handler, and the call of it. -/
def askPriorityRpcHandler (receiver : RpcReceiver World) (run : RpcRun World)
    (message : SomeIpMessage) : RpcHandlerErrorCode × RpcRun World :=
  let answer := receiver.priorityRpcHandler run.world message
  (answer.1, ⟨answer.2, run.calls ++ [.priorityRpcHandler message]⟩)

def askRpcHandler (receiver : RpcReceiver World) (run : RpcRun World)
    (message : SomeIpMessage) : RpcHandlerErrorCode × RpcRun World :=
  let answer := receiver.rpcHandler run.world message
  (answer.1, ⟨answer.2, run.calls ++ [.rpcHandler message]⟩)

/-- Both handlers are asked, one after the other. -/
def askHandlers (receiver : RpcReceiver World) (run : RpcRun World) (message : SomeIpMessage) :
    RpcHandlerErrorCode × RpcRun World :=
  let first :=
    if receiver.hasPriorityRpcHandler run.world then receiver.askPriorityRpcHandler run message
    else (.RPC_HANDLER_NOT_RESPONSIBLE, run)
  if first.1 = .RPC_HANDLER_NOT_RESPONSIBLE then receiver.askRpcHandler first.2 message
  else first

def handleMessage (receiver : RpcReceiver World) (run : RpcRun World) (message : SomeIpMessage) :
    RpcRun World :=
  let (errorCode, run) := receiver.askHandlers run message
  let messageType := message.header.rawMessageType
  if errorCode ≠ .RPC_HANDLER_OK ∧ errorCode ≠ .RPC_HANDLER_NOT_RESPONSIBLE then
    if messageType ≠ REQUEST_NO_RETURN ∧
        (messageType ≠ NOTIFICATION_TYPE ∨
          errorCode ≠ .RPC_HANDLER_WRONG_MESSAGE_TYPE_REQUEST_RESPONSE) ∧
        errorCode ≠ .RPC_HANDLER_WRONG_MESSAGE_TYPE_FIRE_AND_FORGET then
      receiver.sendError run message.header (getSomeipErrorCode errorCode)
    else run
  else run

def receivedTpMessage (receiver : RpcReceiver World) (run : RpcRun World)
    (message : SomeIpMessage) : RpcRun World :=
  if message.header.isError then run else receiver.handleMessage run message

/-- The transport protocol runs, and calls back. -/
def runTp (receiver : RpcReceiver World) : TpReception World → List RpcCall → RpcRun World
  | .returned world, calls => ⟨world, calls⟩
  | .receivedTpMessage message world next, calls =>
    let run := receiver.receivedTpMessage ⟨world, calls⟩ message
    receiver.runTp (next run.world) run.calls

def receiveTpMessage (receiver : RpcReceiver World) (run : RpcRun World)
    (message : SomeIpMessage) : RpcRun World :=
  receiver.runTp (receiver.tpTransceiver run.world message)
    (run.calls ++ [.receiveTpMessage message])

/-- The checks behind the one of the length, and whether `received` returns there. -/
def processMessage (receiver : RpcReceiver World) (run : RpcRun World) (message : SomeIpMessage) :
    Bool × RpcRun World :=
  let header := message.header
  if header.isError then (true, run)
  else if header.protocolVersion ≠ PROTOCOL_VERSION then
    (false, if header.isAnswered then
        receiver.sendError run header SOMEIP_E_WRONG_PROTOCOL_VERSION
      else run)
  else if header.isMagicCookie then (false, run)
  else if ITpTransceiver.isIncomingTpMessage (receiver.getProto run.world) header.rawMessageType
      then (false, receiver.receiveTpMessage run message)
  else (false, receiver.handleMessage run message)

/-- The loop of `received` from an offset. -/
def receivedFrom (receiver : RpcReceiver World) (input : List UInt8) (length : Nat)
    (offset : Nat) (run : RpcRun World) : Option (RpcRun World) :=
  if offset < length then
    let bytesLeft := length - offset
    if bytesLeft < OFFSET_PAYLOAD then some run
    else do
      let span ← subspan input offset bytesLeft
      let header ← readHeader span
      let payloadLength ← readPayloadLength span
      if payloadLength ≤ bytesLeft - OFFSET_PAYLOAD then
        let message ← readMessage span
        match receiver.processMessage run message with
        | (true, run) => some run
        | (false, run) =>
          receiver.receivedFrom input length (offset + (payloadLength + OFFSET_PAYLOAD)) run
      else if header.isAnswered then
        some (receiver.sendError run header SOMEIP_E_MALFORMED_MESSAGE)
      else some run
  else some run
termination_by length - offset
decreasing_by
  simp only [OFFSET_PAYLOAD]
  omega

def received (receiver : RpcReceiver World) (input : List UInt8) (length : Nat)
    (run : RpcRun World) : Option (RpcRun World) :=
  receiver.receivedFrom input length 0 run

end RpcReceiver

end OpenBsw.Someip
