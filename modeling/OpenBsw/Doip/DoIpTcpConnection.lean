import OpenBsw.Data.Bytes

/-!
# DoIP connections over TCP

A connection reads headers, hands them to its handler, and fills the payload
buffers that the handler supplies, or discards what the handler does not want.
The handler answers from inside its callbacks or at any later time.  While a
callback runs, `tryReceive` returns at once: requests then take effect in the
loop that runs the callback.
-/

namespace OpenBsw.Doip

structure DoIpHeader where
  protocolVersion : UInt8
  invertedProtocolVersion : UInt8
  payloadType : Nat
  payloadLength : Nat
  deriving DecidableEq, Repr

def doipHeaderLength : Nat := 8

/-- The bytes of a header, reinterpreted. -/
def DoIpHeader.ofBytes (bytes : List UInt8) : DoIpHeader where
  protocolVersion := bytes.getD 0 0
  invertedProtocolVersion := bytes.getD 1 0
  payloadType := Bytes.ofBigEndian (Bytes.slice bytes 2 2)
  payloadLength := Bytes.ofBigEndian (Bytes.slice bytes 4 4)

/-- What a handler asks of the connection. -/
inductive Request
  | none
  /-- Fill a buffer of this size. -/
  | receivePayload (size : Nat)
  /-- End the message; the flag tells whether a discard callback is set. -/
  | endReceiveMessage (callback : Bool)
  deriving DecidableEq, Repr

/-- The answer of a handler to a header. -/
inductive HeaderReceivedContinuation
  /-- The handler is responsible, and has made a request. -/
  | handled (request : Request)
  /-- The handler is not responsible; the flag tells whether a discard callback
  is set. -/
  | discarded (callback : Bool)
  deriving DecidableEq, Repr

/-- What passes between the connection and its handler. -/
inductive Exchange
  | headerReceived (header : List UInt8)
  | declined (callback : Bool)
  | requested (size : Nat)
  | payloadReceived (payload : List UInt8)
  | ended (callback : Bool)
  | payloadDiscarded
  deriving DecidableEq, Repr

/-- A handler answers according to all that has passed. -/
structure ConnectionHandler where
  headerReceived : List Exchange → DoIpHeader → HeaderReceivedContinuation
  payloadReceived : List Exchange → List UInt8 → Request

inductive ReadState
  | header
  | payload
  | discard
  deriving DecidableEq, Repr

structure DoIpTcpConnection where
  active : Bool
  readState : ReadState
  readPayloadLength : Nat
  /-- The size of the current read buffer. -/
  currentReadBuffer : Nat
  receivedBufferLength : Nat
  /-- The bytes that have been written to the current read buffer. -/
  readBytes : List UInt8
  availableReadDataLength : Nat
  payloadDiscardedCallback : Bool
  /-- The bytes of the stream that have not been read yet. -/
  socket : List UInt8
  log : List Exchange
  deriving DecidableEq, Repr

namespace DoIpTcpConnection

/-- The connection when its socket has been established. -/
def init (stream : List UInt8) : DoIpTcpConnection where
  active := true
  readState := .header
  readPayloadLength := 0
  currentReadBuffer := doipHeaderLength
  receivedBufferLength := 0
  readBytes := []
  availableReadDataLength := 0
  payloadDiscardedCallback := false
  socket := stream
  log := []

def note (connection : DoIpTcpConnection) (exchange : Exchange) : DoIpTcpConnection :=
  { connection with log := connection.log ++ [exchange] }

def setReadBuffer (connection : DoIpTcpConnection) (size : Nat) : DoIpTcpConnection :=
  { connection with currentReadBuffer := size, receivedBufferLength := 0, readBytes := [] }

/-- Call a discard callback, if it is set. -/
def callDiscarded (connection : DoIpTcpConnection) (callback : Bool) : DoIpTcpConnection :=
  if callback then connection.note .payloadDiscarded else connection

/-- Wait for the next header. -/
def awaitHeader (connection : DoIpTcpConnection) : DoIpTcpConnection :=
  { connection with readState := .header }.setReadBuffer doipHeaderLength

/-- Drop the rest of the payload. -/
def discardRest (connection : DoIpTcpConnection) (callback : Bool) : DoIpTcpConnection :=
  { { connection with readState := .discard }.setReadBuffer connection.readPayloadLength with
    payloadDiscardedCallback := callback }

def closeConnection (connection : DoIpTcpConnection) : DoIpTcpConnection :=
  { connection with active := false }.setReadBuffer 0

section Requests

variable (tryReceive : DoIpTcpConnection → DoIpTcpConnection)

def receivePayload (size : Nat) (connection : DoIpTcpConnection) : DoIpTcpConnection :=
  if connection.readState = .payload ∧ connection.currentReadBuffer = 0 ∧
      size ≤ connection.readPayloadLength then
    tryReceive ((connection.note (.requested size)).setReadBuffer size)
  else connection

def endReceiveMessage (callback : Bool) (connection : DoIpTcpConnection) : DoIpTcpConnection :=
  if connection.readState = .payload then
    if 0 < connection.readPayloadLength then
      tryReceive ((connection.note (.ended callback)).discardRest callback)
    else
      -- waiting data is not looked at here
      ((connection.note (.ended callback)).awaitHeader).callDiscarded callback
  else connection.callDiscarded callback

def serve (connection : DoIpTcpConnection) : Request → DoIpTcpConnection
  | .none => connection
  | .receivePayload size => connection.receivePayload tryReceive size
  | .endReceiveMessage callback => connection.endReceiveMessage tryReceive callback

end Requests

/-- A request that is made while a callback runs. -/
def serveInCallback (connection : DoIpTcpConnection) (request : Request) : DoIpTcpConnection :=
  connection.serve id request

/-- The current read buffer is taken, and no other one is set. -/
def takeReadBuffer (connection : DoIpTcpConnection) : DoIpTcpConnection :=
  { connection with currentReadBuffer := 0 }

/-- A header is complete. -/
def headerComplete (handler : ConnectionHandler) (connection : DoIpTcpConnection) :
    DoIpTcpConnection :=
  let header := DoIpHeader.ofBytes connection.readBytes
  let told := { connection.takeReadBuffer with
    readState := .payload, readPayloadLength := header.payloadLength
    }.note (.headerReceived connection.readBytes)
  match handler.headerReceived told.log header with
  | .handled request => told.serveInCallback request
  | .discarded callback => (told.note (.declined callback)).discardRest callback

/-- A payload buffer is full. -/
def payloadComplete (handler : ConnectionHandler) (connection : DoIpTcpConnection) :
    DoIpTcpConnection :=
  let told := { connection.takeReadBuffer with
    readPayloadLength := connection.readPayloadLength - connection.currentReadBuffer
    }.note (.payloadReceived connection.readBytes)
  told.serveInCallback (handler.payloadReceived told.log connection.readBytes)

/-- The rest of a payload has been dropped. -/
def discardComplete (connection : DoIpTcpConnection) : DoIpTcpConnection :=
  connection.awaitHeader.callDiscarded connection.payloadDiscardedCallback

def processNextReadChunk (handler : ConnectionHandler) (bytesRead : List UInt8)
    (connection : DoIpTcpConnection) : DoIpTcpConnection :=
  let connection := { connection with
    receivedBufferLength := connection.receivedBufferLength + bytesRead.length
    readBytes :=
      if connection.readState = ReadState.discard then [] else connection.readBytes ++ bytesRead }
  let connection :=
    if connection.receivedBufferLength = connection.currentReadBuffer then
      match connection.readState with
      | .header => connection.headerComplete handler
      | .payload => connection.payloadComplete handler
      | .discard => connection.discardComplete
    else connection
  { connection with
    availableReadDataLength := connection.availableReadDataLength - bytesRead.length }

/-- The loop of `tryReceive`.  Every pass reads at least one of the available
bytes, so their count bounds the passes. -/
def receiveLoop (handler : ConnectionHandler) : Nat → DoIpTcpConnection → DoIpTcpConnection
  | 0, connection => connection
  | fuel + 1, connection =>
    if connection.active ∧ 0 < connection.currentReadBuffer ∧
        0 < connection.availableReadDataLength then
      let bytesToRead := min connection.availableReadDataLength
        (connection.currentReadBuffer - connection.receivedBufferLength)
      let bytesRead := connection.socket.take bytesToRead
      let connection := { connection with socket := connection.socket.drop bytesToRead }
      if bytesRead.length = bytesToRead then
        receiveLoop handler fuel (connection.processNextReadChunk handler bytesRead)
      else connection.closeConnection
    else connection

def tryReceive (handler : ConnectionHandler) (connection : DoIpTcpConnection) :
    DoIpTcpConnection :=
  receiveLoop handler connection.availableReadDataLength connection

def dataReceived (handler : ConnectionHandler) (length : Nat) (connection : DoIpTcpConnection) :
    DoIpTcpConnection :=
  { connection with availableReadDataLength := length }.tryReceive handler

end DoIpTcpConnection

/-! ## Runs -/

/-- What happens to a connection from outside. -/
inductive ConnectionEvent
  /-- The stack announces all bytes that it has. -/
  | dataReceived (length : Nat)
  /-- The handler makes a request at a later time. -/
  | requested (request : Request)

/-- An event and the handler that answers the callbacks it leads to. -/
abbrev HandledEvent := ConnectionEvent × ConnectionHandler

/-- A connection, and how many bytes of the stream have not been announced to it. -/
structure ConnectionRun where
  connection : DoIpTcpConnection
  unannounced : Nat

namespace ConnectionRun

def init (stream : List UInt8) : ConnectionRun where
  connection := .init stream
  unannounced := stream.length

def perform (run : ConnectionRun) (event : HandledEvent) : Option ConnectionRun :=
  match event.1 with
  | .dataReceived length =>
    some {
      connection := run.connection.dataReceived event.2 length
      unannounced := run.connection.socket.length - length }
  | .requested request =>
    some { run with connection := run.connection.serve (·.tryReceive event.2) request }

end ConnectionRun

/-! ## The server's handler -/

/-- The part of the server's handler that decides about a header. -/
structure DoIpServerConnectionHandler where
  protocolVersion : UInt8
  /-- The message handlers make a request if they are responsible. -/
  messageHandlers : List (DoIpHeader → Option Request)

namespace DoIpServerConnectionHandler

def checkProtocolVersion (header : DoIpHeader) (expectedVersion : UInt8) : Bool :=
  ~~~ header.protocolVersion = header.invertedProtocolVersion ∧
    header.protocolVersion = expectedVersion

def headerReceivedRoutingActivationRequest (header : DoIpHeader) : HeaderReceivedContinuation :=
  if header.payloadLength ≠ 7 ∧ header.payloadLength ≠ 11 then .discarded false
  else .handled (.receivePayload header.payloadLength)

def headerReceivedAliveCheckResponse (header : DoIpHeader) : HeaderReceivedContinuation :=
  if header.payloadLength ≠ 2 then .discarded false else .handled (.receivePayload 2)

def headerReceivedNegativeAck (_ : DoIpHeader) : HeaderReceivedContinuation :=
  .handled (.endReceiveMessage false)

def headerReceivedDefault (handler : DoIpServerConnectionHandler) (header : DoIpHeader) :
    HeaderReceivedContinuation :=
  match handler.messageHandlers.findSome? (· header) with
  | some request => .handled request
  | none => .discarded false

/-- The payload types that the handler looks at itself. -/
def routingActivationRequest : Nat := 0x0005
def aliveCheckResponse : Nat := 0x0008
def negativeAck : Nat := 0x0000

def headerReceived (handler : DoIpServerConnectionHandler) (header : DoIpHeader) :
    HeaderReceivedContinuation :=
  if checkProtocolVersion header handler.protocolVersion = false then .discarded false
  else if header.payloadType = routingActivationRequest then
    headerReceivedRoutingActivationRequest header
  else if header.payloadType = aliveCheckResponse then headerReceivedAliveCheckResponse header
  else if header.payloadType = negativeAck then headerReceivedNegativeAck header
  else handler.headerReceivedDefault header

/-- The handler ends a message when its payload has been received. -/
def connectionHandler (handler : DoIpServerConnectionHandler) : ConnectionHandler where
  headerReceived _ header := handler.headerReceived header
  payloadReceived _ _ := .endReceiveMessage false

end DoIpServerConnectionHandler

end OpenBsw.Doip
