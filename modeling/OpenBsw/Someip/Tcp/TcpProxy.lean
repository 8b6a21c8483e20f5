import OpenBsw.Data.Bytes
import OpenBsw.Data.Word32

/-!
# TCP proxies

A proxy collects the bytes of a connection in a reassembly buffer and hands
whole messages to its listener, through the input buffer that it shares with
other connections.  Accesses to buffers are checked here: an access that leaves
a buffer has no result.  Offsets and lengths are 32-bit numbers, and their
arithmetic wraps.
-/

namespace OpenBsw.Someip

/-- What a listener does to the connection while it receives a block. -/
inductive ListenerReaction
  | keep
  | close
  | abort
  deriving DecidableEq, Repr

/-- A listener reacts to the blocks that it has received, the last one
included. -/
abbrev NetworkListener := List (List UInt8) → ListenerReaction

structure TcpProxy where
  buffer : List UInt8
  bufferOffset : Nat
  /-- The size of the shared input buffer. -/
  inputSize : Nat
  isOpen : Bool
  /-- The bytes that the socket holds, and that nobody has read yet. -/
  socket : List UInt8
  /-- The blocks that the listener has been handed. -/
  received : List (List UInt8)
  deriving DecidableEq, Repr

namespace TcpProxy

/-- The offset of the payload in a message. -/
def offsetPayload : Nat := 16

/-- The part of the header that the length field counts. -/
def lengthCorrection : Nat := 8

def offsetLength : Nat := 4

/-- A part of a buffer. -/
def subspan (buffer : List UInt8) (offset count : Nat) : Option (List UInt8) :=
  if offset + count ≤ buffer.length then some (Bytes.slice buffer offset count) else none

/-- Copy a block into a buffer. -/
def copyTo (buffer : List UInt8) (offset : Nat) (block : List UInt8) : Option (List UInt8) :=
  if offset + block.length ≤ buffer.length then some (Bytes.overwrite buffer offset block)
  else none

/-- The length field of a message that starts a list of bytes. -/
def readLength (message : List UInt8) : Nat :=
  Bytes.ofBigEndian (Bytes.slice message offsetLength 4)

def getPayloadLength (message : List UInt8) : Nat :=
  let length := readLength message
  if lengthCorrection ≤ length then length - lengthCorrection else 0

/-! ## Closing -/

def closeConnection (proxy : TcpProxy) : TcpProxy :=
  { proxy with bufferOffset := 0 }

def close (proxy : TcpProxy) : TcpProxy :=
  if proxy.isOpen then closeConnection { proxy with isOpen := false } else proxy

def abort (proxy : TcpProxy) : TcpProxy :=
  if proxy.isOpen then closeConnection { proxy with isOpen := false } else proxy

/-- The stack reports that the peer has closed the connection. -/
def connectionClosed (proxy : TcpProxy) : TcpProxy :=
  closeConnection { proxy with isOpen := false }

def openConnection (proxy : TcpProxy) : TcpProxy :=
  { proxy with isOpen := true, bufferOffset := 0 }

/-! ## Receiving -/

/-- The length of the message at an offset of the buffer, or 0 if there is not
enough of its header. -/
def parseMessageLength (proxy : TcpProxy) (offset : Nat) : Option Nat := do
  let length := Word32.sub proxy.bufferOffset offset
  if length < offsetPayload then
    return 0
  let message ← subspan proxy.buffer offset length
  return Word32.add offsetPayload (getPayloadLength message)

/-- Advance over the whole messages in the buffer. -/
def countValidBytes (proxy : TcpProxy) : Nat → Nat → Option Nat
  | 0, _ => none
  | fuel + 1, validBytes => do
    let messageLength ← proxy.parseMessageLength validBytes
    if messageLength = 0 ∨ Word32.sub proxy.bufferOffset validBytes < messageLength then
      return validBytes
    countValidBytes proxy fuel (validBytes + messageLength)

/-- Let the listener react. -/
def react (proxy : TcpProxy) : ListenerReaction → TcpProxy
  | .keep => proxy
  | .close => proxy.close
  | .abort => proxy.abort

/-- Move what is left behind the handed bytes to the front of the buffer. -/
def compact (proxy : TcpProxy) (validBytes : Nat) : Option TcpProxy := do
  let bufferOffset := Word32.sub proxy.bufferOffset validBytes
  if 0 < bufferOffset then
    let source ← subspan proxy.buffer validBytes bufferOffset
    let buffer ← copyTo proxy.buffer 0 source
    return { proxy with bufferOffset, buffer }
  return { proxy with bufferOffset }

/-- Hand whole messages to the listener. -/
def handOver (listener : NetworkListener) (validBytes : Nat) (proxy : TcpProxy) :
    Option TcpProxy := do
  let block ← subspan proxy.buffer 0 validBytes
  if proxy.inputSize < validBytes then
    none
  let received := proxy.received ++ [block]
  let proxy := { proxy with received }.react (listener received)
  proxy.compact validBytes

/-- Read bytes of the socket behind those in the buffer.  If the socket gives
fewer bytes, the buffer is dropped and the flag is not set. -/
def readChunk (chunk : Nat) (proxy : TcpProxy) : Option (Bool × TcpProxy) := do
  let read := proxy.socket.take chunk
  let buffer ← copyTo proxy.buffer proxy.bufferOffset read
  let proxy := { proxy with buffer, socket := proxy.socket.drop chunk }
  if read.length = chunk then
    return (true, { proxy with bufferOffset := Word32.add proxy.bufferOffset chunk })
  else
    return (false, { proxy with bufferOffset := 0 })

/-- Look for whole messages in the buffer, and hand them over. -/
def deliver (listener : NetworkListener) (proxy : TcpProxy) : Option TcpProxy := do
  let validBytes ← proxy.countValidBytes (proxy.bufferOffset + 1) 0
  if 0 < validBytes then proxy.handOver listener validBytes else return proxy

def freeBytes (proxy : TcpProxy) : Nat :=
  Word32.sub proxy.buffer.length proxy.bufferOffset

/-- How much of the announced length is read in one pass. -/
def chunkOf (proxy : TcpProxy) (length : Nat) : Nat :=
  if proxy.freeBytes < length then proxy.freeBytes else length

/-- One pass of the loop of `dataReceived`, with the length that is still to be
read.  Where the function returns early, nothing is left to read. -/
def receiveChunk (listener : NetworkListener) (length : Nat) (proxy : TcpProxy) :
    Option (Nat × TcpProxy) :=
  if proxy.freeBytes = 0 then
    some (0, { proxy with bufferOffset := 0 })
  else do
    let (complete, filled) ← proxy.readChunk (proxy.chunkOf length)
    if complete then
      let next ← filled.deliver listener
      return (length - proxy.chunkOf length, next)
    else
      return (0, filled)

/-- The loop of `dataReceived`.  Every pass reads at least one byte, so the
length bounds the passes. -/
def receiveChunks (listener : NetworkListener) : Nat → Nat → TcpProxy → Option TcpProxy
  | _, 0, proxy => some proxy
  | 0, _ + 1, _ => none
  | fuel + 1, length + 1, proxy => do
    let (left, proxy) ← proxy.receiveChunk listener (length + 1)
    receiveChunks listener fuel left proxy

/-- The stack notifies the proxy of bytes. -/
def dataReceived (listener : NetworkListener) (length : Nat) (proxy : TcpProxy) :
    Option TcpProxy :=
  receiveChunks listener length length proxy

end TcpProxy

/-! ## Runs -/

/-- What happens to a proxy. -/
inductive TcpProxyEvent
  /-- More bytes arrive at the socket. -/
  | arrived (bytes : List UInt8)
  /-- The stack announces bytes, and the listener that is set reacts. -/
  | dataReceived (length : Nat) (listener : NetworkListener)
  | connectionClosed
  | close
  | abort
  | openConnection

/-- The effect of an event; a step that leaves a buffer has no result. -/
def TcpProxy.perform (proxy : TcpProxy) : TcpProxyEvent → Option TcpProxy
  | .arrived bytes => some { proxy with socket := proxy.socket ++ bytes }
  | .dataReceived length listener => proxy.dataReceived listener length
  | .connectionClosed => some proxy.connectionClosed
  | .close => some proxy.close
  | .abort => some proxy.abort
  | .openConnection => some proxy.openConnection

end OpenBsw.Someip
