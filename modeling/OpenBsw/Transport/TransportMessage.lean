import OpenBsw.Data.Bytes

/-!
# Transport messages

A `TransportMessage` is a buffer with the number of its valid bytes.  Messages
are passed by reference, so a model of one carries the identity of the object.
-/

namespace OpenBsw.Transport

open OpenBsw.Bytes

structure TransportMessage where
  id : Nat
  buffer : List UInt8
  sourceAddress : Nat
  targetAddress : Nat
  payloadLength : Nat
  validBytes : Nat
  deriving DecidableEq

namespace TransportMessage

def maxPayloadLength (message : TransportMessage) : Nat :=
  message.buffer.length % 2 ^ 16

/-- The valid part of the payload. -/
def payload (message : TransportMessage) : List UInt8 :=
  message.buffer.take message.validBytes

def resetValidBytes (message : TransportMessage) : TransportMessage :=
  { message with validBytes := 0 }

/-- Append data; a message that cannot take all of it stays as it is. -/
def append (message : TransportMessage) (data : List UInt8) : TransportMessage :=
  if message.maxPayloadLength < message.validBytes + data.length then message
  else
    { message with
      buffer := overwrite message.buffer message.validBytes data
      validBytes := message.validBytes + data.length }

@[simp]
theorem id_append (message : TransportMessage) (data : List UInt8) :
    (message.append data).id = message.id := by
  unfold append
  split <;> rfl

theorem append_of_le {message : TransportMessage} {data : List UInt8}
    (fits : message.validBytes + data.length ≤ message.maxPayloadLength) :
    message.append data =
      { message with
        buffer := overwrite message.buffer message.validBytes data
        validBytes := message.validBytes + data.length } := by
  rw [append, if_neg (by omega)]

theorem maxPayloadLength_append (message : TransportMessage) (data : List UInt8) :
    (message.append data).maxPayloadLength = message.maxPayloadLength := by
  have bufferLe : message.maxPayloadLength ≤ message.buffer.length := Nat.mod_le _ _
  unfold append
  split
  · rfl
  · simp only [maxPayloadLength]
    rw [length_overwrite (by omega)]

theorem validBytes_append {message : TransportMessage} {data : List UInt8}
    (fits : message.validBytes + data.length ≤ message.maxPayloadLength) :
    (message.append data).validBytes = message.validBytes + data.length := by
  rw [append_of_le fits]

/-- What fits is appended to the payload. -/
theorem payload_append {message : TransportMessage} {data : List UInt8}
    (fits : message.validBytes + data.length ≤ message.maxPayloadLength) :
    (message.append data).payload = message.payload ++ data := by
  have bufferLe : message.maxPayloadLength ≤ message.buffer.length := Nat.mod_le _ _
  rw [append_of_le fits, payload, payload]
  exact take_overwrite _ _ (by omega)

end TransportMessage

end OpenBsw.Transport
