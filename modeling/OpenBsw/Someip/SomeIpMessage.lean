import OpenBsw.Data.Bytes

/-!
# SOME/IP messages

The header is kept as its fields, and the payload as the bytes behind it.  The
length field counts the payload and half of the header in 32 bits, so it follows
from the payload of a message that is short enough.
-/

namespace OpenBsw.Someip

structure SomeIpHeader where
  messageId : UInt32 := 0
  clientId : UInt16 := 0
  sessionId : UInt16 := 0
  protocolVersion : UInt8 := 0
  interfaceVersion : UInt8 := 0
  rawMessageType : UInt8 := 0
  returnCode : UInt8 := 0
  deriving DecidableEq, Repr

structure SomeIpMessage where
  header : SomeIpHeader
  payload : List UInt8
  deriving DecidableEq, Repr

namespace SomeIpMessage

def OFFSET_PAYLOAD : Nat := 16

def getPayloadLength (message : SomeIpMessage) : Nat :=
  message.payload.length

/-- The part of the header that the length field counts. -/
def lengthCorrection : UInt32 := 8

/-- What `getPayloadLength` answers after `setPayloadLength`. -/
def payloadLengthOf (payloadLength : UInt32) : Nat :=
  let length := payloadLength + lengthCorrection
  if lengthCorrection ≤ length then (length - lengthCorrection).toNat else 0

/-- The message fits into a span, the size of which has 32 bits. -/
def Valid (message : SomeIpMessage) : Prop :=
  OFFSET_PAYLOAD + message.getPayloadLength < 2 ^ 32

instance (message : SomeIpMessage) : Decidable message.Valid :=
  inferInstanceAs (Decidable (_ < _))

theorem payloadLengthOf_ofNat {payloadLength : Nat}
    (small : OFFSET_PAYLOAD + payloadLength < 2 ^ 32) :
    payloadLengthOf (UInt32.ofNat payloadLength) = payloadLength := by
  have eight : lengthCorrection.toNat = 8 := rfl
  rw [OFFSET_PAYLOAD] at small
  have lengthEq : (UInt32.ofNat payloadLength + lengthCorrection).toNat = payloadLength + 8 := by
    rw [UInt32.toNat_add, UInt32.toNat_ofNat', eight]
    omega
  have enough : lengthCorrection ≤ UInt32.ofNat payloadLength + lengthCorrection := by
    rw [UInt32.le_iff_toNat_le, lengthEq, eight]
    omega
  rw [payloadLengthOf, if_pos enough, UInt32.toNat_sub_of_le _ _ enough, lengthEq, eight]
  omega

end SomeIpMessage

end OpenBsw.Someip
