import Mathlib

/-!
# Codes of the diagnostic services

The numbers that requests, responses and addresses are compared with.
-/

namespace OpenBsw.Uds

namespace DiagReturnCode

def NEGATIVE_RESPONSE_IDENTIFIER : UInt8 := 0x7F
def POSITIVE_RESPONSE_OFFSET : Nat := 0x40

def ISO_GENERAL_REJECT : UInt8 := 0x10
def ISO_SERVICE_NOT_SUPPORTED : UInt8 := 0x11
def ISO_SUBFUNCTION_NOT_SUPPORTED : UInt8 := 0x12
def ISO_INVALID_FORMAT : UInt8 := 0x13
def ISO_RESPONSE_TOO_LONG : UInt8 := 0x14
def ISO_REQUEST_OUT_OF_RANGE : UInt8 := 0x31
def ISO_SECURITY_ACCESS_DENIED : UInt8 := 0x33
def ISO_RESPONSE_PENDING : UInt8 := 0x78
def ISO_SUBFUNCTION_NOT_SUPPORTED_IN_ACTIVE_SESSION : UInt8 := 0x7E
def ISO_SERVICE_NOT_SUPPORTED_IN_ACTIVE_SESSION : UInt8 := 0x7F
def NOT_RESPONSIBLE : UInt8 := 0xFE
def OK : UInt8 := 0xFF

end DiagReturnCode

namespace DiagCodes

def NEGATIVE_RESPONSE_MESSAGE_LENGTH : Nat := 3
def FUNCTIONAL_ID_ALL_KWP2000_ECUS : Nat := 0xEF
def FUNCTIONAL_ID_ALL_ISO14229_ECUS : Nat := 0xDF

end DiagCodes

namespace TransportConfiguration

def FUNCTIONAL_ALL_ISO14229 : Nat := 0x00DF
def MAX_FUNCTIONAL_MESSAGE_PAYLOAD_SIZE : Nat := 6
def DIAG_PAYLOAD_SIZE : Nat := 4095

def isFunctionalAddress (address : Nat) : Bool :=
  decide (FUNCTIONAL_ALL_ISO14229 = address)

end TransportConfiguration

end OpenBsw.Uds
