import OpenBsw.Data.Bytes

/-!
# Addresses and endpoints

An address has the bytes that the platform provides: sixteen with support of IPv6, where
an IPv4 address is mapped, and four without.
-/

namespace OpenBsw.Someip

open OpenBsw.Bytes

/-! ## Addresses -/

/-- `ip6` stands for `PLATFORM_SUPPORT_IPV6`. -/
structure IPAddress (ip6 : Bool) where
  raw : List UInt8
  deriving DecidableEq, Repr

inductive Family
  | IPV4
  | IPV6
  deriving DecidableEq, Repr

namespace IPAddress

def IP4LENGTH : Nat := 4
def IP6LENGTH : Nat := 16

def MAX_IP_LENGTH (ip6 : Bool) : Nat :=
  if ip6 then IP6LENGTH else IP4LENGTH

def unspecified (ip6 : Bool) : IPAddress ip6 where
  raw := List.replicate (MAX_IP_LENGTH ip6) 0

/-- The bytes in front of a mapped IPv4 address. -/
def ip4Prefix (ip6 : Bool) : List UInt8 :=
  if ip6 then [0, 0, 0, 0, 0, 0, 0, 0, 0, 0, 0xFF, 0xFF] else []

def make_ip4 (ip6 : Bool) (ip4addr : List UInt8) : IPAddress ip6 where
  raw := ip4Prefix ip6 ++ ip4addr

def make_ip6 (ip6 : Bool) (ip6addr : List UInt8) : IPAddress ip6 where
  raw := ip6addr

variable {ip6 : Bool}

def addressFamilyOf (ipAddr : IPAddress ip6) : Family :=
  if ip6 = true ∧ ipAddr.raw.take 12 ≠ ip4Prefix true then .IPV6 else .IPV4

/-- The last four bytes. -/
def ip4_bytes (ipAddr : IPAddress ip6) : List UInt8 :=
  slice ipAddr.raw (MAX_IP_LENGTH ip6 - IP4LENGTH) IP4LENGTH

def isUnspecified (ipAddr : IPAddress ip6) : Bool :=
  match ipAddr.addressFamilyOf with
  | .IPV4 => ofBigEndian ipAddr.ip4_bytes = 0
  | .IPV6 => ipAddr.raw.all (· = 0)

end IPAddress

/-! ## Endpoints -/

structure SdEndpoint (ip6 : Bool) where
  address : IPAddress ip6
  port : Nat
  isPortSet : Bool := true
  proto : UInt8
  deriving DecidableEq, Repr

namespace SdEndpoint

def INVALID_PROTO : UInt8 := 0xFF

def INVALID_ENDPOINT (ip6 : Bool) : SdEndpoint ip6 where
  address := .unspecified ip6
  port := 0
  isPortSet := false
  proto := INVALID_PROTO

variable {ip6 : Bool}

def isSet (endpoint : SdEndpoint ip6) : Bool :=
  endpoint.isPortSet && !endpoint.address.isUnspecified

def isValid (endpoint : SdEndpoint ip6) : Bool :=
  endpoint.isSet && (endpoint.proto ≠ INVALID_PROTO) && (endpoint.port ≠ 0)

theorem not_isValid_invalid (ip6 : Bool) : (INVALID_ENDPOINT ip6).isValid = false :=
  rfl

end SdEndpoint

end OpenBsw.Someip
