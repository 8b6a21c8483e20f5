import Mathlib

/-!
# CAN identifiers

An identifier holds its raw value and the bits that qualify it in 32 bits: a
base identifier has 11 bits, and an extended one has 29 bits and a qualifier.
-/

namespace OpenBsw.Can

namespace CanId

def EXTENDED_QUALIFIER_BIT : Nat := 0x80000000

def FORCE_NON_FD_QUALIFIER_BIT : Nat := 0x20000000

def INVALID_QUALIFIER_BIT : Nat := 0x40000000

def INVALID_ID : Nat := 0xffffffff

def BASE_ID_BITS : Nat := 11

def MAX_RAW_BASE_ID : Nat := 0x7ff

def MAX_RAW_EXTENDED_ID : Nat := 0x1fffffff

def rawId (value : Nat) : Nat :=
  value &&& (0xffffffff ^^^ (EXTENDED_QUALIFIER_BIT ||| FORCE_NON_FD_QUALIFIER_BIT))

def isExtended (value : Nat) : Bool :=
  decide (value &&& EXTENDED_QUALIFIER_BIT ≠ 0)

def isBase (value : Nat) : Bool :=
  decide (value &&& EXTENDED_QUALIFIER_BIT = 0)

def isValid (value : Nat) : Bool :=
  decide (value &&& INVALID_QUALIFIER_BIT = 0)

/-- `CanId::extended`. -/
def extended (extendedId : Nat) : Nat :=
  extendedId ||| EXTENDED_QUALIFIER_BIT

/-- The identifiers of frames on the bus, without other qualifiers. -/
def IsFrameId (value : Nat) : Prop :=
  value ≤ MAX_RAW_BASE_ID ∨ ∃ rawId ≤ MAX_RAW_EXTENDED_ID, value = extended rawId

/-- A base identifier has 11 bits, an extended one has 29. -/
def InRange (value : Nat) : Prop :=
  rawId value ≤ if isExtended value then MAX_RAW_EXTENDED_ID else MAX_RAW_BASE_ID
  deriving Decidable

end CanId

namespace CanId

theorem extended_eq {rawId : Nat} (small : rawId ≤ MAX_RAW_EXTENDED_ID) :
    extended rawId = 2 ^ 31 + rawId := by
  have bound : rawId < 2 ^ 31 := by
    rw [MAX_RAW_EXTENDED_ID] at small
    omega
  have joined := Nat.two_pow_add_eq_or_of_lt bound 1
  rw [Nat.mul_one] at joined
  rw [extended, Nat.or_comm, joined]
  rfl

end CanId

end OpenBsw.Can
