import OpenBsw.Can.CanId
import OpenBsw.Data.BinarySearch
import OpenBsw.Docan.Datalink.FrameCodec

/-!
# Addressing filters

A filter finds the transport addresses and the transmission address for a
received frame, and the addresses of the frames for a pair of transport
addresses.  With normal fixed addressing an extended identifier holds both
addresses; with extended addressing the first payload byte, the address
extension, names the target and is packed together with a base identifier.  The
configuration of a filter carries what `init` asserts.  A codec is known to
a filter by its address only, and is of any type here; a function that fails
has no result.
-/

namespace OpenBsw.Docan

open OpenBsw.Can

/-- `uint8_t`, as the conversion of a number. -/
def toByte (value : Nat) : Nat :=
  value % 2 ^ 8

/-! ## Normal fixed addressing -/

namespace NormalFixedAddressing

def PHYSICAL_ADDRESSING_ID_BASE : Nat := 0x18DA0000

def FUNCTIONAL_ADDRESSING_ID_BASE : Nat := 0x18DB0000

def pack (addressingIdBase targetAddress sourceAddress : Nat) : Nat :=
  CanId.extended (addressingIdBase ||| toByte targetAddress <<< 8 ||| toByte sourceAddress)

def addressingIdBaseOf (canId : Nat) : Nat :=
  canId &&& 0x1FFF0000

def targetAddressOf (canId : Nat) : Nat :=
  toByte (canId >>> 8)

def sourceAddressOf (canId : Nat) : Nat :=
  toByte canId

theorem toByte_lt (value : Nat) : toByte value < 2 ^ 8 :=
  Nat.mod_lt _ (by decide)

/-- The fields of a packed identifier stand one above the other. -/
theorem pack_eq (block targetAddress sourceAddress : Nat) (small : block < 2 ^ 13) :
    pack (block * 2 ^ 16) targetAddress sourceAddress =
      2 ^ 31 + block * 2 ^ 16 + toByte targetAddress * 2 ^ 8 + toByte sourceAddress := by
  have target := toByte_lt targetAddress
  have source := toByte_lt sourceAddress
  have low : toByte targetAddress <<< 8 ||| toByte sourceAddress =
      toByte targetAddress * 2 ^ 8 + toByte sourceAddress := by
    rw [Nat.shiftLeft_eq, Nat.mul_comm, ← Nat.two_pow_add_eq_or_of_lt source]
  have whole : block * 2 ^ 16 ||| (toByte targetAddress <<< 8 ||| toByte sourceAddress) =
      block * 2 ^ 16 + (toByte targetAddress * 2 ^ 8 + toByte sourceAddress) := by
    rw [low, Nat.mul_comm, ← Nat.two_pow_add_eq_or_of_lt (by omega)]
  rw [pack, Nat.or_assoc, whole, CanId.extended_eq]
  · omega
  · rw [CanId.MAX_RAW_EXTENDED_ID]
    omega

theorem and_shifted (value mask shift : Nat) :
    value &&& mask <<< shift = (value >>> shift &&& mask) <<< shift := by
  apply Nat.eq_of_testBit_eq
  intro position
  by_cases inside : shift ≤ position
  · have place : shift + (position - shift) = position := by omega
    simp [Nat.testBit_shiftLeft, inside, Nat.testBit_shiftRight, place]
  · simp [Nat.testBit_shiftLeft, inside]

theorem addressingIdBaseOf_eq (canId : Nat) :
    addressingIdBaseOf canId = canId / 2 ^ 16 % 2 ^ 13 * 2 ^ 16 := by
  have mask : (0x1FFF0000 : Nat) = (2 ^ 13 - 1) <<< 16 := by decide
  rw [addressingIdBaseOf, mask, and_shifted, Nat.and_two_pow_sub_one_eq_mod,
    Nat.shiftRight_eq_div_pow, Nat.shiftLeft_eq]

/-- An identifier with a base is packed from its fields. -/
theorem pack_fields {canId block : Nat} (frame : CanId.IsFrameId canId) (positive : 0 < block)
    (base : addressingIdBaseOf canId = block * 2 ^ 16) :
    pack (block * 2 ^ 16) (targetAddressOf canId) (sourceAddressOf canId) = canId := by
  rw [addressingIdBaseOf_eq] at base
  rcases frame with small | ⟨rawId, small, rfl⟩
  · rw [CanId.MAX_RAW_BASE_ID] at small
    omega
  · rw [CanId.extended_eq small] at base ⊢
    rw [CanId.MAX_RAW_EXTENDED_ID] at small
    rw [pack_eq _ _ _ (by omega)]
    simp only [targetAddressOf, sourceAddressOf, toByte, Nat.shiftRight_eq_div_pow]
    omega

end NormalFixedAddressing

/-! ## Extended addressing -/

namespace ExtendedAddressing

def pack (canId addressExtension : Nat) : Nat :=
  toByte addressExtension <<< CanId.BASE_ID_BITS ||| canId &&& CanId.MAX_RAW_BASE_ID

def canIdOf (packedAddress : Nat) : Nat :=
  packedAddress &&& CanId.MAX_RAW_BASE_ID

def addressExtensionOf (packedAddress : Nat) : Nat :=
  toByte (packedAddress >>> CanId.BASE_ID_BITS)

def decodeReceptionAddress (canId : Nat) : List UInt8 → Nat
  | [] => pack canId 0
  | addressExtension :: _ => pack canId addressExtension.toNat

theorem canIdOf_eq (packedAddress : Nat) : canIdOf packedAddress = packedAddress % 2 ^ 11 :=
  Nat.and_two_pow_sub_one_eq_mod packedAddress 11

theorem canIdOf_lt (packedAddress : Nat) : canIdOf packedAddress < 2 ^ 11 := by
  rw [canIdOf_eq]
  exact Nat.mod_lt _ (by decide)

/-- A frame without payload has the address extension 0. -/
theorem decodeReceptionAddress_eq (canId : Nat) (payload : List UInt8) :
    ∃ addressExtension, decodeReceptionAddress canId payload = pack canId addressExtension := by
  cases payload with
  | nil => exact ⟨0, rfl⟩
  | cons addressExtension rest => exact ⟨addressExtension.toNat, rfl⟩

theorem pack_eq (canId addressExtension : Nat) :
    pack canId addressExtension = toByte addressExtension * 2 ^ 11 + canId % 2 ^ 11 := by
  have low : canId % 2 ^ 11 < 2 ^ 11 := Nat.mod_lt _ (by decide)
  have masked : canId &&& CanId.MAX_RAW_BASE_ID = canId % 2 ^ 11 :=
    Nat.and_two_pow_sub_one_eq_mod canId 11
  rw [pack, masked, CanId.BASE_ID_BITS, Nat.shiftLeft_eq, Nat.mul_comm,
    ← Nat.two_pow_add_eq_or_of_lt low]

/-- A packed address is packed from its parts. -/
theorem pack_parts (canId addressExtension : Nat) :
    pack (canIdOf (pack canId addressExtension))
      (addressExtensionOf (pack canId addressExtension)) =
      pack canId addressExtension := by
  have small : toByte addressExtension < 2 ^ 8 := Nat.mod_lt _ (by decide)
  rw [pack_eq canId, pack_eq, canIdOf_eq, addressExtensionOf, Nat.shiftRight_eq_div_pow,
    CanId.BASE_ID_BITS]
  simp only [toByte] at small ⊢
  omega

end ExtendedAddressing

/-! ## Parameters -/

def TransportAddressPair.invert (pair : TransportAddressPair) : TransportAddressPair where
  sourceId := pair.targetId
  targetId := pair.sourceId

/-- What a filter finds for the frames that are sent to a peer and received from it. -/
structure TransmissionParameters (Codec : Type) where
  codec : Codec
  dataLinkAddressPair : DataLinkAddressPair Nat
  deriving DecidableEq

/-- What a filter finds for a received frame. -/
structure ReceptionParameters (Codec : Type) where
  codec : Codec
  transportAddressPair : TransportAddressPair
  transmissionAddress : Nat
  deriving DecidableEq

def INVALID_ADDRESS : Nat := CanId.INVALID_ID

/-- The entry that `lower_bound` finds, if it has the identifier. -/
def findByCanId {Entry : Type} (canIdOf : Entry → Nat) (entries : List Entry) (canId : Nat) :
    Option Entry :=
  let place := BinarySearch.partitionPoint (fun entry => decide (canIdOf entry < canId)) entries
  entries[place]?.filter fun entry => canIdOf entry = canId

/-! ## Normal addressing -/

structure NormalAddressEntry where
  canReceptionId : Nat
  canTransmissionId : Nat
  transportSourceId : Nat
  transportTargetId : Nat
  receptionCodecIdx : Nat
  transmissionCodecIdx : Nat
  deriving DecidableEq

/-- The entries before the first invalid one that is not a base identifier. -/
def listedEntries (entries : List NormalAddressEntry) : List NormalAddressEntry :=
  entries.takeWhile fun entry =>
    CanId.isBase entry.canReceptionId || CanId.isValid entry.canReceptionId

structure NormalAddressingFilter (Codec : Type) where
  entries : List NormalAddressEntry
  codecEntries : List (Option Codec)
  nonempty : entries ≠ []
  ascending : (listedEntries entries).Pairwise fun first second =>
    first.canReceptionId < second.canReceptionId

namespace NormalAddressingFilter

variable {Codec : Type}

def getFrameCodec (filter : NormalAddressingFilter Codec) (codecIdx : Nat) : Option Codec :=
  filter.codecEntries[codecIdx]?.join

/-- The entry of a connection, as the peer of a received frame is named in it. -/
def findConnection (filter : NormalAddressingFilter Codec) (sourceId targetId : Nat) :
    Option NormalAddressEntry :=
  filter.entries.find? fun entry =>
    entry.transportSourceId == sourceId && entry.transportTargetId == targetId

def getTransmissionParameters (filter : NormalAddressingFilter Codec)
    (pair : TransportAddressPair) : Option (TransmissionParameters Codec) := do
  let entry ← filter.findConnection pair.targetId pair.sourceId
  let codec ← filter.getFrameCodec entry.transmissionCodecIdx
  some {
    codec := codec
    dataLinkAddressPair := ⟨entry.canReceptionId, entry.canTransmissionId⟩ }

def getReceptionParameters (filter : NormalAddressingFilter Codec) (receptionAddress : Nat) :
    Option (ReceptionParameters Codec) := do
  let entry ← findByCanId (·.canReceptionId) (listedEntries filter.entries) receptionAddress
  let codec ← filter.getFrameCodec entry.receptionCodecIdx
  some {
    codec := codec
    transportAddressPair := ⟨entry.transportSourceId, entry.transportTargetId⟩
    transmissionAddress := entry.canTransmissionId }

end NormalAddressingFilter

/-! ## Normal fixed addressing -/

structure NormalFixedAddressingFilter (Codec : Type) where
  functionalAddresses : List Nat
  allowedTesters : List Nat
  codec : Codec

namespace NormalFixedAddressingFilter

open NormalFixedAddressing

variable {Codec : Type}

def isAllowedTester (filter : NormalFixedAddressingFilter Codec) (testerAddress : Nat) : Bool :=
  filter.allowedTesters.contains testerAddress

def isFunctionalAddress (filter : NormalFixedAddressingFilter Codec) (address : Nat) : Bool :=
  filter.functionalAddresses.contains address

def toAddressByte (transportId : Nat) : Option Nat :=
  if transportId > 0xFF then none else some (toByte transportId)

def getTransmissionParameters (filter : NormalFixedAddressingFilter Codec)
    (pair : TransportAddressPair) : Option (TransmissionParameters Codec) := do
  let sourceAddress ← toAddressByte pair.sourceId
  let targetAddress ← toAddressByte pair.targetId
  some {
    codec := filter.codec
    dataLinkAddressPair :=
      ⟨pack PHYSICAL_ADDRESSING_ID_BASE sourceAddress targetAddress,
        pack PHYSICAL_ADDRESSING_ID_BASE targetAddress sourceAddress⟩ }

def getReceptionParameters (filter : NormalFixedAddressingFilter Codec)
    (receptionAddress : Nat) : Option (ReceptionParameters Codec) :=
  let targetAddress := targetAddressOf receptionAddress
  let sourceAddress := sourceAddressOf receptionAddress
  if filter.allowedTesters ≠ [] ∧ filter.isAllowedTester sourceAddress = false then none
  else if addressingIdBaseOf receptionAddress = PHYSICAL_ADDRESSING_ID_BASE then
    if filter.isFunctionalAddress targetAddress then none
    else
      some {
        codec := filter.codec
        transportAddressPair := ⟨sourceAddress, targetAddress⟩
        transmissionAddress := pack PHYSICAL_ADDRESSING_ID_BASE sourceAddress targetAddress }
  else if addressingIdBaseOf receptionAddress = FUNCTIONAL_ADDRESSING_ID_BASE then
    if filter.isFunctionalAddress targetAddress then
      some {
        codec := filter.codec
        transportAddressPair := ⟨sourceAddress, targetAddress⟩
        transmissionAddress := INVALID_ADDRESS }
    else none
  else none

end NormalFixedAddressingFilter

/-! ## Extended addressing -/

structure ExtendedAddressEntry where
  canId : Nat
  transportId : Nat
  deriving DecidableEq

structure ExtendedAddressingFilter (Codec : Type) where
  entries : List ExtendedAddressEntry
  functionalAddresses : List Nat
  codec : Codec
  nonempty : entries ≠ []
  ascending : entries.Pairwise fun first second => first.canId ≤ second.canId

namespace ExtendedAddressingFilter

open ExtendedAddressing

variable {Codec : Type}

def isFunctionalAddress (filter : ExtendedAddressingFilter Codec) (transportId : Nat) : Bool :=
  filter.functionalAddresses.contains transportId

def findEntryByTransportId (filter : ExtendedAddressingFilter Codec) (transportId : Nat) :
    Option ExtendedAddressEntry :=
  filter.entries.find? (·.transportId == transportId)

def getTransmissionParameters (filter : ExtendedAddressingFilter Codec)
    (pair : TransportAddressPair) : Option (TransmissionParameters Codec) := do
  let sourceEntry ← filter.findEntryByTransportId pair.sourceId
  let targetEntry ← filter.findEntryByTransportId pair.targetId
  some {
    codec := filter.codec
    dataLinkAddressPair :=
      ⟨pack targetEntry.canId pair.sourceId, pack sourceEntry.canId pair.targetId⟩ }

def getReceptionParameters (filter : ExtendedAddressingFilter Codec) (receptionAddress : Nat) :
    Option (ReceptionParameters Codec) := do
  let targetId := addressExtensionOf receptionAddress
  let sourceEntry ← findByCanId (·.canId) filter.entries (canIdOf receptionAddress)
  let targetEntry ← filter.findEntryByTransportId targetId
  some {
    codec := filter.codec
    transportAddressPair := ⟨sourceEntry.transportId, targetId⟩
    transmissionAddress :=
      if filter.isFunctionalAddress targetId then INVALID_ADDRESS
      else pack targetEntry.canId sourceEntry.transportId }

end ExtendedAddressingFilter

/-! ## Extended addressing with a range -/

/-- The assertion on the range of identifiers is computed in 32 bits. -/
structure RangeExtendedAddressingFilter (Codec : Type) where
  baseCanId : Nat
  baseTransportId : Nat
  count : Nat
  functionalAddresses : List Nat
  codec : Codec
  nonempty : count ≠ 0
  canIds : (baseCanId + (count - 1)) % 2 ^ 32 ≤ CanId.MAX_RAW_BASE_ID
  transportIds : baseTransportId + (count - 1) ≤ 0xFF

namespace RangeExtendedAddressingFilter

open ExtendedAddressing

variable {Codec : Type}

def isFunctionalAddress (filter : RangeExtendedAddressingFilter Codec) (transportId : Nat) :
    Bool :=
  filter.functionalAddresses.contains transportId

def transportIdToCanId (filter : RangeExtendedAddressingFilter Codec) (transportId : Nat) :
    Option Nat :=
  if transportId < filter.baseTransportId ∨ filter.baseTransportId + filter.count ≤ transportId
  then none
  else some ((filter.baseCanId + (transportId - filter.baseTransportId)) % 2 ^ 32)

def canIdToTransportId (filter : RangeExtendedAddressingFilter Codec) (canId : Nat) :
    Option Nat :=
  if canId < filter.baseCanId ∨ (filter.baseCanId + filter.count) % 2 ^ 32 ≤ canId then none
  else some ((filter.baseTransportId + (canId - filter.baseCanId)) % 2 ^ 16)

def getTransmissionParameters (filter : RangeExtendedAddressingFilter Codec)
    (pair : TransportAddressPair) : Option (TransmissionParameters Codec) := do
  let sourceCanId ← filter.transportIdToCanId pair.sourceId
  let targetCanId ← filter.transportIdToCanId pair.targetId
  some {
    codec := filter.codec
    dataLinkAddressPair := ⟨pack targetCanId pair.sourceId, pack sourceCanId pair.targetId⟩ }

def getReceptionParameters (filter : RangeExtendedAddressingFilter Codec)
    (receptionAddress : Nat) : Option (ReceptionParameters Codec) := do
  let targetId := addressExtensionOf receptionAddress
  let sourceId ← filter.canIdToTransportId (canIdOf receptionAddress)
  let targetCanId ← filter.transportIdToCanId targetId
  some {
    codec := filter.codec
    transportAddressPair := ⟨sourceId, targetId⟩
    transmissionAddress :=
      if filter.isFunctionalAddress targetId then INVALID_ADDRESS
      else pack targetCanId sourceId }

end RangeExtendedAddressingFilter

end OpenBsw.Docan
