import OpenBsw.Docan.Addressing.Filters

/-!
# The two directions of the filters

The reverse of the pair of a received frame leads back to the frame's addresses.
A functional target is no end of a connection: its transmission address is not
valid.  The normal filter has an own codec for each direction.
-/

namespace OpenBsw.Docan

open OpenBsw.Can Option

variable {Codec : Type}

/-- What is found for the reverse pair of a received frame, with a codec. -/
def ReceptionParameters.answer (received : ReceptionParameters Codec) (receptionAddress : Nat)
    (codec : Codec) : TransmissionParameters Codec where
  codec := codec
  dataLinkAddressPair := ⟨receptionAddress, received.transmissionAddress⟩

theorem findByCanId_some {Entry : Type} {canIdOf : Entry → Nat} {entries : List Entry}
    {canId : Nat} {entry : Entry} (found : findByCanId canIdOf entries canId = some entry) :
    entry ∈ entries ∧ canIdOf entry = canId := by
  rw [findByCanId, filter_eq_some_iff] at found
  obtain ⟨place, same⟩ := found
  exact ⟨List.mem_of_getElem? place, of_decide_eq_true same⟩

/-- A search by a key that tells the entries apart finds each of them. -/
theorem find?_key {Entry Key : Type} [DecidableEq Key] {keyOf : Entry → Key}
    {entries : List Entry} (distinct : (entries.map keyOf).Nodup) {entry : Entry}
    (listed : entry ∈ entries) :
    entries.find? (fun other => decide (keyOf other = keyOf entry)) = some entry := by
  induction entries with
  | nil => cases listed
  | cons head rest ih =>
    rw [List.map_cons, List.nodup_cons] at distinct
    obtain ⟨apart, distinctRest⟩ := distinct
    rcases List.mem_cons.mp listed with rfl | inRest
    · simp
    · have different : keyOf head ≠ keyOf entry := by
        intro same
        rw [same] at apart
        exact apart (List.mem_map_of_mem inRest)
      rw [List.find?_cons_of_neg (by simpa using different)]
      exact ih distinctRest inRest

/-! ## Normal addressing -/

namespace NormalAddressingFilter

/-- The transport addresses of a connection belong to one entry. -/
def Unique (filter : NormalAddressingFilter Codec) : Prop :=
  (filter.entries.map fun entry => (entry.transportSourceId, entry.transportTargetId)).Nodup

theorem findConnection_mem {filter : NormalAddressingFilter Codec} (unique : filter.Unique)
    {entry : NormalAddressEntry} (listed : entry ∈ filter.entries) :
    filter.findConnection entry.transportSourceId entry.transportTargetId = some entry := by
  rw [← find?_key unique listed, findConnection]
  congr 1
  funext other
  rw [Bool.eq_iff_iff]
  simp

/-- The entry of a received identifier gives the codecs of both directions. -/
theorem answers {filter : NormalAddressingFilter Codec} (unique : filter.Unique)
    {receptionAddress : Nat} {received : ReceptionParameters Codec}
    (accepted : filter.getReceptionParameters receptionAddress = some received) :
    ∃ entry ∈ filter.entries, entry.canReceptionId = receptionAddress ∧
      filter.getFrameCodec entry.receptionCodecIdx = some received.codec ∧
      filter.getTransmissionParameters received.transportAddressPair.invert =
        (filter.getFrameCodec entry.transmissionCodecIdx).map
          (received.answer receptionAddress) := by
  simp only [getReceptionParameters, bind_eq_bind, bind_eq_some_iff,
    Option.some.injEq] at accepted
  obtain ⟨entry, found, codec, codecFound, rfl⟩ := accepted
  obtain ⟨listed, same⟩ := findByCanId_some found
  have inEntries : entry ∈ filter.entries := (List.takeWhile_subset _) listed
  refine ⟨entry, inEntries, same, codecFound, ?_⟩
  simp only [getTransmissionParameters, TransportAddressPair.invert,
    findConnection_mem unique inEntries, bind_eq_bind, bind_some]
  cases filter.getFrameCodec entry.transmissionCodecIdx with
  | none => rfl
  | some transmissionCodec =>
    simp only [bind_some, map_some, ReceptionParameters.answer, same]

end NormalAddressingFilter

/-! ## Normal fixed addressing -/

namespace NormalFixedAddressingFilter

open NormalFixedAddressing

theorem toAddressByte_toByte (value : Nat) :
    toAddressByte (toByte value) = some (toByte value) := by
  have small := toByte_lt value
  rw [toAddressByte, if_neg (by omega), toByte, toByte, Nat.mod_mod]

theorem getTransmissionParameters_fields (filter : NormalFixedAddressingFilter Codec)
    (receptionAddress : Nat) :
    filter.getTransmissionParameters
        ⟨targetAddressOf receptionAddress, sourceAddressOf receptionAddress⟩ =
      some ⟨filter.codec,
        pack PHYSICAL_ADDRESSING_ID_BASE (targetAddressOf receptionAddress)
          (sourceAddressOf receptionAddress),
        pack PHYSICAL_ADDRESSING_ID_BASE (sourceAddressOf receptionAddress)
          (targetAddressOf receptionAddress)⟩ := by
  simp only [getTransmissionParameters, targetAddressOf, sourceAddressOf, toAddressByte_toByte,
    bind_eq_bind, bind_some]

theorem answers {filter : NormalFixedAddressingFilter Codec} {receptionAddress : Nat}
    (frame : CanId.IsFrameId receptionAddress) {received : ReceptionParameters Codec}
    (accepted : filter.getReceptionParameters receptionAddress = some received)
    (valid : received.transmissionAddress ≠ INVALID_ADDRESS) :
    filter.getTransmissionParameters received.transportAddressPair.invert =
      some (received.answer receptionAddress received.codec) := by
  simp only [getReceptionParameters] at accepted
  split at accepted
  · cases accepted
  · split at accepted
    · rename_i physical
      split at accepted
      · cases accepted
      · cases accepted
        have whole := pack_fields frame (show 0 < 0x18DA by decide) physical
        rw [TransportAddressPair.invert, getTransmissionParameters_fields,
          ReceptionParameters.answer]
        congr 3
    · -- A functional target has no valid transmission address.
      split at accepted
      · split at accepted
        · cases accepted
          exact absurd rfl valid
        · cases accepted
      · cases accepted

end NormalFixedAddressingFilter

/-! ## Extended addressing -/

namespace ExtendedAddressingFilter

open ExtendedAddressing

/-- A transport address belongs to one entry. -/
def Unique (filter : ExtendedAddressingFilter Codec) : Prop :=
  (filter.entries.map (·.transportId)).Nodup

theorem findEntryByTransportId_mem {filter : ExtendedAddressingFilter Codec}
    (unique : filter.Unique) {entry : ExtendedAddressEntry} (listed : entry ∈ filter.entries) :
    filter.findEntryByTransportId entry.transportId = some entry :=
  find?_key unique listed

theorem answers {filter : ExtendedAddressingFilter Codec} (unique : filter.Unique)
    {canId : Nat} {payload : List UInt8} {received : ReceptionParameters Codec}
    (accepted :
      filter.getReceptionParameters (decodeReceptionAddress canId payload) = some received)
    (valid : received.transmissionAddress ≠ INVALID_ADDRESS) :
    filter.getTransmissionParameters received.transportAddressPair.invert =
      some (received.answer (decodeReceptionAddress canId payload) received.codec) := by
  obtain ⟨addressExtension, packed⟩ := decodeReceptionAddress_eq canId payload
  rw [packed] at accepted ⊢
  simp only [getReceptionParameters, bind_eq_bind, bind_eq_some_iff,
    Option.some.injEq] at accepted
  obtain ⟨sourceEntry, sourceFound, targetEntry, targetFound, rfl⟩ := accepted
  obtain ⟨listed, same⟩ := findByCanId_some sourceFound
  have physical : filter.isFunctionalAddress (addressExtensionOf (pack canId addressExtension)) ≠
      true := by
    intro functional
    rw [if_pos functional] at valid
    exact valid rfl
  simp only [getTransmissionParameters, TransportAddressPair.invert, targetFound,
    findEntryByTransportId_mem unique listed, bind_eq_bind, bind_some,
    ReceptionParameters.answer, if_neg physical, same, pack_parts]

end ExtendedAddressingFilter

/-! ## Extended addressing with a range -/

namespace RangeExtendedAddressingFilter

open ExtendedAddressing

/-- The number of an identifier of the range leads back to the identifier. -/
theorem transportIdToCanId_canIdToTransportId {filter : RangeExtendedAddressingFilter Codec}
    {canId sourceId : Nat} (small : canId < 2 ^ 11)
    (found : filter.canIdToTransportId canId = some sourceId) :
    filter.transportIdToCanId sourceId = some canId := by
  have nonempty := filter.nonempty
  have transportIds := filter.transportIds
  have canIds := filter.canIds
  rw [CanId.MAX_RAW_BASE_ID] at canIds
  rw [canIdToTransportId] at found
  split at found
  · cases found
  · cases found
    rename_i inside
    have below : filter.baseCanId + filter.count < 2 ^ 32 := by omega
    rw [Nat.mod_eq_of_lt below] at inside
    rw [Nat.mod_eq_of_lt (by omega), transportIdToCanId, if_neg (by omega)]
    congr 1
    omega

theorem answers {filter : RangeExtendedAddressingFilter Codec} {canId : Nat}
    {payload : List UInt8} {received : ReceptionParameters Codec}
    (accepted :
      filter.getReceptionParameters (decodeReceptionAddress canId payload) = some received)
    (valid : received.transmissionAddress ≠ INVALID_ADDRESS) :
    filter.getTransmissionParameters received.transportAddressPair.invert =
      some (received.answer (decodeReceptionAddress canId payload) received.codec) := by
  obtain ⟨addressExtension, packed⟩ := decodeReceptionAddress_eq canId payload
  rw [packed] at accepted ⊢
  simp only [getReceptionParameters, bind_eq_bind, bind_eq_some_iff,
    Option.some.injEq] at accepted
  obtain ⟨sourceId, sourceFound, targetCanId, targetFound, rfl⟩ := accepted
  have back := transportIdToCanId_canIdToTransportId (canIdOf_lt _) sourceFound
  have physical : filter.isFunctionalAddress (addressExtensionOf (pack canId addressExtension)) ≠
      true := by
    intro functional
    rw [if_pos functional] at valid
    exact valid rfl
  simp only [getTransmissionParameters, TransportAddressPair.invert, targetFound, back,
    bind_eq_bind, bind_some, ReceptionParameters.answer, if_neg physical,
    pack_parts]

end RangeExtendedAddressingFilter

/-! ## All filters -/

/-- The reverse pair of a received frame with a valid transmission address leads back to the
addresses of the frame, with every filter, and with the codec of the frame, except that the
normal filter takes the codec that the frame's entry has for the transmission. -/
theorem converters_agree (normal : NormalAddressingFilter Codec) (normalUnique : normal.Unique)
    (normalFixed : NormalFixedAddressingFilter Codec) (extended : ExtendedAddressingFilter Codec)
    (extendedUnique : extended.Unique) (range : RangeExtendedAddressingFilter Codec) :
    (∀ receptionAddress received,
      normal.getReceptionParameters receptionAddress = some received →
        ∃ entry ∈ normal.entries, entry.canReceptionId = receptionAddress ∧
          normal.getFrameCodec entry.receptionCodecIdx = some received.codec ∧
          normal.getTransmissionParameters received.transportAddressPair.invert =
            (normal.getFrameCodec entry.transmissionCodecIdx).map
              (received.answer receptionAddress)) ∧
      (∀ canId received, CanId.IsFrameId canId →
        normalFixed.getReceptionParameters canId = some received →
        received.transmissionAddress ≠ INVALID_ADDRESS →
          normalFixed.getTransmissionParameters received.transportAddressPair.invert =
            some (received.answer canId received.codec)) ∧
      (∀ canId payload received,
        extended.getReceptionParameters
            (ExtendedAddressing.decodeReceptionAddress canId payload) = some received →
        received.transmissionAddress ≠ INVALID_ADDRESS →
          extended.getTransmissionParameters received.transportAddressPair.invert =
            some (received.answer
              (ExtendedAddressing.decodeReceptionAddress canId payload) received.codec)) ∧
      ∀ canId payload received,
        range.getReceptionParameters
            (ExtendedAddressing.decodeReceptionAddress canId payload) = some received →
        received.transmissionAddress ≠ INVALID_ADDRESS →
          range.getTransmissionParameters received.transportAddressPair.invert =
            some (received.answer
              (ExtendedAddressing.decodeReceptionAddress canId payload) received.codec) :=
  ⟨fun _ _ accepted => NormalAddressingFilter.answers normalUnique accepted,
    fun _ _ frame accepted valid => NormalFixedAddressingFilter.answers frame accepted valid,
    fun _ _ _ accepted valid => ExtendedAddressingFilter.answers extendedUnique accepted valid,
    fun _ _ _ accepted valid => RangeExtendedAddressingFilter.answers accepted valid⟩

/-- Two entries with a codec for each direction. -/
def sampleNormalFilter : NormalAddressingFilter Nat where
  entries := [⟨0x100, 0x200, 0x10, 0x20, 0, 1⟩, ⟨0x101, 0x201, 0x11, 0x20, 0, 0⟩]
  codecEntries := [some 64, some 8]
  nonempty := by decide
  ascending := by decide

theorem sampleNormalFilter_unique : sampleNormalFilter.Unique := by
  unfold NormalAddressingFilter.Unique
  decide

def sampleNormalFixedFilter : NormalFixedAddressingFilter Nat where
  functionalAddresses := [0x33]
  allowedTesters := [0xF1]
  codec := 64

def sampleExtendedFilter : ExtendedAddressingFilter Nat where
  entries := [⟨0x100, 0x10⟩, ⟨0x101, 0x11⟩]
  functionalAddresses := []
  codec := 64
  nonempty := by decide
  ascending := by decide

theorem sampleExtendedFilter_unique : sampleExtendedFilter.Unique := by
  unfold ExtendedAddressingFilter.Unique
  decide

def sampleRangeFilter : RangeExtendedAddressingFilter Nat where
  baseCanId := 0x7F0
  baseTransportId := 0xF0
  count := 16
  functionalAddresses := []
  codec := 64
  nonempty := by decide
  canIds := by decide
  transportIds := by decide

/-- A frame with each of the four kinds of addresses. -/
theorem converters_agree_sample :
    (∃ entry ∈ sampleNormalFilter.entries, entry.canReceptionId = 0x101 ∧
        sampleNormalFilter.getFrameCodec entry.receptionCodecIdx = some 64 ∧
        sampleNormalFilter.getTransmissionParameters ⟨0x20, 0x11⟩ =
          (sampleNormalFilter.getFrameCodec entry.transmissionCodecIdx).map
            ((⟨64, ⟨0x11, 0x20⟩, 0x201⟩ : ReceptionParameters Nat).answer 0x101)) ∧
      sampleNormalFixedFilter.getTransmissionParameters ⟨0x12, 0xF1⟩ =
        some ⟨64, ⟨CanId.extended 0x18DA12F1, CanId.extended 0x18DAF112⟩⟩ ∧
      sampleExtendedFilter.getTransmissionParameters ⟨0x11, 0x10⟩ =
        some ⟨64, ⟨0x11 * 2 ^ 11 + 0x100, 0x10 * 2 ^ 11 + 0x101⟩⟩ ∧
      sampleRangeFilter.getTransmissionParameters ⟨0xF0, 0xFF⟩ =
        some ⟨64, ⟨0xF0 * 2 ^ 11 + 0x7FF, 0xFF * 2 ^ 11 + 0x7F0⟩⟩ := by
  obtain ⟨normal, normalFixed, extended, range⟩ :=
    converters_agree sampleNormalFilter sampleNormalFilter_unique sampleNormalFixedFilter
      sampleExtendedFilter sampleExtendedFilter_unique sampleRangeFilter
  exact ⟨normal 0x101 ⟨64, ⟨0x11, 0x20⟩, 0x201⟩ (by decide),
    normalFixed (CanId.extended 0x18DA12F1)
      ⟨64, ⟨0xF1, 0x12⟩, CanId.extended 0x18DAF112⟩ (.inr ⟨0x18DA12F1, by decide, rfl⟩)
      (by decide) (by decide),
    extended 0x100 [0x11] ⟨64, ⟨0x10, 0x11⟩, 0x10 * 2 ^ 11 + 0x101⟩ (by decide) (by decide),
    range 0x7FF [0xF0] ⟨64, ⟨0xFF, 0xF0⟩, 0xFF * 2 ^ 11 + 0x7F0⟩ (by decide) (by decide)⟩

/-- The first entry of the filter decodes a frame with another codec than its answer has. -/
theorem normalFilter_codecs_differ :
    sampleNormalFilter.Unique ∧
      sampleNormalFilter.getReceptionParameters 0x100 = some ⟨64, ⟨0x10, 0x20⟩, 0x200⟩ ∧
      sampleNormalFilter.getTransmissionParameters ⟨0x20, 0x10⟩ = some ⟨8, ⟨0x100, 0x200⟩⟩ := by
  refine ⟨?_, by decide, by decide⟩
  unfold NormalAddressingFilter.Unique
  decide

end OpenBsw.Docan
