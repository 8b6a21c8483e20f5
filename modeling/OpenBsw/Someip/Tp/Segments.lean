import OpenBsw.Someip.Tp.TpTransceiver

/-!
# The segments of a message

`send` cuts a payload every `TP_PAYLOAD_MAX_SIZE` bytes, and an empty payload has
one empty segment.  The size is a multiple of 16, so that a header keeps the offset
of a segment beside the flag.
-/

namespace OpenBsw.Someip

open OpenBsw.Bytes
open ITpTransceiver

/-! ## Headers of segments -/

namespace ITpTransceiver

theorem or_and_mask (first second mask : UInt32) :
    (first ||| second) &&& mask = (first &&& mask) ||| (second &&& mask) := by
  apply UInt32.toBitVec_inj.mp
  exact BitVec.and_or_distrib_right

/-- Numbers whose low four bits are clear lie in the mask of an offset. -/
theorem and_offsetMask {offset : UInt32} (aligned : offset.toNat % 16 = 0) :
    offset &&& 0xFFFFFFF0 = offset := by
  have low : offset &&& 15 = 0 := by
    apply UInt32.toNat_inj.mp
    rw [UInt32.toNat_and]
    change offset.toNat &&& (2 ^ 4 - 1) = 0
    rw [Nat.and_two_pow_sub_one_eq_mod]
    exact aligned
  calc
    offset &&& 0xFFFFFFF0 = (offset &&& 0xFFFFFFF0) ||| (offset &&& 15) := by
      rw [low, UInt32.or_zero]
    _ = (0xFFFFFFF0 ||| 15) &&& offset := by
      rw [or_and_mask, UInt32.and_comm, UInt32.and_comm 15]
    _ = offset := UInt32.neg_one_and

/-- An aligned offset and the flag are read as they were written. -/
theorem parseTpHeader_serializeTpHeader {header : TpHeader}
    (aligned : header.payloadOffset.toNat % 16 = 0) :
    parseTpHeader (serializeTpHeader header) = header := by
  obtain ⟨offset, more⟩ := header
  have masked : offset &&& 0xFFFFFFF0 = offset := and_offsetMask aligned
  have noFlag : offset &&& 1 = 0 := by
    rw [← masked, UInt32.and_assoc]
    change offset &&& 0 = 0
    exact UInt32.and_zero
  simp only [serializeTpHeader, parseTpHeader, masked]
  rw [or_and_mask, or_and_mask, masked, noFlag]
  cases more with
  | false =>
    simp only [Bool.false_eq_true, if_false]
    congr 1
    exact UInt32.or_zero
  | true =>
    simp only [if_true]
    congr 1
    exact UInt32.or_zero

end ITpTransceiver

/-! ## Places of segments -/

namespace TpSender

/-- How many segments a payload has. -/
def segmentCount (payloadLength : Nat) : Nat :=
  (payloadLength - 1) / TP_PAYLOAD_MAX_SIZE + 1

theorem segmentCount_pos (payloadLength : Nat) : 0 < segmentCount payloadLength :=
  Nat.succ_pos _

theorem last_mem (payloadLength : Nat) :
    segmentCount payloadLength - 1 ∈ Finset.range (segmentCount payloadLength) :=
  Finset.mem_range.mpr (Nat.sub_lt (segmentCount_pos _) Nat.one_pos)

/-- How many bytes of the payload a segment carries. -/
def segmentLength (payloadLength index : Nat) : Nat :=
  min TP_PAYLOAD_MAX_SIZE (payloadLength - index * TP_PAYLOAD_MAX_SIZE)

/-- The segment with an index. -/
def segmentAt (message : SomeIpMessage) (index : Nat) : SomeIpMessage :=
  segment message (index * TP_PAYLOAD_MAX_SIZE)

variable {message : SomeIpMessage} {index : Nat}

/-- Segments start inside the payload, or at its start. -/
theorem segment_start {payloadLength : Nat} (inside : index < segmentCount payloadLength) :
    index * TP_PAYLOAD_MAX_SIZE < payloadLength ∨ index = 0 := by
  simp only [segmentCount, TP_PAYLOAD_MAX_SIZE] at *
  omega

theorem segment_end {payloadLength : Nat} (inside : index < segmentCount payloadLength) :
    index * TP_PAYLOAD_MAX_SIZE + segmentLength payloadLength index ≤ payloadLength := by
  have start := segment_start inside
  simp only [segmentLength, TP_PAYLOAD_MAX_SIZE] at *
  omega

/-- Only the last segment ends where the payload ends. -/
theorem more_iff {payloadLength : Nat} (inside : index < segmentCount payloadLength) :
    payloadLength - index * TP_PAYLOAD_MAX_SIZE - segmentLength payloadLength index > 0 ↔
      index + 1 < segmentCount payloadLength := by
  simp only [segmentCount, segmentLength, TP_PAYLOAD_MAX_SIZE] at *
  omega

theorem last_end {payloadLength : Nat} (last : index + 1 = segmentCount payloadLength) :
    index * TP_PAYLOAD_MAX_SIZE + segmentLength payloadLength index = payloadLength := by
  simp only [segmentCount, segmentLength, TP_PAYLOAD_MAX_SIZE] at *
  omega

theorem sum_segmentLength (payloadLength count : Nat) :
    ∑ index ∈ Finset.range count, segmentLength payloadLength index =
      min (count * TP_PAYLOAD_MAX_SIZE) payloadLength := by
  induction count with
  | zero => simp
  | succ count ih =>
    rw [Finset.sum_range_succ, ih, segmentLength, Nat.succ_mul]
    omega

/-- All segments together carry the payload. -/
theorem sum_segments (payloadLength : Nat) :
    ∑ index ∈ Finset.range (segmentCount payloadLength), segmentLength payloadLength index =
      payloadLength := by
  rw [sum_segmentLength, segmentCount, TP_PAYLOAD_MAX_SIZE]
  omega

/-- A set of segments that carries as many bytes as the payload has holds all the
segments. -/
theorem eq_range_of_sum {payloadLength : Nat} {indices : Finset Nat}
    (inside : indices ⊆ Finset.range (segmentCount payloadLength))
    (last : segmentCount payloadLength - 1 ∈ indices)
    (enough : payloadLength ≤ ∑ index ∈ indices, segmentLength payloadLength index) :
    indices = Finset.range (segmentCount payloadLength) := by
  by_contra different
  obtain ⟨missing, member, absent⟩ :=
    Finset.exists_of_ssubset (Finset.ssubset_iff_subset_ne.mpr ⟨inside, different⟩)
  have small := Finset.mem_range.mp member
  have start := segment_start small
  have isLast : missing ≠ segmentCount payloadLength - 1 := by
    rintro rfl
    exact absent last
  have positive : 0 < segmentLength payloadLength missing := by
    simp only [segmentLength, segmentCount, TP_PAYLOAD_MAX_SIZE] at *
    omega
  have less : ∑ index ∈ indices, segmentLength payloadLength index <
      ∑ index ∈ Finset.range (segmentCount payloadLength), segmentLength payloadLength index :=
    Finset.sum_lt_sum_of_subset inside member absent positive fun _ _ _ => Nat.zero_le _
  rw [sum_segments] at less
  omega

/-! ## What a segment carries -/

theorem segmentAt_header (message : SomeIpMessage) (index : Nat) :
    (segmentAt message index).header =
      { message.header with
        rawMessageType := message.header.rawMessageType ||| TP_MESSAGE_TYPE_BIT_MASK } :=
  rfl

theorem chunkLength_eq (message : SomeIpMessage) (index : Nat) :
    (if message.getPayloadLength - index * TP_PAYLOAD_MAX_SIZE > TP_PAYLOAD_MAX_SIZE then
        TP_PAYLOAD_MAX_SIZE
      else message.getPayloadLength - index * TP_PAYLOAD_MAX_SIZE) =
      segmentLength message.getPayloadLength index := by
  rw [segmentLength]
  split
  · omega
  · omega

theorem segmentAt_payload (message : SomeIpMessage) (index : Nat) :
    (segmentAt message index).payload =
      bigEndian TP_HEADER_LENGTH
          (serializeTpHeader
            { payloadOffset := UInt32.ofNat (index * TP_PAYLOAD_MAX_SIZE)
              hasMoreSegments := message.getPayloadLength - index * TP_PAYLOAD_MAX_SIZE -
                segmentLength message.getPayloadLength index > 0 }).toNat ++
        slice message.payload (index * TP_PAYLOAD_MAX_SIZE)
          (segmentLength message.getPayloadLength index) := by
  simp only [segmentAt, segment, chunkLength_eq]

theorem segmentAt_long (message : SomeIpMessage) (index : Nat) :
    ¬(segmentAt message index).payload.length < TP_HEADER_LENGTH := by
  rw [segmentAt_payload, List.length_append, length_bigEndian]
  omega

/-- The chunk of a segment. -/
theorem chunk_segmentAt (message : SomeIpMessage) (index : Nat) :
    TpReceiver.chunk (segmentAt message index) =
      slice message.payload (index * TP_PAYLOAD_MAX_SIZE)
        (segmentLength message.getPayloadLength index) := by
  rw [TpReceiver.chunk, segmentAt_payload]
  exact List.drop_left' (length_bigEndian ..)

theorem length_chunk_segmentAt (inside : index < segmentCount message.getPayloadLength) :
    (TpReceiver.chunk (segmentAt message index)).length =
      segmentLength message.getPayloadLength index := by
  rw [chunk_segmentAt]
  exact length_slice (segment_end inside)

/-- The header of a segment, as the receiver reads it. -/
theorem tpHeader_segmentAt (valid : message.Valid)
    (inside : index < segmentCount message.getPayloadLength) :
    (TpReceiver.tpHeader (segmentAt message index)).payloadOffset.toNat =
        index * TP_PAYLOAD_MAX_SIZE ∧
      ((TpReceiver.tpHeader (segmentAt message index)).hasMoreSegments = true ↔
        index + 1 < segmentCount message.getPayloadLength) := by
  have ends := segment_end inside
  have small : index * TP_PAYLOAD_MAX_SIZE < 2 ^ 32 := by
    rw [SomeIpMessage.Valid] at valid
    omega
  have offsetEq : (UInt32.ofNat (index * TP_PAYLOAD_MAX_SIZE)).toNat =
      index * TP_PAYLOAD_MAX_SIZE := by
    rw [UInt32.toNat_ofNat', Nat.mod_eq_of_lt small]
  have aligned : (UInt32.ofNat (index * TP_PAYLOAD_MAX_SIZE)).toNat % 16 = 0 := by
    rw [offsetEq, TP_PAYLOAD_MAX_SIZE]
    omega
  have headEq : ∀ header : TpHeader,
      UInt32.ofNat (ofBigEndian ((bigEndian TP_HEADER_LENGTH
        (serializeTpHeader header).toNat ++ slice message.payload (index * TP_PAYLOAD_MAX_SIZE)
          (segmentLength message.getPayloadLength index)).take TP_HEADER_LENGTH)) =
        serializeTpHeader header := by
    intro header
    have width : (serializeTpHeader header).toNat < 256 ^ TP_HEADER_LENGTH :=
      (serializeTpHeader header).toNat_lt
    rw [List.take_left' (length_bigEndian ..), ofBigEndian_bigEndian width, UInt32.ofNat_toNat]
  rw [TpReceiver.tpHeader, segmentAt_payload, headEq, parseTpHeader_serializeTpHeader aligned]
  constructor
  · exact offsetEq
  · rw [decide_eq_true_eq]
    exact more_iff inside

/-- The sums of a segment that was sent do not wrap. -/
theorem straight_segmentAt (valid : message.Valid)
    (inside : index < segmentCount message.getPayloadLength) :
    TpReceiver.Straight (segmentAt message index) := by
  have ends := segment_end inside
  rw [SomeIpMessage.Valid] at valid
  rw [TpReceiver.Straight, (tpHeader_segmentAt valid inside).1, length_chunk_segmentAt inside,
    Word32.modulus]
  omega

/-! ## The loop of the sender -/

theorem sendFrom_eq (message : SomeIpMessage) {rounds : Nat}
    (inside : index < segmentCount message.getPayloadLength)
    (enough : segmentCount message.getPayloadLength ≤ rounds + index) :
    sendFrom message rounds (index * TP_PAYLOAD_MAX_SIZE) =
      (List.range' index (segmentCount message.getPayloadLength - index)).map
        (segmentAt message) := by
  induction rounds generalizing index with
  | zero => omega
  | succ rounds ih =>
    have split : segmentCount message.getPayloadLength - index =
        segmentCount message.getPayloadLength - (index + 1) + 1 := by omega
    rw [sendFrom, split, List.range'_succ, List.map_cons]
    simp only [chunkLength_eq]
    congr 1
    have more := more_iff inside
    rw [Nat.sub_sub] at more
    by_cases further : index + 1 < segmentCount message.getPayloadLength
    · rw [if_pos (more.mpr further)]
      have full : segmentLength message.getPayloadLength index = TP_PAYLOAD_MAX_SIZE := by
        simp only [segmentLength, segmentCount, TP_PAYLOAD_MAX_SIZE] at *
        omega
      rw [full, ← Nat.succ_mul]
      exact ih further (by omega)
    · rw [if_neg (fun left => further (more.mp left)),
        show segmentCount message.getPayloadLength - (index + 1) = 0 by omega]
      rfl

/-- The segments of a message, in the order in which they are sent. -/
theorem send_eq (message : SomeIpMessage) :
    send message = (List.range (segmentCount message.getPayloadLength)).map
      (segmentAt message) := by
  have rounds : segmentCount message.getPayloadLength ≤ message.getPayloadLength + 1 + 0 := by
    simp only [segmentCount, TP_PAYLOAD_MAX_SIZE]
    omega
  have all := sendFrom_eq message (Nat.succ_pos _) rounds
  rw [Nat.zero_mul, Nat.sub_zero, ← List.range_eq_range'] at all
  exact all

end TpSender

end OpenBsw.Someip
