import OpenBsw.Someip.Tp.Segments

/-!
# Collecting the segments of one message

A receiver that was handed segments of a single message, each of them once, holds
their bytes at their places and has counted exactly these bytes.  Whatever the
order, the count reaches the announced length with the last missing segment.
-/

namespace OpenBsw.Someip

open OpenBsw.Bytes
open ITpTransceiver
open TpSender

variable {Channel : Type}

/-- What the listener should be given for a message that was sent. -/
def SomeIpMessage.delivered (message : SomeIpMessage) : SomeIpMessage :=
  { message with
    header :=
      { message.header with
        rawMessageType := message.header.rawMessageType &&& ~~~TP_MESSAGE_TYPE_BIT_MASK } }

/-- Clearing the flag of a segment leaves what clearing the flag of the message
leaves. -/
theorem clear_set_flag (messageType : UInt8) :
    (messageType ||| TP_MESSAGE_TYPE_BIT_MASK) &&& ~~~TP_MESSAGE_TYPE_BIT_MASK =
      messageType &&& ~~~TP_MESSAGE_TYPE_BIT_MASK := by
  have apart : (messageType ||| TP_MESSAGE_TYPE_BIT_MASK) &&& ~~~TP_MESSAGE_TYPE_BIT_MASK =
      (messageType &&& ~~~TP_MESSAGE_TYPE_BIT_MASK) |||
        (TP_MESSAGE_TYPE_BIT_MASK &&& ~~~TP_MESSAGE_TYPE_BIT_MASK) := by
    apply UInt8.toBitVec_inj.mp
    exact BitVec.and_or_distrib_right
  rw [apart, UInt8.and_not_self, UInt8.or_zero]

namespace TpReceiver

/-- The receiver has been handed the segments of the message with these indices. -/
structure Collects (receiver : TpReceiver Channel) (message : SomeIpMessage)
    (indices : Finset Nat) : Prop where
  header : receiver.header = (segmentAt message 0).header
  room : message.getPayloadLength ≤ receiver.buffer.length
  inside : indices ⊆ Finset.range (segmentCount message.getPayloadLength)
  total : receiver.totalPayloadLength =
    if segmentCount message.getPayloadLength - 1 ∈ indices then message.getPayloadLength else 0
  received : receiver.receivedPayloadLength =
    ∑ index ∈ indices, segmentLength message.getPayloadLength index
  copied : ∀ index ∈ indices,
    slice receiver.buffer (index * TP_PAYLOAD_MAX_SIZE)
        (segmentLength message.getPayloadLength index) =
      slice message.payload (index * TP_PAYLOAD_MAX_SIZE)
        (segmentLength message.getPayloadLength index)

variable {receiver : TpReceiver Channel} {message : SomeIpMessage} {indices : Finset Nat}
  {index : Nat}

/-- An idle receiver that was started for a segment of the message. -/
theorem Collects.start (empty : receiver.totalPayloadLength = 0 ∧
      receiver.receivedPayloadLength = 0)
    (room : message.getPayloadLength ≤ receiver.buffer.length) (channel : Channel) :
    (receiver.start channel (segmentAt message index)).Collects message ∅ where
  header := rfl
  room := room
  inside := Finset.empty_subset _
  total := empty.1
  received := empty.2
  copied := by
    intro other member
    exact absurd member (Finset.notMem_empty other)

/-- The places of two segments do not overlap. -/
theorem disjoint_segments (payloadLength : Nat) {other : Nat} (different : other ≠ index) :
    other * TP_PAYLOAD_MAX_SIZE + segmentLength payloadLength other ≤
        index * TP_PAYLOAD_MAX_SIZE ∨
      index * TP_PAYLOAD_MAX_SIZE + segmentLength payloadLength index ≤
        other * TP_PAYLOAD_MAX_SIZE := by
  simp only [segmentLength, TP_PAYLOAD_MAX_SIZE]
  omega

theorem targetLength_segmentAt (valid : message.Valid)
    (small : index < segmentCount message.getPayloadLength) :
    targetLength (segmentAt message index) = SomeIpMessage.OFFSET_PAYLOAD +
      (index * TP_PAYLOAD_MAX_SIZE + segmentLength message.getPayloadLength index) := by
  rw [(straight_segmentAt valid small).targetLength, (tpHeader_segmentAt valid small).1,
    length_chunk_segmentAt small]

/-- The receiver after the bytes of one more segment were copied. -/
theorem Collects.copyChunk (collects : receiver.Collects message indices) (valid : message.Valid)
    (small : index < segmentCount message.getPayloadLength) (fresh : index ∉ indices) :
    ((receiver.setTotalPayloadLength (segmentAt message index)).copyChunk
      (segmentAt message index)).Collects message (insert index indices) := by
  have offsetEq := (tpHeader_segmentAt valid small).1
  have lengthEq := length_chunk_segmentAt small
  have ends := segment_end small
  have fits : index * TP_PAYLOAD_MAX_SIZE +
      (chunk (segmentAt message index)).length ≤ receiver.buffer.length := by
    rw [lengthEq]
    exact ends.trans collects.room
  have straight := straight_segmentAt valid small
  have short : message.getPayloadLength < Word32.modulus := by
    rw [SomeIpMessage.Valid] at valid
    rw [Word32.modulus]
    omega
  have counted := Finset.sum_le_sum_of_subset (Finset.insert_subset
    (Finset.mem_range.mpr small) collects.inside) (f := segmentLength message.getPayloadLength)
  rw [Finset.sum_insert fresh, sum_segments] at counted
  rw [copyChunk_of_le straight (by rwa [buffer_setTotalPayloadLength, offsetEq])]
  constructor
  · exact (header_setTotalPayloadLength ..).trans collects.header
  · simp only [buffer_setTotalPayloadLength, offsetEq]
    rw [length_overwrite fits]
    exact collects.room
  · exact Finset.insert_subset (Finset.mem_range.mpr small) collects.inside
  · change (receiver.setTotalPayloadLength (segmentAt message index)).totalPayloadLength = _
    rw [setTotalPayloadLength]
    by_cases more : index + 1 < segmentCount message.getPayloadLength
    · rw [if_pos ((tpHeader_segmentAt valid small).2.mpr more), collects.total]
      have notLast : segmentCount message.getPayloadLength - 1 ≠ index := by omega
      simp only [Finset.mem_insert, notLast, false_or]
    · rw [if_neg (fun flag => more ((tpHeader_segmentAt valid small).2.mp flag))]
      have last : segmentCount message.getPayloadLength - 1 = index := by omega
      rw [if_pos (by rw [last]; exact Finset.mem_insert_self ..)]
      change Word32.add _ _ = _
      rw [offsetEq, lengthEq, Word32.add_eq (by omega)]
      exact last_end (by omega)
  · rw [Finset.sum_insert fresh]
    simp only [receivedPayloadLength_setTotalPayloadLength, collects.received, lengthEq]
    rw [Word32.add_eq (by omega), Nat.add_comm]
  · intro other member
    simp only [buffer_setTotalPayloadLength, offsetEq]
    by_cases same : other = index
    · subst same
      have written := slice_overwrite_self fits
      rw [lengthEq] at written
      rw [written]
      exact chunk_segmentAt message other
    · have disjoint := disjoint_segments message.getPayloadLength same
      rw [← lengthEq] at disjoint
      rw [slice_overwrite_of_disjoint fits disjoint]
      exact collects.copied other (Finset.mem_of_mem_insert_of_ne member same)

/-- A receiver with all the segments has the payload. -/
theorem Collects.take_buffer
    (collects : receiver.Collects message (Finset.range (segmentCount message.getPayloadLength))) :
    receiver.buffer.take message.getPayloadLength = message.payload := by
  have room := collects.room
  apply List.ext_getElem?
  intro position
  rw [List.getElem?_take]
  by_cases inside : position < message.getPayloadLength
  · have small : position / TP_PAYLOAD_MAX_SIZE < segmentCount message.getPayloadLength := by
      simp only [segmentCount, TP_PAYLOAD_MAX_SIZE]
      omega
    have copied := collects.copied _ (Finset.mem_range.mpr small)
    have byte := congrArg (fun block => block[position % TP_PAYLOAD_MAX_SIZE]?) copied
    have within : position % TP_PAYLOAD_MAX_SIZE <
        segmentLength message.getPayloadLength (position / TP_PAYLOAD_MAX_SIZE) := by
      simp only [segmentLength, TP_PAYLOAD_MAX_SIZE]
      omega
    have place : position / TP_PAYLOAD_MAX_SIZE * TP_PAYLOAD_MAX_SIZE +
        position % TP_PAYLOAD_MAX_SIZE = position := by
      simp only [TP_PAYLOAD_MAX_SIZE]
      omega
    simp only [getElem?_slice, if_pos within, place] at byte
    rw [if_pos inside]
    exact byte
  · rw [if_neg inside]
    exact (List.getElem?_eq_none (by rw [SomeIpMessage.getPayloadLength] at inside; omega)).symm

/-- Completeness is noticed exactly with the last missing segment. -/
theorem Collects.isComplete_iff (collects : receiver.Collects message indices)
    (valid : message.Valid) (member : index ∈ indices) :
    receiver.isComplete (segmentAt message index) = true ↔
      indices = Finset.range (segmentCount message.getPayloadLength) := by
  have small := Finset.mem_range.mp (collects.inside member)
  have more := (tpHeader_segmentAt valid small).2
  simp only [isComplete, Bool.and_eq_true, Bool.or_eq_true, decide_eq_true_eq,
    Bool.not_eq_true', collects.total, collects.received, ne_eq]
  constructor
  · rintro ⟨announced, enough⟩
    have last : segmentCount message.getPayloadLength - 1 ∈ indices := by
      by_contra absent
      rw [if_neg absent] at announced
      rcases announced with zero | isLast
      · exact zero rfl
      · rw [Bool.eq_false_iff, ne_eq, more] at isLast
        have indexEq : segmentCount message.getPayloadLength - 1 = index := by omega
        exact absent (indexEq ▸ member)
    rw [if_pos last] at enough
    exact eq_range_of_sum collects.inside last enough
  · rintro rfl
    rw [if_pos (last_mem _), sum_segments]
    refine ⟨?_, Nat.le_refl _⟩
    by_cases empty : message.getPayloadLength = 0
    · right
      rw [Bool.eq_false_iff, ne_eq, more, empty]
      change ¬index + 1 < 1
      omega
    · left
      exact empty

/-- A segment of the message that the receiver does not hold yet: the message is
complete with the last one, and is collected further otherwise. -/
theorem Collects.receive (collects : receiver.Collects message indices) (valid : message.Valid)
    (small : index < segmentCount message.getPayloadLength) (fresh : index ∉ indices)
    (timestamp : UInt32) :
    if insert index indices = Finset.range (segmentCount message.getPayloadLength) then
      (receiver.receive (segmentAt message index) timestamp).1 = .TP_OK ∧
        (receiver.receive (segmentAt message index) timestamp).2.2 = some message.delivered
    else
      (receiver.receive (segmentAt message index) timestamp).1 = .TP_PENDING ∧
        (receiver.receive (segmentAt message index) timestamp).2.2 = none ∧
        (receiver.receive (segmentAt message index) timestamp).2.1.Collects message
          (insert index indices) := by
  have next := collects.copyChunk valid small fresh
  have complete := next.isComplete_iff valid (Finset.mem_insert_self index indices)
  have room : ¬SomeIpMessage.OFFSET_PAYLOAD +
      (receiver.setTotalPayloadLength (segmentAt message index)).buffer.length <
        targetLength (segmentAt message index) := by
    rw [buffer_setTotalPayloadLength, targetLength_segmentAt valid small]
    have ends := segment_end small
    have room := collects.room
    omega
  rw [TpReceiver.receive, if_neg (segmentAt_long message index), if_neg room]
  split
  · rename_i all
    rw [if_pos (complete.mpr all)]
    refine ⟨rfl, ?_⟩
    rw [all] at next
    have total := next.total
    rw [if_pos (last_mem _)] at total
    rw [completed, total, SomeIpMessage.payloadLengthOf_ofNat valid, next.take_buffer,
      next.header, SomeIpMessage.delivered]
    simp only [segmentAt_header, clear_set_flag]
  · rename_i missing
    rw [if_neg (fun all => missing (complete.mp all))]
    refine ⟨rfl, rfl, ?_⟩
    exact ⟨next.header, next.room, next.inside, next.total, next.received, next.copied⟩

end TpReceiver

end OpenBsw.Someip
