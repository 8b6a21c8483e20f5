import OpenBsw.Docan.Receiver.Runs

/-!
# Reassembly of segmented messages

The protocol handler counts frames, the transport message counts bytes.  The
two stay in step when no frame is taken while a flow control frame is overdue,
and a message is complete at its last frame when the first frame leaves no more
than the announced frames can carry.
-/

namespace OpenBsw.Docan

open OpenBsw.Bytes List
open OpenBsw.Transition
open OpenBsw.Transport

/-! ## What a first frame announces -/

/-- The sizes of a segmented message of which the first frame carries
`firstSize` bytes and the announced frames carry the rest. -/
structure Segmented (messageSize frameCount segmentSize firstSize : Nat) : Prop where
  segmented : 1 < frameCount
  count_eq : frameCount = messageSize / segmentSize + 1
  small : segmentSize < 256
  first_lt : firstSize < segmentSize
  enough : messageSize ≤ firstSize + messageSize / segmentSize * segmentSize

/-- The sizes of a message in one frame or in several ones. -/
structure Announces (messageSize frameCount segmentSize firstSize : Nat) : Prop where
  representable : messageSize < 2 ^ 16
  countable : frameCount < 2 ^ 16
  shape : frameCount = 1 ∧ firstSize = messageSize ∨
    Segmented messageSize frameCount segmentSize firstSize

section Sizes

variable {messageSize frameCount segmentSize firstSize count : Nat}

/-- Before the last frame there is something left. -/
theorem Segmented.incomplete (segmented : Segmented messageSize frameCount segmentSize firstSize)
    (before : count + 1 < frameCount) : firstSize + count * segmentSize < messageSize := by
  have quotient := Nat.div_mul_le_self messageSize segmentSize
  have first := segmented.first_lt
  have bound : (count + 1) * segmentSize ≤ messageSize / segmentSize * segmentSize :=
    Nat.mul_le_mul_right _ (by have := segmented.count_eq; omega)
  rw [Nat.add_mul] at bound
  omega

/-- Before the last frame but one a whole segment fits. -/
theorem Segmented.fits (segmented : Segmented messageSize frameCount segmentSize firstSize)
    (before : count + 2 < frameCount) :
    firstSize + count * segmentSize + segmentSize ≤ messageSize := by
  have later := segmented.incomplete before
  rw [Nat.add_mul] at later
  omega

/-- The last frame is large enough for what is left. -/
theorem Segmented.complete (segmented : Segmented messageSize frameCount segmentSize firstSize)
    (last : count + 2 = frameCount) :
    messageSize ≤ firstSize + count * segmentSize + segmentSize := by
  have enough := segmented.enough
  rw [show messageSize / segmentSize = count + 1 by have := segmented.count_eq; omega,
    Nat.add_mul] at enough
  omega

theorem Announces.first_le (announces : Announces messageSize frameCount segmentSize firstSize) :
    firstSize ≤ messageSize := by
  rcases announces.shape with ⟨_, sizeEq⟩ | segmented
  · exact Nat.le_of_eq sizeEq
  · have incomplete : firstSize + 0 * segmentSize < messageSize :=
      segmented.incomplete segmented.segmented
    omega

end Sizes

section Decoding

variable {config : FrameCodecConfig} {payload : List UInt8}

theorem of_checkFrameSize {minPayloadSize : Nat} {size : SizeConfig}
    (checked : checkFrameSize config payload minPayloadSize size = true) :
    config.offset + minPayloadSize ≤ payload.length ∧ payload.length < 256 := by
  simp only [checkFrameSize, Bool.and_eq_true, decide_eq_true_eq] at checked
  exact ⟨checked.1.1, Nat.lt_of_le_of_lt checked.2 size.max_lt⟩

/-- A single frame carries as much as it announces. -/
theorem decodeSingleFrame_announces :
    Outcome (decodeSingleFrame .standard config payload)
      (fun single => Announces single.1 1 0 single.2.length) (fun _ => True) := by
  unfold decodeSingleFrame
  by_cases checked : checkFrameSize config payload 2 config.singleFrameSize = true
  swap
  · rw [if_neg checked]
    trivial
  obtain ⟨_, short⟩ := of_checkFrameSize checked
  have offsetSmall : config.offset < 256 := by
    have := config.singleFrame_large
    have := config.singleFrameSize.max_lt
    omega
  have announces : ∀ {size start : Nat}, size < 256 → start ≤ config.offset + 2 →
      DataLinkLayer.standard.messageSize (size + start) ≤ payload.length →
      Announces size 1 0 (slice payload start size).length := by
    intro size start sizeSmall startLe fits
    rw [DataLinkLayer.messageSize, show DataLinkLayer.standard.messageSizeBits = 16 from rfl,
      Nat.mod_eq_of_lt (by omega)] at fits
    rw [length_slice (by omega)]
    exact ⟨by omega, by decide, .inl ⟨rfl, rfl⟩⟩
  rw [if_pos checked]
  have nibble := (byteAt payload config.offset &&& 0x0F).toNat_lt
  have byte := (byteAt payload (config.offset + 1)).toNat_lt
  dsimp only
  split
  · split
    · rename_i fits
      rw [Nat.add_assoc] at fits
      exact announces byte (Nat.le_refl _) fits.2
    · trivial
  split
  · split
    · rename_i fits
      rw [Nat.add_assoc] at fits
      exact announces nibble (by omega) fits
    · trivial
  · trivial

/-- The message size behind a header without escape sequence has twelve bits. -/
theorem decodeFirstFrameSize_outcome :
    Outcome (decodeFirstFrameSize .standard config payload)
      (fun size => size.1 < 2 ^ 16 ∧
        (size.2 = 2 ∧ size.1 ≤ 4095 ∨
          size.2 = 6 ∧ 4095 < size.1 ∧ config.offset + 6 ≤ payload.length))
      (fun _ => True) := by
  have sizeField : ofBigEndian (slice payload config.offset 2) &&& 0xFFF ≤ 0xFFF :=
    Nat.and_le_right
  have reduced : DataLinkLayer.standard.messageSize
      (ofBigEndian (slice payload config.offset 2) &&& 0xFFF) ≤ 0xFFF :=
    Nat.le_trans (Nat.mod_le _ _) sizeField
  unfold decodeFirstFrameSize
  dsimp only
  split
  swap
  · exact ⟨by dsimp only; omega, .inl ⟨rfl, reduced⟩⟩
  by_cases checked : checkFrameSize config payload 6 config.firstFrameSize = true
  swap
  · rw [if_neg checked]
    trivial
  rw [if_pos checked]
  split
  · trivial
  · rename_i accepted
    rw [not_or, escapedSeqMessageSize] at accepted
    have largest : DataLinkLayer.standard.messageSizeMax = 2 ^ 16 - 1 := rfl
    have whole : DataLinkLayer.standard.messageSize
        (ofBigEndian (slice payload (config.offset + 2) 4)) =
          ofBigEndian (slice payload (config.offset + 2) 4) :=
      Nat.mod_eq_of_lt (by
        rw [show DataLinkLayer.standard.messageSizeBits = 16 from rfl]
        omega)
    exact ⟨by dsimp only; omega, .inr ⟨rfl, by dsimp only; omega, (of_checkFrameSize checked).1⟩⟩

/-- The announced frames carry the message, but for the escape sequence. -/
theorem decodeFirstFrame_outcome :
    Outcome (decodeFirstFrame .standard config payload)
      (fun first => (first.messageSize ≤ escapedSeqMessageSize ∨
          first.messageSize % first.consecutiveFrameDataSize + 4 < first.consecutiveFrameDataSize) →
        Announces first.messageSize first.frameCount first.consecutiveFrameDataSize
          first.data.length) (fun _ => True) := by
  unfold decodeFirstFrame
  by_cases checked : checkFrameSize config payload 3 config.firstFrameSize = true
  swap
  · rw [if_neg checked]
    trivial
  rw [if_pos checked]
  obtain ⟨long, short⟩ := of_checkFrameSize checked
  refine decodeFirstFrameSize_outcome.bind ?_
  rintro ⟨messageSize, dataStart⟩ ⟨representable, header⟩
  dsimp only at representable header ⊢
  have segmentEq : frameSize (payload.length - (config.offset + 1)) =
      payload.length - (config.offset + 1) := Nat.mod_eq_of_lt (by omega)
  rw [segmentEq]
  generalize segmentSizeEq : payload.length - (config.offset + 1) = segmentSize
  split
  · trivial
  rename_i countable
  have countLt : messageSize / segmentSize + 1 < 2 ^ 16 := by
    rw [show DataLinkLayer.standard.frameIndexMax = 2 ^ 16 - 1 from rfl] at countable
    omega
  have countEq : DataLinkLayer.standard.frameIndex (messageSize / segmentSize + 1) =
      messageSize / segmentSize + 1 := Nat.mod_eq_of_lt countLt
  rw [countEq]
  split
  swap
  · trivial
  rename_i segmented
  intro carriable
  rw [escapedSeqMessageSize] at carriable
  dsimp only at carriable ⊢
  have division := Nat.div_add_mod messageSize segmentSize
  rw [Nat.mul_comm] at division
  rw [length_slice (by omega)]
  have remainder := Nat.mod_lt messageSize (y := segmentSize) (by omega)
  refine ⟨representable, countLt, .inr ⟨segmented.1, rfl, by omega, by omega, ?_⟩⟩
  omega

end Decoding

namespace Receiver

variable {Address : Type}

/-- The frame is what `decodeFrame` makes of a received payload. -/
def Decoded (frame : FirstDataFrame Address) : Prop :=
  ∃ payload, decodeFrame .standard frame.connection payload =
    .ok (.firstDataFrameReceived frame.connection frame.messageSize frame.frameCount
      frame.consecutiveFrameDataSize frame.data)

/-- The announced frames can carry the message: there is no escape sequence, or
the last frame has room for the bytes it takes from the first one. -/
def Carriable (frame : FirstDataFrame Address) : Prop :=
  frame.messageSize ≤ escapedSeqMessageSize ∨
    frame.messageSize % frame.consecutiveFrameDataSize + 4 < frame.consecutiveFrameDataSize

theorem Decoded.announces {frame : FirstDataFrame Address} (decoded : Decoded frame)
    (carriable : Carriable frame) :
    Announces frame.messageSize frame.frameCount frame.consecutiveFrameDataSize
      frame.data.length := by
  obtain ⟨payload, decodedEq⟩ := decoded
  have outcome : Outcome (decodeFrame .standard frame.connection payload)
      (fun event => event = .firstDataFrameReceived frame.connection frame.messageSize
          frame.frameCount frame.consecutiveFrameDataSize frame.data →
        Announces frame.messageSize frame.frameCount frame.consecutiveFrameDataSize
          frame.data.length) (fun _ => True) := by
    have typed : Outcome (decodeFrameType frame.connection.config payload) (fun _ => True)
        (fun _ => True) := by
      unfold decodeFrameType
      split <;> trivial
    refine typed.bind fun frameType _ => ?_
    cases frameType with
    | none => trivial
    | some frameType =>
      cases frameType with
      | single =>
        refine decodeSingleFrame_announces.bind ?_
        rintro ⟨messageSize, data⟩ announces same
        injection same with _ sizeEq countEq segmentEq dataEq
        rwa [← sizeEq, ← countEq, ← segmentEq, ← dataEq]
      | first =>
        refine decodeFirstFrame_outcome.bind ?_
        rintro first announces same
        injection same with _ sizeEq countEq segmentEq dataEq
        rw [Carriable, ← sizeEq, ← segmentEq] at carriable
        rw [← sizeEq, ← countEq, ← segmentEq, ← dataEq]
        exact announces carriable
      | consecutive =>
        have decoded : Outcome (decodeConsecutiveFrame frame.connection.config payload)
            (fun _ => True) (fun _ => True) := by
          unfold decodeConsecutiveFrame
          split <;> trivial
        exact decoded.bind fun _ _ => nofun
      | flowControl =>
        have decoded : Outcome (decodeFlowControlFrame frame.connection.config payload)
            (fun _ => True) (fun _ => True) := by
          unfold decodeFlowControlFrame
          split <;> trivial
        exact decoded.bind fun _ _ => nofun
  exact outcome.of_eq_ok decodedEq rfl

/-! ## Data taken so far -/

/-- The data of the first frame and of the given consecutive frames, each of
which counts with the announced size. -/
def joined (receiver : MessageReceiver Address) (frames : List (UInt8 × List UInt8)) :
    List UInt8 :=
  receiver.firstFrameData ++
    (frames.map fun frame => frame.2.take receiver.consecutiveFrameDataSize).flatten

/-- The frame index counts the accepted frames, which carry as many bytes as it
says. -/
structure Progress (receiver : MessageReceiver Address) : Prop where
  announces : Announces receiver.messageSize receiver.handler.frameCount
    receiver.consecutiveFrameDataSize receiver.firstFrameData.length
  index_eq : receiver.handler.frameIndex = receiver.accepted.length + 1
  index_le : receiver.handler.frameIndex ≤ receiver.handler.frameCount
  sequence : ∀ index (inside : index < receiver.accepted.length),
    receiver.accepted[index].1.toNat = (index + 1) % 16
  earlier : ∀ frames last, receiver.accepted = frames ++ [last] →
    (joined receiver frames).length =
      receiver.firstFrameData.length + frames.length * receiver.consecutiveFrameDataSize
  unfinished : receiver.handler.frameIndex < receiver.handler.frameCount →
    (joined receiver receiver.accepted).length =
      receiver.firstFrameData.length +
        receiver.accepted.length * receiver.consecutiveFrameDataSize
  finished : receiver.handler.frameIndex = receiver.handler.frameCount →
    receiver.messageSize ≤ (joined receiver receiver.accepted).length

/-- The message holds the joined data of the accepted frames, and no more than
the announced number of bytes. -/
structure Holds (receiver : MessageReceiver Address) (message : TransportMessage) : Prop where
  fits : receiver.messageSize ≤ message.maxPayloadLength
  payload_eq : message.payload =
    (joined receiver receiver.accepted).take receiver.messageSize
  validBytes_eq : message.validBytes =
    min receiver.messageSize (joined receiver receiver.accepted).length

/-- The handler and the message of a reception are in step. -/
structure Reassembles (receiver : MessageReceiver Address) : Prop
    extends Progress receiver where
  allocating : receiver.handler.isAllocating = true →
    receiver.accepted = [] ∧ receiver.message = none
  processing : receiver.handler.state = .processing →
    receiver.handler.frameIndex = receiver.handler.frameCount
  ending : receiver.message.isSome = true →
    receiver.handler.frameIndex = receiver.handler.frameCount →
    receiver.handler.state = .processing ∨ receiver.handler.state = .done
  holds : ∀ message, receiver.message = some message → Holds receiver message

section

variable {receiver target : MessageReceiver Address}

theorem joined_of_same (same : receiver.SameReception target)
    (frames : List (UInt8 × List UInt8)) : joined target frames = joined receiver frames := by
  rw [joined, joined, same.firstFrameData_eq, same.consecutiveFrameDataSize_eq]

theorem Progress.of_same (progress : Progress receiver) (same : receiver.SameReception target) :
    Progress target where
  announces := by
    rw [same.messageSize_eq, same.frameCount_eq, same.consecutiveFrameDataSize_eq,
      same.firstFrameData_eq]
    exact progress.announces
  index_eq := by
    rw [same.frameIndex_eq, same.accepted_eq]
    exact progress.index_eq
  index_le := by
    rw [same.frameIndex_eq, same.frameCount_eq]
    exact progress.index_le
  sequence := by
    rw [same.accepted_eq]
    exact progress.sequence
  earlier := by
    intro frames last acceptedEq
    rw [same.accepted_eq] at acceptedEq
    rw [joined_of_same same, same.firstFrameData_eq, same.consecutiveFrameDataSize_eq]
    exact progress.earlier frames last acceptedEq
  unfinished := by
    rw [same.frameIndex_eq, same.frameCount_eq, joined_of_same same, same.firstFrameData_eq,
      same.consecutiveFrameDataSize_eq, same.accepted_eq]
    exact progress.unfinished
  finished := by
    rw [same.frameIndex_eq, same.frameCount_eq, joined_of_same same, same.messageSize_eq,
      same.accepted_eq]
    exact progress.finished

theorem Holds.of_same {message : TransportMessage} (held : Holds receiver message)
    (same : receiver.SameReception target) : Holds target message where
  fits := by
    rw [same.messageSize_eq]
    exact held.fits
  payload_eq := by
    rw [joined_of_same same, same.messageSize_eq, same.accepted_eq]
    exact held.payload_eq
  validBytes_eq := by
    rw [joined_of_same same, same.messageSize_eq, same.accepted_eq]
    exact held.validBytes_eq

theorem Reassembles.steady (reassembles : Reassembles receiver) (steady : receiver.Steady target) :
    Reassembles target where
  toProgress := reassembles.toProgress.of_same steady.toSameReception
  allocating allocating := by
    rw [steady.accepted_eq, steady.message_eq]
    exact reassembles.allocating (steady.allocating allocating)
  processing processing := by
    rw [steady.frameIndex_eq, steady.frameCount_eq]
    exact reassembles.processing (steady.processing processing)
  ending some last := by
    rw [steady.message_eq] at some
    rw [steady.frameIndex_eq, steady.frameCount_eq] at last
    exact steady.ending some (reassembles.ending some last)
  holds message messageEq := by
    rw [steady.message_eq] at messageEq
    exact (reassembles.holds message messageEq).of_same steady.toSameReception

theorem unblockable_reassembles :
    MessageReceiver.Unblockable (Reassembles : MessageReceiver Address → Prop) := by
  intro receiver other forgetEq reassembles
  rw [MessageReceiver.eq_of_forget_eq forgetEq]
  exact reassembles.steady
    { MessageReceiver.SameReception.refl receiver with
      message_eq := rfl, allocating := id, processing := id, ending := fun _ ended => ended }

theorem Reassembles.detached [DecidableEq Address] (reassembles : Reassembles receiver)
    (detached : Detached receiver target) : Reassembles target where
  toProgress := reassembles.toProgress.of_same detached.toSameReception
  allocating allocating := by
    rw [detached.settled] at allocating
    cases allocating
  processing processing := by
    rw [detached.done] at processing
    cases processing
  ending some := by simp [detached.message_eq_none] at some
  holds message messageEq := by simp [detached.message_eq_none] at messageEq

/-- A message that is obtained starts with the data of the first frame. -/
theorem Reassembles.obtained [DecidableEq Address] {message : TransportMessage}
    (reassembles : Reassembles receiver) (obtained : Obtained receiver target message) :
    Reassembles target := by
  have same := obtained.toSameReception
  obtain ⟨acceptedNil, _⟩ := reassembles.allocating obtained.allocating
  have index := reassembles.index_eq
  rw [acceptedNil, length_nil] at index
  obtain ⟨prepared, _, empty, enough, messageEq⟩ := obtained.message_eq
  have firstLe := reassembles.announces.first_le
  rw [Nat.mod_eq_of_lt reassembles.announces.representable] at enough
  have joinedNil : joined receiver receiver.accepted = receiver.firstFrameData := by
    simp [joined, acceptedNil]
  have fits : prepared.validBytes + receiver.firstFrameData.length ≤ prepared.maxPayloadLength := by
    omega
  have held : Holds receiver (prepared.append receiver.firstFrameData) :=
    { fits := by
        rw [TransportMessage.maxPayloadLength_append]
        exact enough
      payload_eq := by
        rw [TransportMessage.payload_append fits, joinedNil, take_of_length_le firstLe,
          TransportMessage.payload, empty]
        rfl
      validBytes_eq := by
        rw [TransportMessage.validBytes_append fits, joinedNil, empty]
        omega }
  exact
    { toProgress := reassembles.toProgress.of_same same
      allocating := by
        rw [obtained.settled]
        rintro ⟨⟩
      processing := fun processing => by
        have single := obtained.processing_iff.mp processing
        rw [same.frameIndex_eq, same.frameCount_eq, index, single]
      ending := fun _ last => by
        rw [same.frameIndex_eq, same.frameCount_eq, index] at last
        exact .inl (obtained.processing_iff.mpr last.symm)
      holds := fun other otherEq => by
        rw [messageEq, Option.some_inj] at otherEq
        rw [← otherEq]
        exact held.of_same same }

theorem reassembles_newMessageReceiver (environment : ReceiverEnvironment)
    {frame : FirstDataFrame Address} (block : Nat) (blocked : Bool)
    (announces : Announces frame.messageSize frame.frameCount frame.consecutiveFrameDataSize
      frame.data.length) :
    Reassembles (newMessageReceiver environment frame block blocked) where
  announces := announces
  index_eq := rfl
  index_le := by
    rcases announces.shape with ⟨single, _⟩ | segmented
    · exact Nat.le_of_eq single.symm
    · exact Nat.le_of_lt segmented.segmented
  sequence := nofun
  earlier frames last acceptedEq := by simp [newMessageReceiver] at acceptedEq
  unfinished _ := by simp [joined, newMessageReceiver]
  finished last := by
    rcases announces.shape with ⟨_, sizeEq⟩ | segmented
    · simp [joined, newMessageReceiver, sizeEq]
    · exact absurd last (Nat.ne_of_lt segmented.segmented)
  allocating _ := ⟨rfl, rfl⟩
  processing := nofun
  ending := nofun
  holds := nofun

/-! ## Consecutive frames -/

theorem joined_concat (receiver : MessageReceiver Address) (frames : List (UInt8 × List UInt8))
    (sequenceNumber : UInt8) (data : List UInt8) :
    joined receiver (frames ++ [(sequenceNumber, data)]) =
      joined receiver frames ++ data.take receiver.consecutiveFrameDataSize := by
  simp [joined]

/-- The size expected of the next frame is that of a segment or of the rest. -/
theorem expectedConsecutiveFrameDataSize_eq {validBytes : Nat}
    (small : receiver.consecutiveFrameDataSize < 256) (left : validBytes ≤ receiver.messageSize) :
    receiver.expectedConsecutiveFrameDataSize validBytes =
      min receiver.consecutiveFrameDataSize (receiver.messageSize - validBytes) := by
  unfold MessageReceiver.expectedConsecutiveFrameDataSize
  split
  · omega
  · rw [frameSize]
    omega

/-- A frame that is taken adds its data to the message. -/
theorem Holds.frame {message : TransportMessage} {data : List UInt8} {next : List UInt8}
    (held : Holds receiver message)
    (incomplete : (joined receiver receiver.accepted).length ≤ receiver.messageSize)
    (small : receiver.consecutiveFrameDataSize < 256)
    (long : receiver.expectedConsecutiveFrameDataSize message.validBytes ≤ data.length)
    (nextEq : next = joined receiver receiver.accepted ++
      data.take receiver.consecutiveFrameDataSize) :
    let expectedSize := receiver.expectedConsecutiveFrameDataSize message.validBytes
    (message.append (data.take expectedSize)).payload = next.take receiver.messageSize ∧
      (message.append (data.take expectedSize)).validBytes =
        min receiver.messageSize next.length := by
  have validEq := held.validBytes_eq
  rw [Nat.min_eq_right incomplete] at validEq
  have expectedEq := expectedConsecutiveFrameDataSize_eq small (validEq ▸ incomplete)
  rw [validEq] at expectedEq long ⊢
  have fits := held.fits
  have taken : (data.take (receiver.expectedConsecutiveFrameDataSize
      (joined receiver receiver.accepted).length)).length =
        receiver.expectedConsecutiveFrameDataSize (joined receiver receiver.accepted).length :=
    length_take_of_le long
  have room : message.validBytes + (data.take (receiver.expectedConsecutiveFrameDataSize
      (joined receiver receiver.accepted).length)).length ≤ message.maxPayloadLength := by
    rw [taken, validEq, expectedEq]
    omega
  intro expectedSize
  refine ⟨?_, ?_⟩
  · rw [TransportMessage.payload_append room, held.payload_eq, nextEq, List.take_append,
      take_take, take_of_length_le incomplete, expectedEq, Nat.min_comm]
  · rw [TransportMessage.validBytes_append room, taken, validEq, nextEq, List.length_append,
      length_take, expectedEq]
    rw [expectedEq] at long
    omega

/-- The next frame of a segmented message advances the frame index and the
message. -/
theorem Reassembles.advance {message : TransportMessage} {sequenceNumber blockFrameIndex : UInt8}
    {data : List UInt8} {state : ReceiveState} {timeout : ReceiveTimeout}
    (reassembles : Reassembles receiver) (messageEq : receiver.message = some message)
    (before : receiver.handler.frameIndex < receiver.handler.frameCount)
    (expected : receiver.handler.frameIndex &&& 0xF = sequenceNumber.toNat)
    (long : receiver.expectedConsecutiveFrameDataSize message.validBytes ≤ data.length)
    (processing_iff : state = .processing ↔
      receiver.handler.frameIndex + 1 = receiver.handler.frameCount) :
    Reassembles
      { receiver with
        handler :=
          { receiver.handler with
            frameIndex := receiver.handler.frameIndex + 1, blockFrameIndex, state, timeout }
        accepted := receiver.accepted ++ [(sequenceNumber, data)]
        message := some (message.append (data.take
          (receiver.expectedConsecutiveFrameDataSize message.validBytes))) } := by
  have index := reassembles.index_eq
  have segmented : Segmented receiver.messageSize receiver.handler.frameCount
      receiver.consecutiveFrameDataSize receiver.firstFrameData.length := by
    rcases reassembles.announces.shape with ⟨single, _⟩ | segmented
    · omega
    · exact segmented
  have joinedLength := reassembles.unfinished before
  have incomplete := segmented.incomplete (show receiver.accepted.length + 1 < _ by omega)
  rw [← joinedLength] at incomplete
  have held := reassembles.holds message messageEq
  have appended := joined_concat receiver receiver.accepted sequenceNumber data
  obtain ⟨payloadEq, validEq⟩ :=
    held.frame (Nat.le_of_lt incomplete) segmented.small long appended
  have validBefore := held.validBytes_eq
  rw [Nat.min_eq_right (Nat.le_of_lt incomplete)] at validBefore
  rw [validBefore, expectedConsecutiveFrameDataSize_eq segmented.small
    (Nat.le_of_lt incomplete)] at long
  have nextLength := congrArg List.length appended
  rw [List.length_append, length_take] at nextLength
  exact
    { announces := reassembles.announces
      index_eq := by rw [List.length_append, length_singleton, index]
      index_le := before
      sequence := by
        intro position inside
        rw [List.length_append, length_singleton] at inside
        rw [getElem_append]
        split
        · rename_i old
          exact reassembles.sequence position old
        · have positionEq : position = receiver.accepted.length := by omega
          rw [getElem_singleton]
          rw [← expected, index, positionEq]
          exact Nat.and_two_pow_sub_one_eq_mod _ 4
      earlier := by
        intro frames last acceptedEq
        have frames_eq := (append_inj' acceptedEq rfl).1
        rw [← frames_eq]
        exact joinedLength
      unfinished := by
        intro later
        replace later : receiver.handler.frameIndex + 1 < receiver.handler.frameCount := later
        have fits := segmented.fits (show receiver.accepted.length + 2 < _ by omega)
        rw [← joinedLength] at fits
        show (joined receiver (receiver.accepted ++ [(sequenceNumber, data)])).length =
          receiver.firstFrameData.length + (receiver.accepted ++ [(sequenceNumber, data)]).length *
            receiver.consecutiveFrameDataSize
        rw [nextLength, joinedLength, List.length_append, length_singleton, Nat.add_mul]
        omega
      finished := by
        intro last
        replace last : receiver.handler.frameIndex + 1 = receiver.handler.frameCount := last
        have complete := segmented.complete (show receiver.accepted.length + 2 = _ by omega)
        rw [← joinedLength] at complete
        show receiver.messageSize ≤
          (joined receiver (receiver.accepted ++ [(sequenceNumber, data)])).length
        rw [nextLength]
        omega
      allocating := fun allocating => by
        rw [(reassembles.allocating allocating).2] at messageEq
        cases messageEq
      processing := processing_iff.mp
      ending := fun _ last => .inl (processing_iff.mpr last)
      holds := fun other otherEq => by
        rw [Option.some_inj] at otherEq
        rw [← otherEq]
        exact
          { fits := by
              rw [TransportMessage.maxPayloadLength_append]
              exact held.fits
            payload_eq := payloadEq
            validBytes_eq := validEq } }

/-- A message receiver that waits for a frame takes it, or is finished with the
message as it is. -/
theorem Reassembles.consecutiveFrameReceived {message : TransportMessage}
    {data : List UInt8} (reassembles : Reassembles receiver)
    (messageEq : receiver.message = some message) (waits : receiver.handler.state = .wait)
    (timeout : receiver.handler.timeout = .rx)
    (long : receiver.expectedConsecutiveFrameDataSize message.validBytes ≤ data.length)
    (sequenceNumber : UInt8) :
    let after := (receiver.consecutiveFrameReceived message sequenceNumber
      (receiver.expectedConsecutiveFrameDataSize message.validBytes) data).1
    Reassembles after ∧
      (after.handler.frameIndex = receiver.handler.frameIndex →
        after.message = receiver.message) := by
  have before : receiver.handler.frameIndex < receiver.handler.frameCount := by
    refine Nat.lt_of_le_of_ne reassembles.index_le fun last => ?_
    have ended := reassembles.ending (by rw [messageEq]; rfl) last
    simp [waits] at ended
  have countable := reassembles.announces.countable
  have indexEq : DataLinkLayer.standard.frameIndex (receiver.handler.frameIndex + 1) =
      receiver.handler.frameIndex + 1 :=
    Nat.mod_eq_of_lt (by
      rw [show DataLinkLayer.standard.frameIndexBits = 16 from rfl]
      omega)
  simp only [MessageReceiver.consecutiveFrameReceived]
  rcases receiver.handler.consecutiveFrameReceived_cases .standard sequenceNumber
    receiver.maxBlockSize with ⟨ignored, _⟩ | ⟨_, _, _, outputEq⟩ |
    ⟨_, _, expected, blockFrameIndex, state, timeout, outputEq, reached⟩
  · exact absurd ignored (by simp [waits, timeout])
  · rw [outputEq]
    simp only [MessageReceiveProtocolHandler.setDone, if_true]
    refine ⟨reassembles.steady ?_, fun _ => trivial⟩
    exact
      { MessageReceiver.SameReception.refl receiver with
        message_eq := rfl
        allocating := by rintro ⟨⟩
        processing := by rintro ⟨⟩
        ending := fun _ _ => .inr rfl }
  · rw [outputEq, indexEq]
    rw [indexEq] at reached
    have advanced : receiver.handler.frameIndex + 1 ≠ receiver.handler.frameIndex :=
      Nat.succ_ne_self _
    have unfinished : state ≠ .done := by
      rcases reached with ⟨_, rfl, _⟩ | ⟨_, ⟨rfl, _⟩ | ⟨rfl, _⟩⟩ <;> decide
    simp only [if_neg advanced, if_neg unfinished]
    refine ⟨reassembles.advance messageEq before expected long ?_, fun same => absurd same advanced⟩
    rcases reached with ⟨last, rfl, _⟩ | ⟨earlier, ⟨rfl, _⟩ | ⟨rfl, _⟩⟩
    · exact iff_of_true rfl last
    · exact iff_of_false (by rintro ⟨⟩) earlier
    · exact iff_of_false (by rintro ⟨⟩) earlier

/-! ## Delivered messages -/

/-- The message handed over is the announced one: the data of the first frame
and of all consecutive frames in order, each in the announced size and the last
one cut off.  Only the last frame is cut off when no other is longer than
announced. -/
structure Delivers (receiver : MessageReceiver Address) (message : TransportMessage) : Prop where
  complete : receiver.accepted.length + 1 = receiver.handler.frameCount
  sequence : ∀ index (inside : index < receiver.accepted.length),
    receiver.accepted[index].1.toNat = (index + 1) % 16
  validBytes_eq : message.validBytes = receiver.messageSize
  payload_eq : message.payload = (joined receiver receiver.accepted).take receiver.messageSize
  payload_eq_of_short :
    (∀ frame ∈ receiver.accepted.dropLast,
      frame.2.length ≤ receiver.consecutiveFrameDataSize) →
    message.payload =
      (receiver.firstFrameData ++ (receiver.accepted.map Prod.snd).flatten).take
        receiver.messageSize

/-- No frame but the last one needs cutting when none is too long. -/
theorem Progress.joined_eq_of_short (progress : Progress receiver)
    (last : receiver.handler.frameIndex = receiver.handler.frameCount)
    (short : ∀ frame ∈ receiver.accepted.dropLast,
      frame.2.length ≤ receiver.consecutiveFrameDataSize) :
    (joined receiver receiver.accepted).take receiver.messageSize =
      (receiver.firstFrameData ++ (receiver.accepted.map Prod.snd).flatten).take
        receiver.messageSize := by
  rcases eq_nil_or_concat receiver.accepted with nil | ⟨frames, final, acceptedEq⟩
  · rw [nil]
    rfl
  rw [concat_eq_append] at acceptedEq
  rw [acceptedEq, dropLast_concat] at short
  have index := progress.index_eq
  rw [acceptedEq, List.length_append, length_singleton] at index
  have length := progress.earlier frames final acceptedEq
  have segmented : Segmented receiver.messageSize receiver.handler.frameCount
      receiver.consecutiveFrameDataSize receiver.firstFrameData.length := by
    rcases progress.announces.shape with ⟨single, _⟩ | segmented
    · omega
    · exact segmented
  have complete := segmented.complete (show frames.length + 2 = _ by omega)
  rw [← length] at complete
  have whole : joined receiver frames =
      receiver.firstFrameData ++ (frames.map Prod.snd).flatten := by
    rw [joined]
    congr 2
    exact map_congr_left fun frame member => take_of_length_le (short frame member)
  rw [acceptedEq, joined_concat receiver frames final.1 final.2, map_append,
    flatten_append, map_singleton, flatten_singleton, ← append_assoc, ← whole,
    List.take_append, List.take_append, take_take, Nat.min_eq_left (by omega)]

theorem Reassembles.delivers {message : TransportMessage} (reassembles : Reassembles receiver)
    (messageEq : receiver.message = some message)
    (processing : receiver.handler.state = .processing) : Delivers receiver message := by
  have last := reassembles.processing processing
  have held := reassembles.holds message messageEq
  exact
    { complete := by rw [← last, reassembles.index_eq]
      sequence := reassembles.sequence
      validBytes_eq := by rw [held.validBytes_eq, Nat.min_eq_left (reassembles.finished last)]
      payload_eq := held.payload_eq
      payload_eq_of_short := fun short => by
        rw [held.payload_eq, reassembles.joined_eq_of_short last short] }

end

/-! ## Runs -/

/-- A message handed over is complete, and a consecutive frame that does not
advance the frame index leaves the message as it is. -/
def Faithful : ReceiverCall Address → Prop
  | .messageReceived receiver message _ => Delivers receiver message
  | .consecutiveFrameReceived before after =>
    after.handler.frameIndex = before.handler.frameIndex → after.message = before.message
  | _ => True

/-- First frames come from `decodeFrame` and announce enough frames, and no
consecutive frame meets a message receiver whose flow control frame is overdue. -/
def Orderly [DecidableEq Address] (source : Receiver Address) (event : ReceiverEvent Address) :
    Prop :=
  Meets (fun receiver _ _ => receiver.handler.state ≠ .send)
    (fun frame => Decoded frame ∧ Carriable frame) source event.operation

variable [DecidableEq Address]

/-! ## First frames -/

section First

variable {Takes : MessageReceiver Address → UInt8 → List UInt8 → Prop}
  {Starts : FirstDataFrame Address → Prop} {source target : Receiver Address}

/-- A reception goes back to a first frame, which announced what is expected. -/
def Begun (Starts : FirstDataFrame Address → Prop) (receiver : MessageReceiver Address) : Prop :=
  ∃ frame, Starts frame ∧ receiver.connection = frame.connection ∧
    receiver.messageSize = frame.messageSize ∧
    receiver.handler.frameCount = frame.frameCount ∧
    receiver.consecutiveFrameDataSize = frame.consecutiveFrameDataSize ∧
    receiver.firstFrameData = frame.data

omit [DecidableEq Address] in
theorem Begun.of_same {receiver later : MessageReceiver Address} (begun : Begun Starts receiver)
    (same : receiver.SameReception later) : Begun Starts later := by
  rw [Begun, same.connection_eq, same.messageSize_eq, same.frameCount_eq,
    same.consecutiveFrameDataSize_eq, same.firstFrameData_eq]
  exact begun

omit [DecidableEq Address] in
theorem Begun.consecutiveFrameReceived {receiver : MessageReceiver Address}
    (begun : Begun Starts receiver) (message : TransportMessage) (sequenceNumber : UInt8)
    (expectedSize : Nat) (data : List UInt8) :
    Begun Starts
      (receiver.consecutiveFrameReceived message sequenceNumber expectedSize data).1 := by
  have counted : (receiver.handler.consecutiveFrameReceived .standard sequenceNumber
      receiver.maxBlockSize).1.frameCount = receiver.handler.frameCount := by
    rcases receiver.handler.consecutiveFrameReceived_cases .standard sequenceNumber
      receiver.maxBlockSize with ⟨_, same⟩ | ⟨_, _, _, same⟩ | ⟨_, _, _, _, _, _, same, _⟩ <;>
      simp only [same, MessageReceiveProtocolHandler.setDone]
  rw [MessageReceiver.consecutiveFrameReceived]
  dsimp only
  split <;> simpa only [Begun, counted] using begun

/-- All receptions, and those that handed a message over, go back to first frames. -/
structure AllBegun (Starts : FirstDataFrame Address → Prop) (source : Receiver Address) :
    Prop where
  receivers : ∀ receiver ∈ source.messageReceivers, Begun Starts receiver
  handed : ∀ {receiver message answer},
    .messageReceived receiver message answer ∈ source.calls → Begun Starts receiver

omit [DecidableEq Address] in
theorem AllBegun.replace {before after : List (MessageReceiver Address)}
    {receiver target : MessageReceiver Address} {calls : List (ReceiverCall Address)}
    (all : AllBegun Starts (source.place before receiver after))
    (replaced : Begun Starts receiver → Begun Starts target)
    (handed : ∀ {other message answer}, .messageReceived other message answer ∈ calls →
      other = receiver) :
    AllBegun Starts ({ source with calls := source.calls ++ calls }.place before target after) := by
  have current := all.receivers receiver (by simp [place])
  constructor
  · intro other member
    simp only [place, mem_append, mem_cons] at member
    rcases member with early | rfl | late
    · exact all.receivers other (by simp [place, early])
    · exact replaced current
    · exact all.receivers other (by simp [place, late])
  · intro other message answer member
    rcases mem_append.mp member with old | new
    · exact all.handed old
    · rw [handed new]
      exact current

theorem allBegun_of_action (action : Action Takes Starts source target)
    (all : AllBegun Starts source) : AllBegun Starts target := by
  cases action with
  | bookkeeping => exact ⟨all.receivers, all.handed⟩
  | permute permuted =>
    exact ⟨fun receiver member => all.receivers receiver (permuted.mem_iff.mp member), all.handed⟩
  | unblock receptionAddress =>
    refine ⟨MessageReceiver.forall_mem_of_map_forget_eq ?_
      (map_forget_unblock receptionAddress source.messageReceivers).symm all.receivers,
      all.handed⟩
    intro receiver other forgetEq begun
    rw [MessageReceiver.eq_of_forget_eq forgetEq]
    exact begun
  | @call source call neutral =>
    refine ⟨all.receivers, fun member => ?_⟩
    rcases mem_append.mp member with old | new
    · exact all.handed old
    · rw [← mem_singleton.mp new] at neutral
      exact neutral.elim
  | @touch source before after receiver target steady =>
    have replaced : AllBegun Starts
        ({ source with calls := source.calls ++ [] }.place before target after) :=
      all.replace (fun begun => begun.of_same steady.toSameReception)
        (fun member => by cases member)
    rwa [append_nil] at replaced
  | obtain _ _ obtained =>
    exact all.replace (fun begun => begun.of_same obtained.toSameReception)
      (fun member => by simp at member)
  | @offer source before after receiver target message success _ _ detached =>
    refine all.replace (fun begun => begun.of_same detached.toSameReception) ?_
    intro other _ _ member
    cases success <;> simp [offerCalls] at member <;> exact member.1
  | release detached =>
    refine all.replace (fun begun => begun.of_same detached.toSameReception) ?_
    intro other _ _ member
    simp [releaseCalls] at member
  | @frame source before after receiver message sequenceNumber data =>
    exact all.replace (fun begun => begun.consecutiveFrameReceived message sequenceNumber _ data)
      (fun member => by simp at member)
  | @insert source environment frame block blocked starts =>
    refine ⟨fun receiver member => ?_, all.handed⟩
    rcases mem_append.mp member with old | new
    · exact all.receivers receiver old
    · rw [mem_singleton.mp new]
      exact ⟨frame, starts, rfl, rfl, rfl, rfl, rfl⟩
  | remove =>
    refine ⟨fun other member => all.receivers other ?_, all.handed⟩
    rcases mem_append.mp member with early | late
    · simp [place, early]
    · simp [place, late]

/-- What a message that is handed over is compared with is what a first frame of the run
announced: a run whose first frames are some of given ones. -/
theorem begun_of_reachable {config : ReceiverConfig Address}
    (reached : ((system config).restrict fun source event =>
      Meets (fun _ _ _ => True) Starts source event.operation).Reachable source)
    {receiver : MessageReceiver Address} {message : TransportMessage} {answer : Bool}
    (handed : .messageReceived receiver message answer ∈ source.calls) :
    Begun Starts receiver := by
  have completes : Completes (fun _ _ _ => True) Starts False config (new config) source :=
    completes_of_reachable (fun _ never => never.elim) (fun _ meets => meets) reached
  have all : AllBegun Starts source := by
    have actions := completes.2
    clear completes reached handed
    induction actions with
    | refl => exact ⟨by simp [new], by simp [new]⟩
    | tail _ action ih => exact allBegun_of_action action ih
  exact all.handed handed

end First

/-- A message receiver that waits for a frame. -/
def Expects (receiver : MessageReceiver Address) (_ : UInt8) (_ : List UInt8) : Prop :=
  receiver.handler.state = .wait ∧ receiver.handler.timeout = .rx

/-- The sizes of a first frame fit together. -/
def Plausible (frame : FirstDataFrame Address) : Prop :=
  Announces frame.messageSize frame.frameCount frame.consecutiveFrameDataSize frame.data.length

/-- All receptions are in step, and all calls so far have been faithful. -/
structure InStep (receiver : Receiver Address) : Prop where
  reassembles : ∀ messageReceiver ∈ receiver.messageReceivers, Reassembles messageReceiver
  faithful : ∀ call ∈ receiver.calls, Faithful call

omit [DecidableEq Address] in
theorem InStep.replace {source : Receiver Address} {before after : List (MessageReceiver Address)}
    {receiver target : MessageReceiver Address} {calls : List (ReceiverCall Address)}
    (inStep : InStep (source.place before receiver after))
    (reassembles : Reassembles receiver → Reassembles target)
    (faithful : Reassembles receiver → ∀ call ∈ calls, Faithful call) :
    InStep ({ source with calls := source.calls ++ calls }.place before target after) where
  reassembles := by
    have current := inStep.reassembles receiver (by simp [place])
    intro messageReceiver member
    simp only [place, mem_append, mem_cons] at member
    rcases member with early | rfl | late
    · exact inStep.reassembles messageReceiver (by simp [place, early])
    · exact reassembles current
    · exact inStep.reassembles messageReceiver (by simp [place, late])
  faithful := by
    have current := inStep.reassembles receiver (by simp [place])
    intro call member
    rcases mem_append.mp member with old | new
    · exact inStep.faithful call old
    · exact faithful current call new

theorem inStep_of_action {source target : Receiver Address}
    (action : Action Expects Plausible source target) (inStep : InStep source) :
    InStep target := by
  cases action with
  | bookkeeping => exact ⟨inStep.reassembles, inStep.faithful⟩
  | permute permuted =>
    exact ⟨fun receiver member => inStep.reassembles receiver (permuted.mem_iff.mp member),
      inStep.faithful⟩
  | unblock receptionAddress =>
    exact ⟨MessageReceiver.forall_mem_of_map_forget_eq unblockable_reassembles
      (map_forget_unblock receptionAddress source.messageReceivers).symm inStep.reassembles,
      inStep.faithful⟩
  | @call source call neutral =>
    refine ⟨inStep.reassembles, fun other member => ?_⟩
    rcases mem_append.mp member with old | new
    · exact inStep.faithful other old
    · rw [mem_singleton.mp new]
      cases call <;> trivial
  | @touch source before after receiver target steady =>
    have replaced : InStep ({ source with calls := source.calls ++ [] }.place before target
        after) :=
      inStep.replace (fun reassembles => reassembles.steady steady) (by simp)
    rwa [append_nil] at replaced
  | @obtain source before after receiver target message _ _ _ _ _ _ obtained =>
    exact inStep.replace (fun reassembles => reassembles.obtained obtained)
      (by simp [Faithful])
  | @offer source before after receiver target message success messageEq processing detached =>
    refine inStep.replace (fun reassembles => reassembles.detached detached) ?_
    intro reassembles call member
    cases success with
    | true =>
      rw [mem_singleton.mp member]
      exact reassembles.delivers messageEq processing
    | false =>
      rcases mem_cons.mp member with rfl | member
      · exact reassembles.delivers messageEq processing
      · rw [mem_singleton.mp member]
        trivial
  | @release source before after receiver target detached =>
    refine inStep.replace (fun reassembles => reassembles.detached detached) ?_
    intro _ call member
    obtain ⟨message, _, rfl⟩ := mem_map.mp member
    trivial
  | @frame source before after receiver message sequenceNumber data takes messageEq long =>
    have taken := fun reassembles : Reassembles receiver =>
      reassembles.consecutiveFrameReceived messageEq takes.1 takes.2 long sequenceNumber
    refine inStep.replace (fun reassembles => (taken reassembles).1) ?_
    intro reassembles call member
    rw [mem_singleton.mp member]
    exact (taken reassembles).2
  | @insert source environment frame block blocked starts =>
    refine ⟨fun receiver member => ?_, inStep.faithful⟩
    rcases mem_append.mp member with old | new
    · exact inStep.reassembles receiver old
    · rw [mem_singleton.mp new]
      exact reassembles_newMessageReceiver environment block blocked starts
  | remove =>
    refine ⟨fun other member => inStep.reassembles other ?_, inStep.faithful⟩
    rcases mem_append.mp member with early | late
    · simp [place, early]
    · simp [place, late]

/-- A message receiver in the list that has its message and does not owe a flow
control frame waits for a consecutive frame. -/
theorem meets_of_orderly {always : Prop} {config : ReceiverConfig Address}
    {source : Receiver Address} {event : ReceiverEvent Address} (idle : source.Idle always config)
    (orderly : Orderly source event) : Meets Expects Plausible source event.operation := by
  rw [Orderly] at orderly
  cases operationEq : event.operation with
  | firstDataFrameReceived frame =>
    rw [operationEq] at orderly
    exact orderly.1.announces orderly.2
  | consecutiveDataFrameReceived receptionAddress sequenceNumber data =>
    rw [operationEq] at orderly
    intro position receiver message found entry messageEq long
    have rests := idle.rests receiver (mem_of_getElem? entry)
    rcases rests.waits with ⟨waits, timeout | ⟨_, allocating⟩, _⟩ | ⟨_, sends, _⟩
    · exact ⟨waits, timeout⟩
    · have none := rests.balanced.allocating_iff.mp allocating
      rw [messageEq] at none
      cases none
    · exact absurd sends (orderly position receiver message found entry messageEq long)
  | _ => trivial

/-- In runs in which first frames announce enough frames and no consecutive
frame meets an overdue flow control frame, every message handed over is the
segmented one, and a frame that is not counted is not appended. -/
theorem faithful_of_reachable {config : ReceiverConfig Address} {receiver : Receiver Address}
    (reached : ((system config).restrict Orderly).Reachable receiver) :
    ∀ call ∈ receiver.calls, Faithful call := by
  have completes : Completes Expects Plausible False config (new config) receiver :=
    completes_of_reachable (fun _ never => never.elim) meets_of_orderly reached
  have inStep : InStep receiver := by
    have actions := completes.2
    clear completes reached
    induction actions with
    | refl => exact ⟨by simp [new], by simp [new]⟩
    | tail _ action ih => exact inStep_of_action action ih
  exact inStep.faithful

theorem decoded_sampleFrame : Decoded sampleFrame :=
  ⟨[0x10, 0x0A, 1, 2, 3, 4, 5, 6], rfl⟩

/-- The payload of a message handed over. -/
def handedOver : ReceiverCall Address → Option (List UInt8)
  | .messageReceived _ message true => some message.payload
  | _ => none

/-- The sample message arrives. -/
def sampleMessage : List (ReceiverEvent Nat) :=
  [⟨sampleEnvironment true, .firstDataFrameReceived sampleFrame⟩,
    ⟨sampleEnvironment true, sampleConsecutive⟩]

theorem reachable_sampleMessage :
    ((system sampleConfig).restrict Orderly).Reachable (sampleRun sampleMessage) := by
  have first : ((system sampleConfig).restrict Orderly).Step (new sampleConfig)
      ⟨sampleEnvironment true, .firstDataFrameReceived sampleFrame⟩
      (sampleRun [⟨sampleEnvironment true, .firstDataFrameReceived sampleFrame⟩]) :=
    ⟨rfl, decoded_sampleFrame, .inl (by decide)⟩
  have second : ((system sampleConfig).restrict Orderly).Step
      (sampleRun [⟨sampleEnvironment true, .firstDataFrameReceived sampleFrame⟩])
      ⟨sampleEnvironment true, sampleConsecutive⟩ (sampleRun sampleMessage) := by
    refine ⟨rfl, ?_⟩
    intro position receiver message found entry _ _
    have positionEq : position = 0 := (Option.some_inj.mp found).symm
    subst positionEq
    have entryEq := Option.some_inj.mp entry
    rw [← entryEq]
    decide
  exact .step (.step (.initial rfl) first) second

theorem faithful_sampleMessage :
    ∃ receiver : Receiver Nat, ((system sampleConfig).restrict Orderly).Reachable receiver ∧
      receiver.calls.filterMap handedOver = [[1, 2, 3, 4, 5, 6, 7, 8, 9, 10]] ∧
      ∀ call ∈ receiver.calls, Faithful call :=
  ⟨_, reachable_sampleMessage, by decide, faithful_of_reachable reachable_sampleMessage⟩

/-- A consecutive frame that meets an overdue flow control frame is appended
without being counted. -/
theorem not_faithful_overdue :
    ∃ receiver : Receiver Nat,
      ((system sampleConfig).restrict fun source event =>
        Meets (fun _ _ _ => True) Decoded source event.operation).Reachable receiver ∧
      ∃ call ∈ receiver.calls, ¬Faithful call := by
  have first : ((system sampleConfig).restrict fun source event =>
        Meets (fun _ _ _ => True) Decoded source event.operation).Step (new sampleConfig)
      ⟨sampleEnvironment false, .firstDataFrameReceived sampleFrame⟩
      (sampleRun [⟨sampleEnvironment false, .firstDataFrameReceived sampleFrame⟩]) :=
    ⟨rfl, decoded_sampleFrame⟩
  have second : ((system sampleConfig).restrict fun source event =>
        Meets (fun _ _ _ => True) Decoded source event.operation).Step
      (sampleRun [⟨sampleEnvironment false, .firstDataFrameReceived sampleFrame⟩])
      ⟨sampleEnvironment true, sampleConsecutive⟩
      (sampleRun [⟨sampleEnvironment false, .firstDataFrameReceived sampleFrame⟩,
        ⟨sampleEnvironment true, sampleConsecutive⟩]) :=
    ⟨rfl, fun _ _ _ _ _ _ _ => trivial⟩
  refine ⟨_, .step (.step (.initial rfl) first) second, _, mem_of_getLast? rfl, ?_⟩
  intro faithful
  exact absurd (faithful rfl) (by decide)

end Receiver

end OpenBsw.Docan
