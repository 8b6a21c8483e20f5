import OpenBsw.Docan.Datalink.Layout

/-!
# Decoding undoes encoding

An encoded payload is the concatenation of untouched bytes, header, data and
filler.  Each decoder reads fields at fixed positions behind the offset, so it
is enough to know what a field of such a concatenation is and that the two
halves of a type byte do not disturb each other.
-/

namespace OpenBsw.Docan

open OpenBsw.Bytes List

/-! ## Nibbles -/

variable (frameType : FrameType) {config : FrameCodecConfig} {connection : Connection Address}
  {messageSize : Nat}

theorem highNibble_typeByte (nibble : UInt8) :
    FrameType.ofCode ((typeByte frameType nibble >>> 4) &&& 0x0F) = some frameType := by
  have high : ∀ byte : UInt8,
      ((frameType.code <<< 4 ||| (byte &&& 0x0F)) >>> 4) &&& 0x0F = frameType.code := by
    cases frameType <;> exact forall_byte (by decide +kernel)
  rw [typeByte, high]
  cases frameType <;> rfl

theorem lowNibble_typeByte (nibble : UInt8) :
    typeByte frameType nibble &&& 0x0F = nibble &&& 0x0F := by
  have low : ∀ byte : UInt8,
      (frameType.code <<< 4 ||| (byte &&& 0x0F)) &&& 0x0F = byte &&& 0x0F := by
    cases frameType <;> exact forall_byte (by decide +kernel)
  exact low nibble

theorem ofCode_marked (byte : UInt8) (small : byte.toNat < 16) :
    FrameType.ofCode (((byte ||| (frameType.code <<< 4)) >>> 4) &&& 0x0F) = some frameType := by
  have high : ∀ byte : UInt8, byte.toNat < 16 →
      ((byte ||| (frameType.code <<< 4)) >>> 4) &&& 0x0F = frameType.code := by
    cases frameType <;> exact forall_byte (by decide +kernel)
  rw [high byte small]
  cases frameType <;> rfl

theorem toNat_marked {byte : UInt8} (small : byte.toNat < 16) :
    (byte ||| (FrameType.first.code <<< 4)).toNat = byte.toNat + 16 := by
  have marked : ∀ byte : UInt8, byte.toNat < 16 →
      (byte ||| (FrameType.first.code <<< 4)).toNat = byte.toNat + 16 :=
    forall_byte (by decide +kernel)
  exact marked byte small

/-! ## Fields of an encoded payload -/

/-- A payload of `size` bytes that carries a header and a data block behind
the offset. -/
structure Carries (config : FrameCodecConfig) (header block : List UInt8) (size : Nat)
    (frame : List UInt8) : Prop where
  eq_append : ∃ front filler, front.length = config.offset ∧
    frame = front ++ header ++ block ++ filler
  length_eq : frame.length = size

namespace Carries

variable {config : FrameCodecConfig} {header block frame : List UInt8} {size : Nat}

theorem slice_header (carries : Carries config header block size frame) (start count : Nat)
    (inside : start + count ≤ header.length) :
    slice frame (config.offset + start) count = slice header start count := by
  obtain ⟨front, filler, offsetEq, rfl⟩ := carries.eq_append
  rw [append_assoc]
  exact slice_middle offsetEq inside

theorem byteAt_header (carries : Carries config header block size frame) (position : Nat)
    (inside : position < header.length) :
    byteAt frame (config.offset + position) = header[position] := by
  obtain ⟨front, filler, offsetEq, rfl⟩ := carries.eq_append
  rw [byteAt, append_assoc, append_assoc, getD_eq_getElem?_getD,
    List.getElem?_append_right (by omega), offsetEq, Nat.add_sub_cancel_left,
    List.getElem?_append_left inside, List.getElem?_eq_getElem inside, Option.getD_some]

theorem slice_block (carries : Carries config header block size frame) (start : Nat) {count : Nat}
    (startEq : header.length = start) (countEq : block.length = count) :
    slice frame (config.offset + start) count = block := by
  obtain ⟨front, filler, offsetEq, rfl⟩ := carries.eq_append
  have middle : slice (front ++ header ++ block ++ filler) (config.offset + start + 0) count =
      slice block 0 count :=
    slice_middle (by rw [List.length_append]; omega) (by omega)
  rw [Nat.add_zero] at middle
  rw [middle, slice, drop_zero, take_of_length_le (by omega)]

/-- Whatever follows the header starts with the data block. -/
theorem block_prefix (carries : Carries config header block size frame) (start : Nat)
    (startEq : header.length = start) :
    block <+: slice frame (config.offset + start) (frame.length - (config.offset + start)) := by
  obtain ⟨front, filler, offsetEq, rfl⟩ := carries.eq_append
  rw [append_assoc (front ++ header),
    slice_back (by rw [List.length_append]; omega) (by simp; omega)]
  exact prefix_append _ _

theorem checkFrameSize (carries : Carries config header block size frame)
    (minPayloadSize : Nat) {sizes : SizeConfig} (minPayload : config.offset + minPayloadSize ≤ size)
    (minSize : sizes.min ≤ size) (maxSize : size ≤ sizes.max) :
    OpenBsw.Docan.checkFrameSize config frame minPayloadSize sizes = true := by
  simp [OpenBsw.Docan.checkFrameSize, carries.length_eq, minPayload, minSize, maxSize]

theorem decodeFrameType (carries : Carries config header block size frame)
    (nonempty : 0 < header.length) {frameType : FrameType}
    (typeEq : FrameType.ofCode ((header[0] >>> 4) &&& 0x0F) = some frameType) :
    OpenBsw.Docan.decodeFrameType config frame = .ok (some frameType) := by
  have longer : ¬frame.length ≤ config.offset := by
    obtain ⟨front, filler, offsetEq, rfl⟩ := carries.eq_append
    simp only [List.length_append]
    omega
  have first := carries.byteAt_header 0 nonempty
  rw [Nat.add_zero] at first
  rw [OpenBsw.Docan.decodeFrameType, if_neg longer, first, typeEq]

end Carries

/-! ## Decoders on encoded payloads -/

section Decoders

variable {layer : DataLinkLayer} {config : FrameCodecConfig}
variable {header block frame : List UInt8} {size : Nat}

theorem toNat_lowNibble {value : Nat} (small : value < 16) :
    (UInt8.ofNat value &&& 0x0F).toNat = value := by
  have lowBits : value % 256 &&& 15 = value % 256 % 2 ^ 4 := Nat.and_two_pow_sub_one_eq_mod _ 4
  rw [UInt8.toNat_and, UInt8.toNat_ofNat']
  exact lowBits.trans (by omega)

theorem messageSize_of_lt {value : Nat} (small : value < 256) :
    layer.messageSize value = value := by
  have wide : 2 ^ 8 ≤ 2 ^ layer.messageSizeBits :=
    Nat.pow_le_pow_right (by decide) layer.byte_le_messageSize
  exact Nat.mod_eq_of_lt (by omega)

theorem messageSize_of_le {value : Nat} (representable : value ≤ layer.messageSizeMax) :
    layer.messageSize value = value := by
  have positive : 0 < 2 ^ layer.messageSizeBits := Nat.pow_pos (by decide)
  rw [DataLinkLayer.messageSizeMax] at representable
  exact Nat.mod_eq_of_lt (by omega)

theorem decodeSingleFrame_short
    (carries : Carries config [typeByte .single (UInt8.ofNat block.length)] block size frame)
    (nonempty : 0 < block.length) (room : config.offset + 1 + block.length ≤ size)
    (classic : size ≤ 8) (minSize : config.singleFrameSize.min ≤ size)
    (maxSize : size ≤ config.singleFrameSize.max) :
    decodeSingleFrame layer config frame = .ok (block.length, block) := by
  have checked := carries.checkFrameSize 2 (by omega) minSize maxSize
  have lengthNibble := carries.byteAt_header 0 (by simp)
  rw [Nat.add_zero, getElem_cons_zero] at lengthNibble
  have sizeEq : (byteAt frame config.offset &&& 0x0F).toNat = block.length := by
    rw [lengthNibble, lowNibble_typeByte, toNat_lowNibble (by omega)]
  have checkSizeEq : layer.messageSize (block.length + config.offset + 1) =
      block.length + config.offset + 1 := messageSize_of_lt (by omega)
  have dataEq := carries.slice_block 1 rfl rfl
  simp only [decodeSingleFrame, checked, if_true, sizeEq, checkSizeEq, carries.length_eq,
    extendedSfDlEdgeSize]
  rw [if_neg (by omega), if_pos (by omega), if_pos (by omega), dataEq]

theorem decodeSingleFrame_long
    (carries : Carries config [FrameType.single.code <<< 4, UInt8.ofNat block.length] block
      size frame)
    (room : config.offset + 2 + block.length ≤ size)
    (extended : 8 < size) (minSize : config.singleFrameSize.min ≤ size)
    (maxSize : size ≤ config.singleFrameSize.max) :
    decodeSingleFrame layer config frame = .ok (block.length, block) := by
  have maxLt := config.singleFrameSize.max_lt
  have checked := carries.checkFrameSize 2 (by omega) minSize maxSize
  have lengthNibble := carries.byteAt_header 0 (by simp)
  rw [Nat.add_zero, getElem_cons_zero] at lengthNibble
  have nibbleEq : (byteAt frame config.offset &&& 0x0F).toNat = 0 := by
    rw [lengthNibble]
    decide
  have sizeEq : (byteAt frame (config.offset + 1)).toNat = block.length := by
    rw [carries.byteAt_header 1 (by simp)]
    simp only [getElem_cons_succ, getElem_cons_zero, UInt8.toNat_ofNat']
    omega
  have checkSizeEq : layer.messageSize (block.length + config.offset + 2) =
      block.length + config.offset + 2 := messageSize_of_lt (by omega)
  have dataEq := carries.slice_block 2 rfl rfl
  simp only [decodeSingleFrame, checked, if_true, nibbleEq, sizeEq, checkSizeEq,
    messageSize_of_lt maxLt, carries.length_eq, extendedSfDlEdgeSize]
  rw [if_pos ⟨trivial, extended⟩, if_pos (by omega), dataEq]

theorem bigEndian_two (value : Nat) :
    bigEndian 2 value = [UInt8.ofNat (value / 256), UInt8.ofNat value] := by
  simp [bigEndian]

theorem ofBigEndian_pair (high low : UInt8) :
    ofBigEndian [high, low] = high.toNat * 256 + low.toNat := by
  simp [ofBigEndian]

theorem sizeField_marked (unescaped : messageSize ≤ 4095) :
    ofBigEndian (markType .first (bigEndian 2 (messageSize &&& 0xFFF))) &&& 0xFFF =
      messageSize := by
  have masked (value : Nat) : value &&& 0xFFF = value % 4096 :=
    Nat.and_two_pow_sub_one_eq_mod value 12
  have highEq : (UInt8.ofNat (messageSize / 256)).toNat = messageSize / 256 := by
    rw [UInt8.toNat_ofNat']
    omega
  have unmasked : messageSize &&& 0xFFF = messageSize := by
    rw [masked]
    omega
  rw [unmasked, bigEndian_two, markType, ofBigEndian_pair, toNat_marked (by omega), masked,
    highEq, UInt8.toNat_ofNat']
  omega

theorem ofCode_sizeField (messageSize : Nat)
    {nonempty : 0 < (markType .first (bigEndian 2 (messageSize &&& 0xFFF))).length} :
    FrameType.ofCode
        (((markType .first (bigEndian 2 (messageSize &&& 0xFFF)))[0] >>> 4) &&& 0x0F) =
      some .first := by
  have masked : messageSize &&& 0xFFF = messageSize % 4096 :=
    Nat.and_two_pow_sub_one_eq_mod messageSize 12
  have small : (UInt8.ofNat ((messageSize &&& 0xFFF) / 256)).toNat < 16 := by
    rw [UInt8.toNat_ofNat', masked]
    omega
  simp only [bigEndian_two, markType, getElem_cons_zero]
  exact ofCode_marked .first _ small

/-- The size field of a normal first frame. -/
theorem decodeFirstFrameSize_unescaped
    (carries : Carries config (markType .first (bigEndian 2 (messageSize &&& 0xFFF))) block
      size frame) (nonzero : messageSize ≠ 0) (unescaped : messageSize ≤ 4095)
    (representable : messageSize ≤ layer.messageSizeMax) :
    decodeFirstFrameSize layer config frame = .ok (messageSize, 2) := by
  have headerLength : (markType .first (bigEndian 2 (messageSize &&& 0xFFF))).length = 2 := by
    rw [length_markType, length_bigEndian]
  have field := carries.slice_header 0 2 (by omega)
  rw [Nat.add_zero] at field
  have whole : slice (markType .first (bigEndian 2 (messageSize &&& 0xFFF))) 0 2 =
      markType .first (bigEndian 2 (messageSize &&& 0xFFF)) := by
    rw [slice, drop_zero, take_of_length_le (by omega)]
  simp only [decodeFirstFrameSize, field, whole, sizeField_marked unescaped,
    messageSize_of_le representable]
  rw [if_neg nonzero]

/-- The size field of an escaped first frame. -/
theorem decodeFirstFrameSize_escaped
    (carries : Carries config (markType .first ([0, 0] ++ bigEndian 4 messageSize)) block
      size frame) (checked : checkFrameSize config frame 6 config.firstFrameSize = true)
    (escaped : 4095 < messageSize) (representable : messageSize ≤ layer.messageSizeMax) :
    decodeFirstFrameSize layer config frame = .ok (messageSize, 6) := by
  have headerLength : (markType .first ([0, 0] ++ bigEndian 4 messageSize)).length = 6 := by
    rw [length_markType, List.length_append, length_bigEndian]
    rfl
  have field := carries.slice_header 0 2 (by omega)
  rw [Nat.add_zero] at field
  have escapeField := carries.slice_header 2 4 (by omega)
  have fieldEq :
      slice (markType .first ([0, 0] ++ bigEndian 4 messageSize)) 0 2 = [0x10, 0] := rfl
  have maskedEq : ofBigEndian [0x10, 0] &&& 0xFFF = 0 := by decide
  have escapeEq :
      slice (markType .first ([0, 0] ++ bigEndian 4 messageSize)) 2 4 =
        bigEndian 4 messageSize := by
    have rest : slice (markType .first ([0, 0] ++ bigEndian 4 messageSize)) 2 4 =
        (bigEndian 4 messageSize).take 4 := rfl
    rw [rest, take_of_length_le (Nat.le_of_eq (length_bigEndian 4 messageSize))]
  have word : messageSize < 256 ^ 4 := by
    have narrow : 2 ^ layer.messageSizeBits ≤ 2 ^ 32 :=
      Nat.pow_le_pow_right (by decide) layer.messageSize_le_word
    rw [DataLinkLayer.messageSizeMax] at representable
    omega
  have zeroEq : layer.messageSize 0 = 0 := messageSize_of_lt (by decide)
  simp only [decodeFirstFrameSize, field, fieldEq, maskedEq, zeroEq, if_true, checked, escapeField,
    escapeEq, ofBigEndian_bigEndian word, messageSize_of_le representable, escapedSeqMessageSize]
  rw [if_neg (by omega)]

/-- A first frame announces the message as the sender counted it. -/
theorem decodeFirstFrame_of_size {messageSize frameCount consecutiveFrameDataSize dataStart : Nat}
    (accepted : AcceptedAs layer config messageSize frameCount consecutiveFrameDataSize)
    (segmented : frameCount ≠ 1)
    (carries : Carries config header block config.maxFrameSize frame)
    (checked : checkFrameSize config frame 3 config.firstFrameSize = true)
    (sizeField : decodeFirstFrameSize layer config frame = .ok (messageSize, dataStart))
    (startEq : header.length = dataStart)
    (blockEq : block.length = consecutiveFrameDataSize + 1 - dataStart) :
    decodeFirstFrame layer config frame =
      .ok { messageSize, frameCount, consecutiveFrameDataSize, data := block } := by
  cases accepted with
  | singleFrame => exact absurd rfl segmented
  | segmented sizeEq long notShort notLong countable =>
    have maxLt : config.maxFrameSize < 256 := config.consecutiveFrameSize.max_lt
    have segmentEq : frameSize (frame.length - (config.offset + 1)) =
        consecutiveFrameDataSize := by
      rw [carries.length_eq, frameSize, Nat.mod_eq_of_lt (by omega)]
      omega
    have dataEq := carries.slice_block _ startEq blockEq
    simp only [decodeFirstFrame, checked, if_true, segmentEq, sizeField, bind, Except.bind,
      frameIndex_succ countable, notShort, notLong, dataEq]
    have large : config.offset + 2 ≤ config.maxFrameSize := config.consecutiveFrame_large
    have several := Nat.div_pos long (by omega)
    rw [if_neg (Nat.not_le.mpr countable),
      if_pos ⟨Nat.succ_lt_succ several, by simp, by simp⟩]

theorem decodeConsecutiveFrame_prefix {sequenceNumber : UInt8}
    (carries : Carries config [typeByte .consecutive sequenceNumber] block size frame)
    (room : config.offset + 2 ≤ size) (minSize : config.consecutiveFrameSize.min ≤ size)
    (maxSize : size ≤ config.consecutiveFrameSize.max) :
    ∃ data, decodeConsecutiveFrame config frame = .ok (sequenceNumber &&& 0x0F, data) ∧
      block <+: data := by
  have checked := carries.checkFrameSize 2 room minSize maxSize
  have number := carries.byteAt_header 0 (by simp)
  rw [Nat.add_zero, getElem_cons_zero] at number
  refine ⟨_, ?_, carries.block_prefix 1 rfl⟩
  simp only [decodeConsecutiveFrame, checked, if_true, number, lowNibble_typeByte]

theorem decodeFlowControlFrame_header {flowStatus blockSize encodedMinSeparationTime : UInt8}
    (carries : Carries config
      [typeByte .flowControl flowStatus, blockSize, encodedMinSeparationTime] block size frame)
    (room : config.offset + 3 ≤ size) (minSize : config.flowControlFrameSize.min ≤ size)
    (maxSize : size ≤ config.flowControlFrameSize.max) :
    decodeFlowControlFrame config frame =
      .ok (FlowStatus.ofCode (flowStatus &&& 0x0F), blockSize, encodedMinSeparationTime) := by
  have checked := carries.checkFrameSize 3 room minSize maxSize
  have status := carries.byteAt_header 0 (by simp)
  rw [Nat.add_zero, getElem_cons_zero] at status
  have second := carries.byteAt_header 1 (by simp)
  have third := carries.byteAt_header 2 (by simp)
  simp only [decodeFlowControlFrame, checked, if_true, status, second, third, lowNibble_typeByte,
    getElem_cons_succ, getElem_cons_zero]

end Decoders

/-! ## Round trips -/

section RoundTrips

variable {layer : DataLinkLayer} {mapper : FrameSizeMapper} {Address : Type}

/-- The call a frame of a sent message causes at its receiver. -/
inductive Delivers (connection : Connection Address) (message data : List UInt8)
    (frameCount consecutiveFrameDataSize frameIndex consumedDataSize : Nat) :
    FrameEvent Address → Prop
  | single (first : frameIndex = 0) (one : frameCount = 1) :
      Delivers connection message data frameCount consecutiveFrameDataSize frameIndex
        consumedDataSize (.firstDataFrameReceived connection message.length 1 0 message)
  | first (first : frameIndex = 0) (segmented : frameCount ≠ 1) :
      Delivers connection message data frameCount consecutiveFrameDataSize frameIndex
        consumedDataSize
        (.firstDataFrameReceived connection message.length frameCount consecutiveFrameDataSize
          (data.take consumedDataSize))
  | consecutive {received : List UInt8} (later : frameIndex ≠ 0)
      (sent : data.take consumedDataSize <+: received) :
      Delivers connection message data frameCount consecutiveFrameDataSize frameIndex
        consumedDataSize
        (.consecutiveDataFrameReceived connection.dataLinkAddressPair.receptionAddress
          (UInt8.ofNat (frameIndex % 16)) received)

theorem lowNibble_ofNat (value : Nat) : UInt8.ofNat value &&& 0x0F = UInt8.ofNat (value % 16) := by
  apply UInt8.toNat_inj.mp
  have lowBits : value % 256 &&& 15 = value % 256 % 2 ^ 4 := Nat.and_two_pow_sub_one_eq_mod _ 4
  rw [UInt8.toNat_and, UInt8.toNat_ofNat', UInt8.toNat_ofNat']
  exact lowBits.trans (by omega)

/-- What the encoder checks before it encodes. -/
theorem of_encodeDataFrame_eq_ok {payload data frame : List UInt8}
    {consecutiveFrameDataSize frameIndex consumedDataSize : Nat}
    (encoded : encodeDataFrame layer config mapper payload data frameIndex
      consecutiveFrameDataSize = .ok (frame, consumedDataSize)) :
    0 < data.length ∧ data.length ≤ layer.messageSizeMax ∧
      (frameIndex ≠ 0 → 0 < consecutiveFrameDataSize) := by
  rw [encodeDataFrame] at encoded
  split at encoded
  · contradiction
  rename_i sizeOk
  refine ⟨by omega, by omega, ?_⟩
  intro later
  refine Nat.pos_of_ne_zero fun zero => ?_
  subst zero
  simp [frameLayout, later] at encoded

/-- An encoded frame of an accepted message, with the layout that produced it. -/
theorem exists_carries (uniform : config.Uniform) {payload message data frame : List UInt8}
    {frameCount consecutiveFrameDataSize frameIndex consumedDataSize : Nat}
    (bufferSize : payload.length = config.maxFrameSize)
    (accepted : AcceptedAs layer config message.length frameCount consecutiveFrameDataSize)
    (whole : frameIndex = 0 → data = message)
    (encoded : encodeDataFrame layer config mapper payload data frameIndex
      consecutiveFrameDataSize = .ok (frame, consumedDataSize)) :
    ∃ layout size, DataFrame config data.length frameIndex consecutiveFrameDataSize layout ∧
      layout.consumedDataSize = consumedDataSize ∧
      PaddedSize config (max (config.offset + layout.header.length + consumedDataSize)
        layout.minFrameSize) size ∧
      Carries config layout.header (data.take consumedDataSize) size frame := by
  obtain ⟨nonempty, representable, segmented⟩ := of_encodeDataFrame_eq_ok encoded
  have several : frameIndex ≠ 0 → frameCount ≠ 1 := by
    intro later one
    cases accepted with
    | singleFrame => exact absurd (segmented later) (Nat.lt_irrefl 0)
    | segmented sizeEq long =>
      have quotient := Nat.div_pos long (segmented later)
      omega
  obtain ⟨layout, dataFrame⟩ := accepted.exists_dataFrame data.length frameIndex
    (fun first => by rw [whole first]) several
  obtain ⟨size, padded, encoded'⟩ := encodeDataFrame_eq_ok layer mapper
    uniform bufferSize (ne_nil_of_length_pos nonempty) representable dataFrame
  rw [encoded, Except.ok.injEq, Prod.mk.injEq] at encoded'
  obtain ⟨frameEq, consumedEq⟩ := encoded'
  subst consumedEq
  have fits := dataFrame.fits uniform
  have wanted := padded.wanted_le
  refine ⟨layout, size, dataFrame, rfl, padded, ⟨_, _, ?_, frameEq⟩, ?_⟩
  · rw [length_take]
    omega
  · rw [frameEq]
    simp only [List.length_append, length_take, length_replicate]
    have available := dataFrame.available
    omega

theorem decodeFrame_single {frame data : List UInt8}
    (typed : decodeFrameType connection.config frame = .ok (some .single))
    (decoded : decodeSingleFrame layer connection.config frame = .ok (messageSize, data)) :
    decodeFrame layer connection frame =
      .ok (.firstDataFrameReceived connection messageSize 1 0 data) := by
  simp only [decodeFrame, typed, decoded, bind, Except.bind, pure, Except.pure]

theorem decodeFrame_first {frame : List UInt8} {first : FirstFrame}
    (typed : decodeFrameType connection.config frame = .ok (some .first))
    (decoded : decodeFirstFrame layer connection.config frame = .ok first) :
    decodeFrame layer connection frame =
      .ok (.firstDataFrameReceived connection first.messageSize first.frameCount
        first.consecutiveFrameDataSize first.data) := by
  simp only [decodeFrame, typed, decoded, bind, Except.bind, pure, Except.pure]

/-- The receiver of an encoded frame gets the message size, counts and data
the sender encoded.

The cases are the five layouts; in each the decoder meets the type byte and
the size field the encoder wrote, whatever the filler behind the data is. -/
theorem decodeFrame_encodeDataFrame (preset : connection.config ∈ FrameCodecConfig.presets)
    {payload message data frame : List UInt8}
    {frameCount consecutiveFrameDataSize frameIndex consumedDataSize : Nat}
    (bufferSize : payload.length = connection.config.maxFrameSize)
    (accepted : getEncodedFrameCount layer connection.config message.length =
      .ok (frameCount, consecutiveFrameDataSize)) (whole : frameIndex = 0 → data = message)
    (encoded : encodeDataFrame layer connection.config mapper payload data frameIndex
      consecutiveFrameDataSize = .ok (frame, consumedDataSize)) :
    ∃ event, decodeFrame layer connection frame = .ok event ∧
      Delivers connection message data frameCount consecutiveFrameDataSize frameIndex
        consumedDataSize event := by
  have uniform := FrameCodecConfig.uniform_of_mem_presets preset
  obtain ⟨-, acceptedAs⟩ := acceptedAs_of_getEncodedFrameCount uniform accepted
  obtain ⟨nonempty, representable, positive⟩ := of_encodeDataFrame_eq_ok encoded
  obtain ⟨layout, size, dataFrame, consumedEq, padded, carries⟩ :=
    exists_carries uniform bufferSize acceptedAs whole encoded
  have sizeCases := uniform.maxFrameSize_eq
  have offsetLe := uniform.offset_le
  have wanted := padded.wanted_le
  have upper := padded.le_max
  have blockLength : (data.take consumedDataSize).length = consumedDataSize := by
    have available := dataFrame.available
    rw [length_take]
    omega
  cases dataFrame with
  | shortSingle fits =>
    obtain rfl := whole rfl
    subst consumedEq
    have bound := fitsIntoShortSingleFrame_iff.mp fits
    have singleMin := uniform.single_min
    have exactSize := padded.eq_of_le (by simp only [length_singleton]; omega)
    simp only [length_singleton] at wanted exactSize
    simp only [take_length] at carries
    have one : frameCount = 1 := acceptedAs.frameCount_eq_one (.inl fits)
    refine ⟨_, decodeFrame_single
      (carries.decodeFrameType (by simp) (highNibble_typeByte .single _))
      (decodeSingleFrame_short carries nonempty (by omega) (by omega) (by omega)
        (by rw [uniform.single_max]; exact upper)), .single rfl one⟩
  | longSingle notShort fits =>
    obtain rfl := whole rfl
    subst consumedEq
    simp only [length_cons, length_nil] at wanted
    simp only [take_length] at carries
    have tooLong := mt fitsIntoShortSingleFrame_iff.mpr (Bool.eq_false_iff.mp notShort)
    rw [uniform.single_max] at tooLong
    have one : frameCount = 1 := acceptedAs.frameCount_eq_one (.inr fits)
    have typed : FrameType.ofCode (((FrameType.single.code <<< 4) >>> 4) &&& 0x0F) =
        some .single := by decide
    refine ⟨_, decodeFrame_single (carries.decodeFrameType (by simp) typed)
      (decodeSingleFrame_long carries (by omega) (by omega) (by omega)
        (by rw [uniform.single_max]; exact upper)), .single rfl one⟩
  | first sizeEq long notShort notLong unescaped =>
    obtain rfl := whole rfl
    have firstMin := uniform.first_min
    have fullSize : size = connection.config.maxFrameSize := by
      simp only at wanted
      omega
    subst fullSize
    have segmented : frameCount ≠ 1 := acceptedAs.frameCount_ne_one notShort notLong
    have decoded := decodeFirstFrame_of_size acceptedAs segmented carries
      (carries.checkFrameSize 3 (by omega) (by omega) (Nat.le_of_eq uniform.first_max.symm))
      (decodeFirstFrameSize_unescaped carries (by omega) unescaped representable)
      (by rw [length_markType, length_bigEndian]) (by simp only at consumedEq; omega)
    refine ⟨_, decodeFrame_first (carries.decodeFrameType ?_ ?_) decoded, .first rfl segmented⟩
    · rw [length_markType, length_bigEndian]
      decide
    · exact ofCode_sizeField _
  | escapedFirst sizeEq long notShort notLong escaped =>
    obtain rfl := whole rfl
    have firstMin := uniform.first_min
    have fullSize : size = connection.config.maxFrameSize := by
      simp only at wanted
      omega
    subst fullSize
    have segmented : frameCount ≠ 1 := acceptedAs.frameCount_ne_one notShort notLong
    have decoded := decodeFirstFrame_of_size acceptedAs segmented carries
      (carries.checkFrameSize 3 (by omega) (by omega) (Nat.le_of_eq uniform.first_max.symm))
      (decodeFirstFrameSize_escaped carries
        (carries.checkFrameSize 6 (by omega) (by omega) (Nat.le_of_eq uniform.first_max.symm))
        escaped representable)
      (by rfl) (by simp only at consumedEq; omega)
    have typed := ofCode_marked .first 0 (by decide)
    exact ⟨_, decodeFrame_first (carries.decodeFrameType (by simp [markType]) typed) decoded,
      .first rfl segmented⟩
  | consecutive later sizeEq =>
    simp only [length_singleton] at consumedEq wanted
    have segment := positive later
    obtain ⟨received, decoded, sent⟩ :=
      decodeConsecutiveFrame_prefix carries (by omega) (by omega) upper
    refine ⟨_, ?_, .consecutive later sent⟩
    rw [decodeFrame, carries.decodeFrameType (by simp) (highNibble_typeByte _ _)]
    simp only [bind, Except.bind, decoded, lowNibble_ofNat, pure, Except.pure]

/-- A flow control frame with a status nibble is decoded as it was encoded. -/
theorem exists_decodeFlowControlFrame (uniform : config.Uniform) {payload : List UInt8}
    (bufferSize : payload.length = config.maxFrameSize) {flowStatus : UInt8}
    (nibble : flowStatus.toNat < 16) (blockSize encodedMinSeparationTime : UInt8) :
    ∃ frame,
      encodeFlowControlFrame config mapper payload (FlowStatus.ofCode flowStatus) blockSize
        encodedMinSeparationTime = .ok frame ∧
      decodeFlowControlFrame config frame =
        .ok (FlowStatus.ofCode flowStatus, blockSize, encodedMinSeparationTime) := by
  have sizeCases := uniform.maxFrameSize_eq
  have offsetLe := uniform.offset_le
  have flowControlMin := uniform.flowControl_min
  have lowNibble : ∀ byte : UInt8, byte.toNat < 16 → byte &&& 0x0F = byte :=
    forall_byte (by decide +kernel)
  generalize headerEq :
    [typeByte .flowControl flowStatus, blockSize, encodedMinSeparationTime] = header
  have headerLength : header.length = 3 := by
    rw [← headerEq]
    rfl
  have writtenLength : (overwrite payload config.offset header).length = config.maxFrameSize := by
    rw [length_overwrite (by omega), bufferSize]
  have offsetFits : config.offset ≤ payload.length := by omega
  have cut := take_overwrite payload header offsetFits
  obtain ⟨size, padded, adjusted⟩ := adjustFrame_eq_ok mapper uniform
    (config.offset + 3) config.flowControlFrameSize.min writtenLength (by omega) (by omega)
  rw [headerLength] at cut
  rw [cut] at adjusted
  have wanted := padded.wanted_le
  have sizeEq : frameSize (config.offset + 3) = config.offset + 3 := Nat.mod_eq_of_lt (by omega)
  refine ⟨payload.take config.offset ++ header ++
    List.replicate (size - (config.offset + 3)) config.filler, ?_, ?_⟩
  · rw [encodeFlowControlFrame, if_neg (by omega), FlowStatus.code_ofCode, headerEq, sizeEq]
    exact adjusted
  · have carries : Carries config header [] size (payload.take config.offset ++ header ++
        List.replicate (size - (config.offset + 3)) config.filler) := by
      refine ⟨⟨payload.take config.offset,
        List.replicate (size - (config.offset + 3)) config.filler, ?_, by simp⟩, ?_⟩
      · rw [length_take]
        omega
      · simp only [List.length_append, length_take, length_replicate]
        omega
    subst headerEq
    have decoded := decodeFlowControlFrame_header carries (by omega) (by omega)
      (by rw [uniform.flowControl_max]; exact padded.le_max)
    rwa [lowNibble flowStatus nibble] at decoded

/-- Decoding undoes encoding: a data frame is delivered with what its sender
counted and consumed, a flow control frame with the fields it was built from. -/
theorem frameCodec_roundTrip (layer : DataLinkLayer) (mapper : FrameSizeMapper)
    {connection : Connection Address}
    (preset : connection.config ∈ FrameCodecConfig.presets)
    {payload : List UInt8} (bufferSize : payload.length = connection.config.maxFrameSize) :
    (∀ (message data frame : List UInt8)
        (frameCount consecutiveFrameDataSize frameIndex consumedDataSize : Nat),
      getEncodedFrameCount layer connection.config message.length =
        .ok (frameCount, consecutiveFrameDataSize) →
      (frameIndex = 0 → data = message) →
      encodeDataFrame layer connection.config mapper payload data frameIndex
        consecutiveFrameDataSize = .ok (frame, consumedDataSize) →
      ∃ event, decodeFrame layer connection frame = .ok event ∧
        Delivers connection message data frameCount consecutiveFrameDataSize frameIndex
          consumedDataSize event) ∧
    ∀ flowStatus : UInt8, flowStatus.toNat < 16 → ∀ blockSize encodedMinSeparationTime,
      ∃ frame,
        encodeFlowControlFrame connection.config mapper payload (FlowStatus.ofCode flowStatus)
          blockSize encodedMinSeparationTime = .ok frame ∧
        decodeFlowControlFrame connection.config frame =
          .ok (FlowStatus.ofCode flowStatus, blockSize, encodedMinSeparationTime) := by
  constructor
  · intro message data frame frameCount consecutiveFrameDataSize frameIndex consumedDataSize
      accepted whole encoded
    exact decodeFrame_encodeDataFrame preset bufferSize accepted whole encoded
  · intro flowStatus nibble blockSize encodedMinSeparationTime
    exact exists_decodeFlowControlFrame (FrameCodecConfig.uniform_of_mem_presets preset)
      bufferSize nibble blockSize encodedMinSeparationTime

/-- The first frame of ten bytes under extended addressing carries five of
them. -/
theorem frameCodec_roundTrip_tenBytes :
    ∃ event,
      decodeFrame .standard
          { config := .eaPaddedClassic, dataLinkAddressPair := ⟨0x600, 0x601⟩
            transportAddressPair := ⟨1, 2⟩ : Connection Nat }
          [0, 0x10, 0x0A, 0x11, 0x11, 0x11, 0x11, 0x11] = .ok event ∧
        Delivers
          { config := .eaPaddedClassic, dataLinkAddressPair := ⟨0x600, 0x601⟩
            transportAddressPair := ⟨1, 2⟩ }
          (List.replicate 10 0x11) (List.replicate 10 0x11) 2 6 0 5 event :=
  (frameCodec_roundTrip .standard .default (by decide)
    (length_replicate : (List.replicate 8 (0 : UInt8)).length = 8)).1 _ _ _ 2 6 0 5 (by decide)
    (fun _ => rfl) (by decide)

end RoundTrips

end OpenBsw.Docan
