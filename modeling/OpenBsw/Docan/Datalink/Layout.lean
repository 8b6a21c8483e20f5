import OpenBsw.Docan.Datalink.FrameCodec

/-!
# Layout of encoded payloads

All presets share one shape: every kind of frame may be as large as the
largest frame, first frames always are, and no minimum goes beyond the classic
frame except that of first frames.  Under that shape the encoder's output is
one explicit concatenation, which is all that segmentation and decoding need to
know about it.
-/

namespace OpenBsw.Docan

open OpenBsw.Bytes List

/-- What the configuration presets have in common. -/
structure FrameCodecConfig.Uniform (config : FrameCodecConfig) : Prop where
  offset_le : config.offset ≤ 1
  maxFrameSize_eq : config.maxFrameSize = 8 ∨ config.maxFrameSize = 64
  single_max : config.singleFrameSize.max = config.maxFrameSize
  single_min : config.singleFrameSize.min ≤ 8
  first_max : config.firstFrameSize.max = config.maxFrameSize
  first_min : config.firstFrameSize.min = config.maxFrameSize
  consecutive_min : config.consecutiveFrameSize.min ≤ 8
  flowControl_max : config.flowControlFrameSize.max = config.maxFrameSize
  flowControl_min : config.flowControlFrameSize.min ≤ 8

theorem FrameCodecConfig.uniform_of_mem_presets {config : FrameCodecConfig}
    (preset : config ∈ presets) : config.Uniform := by
  simp only [presets, mem_cons, not_mem_nil, or_false] at preset
  rcases preset with rfl | rfl | rfl | rfl | rfl | rfl | rfl | rfl <;>
    constructor <;> decide

namespace FrameSizeMapper

theorem fd_sizes_bounds :
    ∀ size : Fin 65, size.val ≤ sizes.getD size.val 0 ∧ sizes.getD size.val 0 ≤ 64 ∧
      (size.val ≤ 8 → sizes.getD size.val 0 = size.val) := by
  decide

/-- Up to the largest frame both mappers round up, and a classic frame keeps
its size. -/
theorem mapFrameSize_of_le (mapper : FrameSizeMapper) (size : Nat) {largest : Nat}
    (largestEq : largest = 8 ∨ largest = 64) (fits : size ≤ largest) :
    ∃ mapped, mapper.mapFrameSize size = some mapped ∧ size ≤ mapped ∧
      mapped ≤ largest ∧ (size ≤ 8 → mapped = size) := by
  cases mapper with
  | default => exact ⟨size, rfl, Nat.le_refl size, fits, fun _ => rfl⟩
  | fd =>
    obtain ⟨lower, upper, classic⟩ := fd_sizes_bounds ⟨size, by omega⟩
    simp only at lower upper classic
    refine ⟨sizes.getD size 0, ?_, lower, ?_, classic⟩
    · rw [mapFrameSize, if_neg (by omega)]
    · by_cases small : size ≤ 8
      · have kept := classic small
        omega
      · omega

end FrameSizeMapper

section Encoder

variable {layer : DataLinkLayer} {config : FrameCodecConfig} {mapper : FrameSizeMapper}

/-- The size a payload of `payloadSize` bytes is padded to. -/
structure PaddedSize (config : FrameCodecConfig) (wanted padded : Nat) : Prop where
  wanted_le : wanted ≤ padded
  le_max : padded ≤ config.maxFrameSize
  eq_of_le : wanted ≤ 8 → padded = wanted

/-- Padding a buffer of the largest size keeps the payload and appends the
filler. -/
theorem adjustFrame_eq_ok (mapper : FrameSizeMapper) (uniform : config.Uniform)
    {payload : List UInt8} (payloadSize minFrameSize : Nat)
    (bufferSize : payload.length = config.maxFrameSize)
    (fits : payloadSize ≤ config.maxFrameSize) (minFits : minFrameSize ≤ config.maxFrameSize) :
    ∃ padded, PaddedSize config (max payloadSize minFrameSize) padded ∧
      adjustFrame config mapper payload payloadSize minFrameSize =
        .ok (payload.take payloadSize ++
          List.replicate (padded - payloadSize) config.filler) := by
  obtain ⟨padded, mapped, lower, upper, classic⟩ :=
    mapper.mapFrameSize_of_le (max payloadSize minFrameSize)
      uniform.maxFrameSize_eq (by omega)
  refine ⟨padded, ⟨lower, upper, classic⟩, ?_⟩
  rw [adjustFrame, mapped]
  by_cases grows : payloadSize < padded
  · simp only [if_pos grows]
    rw [if_neg (by omega)]
    congr 1
    rw [overwrite, take_append_of_le_length, take_of_length_le]
    · simp only [List.length_append, length_take, length_replicate]
      omega
    · simp only [List.length_append, length_take, length_replicate]
      omega
  · simp only [if_neg grows]
    have sizeEq : padded = payloadSize := by omega
    simp [sizeEq]

/-- Writing header and data into a buffer and cutting behind them. -/
theorem take_overwrite_overwrite (buffer header block : List UInt8) {offset : Nat}
    (fits : offset + header.length + block.length ≤ buffer.length) :
    (overwrite (overwrite buffer offset header) (offset + header.length) block).take
        (offset + header.length + block.length) =
      buffer.take offset ++ header ++ block := by
  rw [take_overwrite _ _ (by rw [length_overwrite] <;> omega), take_overwrite _ _ (by omega)]

/-- Encoded payloads: the untouched bytes before the offset, the header, the
consumed data and the filler. -/
theorem encodeDataFrame_of_layout (uniform : config.Uniform)
    {payload data : List UInt8} {frameIndex consecutiveFrameDataSize : Nat} {layout : FrameLayout}
    (bufferSize : payload.length = config.maxFrameSize)
    (nonempty : data ≠ []) (representable : data.length ≤ layer.messageSizeMax)
    (layoutEq : frameLayout config data.length frameIndex consecutiveFrameDataSize = some layout)
    (available : layout.consumedDataSize ≤ data.length)
    (fits : config.offset + layout.header.length + layout.consumedDataSize ≤ config.maxFrameSize)
    (minFits : layout.minFrameSize ≤ config.maxFrameSize) :
    ∃ padded,
      PaddedSize config
        (max (config.offset + layout.header.length + layout.consumedDataSize)
          layout.minFrameSize) padded ∧
      encodeDataFrame layer config mapper payload data frameIndex consecutiveFrameDataSize =
        .ok (payload.take config.offset ++ layout.header ++
            data.take layout.consumedDataSize ++
            List.replicate
              (padded - (config.offset + layout.header.length + layout.consumedDataSize))
              config.filler,
          layout.consumedDataSize) := by
  have dataLength : (data.take layout.consumedDataSize).length = layout.consumedDataSize := by
    rw [length_take]
    omega
  have sizeLt : config.maxFrameSize < 256 := config.consecutiveFrameSize.max_lt
  have notRejected : ¬(data.length = 0 ∨ layer.messageSizeMax < data.length) := by
    rw [length_eq_zero_iff]
    rintro (empty | large)
    · exact nonempty empty
    · omega
  have copiedLength :
      (overwrite (overwrite payload config.offset layout.header)
        (config.offset + layout.header.length)
        (data.take layout.consumedDataSize)).length = config.maxFrameSize := by
    rw [length_overwrite, length_overwrite, bufferSize]
    · omega
    · rw [length_overwrite, dataLength]
      · omega
      · omega
  obtain ⟨padded, paddedSize, adjusted⟩ :=
    adjustFrame_eq_ok mapper uniform _ _ copiedLength fits minFits
  refine ⟨padded, paddedSize, ?_⟩
  have destOffsetEq : frameSize (config.offset + layout.header.length) =
      config.offset + layout.header.length := Nat.mod_eq_of_lt (by omega)
  have payloadSizeEq :
      frameSize (config.offset + layout.header.length + layout.consumedDataSize) =
        config.offset + layout.header.length + layout.consumedDataSize :=
    Nat.mod_eq_of_lt (by omega)
  have cut := take_overwrite_overwrite payload layout.header
    (data.take layout.consumedDataSize) (by rw [dataLength, bufferSize]; exact fits)
  rw [dataLength] at cut
  rw [encodeDataFrame, if_neg notRejected, layoutEq]
  simp only [destOffsetEq, payloadSizeEq]
  rw [if_neg (by omega), adjusted, cut]
  rfl

end Encoder

/-! ## Accepted messages -/

section Accepted

variable {layer : DataLinkLayer} {config : FrameCodecConfig}

theorem fitsIntoShortSingleFrame_iff {messageSize : Nat} :
    fitsIntoShortSingleFrame config messageSize = true ↔
      messageSize + (config.offset + 1) ≤ min 8 config.singleFrameSize.max := by
  rw [fitsIntoShortSingleFrame, decide_eq_true_iff]
  rfl

theorem fitsIntoLongSingleFrame_iff {messageSize : Nat} :
    fitsIntoLongSingleFrame config messageSize = true ↔
      messageSize + (config.offset + 2) ≤ config.singleFrameSize.max := by
  rw [fitsIntoLongSingleFrame, decide_eq_true_iff]

/-- The two ways `getEncodedFrameCount` accepts a message. -/
inductive AcceptedAs (layer : DataLinkLayer) (config : FrameCodecConfig)
    (messageSize : Nat) : Nat → Nat → Prop
  | singleFrame
      (fits : fitsIntoShortSingleFrame config messageSize = true ∨
        fitsIntoLongSingleFrame config messageSize = true) :
      AcceptedAs layer config messageSize 1 0
  | segmented {consecutiveFrameDataSize : Nat}
      (sizeEq : consecutiveFrameDataSize + (config.offset + 1) = config.maxFrameSize)
      (long : consecutiveFrameDataSize ≤ messageSize)
      (notShort : fitsIntoShortSingleFrame config messageSize = false)
      (notLong : fitsIntoLongSingleFrame config messageSize = false)
      (countable : messageSize / consecutiveFrameDataSize < layer.frameIndexMax) :
      AcceptedAs layer config messageSize
        (messageSize / consecutiveFrameDataSize + 1) consecutiveFrameDataSize

theorem consecutiveFrameDataSize_eq (config : FrameCodecConfig) :
    frameSize (config.consecutiveFrameSize.max - (config.offset + 1)) + (config.offset + 1) =
      config.maxFrameSize := by
  have sizeLt := config.consecutiveFrameSize.max_lt
  have large := config.consecutiveFrame_large
  rw [frameSize, Nat.mod_eq_of_lt (by omega), FrameCodecConfig.maxFrameSize]
  omega

theorem frameIndex_succ {count : Nat} (countable : count < layer.frameIndexMax) :
    layer.frameIndex (count + 1) = count + 1 := by
  rw [DataLinkLayer.frameIndexMax] at countable
  rw [DataLinkLayer.frameIndex, Nat.mod_eq_of_lt (by omega)]

theorem acceptedAs_of_getEncodedFrameCount (uniform : config.Uniform)
    {messageSize frameCount consecutiveFrameDataSize : Nat}
    (accepted : getEncodedFrameCount layer config messageSize =
      .ok (frameCount, consecutiveFrameDataSize)) :
    0 < messageSize ∧
      AcceptedAs layer config messageSize frameCount consecutiveFrameDataSize := by
  unfold getEncodedFrameCount at accepted
  split at accepted
  · contradiction
  rename_i nonzero
  refine ⟨Nat.pos_of_ne_zero nonzero, ?_⟩
  split at accepted
  · rename_i fits
    cases accepted
    exact .singleFrame (by simpa using fits)
  rename_i tooLong
  simp only [Bool.or_eq_true, not_or, Bool.not_eq_true] at tooLong
  simp only at accepted
  split at accepted
  · contradiction
  rename_i countable
  have sizeEq := consecutiveFrameDataSize_eq config
  generalize frameSize (config.consecutiveFrameSize.max - (config.offset + 1)) = size
    at accepted countable sizeEq
  rw [frameIndex_succ (by omega)] at accepted
  cases accepted
  refine .segmented sizeEq ?_ tooLong.1 tooLong.2 (by omega)
  have notShort := mt fitsIntoShortSingleFrame_iff.mpr (Bool.not_eq_true _ ▸ tooLong.1)
  have notLong := mt fitsIntoLongSingleFrame_iff.mpr (Bool.not_eq_true _ ▸ tooLong.2)
  rw [uniform.single_max] at notShort notLong
  have sizeCases := uniform.maxFrameSize_eq
  omega

theorem AcceptedAs.frameCount_eq_one {messageSize frameCount consecutiveFrameDataSize : Nat}
    (accepted : AcceptedAs layer config messageSize frameCount consecutiveFrameDataSize)
    (fits : fitsIntoShortSingleFrame config messageSize = true ∨
      fitsIntoLongSingleFrame config messageSize = true) :
    frameCount = 1 := by
  cases accepted with
  | singleFrame => rfl
  | segmented _ _ notShort notLong => simp [notShort, notLong] at fits

theorem AcceptedAs.frameCount_ne_one {messageSize frameCount consecutiveFrameDataSize : Nat}
    (accepted : AcceptedAs layer config messageSize frameCount consecutiveFrameDataSize)
    (notShort : fitsIntoShortSingleFrame config messageSize = false)
    (notLong : fitsIntoLongSingleFrame config messageSize = false) :
    frameCount ≠ 1 := by
  cases accepted with
  | singleFrame fits => simp [notShort, notLong] at fits
  | segmented sizeEq long =>
    have large : config.offset + 2 ≤ config.maxFrameSize := config.consecutiveFrame_large
    have quotient := Nat.div_pos long (by omega)
    omega

end Accepted

/-! ## The data frames of an accepted message -/

section DataFrames

variable {layer : DataLinkLayer} {config : FrameCodecConfig} {mapper : FrameSizeMapper}
variable {pending frameIndex consecutiveFrameDataSize : Nat} {layout : FrameLayout}

/-- The five layouts of a data frame, free of conversions to `uint8_t`. -/
inductive DataFrame (config : FrameCodecConfig) (pending : Nat) :
    Nat → Nat → FrameLayout → Prop
  | shortSingle (fits : fitsIntoShortSingleFrame config pending = true) :
      DataFrame config pending 0 0
        { header := [typeByte .single (UInt8.ofNat pending)]
          consumedDataSize := pending
          minFrameSize := config.singleFrameSize.min }
  | longSingle (notShort : fitsIntoShortSingleFrame config pending = false)
      (fits : fitsIntoLongSingleFrame config pending = true) :
      DataFrame config pending 0 0
        { header := [FrameType.single.code <<< 4, UInt8.ofNat pending]
          consumedDataSize := pending
          minFrameSize := config.singleFrameSize.min }
  | first {consecutiveFrameDataSize : Nat}
      (sizeEq : consecutiveFrameDataSize + (config.offset + 1) = config.maxFrameSize)
      (long : consecutiveFrameDataSize ≤ pending)
      (notShort : fitsIntoShortSingleFrame config pending = false)
      (notLong : fitsIntoLongSingleFrame config pending = false)
      (unescaped : pending ≤ escapedSeqMessageSize) :
      DataFrame config pending 0 consecutiveFrameDataSize
        { header := markType .first (bigEndian 2 (pending &&& 0xFFF))
          consumedDataSize := consecutiveFrameDataSize - 1
          minFrameSize := config.firstFrameSize.min }
  | escapedFirst {consecutiveFrameDataSize : Nat}
      (sizeEq : consecutiveFrameDataSize + (config.offset + 1) = config.maxFrameSize)
      (long : consecutiveFrameDataSize ≤ pending)
      (notShort : fitsIntoShortSingleFrame config pending = false)
      (notLong : fitsIntoLongSingleFrame config pending = false)
      (escaped : escapedSeqMessageSize < pending) :
      DataFrame config pending 0 consecutiveFrameDataSize
        { header := markType .first ([0, 0] ++ bigEndian 4 pending)
          consumedDataSize := consecutiveFrameDataSize - 5
          minFrameSize := config.firstFrameSize.min }
  | consecutive {frameIndex consecutiveFrameDataSize : Nat} (later : frameIndex ≠ 0)
      (sizeEq : consecutiveFrameDataSize + (config.offset + 1) = config.maxFrameSize) :
      DataFrame config pending frameIndex consecutiveFrameDataSize
        { header := [typeByte .consecutive (UInt8.ofNat frameIndex)]
          consumedDataSize := min consecutiveFrameDataSize pending
          minFrameSize :=
            max (min consecutiveFrameDataSize pending) config.consecutiveFrameSize.min }

theorem length_markType (frameType : FrameType) (block : List UInt8) :
    (markType frameType block).length = block.length := by
  cases block <;> rfl

namespace DataFrame

theorem available (frame : DataFrame config pending frameIndex consecutiveFrameDataSize layout) :
    layout.consumedDataSize ≤ pending := by
  cases frame <;> simp only <;> omega

theorem fits (uniform : config.Uniform)
    (frame : DataFrame config pending frameIndex consecutiveFrameDataSize layout) :
    config.offset + layout.header.length + layout.consumedDataSize ≤ config.maxFrameSize := by
  have sizeCases := uniform.maxFrameSize_eq
  have offsetLe := uniform.offset_le
  cases frame with
  | shortSingle fits =>
    have bound := fitsIntoShortSingleFrame_iff.mp fits
    rw [uniform.single_max] at bound
    simp only [length_singleton]
    omega
  | longSingle notShort fits =>
    have bound := fitsIntoLongSingleFrame_iff.mp fits
    rw [uniform.single_max] at bound
    simp only [length_cons, length_nil]
    omega
  | first sizeEq =>
    simp only [length_markType, length_bigEndian]
    omega
  | escapedFirst sizeEq =>
    simp only [length_markType, List.length_append, length_bigEndian, length_cons,
      length_nil]
    omega
  | consecutive later sizeEq =>
    simp only [length_singleton]
    omega

theorem minFits (uniform : config.Uniform)
    (frame : DataFrame config pending frameIndex consecutiveFrameDataSize layout) :
    layout.minFrameSize ≤ config.maxFrameSize := by
  have sizeCases := uniform.maxFrameSize_eq
  have singleMin := uniform.single_min
  have firstMin := uniform.first_min
  have consecutiveMin := uniform.consecutive_min
  cases frame <;> simp only <;> omega

/-- The encoder lays a data frame out as described. -/
theorem frameLayout_eq (uniform : config.Uniform)
    (frame : DataFrame config pending frameIndex consecutiveFrameDataSize layout) :
    frameLayout config pending frameIndex consecutiveFrameDataSize = some layout := by
  have sizeCases := uniform.maxFrameSize_eq
  have offsetLe := uniform.offset_le
  have consumedLt : layout.consumedDataSize < 256 := by
    have := frame.fits uniform
    omega
  cases frame with
  | shortSingle fits =>
    have sizeEq : frameSize pending = pending := Nat.mod_eq_of_lt consumedLt
    simp [frameLayout, fits, sizeEq]
  | longSingle notShort fits =>
    have sizeEq : frameSize pending = pending := Nat.mod_eq_of_lt consumedLt
    simp [frameLayout, notShort, fits, sizeEq]
  | first sizeEq _ notShort notLong unescaped =>
    have positive : 0 < consecutiveFrameDataSize := by omega
    simp [frameLayout, notShort, notLong, unescaped, positive]
  | escapedFirst sizeEq _ notShort notLong escaped =>
    have positive : 0 < consecutiveFrameDataSize := by omega
    have wrapped : frameSize (consecutiveFrameDataSize - 1 + 252) =
        consecutiveFrameDataSize - 5 := by
      rw [frameSize]
      omega
    simp [frameLayout, notShort, notLong, Nat.not_le.mpr escaped, positive, wrapped]
  | consecutive later sizeEq =>
    have positive : 0 < consecutiveFrameDataSize := by omega
    have sizeEq : frameSize (min consecutiveFrameDataSize pending) =
        min consecutiveFrameDataSize pending := Nat.mod_eq_of_lt consumedLt
    simp [frameLayout, later, positive, sizeEq]

end DataFrame

/-- Every frame a sender encodes for an accepted message has a layout. -/
theorem AcceptedAs.exists_dataFrame {messageSize frameCount : Nat}
    (accepted : AcceptedAs layer config messageSize frameCount consecutiveFrameDataSize)
    (pending frameIndex : Nat) (whole : frameIndex = 0 → pending = messageSize)
    (segmented : frameIndex ≠ 0 → frameCount ≠ 1) :
    ∃ layout, DataFrame config pending frameIndex consecutiveFrameDataSize layout := by
  by_cases first : frameIndex = 0
  · subst first
    rw [whole rfl]
    cases accepted with
    | singleFrame fits =>
      by_cases short : fitsIntoShortSingleFrame config messageSize = true
      · exact ⟨_, .shortSingle short⟩
      · exact ⟨_, .longSingle (Bool.eq_false_iff.mpr short) (fits.resolve_left short)⟩
    | segmented sizeEq long notShort notLong =>
      by_cases unescaped : messageSize ≤ escapedSeqMessageSize
      · exact ⟨_, .first sizeEq long notShort notLong unescaped⟩
      · exact ⟨_, .escapedFirst sizeEq long notShort notLong (Nat.lt_of_not_le unescaped)⟩
  · cases accepted with
    | singleFrame => exact absurd rfl (segmented first)
    | segmented sizeEq => exact ⟨_, .consecutive first sizeEq⟩

/-- The payload of a data frame: the untouched bytes before the offset, the
header, the consumed data and the filler. -/
theorem encodeDataFrame_eq_ok (layer : DataLinkLayer) (mapper : FrameSizeMapper)
    (uniform : config.Uniform) {payload data : List UInt8}
    (bufferSize : payload.length = config.maxFrameSize)
    (nonempty : data ≠ []) (representable : data.length ≤ layer.messageSizeMax)
    (frame : DataFrame config data.length frameIndex consecutiveFrameDataSize layout) :
    ∃ padded,
      PaddedSize config
        (max (config.offset + layout.header.length + layout.consumedDataSize)
          layout.minFrameSize) padded ∧
      encodeDataFrame layer config mapper payload data frameIndex consecutiveFrameDataSize =
        .ok (payload.take config.offset ++ layout.header ++
            data.take layout.consumedDataSize ++
            List.replicate
              (padded - (config.offset + layout.header.length + layout.consumedDataSize))
              config.filler,
          layout.consumedDataSize) :=
  encodeDataFrame_of_layout uniform bufferSize nonempty representable
    (frame.frameLayout_eq uniform) frame.available (frame.fits uniform) (frame.minFits uniform)

end DataFrames

end OpenBsw.Docan
