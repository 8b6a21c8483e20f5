import OpenBsw.Docan.Datalink.Layout

/-!
# Segmentation of messages

A sender asks `getEncodedFrameCount` for a frame count and then encodes one
frame after the other from what is left of the message.  The frame count comes
from a quotient, the bytes a frame takes from the branches of the encoder; this
module compares the two for every accepted message.
-/

namespace OpenBsw.Docan

open List

/-- Encode `count` frames from `frameIndex` on, each from the data its
predecessors left.  The result is the list of consumed sizes and the data that
is still unsent. -/
def encodeFrames (layer : DataLinkLayer) (config : FrameCodecConfig) (mapper : FrameSizeMapper)
    (buffers : Nat → List UInt8) (consecutiveFrameDataSize : Nat) :
    Nat → Nat → List UInt8 → Except CodecResult (List Nat × List UInt8)
  | 0, _, data => .ok ([], data)
  | count + 1, frameIndex, data => do
    let (_, consumedDataSize) ← encodeDataFrame layer config mapper (buffers frameIndex) data
      frameIndex consecutiveFrameDataSize
    let (sizes, rest) ← encodeFrames layer config mapper buffers consecutiveFrameDataSize
      count (frameIndex + 1) (data.drop consumedDataSize)
    pure (consumedDataSize :: sizes, rest)

/-- All frames encode, together they take the whole message, and the message
is not exhausted before the last of them. -/
def SegmentsExactly (layer : DataLinkLayer) (config : FrameCodecConfig) (mapper : FrameSizeMapper)
    (buffers : Nat → List UInt8) (message : List UInt8)
    (frameCount consecutiveFrameDataSize : Nat) : Prop :=
  ∃ sizes,
    encodeFrames layer config mapper buffers consecutiveFrameDataSize frameCount 0 message =
      .ok (sizes, []) ∧
    sizes.length = frameCount ∧ sizes.sum = message.length ∧
    ∀ sent < frameCount, (sizes.take sent).sum < message.length

/-- Data bytes of a full consecutive frame under a configuration. -/
def FrameCodecConfig.segmentSize (config : FrameCodecConfig) : Nat :=
  config.consecutiveFrameSize.max - (config.offset + 1)

theorem consecutiveFrameDataSize_eq_segmentSize {config : FrameCodecConfig}
    {consecutiveFrameDataSize : Nat}
    (sizeEq : consecutiveFrameDataSize + (config.offset + 1) = config.maxFrameSize) :
    consecutiveFrameDataSize = config.segmentSize := by
  rw [FrameCodecConfig.maxFrameSize] at sizeEq
  rw [FrameCodecConfig.segmentSize]
  omega

section Frames

variable {layer : DataLinkLayer} {config : FrameCodecConfig} {mapper : FrameSizeMapper}
variable {buffers : Nat → List UInt8} {data : List UInt8}
variable {frameIndex consecutiveFrameDataSize : Nat}

/-- One round of the sender: the frame takes what its layout says. -/
theorem encodeFrames_succ (uniform : config.Uniform)
    (bufferSize : ∀ index, (buffers index).length = config.maxFrameSize)
    (nonempty : data ≠ []) (representable : data.length ≤ layer.messageSizeMax)
    {layout : FrameLayout}
    (frame : DataFrame config data.length frameIndex consecutiveFrameDataSize layout)
    {count : Nat} {sizes : List Nat} {rest : List UInt8}
    (later : encodeFrames layer config mapper buffers consecutiveFrameDataSize count
      (frameIndex + 1) (data.drop layout.consumedDataSize) = .ok (sizes, rest)) :
    encodeFrames layer config mapper buffers consecutiveFrameDataSize (count + 1)
      frameIndex data = .ok (layout.consumedDataSize :: sizes, rest) := by
  obtain ⟨padded, -, encoded⟩ := encodeDataFrame_eq_ok layer mapper
    uniform (bufferSize frameIndex) nonempty representable frame
  rw [encodeFrames, encoded]
  simp only [bind, Except.bind, pure, Except.pure, later]

theorem drop_segment_drop (count size : Nat) (data : List UInt8) :
    (data.drop (min size data.length)).drop (count * size) = data.drop ((count + 1) * size) := by
  rw [drop_drop, Nat.succ_mul]
  by_cases full : size ≤ data.length
  · rw [Nat.min_eq_left full, Nat.add_comm]
  · rw [drop_eq_nil_of_le (by omega), drop_eq_nil_of_le (by omega)]

/-- Consecutive frames take a full segment each until the data runs out. -/
theorem encodeFrames_consecutive (layer : DataLinkLayer) (mapper : FrameSizeMapper)
    (uniform : config.Uniform)
    (bufferSize : ∀ index, (buffers index).length = config.maxFrameSize)
    (sizeEq : consecutiveFrameDataSize + (config.offset + 1) = config.maxFrameSize)
    (frameIndex : Nat) (notFirst : frameIndex ≠ 0) (data : List UInt8)
    (representable : data.length ≤ layer.messageSizeMax)
    (count : Nat)
    (enough : count * consecutiveFrameDataSize < data.length + consecutiveFrameDataSize) :
    ∃ sizes,
      encodeFrames layer config mapper buffers consecutiveFrameDataSize count frameIndex data =
        .ok (sizes, data.drop (count * consecutiveFrameDataSize)) ∧
      sizes.length = count ∧
      ∀ sent ≤ count, (sizes.take sent).sum =
        min (sent * consecutiveFrameDataSize) data.length := by
  induction count generalizing frameIndex data with
  | zero =>
    refine ⟨[], by simp [encodeFrames], rfl, ?_⟩
    intro sent sentLe
    rw [Nat.le_zero.mp sentLe]
    simp
  | succ count ih =>
    rw [Nat.succ_mul] at enough
    have positive : 0 < data.length := by omega
    have frame : DataFrame config data.length frameIndex consecutiveFrameDataSize _ :=
      .consecutive notFirst sizeEq
    have restLength : (data.drop (min consecutiveFrameDataSize data.length)).length =
        data.length - consecutiveFrameDataSize := by
      rw [length_drop]
      omega
    have restEnough : count * consecutiveFrameDataSize <
        (data.drop (min consecutiveFrameDataSize data.length)).length +
          consecutiveFrameDataSize := by
      rw [restLength]
      omega
    obtain ⟨sizes, later, sizesLength, sums⟩ :=
      ih (frameIndex + 1) (by omega) _ (by omega) restEnough
    have encoded := encodeFrames_succ uniform bufferSize
      (ne_nil_of_length_pos positive) representable frame later
    refine ⟨min consecutiveFrameDataSize data.length :: sizes, encoded.trans ?_,
      by simp [sizesLength], ?_⟩
    · rw [drop_segment_drop]
    · intro sent sentLe
      cases sent with
      | zero => simp
      | succ sent =>
        rw [take_succ_cons, sum_cons, sums sent (by omega), restLength,
          Nat.succ_mul]
        omega

/-- A segmented message: what the first frame takes, and that full segments
follow up to the announced count. -/
theorem encodeFrames_segmented (mapper : FrameSizeMapper) (uniform : config.Uniform)
    (bufferSize : ∀ index, (buffers index).length = config.maxFrameSize)
    (sizeEq : consecutiveFrameDataSize + (config.offset + 1) = config.maxFrameSize)
    (representable : data.length ≤ layer.messageSizeMax)
    {layout : FrameLayout}
    (frame : DataFrame config data.length 0 consecutiveFrameDataSize layout)
    (consumedLe : layout.consumedDataSize < consecutiveFrameDataSize)
    (long : consecutiveFrameDataSize ≤ data.length) :
    ∃ sizes,
      encodeFrames layer config mapper buffers consecutiveFrameDataSize
          (data.length / consecutiveFrameDataSize + 1) 0 data =
        .ok (sizes, data.drop (layout.consumedDataSize +
          data.length / consecutiveFrameDataSize * consecutiveFrameDataSize)) ∧
      sizes.length = data.length / consecutiveFrameDataSize + 1 ∧
      ∀ sent ≤ data.length / consecutiveFrameDataSize, (sizes.take (sent + 1)).sum =
        layout.consumedDataSize +
          min (sent * consecutiveFrameDataSize) (data.length - layout.consumedDataSize) := by
  have restLength : (data.drop layout.consumedDataSize).length =
      data.length - layout.consumedDataSize := length_drop
  have quotient := Nat.div_mul_le_self data.length consecutiveFrameDataSize
  obtain ⟨sizes, later, sizesLength, sums⟩ :=
    encodeFrames_consecutive layer mapper uniform bufferSize sizeEq (0 + 1) (by omega)
      (data.drop layout.consumedDataSize) (by rw [restLength]; omega)
      (data.length / consecutiveFrameDataSize) (by rw [restLength]; omega)
  have encoded := encodeFrames_succ uniform bufferSize
    (ne_nil_of_length_pos (by omega)) representable frame later
  refine ⟨layout.consumedDataSize :: sizes, encoded.trans ?_, by simp [sizesLength], ?_⟩
  · rw [drop_drop]
  · intro sent sentLe
    rw [take_succ_cons, sum_cons, sums sent sentLe, restLength]

end Frames

/-! ## Exactness -/

section Exactness

variable {layer : DataLinkLayer} {config : FrameCodecConfig} {mapper : FrameSizeMapper}
variable {buffers : Nat → List UInt8} {message : List UInt8}

theorem single_le_maxFrameSize (uniform : config.Uniform) {messageSize : Nat}
    (fits : fitsIntoShortSingleFrame config messageSize = true ∨
      fitsIntoLongSingleFrame config messageSize = true) :
    messageSize ≤ config.maxFrameSize := by
  rw [fitsIntoShortSingleFrame_iff, fitsIntoLongSingleFrame_iff, uniform.single_max] at fits
  omega

/-- A message in a single frame is segmented exactly. -/
theorem segmentsExactly_single (uniform : config.Uniform)
    (bufferSize : ∀ index, (buffers index).length = config.maxFrameSize)
    (nonempty : 0 < message.length) (representable : message.length ≤ layer.messageSizeMax)
    (fits : fitsIntoShortSingleFrame config message.length = true ∨
      fitsIntoLongSingleFrame config message.length = true) :
    SegmentsExactly layer config mapper buffers message 1 0 := by
  have accepted : AcceptedAs layer config message.length 1 0 := .singleFrame fits
  obtain ⟨layout, frame⟩ := accepted.exists_dataFrame message.length 0 (fun _ => rfl) (by simp)
  have consumedEq : layout.consumedDataSize = message.length := by
    have sizeCases := uniform.maxFrameSize_eq
    have offsetLe := uniform.offset_le
    cases frame with
    | shortSingle => rfl
    | longSingle => rfl
    | first sizeEq => omega
    | escapedFirst sizeEq => omega
    | consecutive later => contradiction
  have encoded : encodeFrames layer config mapper buffers 0 1 0 message =
      .ok ([layout.consumedDataSize], message.drop layout.consumedDataSize) :=
    encodeFrames_succ uniform bufferSize (ne_nil_of_length_pos nonempty) representable
      frame rfl
  refine ⟨[layout.consumedDataSize], encoded.trans ?_, rfl, ?_, ?_⟩
  · rw [consumedEq, drop_length]
  · simp [consumedEq]
  · intro sent sentLt
    rw [Nat.lt_one_iff.mp sentLt]
    simpa using nonempty

/-- A segmented message is segmented exactly when the first frame leaves no
more than the remaining full segments hold. -/
theorem segmentsExactly_segmented_iff (layer : DataLinkLayer) (mapper : FrameSizeMapper)
    (uniform : config.Uniform)
    (bufferSize : ∀ index, (buffers index).length = config.maxFrameSize)
    {consecutiveFrameDataSize : Nat}
    (sizeEq : consecutiveFrameDataSize + (config.offset + 1) = config.maxFrameSize)
    (representable : message.length ≤ layer.messageSizeMax)
    {layout : FrameLayout}
    (frame : DataFrame config message.length 0 consecutiveFrameDataSize layout)
    (consumedLt : layout.consumedDataSize < consecutiveFrameDataSize)
    (long : consecutiveFrameDataSize ≤ message.length) :
    SegmentsExactly layer config mapper buffers message
        (message.length / consecutiveFrameDataSize + 1) consecutiveFrameDataSize ↔
      message.length % consecutiveFrameDataSize ≤ layout.consumedDataSize := by
  have division := Nat.div_add_mod' message.length consecutiveFrameDataSize
  obtain ⟨sizes, encoded, sizesLength, sums⟩ :=
    encodeFrames_segmented mapper uniform bufferSize sizeEq representable frame
      consumedLt long
  constructor
  · rintro ⟨_, encoded', -⟩
    rw [encoded, Except.ok.injEq, Prod.mk.injEq, drop_eq_nil_iff] at encoded'
    have leftover := encoded'.2
    omega
  · intro covered
    refine ⟨sizes, encoded.trans ?_, sizesLength, ?_, ?_⟩
    · rw [drop_eq_nil_of_le (by omega)]
    · have total := sums _ (Nat.le_refl _)
      rw [take_of_length_le (by omega)] at total
      omega
    · intro sent sentLt
      cases sent with
      | zero =>
        rw [take_zero, sum_nil]
        omega
      | succ sent =>
        have earlier : (sent + 1) * consecutiveFrameDataSize ≤
            message.length / consecutiveFrameDataSize * consecutiveFrameDataSize :=
          Nat.mul_le_mul_right _ (by omega)
        rw [Nat.succ_mul] at earlier
        rw [sums sent (by omega)]
        omega

/-- The frames of an accepted message carry it exactly, unless the four bytes
the escape sequence takes from the first frame no longer fit into the last
one.

The frame count is a quotient by the segment size, so it leaves no room for
them when the last segment is nearly full. -/
theorem segmentsExactly_iff (preset : config ∈ FrameCodecConfig.presets)
    (mapper : FrameSizeMapper)
    (bufferSize : ∀ index, (buffers index).length = config.maxFrameSize)
    (representable : message.length ≤ layer.messageSizeMax)
    {frameCount consecutiveFrameDataSize : Nat}
    (accepted : getEncodedFrameCount layer config message.length =
      .ok (frameCount, consecutiveFrameDataSize)) :
    SegmentsExactly layer config mapper buffers message frameCount consecutiveFrameDataSize ↔
      message.length ≤ escapedSeqMessageSize ∨
        message.length % config.segmentSize + 4 < config.segmentSize := by
  have uniform := FrameCodecConfig.uniform_of_mem_presets preset
  have sizeCases := uniform.maxFrameSize_eq
  have offsetLe := uniform.offset_le
  obtain ⟨nonempty, accepted⟩ := acceptedAs_of_getEncodedFrameCount uniform accepted
  obtain ⟨layout, frame⟩ := accepted.exists_dataFrame message.length 0 (fun _ => rfl) (by simp)
  cases accepted with
  | singleFrame fits =>
    refine iff_of_true
      (segmentsExactly_single uniform bufferSize nonempty representable fits) (Or.inl ?_)
    have bound := single_le_maxFrameSize uniform fits
    rw [escapedSeqMessageSize]
    omega
  | segmented sizeEq long =>
    rw [← consecutiveFrameDataSize_eq_segmentSize sizeEq]
    have remainder := Nat.mod_lt message.length (y := consecutiveFrameDataSize) (by omega)
    cases frame with
    | shortSingle | longSingle => omega
    | first _ _ notShort notLong unescaped =>
      rw [segmentsExactly_segmented_iff layer mapper uniform bufferSize sizeEq representable
        (.first sizeEq long notShort notLong unescaped) (by simp only; omega) long]
      exact iff_of_true (by simp only; omega) (Or.inl unescaped)
    | escapedFirst _ _ notShort notLong escaped =>
      rw [segmentsExactly_segmented_iff layer mapper uniform bufferSize sizeEq representable
        (.escapedFirst sizeEq long notShort notLong escaped) (by simp only; omega) long]
      simp only
      omega
    | consecutive later => contradiction

end Exactness

/-- Twenty bytes go into a first frame with six and two consecutive frames
with seven bytes. -/
theorem segmentsExactly_twentyBytes :
    SegmentsExactly .standard .paddedClassic .default (fun _ => List.replicate 8 0)
      (List.replicate 20 0x55) 3 7 :=
  (segmentsExactly_iff (by decide) .default (fun _ => length_replicate) (by decide)
    (by decide)).mpr (Or.inl (by decide))

/-- The first frame of 4098 bytes carries two of them, and the 585 consecutive
frames that are announced leave one byte unsent. -/
theorem not_segmentsExactly_4098_bytes :
    getEncodedFrameCount .standard .paddedClassic (List.replicate 4098 (0x55 : UInt8)).length =
        .ok (586, 7) ∧
      ¬SegmentsExactly .standard .paddedClassic .default (fun _ => List.replicate 8 0)
        (List.replicate 4098 0x55) 586 7 := by
  have uniform : FrameCodecConfig.paddedClassic.Uniform :=
    FrameCodecConfig.uniform_of_mem_presets (by decide)
  have lengthEq : (List.replicate 4098 (0x55 : UInt8)).length = 4098 := length_replicate
  rw [lengthEq]
  refine ⟨by decide, ?_⟩
  have frame : DataFrame .paddedClassic (List.replicate 4098 (0x55 : UInt8)).length 0 7 _ :=
    .escapedFirst (by decide) (by rw [lengthEq]; decide) (by rw [lengthEq]; decide)
      (by rw [lengthEq]; decide) (by rw [lengthEq]; decide)
  have bufferSize (index : Nat) : ((fun _ => List.replicate 8 0 : Nat → List UInt8) index).length =
      FrameCodecConfig.paddedClassic.maxFrameSize := length_replicate
  have exact := segmentsExactly_segmented_iff .standard .default uniform bufferSize (by decide)
    (by rw [lengthEq]; decide) frame (by decide) (by rw [lengthEq]; decide)
  rw [lengthEq] at exact
  rw [exact]
  decide

end OpenBsw.Docan
