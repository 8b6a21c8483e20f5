import OpenBsw.Docan.Datalink.RoundTrip
import OpenBsw.Docan.Datalink.Segmentation
import OpenBsw.Docan.Receiver.Reassembly

/-!
# Transfer of messages

A sender encodes a message frame by frame, the receiver decodes each frame and joins what it
gets.  Together the two give the message back: first for the frames alone, then for every run of
the receiver in which a reception has taken the frames of one message in order.
-/

namespace OpenBsw.Docan

open List
open OpenBsw.Transport

section Frames

variable {Address : Type} {layer : DataLinkLayer} {mapper : FrameSizeMapper}
  {buffers : Nat → List UInt8} {consecutiveFrameDataSize : Nat} {connection : Connection Address}

/-- The payloads of `count` frames from `frameIndex` on, each of which is encoded from the data
that its predecessors left, and the data that is still unsent. -/
def encodedFrames (layer : DataLinkLayer) (config : FrameCodecConfig) (mapper : FrameSizeMapper)
    (buffers : Nat → List UInt8) (consecutiveFrameDataSize : Nat) :
    Nat → Nat → List UInt8 → Except CodecResult (List (List UInt8) × List UInt8)
  | 0, _, data => .ok ([], data)
  | count + 1, frameIndex, data =>
    match encodeDataFrame layer config mapper (buffers frameIndex) data frameIndex
      consecutiveFrameDataSize with
    | .error result => .error result
    | .ok (frame, consumedDataSize) =>
      match encodedFrames layer config mapper buffers consecutiveFrameDataSize count
        (frameIndex + 1) (data.drop consumedDataSize) with
      | .error result => .error result
      | .ok (frames, rest) => .ok (frame :: frames, rest)

/-- A payload is decoded as a consecutive frame with a sequence number and data. -/
def DecodesTo (layer : DataLinkLayer) (connection : Connection Address) (frame : List UInt8)
    (received : UInt8 × List UInt8) : Prop :=
  decodeFrame layer connection frame = .ok (.consecutiveDataFrameReceived
    connection.dataLinkAddressPair.receptionAddress received.1 received.2)

theorem DecodesTo.unique : Relator.RightUnique (DecodesTo layer connection) := by
  intro frame first second one other
  rw [DecodesTo, one, Except.ok.injEq, FrameEvent.consecutiveDataFrameReceived.injEq] at other
  exact Prod.ext other.2.1 other.2.2

/-- What success of the sender means for its first frame. -/
theorem encodedFrames_succ {config : FrameCodecConfig} {count frameIndex : Nat}
    {data rest : List UInt8} {frames : List (List UInt8)}
    (encoded : encodedFrames layer config mapper buffers consecutiveFrameDataSize (count + 1)
      frameIndex data = .ok (frames, rest)) :
    ∃ frame consumedDataSize later, frames = frame :: later ∧
      encodeDataFrame layer config mapper (buffers frameIndex) data frameIndex
        consecutiveFrameDataSize = .ok (frame, consumedDataSize) ∧
      encodedFrames layer config mapper buffers consecutiveFrameDataSize count (frameIndex + 1)
        (data.drop consumedDataSize) = .ok (later, rest) := by
  rw [encodedFrames] at encoded
  split at encoded
  · cases encoded
  · rename_i frame consumedDataSize first
    split at encoded <;> cases encoded
    rename_i later others
    exact ⟨frame, consumedDataSize, later, rfl, first, others⟩

variable {message : List UInt8} {frameCount : Nat}

/-- The data of consecutive frames, each cut to the segment size, starts with what was sent:
only the last segment may be shorter than its frame. -/
theorem decodedFrames_consecutive (preset : connection.config ∈ FrameCodecConfig.presets)
    (bufferSize : ∀ index, (buffers index).length = connection.config.maxFrameSize)
    (accepted : getEncodedFrameCount layer connection.config message.length =
      .ok (frameCount, consecutiveFrameDataSize)) {count frameIndex : Nat}
    (later : frameIndex ≠ 0) {data : List UInt8} {frames : List (List UInt8)}
    (encoded : encodedFrames layer connection.config mapper buffers consecutiveFrameDataSize count
      frameIndex data = .ok (frames, [])) :
    ∃ received, frames.length = count ∧ Forall₂ (DecodesTo layer connection) frames received ∧
      data <+: (received.map fun entry => entry.2.take consecutiveFrameDataSize).flatten := by
  induction count generalizing frameIndex data frames with
  | zero =>
    cases encoded
    exact ⟨[], rfl, .nil, prefix_rfl⟩
  | succ count ih =>
    obtain ⟨frame, consumedDataSize, others, rfl, first, rest⟩ := encodedFrames_succ encoded
    have uniform := FrameCodecConfig.uniform_of_mem_presets preset
    obtain ⟨_, acceptedAs⟩ := acceptedAs_of_getEncodedFrameCount uniform accepted
    obtain ⟨layout, _, dataFrame, consumedEq, _, _⟩ := exists_carries uniform
      (bufferSize frameIndex) acceptedAs (fun zero => absurd zero later) first
    obtain ⟨event, decoded, delivers⟩ := decodeFrame_encodeDataFrame preset
      (bufferSize frameIndex) accepted (fun zero => absurd zero later) first
    obtain ⟨received, length, decodes, starts⟩ := ih (Nat.succ_ne_zero _) rest
    have consumed : consumedDataSize = min consecutiveFrameDataSize data.length := by
      rw [← consumedEq]
      cases dataFrame with
      | consecutive => rfl
      | _ => contradiction
    cases delivers with
    | @consecutive bytes _ sent =>
      refine ⟨(UInt8.ofNat (frameIndex % 16), bytes) :: received, congrArg (· + 1) length,
        .cons decoded decodes, ?_⟩
      have block : data.take consecutiveFrameDataSize <+: bytes.take consecutiveFrameDataSize := by
        have cut := sent.take consecutiveFrameDataSize
        rwa [consumed, take_take, Nat.min_comm consecutiveFrameDataSize,
          Nat.min_right_comm, Nat.min_self, ← take_eq_take_min] at cut
      rw [map_cons, flatten_cons]
      by_cases last : data.length ≤ consecutiveFrameDataSize
      · rw [take_of_length_le last] at block
        exact block.trans (prefix_append _ _)
      · have whole : bytes.take consecutiveFrameDataSize = data.take consecutiveFrameDataSize := by
          refine (block.eq_of_length_le ?_).symm
          rw [length_take, length_take]
          omega
        rw [consumed, Nat.min_eq_left (by omega)] at starts
        rw [whole]
        conv_lhs => rw [← take_append_drop consecutiveFrameDataSize data]
        exact (prefix_append_right_inj _).mpr starts
    | single first => contradiction
    | first first => contradiction

theorem AcceptedAs.segment_eq_zero {config : FrameCodecConfig} {messageSize : Nat}
    (accepted : AcceptedAs layer config messageSize frameCount consecutiveFrameDataSize)
    (one : frameCount = 1) : consecutiveFrameDataSize = 0 := by
  have counted := accepted
  cases accepted with
  | singleFrame => rfl
  | segmented _ _ notShort notLong =>
    exact absurd one (counted.frameCount_ne_one notShort notLong)

/-- The frames of a message that is sent completely announce it, and their data starts with it. -/
theorem decodedFrames_message (preset : connection.config ∈ FrameCodecConfig.presets)
    (bufferSize : ∀ index, (buffers index).length = connection.config.maxFrameSize)
    (accepted : getEncodedFrameCount layer connection.config message.length =
      .ok (frameCount, consecutiveFrameDataSize)) {frames : List (List UInt8)}
    (encoded : encodedFrames layer connection.config mapper buffers consecutiveFrameDataSize
      frameCount 0 message = .ok (frames, [])) :
    ∃ first rest data received, frames = first :: rest ∧ rest.length + 1 = frameCount ∧
      decodeFrame layer connection first = .ok (.firstDataFrameReceived connection
        message.length frameCount consecutiveFrameDataSize data) ∧
      Forall₂ (DecodesTo layer connection) rest received ∧
      message <+: data ++
        (received.map fun entry => entry.2.take consecutiveFrameDataSize).flatten := by
  have uniform := FrameCodecConfig.uniform_of_mem_presets preset
  obtain ⟨_, acceptedAs⟩ := acceptedAs_of_getEncodedFrameCount uniform accepted
  obtain ⟨count, rfl⟩ : ∃ count, frameCount = count + 1 := by
    cases acceptedAs <;> exact ⟨_, rfl⟩
  obtain ⟨frame, consumedDataSize, others, rfl, first, rest⟩ := encodedFrames_succ encoded
  obtain ⟨event, decoded, delivers⟩ := decodeFrame_encodeDataFrame preset (bufferSize 0) accepted
    (fun _ => rfl) first
  obtain ⟨received, length, decodes, starts⟩ :=
    decodedFrames_consecutive preset bufferSize accepted (Nat.succ_ne_zero 0) rest
  cases delivers with
  | single _ one =>
    obtain rfl : consecutiveFrameDataSize = 0 := acceptedAs.segment_eq_zero one
    obtain rfl : count = 0 := Nat.succ.inj one
    exact ⟨frame, others, message, received, rfl, congrArg (· + 1) length, decoded, decodes,
      prefix_append _ _⟩
  | first =>
    refine ⟨frame, others, _, received, rfl, congrArg (· + 1) length, decoded, decodes, ?_⟩
    conv_lhs => rw [← take_append_drop consumedDataSize message]
    exact (prefix_append_right_inj _).mpr starts
  | consecutive later => contradiction

end Frames

/-! ## Runs of the receiver -/

namespace Receiver

variable {Address : Type} [DecidableEq Address] {config : ReceiverConfig Address}
  {source : Receiver Address}

theorem inStep_of_reachable
    (reached : ((system config).restrict Orderly).Reachable source) : InStep source := by
  have completes : Completes Expects Plausible False config (new config) source :=
    completes_of_reachable (fun _ never => never.elim) meets_of_orderly reached
  have actions := completes.2
  clear completes reached
  induction actions with
  | refl => exact ⟨by simp [new], by simp [new]⟩
  | tail _ action ih => exact inStep_of_action action ih

/-- A message that a sender segments completely and whose frames a reception takes in order is
handed over as it was sent, in every orderly run, whatever else the receiver does in between. -/
theorem transfer_exact (reached : ((system config).restrict Orderly).Reachable source)
    {receiver : MessageReceiver Address} {received : TransportMessage} {answer : Bool}
    (handed : .messageReceived receiver received answer ∈ source.calls)
    {connection : Connection Address} {mapper : FrameSizeMapper} {buffers : Nat → List UInt8}
    {sent first : List UInt8} {rest : List (List UInt8)}
    {frameCount consecutiveFrameDataSize : Nat}
    (preset : connection.config ∈ FrameCodecConfig.presets)
    (bufferSize : ∀ index, (buffers index).length = connection.config.maxFrameSize)
    (accepted : getEncodedFrameCount .standard connection.config sent.length =
      .ok (frameCount, consecutiveFrameDataSize))
    (encoded : encodedFrames .standard connection.config mapper buffers consecutiveFrameDataSize
      frameCount 0 sent = .ok (first :: rest, []))
    (announced : decodeFrame .standard connection first =
      .ok (.firstDataFrameReceived connection receiver.messageSize receiver.handler.frameCount
        receiver.consecutiveFrameDataSize receiver.firstFrameData))
    (taken : Forall₂ (DecodesTo .standard connection) (rest.take receiver.accepted.length)
      receiver.accepted) :
    received.payload = sent ∧ received.validBytes = sent.length := by
  have delivers : Delivers receiver received := (inStep_of_reachable reached).faithful _ handed
  obtain ⟨_, _, data, frames, same, length, decoded, decodes, starts⟩ :=
    decodedFrames_message preset bufferSize accepted encoded
  injection same with firstEq restEq
  subst firstEq restEq
  rw [announced, Except.ok.injEq] at decoded
  injection decoded with _ sizeEq countEq segmentEq dataEq
  have complete := delivers.complete
  rw [take_of_length_le (by omega)] at taken
  obtain rfl : receiver.accepted = frames := right_unique_forall₂' DecodesTo.unique taken decodes
  have joinedEq : joined receiver receiver.accepted = data ++ (receiver.accepted.map
      fun entry => entry.2.take consecutiveFrameDataSize).flatten := by
    rw [joined, dataEq, segmentEq]
  refine ⟨?_, delivers.validBytes_eq.trans sizeEq⟩
  rw [delivers.payload_eq, joinedEq, sizeEq]
  exact (prefix_iff_eq_take.mp starts).symm

/-- The frames of a message of ten bytes. -/
def sampleFrames : List (List UInt8) :=
  [[0x10, 0x0A, 1, 2, 3, 4, 5, 6], [0x21, 7, 8, 9, 10, 0xCC, 0xCC, 0xCC]]

theorem transfer_exact_sampleMessage :
    ∃ source : Receiver Nat, ∃ receiver received answer,
      ((system sampleConfig).restrict Orderly).Reachable source ∧
      .messageReceived receiver received answer ∈ source.calls ∧
      receiver.accepted = [(1, [7, 8, 9, 10, 0xCC, 0xCC, 0xCC])] ∧
      received.payload = [1, 2, 3, 4, 5, 6, 7, 8, 9, 10] ∧ received.validBytes = 10 := by
  have handed := mem_of_getElem? (i := 6) (l := (sampleRun sampleMessage).calls) rfl
  have encoded : encodedFrames .standard sampleFrame.connection.config .default
      (fun _ => replicate 8 0) 7 2 0 [1, 2, 3, 4, 5, 6, 7, 8, 9, 10] = .ok (sampleFrames, []) :=
    rfl
  have announced : decodeFrame .standard sampleFrame.connection
      [0x10, 0x0A, 1, 2, 3, 4, 5, 6] =
        .ok (.firstDataFrameReceived sampleFrame.connection 10 2 7 [1, 2, 3, 4, 5, 6]) := rfl
  have taken : DecodesTo .standard sampleFrame.connection
      [0x21, 7, 8, 9, 10, 0xCC, 0xCC, 0xCC] (1, [7, 8, 9, 10, 0xCC, 0xCC, 0xCC]) := rfl
  exact ⟨_, _, _, _, reachable_sampleMessage, handed, rfl,
    transfer_exact reachable_sampleMessage handed (by decide) (fun _ => rfl) rfl encoded announced
      (.cons taken .nil)⟩

end Receiver

end OpenBsw.Docan
