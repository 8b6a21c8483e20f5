import OpenBsw.Routing.PduExtraction

/-!
# Rounds of the adapter

Between two rounds of the loop in `peek`, the returned PDUs followed by the
ones that are left of the current frame are the PDUs of the released frames
and of that frame.  Each round keeps this, and uses up bytes or returns a PDU.
-/

namespace OpenBsw.Routing

open OpenBsw.Bytes List Option
open PduTransportRxAdapter

variable {table : RxAdapterTable} {maxElementSize : Nat}

/-! ## The invariant -/

/-- How many PDUs are configured for the messages with an index. -/
def pduCount (table : RxAdapterTable) (index : Nat) : Nat :=
  firstPdu table (index + 1) - firstPdu table index

/-- The message at the start of the current frame. -/
def currentMessage (adapter : PduTransportRxAdapter) : List UInt8 :=
  adapter.currentFrame.take adapter.currentMessageSize

/-- The PDUs that are left of the current message and of the rest of the frame. -/
def pendingFrom (table : RxAdapterTable) (maxElementSize : Nat)
    (adapter : PduTransportRxAdapter) (position : Nat) : List (List UInt8) :=
  pdusFrom table maxElementSize (currentMessage adapter)
      (firstPdu table adapter.currentMessageIndex + position)
      (pduCount table adapter.currentMessageIndex - position) ++
    pdusOfFrame table maxElementSize (adapter.currentFrame.drop adapter.currentMessageSize)

/-- The PDUs that are left of the current frame. -/
def pending (table : RxAdapterTable) (maxElementSize : Nat) (adapter : PduTransportRxAdapter) :
    List (List UInt8) :=
  if adapter.currentPduIndex = 0 then pdusOfFrame table maxElementSize adapter.currentFrame
  else pendingFrom table maxElementSize adapter adapter.currentPduIndex

/-- The current message is a known one. -/
structure IsOpen (table : RxAdapterTable) (adapter : PduTransportRxAdapter) : Prop where
  whole : Whole adapter.currentFrame
  size : adapter.currentMessageSize = 8 + payloadLength adapter.currentFrame
  known : messageIndex table (currentMessage adapter) = some adapter.currentMessageIndex

/-- A frame that an adapter may receive. -/
structure Receivable (table : RxAdapterTable) (frame : List UInt8) : Prop where
  nonempty : frame ≠ []
  small : frame.length < 2 ^ 32
  readable : Readable table frame

/-- The PDUs of the released frames. -/
def releasedPdus (table : RxAdapterTable) (maxElementSize : Nat)
    (adapter : PduTransportRxAdapter) : List (List UInt8) :=
  adapter.inputReader.released.flatMap (pdusOfFrame table maxElementSize)

/-- The frame at the head of the reader, of which the adapter has read a part. -/
structure Reads (table : RxAdapterTable) (adapter : PduTransportRxAdapter)
    (head : List UInt8) (frames : List (List UInt8)) : Prop where
  frames : adapter.inputReader.frames = head :: frames
  isRest : IsRest head adapter.currentFrame
  shorter : adapter.currentFrame.length ≤ head.length

structure Tracks (table : RxAdapterTable) (maxElementSize : Nat) (returned : List (List UInt8))
    (adapter : PduTransportRxAdapter) : Prop where
  receivable : ∀ frame ∈ adapter.inputReader.frames, Receivable table frame
  idle : adapter.currentFrame = [] → adapter.currentPduIndex = 0 ∧
    returned = releasedPdus table maxElementSize adapter
  busy : adapter.currentFrame ≠ [] → ∃ head frames, Reads table adapter head frames ∧
    returned ++ pending table maxElementSize adapter =
      releasedPdus table maxElementSize adapter ++ pdusOfFrame table maxElementSize head
  opened : adapter.currentPduIndex ≠ 0 → IsOpen table adapter ∧
    adapter.currentPduIndex < pduCount table adapter.currentMessageIndex
  /-- Only a message at the end of its frame, without a PDU that fits, is reported late. -/
  reported : ∀ report ∈ adapter.errors, report.2 = none →
    ∃ frame ∈ adapter.inputReader.released, ¬ LastFits table maxElementSize frame

/-- The bytes that are left. -/
def bytesLeft (adapter : PduTransportRxAdapter) : Nat :=
  adapter.currentFrame.length + (adapter.inputReader.frames.tail.map List.length).sum

/-- The frames that the reader has received. -/
def receivedFrames (adapter : PduTransportRxAdapter) : List (List UInt8) :=
  adapter.inputReader.released ++ adapter.inputReader.frames

/-! ## Going on in a frame -/

variable {returned : List (List UInt8)} {adapter : PduTransportRxAdapter}

/-- The reports and the current PDU may change. -/
theorem Tracks.update (tracks : Tracks table maxElementSize returned adapter)
    (errors : List (StatusCode × Option Nat)) (currentPdu : List UInt8)
    (reported : ∀ report ∈ errors, report.2 = none →
      ∃ frame ∈ adapter.inputReader.released, ¬ LastFits table maxElementSize frame) :
    Tracks table maxElementSize returned { adapter with errors, currentPdu } := by
  refine ⟨tracks.receivable, tracks.idle, fun nonempty => ?_, fun nonzero => ?_, reported⟩
  · obtain ⟨head, frames, reads, stream⟩ := tracks.busy nonempty
    exact ⟨head, frames, ⟨reads.frames, reads.isRest, reads.shorter⟩, stream⟩
  · obtain ⟨isOpen, inside⟩ := tracks.opened nonzero
    exact ⟨⟨isOpen.whole, isOpen.size, isOpen.known⟩, inside⟩

theorem Tracks.report (tracks : Tracks table maxElementSize returned adapter)
    (statusCode : StatusCode) {messageId : Option Nat}
    (late : messageId = none →
      ∃ frame ∈ adapter.inputReader.released, ¬ LastFits table maxElementSize frame) :
    Tracks table maxElementSize returned (adapter.report statusCode messageId) := by
  refine tracks.update _ adapter.currentPdu fun other member => ?_
  rcases mem_append.mp member with earlier | here
  · exact tracks.reported other earlier
  · rw [mem_singleton] at here
    exact here ▸ late

/-- What is true behind the advance over the current message. -/
structure Advanced (table : RxAdapterTable) (maxElementSize : Nat) (returned : List (List UInt8))
    (adapter advanced : PduTransportRxAdapter) : Prop where
  tracks : Tracks table maxElementSize returned advanced
  received : receivedFrames advanced = receivedFrames adapter
  exhausted : advanced.currentFrame = [] → advanced.inputReader.frames = []
  bytesLeft : bytesLeft advanced < bytesLeft adapter

/-- What of the head of the reader becomes of an advance. -/
theorem advance (adapter : PduTransportRxAdapter)
    (receivable : ∀ frame ∈ adapter.inputReader.frames, Receivable table frame)
    {head : List UInt8} {frames : List (List UInt8)}
    (framesEq : adapter.inputReader.frames = head :: frames)
    (shorter : adapter.currentFrame.length ≤ head.length)
    (isRest : adapter.currentFrame.drop adapter.currentMessageSize ≠ [] →
      IsRest head (adapter.currentFrame.drop adapter.currentMessageSize))
    (position : adapter.currentPduIndex = 0) (nonempty : adapter.currentFrame ≠ [])
    (positive : 0 < adapter.currentMessageSize)
    (stream : returned ++ pdusOfFrame table maxElementSize
        (adapter.currentFrame.drop adapter.currentMessageSize) =
      releasedPdus table maxElementSize adapter ++ pdusOfFrame table maxElementSize head)
    (reported : ∀ report ∈ adapter.errors, report.2 = none →
      ∃ frame ∈ adapter.inputReader.released, ¬ LastFits table maxElementSize frame) :
    Advanced table maxElementSize returned adapter (advanceFrame adapter) ∧
      (adapter.currentFrame.drop adapter.currentMessageSize = [] →
        (advanceFrame adapter).inputReader.released =
          adapter.inputReader.released ++ [head]) ∧
      (adapter.currentFrame.drop adapter.currentMessageSize ≠ [] →
        (advanceFrame adapter).inputReader.released = adapter.inputReader.released) := by
  have frameLength : 0 < adapter.currentFrame.length := length_pos_iff.mpr nonempty
  by_cases ends : adapter.currentFrame.drop adapter.currentMessageSize = []
  · have reader : adapter.inputReader.release =
        { frames, released := adapter.inputReader.released ++ [head] } := by
      rw [InputReader.release, framesEq]
    have advanced : advanceFrame adapter =
        { adapter with
          inputReader := { frames, released := adapter.inputReader.released ++ [head] }
          currentFrame := frames.headD [] } := by
      rw [advanceFrame, ends, isEmpty_nil, reader]
      rfl
    rw [ends, pdusOfFrame_nil, append_nil] at stream
    have released : returned =
        (adapter.inputReader.released ++ [head]).flatMap (pdusOfFrame table maxElementSize) := by
      rw [stream, flatMap_append, flatMap_singleton]
      rfl
    rw [advanced]
    refine ⟨⟨⟨?_, fun _ => ⟨position, released⟩, fun someFrame => ?_,
      fun nonzero => absurd position nonzero, fun report member late => ?_⟩, ?_, fun none => ?_,
      ?_⟩, fun _ => rfl, fun more => absurd ends more⟩
    · intro frame member
      refine receivable frame ?_
      rw [framesEq]
      exact mem_cons_of_mem head member
    · rcases frames with _ | ⟨next, frames⟩
      · exact absurd rfl someFrame
      · refine ⟨next, frames, ⟨rfl, IsRest.refl next, Nat.le_refl _⟩, ?_⟩
        rw [pending, if_pos position, released]
        rfl
    · obtain ⟨frame, member, unfit⟩ := reported report member late
      exact ⟨frame, mem_append_left _ member, unfit⟩
    · rw [receivedFrames, receivedFrames, framesEq, append_assoc]
      rfl
    · rcases frames with _ | ⟨next, frames⟩
      · rfl
      · refine absurd none (receivable next ?_).nonempty
        rw [framesEq]
        exact mem_cons_of_mem head mem_cons_self
    · rw [bytesLeft, bytesLeft, framesEq]
      rcases frames with _ | ⟨next, frames⟩
      · exact Nat.lt_add_right _ frameLength
      · simp only [headD_cons, tail_cons, map_cons, sum_cons]
        omega
  · have continues :
        (adapter.currentFrame.drop adapter.currentMessageSize).isEmpty = false :=
      isEmpty_eq_false_iff.mpr ends
    have advanced : advanceFrame adapter =
        { adapter with
          currentFrame := adapter.currentFrame.drop adapter.currentMessageSize } := by
      rw [advanceFrame, continues]
      rfl
    rw [advanced]
    refine ⟨⟨⟨receivable, fun none => absurd none ends, fun _ => ?_,
      fun nonzero => absurd position nonzero, reported⟩, rfl, fun none => absurd none ends, ?_⟩,
      fun none => absurd none ends, fun _ => rfl⟩
    · refine ⟨head, frames, ⟨framesEq, isRest ends, ?_⟩, ?_⟩
      · rw [length_drop]
        omega
      · rw [pending, if_pos position]
        exact stream
    · simp only [OpenBsw.Routing.bytesLeft, length_drop]
      omega

/-! ## One round -/

/-- What a round makes of the state. -/
structure Round (table : RxAdapterTable) (maxElementSize : Nat) (returned : List (List UInt8))
    (adapter next : PduTransportRxAdapter) (isExtracted : Bool) : Prop where
  received : receivedFrames next = receivedFrames adapter
  exhausted : next.currentFrame = [] → next.inputReader.frames = []
  extracted : isExtracted = true → next.currentPdu ≠ [] ∧
    Tracks table maxElementSize (returned ++ [next.currentPdu]) next
  continued : isExtracted = false → next.currentPdu = adapter.currentPdu ∧
    Tracks table maxElementSize returned next ∧ bytesLeft next < bytesLeft adapter

/-- A round may store the size and the index of the message first. -/
theorem Round.of_message {next : PduTransportRxAdapter} {isExtracted : Bool} {size index : Nat}
    (round : Round table maxElementSize returned
      { adapter with currentMessageSize := size, currentMessageIndex := index } next isExtracted) :
    Round table maxElementSize returned adapter next isExtracted :=
  ⟨round.received, round.exhausted, round.extracted, round.continued⟩

theorem advanceFrame_currentPdu (adapter : PduTransportRxAdapter) :
    (advanceFrame adapter).currentPdu = adapter.currentPdu := by
  simp only [advanceFrame]
  split <;> rfl

/-- A broken frame or an unexpected message is reported and skipped. -/
theorem round_skip (adapter : PduTransportRxAdapter)
    (receivable : ∀ frame ∈ adapter.inputReader.frames, Receivable table frame)
    {head : List UInt8} {frames : List (List UInt8)} (reads : Reads table adapter head frames)
    (position : adapter.currentPduIndex = 0) (nonempty : adapter.currentFrame ≠ [])
    (positive : 0 < adapter.currentMessageSize)
    (isRest : adapter.currentFrame.drop adapter.currentMessageSize ≠ [] →
      IsRest head (adapter.currentFrame.drop adapter.currentMessageSize))
    (stream : returned ++ pdusOfFrame table maxElementSize
        (adapter.currentFrame.drop adapter.currentMessageSize) =
      releasedPdus table maxElementSize adapter ++ pdusOfFrame table maxElementSize head)
    (reported : ∀ report ∈ adapter.errors, report.2 = none →
      ∃ frame ∈ adapter.inputReader.released, ¬ LastFits table maxElementSize frame)
    (statusCode : StatusCode) (messageId : Nat) :
    Round table maxElementSize returned adapter
      (advanceFrame (adapter.report statusCode (some messageId))) false := by
  have advanced := (advance (adapter.report statusCode (some messageId)) receivable reads.frames
    reads.shorter isRest position nonempty positive stream ?_).1
  · exact ⟨advanced.received, advanced.exhausted,
      fun impossible => absurd impossible Bool.false_ne_true,
      fun _ => ⟨advanceFrame_currentPdu _, advanced.tracks, advanced.bytesLeft⟩⟩
  · intro report member late
    rcases mem_append.mp member with earlier | here
    · exact reported report earlier late
    · rw [mem_singleton] at here
      subst here
      exact absurd late (some_ne_none _)

/-- The PDUs of a known message are extracted in order. -/
theorem round_extractPdus (consistent : Consistent table) (adapter : PduTransportRxAdapter)
    (receivable : ∀ frame ∈ adapter.inputReader.frames, Receivable table frame)
    {head : List UInt8} {frames : List (List UInt8)} (reads : Reads table adapter head frames)
    (isOpen : IsOpen table adapter)
    (position : adapter.currentPduIndex ≤ pduCount table adapter.currentMessageIndex)
    (stream : returned ++ pendingFrom table maxElementSize adapter adapter.currentPduIndex =
      releasedPdus table maxElementSize adapter ++ pdusOfFrame table maxElementSize head)
    (reported : ∀ report ∈ adapter.errors, report.2 = none →
      ∃ frame ∈ adapter.inputReader.released, ¬ LastFits table maxElementSize frame)
    (isNewMessage : Bool) (isNew : isNewMessage = true → adapter.currentPduIndex = 0) :
    ∃ next isExtracted, extractPdus table maxElementSize adapter isNewMessage =
        some (next, isExtracted) ∧
      Round table maxElementSize returned adapter next isExtracted := by
  obtain ⟨whole, size, known⟩ := isOpen
  have indexInside := messageIndex_lt known
  obtain ⟨⟨entry, entryFound, entryEq⟩, nextEntry, nextFound, nextEq⟩ :=
    consistent.entries indexInside
  have ordered := consistent.firstPdu_le (Nat.le_succ adapter.currentMessageIndex) indexInside
  have nextSmall := firstPdu_lt table (adapter.currentMessageIndex + 1)
  have count : Word32.sub (firstPdu table (adapter.currentMessageIndex + 1))
      (firstPdu table adapter.currentMessageIndex) =
        pduCount table adapter.currentMessageIndex := by
    refine Word32.sub_eq ordered ?_
    unfold Word32.modulus
    exact nextSmall
  have countEq : firstPdu table adapter.currentMessageIndex +
      pduCount table adapter.currentMessageIndex =
        firstPdu table (adapter.currentMessageIndex + 1) := Nat.add_sub_cancel' ordered
  have nonempty : adapter.currentFrame ≠ [] := by
    rw [← length_pos_iff]
    exact Nat.lt_of_lt_of_le (by decide) whole.1
  have headReceivable := receivable head (reads.frames ▸ mem_cons_self)
  have readable := reads.isRest.readable headReceivable.readable
  have messageEq : currentMessage adapter =
      adapter.currentFrame.take (8 + payloadLength adapter.currentFrame) := by
    rw [currentMessage, size]
  have messageLength : (currentMessage adapter).length =
      8 + payloadLength adapter.currentFrame := by
    rw [messageEq, length_message whole]
  have messageSmall : (currentMessage adapter).length < 2 ^ 32 := by
    rw [messageLength]
    exact Nat.lt_of_le_of_lt (Nat.le_trans whole.2 reads.shorter) headReceivable.small
  have extracts : ∀ id, firstPdu table adapter.currentMessageIndex + adapter.currentPduIndex ≤ id →
      id < firstPdu table adapter.currentMessageIndex + (adapter.currentPduIndex +
        (pduCount table adapter.currentMessageIndex - adapter.currentPduIndex)) →
      extract table maxElementSize (currentMessage adapter) id =
        some (configuredPdu table maxElementSize (currentMessage adapter) id) := by
    intro id lower upper
    have below : id < firstPdu table (adapter.currentMessageIndex + 1) := by omega
    refine extract_eq consistent ?_ messageSmall (consistent.id_lt indexInside below) ?_
    · rw [messageLength]
      exact Nat.le_add_right ..
    · refine readable.ranges (currentMessage adapter) ?_ adapter.currentMessageIndex known id
        (by omega) below
      rw [cut_of_whole whole, messageEq]
      exact mem_cons_self
  have first : Span.first adapter.currentFrame adapter.currentMessageSize =
      some (currentMessage adapter) := by
    have fits : adapter.currentMessageSize ≤ adapter.currentFrame.length := by
      rw [size]
      exact whole.2
    exact Span.first_eq fits
  have restIsRest : IsRest head (adapter.currentFrame.drop adapter.currentMessageSize) := by
    rw [size]
    exact reads.isRest.drop whole
  have positive : 0 < adapter.currentMessageSize := by omega
  rw [extractPdus, entryFound, nextFound]
  simp only [bind_eq_bind, bind_some]
  rw [entryEq, nextEq, count, first]
  simp only [bind_some]
  rcases extractFrom_cases (pduCount table adapter.currentMessageIndex - adapter.currentPduIndex)
      adapter.currentPduIndex (by omega) extracts with
    ⟨ended, none⟩ | ⟨used, rest, pdu, parts, someUsed, found, ⟨id, fits⟩, pdus⟩
  · have last : adapter.currentPduIndex +
        (pduCount table adapter.currentMessageIndex - adapter.currentPduIndex) =
          pduCount table adapter.currentMessageIndex := Nat.add_sub_cancel' position
    rw [pendingFrom, none, nil_append] at stream
    obtain ⟨advanced, ends, continues⟩ := advance { adapter with currentPduIndex := 0 }
      receivable reads.frames reads.shorter (fun _ => restIsRest) rfl nonempty positive stream
      reported
    have moved : moveOn adapter (pduCount table adapter.currentMessageIndex)
        (pduCount table adapter.currentMessageIndex) Option.none =
          advanceFrame { adapter with currentPduIndex := 0 } := if_pos rfl
    have pduEq := advanceFrame_currentPdu { adapter with currentPduIndex := 0 }
    rw [ended, last]
    simp only [bind_some, isSome_none, Bool.false_eq_true, if_false, moved]
    generalize advanceFrame { adapter with currentPduIndex := 0 } = next at *
    by_cases new : isNewMessage = true
    · obtain ⟨messageId, reads'⟩ :=
        exists_reportedMessageId .INVALID_PAYLOAD_LENGTH (currentMessage adapter)
      rw [if_pos new, reads', bind_some]
      refine ⟨_, false, rfl, advanced.received, advanced.exhausted,
        fun impossible => absurd impossible Bool.false_ne_true,
        fun _ => ⟨pduEq, advanced.tracks.report _ fun late => ?_, advanced.bytesLeft⟩⟩
      by_cases more : adapter.currentFrame.drop adapter.currentMessageSize = []
      · refine ⟨head, ?_, ?_⟩
        · rw [ends more]
          exact mem_append_right _ (mem_singleton_self head)
        · rw [size] at more
          rw [messageEq] at known none
          rw [isNew new] at none
          refine reads.isRest.not_lastFits whole more ?_ ?_
          · rw [known]
            exact some_ne_none _
          · rw [pdusOf, known]
            exact none
      · rw [if_neg] at late
        · exact absurd late (some_ne_none _)
        · rw [continues more]
          exact not_not_intro rfl
    · rw [if_neg new]
      exact ⟨next, false, rfl, advanced.received, advanced.exhausted,
        fun impossible => absurd impossible Bool.false_ne_true,
        fun _ => ⟨pduEq, advanced.tracks, advanced.bytesLeft⟩⟩
  · have someBytes := ne_nil_of_configuredPdu fits
    rw [pendingFrom, pdus] at stream
    rw [found]
    simp only [bind_some, isSome_some, if_true]
    by_cases last : adapter.currentPduIndex + used = pduCount table adapter.currentMessageIndex
    · obtain rfl : rest = 0 := by omega
      have streamNext : (returned ++ [pdu]) ++ pdusOfFrame table maxElementSize
          (adapter.currentFrame.drop adapter.currentMessageSize) =
            releasedPdus table maxElementSize adapter ++ pdusOfFrame table maxElementSize head := by
        rw [← stream, append_assoc]
        rfl
      obtain ⟨advanced, _, _⟩ := advance
        { adapter with currentPduIndex := 0, currentPdu := pdu } receivable
        reads.frames reads.shorter (fun _ => restIsRest) rfl nonempty positive streamNext reported
      have pduEq := advanceFrame_currentPdu { adapter with currentPduIndex := 0, currentPdu := pdu }
      have moved : moveOn adapter (pduCount table adapter.currentMessageIndex)
          (adapter.currentPduIndex + used) (some pdu) =
            advanceFrame { adapter with currentPduIndex := 0, currentPdu := pdu } := if_pos last
      rw [moved]
      refine ⟨_, true, rfl, advanced.received, advanced.exhausted, fun _ => ?_,
        fun impossible => absurd impossible.symm Bool.false_ne_true⟩
      rw [pduEq]
      exact ⟨someBytes, advanced.tracks⟩
    · have moved : moveOn adapter (pduCount table adapter.currentMessageIndex)
          (adapter.currentPduIndex + used) (some pdu) =
            { adapter with
              currentPduIndex := adapter.currentPduIndex + used
              currentPdu := pdu } := if_neg last
      rw [moved]
      refine ⟨_, true, rfl, rfl, fun none => absurd none nonempty, fun _ => ⟨someBytes, ?_⟩,
        fun impossible => absurd impossible.symm Bool.false_ne_true⟩
      refine ⟨receivable, fun none => absurd none nonempty, fun _ => ?_, fun _ => ?_, reported⟩
      · refine ⟨head, frames, ⟨reads.frames, reads.isRest, reads.shorter⟩, ?_⟩
        have remaining : pduCount table adapter.currentMessageIndex -
            (adapter.currentPduIndex + used) = rest := by omega
        have nonzero : adapter.currentPduIndex + used ≠ 0 := by omega
        rw [pending, if_neg nonzero]
        change (returned ++ [pdu]) ++ (pdusFrom table maxElementSize (currentMessage adapter)
            (firstPdu table adapter.currentMessageIndex + (adapter.currentPduIndex + used))
            (pduCount table adapter.currentMessageIndex - (adapter.currentPduIndex + used)) ++
          pdusOfFrame table maxElementSize
            (adapter.currentFrame.drop adapter.currentMessageSize)) = _
        rw [remaining, append_assoc]
        exact stream
      · refine ⟨⟨whole, size, known⟩, ?_⟩
        change adapter.currentPduIndex + used < pduCount table adapter.currentMessageIndex
        omega

/-- Every round ends and keeps the invariant. -/
theorem round_processFrame (consistent : Consistent table)
    (tracks : Tracks table maxElementSize returned adapter) (nonempty : adapter.currentFrame ≠ []) :
    ∃ next isExtracted, processFrame table maxElementSize adapter = some (next, isExtracted) ∧
      Round table maxElementSize returned adapter next isExtracted := by
  obtain ⟨head, frames, reads, stream⟩ := tracks.busy nonempty
  by_cases start : adapter.currentPduIndex = 0
  · have headReceivable := tracks.receivable head (reads.frames ▸ mem_cons_self)
    have readable := reads.isRest.readable headReceivable.readable
    have small := Nat.lt_of_le_of_lt reads.shorter headReceivable.small
    rw [pending, if_pos start] at stream
    rw [processFrame, if_pos start]
    rcases processMessage_cases consistent readable small with
      ⟨broken, statusCode, processed⟩ | ⟨whole, unknown, statusCode, processed⟩ |
        ⟨whole, index, known, processed⟩
    · obtain ⟨messageId, reported⟩ := exists_reportedMessageId statusCode adapter.currentFrame
      have nothing : adapter.currentFrame.drop adapter.currentFrame.length = [] :=
        drop_length
      have all : Span.first adapter.currentFrame adapter.currentFrame.length =
          some adapter.currentFrame := by
        rw [Span.first_eq (Nat.le_refl _), take_length]
      rw [processed]
      simp only [bind_eq_bind, bind_some, all, reported]
      refine ⟨_, false, rfl, (round_skip
        { adapter with currentMessageSize := adapter.currentFrame.length } tracks.receivable
        ⟨reads.frames, reads.isRest, reads.shorter⟩ start nonempty
        (length_pos_iff.mpr nonempty) (fun more => absurd nothing more) ?_ tracks.reported
        statusCode messageId).of_message⟩
      change returned ++ pdusOfFrame table maxElementSize
        (adapter.currentFrame.drop adapter.currentFrame.length) = _
      rw [nothing, pdusOfFrame_nil]
      rw [pdusOfFrame_of_not_whole broken] at stream
      exact stream
    · obtain ⟨messageId, reported⟩ := exists_reportedMessageId statusCode
        (adapter.currentFrame.take (8 + payloadLength adapter.currentFrame))
      rw [processed]
      simp only [bind_eq_bind, bind_some, Span.first_eq whole.2, reported]
      refine ⟨_, false, rfl, (round_skip
        { adapter with currentMessageSize := 8 + payloadLength adapter.currentFrame }
        tracks.receivable ⟨reads.frames, reads.isRest, reads.shorter⟩ start nonempty
        (Nat.lt_add_right _ (by decide)) (fun _ => reads.isRest.drop whole) ?_ tracks.reported
        statusCode messageId).of_message⟩
      rw [pdusOfFrame_of_whole whole, pdusOf, unknown, nil_append] at stream
      exact stream
    · rw [processed]
      simp only [bind_eq_bind, bind_some]
      rw [pdusOfFrame_of_whole whole, pdusOf, known] at stream
      have pendingEq : pendingFrom table maxElementSize
          { adapter with
            currentMessageSize := 8 + payloadLength adapter.currentFrame
            currentMessageIndex := index } adapter.currentPduIndex =
          pdusFrom table maxElementSize
              (adapter.currentFrame.take (8 + payloadLength adapter.currentFrame))
              (firstPdu table index) (firstPdu table (index + 1) - firstPdu table index) ++
            pdusOfFrame table maxElementSize
              (adapter.currentFrame.drop (8 + payloadLength adapter.currentFrame)) := by
        rw [start]
        rfl
      obtain ⟨next, isExtracted, extracted, round⟩ := round_extractPdus consistent
        { adapter with
          currentMessageSize := 8 + payloadLength adapter.currentFrame
          currentMessageIndex := index }
        tracks.receivable ⟨reads.frames, reads.isRest, reads.shorter⟩ ⟨whole, rfl, known⟩
        (Nat.le_trans (Nat.le_of_eq start) (Nat.zero_le _))
        ((congrArg (returned ++ ·) pendingEq).trans stream) tracks.reported true (fun _ => start)
      exact ⟨next, isExtracted, extracted, round.of_message⟩
  · obtain ⟨isOpen, inside⟩ := tracks.opened start
    rw [pending, if_neg start] at stream
    rw [processFrame, if_neg start]
    exact round_extractPdus consistent adapter tracks.receivable reads isOpen
      (Nat.le_of_lt inside) stream
      tracks.reported false (fun impossible => absurd impossible Bool.false_ne_true)

/-! ## The loop -/

/-- The loop ends with a PDU, or behind the last frame. -/
theorem peekLoop_spec (consistent : Consistent table) (fuel : Nat)
    (tracks : Tracks table maxElementSize returned adapter) (noPdu : adapter.currentPdu = [])
    (exhausted : adapter.currentFrame = [] → adapter.inputReader.frames = [])
    (enough : bytesLeft adapter < fuel) :
    ∃ next pdu, peekLoop table maxElementSize fuel adapter = some (next, pdu) ∧
      receivedFrames next = receivedFrames adapter ∧ next.currentPdu = pdu ∧
      (pdu ≠ [] → Tracks table maxElementSize (returned ++ [pdu]) next) ∧
      (pdu = [] → Tracks table maxElementSize returned next ∧ next.inputReader.frames = [] ∧
        next.currentFrame = []) := by
  induction fuel generalizing adapter with
  | zero => exact absurd enough (Nat.not_lt_zero _)
  | succ fuel ih =>
    rw [peekLoop]
    by_cases empty : adapter.currentFrame = []
    · rw [empty, isEmpty_nil, if_pos rfl]
      exact ⟨adapter, [], rfl, rfl, noPdu, fun some => absurd rfl some,
        fun _ => ⟨tracks, exhausted empty, empty⟩⟩
    · rw [isEmpty_eq_false_iff.mpr empty, if_neg Bool.false_ne_true]
      obtain ⟨next, isExtracted, processed, round⟩ := round_processFrame consistent tracks empty
      rw [processed]
      simp only [bind_eq_bind, bind_some]
      cases isExtracted with
      | true =>
        obtain ⟨someBytes, nextTracks⟩ := round.extracted rfl
        exact ⟨next, next.currentPdu, rfl, round.received, rfl, fun _ => nextTracks,
          fun none => absurd none someBytes⟩
      | false =>
        obtain ⟨pduEq, nextTracks, decreases⟩ := round.continued rfl
        obtain ⟨final, pdu, looped, received, result⟩ :=
          ih nextTracks (pduEq.trans noPdu) round.exhausted (by omega)
        exact ⟨final, pdu, looped, received.trans round.received, result⟩

/-- `peek` returns the next PDU, or nothing behind the last frame. -/
theorem peek_spec (consistent : Consistent table)
    (tracks : Tracks table maxElementSize returned adapter) (noPdu : adapter.currentPdu = []) :
    ∃ next pdu, peek table maxElementSize adapter = some (next, pdu) ∧
      receivedFrames next = receivedFrames adapter ∧ next.currentPdu = pdu ∧
      (pdu ≠ [] → Tracks table maxElementSize (returned ++ [pdu]) next) ∧
      (pdu = [] → Tracks table maxElementSize returned next ∧ next.inputReader.frames = [] ∧
        next.currentFrame = []) := by
  rw [peek, if_neg (not_not_intro noPdu)]
  by_cases empty : adapter.currentFrame = []
  · obtain ⟨start, released⟩ := tracks.idle empty
    rw [empty, isEmpty_nil, if_pos rfl]
    refine peekLoop_spec consistent _ ⟨tracks.receivable, fun _ => ⟨start, released⟩, ?_,
      fun nonzero => absurd start nonzero, tracks.reported⟩ noPdu ?_ ?_
    · intro someFrame
      cases framesEq : adapter.inputReader.frames with
      | nil =>
        refine absurd ?_ someFrame
        change adapter.inputReader.frames.headD [] = []
        rw [framesEq]
        rfl
      | cons head frames =>
        have current : adapter.inputReader.peek = head := by
          rw [InputReader.peek, framesEq]
          rfl
        refine ⟨head, frames, ⟨framesEq, ?_, ?_⟩, ?_⟩
        · rw [current]
          exact IsRest.refl head
        · rw [current]
        · rw [pending, if_pos start, current, released]
          rfl
    · intro noFrame
      change adapter.inputReader.frames.headD [] = [] at noFrame
      cases framesEq : adapter.inputReader.frames with
      | nil => rfl
      | cons head frames =>
        rw [framesEq] at noFrame
        exact absurd noFrame (tracks.receivable head (framesEq ▸ mem_cons_self)).nonempty
    · change (adapter.inputReader.frames.headD []).length +
        (adapter.inputReader.frames.tail.map List.length).sum < _
      cases adapter.inputReader.frames with
      | nil => exact Nat.one_pos
      | cons head frames => exact Nat.lt_succ_self _
  · rw [isEmpty_eq_false_iff.mpr empty, if_neg Bool.false_ne_true]
    obtain ⟨head, frames, reads, _⟩ := tracks.busy empty
    refine peekLoop_spec consistent _ tracks noPdu (fun none => absurd none empty) ?_
    have shorter := reads.shorter
    rw [bytesLeft, reads.frames, map_cons, sum_cons, tail_cons]
    omega

end OpenBsw.Routing
