import OpenBsw.Routing.PduRounds
import OpenBsw.Transition.System

/-!
# Runs of the adapter

Frames arrive at any time, and the user of the adapter peeks and releases in
any order.  A run records the frames that arrived and the PDUs that were
returned, each once.
-/

namespace OpenBsw.Routing

open OpenBsw.Transition List
open PduTransportRxAdapter

structure ExtractionRun where
  adapter : PduTransportRxAdapter := {}
  received : List (List UInt8) := []
  returned : List (List UInt8) := []

inductive ExtractionEvent where
  | receive (frame : List UInt8)
  | peek
  | release

namespace ExtractionRun

/-- The state after an event.  A view of no bytes is no frame. -/
def perform (table : RxAdapterTable) (maxElementSize : Nat) (run : ExtractionRun) :
    ExtractionEvent → Option ExtractionRun
  | .receive frame =>
    if frame ≠ [] ∧ frame.length < 2 ^ 32 then
      some { run with
        adapter.inputReader.frames := run.adapter.inputReader.frames ++ [frame]
        received := run.received ++ [frame] }
    else none
  | .peek => do
    let (adapter, pdu) ← run.adapter.peek table maxElementSize
    return { run with
      adapter
      returned :=
        if run.adapter.currentPdu = [] ∧ pdu ≠ [] then run.returned ++ [pdu]
        else run.returned }
  | .release => some { run with adapter := run.adapter.release }

def system (table : RxAdapterTable) (maxElementSize : Nat) :
    System ExtractionRun ExtractionEvent where
  Initial run := run = {}
  Step source event target := source.perform table maxElementSize event = some target

/-- No sum wraps while a received frame is read, and where it ends with a known message a PDU of
that fits. -/
def Plain (table : RxAdapterTable) (maxElementSize : Nat) (_ : ExtractionRun) :
    ExtractionEvent → Prop
  | .receive frame => Readable table frame ∧ LastFits table maxElementSize frame
  | _ => True

/-- What `peek` does next. -/
structure Peeks (table : RxAdapterTable) (maxElementSize : Nat) (run : ExtractionRun)
    (adapter : PduTransportRxAdapter) (pdu : List UInt8) : Prop where
  peeked : peek table maxElementSize run.adapter = some (adapter, pdu)
  /-- The PDU is returned again until it is released. -/
  kept : adapter.currentPdu = pdu
  again : run.adapter.currentPdu ≠ [] → adapter = run.adapter ∧ pdu = run.adapter.currentPdu
  next : run.adapter.currentPdu = [] → pdu ≠ [] →
    run.returned ++ [pdu] <+: run.received.flatMap (pdusOfFrame table maxElementSize)
  nothing : pdu = [] →
    run.returned = run.received.flatMap (pdusOfFrame table maxElementSize) ∧
      adapter.inputReader.released = run.received

structure Correct (table : RxAdapterTable) (maxElementSize : Nat) (run : ExtractionRun) : Prop where
  peeks : ∃ adapter pdu, Peeks table maxElementSize run adapter pdu
  /-- The frames are released in order, each once. -/
  accounted : run.received = run.adapter.inputReader.released ++ run.adapter.inputReader.frames
  /-- A frame is released behind its last PDU. -/
  released : run.adapter.inputReader.released.flatMap (pdusOfFrame table maxElementSize) <+:
    run.returned
  returned : run.returned <+:
    (run.adapter.inputReader.released ++ run.adapter.inputReader.frames.take 1).flatMap
      (pdusOfFrame table maxElementSize)
  /-- No message is read in a released frame. -/
  inside : ∀ report ∈ run.adapter.errors, report.2 ≠ none

/-! ## The invariant -/

structure Invariant (table : RxAdapterTable) (maxElementSize : Nat) (run : ExtractionRun) :
    Prop where
  tracks : Tracks table maxElementSize run.returned run.adapter
  accounted : run.received = receivedFrames run.adapter

variable {table : RxAdapterTable} {maxElementSize : Nat} {run target : ExtractionRun}

theorem Invariant.initial : Invariant table maxElementSize {} where
  tracks :=
    { receivable := fun _ member => absurd member not_mem_nil
      idle := fun _ => ⟨rfl, rfl⟩
      busy := fun someFrame => absurd rfl someFrame
      opened := fun nonzero => absurd rfl nonzero
      reported := fun _ member => absurd member not_mem_nil }
  accounted := rfl

theorem Invariant.receive (invariant : Invariant table maxElementSize run) {frame : List UInt8}
    (receivable : Receivable table frame) :
    Invariant table maxElementSize
      { run with
        adapter.inputReader.frames := run.adapter.inputReader.frames ++ [frame]
        received := run.received ++ [frame] } where
  tracks :=
    { receivable := fun other member => by
        rcases mem_append.mp member with earlier | here
        · exact invariant.tracks.receivable other earlier
        · exact mem_singleton.mp here ▸ receivable
      idle := invariant.tracks.idle
      busy := fun someFrame => by
        obtain ⟨head, frames, reads, stream⟩ := invariant.tracks.busy someFrame
        refine ⟨head, frames ++ [frame], ⟨?_, reads.isRest, reads.shorter⟩, stream⟩
        change run.adapter.inputReader.frames ++ [frame] = _
        rw [reads.frames]
        rfl
      opened := fun nonzero => by
        obtain ⟨isOpen, inside⟩ := invariant.tracks.opened nonzero
        exact ⟨⟨isOpen.whole, isOpen.size, isOpen.known⟩, inside⟩
      reported := invariant.tracks.reported }
  accounted := by
    change run.received ++ [frame] =
      run.adapter.inputReader.released ++ (run.adapter.inputReader.frames ++ [frame])
    rw [invariant.accounted, receivedFrames, append_assoc]

/-- A call of `peek` keeps the invariant. -/
theorem Invariant.peek (consistent : Consistent table)
    (invariant : Invariant table maxElementSize run)
    (peeked : run.perform table maxElementSize .peek = some target) :
    Invariant table maxElementSize target := by
  rw [perform, Option.bind_eq_bind, Option.bind_eq_some_iff] at peeked
  obtain ⟨⟨adapter, pdu⟩, called, targetEq⟩ := peeked
  cases targetEq
  by_cases noPdu : run.adapter.currentPdu = []
  · obtain ⟨next, found, foundEq, received, _, some, none⟩ :=
      peek_spec consistent invariant.tracks noPdu
    obtain ⟨rfl, rfl⟩ := Prod.mk.inj (Option.some.inj (called.symm.trans foundEq))
    refine ⟨?_, invariant.accounted.trans received.symm⟩
    by_cases empty : pdu = []
    · rw [if_neg fun both => both.2 empty]
      exact (none empty).1
    · rw [if_pos ⟨noPdu, empty⟩]
      exact some empty
  · rw [PduTransportRxAdapter.peek, if_pos noPdu] at called
    cases called
    rw [if_neg fun both => noPdu both.1]
    exact invariant

theorem Invariant.release (invariant : Invariant table maxElementSize run) :
    Invariant table maxElementSize { run with adapter := run.adapter.release } where
  tracks := invariant.tracks.update run.adapter.errors [] invariant.tracks.reported
  accounted := invariant.accounted

/-- A call of `peek` receives nothing. -/
theorem received_of_peek (peeked : run.perform table maxElementSize .peek = some target) :
    target.received = run.received := by
  obtain ⟨_, _, targetEq⟩ := Option.bind_eq_some_iff.mp peeked
  cases targetEq
  rfl

theorem invariant_inductive (consistent : Consistent table) :
    ((system table maxElementSize).restrict (Plain table maxElementSize)).Inductive fun run =>
      Invariant table maxElementSize run ∧
        ∀ frame ∈ run.received, LastFits table maxElementSize frame where
  initial start := start ▸ ⟨Invariant.initial, fun _ member => absurd member not_mem_nil⟩
  step {source event target} before stepped := by
    obtain ⟨invariant, fits⟩ := before
    obtain ⟨performed, plain⟩ := stepped
    cases event with
    | receive frame =>
      change (if _ then _ else _) = _ at performed
      rw [Option.ite_none_right_eq_some, Option.some.injEq] at performed
      obtain ⟨⟨nonempty, small⟩, rfl⟩ := performed
      refine ⟨invariant.receive ⟨nonempty, small, plain.1⟩, fun other member => ?_⟩
      rcases mem_append.mp member with earlier | here
      · exact fits other earlier
      · exact mem_singleton.mp here ▸ plain.2
    | peek => exact ⟨invariant.peek consistent performed, received_of_peek performed ▸ fits⟩
    | release =>
      cases performed
      exact ⟨invariant.release, fits⟩

/-! ## What the invariant says -/

/-- What is left of a frame are its last PDUs. -/
theorem exists_before (table : RxAdapterTable) (maxElementSize : Nat)
    {adapter : PduTransportRxAdapter} {head : List UInt8}
    (isRest : IsRest head adapter.currentFrame)
    (opened : adapter.currentPduIndex ≠ 0 → IsOpen table adapter ∧
      adapter.currentPduIndex < pduCount table adapter.currentMessageIndex) :
    ∃ before, pdusOfFrame table maxElementSize head =
      before ++ pending table maxElementSize adapter := by
  obtain ⟨before, cutEq⟩ := isRest
  have headPdus : pdusOfFrame table maxElementSize head =
      before.flatMap (pdusOf table maxElementSize) ++
        pdusOfFrame table maxElementSize adapter.currentFrame := by
    rw [pdusOfFrame, cutEq, flatMap_append]
    rfl
  by_cases start : adapter.currentPduIndex = 0
  · rw [pending, if_pos start]
    exact ⟨_, headPdus⟩
  · obtain ⟨⟨whole, size, known⟩, inside⟩ := opened start
    have messageEq : currentMessage adapter =
        adapter.currentFrame.take (8 + payloadLength adapter.currentFrame) := by
      rw [currentMessage, size]
    have split : List.range' (firstPdu table adapter.currentMessageIndex)
        (pduCount table adapter.currentMessageIndex) =
          List.range' (firstPdu table adapter.currentMessageIndex) adapter.currentPduIndex ++
            List.range' (firstPdu table adapter.currentMessageIndex + adapter.currentPduIndex)
              (pduCount table adapter.currentMessageIndex - adapter.currentPduIndex) := by
      rw [List.range'_append_1, Nat.add_sub_cancel' (Nat.le_of_lt inside)]
    rw [messageEq] at known
    rw [pdusOfFrame_of_whole whole, pdusOf, known, ← messageEq] at headPdus
    simp only [pdusFrom] at headPdus
    rw [show firstPdu table (adapter.currentMessageIndex + 1) -
      firstPdu table adapter.currentMessageIndex =
        pduCount table adapter.currentMessageIndex from rfl, split, filterMap_append,
      append_assoc, ← append_assoc] at headPdus
    rw [pending, if_neg start, pendingFrom, size]
    exact ⟨_, headPdus⟩

theorem Invariant.peeks (consistent : Consistent table)
    (invariant : Invariant table maxElementSize run) :
    ∃ adapter pdu, Peeks table maxElementSize run adapter pdu := by
  by_cases noPdu : run.adapter.currentPdu = []
  · obtain ⟨next, pdu, peeked, received, kept, some, none⟩ :=
      peek_spec consistent invariant.tracks noPdu
    refine ⟨next, pdu, peeked, kept, fun different => absurd noPdu different,
      fun _ someBytes => ?_, fun empty => ?_⟩
    · have nextTracks := some someBytes
      have frames : run.received = next.inputReader.released ++ next.inputReader.frames :=
        invariant.accounted.trans received.symm
      rw [frames, flatMap_append]
      by_cases idle : next.currentFrame = []
      · rw [(nextTracks.idle idle).2]
        exact prefix_append _ _
      · obtain ⟨head, rest, reads, stream⟩ := nextTracks.busy idle
        rw [reads.frames, flatMap_cons, ← append_assoc]
        refine List.IsPrefix.trans ?_ (prefix_append _ _)
        exact ⟨_, stream⟩
    · obtain ⟨nextTracks, noFrames, idle⟩ := none empty
      have frames : run.received = next.inputReader.released := by
        rw [invariant.accounted, ← received, receivedFrames, noFrames, append_nil]
      refine ⟨?_, frames.symm⟩
      rw [(nextTracks.idle idle).2, frames]
      rfl
  · refine ⟨run.adapter, run.adapter.currentPdu, ?_, rfl, fun _ => ⟨rfl, rfl⟩,
      fun none => absurd none noPdu, fun none => absurd none noPdu⟩
    rw [PduTransportRxAdapter.peek, if_pos noPdu]
    rfl

theorem Invariant.released (invariant : Invariant table maxElementSize run) :
    run.adapter.inputReader.released.flatMap (pdusOfFrame table maxElementSize) <+:
      run.returned := by
  have tracks := invariant.tracks
  by_cases idle : run.adapter.currentFrame = []
  · rw [(tracks.idle idle).2]
    exact prefix_refl _
  · obtain ⟨head, rest, reads, stream⟩ := tracks.busy idle
    obtain ⟨before, pdus⟩ := exists_before table maxElementSize reads.isRest tracks.opened
    rw [pdus, ← append_assoc] at stream
    rw [append_cancel_right stream]
    exact prefix_append _ _

theorem Invariant.returned (invariant : Invariant table maxElementSize run) :
    run.returned <+:
      (run.adapter.inputReader.released ++ run.adapter.inputReader.frames.take 1).flatMap
        (pdusOfFrame table maxElementSize) := by
  by_cases idle : run.adapter.currentFrame = []
  · rw [(invariant.tracks.idle idle).2, flatMap_append]
    exact prefix_append _ _
  · obtain ⟨head, rest, reads, stream⟩ := invariant.tracks.busy idle
    rw [reads.frames, flatMap_append]
    exact ⟨_, stream.trans (congrArg _ (flatMap_singleton _ _).symm)⟩

theorem Invariant.correct (consistent : Consistent table)
    (invariant : Invariant table maxElementSize run)
    (fits : ∀ frame ∈ run.received, LastFits table maxElementSize frame) :
    Correct table maxElementSize run where
  peeks := invariant.peeks consistent
  accounted := invariant.accounted
  released := invariant.released
  returned := invariant.returned
  inside report member late := by
    obtain ⟨frame, member, unfit⟩ := invariant.tracks.reported report member late
    refine unfit (fits frame ?_)
    rw [invariant.accounted]
    exact mem_append_left _ member

/-- While no sum wraps and no frame ends with a known message without a fitting PDU, the adapter
returns the PDUs of the reference, and releases each frame once. -/
theorem extraction_exact (consistent : Consistent table)
    (reached : ((system table maxElementSize).restrict (Plain table maxElementSize)).Reachable
      run) :
    Correct table maxElementSize run := by
  obtain ⟨invariant, fits⟩ := (invariant_inductive consistent).of_reachable reached
  exact invariant.correct consistent fits

/-- A table with a message of two PDUs and one of a single PDU. -/
def sampleTable : RxAdapterTable where
  firstId := 5
  messageIds := [7, 9]
  messageLengths := []
  pduLengthsOffsets := [0, 2, 3]
  pduLengths := [1, 2, 1]
  pduOffsets := [0, 1, 0]

theorem sampleTable_consistent : Consistent sampleTable where
  messageLengths := .inl rfl
  size := rfl
  sorted := by decide
  last := rfl
  pduOffsets := rfl

/-- Every message can be transported with the sample table. -/
theorem transportable_sampleTable {message : List UInt8} (isMessage : IsMessage message) :
    Transportable sampleTable message :=
  isMessage.transportable sampleTable_consistent (by decide)

def firstMessage : List UInt8 := [0, 0, 0, 7, 0, 0, 0, 3, 41, 42, 43]

def secondMessage : List UInt8 := [0, 0, 0, 9, 0, 0, 0, 1, 44]

/-- Frames with messages at the end of which a PDU fits are read as planned. -/
theorem plain_of_messages {messages : List (List UInt8)}
    (areMessages : ∀ message ∈ messages, IsMessage message)
    (fits : ∀ message ∈ messages.getLast?, pdusOf sampleTable 16 message ≠ []) :
    Readable sampleTable messages.flatten ∧ LastFits sampleTable 16 messages.flatten := by
  refine ⟨readable_flatten fun message member =>
    transportable_sampleTable (areMessages message member), ?_⟩
  rw [LastFits, cut_flatten areMessages]
  exact fun _ message member _ => fits message member

def sampleEvents : List ExtractionEvent :=
  [.receive (firstMessage ++ secondMessage), .peek, .release, .peek, .peek,
    .receive secondMessage, .release, .peek, .release, .peek, .release, .peek]

theorem sampleEvents_plain : ∀ event ∈ sampleEvents, ∀ run, Plain sampleTable 16 run event := by
  have both := plain_of_messages
    (by decide : ∀ message ∈ [firstMessage, secondMessage], IsMessage message)
    (by decide)
  have single := plain_of_messages (by decide : ∀ message ∈ [secondMessage], IsMessage message)
    (by decide)
  rw [flatten_cons, flatten_singleton] at both
  rw [flatten_singleton] at single
  simp only [sampleEvents, forall_mem_cons]
  exact ⟨fun _ => both, fun _ => trivial, fun _ => trivial, fun _ => trivial, fun _ => trivial,
    fun _ => single, fun _ => trivial, fun _ => trivial, fun _ => trivial, fun _ => trivial,
    fun _ => trivial, fun _ => trivial, fun _ member => absurd member not_mem_nil⟩

-- The samples are evaluated.
attribute [local semireducible] Word32.modulus Word32.add Word32.sub

/-- The PDUs of two frames are returned with their ids, and the frames are released. -/
theorem extraction_exact_sample :
    ∃ run, Correct sampleTable 16 run ∧
      run.returned = [[0, 0, 0, 5, 0, 0, 0, 1, 41], [0, 0, 0, 6, 0, 0, 0, 2, 42, 43],
        [0, 0, 0, 7, 0, 0, 0, 1, 44], [0, 0, 0, 7, 0, 0, 0, 1, 44]] ∧
      run.adapter.inputReader.released = [firstMessage ++ secondMessage, secondMessage] := by
  have results : (System.play (perform sampleTable 16) {} sampleEvents).map (fun run =>
      (run.returned, run.adapter.inputReader.released)) =
        some ([[0, 0, 0, 5, 0, 0, 0, 1, 41], [0, 0, 0, 6, 0, 0, 0, 2, 42, 43],
          [0, 0, 0, 7, 0, 0, 0, 1, 44], [0, 0, 0, 7, 0, 0, 0, 1, 44]],
          [firstMessage ++ secondMessage, secondMessage]) := by decide
  obtain ⟨run, played, result⟩ := Option.map_eq_some_iff.mp results
  exact ⟨run, extraction_exact sampleTable_consistent
    (.play_restrict id (.initial rfl) sampleEvents_plain played), Prod.mk.inj result⟩

/-- A frame of one header, whose length makes the size of the message wrap to four. -/
def wrappingFrame : List UInt8 := [0, 0, 0, 7, 0xFF, 0xFF, 0xFF, 0xFC]

/-- A length close to the largest number makes `peek` read behind the message. -/
theorem not_extraction_exact :
    ¬ ∀ table maxElementSize run, Consistent table →
      (system table maxElementSize).Reachable run → Correct table maxElementSize run := by
  intro claimed
  have received : (({} : ExtractionRun).perform sampleTable 16
      (.receive wrappingFrame)).isSome := by
    decide
  obtain ⟨run, runEq⟩ := Option.isSome_iff_exists.mp received
  obtain ⟨adapter, pdu, peeks⟩ :=
    (claimed sampleTable 16 run sampleTable_consistent (.step (.initial rfl) runEq)).peeks
  have fails : ((({} : ExtractionRun).perform sampleTable 16 (.receive wrappingFrame)).bind
      fun run => run.adapter.peek sampleTable 16).isNone := by decide
  rw [runEq, Option.bind_some, peeks.peeked] at fails
  exact Bool.false_ne_true fails

end ExtractionRun

end OpenBsw.Routing
