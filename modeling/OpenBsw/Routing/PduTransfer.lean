import OpenBsw.Routing.PduTransportBufferedWriter
import OpenBsw.Routing.PduTransportRxRuns

/-!
# Transfer of PDUs

The frames of a buffered writer are sent as datagrams, each of which may get lost, overtake
others or arrive twice.  What the adapter at the other end returns are the PDUs of the messages
that were committed to the writer, frame by frame.
-/

namespace OpenBsw.Routing

open OpenBsw.Bytes List
open OpenBsw.Io
open OpenBsw.Transition

variable {table : RxAdapterTable} {maxElementSize : Nat}

/-! ## The two ends -/

structure Channel where
  sender : PackingRun
  receiver : ExtractionRun := {}

inductive ChannelEvent where
  | send (event : PackingEvent)
  /-- The datagram with some frame that was sent arrives. -/
  | deliver (index : Nat)
  | peek
  | release

namespace Channel

variable (table maxElementSize)

/-- The state after an event that is possible. -/
def perform (channel : Channel) : ChannelEvent → Option Channel
  | .send event => do
    let sender ← channel.sender.perform event
    return { channel with sender }
  | .deliver index => do
    let frame ← channel.sender.writer.destination.elements[index]?
    let receiver ← channel.receiver.perform table maxElementSize (.receive frame)
    return { channel with receiver }
  | .peek => do
    let receiver ← channel.receiver.perform table maxElementSize .peek
    return { channel with receiver }
  | .release => do
    let receiver ← channel.receiver.perform table maxElementSize .release
    return { channel with receiver }

/-- A new writer and a new adapter. -/
def system : System Channel ChannelEvent where
  Initial channel := PackingRun.system.Initial channel.sender ∧ channel.receiver = {}
  Step source event target := source.perform table maxElementSize event = some target

/-- Only messages have been committed. -/
def SendsMessages (channel : Channel) : Prop :=
  ∀ chunk ∈ channel.sender.chunks, Transportable table chunk.bytes

/-- The PDUs of a group of chunks. -/
def pdusOfGroup (group : List TimedChunk) : List (List UInt8) :=
  group.flatMap fun chunk => pdusOf table maxElementSize chunk.bytes

/-- Each frame that arrived holds successive chunks. -/
structure Carries (channel : Channel) : Prop where
  sender : PackingRun.system.Reachable channel.sender
  receiver : channel.SendsMessages table →
    channel.receiver.Invariant table maxElementSize
  received : ∃ groups : List (List TimedChunk), channel.receiver.received =
      groups.map PackingRun.bytesOf ∧ ∀ group ∈ groups, group <:+: channel.sender.chunks

end Channel

/-- Chunks are only added. -/
theorem PackingRun.chunks_prefix {run target : PackingRun} {event : PackingEvent}
    (performed : run.perform event = some target) : run.chunks <+: target.chunks := by
  cases event with
  | elapse | release =>
    cases performed
    exact prefix_rfl
  | _ =>
    obtain ⟨_, performed⟩ := Option.ite_none_right_eq_some.mp performed
    cases performed
    simp only [operated]
    grind

namespace Channel

variable {source target channel : Channel}

theorem SendsMessages.transportable (sends : channel.SendsMessages table)
    {group : List TimedChunk} (committed : group <:+: channel.sender.chunks) :
    ∀ message ∈ group.map TimedChunk.bytes, Transportable table message :=
  forall_mem_map.mpr fun chunk member => sends chunk (committed.subset member)

/-- The PDUs of a frame with a group of chunks that were committed. -/
theorem SendsMessages.pdusOfFrame (sends : channel.SendsMessages table)
    {group : List TimedChunk} (committed : group <:+: channel.sender.chunks) :
    pdusOfFrame table maxElementSize (PackingRun.bytesOf group) =
      pdusOfGroup table maxElementSize group := by
  rw [PackingRun.bytesOf, pdusOfFrame_flatten fun message member =>
    (sends.transportable committed message member).isMessage, flatMap_map]
  rfl

theorem Carries.deliver (carries : Carries table maxElementSize source) {frame : List UInt8}
    (sent : frame ∈ source.sender.writer.destination.elements) {receiver : ExtractionRun}
    (performed : source.receiver.perform table maxElementSize (.receive frame) = some receiver) :
    Carries table maxElementSize { source with receiver } := by
  obtain ⟨groups, current, packing⟩ := PackingRun.packing_of_reachable carries.sender
  rw [packing.contains.elements] at sent
  obtain ⟨group, member, rfl⟩ := mem_map.mp sent
  have committed : group <:+: source.sender.chunks := by
    rw [packing.chunks]
    exact (infix_of_mem_flatten member).trans (prefix_append _ _).isInfix
  obtain ⟨earlier, receivedEq, others⟩ := carries.received
  obtain ⟨⟨nonempty, small⟩, performed⟩ := Option.ite_none_right_eq_some.mp performed
  cases performed
  refine ⟨carries.sender, fun sends => ?_, earlier ++ [group], ?_, ?_⟩
  · exact (carries.receiver sends).receive
      ⟨nonempty, small, readable_flatten (sends.transportable committed)⟩
  · rw [map_append, receivedEq]
    rfl
  · intro other member
    rcases mem_append.mp member with old | new
    · exact others other old
    · exact mem_singleton.mp new ▸ committed

theorem carries_inductive (consistent : Consistent table) :
    (system table maxElementSize).Inductive (Carries table maxElementSize) where
  initial {channel} start := by
    obtain ⟨started, receiverEq⟩ := start
    refine ⟨.initial started, fun _ => receiverEq ▸ ExtractionRun.Invariant.initial, [], ?_, ?_⟩
    · rw [receiverEq]
      rfl
    · exact fun _ member => absurd member not_mem_nil
  step {source event target} carries performed := by
    obtain ⟨groups, receivedEq, committed⟩ := carries.received
    cases event with
    | send event =>
      obtain ⟨sender, called, targetEq⟩ := Option.bind_eq_some_iff.mp performed
      cases targetEq
      have more := PackingRun.chunks_prefix called
      exact ⟨carries.sender.step called,
        fun sends => carries.receiver fun chunk member => sends chunk (more.subset member),
        groups, receivedEq, fun group member => (committed group member).trans more.isInfix⟩
    | deliver index =>
      obtain ⟨frame, sent, delivered⟩ := Option.bind_eq_some_iff.mp performed
      obtain ⟨receiver, called, targetEq⟩ := Option.bind_eq_some_iff.mp delivered
      cases targetEq
      exact carries.deliver (mem_of_getElem? sent) called
    | peek =>
      obtain ⟨receiver, called, targetEq⟩ := Option.bind_eq_some_iff.mp performed
      cases targetEq
      exact ⟨carries.sender, fun sends => (carries.receiver sends).peek consistent called,
        ExtractionRun.received_of_peek called ▸ carries.received⟩
    | release =>
      cases performed
      exact ⟨carries.sender, fun sends => (carries.receiver sends).release, carries.received⟩

/-- In every run in which messages are committed, the adapter returns the PDUs of the messages in
the frames that arrived, in order and each once.  It can always be asked for the next one, and has
returned all of them when there is nothing more.  A frame holds successive messages. -/
theorem pdus_transferred (consistent : Consistent table)
    (reached : (system table maxElementSize).Reachable channel)
    (sends : channel.SendsMessages table) :
    ∃ groups : List (List TimedChunk),
      channel.receiver.received = groups.map PackingRun.bytesOf ∧
      (∀ group ∈ groups, group <:+: channel.sender.chunks) ∧
      channel.receiver.returned <+: groups.flatMap (pdusOfGroup table maxElementSize) ∧
      ∃ adapter pdu,
        channel.receiver.adapter.peek table maxElementSize = some (adapter, pdu) ∧
        (pdu = [] →
          channel.receiver.returned = groups.flatMap (pdusOfGroup table maxElementSize)) ∧
        (channel.receiver.adapter.currentPdu = [] → pdu ≠ [] →
          channel.receiver.returned ++ [pdu] <+:
            groups.flatMap (pdusOfGroup table maxElementSize)) := by
  have carries := (carries_inductive consistent).of_reachable reached
  obtain ⟨groups, receivedEq, committed⟩ := carries.received
  have invariant := carries.receiver sends
  have pdus : channel.receiver.received.flatMap (pdusOfFrame table maxElementSize) =
      groups.flatMap (pdusOfGroup table maxElementSize) := by
    rw [receivedEq, flatMap_map]
    exact flatMap_congr fun group member => sends.pdusOfFrame (committed group member)
  refine ⟨groups, receivedEq, committed, ?_, ?_⟩
  · rw [← pdus, invariant.accounted, receivedFrames, flatMap_append]
    refine invariant.returned.trans ?_
    rw [flatMap_append]
    exact (prefix_append_right_inj _).mpr (IsPrefix.flatMap ( take_prefix 1 _) _)
  · obtain ⟨adapter, pdu, peeks⟩ := invariant.peeks consistent
    rw [← pdus]
    exact ⟨adapter, pdu, peeks.peeked, fun none => (peeks.nothing none).1, peeks.next⟩

open ExtractionRun

def sampleSlot : NextSlot := { slot := replicate 20 0, room := true }

/-- Four messages are committed, in two frames.  The second frame overtakes the first, which arrives
twice. -/
def sampleEvents : List ChannelEvent :=
  [.send (.allocate 11 sampleSlot), .send (.write 0 firstMessage), .send (.commit sampleSlot),
    .send (.allocate 9 sampleSlot), .send (.write 0 secondMessage), .send (.commit sampleSlot),
    .send (.allocate 9 sampleSlot), .send (.write 0 secondMessage), .send (.commit sampleSlot),
    .send (.allocate 11 sampleSlot), .send (.write 0 firstMessage), .send (.commit sampleSlot),
    .send (.elapse 20000), .send (.checkTransmissionTimeout sampleSlot), .deliver 1, .peek,
    .release, .deliver 0, .peek, .peek, .release, .deliver 0, .peek, .release, .peek, .release,
    .peek, .release, .peek, .release, .peek, .release, .peek, .release, .peek]

-- The samples are evaluated.
attribute [local semireducible] Word32.modulus Word32.add Word32.sub

/-- The PDUs of all three arrivals are returned. -/
theorem pdus_transferred_sample :
    ∃ channel : Channel,
      channel.receiver.returned =
        [[0, 0, 0, 7, 0, 0, 0, 1, 44], [0, 0, 0, 5, 0, 0, 0, 1, 41],
          [0, 0, 0, 6, 0, 0, 0, 2, 42, 43], [0, 0, 0, 5, 0, 0, 0, 1, 41],
          [0, 0, 0, 6, 0, 0, 0, 2, 42, 43], [0, 0, 0, 7, 0, 0, 0, 1, 44],
          [0, 0, 0, 5, 0, 0, 0, 1, 41], [0, 0, 0, 6, 0, 0, 0, 2, 42, 43],
          [0, 0, 0, 7, 0, 0, 0, 1, 44]] ∧
      channel.receiver.received =
        [secondMessage ++ firstMessage, firstMessage ++ secondMessage,
          firstMessage ++ secondMessage] ∧
      ∃ groups : List (List TimedChunk),
        channel.receiver.received = groups.map PackingRun.bytesOf ∧
        channel.receiver.returned <+: groups.flatMap (pdusOfGroup sampleTable 16) := by
  let start : Channel :=
    { sender :=
        { writer :=
            .new { maxSize := 20, slot := replicate 20 0, allocated := 0, room := true
                   elements := [] } 10
          now := 0
          checked := 0 } }
  have reached : (system sampleTable 16).Reachable start :=
    .initial ⟨⟨replicate 20 0, true, 10, 0, rfl⟩, rfl⟩
  have results : (System.play (perform sampleTable 16) start sampleEvents).map (fun channel =>
      (channel.receiver.returned, channel.receiver.received,
        channel.sender.chunks.map TimedChunk.bytes)) =
      some ([[0, 0, 0, 7, 0, 0, 0, 1, 44], [0, 0, 0, 5, 0, 0, 0, 1, 41],
          [0, 0, 0, 6, 0, 0, 0, 2, 42, 43], [0, 0, 0, 5, 0, 0, 0, 1, 41],
          [0, 0, 0, 6, 0, 0, 0, 2, 42, 43], [0, 0, 0, 7, 0, 0, 0, 1, 44],
          [0, 0, 0, 5, 0, 0, 0, 1, 41], [0, 0, 0, 6, 0, 0, 0, 2, 42, 43],
          [0, 0, 0, 7, 0, 0, 0, 1, 44]],
        [secondMessage ++ firstMessage, firstMessage ++ secondMessage,
          firstMessage ++ secondMessage],
        [firstMessage, secondMessage, secondMessage, firstMessage]) := by decide
  obtain ⟨channel, played, result⟩ := Option.map_eq_some_iff.mp results
  obtain ⟨returned, result⟩ := Prod.mk.inj result
  obtain ⟨received, chunks⟩ := Prod.mk.inj result
  obtain ⟨groups, frames, _, pdus, _⟩ := pdus_transferred sampleTable_consistent
    (reached.play id played) fun chunk member => by
      have bytes := mem_map_of_mem (f := TimedChunk.bytes) member
      rw [chunks] at bytes
      have areMessages : ∀ message ∈ [firstMessage, secondMessage, secondMessage, firstMessage],
          IsMessage message := by decide
      exact transportable_sampleTable (areMessages chunk.bytes bytes)
  exact ⟨channel, returned, received, groups, frames, pdus⟩

end Channel

end OpenBsw.Routing
