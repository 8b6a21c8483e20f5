import OpenBsw.Someip.Tp.Collecting
import OpenBsw.Transition.System

/-!
# Reassembly of messages

The network hands segments of sent messages to a transceiver, in any order, each of
them any number of times.  A run keeps which segments every waiting receiver was
handed.  The receiver itself only counts bytes, so the messages it delivers are
those that were sent as long as no segment is handed to a receiver twice or beside
the segments of another message.
-/

namespace OpenBsw.Someip

open OpenBsw.Transition
open ITpTransceiver
open TpSender
open TpTransceiver (started settled)

variable {Channel : Type}

/-! ## Runs -/

inductive ReassemblyEvent (Channel : Type)
  | segment (channel : Channel) (message : SomeIpMessage) (index : Nat) (time : UInt32)
  | cyclic (time : UInt32)
  | stop

/-- A transceiver, the segments that every waiting receiver was handed, and the
messages that were passed to the listener. -/
structure ReassemblyRun (Channel : Type) where
  transceiver : TpTransceiver Channel
  held : Nat → List (SomeIpMessage × Nat) := fun _ => []
  delivered : List (Channel × SomeIpMessage) := []

namespace ReassemblyRun

/-- Receivers that do not wait hold nothing. -/
def waitingOnly (transceiver : TpTransceiver Channel) (held : Nat → List (SomeIpMessage × Nat)) :
    Nat → List (SomeIpMessage × Nat) :=
  fun index => if transceiver.isWaiting index then held index else []

def segment [DecidableEq Channel] (run : ReassemblyRun Channel) (channel : Channel)
    (message : SomeIpMessage) (index : Nat) (time : UInt32) : ReassemblyRun Channel :=
  let result := run.transceiver.receiveTpMessage channel (segmentAt message index) time
  let handed := fun receiver =>
    if run.transceiver.findReceiver channel (segmentAt message index) = some receiver then
      (message, index) :: run.held receiver
    else run.held receiver
  { transceiver := result.1
    held := waitingOnly result.1 handed
    delivered := run.delivered ++ (result.2.map fun complete => (channel, complete)).toList }

/-- The operation on the transceiver, after which waiting receivers hold what they
held. -/
def quiet (run : ReassemblyRun Channel) (transceiver : TpTransceiver Channel) :
    ReassemblyRun Channel :=
  { run with transceiver, held := waitingOnly transceiver run.held }

def perform [DecidableEq Channel] (run : ReassemblyRun Channel) :
    ReassemblyEvent Channel → Option (ReassemblyRun Channel)
  | .segment channel message index time => some (run.segment channel message index time)
  | .cyclic time =>
    if run.transceiver.cyclicTimeout then some (run.quiet (run.transceiver.cyclic time))
    else none
  | .stop => some (run.quiet run.transceiver.stop)

/-- Only segments of sent messages arrive. -/
def Arrives (sent : Channel → SomeIpMessage → Prop) : ReassemblyEvent Channel → Prop
  | .segment channel message index _ =>
    sent channel message ∧ index < segmentCount message.getPayloadLength
  | .cyclic _ => True
  | .stop => True

/-- The receivers are idle, and their buffers have room for all the messages. -/
structure Initial (sent : Channel → SomeIpMessage → Prop) (run : ReassemblyRun Channel) :
    Prop where
  idle : ∀ receiver ∈ run.transceiver.receivers, receiver.pChannel = none ∧
    receiver.totalPayloadLength = 0 ∧ receiver.receivedPayloadLength = 0
  valid : ∀ channel message, sent channel message → message.Valid
  room : ∀ receiver ∈ run.transceiver.receivers, ∀ channel message, sent channel message →
    message.getPayloadLength ≤ receiver.buffer.length
  held : run.held = fun _ => []
  delivered : run.delivered = []

def system [DecidableEq Channel] (sent : Channel → SomeIpMessage → Prop) :
    System (ReassemblyRun Channel) (ReassemblyEvent Channel) where
  Initial := Initial sent
  Step source event target := Arrives sent event ∧ perform source event = some target

/-- The receiver of a segment holds other segments of the same message only. -/
def Apart [DecidableEq Channel] (run : ReassemblyRun Channel) :
    ReassemblyEvent Channel → Prop
  | .segment channel message index _ =>
    ∀ receiver, run.transceiver.findReceiver channel (segmentAt message index) =
        some receiver →
      ∀ other ∈ run.held receiver, other.1 = message ∧ other.2 ≠ index
  | .cyclic _ => True
  | .stop => True

/-! ## Receivers between operations -/

/-- What holds of a receiver in every run: its buffer is large enough, and there are no
counts left from earlier messages. -/
structure Ready (sent : Channel → SomeIpMessage → Prop) (receiver : TpReceiver Channel) :
    Prop where
  room : ∀ channel message, sent channel message →
    message.getPayloadLength ≤ receiver.buffer.length
  empty : receiver.pChannel = none →
    receiver.totalPayloadLength = 0 ∧ receiver.receivedPayloadLength = 0

variable {sent : Channel → SomeIpMessage → Prop} {receiver : TpReceiver Channel}

theorem Ready.stop (ready : Ready sent receiver) : Ready sent receiver.stop where
  room := by
    intro channel message wasSent
    rw [TpReceiver.stop, List.length_replicate]
    exact ready.room channel message wasSent
  empty _ := ⟨rfl, rfl⟩

theorem Ready.settled (ready : Ready sent receiver) (channel : Channel)
    (message : SomeIpMessage) (time : UInt32) :
    Ready sent (settled (started receiver channel message) message time) := by
  have sameLength :
      ((started receiver channel message).receive message time).2.1.buffer.length =
        receiver.buffer.length := by
    rw [TpReceiver.length_buffer_receive, started]
    split <;> rfl
  have room : ∀ other otherMessage, sent other otherMessage →
      otherMessage.getPayloadLength ≤
        ((started receiver channel message).receive message time).2.1.buffer.length := by
    intro other otherMessage wasSent
    rw [sameLength]
    exact ready.room other otherMessage wasSent
  rw [TpTransceiver.settled]
  split
  · rename_i pending
    refine ⟨room, ?_⟩
    intro idle
    have active := TpTransceiver.isActive_started receiver channel message
    rw [TpReceiver.isActive, ← (TpReceiver.receive_pending pending).2.1, idle] at active
    exact absurd active Bool.false_ne_true
  · refine ⟨?_, fun _ => ⟨rfl, rfl⟩⟩
    intro other otherMessage wasSent
    rw [TpReceiver.stop, List.length_replicate]
    exact room other otherMessage wasSent

/-- What holds of a receiver and the segments it was handed where these are kept
apart. -/
inductive Holds (sent : Channel → SomeIpMessage → Prop) (receiver : TpReceiver Channel) :
    List (SomeIpMessage × Nat) → Prop
  | idle (inactive : receiver.pChannel = none) : Holds sent receiver []
  | collecting (channel : Channel) (message : SomeIpMessage) (indices : Finset Nat)
      (segments : List (SomeIpMessage × Nat)) (waits : receiver.pChannel = some channel)
      (wasSent : sent channel message) (collects : receiver.Collects message indices)
      (some : indices.Nonempty)
      (exact : ∀ other, other ∈ segments ↔ other.1 = message ∧ other.2 ∈ indices) :
      Holds sent receiver segments

/-- A receiver that does not wait holds nothing, and one that waits keeps its segments. -/
theorem Holds.waitingOnly {transceiver : TpTransceiver Channel} {index : Nat}
    {held : Nat → List (SomeIpMessage × Nat)}
    (found : transceiver.receivers[index]? = some receiver)
    (holds : receiver.isActive = true → Holds sent receiver (held index)) :
    Holds sent receiver (waitingOnly transceiver held index) := by
  rw [ReassemblyRun.waitingOnly, TpTransceiver.isWaiting_of_holds found]
  by_cases active : receiver.isActive = true
  · rw [if_pos active]
    exact holds active
  · rw [if_neg active]
    apply Holds.idle
    rw [Bool.not_eq_true, TpReceiver.isActive, Option.isSome_eq_false_iff,
      Option.isNone_iff_eq_none] at active
    exact active

/-! ## Steps that only stop receivers -/

/-- Some receivers are stopped, and the others stay as they are. -/
def Stops (source target : TpTransceiver Channel) : Prop :=
  ∀ (index : Nat) (receiver : TpReceiver Channel), target.receivers[index]? = some receiver →
    ∃ old, source.receivers[index]? = some old ∧ (receiver = old ∨ receiver = old.stop)

theorem stops_cyclic (transceiver : TpTransceiver Channel) (time : UInt32) :
    Stops transceiver (transceiver.cyclic time) := by
  intro index receiver found
  simp only [TpTransceiver.cyclic, List.getElem?_map, Option.map_eq_some_iff] at found
  obtain ⟨old, oldFound, rfl⟩ := found
  refine ⟨old, oldFound, ?_⟩
  split
  · exact Or.inr rfl
  · exact Or.inl rfl

theorem stops_stop (transceiver : TpTransceiver Channel) : Stops transceiver transceiver.stop := by
  intro index receiver found
  simp only [TpTransceiver.stop, List.getElem?_map, Option.map_eq_some_iff] at found
  obtain ⟨old, oldFound, rfl⟩ := found
  refine ⟨old, oldFound, ?_⟩
  split
  · exact Or.inr rfl
  · exact Or.inl rfl

/-! ## Every run -/

/-- All receivers are ready in every run. -/
structure AllReady (sent : Channel → SomeIpMessage → Prop) (transceiver : TpTransceiver Channel) :
    Prop where
  valid : ∀ channel message, sent channel message → message.Valid
  ready : ∀ (index : Nat) (receiver : TpReceiver Channel),
    transceiver.receivers[index]? = some receiver → Ready sent receiver

variable {source target : TpTransceiver Channel}

theorem AllReady.stops (all : AllReady sent source) (stops : Stops source target) :
    AllReady sent target where
  valid := all.valid
  ready := by
    intro index receiver found
    obtain ⟨old, oldFound, rfl | rfl⟩ := stops index receiver found
    · exact all.ready index receiver oldFound
    · exact (all.ready index old oldFound).stop

theorem AllReady.receiveTpMessage [DecidableEq Channel] (all : AllReady sent source)
    (channel : Channel) (message : SomeIpMessage) (time : UInt32) :
    AllReady sent (source.receiveTpMessage channel message time).1 where
  valid := all.valid
  ready := by
    intro other receiver holds
    cases found : source.findReceiver channel message with
    | none =>
      rw [TpTransceiver.receiveTpMessage_of_none found] at holds
      exact all.ready other receiver holds
    | some index =>
      obtain ⟨old, oldHolds, -⟩ := TpTransceiver.findReceiver_some found
      rw [(TpTransceiver.receiveTpMessage_of_some found oldHolds time).1] at holds
      by_cases same : index = other
      · subst same
        rw [List.getElem?_set_self (List.getElem?_eq_some_iff.mp oldHolds).1] at holds
        cases holds
        exact (all.ready index old oldHolds).settled channel message time
      · rw [List.getElem?_set_ne same] at holds
        exact all.ready other receiver holds

theorem allReady_inductive [DecidableEq Channel] :
    (system sent).Inductive fun run => AllReady sent run.transceiver where
  initial := by
    intro run start
    refine ⟨start.valid, ?_⟩
    intro index receiver found
    have member := List.mem_of_getElem? found
    exact ⟨start.room receiver member, fun _ => (start.idle receiver member).2⟩
  step := by
    rintro source event target all ⟨-, performed⟩
    cases event with
    | segment channel message index time =>
      cases performed
      exact all.receiveTpMessage channel (segmentAt message index) time
    | cyclic time =>
      change (if source.transceiver.cyclicTimeout = true then _ else none) = some target
        at performed
      split at performed
      · cases performed
        exact all.stops (stops_cyclic _ _)
      · contradiction
    | stop =>
      cases performed
      exact all.stops (stops_stop _)

/-! ## Runs that keep messages apart -/

/-- Every receiver holds segments of one message, and only messages that were sent
have been delivered. -/
structure Sound (sent : Channel → SomeIpMessage → Prop) (run : ReassemblyRun Channel) :
    Prop where
  ready : AllReady sent run.transceiver
  holds : ∀ (index : Nat) (receiver : TpReceiver Channel),
    run.transceiver.receivers[index]? = some receiver → Holds sent receiver (run.held index)
  delivered : ∀ channel complete, (channel, complete) ∈ run.delivered →
    ∃ message, sent channel message ∧ complete = message.delivered

theorem Sound.initial {run : ReassemblyRun Channel} (start : Initial sent run) :
    Sound sent run where
  ready := by
    refine ⟨start.valid, ?_⟩
    intro index receiver found
    have member := List.mem_of_getElem? found
    exact ⟨start.room receiver member, fun _ => (start.idle receiver member).2⟩
  holds := by
    intro index receiver found
    rw [start.held]
    exact .idle (start.idle receiver (List.mem_of_getElem? found)).1
  delivered := by
    intro channel complete member
    rw [start.delivered] at member
    exact absurd member List.not_mem_nil

theorem Sound.quiet {run : ReassemblyRun Channel} (sound : Sound sent run)
    (stops : Stops run.transceiver target) : Sound sent (run.quiet target) where
  ready := sound.ready.stops stops
  holds := by
    intro index receiver found
    apply Holds.waitingOnly found
    intro active
    obtain ⟨old, oldFound, rfl | rfl⟩ := stops index receiver found
    · exact sound.holds index receiver oldFound
    · exact absurd active Bool.false_ne_true
  delivered := sound.delivered

/-- The receiver of a segment, which holds nothing or other segments of the message. -/
theorem Holds.started [DecidableEq Channel] {segments : List (SomeIpMessage × Nat)}
    (holds : Holds sent receiver segments) (ready : Ready sent receiver) {channel : Channel}
    {message : SomeIpMessage} {index : Nat} (wasSent : sent channel message)
    (chosen : receiver.isMatching channel (segmentAt message index) = true ∨
      receiver.isActive = false)
    (apart : ∀ other ∈ segments, other.1 = message ∧ other.2 ≠ index) :
    (started receiver channel (segmentAt message index)).pChannel = some channel ∧
      ∃ indices : Finset Nat,
        (started receiver channel (segmentAt message index)).Collects message indices ∧
        index ∉ indices ∧
        ∀ other, other ∈ segments ↔ other.1 = message ∧ other.2 ∈ indices := by
  cases holds with
  | idle inactive =>
    have inactiveFlag : ¬receiver.isActive = true := by
      rw [TpReceiver.isActive, inactive]
      exact Bool.false_ne_true
    rw [TpTransceiver.started, if_neg inactiveFlag]
    refine ⟨rfl, ∅, .start (ready.empty inactive) (ready.room _ _ wasSent) channel,
      Finset.notMem_empty _, ?_⟩
    simp
  | collecting owner held indices _ waits heldSent collects some exact =>
    have active : receiver.isActive = true := by
      rw [TpReceiver.isActive, waits]
      rfl
    rw [TpTransceiver.started, if_pos active]
    obtain ⟨first, member⟩ := some
    have sameMessage : held = message :=
      (apart (held, first) ((exact _).mpr ⟨rfl, member⟩)).1
    subst sameMessage
    have sameChannel : receiver.pChannel = .some channel := by
      rcases chosen with isMatching | inactive
      · simp only [TpReceiver.isMatching, Bool.and_eq_true, decide_eq_true_eq] at isMatching
        exact isMatching.1
      · rw [active] at inactive
        contradiction
    refine ⟨sameChannel, indices, collects, ?_, exact⟩
    intro inside
    exact (apart (held, index) ((exact _).mpr ⟨rfl, inside⟩)).2 rfl

theorem Sound.segment [DecidableEq Channel] {run : ReassemblyRun Channel}
    (sound : Sound sent run) {channel : Channel} {message : SomeIpMessage} {index : Nat}
    {time : UInt32} (wasSent : sent channel message)
    (small : index < segmentCount message.getPayloadLength)
    (apart : Apart run (.segment channel message index time)) :
    Sound sent (run.segment channel message index time) := by
  have ready := sound.ready.receiveTpMessage channel (segmentAt message index) time
  cases found : run.transceiver.findReceiver channel (segmentAt message index) with
  | none =>
    have same := TpTransceiver.receiveTpMessage_of_none found time
    refine ⟨ready, ?_, ?_⟩
    · intro other receiver holds
      apply Holds.waitingOnly holds
      intro active
      simp only [found, reduceCtorEq, if_false]
      rw [ReassemblyRun.segment, same] at holds
      exact sound.holds other receiver holds
    · intro owner complete member
      simp only [ReassemblyRun.segment, same, Option.map_none, Option.toList_none,
        List.append_nil] at member
      exact sound.delivered owner complete member
  | some chosen =>
    obtain ⟨receiver, holds, matching⟩ := TpTransceiver.findReceiver_some found
    obtain ⟨receivers, complete⟩ :=
      TpTransceiver.receiveTpMessage_of_some found holds time
    obtain ⟨sameChannel, indices, collects, fresh, exact⟩ :=
      (sound.holds chosen receiver holds).started (sound.ready.ready chosen receiver holds)
        wasSent matching (apart chosen found)
    have received := collects.receive (sound.ready.valid _ _ wasSent) small fresh time
    refine ⟨ready, ?_, ?_⟩
    · intro other next nextHolds
      apply Holds.waitingOnly nextHolds
      intro active
      change (run.transceiver.receiveTpMessage channel (segmentAt message index)
        time).1.receivers[other]? = some next at nextHolds
      rw [receivers] at nextHolds
      by_cases same : chosen = other
      · subst same
        rw [List.getElem?_set_self (List.getElem?_eq_some_iff.mp holds).1] at nextHolds
        cases nextHolds
        rw [settled] at active ⊢
        split at received
        · rw [received.1, if_neg (by decide)] at active
          contradiction
        · rw [received.1, if_pos rfl] at active ⊢
          rw [if_pos found]
          refine .collecting channel message (insert index indices) _ ?_ wasSent received.2.2
            (Finset.insert_nonempty ..) ?_
          · rw [(TpReceiver.receive_pending received.1).2.1]
            exact sameChannel
          · intro segment
            rw [List.mem_cons, exact, Finset.mem_insert]
            constructor
            · rintro (rfl | ⟨rfl, inside⟩)
              · exact ⟨rfl, Or.inl rfl⟩
              · exact ⟨rfl, Or.inr inside⟩
            · rintro ⟨rfl, rfl | inside⟩
              · exact Or.inl rfl
              · exact Or.inr ⟨rfl, inside⟩
      · rw [List.getElem?_set_ne same] at nextHolds
        have notChosen : ¬run.transceiver.findReceiver channel (segmentAt message index) =
            some other := by
          rw [found]
          exact fun equal => same (Option.some.inj equal)
        rw [if_neg notChosen]
        exact sound.holds other next nextHolds
    · intro owner whole member
      simp only [ReassemblyRun.segment, complete, List.mem_append, Option.mem_toList,
        Option.map_eq_some_iff, Prod.mk.injEq] at member
      rcases member with before | ⟨_, isComplete, rfl, rfl⟩
      · exact sound.delivered owner whole before
      · refine ⟨message, wasSent, ?_⟩
        split at received
        · rw [received.2] at isComplete
          exact (Option.some.inj isComplete).symm
        · rw [received.2.1] at isComplete
          contradiction

theorem sound_inductive [DecidableEq Channel] :
    ((system sent).restrict Apart).Inductive (Sound sent) where
  initial := Sound.initial
  step := by
    rintro source event target sound ⟨⟨arrives, performed⟩, apart⟩
    cases event with
    | segment channel message index time =>
      cases performed
      exact sound.segment arrives.1 arrives.2 apart
    | cyclic time =>
      change (if source.transceiver.cyclicTimeout = true then _ else none) = some target
        at performed
      split at performed
      · cases performed
        exact sound.quiet (stops_cyclic _ _)
      · contradiction
    | stop =>
      cases performed
      exact sound.quiet (stops_stop _)

end ReassemblyRun

end OpenBsw.Someip
