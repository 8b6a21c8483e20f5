import OpenBsw.Someip.Tp.Reassembly

/-!
# Delivery of a message

A message whose segments arrive once each is delivered once, in whatever order they
arrive and whatever arrives for other keys in between, where an idle receiver takes
the first of them and the cyclic function does not end the wait.  Segments that are
malformed are rejected.
-/

namespace OpenBsw.Someip

open OpenBsw.Transition List
open ITpTransceiver
open TpSender
open TpTransceiver (started settled)

variable {Channel : Type} [DecidableEq Channel]

/-! ## What a transceiver delivers -/

/-- The messages that the listener is given during some events, each of them with the
channel and the header of the segment that completed it. -/
def TpTransceiver.deliveries (transceiver : TpTransceiver Channel) :
    List (TpEvent Channel) → List ((Channel × SomeIpHeader) × SomeIpMessage)
  | [] => []
  | .receiveTpMessage channel message time :: rest =>
    let result := transceiver.receiveTpMessage channel message time
    (result.2.map fun complete => ((channel, message.header), complete)).toList ++
      result.1.deliveries rest
  | .cyclic time :: rest => (transceiver.cyclic time).deliveries rest
  | .stop :: rest => transceiver.stop.deliveries rest

/-- Whether a segment has the key of the segments of a message on a channel. -/
def hasKey (channel : Channel) (message : SomeIpMessage) (owner : Channel)
    (header : SomeIpHeader) : Bool :=
  owner = channel && TpReceiver.sameKey header (segmentAt message 0).header

/-- The segments of a key, in the order in which they arrive. -/
def keySegments (channel : Channel) (message : SomeIpMessage) :
    List (TpEvent Channel) → List SomeIpMessage
  | [] => []
  | .receiveTpMessage owner received _ :: rest =>
    if hasKey channel message owner received.header then
      received :: keySegments channel message rest
    else keySegments channel message rest
  | _ :: rest => keySegments channel message rest

/-- The messages that segments of a key complete. -/
def keyDeliveries (channel : Channel) (message : SomeIpMessage)
    (deliveries : List ((Channel × SomeIpHeader) × SomeIpMessage)) : List SomeIpMessage :=
  (deliveries.filter fun delivery => hasKey channel message delivery.1.1 delivery.1.2).map
    Prod.snd

/-- No cyclic run finds that the timeout since the last segment of the key has passed,
the transceiver is not stopped, and the sums of no segment wrap. -/
def Patient (channel : Channel) (message : SomeIpMessage) :
    UInt32 → List (TpEvent Channel) → Prop
  | _, [] => True
  | last, .receiveTpMessage owner received time :: rest =>
    TpReceiver.Straight received ∧
      Patient channel message
        (if hasKey channel message owner received.header then time else last) rest
  | last, .cyclic time :: rest =>
    (last > 0 && time ≥ last + TP_RECEIVE_TIMEOUT) = false ∧ Patient channel message last rest
  | _, .stop :: _ => False

variable {owner : Channel} {order : List Nat} {time : UInt32} {receiver : TpReceiver Channel}

namespace TpTransceiver

variable {transceiver : TpTransceiver Channel} {channel : Channel} {message : SomeIpMessage}

/-- No receiver waits for segments of the key. -/
def Unclaimed (transceiver : TpTransceiver Channel) (channel : Channel)
    (message : SomeIpMessage) : Prop :=
  ∀ receiver ∈ transceiver.receivers, receiver.isMatching channel (segmentAt message 0) = false

instance : Decidable (transceiver.Unclaimed channel message) :=
  inferInstanceAs (Decidable (∀ receiver ∈ transceiver.receivers, _ = false))

/-- One receiver collects the segments of the key, and holds those with some indices. -/
structure Collecting (transceiver : TpTransceiver Channel) (channel : Channel)
    (message : SomeIpMessage) (indices : Finset Nat) (last : UInt32) (place : Nat)
    (receiver : TpReceiver Channel) : Prop where
  found : transceiver.receivers[place]? = some receiver
  waits : receiver.pChannel = some channel
  collects : receiver.Collects message indices
  since : receiver.timestamp = last
  alone : ∀ (other : Nat) (next : TpReceiver Channel),
    transceiver.receivers[other]? = some next →
      next.isMatching channel (segmentAt message 0) = true → other = place

theorem isMatching_iff {segment : SomeIpMessage} :
    receiver.isMatching channel segment = true ↔
      receiver.pChannel = some channel ∧
        TpReceiver.sameKey receiver.header segment.header = true := by
  rw [TpReceiver.isMatching, Bool.and_eq_true, decide_eq_true_eq]

/-- All segments of a message have one key. -/
theorem isMatching_segmentAt (receiver : TpReceiver Channel) (index : Nat) :
    receiver.isMatching channel (segmentAt message index) =
      receiver.isMatching channel (segmentAt message 0) := by
  simp only [TpReceiver.isMatching, segmentAt_header]

theorem Collecting.isMatching {indices : Finset Nat} {last : UInt32} {place : Nat}
    (collecting : Collecting transceiver channel message indices last place receiver) :
    receiver.isMatching channel (segmentAt message 0) = true := by
  rw [isMatching_iff, collecting.waits, collecting.collects.header]
  exact ⟨rfl, TpReceiver.sameKey_iff.mpr ⟨rfl, rfl, rfl, rfl⟩⟩

/-! ## Segments of other keys -/

/-- A receiver of the key after a segment of another key was received is the receiver
that was there before. -/
theorem matching_of_other {segment : SomeIpMessage}
    (other : hasKey channel message owner segment.header = false) {place : Nat}
    (found : (transceiver.receiveTpMessage owner segment time).1.receivers[place]? =
      some receiver) (isMatching : receiver.isMatching channel (segmentAt message 0) = true) :
    transceiver.receivers[place]? = some receiver := by
  cases chosen : transceiver.findReceiver owner segment with
  | none =>
    rw [receiveTpMessage_of_none chosen] at found
    exact found
  | some index =>
    obtain ⟨old, oldFound, choice⟩ := findReceiver_some chosen
    rw [(receiveTpMessage_of_some chosen oldFound time).1] at found
    by_cases same : index = place
    · subst same
      rw [List.getElem?_set_self (List.getElem?_eq_some_iff.mp oldFound).1] at found
      cases found
      obtain ⟨waits, sameKey⟩ := isMatching_iff.mp isMatching
      rw [settled] at waits sameKey
      split at waits
      · rename_i pending
        rw [if_pos pending] at sameKey
        rw [(TpReceiver.receive_pending pending).2.1] at waits
        rw [(TpReceiver.receive_pending pending).2.2.1] at sameKey
        -- the receiver belongs to the other key, whether it was started or not
        have belongs : (started old owner segment).pChannel = some owner ∧
            TpReceiver.sameKey (started old owner segment).header segment.header = true := by
          rw [started]
          split
          · rename_i active
            rcases choice with isMatching | inactive
            · exact isMatching_iff.mp isMatching
            · rw [active] at inactive
              contradiction
          · exact ⟨rfl, TpReceiver.sameKey_iff.mpr ⟨rfl, rfl, rfl, rfl⟩⟩
        rw [belongs.1] at waits
        cases waits
        have first := TpReceiver.sameKey_iff.mp sameKey
        have second := TpReceiver.sameKey_iff.mp belongs.2
        have contrary : hasKey owner message owner segment.header = true := by
          rw [hasKey, Bool.and_eq_true, decide_eq_true_eq, TpReceiver.sameKey_iff]
          exact ⟨rfl, second.1.symm.trans first.1, second.2.1.symm.trans first.2.1,
            second.2.2.1.symm.trans first.2.2.1, second.2.2.2.symm.trans first.2.2.2⟩
        rw [other] at contrary
        contradiction
      · contradiction
    · rw [List.getElem?_set_ne same] at found
      exact found

theorem Unclaimed.other {segment : SomeIpMessage}
    (unclaimed : transceiver.Unclaimed channel message)
    (other : hasKey channel message owner segment.header = false) :
    (transceiver.receiveTpMessage owner segment time).1.Unclaimed channel message := by
  intro receiver member
  rw [← Bool.not_eq_true]
  intro isMatching
  obtain ⟨place, found⟩ := List.getElem?_of_mem member
  have before := matching_of_other other found isMatching
  rw [unclaimed receiver (mem_of_getElem? before)] at isMatching
  contradiction

variable {indices : Finset Nat} {last : UInt32} {place : Nat} {receiver : TpReceiver Channel}

theorem Collecting.other {segment : SomeIpMessage}
    (collecting : Collecting transceiver channel message indices last place receiver)
    (other : hasKey channel message owner segment.header = false) :
    Collecting (transceiver.receiveTpMessage owner segment time).1 channel message indices last
      place receiver where
  found := by
    cases chosen : transceiver.findReceiver owner segment with
    | none =>
      rw [receiveTpMessage_of_none chosen]
      exact collecting.found
    | some index =>
      obtain ⟨old, oldFound, choice⟩ := findReceiver_some chosen
      rw [(receiveTpMessage_of_some chosen oldFound time).1]
      have different : index ≠ place := by
        rintro rfl
        rw [collecting.found] at oldFound
        cases oldFound
        rcases choice with isMatching | inactive
        · obtain ⟨waits, sameKey⟩ := isMatching_iff.mp isMatching
          rw [collecting.waits] at waits
          obtain rfl := Option.some.inj waits
          rw [collecting.collects.header, TpReceiver.sameKey_iff] at sameKey
          have contrary : hasKey channel message channel segment.header = true := by
            rw [hasKey, Bool.and_eq_true, decide_eq_true_eq, TpReceiver.sameKey_iff]
            exact ⟨rfl, sameKey.1.symm, sameKey.2.1.symm, sameKey.2.2.1.symm,
              sameKey.2.2.2.symm⟩
          rw [other] at contrary
          contradiction
        · rw [TpReceiver.isActive, collecting.waits] at inactive
          contradiction
      rw [List.getElem?_set_ne different]
      exact collecting.found
  waits := collecting.waits
  collects := collecting.collects
  since := collecting.since
  alone := by
    intro index next found isMatching
    exact collecting.alone index next (matching_of_other other found isMatching) isMatching

/-! ## The cyclic function -/

theorem Unclaimed.cyclic (unclaimed : transceiver.Unclaimed channel message) (time : UInt32) :
    (transceiver.cyclic time).Unclaimed channel message := by
  intro receiver member
  simp only [TpTransceiver.cyclic, mem_map] at member
  obtain ⟨old, oldMember, rfl⟩ := member
  split
  · rfl
  · exact unclaimed old oldMember

theorem Collecting.cyclic
    (collecting : Collecting transceiver channel message indices last place receiver)
    (early : (last > 0 && time ≥ last + TP_RECEIVE_TIMEOUT) = false) :
    Collecting (transceiver.cyclic time) channel message indices last place receiver where
  found := by
    have fresh : ¬receiver.isExpired time = true := by
      rw [TpReceiver.isExpired, collecting.since, early]
      exact Bool.false_ne_true
    simp only [TpTransceiver.cyclic, List.getElem?_map, collecting.found, Option.map_some]
    rw [if_neg fresh]
  waits := collecting.waits
  collects := collecting.collects
  since := collecting.since
  alone := by
    intro index next found isMatching
    simp only [TpTransceiver.cyclic, List.getElem?_map, Option.map_eq_some_iff] at found
    obtain ⟨old, oldFound, rfl⟩ := found
    split at isMatching
    · contradiction
    · exact collecting.alone index old oldFound isMatching

/-! ## Segments of the key -/

/-- A segment that its receiver does not hold yet: the message is delivered with the
last one, and is collected further otherwise. -/
theorem segment_received {index : Nat} (valid : message.Valid)
    (small : index < segmentCount message.getPayloadLength) (fresh : index ∉ indices)
    (chosen : transceiver.findReceiver channel (segmentAt message index) = some place)
    (found : transceiver.receivers[place]? = some receiver)
    (waits : (started receiver channel (segmentAt message index)).pChannel = some channel)
    (collects : (started receiver channel (segmentAt message index)).Collects message indices)
    (alone : ∀ (other : Nat) (next : TpReceiver Channel),
      transceiver.receivers[other]? = some next →
        next.isMatching channel (segmentAt message 0) = true → other = place)
    (time : UInt32) :
    let result := transceiver.receiveTpMessage channel (segmentAt message index) time
    if insert index indices = Finset.range (segmentCount message.getPayloadLength) then
      result.2 = some message.delivered ∧ result.1.Unclaimed channel message
    else
      result.2 = none ∧
        ∃ next, Collecting result.1 channel message (insert index indices) time place next := by
  intro result
  obtain ⟨receivers, complete⟩ := receiveTpMessage_of_some chosen found time
  have inside := (List.getElem?_eq_some_iff.mp found).1
  have received := collects.receive valid small fresh time
  have others : ∀ (other : Nat) (next : TpReceiver Channel),
      result.1.receivers[other]? = some next →
        next.isMatching channel (segmentAt message 0) = true → other = place := by
    intro other next holds isMatching
    by_contra different
    rw [receivers, List.getElem?_set_ne (Ne.symm different)] at holds
    exact different (alone other next holds isMatching)
  split at received
  · rename_i all
    rw [if_pos all]
    refine ⟨complete.trans received.2, ?_⟩
    intro next member
    rw [← Bool.not_eq_true]
    intro isMatching
    obtain ⟨other, holds⟩ := List.getElem?_of_mem member
    obtain rfl := others other next holds isMatching
    rw [receivers, List.getElem?_set_self inside] at holds
    cases holds
    rw [settled, received.1, if_neg (by decide)] at isMatching
    contradiction
  · rename_i missing
    rw [if_neg missing]
    obtain ⟨stamped, sameChannel, -, -⟩ := TpReceiver.receive_pending received.1
    refine ⟨complete.trans received.2.1, _, ?_, sameChannel.trans waits, received.2.2, stamped,
      others⟩
    rw [receivers, List.getElem?_set_self inside, settled, if_pos received.1]

theorem Collecting.segment {index : Nat}
    (collecting : Collecting transceiver channel message indices last place receiver)
    (valid : message.Valid) (small : index < segmentCount message.getPayloadLength)
    (fresh : index ∉ indices) (time : UInt32) :
    let result := transceiver.receiveTpMessage channel (segmentAt message index) time
    if insert index indices = Finset.range (segmentCount message.getPayloadLength) then
      result.2 = some message.delivered ∧ result.1.Unclaimed channel message
    else
      result.2 = none ∧
        ∃ next, Collecting result.1 channel message (insert index indices) time place next := by
  have active : receiver.isActive = true := by
    rw [TpReceiver.isActive, collecting.waits]
    rfl
  have same : started receiver channel (segmentAt message index) = receiver := by
    rw [started, if_pos active]
  have chosen : transceiver.findReceiver channel (segmentAt message index) = some place := by
    obtain ⟨inside, holds⟩ := List.getElem?_eq_some_iff.mp collecting.found
    rw [findReceiver, Option.or_eq_some_iff]
    left
    rw [List.findIdx?_eq_some_iff_getElem]
    refine ⟨inside, ?_, ?_⟩
    · rw [holds, isMatching_segmentAt]
      exact collecting.isMatching
    · intro other before isMatching
      rw [isMatching_segmentAt] at isMatching
      have equal := collecting.alone other _ (List.getElem?_eq_getElem (by omega)) isMatching
      omega
  apply segment_received valid small fresh chosen collecting.found
  · rw [same]
    exact collecting.waits
  · rw [same]
    exact collecting.collects
  · exact collecting.alone

theorem Unclaimed.segment {index : Nat} (unclaimed : transceiver.Unclaimed channel message)
    (valid : message.Valid) (small : index < segmentCount message.getPayloadLength)
    (ready : ∀ receiver ∈ transceiver.receivers, receiver.isActive = false →
      message.getPayloadLength ≤ receiver.buffer.length ∧
        receiver.totalPayloadLength = 0 ∧ receiver.receivedPayloadLength = 0)
    (idle : ∃ receiver ∈ transceiver.receivers, receiver.isActive = false) (time : UInt32) :
    let result := transceiver.receiveTpMessage channel (segmentAt message index) time
    if insert index ∅ = Finset.range (segmentCount message.getPayloadLength) then
      result.2 = some message.delivered ∧ result.1.Unclaimed channel message
    else
      result.2 = none ∧
        ∃ place next, Collecting result.1 channel message (insert index ∅) time place next := by
  intro result
  have noMatch : transceiver.receivers.findIdx?
      (fun receiver => receiver.isMatching channel (segmentAt message index)) = none := by
    rw [List.findIdx?_eq_none_iff]
    intro receiver member
    rw [isMatching_segmentAt]
    exact unclaimed receiver member
  cases chosen : transceiver.findReceiver channel (segmentAt message index) with
  | none =>
    rw [findReceiver, noMatch, Option.none_or, List.findIdx?_eq_none_iff] at chosen
    obtain ⟨receiver, member, inactive⟩ := idle
    have contrary := chosen receiver member
    rw [inactive] at contrary
    contradiction
  | some place =>
    obtain ⟨receiver, found, choice⟩ := findReceiver_some chosen
    have member := mem_of_getElem? found
    have inactive : receiver.isActive = false := by
      rcases choice with isMatching | inactive
      · have contrary := unclaimed receiver member
        rw [← isMatching_segmentAt receiver index, isMatching] at contrary
        contradiction
      · exact inactive
    obtain ⟨room, empty⟩ := ready receiver member inactive
    have start : started receiver channel (segmentAt message index) =
        receiver.start channel (segmentAt message index) := by
      rw [started, inactive]
      rfl
    have received := segment_received valid small (Finset.notMem_empty index) chosen found
      (by rw [start]; rfl) (by rw [start]; exact .start empty room channel)
      (by
        intro other next holds isMatching
        rw [unclaimed next (mem_of_getElem? holds)] at isMatching
        contradiction) time
    split at received
    · rename_i all
      rw [if_pos all]
      exact received
    · rename_i missing
      rw [if_neg missing]
      exact ⟨received.1, place, received.2⟩

/-! ## All segments of a message -/

/-- The segments that have not arrived yet, in the order of their arrival. -/
structure Remaining (count : Nat) (indices : Finset Nat) (order : List Nat) : Prop where
  nodup : order.Nodup
  fresh : ∀ index ∈ order, index ∉ indices ∧ index < count
  covers : ∀ index < count, index ∈ indices ∨ index ∈ order
  inside : indices ⊆ Finset.range count

theorem Remaining.next {count index : Nat} (remaining : Remaining count indices (index :: order)) :
    Remaining count (insert index indices) order where
  nodup := remaining.nodup.of_cons
  fresh := by
    intro other member
    obtain ⟨absent, small⟩ := remaining.fresh other (mem_cons_of_mem _ member)
    refine ⟨?_, small⟩
    rw [Finset.mem_insert]
    rintro (rfl | present)
    · exact (nodup_cons.mp remaining.nodup).1 member
    · exact absent present
  covers := by
    intro other small
    rw [Finset.mem_insert]
    rcases remaining.covers other small with present | later
    · exact Or.inl (Or.inr present)
    · rcases mem_cons.mp later with rfl | later
      · exact Or.inl (Or.inl rfl)
      · exact Or.inr later
  inside := by
    apply Finset.insert_subset _ remaining.inside
    exact Finset.mem_range.mpr (remaining.fresh index mem_cons_self).2

/-- All the segments are there exactly if none is missing. -/
theorem Remaining.complete_iff {count : Nat} (remaining : Remaining count indices order) :
    indices = Finset.range count ↔ order = [] := by
  constructor
  · rintro rfl
    cases order with
    | nil => rfl
    | cons index rest =>
      obtain ⟨absent, small⟩ := remaining.fresh index mem_cons_self
      exact absurd (Finset.mem_range.mpr small) absent
  · rintro rfl
    apply Finset.Subset.antisymm remaining.inside
    intro index member
    rcases remaining.covers index (Finset.mem_range.mp member) with present | later
    · exact present
    · exact absurd later not_mem_nil

theorem keyDeliveries_append (first second : List ((Channel × SomeIpHeader) × SomeIpMessage)) :
    keyDeliveries channel message (first ++ second) =
      keyDeliveries channel message first ++ keyDeliveries channel message second := by
  rw [keyDeliveries, filter_append, map_append]
  rfl

theorem keyDeliveries_other {header : SomeIpHeader}
    (other : hasKey channel message owner header = false) (complete : Option SomeIpMessage) :
    keyDeliveries channel message
      (complete.map fun whole => ((owner, header), whole)).toList = [] := by
  cases complete with
  | none => rfl
  | some whole =>
    simp only [Option.map_some, Option.toList_some, keyDeliveries, filter_cons, other,
      Bool.false_eq_true, if_false, filter_nil, map_nil]

theorem keyDeliveries_key {header : SomeIpHeader}
    (key : hasKey channel message owner header = true) (complete : Option SomeIpMessage) :
    keyDeliveries channel message
      (complete.map fun whole => ((owner, header), whole)).toList = complete.toList := by
  cases complete with
  | none => rfl
  | some whole =>
    simp only [Option.map_some, Option.toList_some, keyDeliveries, filter_cons, key,
      if_true, filter_nil, map_cons, map_nil]

theorem Unclaimed.stop (unclaimed : transceiver.Unclaimed channel message) :
    transceiver.stop.Unclaimed channel message := by
  intro receiver member
  simp only [TpTransceiver.stop, mem_map] at member
  obtain ⟨old, oldMember, rfl⟩ := member
  split
  · rfl
  · exact unclaimed old oldMember

/-- Without segments of the key nothing is delivered for it. -/
theorem Unclaimed.deliveries {events : List (TpEvent Channel)}
    (unclaimed : transceiver.Unclaimed channel message)
    (others : keySegments channel message events = []) :
    keyDeliveries channel message (transceiver.deliveries events) = [] := by
  induction events generalizing transceiver with
  | nil => rfl
  | cons event rest ih =>
    cases event with
    | receiveTpMessage owner received time =>
      by_cases key : hasKey channel message owner received.header = true
      · rw [keySegments, if_pos key] at others
        contradiction
      · rw [keySegments, if_neg key] at others
        rw [Bool.not_eq_true] at key
        rw [TpTransceiver.deliveries, keyDeliveries_append, keyDeliveries_other key,
          nil_append]
        exact ih (unclaimed.other key) others
    | cyclic time => exact ih (unclaimed.cyclic time) others
    | stop => exact ih unclaimed.stop others

/-- The segment of the key at the head of the arriving ones. -/
theorem keySegments_cons {received : SomeIpMessage} {rest : List (TpEvent Channel)}
    (key : hasKey channel message owner received.header = true)
    (arriving : keySegments channel message (.receiveTpMessage owner received time :: rest) =
      order.map (segmentAt message)) :
    owner = channel ∧ ∃ index later, order = index :: later ∧
      received = segmentAt message index ∧
      keySegments channel message rest = later.map (segmentAt message) := by
  rw [keySegments, if_pos key] at arriving
  rw [hasKey, Bool.and_eq_true, decide_eq_true_eq] at key
  refine ⟨key.1, ?_⟩
  cases order with
  | nil => contradiction
  | cons index later =>
    rw [map_cons, List.cons.injEq] at arriving
    exact ⟨index, later, rfl, arriving⟩

/-- A message that is being collected is delivered once, when its missing segments
arrive. -/
theorem Collecting.deliveries {events : List (TpEvent Channel)}
    (collecting : Collecting transceiver channel message indices last place receiver)
    (valid : message.Valid)
    (remaining : Remaining (segmentCount message.getPayloadLength) indices order)
    (missing : order ≠ [])
    (arriving : keySegments channel message events = order.map (segmentAt message))
    (patient : Patient channel message last events) :
    keyDeliveries channel message (transceiver.deliveries events) = [message.delivered] := by
  induction events generalizing transceiver indices last receiver order with
  | nil =>
    cases order with
    | nil => exact absurd rfl missing
    | cons index later => contradiction
  | cons event rest ih =>
    cases event with
    | receiveTpMessage owner received time =>
      by_cases key : hasKey channel message owner received.header = true
      · obtain ⟨rfl, index, later, rfl, rfl, restArriving⟩ := keySegments_cons key arriving
        obtain ⟨fresh, small⟩ := remaining.fresh index mem_cons_self
        have step := collecting.segment valid small fresh time
        rw [TpTransceiver.deliveries, keyDeliveries_append, keyDeliveries_key key]
        rw [Patient, if_pos key] at patient
        replace patient := patient.2
        dsimp only at step
        split at step
        · rename_i all
          have none := remaining.next.complete_iff.mp all
          subst none
          rw [step.1, step.2.deliveries restArriving]
          rfl
        · rename_i incomplete
          obtain ⟨nothing, next, collectingNext⟩ := step
          have more : later ≠ [] :=
            fun none => incomplete (remaining.next.complete_iff.mpr none)
          rw [nothing, ih collectingNext remaining.next more restArriving patient]
          rfl
      · rw [keySegments, if_neg key] at arriving
        rw [Patient, if_neg key] at patient
        replace patient := patient.2
        rw [Bool.not_eq_true] at key
        rw [TpTransceiver.deliveries, keyDeliveries_append, keyDeliveries_other key,
          nil_append]
        exact ih (collecting.other key) remaining missing arriving patient
    | cyclic time =>
      exact ih (collecting.cyclic patient.1) remaining missing arriving patient.2
    | stop => exact absurd patient id

/-- A message whose segments arrive once each, the first of them at an idle receiver,
is delivered once. -/
theorem Unclaimed.delivers (unclaimed : transceiver.Unclaimed channel message)
    (valid : message.Valid)
    (ready : ∀ receiver ∈ transceiver.receivers, receiver.isActive = false →
      message.getPayloadLength ≤ receiver.buffer.length ∧
        receiver.totalPayloadLength = 0 ∧ receiver.receivedPayloadLength = 0)
    (idle : ∃ receiver ∈ transceiver.receivers, receiver.isActive = false) {first : SomeIpMessage}
    {rest : List (TpEvent Channel)} (key : hasKey channel message channel first.header = true)
    (arriving : (keySegments channel message
      (.receiveTpMessage channel first time :: rest)).Perm (send message))
    (patient : Patient channel message time rest) :
    keyDeliveries channel message
        (transceiver.deliveries (.receiveTpMessage channel first time :: rest)) =
      [message.delivered] := by
  rw [send_eq] at arriving
  obtain ⟨order, arriving, permuted⟩ :
      ∃ order : List Nat,
        keySegments channel message (.receiveTpMessage channel first time :: rest) =
          order.map (segmentAt message) ∧
        order.Perm (List.range (segmentCount message.getPayloadLength)) :=
    (congrFun₂ (eq_map_comp_perm (segmentAt message)) _ _).mpr arriving
  have remaining : Remaining (segmentCount message.getPayloadLength) ∅ order := by
    constructor
    · exact permuted.nodup_iff.mpr nodup_range
    · intro index member
      exact ⟨Finset.notMem_empty index, mem_range.mp (permuted.mem_iff.mp member)⟩
    · intro index small
      exact Or.inr (permuted.mem_iff.mpr (mem_range.mpr small))
    · exact Finset.empty_subset _
  obtain ⟨-, index, later, rfl, rfl, restArriving⟩ := keySegments_cons key arriving
  obtain ⟨-, small⟩ := remaining.fresh index mem_cons_self
  have step := unclaimed.segment valid small ready idle time
  rw [TpTransceiver.deliveries, keyDeliveries_append, keyDeliveries_key key]
  dsimp only at step
  split at step
  · rename_i all
    have none := remaining.next.complete_iff.mp all
    subst none
    rw [step.1, step.2.deliveries restArriving]
    rfl
  · rename_i incomplete
    obtain ⟨nothing, place, next, collecting⟩ := step
    have more : later ≠ [] := fun none => incomplete (remaining.next.complete_iff.mpr none)
    rw [nothing, collecting.deliveries valid remaining.next more restArriving patient]
    rfl

/-! ## Segments that are rejected -/

/-- The buffers keep their sizes. -/
theorem length_buffers_receiveTpMessage (transceiver : TpTransceiver Channel) (channel : Channel)
    (segment : SomeIpMessage) (time : UInt32) :
    ((transceiver.receiveTpMessage channel segment time).1.receivers.map
        fun receiver => receiver.buffer.length) =
      transceiver.receivers.map fun receiver => receiver.buffer.length := by
  cases chosen : transceiver.findReceiver channel segment with
  | none => rw [receiveTpMessage_of_none chosen]
  | some place =>
    obtain ⟨receiver, found, -⟩ := findReceiver_some chosen
    obtain ⟨inside, holds⟩ := List.getElem?_eq_some_iff.mp found
    have started_length : (started receiver channel segment).buffer.length =
        receiver.buffer.length := by
      rw [started]
      split <;> rfl
    have settled_length : (settled (started receiver channel segment) segment
        time).buffer.length = receiver.buffer.length := by
      rw [settled]
      split
      · rw [TpReceiver.length_buffer_receive, started_length]
      · rw [TpReceiver.stop, length_replicate, TpReceiver.length_buffer_receive,
          started_length]
    rw [(receiveTpMessage_of_some chosen found time).1, map_set, settled_length, ← holds]
    apply ext_getElem?
    intro other
    by_cases same : place = other
    · subst same
      rw [List.getElem?_set_self (by rwa [length_map]), List.getElem?_map, found, holds]
      rfl
    · rw [List.getElem?_set_ne same]

/-- The segment delivers nothing, ends the wait of its receiver and is copied nowhere. -/
def Rejects (transceiver : TpTransceiver Channel) (channel : Channel) (segment : SomeIpMessage)
    (time : UInt32) (place : Nat) (receiver : TpReceiver Channel) : Prop :=
  (transceiver.receiveTpMessage channel segment time).2 = none ∧
    (transceiver.receiveTpMessage channel segment time).1.receivers =
      transceiver.receivers.set place receiver.stop

/-- A segment without a header, or one whose end as it is computed lies behind the buffer,
is rejected. -/
theorem rejects_of_malformed {segment : SomeIpMessage}
    (chosen : transceiver.findReceiver channel segment = some place)
    (found : transceiver.receivers[place]? = some receiver)
    (malformed : segment.payload.length < TP_HEADER_LENGTH ∨
      SomeIpMessage.OFFSET_PAYLOAD + receiver.buffer.length < TpReceiver.targetLength segment)
    (time : UInt32) : transceiver.Rejects channel segment time place receiver := by
  have sameBuffer : (started receiver channel segment).buffer = receiver.buffer ∧
      (started receiver channel segment).astray = receiver.astray := by
    rw [started]
    split <;> exact ⟨rfl, rfl⟩
  have rejects : ((started receiver channel segment).receive segment time).1 = .TP_ERROR ∧
      ((started receiver channel segment).receive segment time).2.1.astray = receiver.astray ∧
      ((started receiver channel segment).receive segment time).2.2 = none := by
    rw [TpReceiver.receive]
    by_cases short : segment.payload.length < TP_HEADER_LENGTH
    · rw [if_pos short]
      exact ⟨rfl, sameBuffer.2, rfl⟩
    · rw [if_neg short]
      have exceeded : SomeIpMessage.OFFSET_PAYLOAD +
          ((started receiver channel segment).setTotalPayloadLength segment).buffer.length <
            TpReceiver.targetLength segment := by
        rw [TpReceiver.buffer_setTotalPayloadLength, sameBuffer.1]
        exact malformed.resolve_left short
      rw [if_pos exceeded]
      exact ⟨rfl, (TpReceiver.astray_setTotalPayloadLength ..).trans sameBuffer.2, rfl⟩
  obtain ⟨receivers, complete⟩ := receiveTpMessage_of_some chosen found time
  refine ⟨complete.trans rejects.2.2, ?_⟩
  rw [receivers, settled, rejects.1, if_neg (by decide)]
  congr 1
  rw [TpReceiver.stop, TpReceiver.length_buffer_receive, rejects.2.1, sameBuffer.1]
  rfl

/-- A segment whose end lies behind the buffer is rejected where the end that is computed
lies there too; else its copy goes astray. -/
theorem rejects_iff {segment : SomeIpMessage}
    (chosen : transceiver.findReceiver channel segment = some place)
    (found : transceiver.receivers[place]? = some receiver) (within : receiver.astray = false)
    (malformed : segment.payload.length < TP_HEADER_LENGTH ∨ receiver.buffer.length <
      (TpReceiver.tpHeader segment).payloadOffset.toNat + (TpReceiver.chunk segment).length)
    (time : UInt32) :
    transceiver.Rejects channel segment time place receiver ↔
      segment.payload.length < TP_HEADER_LENGTH ∨
        SomeIpMessage.OFFSET_PAYLOAD + receiver.buffer.length <
          TpReceiver.targetLength segment := by
  refine ⟨?_, fun rejected => rejects_of_malformed chosen found rejected time⟩
  intro rejects
  by_contra accepted
  obtain ⟨long, computed⟩ := not_or.mp accepted
  have behind := malformed.resolve_left long
  have sameBuffer : ((started receiver channel segment).setTotalPayloadLength segment).buffer =
      receiver.buffer := by
    rw [TpReceiver.buffer_setTotalPayloadLength, started]
    split <;> rfl
  have astray : (settled (started receiver channel segment) segment time).astray = true := by
    have copied : ((started receiver channel segment).receive segment time).2.1.astray =
        true := by
      rw [TpReceiver.receive, if_neg long]
      dsimp only
      rw [if_neg (by rwa [sameBuffer])]
      split <;> exact TpReceiver.astray_copyChunk (by rwa [sameBuffer])
    rw [settled]
    split <;> exact copied
  obtain ⟨receivers, -⟩ := receiveTpMessage_of_some chosen found time
  have inside := (List.getElem?_eq_some_iff.mp found).1
  have same := congrArg (fun list => list[place]?) (rejects.2.symm.trans receivers)
  simp only [List.getElem?_set_self inside, Option.some_inj] at same
  rw [← same, TpReceiver.stop, within] at astray
  exact absurd astray Bool.false_ne_true

end TpTransceiver

/-! ## Reassembly -/

namespace Reassembly

/-- A message of two segments, and a short one of another session. -/
def longMessage : SomeIpMessage :=
  { header := { messageId := 0x12340001, sessionId := 1 }, payload := List.replicate 1393 170 }

def shortMessage : SomeIpMessage :=
  { header := { messageId := 0x12340001, sessionId := 2 }, payload := [7] }

def bothSessions (channel : Nat) (message : SomeIpMessage) : Prop :=
  channel = 3 ∧ (message = longMessage ∨ message = shortMessage)

def sessionsRun : ReassemblyRun Nat :=
  { transceiver := { receivers := [{ buffer := List.replicate 1393 0 }] } }

theorem sessionsRun_initial : ReassemblyRun.Initial bothSessions sessionsRun where
  idle := by
    intro receiver member
    obtain rfl := mem_singleton.mp member
    exact ⟨rfl, rfl, rfl⟩
  valid := by
    rintro channel message ⟨-, rfl | rfl⟩
    · rw [SomeIpMessage.Valid, SomeIpMessage.getPayloadLength, longMessage,
        length_replicate]
      decide
    · decide
  room := by
    rintro receiver member channel message ⟨-, messageEq⟩
    obtain rfl := mem_singleton.mp member
    rw [length_replicate]
    rcases messageEq with rfl | rfl
    · rw [SomeIpMessage.getPayloadLength, longMessage, length_replicate]
    · decide
  held := rfl
  delivered := rfl

end Reassembly

end OpenBsw.Someip
