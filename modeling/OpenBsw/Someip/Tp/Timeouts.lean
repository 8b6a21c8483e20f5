import OpenBsw.Someip.Tp.TpTransceiver
import OpenBsw.Transition.System

/-!
# Timeouts of segmented messages

The clock counts milliseconds in 32 bits and may stand anywhere.  A run keeps,
beside the transceiver, the time at which every receiver accepted its last
segment.  A receiver that waits keeps this time too, and the cyclic function is
scheduled exactly while some receiver waits.  The comparison that ends the wait
is right for those pairs of clock values that `ClockFits` describes.
-/

namespace OpenBsw.Someip

open OpenBsw.Transition List
open ITpTransceiver

variable {Channel : Type}

/-! ## The comparison of clock values -/

/-- A segment accepted at clock `accepted` and the clock `time` of a cyclic run: the
clock did not wrap in between, or it did and the end of the wait lies behind the
wrap as well. -/
def ClockFits (accepted time : UInt32) : Prop :=
  if accepted = 0 then time < TP_RECEIVE_TIMEOUT
  else if accepted.toNat + TP_RECEIVE_TIMEOUT.toNat < 2 ^ 32 then accepted ≤ time
  else time < accepted

instance (accepted time : UInt32) : Decidable (ClockFits accepted time) := by
  unfold ClockFits
  infer_instance

namespace TpReceiver

/-- The time since a clock value is a difference modulo `2 ^ 32`. -/
theorem toNat_elapsed (accepted time : UInt32) :
    (time - accepted).toNat =
      if accepted.toNat ≤ time.toNat then time.toNat - accepted.toNat
      else 2 ^ 32 + time.toNat - accepted.toNat := by
  have small := accepted.toNat_lt
  have smallTime := time.toNat_lt
  rw [UInt32.toNat_sub]
  split
  · omega
  · omega

/-- The test of a receiver agrees with the time that has passed exactly where the
clock fits. -/
theorem isExpired_iff_elapsed_iff (receiver : TpReceiver Channel) (time : UInt32) :
    (receiver.isExpired time = true ↔ TP_RECEIVE_TIMEOUT ≤ time - receiver.timestamp) ↔
      ClockFits receiver.timestamp time := by
  have small := receiver.timestamp.toNat_lt
  have smallTime := time.toNat_lt
  have timeout : TP_RECEIVE_TIMEOUT.toNat = 100 := rfl
  have elapsed := toNat_elapsed receiver.timestamp time
  simp only [isExpired, Bool.and_eq_true, decide_eq_true_eq, ge_iff_le, gt_iff_lt,
    UInt32.le_iff_toNat_le, UInt32.lt_iff_toNat_lt, UInt32.toNat_add, elapsed, timeout]
  unfold ClockFits
  simp only [UInt32.le_iff_toNat_le, UInt32.lt_iff_toNat_lt, ← UInt32.toNat_inj, timeout]
  change ((0 < receiver.timestamp.toNat ∧ _) ↔ _) ↔
    if receiver.timestamp.toNat = 0 then _ else _
  generalize receiver.timestamp.toNat = start at *
  generalize time.toNat = now at *
  by_cases zero : start = 0
  · rw [if_pos zero, if_pos (by omega)]
    omega
  · rw [if_neg zero]
    by_cases wraps : start + 100 < 2 ^ 32
    · rw [if_pos wraps, Nat.mod_eq_of_lt wraps]
      split <;> omega
    · rw [if_neg wraps]
      split <;> omega

end TpReceiver

/-! ## Runs of a transceiver -/

/-- A transceiver, and the time of the last segment that every receiver accepted
and that left it waiting. -/
structure TpRun (Channel : Type) where
  transceiver : TpTransceiver Channel
  accepted : Nat → UInt32 := fun _ => 0

variable {transceiver : TpTransceiver Channel} {run : TpRun Channel} {index : Nat}
  {receiver : TpReceiver Channel}

namespace TpRun

def receiveTpMessage [DecidableEq Channel] (run : TpRun Channel) (channel : Channel)
    (message : SomeIpMessage) (time : UInt32) : TpRun Channel :=
  let transceiver := (run.transceiver.receiveTpMessage channel message time).1
  { transceiver
    accepted := fun index =>
      if run.transceiver.findReceiver channel message = some index ∧
          transceiver.isWaiting index = true then time
      else run.accepted index }

/-- The cyclic function only runs while it is scheduled. -/
def perform [DecidableEq Channel] (run : TpRun Channel) : TpEvent Channel → Option (TpRun Channel)
  | .receiveTpMessage channel message time => some (run.receiveTpMessage channel message time)
  | .cyclic time =>
    if run.transceiver.cyclicTimeout then
      some { run with transceiver := run.transceiver.cyclic time }
    else none
  | .stop => some { run with transceiver := run.transceiver.stop }

/-- A transceiver is constructed with idle receivers. -/
def Initial (run : TpRun Channel) : Prop :=
  (∀ receiver ∈ run.transceiver.receivers, receiver.isActive = false ∧ receiver.timestamp = 0) ∧
    run.transceiver.busy = false ∧ run.transceiver.cyclicTimeout = false

def system (Channel : Type) [DecidableEq Channel] : System (TpRun Channel) (TpEvent Channel) where
  Initial := Initial
  Step source event target := perform source event = some target

/-! ## What every operation preserves -/

/-- A receiver and the time its last segment was accepted at. -/
def Keeps (receiver : TpReceiver Channel) (accepted : UInt32) : Prop :=
  receiver.timestamp = if receiver.isActive then accepted else 0

/-- The cyclic function is scheduled while a receiver waits, and every receiver that
waits keeps the time of its last segment. -/
structure Timed (run : TpRun Channel) : Prop where
  busy : run.transceiver.busy = run.transceiver.receivers.any TpReceiver.isActive
  scheduled : run.transceiver.cyclicTimeout = run.transceiver.receivers.any TpReceiver.isActive
  keeps : ∀ index receiver, run.transceiver.receivers[index]? = some receiver →
    Keeps receiver (run.accepted index)

theorem Timed.initial (start : Initial run) : Timed run := by
  obtain ⟨idle, busy, scheduled⟩ := start
  have none : run.transceiver.receivers.any TpReceiver.isActive = false := by
    rw [any_eq_false]
    intro receiver member
    simp [(idle receiver member).1]
  constructor
  · rw [busy, none]
  · rw [scheduled, none]
  · intro index receiver found
    obtain ⟨inactive, fresh⟩ := idle receiver (mem_of_getElem? found)
    simp [Keeps, inactive, fresh]

theorem Timed.stop (timed : Timed run) :
    Timed { run with transceiver := run.transceiver.stop } := by
  have none : run.transceiver.stop.receivers.any TpReceiver.isActive = false := by
    rw [any_eq_false]
    simp only [TpTransceiver.stop, mem_map]
    rintro receiver ⟨old, -, rfl⟩
    by_cases active : old.isActive
    · rw [if_pos active, TpReceiver.isActive_stop]
      exact Bool.false_ne_true
    · rw [if_neg active]
      exact active
  constructor
  · exact none.symm
  · rw [none]
    have same : run.transceiver.busy = run.transceiver.cyclicTimeout := by
      rw [timed.busy, timed.scheduled]
    simp only [TpTransceiver.stop, same]
    by_cases set : run.transceiver.cyclicTimeout
    · simp [set]
    · simp [set]
  · intro index receiver found
    simp only [TpTransceiver.stop, List.getElem?_map, Option.map_eq_some_iff] at found
    obtain ⟨old, oldFound, rfl⟩ := found
    have kept := timed.keeps index old oldFound
    by_cases active : old.isActive
    · rw [if_pos active]
      rfl
    · rw [if_neg active]
      simpa [Keeps, active] using kept

theorem Timed.cyclic (timed : Timed run) (time : UInt32) :
    Timed { run with transceiver := run.transceiver.cyclic time } := by
  have remaining : (run.transceiver.cyclic time).receivers.any TpReceiver.isActive =
      (run.transceiver.cyclic time).busy := by
    simp only [TpTransceiver.cyclic, any_map]
    congr 1
    funext receiver
    by_cases expired : receiver.isExpired time
    · simp only [Function.comp_apply, expired, if_true, TpReceiver.isActive_stop,
        Bool.not_true, Bool.false_and]
    · simp [expired]
  constructor
  · exact remaining.symm
  · exact remaining.symm
  · intro index receiver found
    simp only [TpTransceiver.cyclic, List.getElem?_map, Option.map_eq_some_iff] at found
    obtain ⟨old, oldFound, rfl⟩ := found
    have kept := timed.keeps index old oldFound
    by_cases expired : old.isExpired time
    · rw [if_pos expired]
      rfl
    · rw [if_neg expired]
      exact kept

/-- A segment that leaves its receiver waiting. -/
theorem Timed.pending (timed : Timed run) {accepted : Nat → UInt32}
    (inside : index < run.transceiver.receivers.length) (active : receiver.isActive = true)
    (now : receiver.timestamp = accepted index)
    (others : ∀ other, other ≠ index → accepted other = run.accepted other) :
    Timed
      { transceiver :=
          { receivers := run.transceiver.receivers.set index receiver
            busy := true
            cyclicTimeout :=
              if run.transceiver.busy then run.transceiver.cyclicTimeout else true }
        accepted } := by
  have some : (run.transceiver.receivers.set index receiver).any TpReceiver.isActive = true := by
    rw [any_eq_true]
    exact ⟨receiver, mem_set inside receiver, active⟩
  constructor
  · exact some.symm
  · change (if run.transceiver.busy = true then run.transceiver.cyclicTimeout else true) =
      (run.transceiver.receivers.set index receiver).any TpReceiver.isActive
    rw [some]
    split
    · rename_i busy
      rw [timed.scheduled, ← timed.busy, busy]
    · rfl
  · intro other found holds
    by_cases same : index = other
    · subst same
      rw [List.getElem?_set_self inside] at holds
      cases holds
      simp only [Keeps, active, if_true, now]
    · rw [List.getElem?_set_ne same] at holds
      change Keeps found (accepted other)
      rw [others other (Ne.symm same)]
      exact timed.keeps other found holds

/-- A segment after which its receiver is stopped. -/
theorem Timed.stopped {run : TpRun Channel} (timed : Timed run) {index : Nat}
    {receiver : TpReceiver Channel} {accepted : Nat → UInt32}
    (inside : index < run.transceiver.receivers.length)
    (others : ∀ other, other ≠ index → accepted other = run.accepted other) :
    let receivers := run.transceiver.receivers.set index receiver.stop
    let busy := run.transceiver.busy && receivers.any TpReceiver.isActive
    Timed
      { transceiver :=
          { receivers
            busy
            cyclicTimeout :=
              if run.transceiver.busy ∧ busy = false then false
              else run.transceiver.cyclicTimeout }
        accepted } := by
  intro receivers busy
  have exact : busy = receivers.any TpReceiver.isActive := by
    by_cases before : run.transceiver.busy = true
    · simp only [busy, before, Bool.true_and]
    · have none := timed.busy
      rw [Bool.not_eq_true] at before
      rw [before] at none
      have after : receivers.any TpReceiver.isActive = false := by
        rw [any_eq_false]
        intro other member
        rcases mem_or_eq_of_mem_set member with old | rfl
        · exact any_eq_false.mp none.symm other old
        · simp
      simp only [busy, before, Bool.false_and, after]
  constructor
  · exact exact
  · change (if run.transceiver.busy = true ∧ busy = false then false
      else run.transceiver.cyclicTimeout) = receivers.any TpReceiver.isActive
    rw [← exact, timed.scheduled, ← timed.busy]
    by_cases before : run.transceiver.busy = true
    · cases after : busy <;> simp [before]
    · rw [Bool.not_eq_true] at before
      simp only [before, busy, Bool.false_and, Bool.false_eq_true, false_and, if_false]
  · intro other found holds
    by_cases same : index = other
    · subst same
      rw [List.getElem?_set_self inside] at holds
      cases holds
      rfl
    · rw [List.getElem?_set_ne same] at holds
      change Keeps found (accepted other)
      rw [others other (Ne.symm same)]
      exact timed.keeps other found holds

theorem Timed.receiveTpMessage [DecidableEq Channel] (timed : Timed run) (channel : Channel)
    (message : SomeIpMessage) (time : UInt32) :
    Timed (run.receiveTpMessage channel message time) := by
  cases found : run.transceiver.findReceiver channel message with
  | none =>
    simp only [TpRun.receiveTpMessage, TpTransceiver.receiveTpMessage, found, reduceCtorEq,
      false_and, if_false]
    exact timed
  | some index =>
    obtain ⟨receiver, holds, -⟩ := TpTransceiver.findReceiver_some found
    obtain ⟨inside, -⟩ := List.getElem?_eq_some_iff.mp holds
    have others : ∀ other, other ≠ index →
        (run.receiveTpMessage channel message time).accepted other = run.accepted other := by
      intro other different
      simp only [TpRun.receiveTpMessage, found, Option.some.injEq]
      exact if_neg fun same => different same.1.symm
    -- the ghost is named before the two outcomes are told apart
    generalize acceptedEq :
      (run.receiveTpMessage channel message time).accepted = accepted at others
    have shape : run.receiveTpMessage channel message time =
        { transceiver := (run.transceiver.receiveAt index receiver channel message time).1
          accepted } := by
      rw [← acceptedEq]
      simp only [TpRun.receiveTpMessage, TpTransceiver.receiveTpMessage, found, holds]
    rw [shape]
    rw [TpTransceiver.receiveAt]
    generalize startedEq :
      (if receiver.isActive = true then receiver else receiver.start channel message) = started
    have started_active : started.isActive = true := by
      rw [← startedEq]
      split
      · assumption
      · rfl
    by_cases pending : (started.receive message time).1 = .TP_PENDING
    · obtain ⟨stamped, sameChannel, -, -⟩ := TpReceiver.receive_pending pending
      have active : (started.receive message time).2.1.isActive = true := by
        rw [TpReceiver.isActive, sameChannel]
        exact started_active
      have waiting : (run.transceiver.receiveAt index receiver channel message time).1.isWaiting
          index = true := by
        rw [TpTransceiver.receiveAt, startedEq]
        simp only [pending, if_true, TpTransceiver.isWaiting, List.getElem?_set_self inside,
          Option.any_some, active]
      rw [if_pos pending]
      apply timed.pending inside active _ others
      rw [stamped, ← acceptedEq]
      simp only [TpRun.receiveTpMessage, TpTransceiver.receiveTpMessage, found, holds, waiting,
        and_self, if_true]
    · rw [if_neg pending]
      exact timed.stopped inside others

theorem timed_inductive [DecidableEq Channel] : (system Channel).Inductive Timed where
  initial := Timed.initial
  step := by
    intro source event target timed stepped
    cases event with
    | receiveTpMessage channel message time =>
      cases stepped
      exact timed.receiveTpMessage channel message time
    | cyclic time =>
      change (if source.transceiver.cyclicTimeout = true then _ else none) = some target
        at stepped
      split at stepped
      · cases stepped
        exact timed.cyclic time
      · contradiction
    | stop =>
      cases stepped
      exact timed.stop

/-! ## Stopping on time -/

/-- The cyclic function at a time stops the receiver exactly if the timeout has passed
since its last segment. -/
def StopsOnTime (run : TpRun Channel) (index : Nat) (time : UInt32) : Prop :=
  (run.transceiver.cyclic time).isWaiting index = false ↔
    TP_RECEIVE_TIMEOUT ≤ time - run.accepted index

/-- The cyclic function runs at these times, one after the other. -/
def cyclicRuns (transceiver : TpTransceiver Channel) (times : List UInt32) :
    TpTransceiver Channel :=
  times.foldl TpTransceiver.cyclic transceiver

theorem isWaiting_cyclic (holds : transceiver.receivers[index]? = some receiver)
    (active : receiver.isActive = true) (time : UInt32) :
    (transceiver.cyclic time).isWaiting index = !receiver.isExpired time := by
  simp only [TpTransceiver.isWaiting, TpTransceiver.cyclic, List.getElem?_map, holds,
    Option.map_some, Option.any_some]
  by_cases expired : receiver.isExpired time = true
  · rw [if_pos expired, expired]
    rfl
  · rw [if_neg expired, active]
    rw [Bool.not_eq_true] at expired
    rw [expired]
    rfl

theorem Timed.stopsOnTime_iff (timed : Timed run)
    (waiting : run.transceiver.isWaiting index = true) (time : UInt32) :
    run.StopsOnTime index time ↔ ClockFits (run.accepted index) time := by
  rw [TpTransceiver.isWaiting, Option.any_eq_true] at waiting
  obtain ⟨receiver, holds, active⟩ := waiting
  have kept := timed.keeps index receiver holds
  rw [Keeps, if_pos active] at kept
  rw [StopsOnTime, isWaiting_cyclic holds active, Bool.not_eq_false', ← kept]
  exact receiver.isExpired_iff_elapsed_iff time

/-- The cyclic function leaves an idle receiver idle. -/
theorem isWaiting_cyclicRuns_of_idle (idle : transceiver.isWaiting index = false)
    (times : List UInt32) : (cyclicRuns transceiver times).isWaiting index = false := by
  induction times generalizing transceiver with
  | nil => exact idle
  | cons time rest ih =>
    apply ih
    rw [TpTransceiver.isWaiting, Option.any_eq_false] at idle ⊢
    intro receiver holds
    simp only [TpTransceiver.cyclic, List.getElem?_map, Option.map_eq_some_iff] at holds
    obtain ⟨old, oldHolds, rfl⟩ := holds
    split
    · rfl
    · exact idle old oldHolds

/-- A receiver waits as long as it has not expired at any of the times. -/
theorem isWaiting_cyclicRuns (holds : transceiver.receivers[index]? = some receiver)
    (active : receiver.isActive = true) (times : List UInt32) :
    (cyclicRuns transceiver times).isWaiting index = times.all fun time =>
      !receiver.isExpired time := by
  induction times generalizing transceiver receiver with
  | nil => simp [cyclicRuns, TpTransceiver.isWaiting, holds, active]
  | cons time rest ih =>
    rw [cyclicRuns, foldl_cons, all_cons]
    by_cases expired : receiver.isExpired time = true
    · have idle : (transceiver.cyclic time).isWaiting index = false := by
        rw [isWaiting_cyclic holds active, expired]
        rfl
      rw [expired]
      exact isWaiting_cyclicRuns_of_idle idle rest
    · have same : (transceiver.cyclic time).receivers[index]? = some receiver := by
        simp only [TpTransceiver.cyclic, List.getElem?_map, holds, Option.map_some]
        rw [if_neg expired]
      rw [Bool.not_eq_true] at expired
      rw [expired]
      exact ih same active

/-- The cyclic function is scheduled while a receiver waits.  It stops the receiver on
time exactly at those clock values that fit to the time of the last segment, and where
all of them fit, the first run after the timeout ends the wait. -/
theorem receivers_timeOut [DecidableEq Channel] {run : TpRun Channel}
    (reached : (system Channel).Reachable run) {index : Nat}
    (waiting : run.transceiver.isWaiting index = true) :
    run.transceiver.cyclicTimeout = true ∧
      (∀ time, run.StopsOnTime index time ↔ ClockFits (run.accepted index) time) ∧
      ∀ times, (∀ time ∈ times, ClockFits (run.accepted index) time) →
        ((cyclicRuns run.transceiver times).isWaiting index = false ↔
          ∃ time ∈ times, TP_RECEIVE_TIMEOUT ≤ time - run.accepted index) := by
  have timed := timed_inductive.of_reachable reached
  refine ⟨?_, timed.stopsOnTime_iff waiting, ?_⟩
  · rw [TpTransceiver.isWaiting, Option.any_eq_true] at waiting
    obtain ⟨receiver, holds, active⟩ := waiting
    rw [timed.scheduled, any_eq_true]
    exact ⟨receiver, mem_of_getElem? holds, active⟩
  · intro times fits
    rw [TpTransceiver.isWaiting, Option.any_eq_true] at waiting
    obtain ⟨receiver, holds, active⟩ := waiting
    have kept := timed.keeps index receiver holds
    rw [Keeps, if_pos active] at kept
    rw [isWaiting_cyclicRuns holds active, all_eq_false]
    constructor
    · rintro ⟨time, member, expired⟩
      refine ⟨time, member, ?_⟩
      have agrees := receiver.isExpired_iff_elapsed_iff time
      rw [kept] at agrees
      exact (agrees.mpr (fits time member)).mp (by simpa using expired)
    · rintro ⟨time, member, elapsed⟩
      refine ⟨time, member, ?_⟩
      have agrees := receiver.isExpired_iff_elapsed_iff time
      rw [kept] at agrees
      simpa using (agrees.mpr (fits time member)).mpr elapsed

/-- One receiver with a small buffer. -/
def sample : TpRun Nat :=
  { transceiver := { receivers := [{ buffer := [0, 0, 0, 0] }] } }

/-- The first byte of a payload of which more follows. -/
def sampleSegment : SomeIpMessage :=
  { header := { messageId := 0x12340001, rawMessageType := 0x22 }, payload := [0, 0, 0, 1, 7] }

theorem sample_initial : Initial sample := by
  refine ⟨?_, rfl, rfl⟩
  intro receiver member
  obtain rfl := mem_singleton.mp member
  exact ⟨rfl, rfl⟩

/-- The run after the segment was received at a clock value. -/
theorem sample_reachable (time : UInt32) :
    (system Nat).Reachable (sample.receiveTpMessage 3 sampleSegment time) := by
  have performed : (system Nat).Step sample (.receiveTpMessage 3 sampleSegment time)
      (sample.receiveTpMessage 3 sampleSegment time) := rfl
  exact .step (.initial sample_initial) performed

-- The samples are evaluated.
attribute [local semireducible] Word32.modulus Word32.add Word32.sub

theorem receivers_timeOut_sample :
    let run := sample.receiveTpMessage 3 sampleSegment 4294967200
    run.transceiver.cyclicTimeout = true ∧
      (∀ time, run.StopsOnTime 0 time ↔ ClockFits (run.accepted 0) time) ∧
      ∀ times, (∀ time ∈ times, ClockFits (run.accepted 0) time) →
        ((cyclicRuns run.transceiver times).isWaiting 0 = false ↔
          ∃ time ∈ times, TP_RECEIVE_TIMEOUT ≤ time - run.accepted 0) :=
  receivers_timeOut (sample_reachable 4294967200) (by decide)

/-- A segment that was accepted at clock 0 has no timeout. -/
theorem not_stopsOnTime_zero :
    ¬∀ run : TpRun Nat, (system Nat).Reachable run → ∀ index,
      run.transceiver.isWaiting index = true → ∀ time, run.StopsOnTime index time := by
  intro always
  have onTime := always _ (sample_reachable 0) 0 (by decide) 100
  exact absurd (onTime.mpr (by decide)) (by decide)

end TpRun

end OpenBsw.Someip
