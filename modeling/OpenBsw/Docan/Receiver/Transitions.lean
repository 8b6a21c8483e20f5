import OpenBsw.Docan.Receiver.Actions

/-!
# Transitions of one message receiver

Between operations a message receiver waits for an event.  Within an operation
it goes through states the loop of `handleTransitions` leaves again.  Each
transition is specified by the state it leads to, the actions it takes and a
measure that bounds how often the timer of the receiver can expire.
-/

namespace OpenBsw.Docan

open OpenBsw.Transport

namespace MessageReceiveProtocolHandler

/-! ## States of a handler with its message -/

/-- Exactly the handlers that allocate have no message, and only they count
retries; a single frame is retried once. -/
structure Balanced (handler : MessageReceiveProtocolHandler) (message : Option TransportMessage) :
    Prop where
  allocating_iff : handler.isAllocating = true ↔ message = none
  retry_zero : handler.isAllocating = false → handler.allocateRetryCount = 0
  retry_le : handler.frameCount = 1 → handler.allocateRetryCount ≤ 1

/-- The timeout of a waiting handler: for a frame, or for the next allocation. -/
def WaitsFor (handler : MessageReceiveProtocolHandler) : Prop :=
  handler.timeout = .rx ∨ handler.timeout = .allocate ∧ handler.isAllocating = true

/-- What a transition relies on in each state. -/
def Ready (handler : MessageReceiveProtocolHandler) (message : Option TransportMessage) : Prop :=
  match handler.state with
  | .allocate => handler.Balanced message ∧ handler.isAllocating = true
  | .wait => handler.Balanced message ∧ handler.WaitsFor
  | .send => handler.Balanced message ∧ handler.timeout = .none
  | .processing => message.isSome = true ∧ handler.isAllocating = false
  | .done => handler.isAllocating = false

/-- What handlers in the list are like between operations: they wait with a
running timer, or they are left over with a flow control frame that could not
be sent.  `always` says that every flow control frame can be sent. -/
structure Resting (always : Prop) (handler : MessageReceiveProtocolHandler)
    (message : Option TransportMessage) (isTimerSet : Bool) : Prop where
  balanced : handler.Balanced message
  waits : handler.state = .wait ∧ handler.WaitsFor ∧ isTimerSet = true ∨
    ¬always ∧ handler.state = .send ∧ handler.timeout = .none

/-- Bounds how often the timer can expire before the handler is done. -/
def patience (handler : MessageReceiveProtocolHandler) : Nat :=
  match handler.state with
  | .allocate => 256 - handler.allocateRetryCount.toNat
  | .wait =>
    if handler.timeout = .allocate then 257 - handler.allocateRetryCount.toNat else 1
  | .send =>
    if handler.isFlowControlWait then 257 - handler.allocateRetryCount.toNat else 1
  | .processing => 0
  | .done => 0

/-- The number of rounds the loop of `handleTransitions` takes from a state. -/
def rounds (handler : MessageReceiveProtocolHandler) : Nat :=
  match handler.state with
  | .allocate => 3
  | .send => 2
  | .processing => 2
  | .wait => 1
  | .done => 1

theorem rounds_le_three (handler : MessageReceiveProtocolHandler) : handler.rounds ≤ 3 := by
  unfold rounds
  split <;> omega

theorem Resting.state_ne_done {always : Prop} {handler : MessageReceiveProtocolHandler}
    {message : Option TransportMessage} {isTimerSet : Bool}
    (resting : handler.Resting always message isTimerSet) : handler.state ≠ .done := by
  rcases resting.waits with ⟨state, _⟩ | ⟨_, state, _⟩
  · rw [state]
    decide
  · rw [state]
    decide

/-! ## Transitions of the handler -/

/-- What is kept and what is reached by a transition without a frame. -/
structure Advances (source target : MessageReceiveProtocolHandler)
    (message : Option TransportMessage) (rounds patience : Nat) : Prop where
  frameIndex_eq : target.frameIndex = source.frameIndex
  frameCount_eq : target.frameCount = source.frameCount
  allocating : target.isAllocating = true → source.isAllocating = true
  ready : target.Ready message
  rounds_le : target.rounds ≤ rounds
  patience_le : target.patience ≤ patience

variable {handler : MessageReceiveProtocolHandler}

variable (handler) in
theorem advances_setDone (message : Option TransportMessage) (receiveMessage : ReceiveMessage)
    (param : UInt8) (patience : Nat) :
    handler.Advances (handler.setDone receiveMessage param).1 message 1 patience where
  frameIndex_eq := rfl
  frameCount_eq := rfl
  allocating := nofun
  ready := rfl
  rounds_le := Nat.le_refl 1
  patience_le := Nat.zero_le _

theorem advances_allocated_true (message : TransportMessage) (maxRetryCount : UInt8)
    (allocating : handler.isAllocating = true) :
    handler.Advances (handler.allocated true maxRetryCount).1 (some message) 2 1 ∧
      (handler.allocated true maxRetryCount).2.transition = true ∧
      (handler.allocated true maxRetryCount).1.isAllocating = false ∧
      ((handler.allocated true maxRetryCount).1.state = .processing ↔ handler.frameCount = 1) := by
  have allocatedEq : handler.allocated true maxRetryCount =
      ({ handler with
          isAllocating := false
          allocateRetryCount := 0
          state := if handler.frameCount = 1 then .processing else .send
          timeout := .none },
        { transition := true }) := by
    simp [allocated, allocating, setState]
  rw [allocatedEq]
  by_cases single : handler.frameCount = 1
  · rw [if_pos single]
    exact ⟨⟨rfl, rfl, nofun, ⟨rfl, rfl⟩, Nat.le_refl 2, Nat.zero_le _⟩,
      rfl, rfl, iff_of_true rfl single⟩
  · rw [if_neg single]
    refine ⟨⟨rfl, rfl, nofun, ⟨⟨?_, fun _ => rfl, ?_⟩, rfl⟩,
      Nat.le_refl 2, ?_⟩, rfl, rfl, iff_of_false nofun single⟩
    · simp
    · exact fun _ => UInt8.zero_le
    · simp [patience, isFlowControlWait]

theorem toNat_succ_cases (count : UInt8) :
    count + 1 = 0 ∧ count.toNat = 255 ∨
      0 < count + 1 ∧ (count + 1).toNat = count.toNat + 1 := by
  have bound := count.toNat_lt
  have succEq : (count + 1).toNat = (count.toNat + 1) % 256 := by
    rw [UInt8.toNat_add]
    rfl
  by_cases wraps : count.toNat = 255
  · left
    refine ⟨UInt8.toNat_inj.mp ?_, wraps⟩
    rw [succEq, wraps]
    rfl
  · right
    have small : (count + 1).toNat = count.toNat + 1 := by omega
    refine ⟨UInt8.lt_iff_toNat_lt.mpr ?_, small⟩
    rw [small]
    exact Nat.succ_pos _

/-- A failed allocation ends the reception, or it is counted and the handler
waits for the next one, for a segmented message after a flow control frame.
Behind 255 the count starts again at zero, and the handler waits for frames. -/
theorem advances_allocated_false (maxRetryCount : UInt8) (balanced : handler.Balanced none)
    (allocating : handler.isAllocating = true) :
    handler.Advances (handler.allocated false maxRetryCount).1 none 2
        (256 - handler.allocateRetryCount.toNat) ∧
      (handler.allocated false maxRetryCount).2.transition = true ∧
      (handler.allocated false maxRetryCount).1.state ≠ .processing := by
  have counted := toNat_succ_cases handler.allocateRetryCount
  by_cases single : handler.frameCount = 1
  · by_cases exceeded : 1 < handler.allocateRetryCount + 1
    · have doneEq : handler.allocated false maxRetryCount =
          { handler with allocateRetryCount := handler.allocateRetryCount + 1 }.setDone
            .allocationRetryCountExceeded 0 := by
        simp [allocated, allocating, single, exceeded]
      rw [doneEq]
      exact ⟨⟨rfl, rfl, nofun, rfl, Nat.le_succ 1, Nat.zero_le _⟩, rfl, nofun⟩
    · have waitEq : handler.allocated false maxRetryCount =
          { handler with allocateRetryCount := handler.allocateRetryCount + 1 }.setState
            .wait .allocate := by
        simp [allocated, allocating, single, exceeded]
      have countLe : (handler.allocateRetryCount + 1).toNat ≤ 1 :=
        UInt8.le_iff_toNat_le.mp (UInt8.not_lt.mp exceeded)
      have retryLe : handler.allocateRetryCount.toNat ≤ 1 :=
        UInt8.le_iff_toNat_le.mp (balanced.retry_le single)
      rw [waitEq]
      refine ⟨⟨rfl, rfl, id, ⟨⟨balanced.allocating_iff, ?_, fun _ => ?_⟩, .inr ⟨rfl, allocating⟩⟩,
        Nat.le_succ 1, ?_⟩, rfl, nofun⟩
      · intro settled
        rw [setState, allocating] at settled
        cases settled
      · exact UInt8.not_lt.mp exceeded
      · simp only [patience, setState, if_true]
        omega
  · by_cases exceeded : maxRetryCount < handler.allocateRetryCount + 1
    · have doneEq : handler.allocated false maxRetryCount =
          { handler with allocateRetryCount := handler.allocateRetryCount + 1 }.setDone
            .allocationRetryCountExceeded 0 := by
        simp [allocated, allocating, single, exceeded]
      rw [doneEq]
      exact ⟨⟨rfl, rfl, nofun, rfl, Nat.le_succ 1, Nat.zero_le _⟩, rfl, nofun⟩
    · have sendEq : handler.allocated false maxRetryCount =
          { handler with allocateRetryCount := handler.allocateRetryCount + 1 }.setState
            .send .none := by
        simp [allocated, allocating, single, exceeded]
      rw [sendEq]
      refine ⟨⟨rfl, rfl, id, ⟨⟨balanced.allocating_iff, ?_, fun again => absurd again single⟩,
        rfl⟩, Nat.le_refl 2, ?_⟩, rfl, nofun⟩
      · intro settled
        rw [setState, allocating] at settled
        cases settled
      · have bound := handler.allocateRetryCount.toNat_lt
        rcases counted with ⟨zero, full⟩ | ⟨_, succEq⟩
        · simp [patience, setState, isFlowControlWait, zero, full]
        · simp only [patience, setState, succEq]
          generalize isFlowControlWait _ = wait
          cases wait with
          | true => simp only [if_true]; omega
          | false => simp only [Bool.false_eq_true, if_false]; omega

theorem advances_frameSent {message : Option TransportMessage} (balanced : handler.Balanced message)
    (state : handler.state = .send) :
    handler.Advances (handler.frameSent true).1 message 1 handler.patience ∧
      (handler.frameSent true).2.transition = true ∧
      (handler.frameSent true).1.state = .wait := by
  have sentEq : handler.frameSent true =
      handler.setState .wait (if handler.isFlowControlWait then .allocate else .rx) := by
    simp [frameSent, state]
  rw [sentEq]
  refine ⟨⟨rfl, rfl, id, ⟨⟨balanced.allocating_iff, balanced.retry_zero, balanced.retry_le⟩, ?_⟩,
    Nat.le_refl 1, ?_⟩, rfl, rfl⟩
  · by_cases wait : handler.isFlowControlWait = true
    · refine .inr ⟨if_pos wait, ?_⟩
      by_contra settled
      have zero := balanced.retry_zero (eq_false_of_ne_true settled)
      rw [isFlowControlWait, zero] at wait
      simp at wait
    · exact .inl (if_neg wait)
  · simp only [patience, setState, state]
    by_cases wait : handler.isFlowControlWait = true <;> simp [wait]

/-- A consecutive frame is ignored, it ends the reception, or it advances the
frame index. -/
theorem consecutiveFrameReceived_cases (handler : MessageReceiveProtocolHandler)
    (layer : DataLinkLayer) (sequenceNumber maxBlockSize : UInt8) :
    (handler.state ≠ .wait ∨ handler.timeout ≠ .rx) ∧
        handler.consecutiveFrameReceived layer sequenceNumber maxBlockSize =
          (handler, { transition := false }) ∨
      handler.state = .wait ∧ handler.timeout = .rx ∧
        handler.frameIndex &&& 0xF ≠ sequenceNumber.toNat ∧
        handler.consecutiveFrameReceived layer sequenceNumber maxBlockSize =
          handler.setDone .badSequenceNumber sequenceNumber ∨
      handler.state = .wait ∧ handler.timeout = .rx ∧
        handler.frameIndex &&& 0xF = sequenceNumber.toNat ∧
        ∃ blockFrameIndex state timeout,
          handler.consecutiveFrameReceived layer sequenceNumber maxBlockSize =
            ({ handler with
                frameIndex := layer.frameIndex (handler.frameIndex + 1)
                blockFrameIndex
                state
                timeout },
              { transition := true }) ∧
            (layer.frameIndex (handler.frameIndex + 1) = handler.frameCount ∧
                state = .processing ∧ timeout = .none ∨
              layer.frameIndex (handler.frameIndex + 1) ≠ handler.frameCount ∧
                (state = .send ∧ timeout = .none ∨ state = .wait ∧ timeout = .rx)) := by
  unfold consecutiveFrameReceived
  by_cases ignored : handler.state ≠ .wait ∨ handler.timeout ≠ .rx
  · rw [if_pos ignored]
    exact .inl ⟨ignored, rfl⟩
  rw [if_neg ignored]
  obtain ⟨waits, timeout⟩ := not_or.mp ignored
  replace waits := not_not.mp waits
  replace timeout := not_not.mp timeout
  by_cases bad : handler.frameIndex &&& 0xF ≠ sequenceNumber.toNat
  · rw [if_pos bad]
    exact .inr (.inl ⟨waits, timeout, bad, rfl⟩)
  rw [if_neg bad]
  refine .inr (.inr ⟨waits, timeout, not_not.mp bad, ?_⟩)
  by_cases last : layer.frameIndex (handler.frameIndex + 1) = handler.frameCount
  · simp only [if_pos last]
    exact ⟨_, _, _, rfl, .inl ⟨last, rfl, rfl⟩⟩
  simp only [if_neg last]
  by_cases blocks : 0 < maxBlockSize
  · rw [if_pos blocks]
    split
    · exact ⟨_, _, _, rfl, .inr ⟨last, .inl ⟨rfl, rfl⟩⟩⟩
    · exact ⟨_, _, _, rfl, .inr ⟨last, .inr ⟨rfl, rfl⟩⟩⟩
  · rw [if_neg blocks]
    exact ⟨_, _, _, rfl, .inr ⟨last, .inr ⟨rfl, rfl⟩⟩⟩

end MessageReceiveProtocolHandler

namespace MessageReceiver

variable {Address : Type}

/-- What message receivers are like behind their transitions, before finished
ones are removed. -/
def AtRest (always : Prop) (receiver : MessageReceiver Address) : Prop :=
  receiver.handler.Resting always receiver.message receiver.isTimerSet ∨
    receiver.handler.state = .done ∧ receiver.handler.isAllocating = false ∧
      receiver.message = none

@[simp]
theorem isDone_setTimer (receiver : MessageReceiver Address) (timer : UInt32) :
    (receiver.setTimer timer).isDone = receiver.isDone :=
  rfl

theorem steady_setTimer (receiver : MessageReceiver Address) (timer : UInt32) :
    receiver.Steady (receiver.setTimer timer) :=
  { SameReception.refl receiver with
    message_eq := rfl, allocating := id, processing := id, ending := fun _ ended => ended }

end MessageReceiver

end OpenBsw.Docan
