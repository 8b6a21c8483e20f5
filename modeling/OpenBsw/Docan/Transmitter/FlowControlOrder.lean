import OpenBsw.Docan.Transmitter.HandlerSystem

/-!
# Flow control before and after the transmit callback

A flow control frame may overtake the transmit callback of the frame it
answers.  The handler keeps such a frame in a sub-state until the callback
comes.  This module compares the two orders for every sequence of flow control
frames.
-/

namespace OpenBsw.Docan

namespace MessageTransmitProtocolHandler

section Orders

variable (layer : DataLinkLayer) (maxWaitCount : UInt8)

/-- Deliver flow control frames one after the other. -/
def handleFlowControls (handler : MessageTransmitProtocolHandler) (frames : List FlowControlFrame) :
    MessageTransmitProtocolHandler :=
  frames.foldl
    (fun handler frame => (handler.apply layer (.flowControl frame maxWaitCount)).1) handler

/-- Deliver the transmit callback of one frame between two groups of flow
control frames. -/
def confirmBetween (handler : MessageTransmitProtocolHandler)
    (before after : List FlowControlFrame) : MessageTransmitProtocolHandler :=
  ((handler.handleFlowControls layer maxWaitCount before).framesSent layer
    1).1.handleFlowControls layer maxWaitCount after

/-- What a transmitter sees of a handler. -/
def observe (handler : MessageTransmitProtocolHandler) :
    TransmitState × TransmitTimeout × Nat × Nat :=
  (handler.state, handler.timeout, handler.frameIndex, handler.blockEnd)

/-- A handler that waits for flow control goes on with the next CTS. -/
def AcceptsCts (handler : MessageTransmitProtocolHandler) : Prop :=
  handler.timeout = .flowControl → ∀ blockSize hasMinSeparationTime,
    (handler.handleFlowControl layer .cts blockSize hasMinSeparationTime
      maxWaitCount).1.state = .send

/-- The transmit callback may come after the frames `before` as well as before
all of them. -/
def CallbackCommutes (handler : MessageTransmitProtocolHandler)
    (before after : List FlowControlFrame) : Prop :=
  (handler.confirmBetween layer maxWaitCount before after).observe =
      (handler.confirmBetween layer maxWaitCount [] (before ++ after)).observe ∧
    (handler.confirmBetween layer maxWaitCount before after).AcceptsCts layer maxWaitCount

end Orders

variable {layer : DataLinkLayer} {maxWaitCount : UInt8} {handler : MessageTransmitProtocolHandler}

@[simp]
theorem handleFlowControls_cons (frame : FlowControlFrame) (frames : List FlowControlFrame) :
    handler.handleFlowControls layer maxWaitCount (frame :: frames) =
      (handler.apply layer (.flowControl frame maxWaitCount)).1.handleFlowControls layer
        maxWaitCount frames :=
  rfl

/-! ## Deliveries that are ignored -/

theorem handleFlowControl_of_not_expected (unexpected : handler.flowControl ≠ .expected)
    (flowStatus : FlowStatus) (blockSize : UInt8) (hasMinSeparationTime : Bool) :
    handler.handleFlowControl layer flowStatus blockSize hasMinSeparationTime maxWaitCount =
      (handler, { transition := false }) := by
  unfold handleFlowControl
  exact if_pos unexpected

/-- A handler that does not expect flow control ignores all of it. -/
theorem handleFlowControls_of_not_expected (unexpected : handler.flowControl ≠ .expected)
    (frames : List FlowControlFrame) :
    handler.handleFlowControls layer maxWaitCount frames = handler := by
  induction frames with
  | nil => rfl
  | cons frame frames ih =>
    rw [handleFlowControls, List.foldl_cons, apply,
      handleFlowControl_of_not_expected unexpected]
    exact ih

/-! ## Handlers at the end of a block -/

/-- The last frame of a block is being sent. -/
structure BlockSending (layer : DataLinkLayer) (handler : MessageTransmitProtocolHandler) :
    Prop where
  state : handler.state = .wait
  timeout : handler.timeout = .txCallback
  flowControl : handler.flowControl = .expected
  unfinished : layer.frameIndex (handler.frameIndex + 1) < handler.frameCount

theorem blockSending_of_live {source : MessageTransmitProtocolHandler} (live : source.Live layer)
    (sending : source.state = .send)
    (blockEnd : layer.frameIndex (source.frameIndex + 1) = source.blockEnd)
    (notLast : layer.frameIndex (source.frameIndex + 1) ≠ source.frameCount) :
    (source.frameSending layer).1.BlockSending layer := by
  have frameIndexLt := live.frameIndex_lt (by simp [isDone, sending])
  have countable := live.countable
  have next : layer.frameIndex (source.frameIndex + 1) = source.frameIndex + 1 := by
    rw [DataLinkLayer.frameIndexMax] at countable
    exact Nat.mod_eq_of_lt (by omega)
  have handlerEq : (source.frameSending layer).1 =
      { source with
        flowControlWaitCount := 0, state := .wait, flowControl := .expected
        timeout := .txCallback } := by
    simp only [frameSending, if_pos sending, if_pos (And.intro blockEnd notLast), setState]
  rw [handlerEq]
  refine ⟨rfl, rfl, rfl, ?_⟩
  simp only [next] at notLast ⊢
  omega

/-- The callback of a frame that is not the last moves the handler on by its
sub-state. -/
theorem framesSent_one (state : handler.state = .wait) (timeout : handler.timeout = .txCallback)
    (unfinished : layer.frameIndex (handler.frameIndex + 1) < handler.frameCount) :
    handler.framesSent layer 1 =
      afterFramesSent
        { handler with frameIndex := layer.frameIndex (handler.frameIndex + 1) } := by
  unfold framesSent
  rw [if_neg (by simp [state, timeout])]
  dsimp only
  rw [if_neg (Nat.not_le.mpr unfinished), if_neg (by simp)]

/-- Flow control a handler waits for is either used up or still awaited. -/
def Awaits (handler : MessageTransmitProtocolHandler) : Prop :=
  handler.timeout = .flowControl → handler.flowControl = .expected

theorem Awaits.acceptsCts (awaits : handler.Awaits) : handler.AcceptsCts layer maxWaitCount := by
  intro timeout blockSize hasMinSeparationTime
  unfold handleFlowControl
  rw [if_neg (by simp [awaits timeout])]
  dsimp only
  rw [if_pos timeout]
  rfl

theorem Awaits.handleFlowControl (awaits : handler.Awaits) (frame : FlowControlFrame) :
    (handler.apply layer (.flowControl frame maxWaitCount)).1.Awaits := by
  simp only [apply]
  unfold MessageTransmitProtocolHandler.handleFlowControl
  split
  · exact awaits
  split
  · dsimp only
    split
    · simp [Awaits, setSend]
    · rename_i notWaiting
      exact fun timeout => absurd timeout notWaiting
  · split
    · dsimp only
      split
      · exact fun _ => rfl
      · rename_i notWaiting
        exact fun timeout => absurd timeout notWaiting
    · simp [Awaits, setFailed]
  · simp [Awaits, setFailed]
  · simp [Awaits, setFailed]

theorem Awaits.handleFlowControls (awaits : handler.Awaits) (frames : List FlowControlFrame) :
    (handler.handleFlowControls layer maxWaitCount frames).Awaits := by
  induction frames generalizing handler with
  | nil => exact awaits
  | cons frame frames ih => exact ih (awaits.handleFlowControl frame)

/-! ## The two orders -/

/-- The handler once the callback of the last frame of a block has come and
flow control is awaited. -/
theorem framesSent_blockSending (sending : handler.BlockSending layer) :
    (handler.framesSent layer 1).1 =
      { handler with
        frameIndex := layer.frameIndex (handler.frameIndex + 1), timeout := .flowControl } := by
  rw [framesSent_one sending.state sending.timeout sending.unfinished]
  simp [afterFramesSent, sending.flowControl, setState, sending.state]

@[simp]
theorem confirmBetween_nil (frames : List FlowControlFrame) :
    handler.confirmBetween layer maxWaitCount [] frames =
      (handler.framesSent layer 1).1.handleFlowControls layer maxWaitCount frames :=
  rfl

theorem awaits_framesSent (sending : handler.BlockSending layer) :
    (handler.framesSent layer 1).1.Awaits := by
  rw [framesSent_blockSending sending]
  exact fun _ => sending.flowControl

/-- The block end a CTS sets. -/
def ctsBlockEnd (layer : DataLinkLayer) (handler : MessageTransmitProtocolHandler)
    (blockSize : UInt8) : Nat :=
  if 0 < blockSize then layer.frameIndex (handler.blockEnd + blockSize.toNat)
  else handler.frameCount

theorem apply_cts (layer : DataLinkLayer) (maxWaitCount : UInt8)
    (handler : MessageTransmitProtocolHandler) (expected : handler.flowControl = .expected)
    {frame : FlowControlFrame}
    (cts : frame.flowStatus = .cts) :
    (handler.apply layer (.flowControl frame maxWaitCount)).1 =
      if handler.timeout = .flowControl then
        { handler with
          blockEnd := handler.ctsBlockEnd layer frame.blockSize
          hasMinSeparationTime := frame.hasMinSeparationTime
          state := .send, flowControl := .unexpected, timeout := .txCallback }
      else
        { handler with
          blockEnd := handler.ctsBlockEnd layer frame.blockSize
          hasMinSeparationTime := frame.hasMinSeparationTime
          flowControl := .receivedCts } := by
  simp only [apply]
  unfold handleFlowControl
  rw [if_neg (by simp [expected]), cts]
  dsimp only
  split <;> rfl

theorem apply_wait (layer : DataLinkLayer) (expected : handler.flowControl = .expected)
    {frame : FlowControlFrame}
    (wait : frame.flowStatus = .wait) (accepted : handler.flowControlWaitCount < maxWaitCount) :
    (handler.apply layer (.flowControl frame maxWaitCount)).1 =
      if handler.timeout = .flowControl then
        { handler with
          flowControlWaitCount := handler.flowControlWaitCount + 1
          state := .wait, flowControl := .expected, timeout := .flowControl }
      else
        { handler with
          flowControlWaitCount := handler.flowControlWaitCount + 1
          flowControl := .receivedWait } := by
  simp only [apply]
  unfold handleFlowControl
  rw [if_neg (by simp [expected]), wait]
  dsimp only
  rw [if_pos accepted]
  split <;> rfl

/-- A CTS that overtakes the callback leads to the same handler. -/
theorem callbackCommutes_cts (sending : handler.BlockSending layer) {frame : FlowControlFrame}
    (cts : frame.flowStatus = .cts) (before after : List FlowControlFrame) :
    handler.CallbackCommutes layer maxWaitCount (frame :: before) after := by
  have overtaken := apply_cts layer maxWaitCount handler sending.flowControl cts
  rw [if_neg (by simp [sending.timeout])] at overtaken
  have late : handler.confirmBetween layer maxWaitCount (frame :: before) after =
      { handler with
        frameIndex := layer.frameIndex (handler.frameIndex + 1)
        blockEnd := handler.ctsBlockEnd layer frame.blockSize
        hasMinSeparationTime := frame.hasMinSeparationTime
        state := .send, flowControl := .unexpected, timeout := .txCallback } := by
    unfold confirmBetween
    rw [handleFlowControls_cons, overtaken, handleFlowControls_of_not_expected (by simp) before]
    rw [framesSent_one (by exact sending.state) (by exact sending.timeout)
      (by exact sending.unfinished)]
    exact handleFlowControls_of_not_expected (by simp [afterFramesSent, setSend]) after
  have early : handler.confirmBetween layer maxWaitCount [] (frame :: before ++ after) =
      { handler with
        frameIndex := layer.frameIndex (handler.frameIndex + 1)
        blockEnd := handler.ctsBlockEnd layer frame.blockSize
        hasMinSeparationTime := frame.hasMinSeparationTime
        state := .send, flowControl := .unexpected, timeout := .txCallback } := by
    have awaited := apply_cts layer maxWaitCount
      { handler with
        frameIndex := layer.frameIndex (handler.frameIndex + 1), timeout := .flowControl }
      sending.flowControl cts
    rw [if_pos rfl] at awaited
    rw [confirmBetween_nil, framesSent_blockSending sending, List.cons_append,
      handleFlowControls_cons, awaited]
    exact handleFlowControls_of_not_expected (by simp) _
  rw [CallbackCommutes, late, early]
  exact ⟨rfl, by simp [AcceptsCts]⟩

/-- A WAIT that overtakes the callback leaves a handler that ignores all later
flow control. -/
theorem not_callbackCommutes_wait (sending : handler.BlockSending layer)
    {frame : FlowControlFrame} (wait : frame.flowStatus = .wait)
    (accepted : handler.flowControlWaitCount < maxWaitCount)
    (before after : List FlowControlFrame) :
    ¬handler.CallbackCommutes layer maxWaitCount (frame :: before) after := by
  have overtaken := apply_wait layer sending.flowControl wait accepted
  rw [if_neg (by simp [sending.timeout])] at overtaken
  have late : handler.confirmBetween layer maxWaitCount (frame :: before) after =
      { handler with
        frameIndex := layer.frameIndex (handler.frameIndex + 1)
        flowControlWaitCount := handler.flowControlWaitCount + 1
        flowControl := .receivedWait, timeout := .flowControl } := by
    unfold confirmBetween
    rw [handleFlowControls_cons, overtaken, handleFlowControls_of_not_expected (by simp) before]
    rw [framesSent_one (by exact sending.state) (by exact sending.timeout)
      (by exact sending.unfinished)]
    simp only [afterFramesSent, setState]
    rw [handleFlowControls_of_not_expected (by simp), sending.state]
  rintro ⟨-, acceptsCts⟩
  rw [late] at acceptsCts
  have next := acceptsCts rfl 0 false
  rw [handleFlowControl_of_not_expected (by simp), sending.state] at next
  contradiction

/-- A transfer that does not fail got a CTS or an admissible WAIT first. -/
theorem flowStatus_of_alive (sending : handler.BlockSending layer)
    {frame : FlowControlFrame} {frames : List FlowControlFrame}
    (alive : (handler.confirmBetween layer maxWaitCount [] (frame :: frames)).state ≠ .fail) :
    frame.flowStatus = .cts ∨
      frame.flowStatus = .wait ∧ handler.flowControlWaitCount < maxWaitCount := by
  rw [confirmBetween_nil, framesSent_blockSending sending, handleFlowControls_cons] at alive
  by_contra rejected
  simp only [not_or, not_and] at rejected
  apply alive
  have failed : ((apply layer { handler with
      frameIndex := layer.frameIndex (handler.frameIndex + 1), timeout := .flowControl }
      (.flowControl frame maxWaitCount)).1).state = .fail ∧
      ((apply layer { handler with
        frameIndex := layer.frameIndex (handler.frameIndex + 1), timeout := .flowControl }
        (.flowControl frame maxWaitCount)).1).flowControl = .unexpected := by
    simp only [apply]
    unfold handleFlowControl
    rw [if_neg (by simp [sending.flowControl])]
    split
    · rename_i cts
      exact absurd cts rejected.1
    · rename_i wait
      rw [if_neg (rejected.2 wait)]
      exact ⟨rfl, rfl⟩
    · exact ⟨rfl, rfl⟩
    · exact ⟨rfl, rfl⟩
  rw [handleFlowControls_of_not_expected (by simp [failed.2]), failed.1]

/-- The order of callback and flow control does not matter exactly when the
first frame that overtakes the callback is no WAIT.

A WAIT before the callback is stored as a sub-state which the callback does not
turn back into an expectation, so the handler waits for flow control that it
then ignores. -/
theorem callbackCommutes_iff {source : MessageTransmitProtocolHandler}
    (reached : (system layer).Reachable source) (sending : source.state = .send)
    (blockEnd : layer.frameIndex (source.frameIndex + 1) = source.blockEnd)
    (notLast : layer.frameIndex (source.frameIndex + 1) ≠ source.frameCount)
    {before after : List FlowControlFrame}
    (alive : ((source.frameSending layer).1.confirmBetween layer maxWaitCount []
      (before ++ after)).state ≠ .fail) :
    (source.frameSending layer).1.CallbackCommutes layer maxWaitCount before after ↔
      ∀ frame ∈ before.head?, frame.flowStatus ≠ .wait := by
  have blockSending := blockSending_of_live ((live_inductive layer).of_reachable reached)
    sending blockEnd notLast
  generalize (source.frameSending layer).1 = handler at alive blockSending ⊢
  cases before with
  | nil =>
    refine iff_of_true ⟨rfl, ?_⟩ (by simp)
    exact ((awaits_framesSent blockSending).handleFlowControls after).acceptsCts
  | cons frame before =>
    rcases flowStatus_of_alive blockSending alive with cts | ⟨wait, accepted⟩
    · exact iff_of_true (callbackCommutes_cts blockSending cts before after) (by simp [cts])
    · exact iff_of_false (not_callbackCommutes_wait blockSending wait accepted before after)
        (by simp [wait])

theorem startStep (frameCount : Nat) :
    (system layer).Step (init frameCount) .start (init frameCount).start.1 :=
  ⟨fun _ => rfl, rfl⟩

theorem reachable_start {frameCount : Nat} (nonzero : 1 ≤ frameCount)
    (countable : frameCount ≤ layer.frameIndexMax) :
    (system layer).Reachable (init frameCount).start.1 :=
  .step (.initial ⟨frameCount, nonzero, countable, rfl⟩) (startStep frameCount)

/-- A CTS may come before or after the callback of the first frame. -/
theorem callbackCommutes_iff_cts :
    ((init 3).start.1.frameSending .standard).1.CallbackCommutes .standard 1
      [⟨.cts, 0, false⟩] [] :=
  (callbackCommutes_iff (reachable_start (by decide : 1 ≤ 3) (by decide)) rfl (by decide)
    (by decide) (by decide)).mpr
    (by decide)

/-- A WAIT before the callback of the first frame and a CTS after it: the
transfer of three frames is stuck, although it goes on when both come after
the callback. -/
theorem not_callbackCommutes_waitThenCts :
    (system .standard).Reachable (init 3).start.1 ∧
      ¬((init 3).start.1.frameSending .standard).1.CallbackCommutes .standard 1
        [⟨.wait, 0, false⟩] [⟨.cts, 0, false⟩] ∧
      (((init 3).start.1.frameSending .standard).1.confirmBetween .standard 1 []
        [⟨.wait, 0, false⟩, ⟨.cts, 0, false⟩]).state = .send := by
  refine ⟨reachable_start (by decide) (by decide), ?_, by decide⟩
  rintro ⟨same, -⟩
  revert same
  decide

end MessageTransmitProtocolHandler

end OpenBsw.Docan
