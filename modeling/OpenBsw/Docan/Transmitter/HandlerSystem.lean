import OpenBsw.Docan.Transmitter.ProtocolHandler

/-!
# Runs of a transmit protocol handler

The events of a handler in any order, and what holds of every handler that
comes out of them: a transfer that is not done has frames left, and one that is
done has nothing pending.
-/

namespace OpenBsw.Docan

structure FlowControlFrame where
  flowStatus : FlowStatus
  blockSize : UInt8
  hasMinSeparationTime : Bool
  deriving DecidableEq

/-- The events of a handler. -/
inductive TransmitEvent where
  | start
  | frameSending
  | framesSent (frameCount : Nat)
  | flowControl (frame : FlowControlFrame) (maxWaitCount : UInt8)
  | expired
  | cancel (message : TransmitMessage)

namespace MessageTransmitProtocolHandler

section System

variable (layer : DataLinkLayer)

def apply (handler : MessageTransmitProtocolHandler) :
    TransmitEvent → MessageTransmitProtocolHandler × TransmitResult
  | .start => handler.start
  | .frameSending => handler.frameSending layer
  | .framesSent frameCount => handler.framesSent layer frameCount
  | .flowControl frame maxWaitCount =>
    handler.handleFlowControl layer frame.flowStatus frame.blockSize
      frame.hasMinSeparationTime maxWaitCount
  | .expired => handler.expired
  | .cancel message => handler.cancel message

/-- Handlers of messages with at least one frame.  A transfer is started once,
after initialization. -/
def system : Transition.System MessageTransmitProtocolHandler TransmitEvent where
  Initial handler := ∃ frameCount, 1 ≤ frameCount ∧ frameCount ≤ layer.frameIndexMax ∧
    handler = init frameCount
  Step source event target :=
    (event = .start → source.state = .initialized) ∧ target = (source.apply layer event).1

/-- A transfer that is not done has frames left, and one that is done neither
expects flow control nor waits for a timeout. -/
structure Live (handler : MessageTransmitProtocolHandler) : Prop where
  countable : handler.frameCount ≤ layer.frameIndexMax
  frameIndex_lt : handler.isDone = false → handler.frameIndex < handler.frameCount
  settled : handler.isDone = true →
    handler.flowControl = .unexpected ∧ handler.timeout = .none

end System

variable {layer : DataLinkLayer} {handler : MessageTransmitProtocolHandler}

/-! ## Transfers that are done stay done -/

theorem Live.of_running (countable : handler.frameCount ≤ layer.frameIndexMax)
    (frameIndexLt : handler.frameIndex < handler.frameCount) (active : handler.isDone = false) :
    handler.Live layer where
  countable := countable
  frameIndex_lt _ := frameIndexLt
  settled done := by simp [active] at done

theorem Live.init {frameCount : Nat} (nonzero : 1 ≤ frameCount)
    (countable : frameCount ≤ layer.frameIndexMax) : (init frameCount).Live layer :=
  .of_running countable nonzero rfl

theorem Live.setFailed (live : handler.Live layer) (message : TransmitMessage) (param : UInt8) :
    (handler.setFailed message param).1.Live layer where
  countable := live.countable
  frameIndex_lt active := by simp [isDone, MessageTransmitProtocolHandler.setFailed] at active
  settled _ := ⟨rfl, rfl⟩

/-- A handler that expects flow control or waits for a timeout is running. -/
theorem Live.active (live : handler.Live layer)
    (waiting : handler.flowControl ≠ .unexpected ∨ handler.timeout ≠ .none) :
    handler.isDone = false := by
  by_contra done
  have settled := live.settled (by simpa using done)
  simp [settled.1, settled.2] at waiting

theorem Live.frameSending (live : handler.Live layer) :
    (handler.frameSending layer).1.Live layer := by
  unfold MessageTransmitProtocolHandler.frameSending
  split
  · rename_i sending
    have frameIndexLt := live.frameIndex_lt (by simp [isDone, sending])
    dsimp only
    split
    · exact .of_running live.countable frameIndexLt rfl
    · exact .of_running live.countable frameIndexLt rfl
  · exact live.setFailed _ _

theorem Live.afterFramesSent (countable : handler.frameCount ≤ layer.frameIndexMax)
    (frameIndexLt : handler.frameIndex < handler.frameCount) :
    handler.afterFramesSent.1.Live layer := by
  unfold MessageTransmitProtocolHandler.afterFramesSent
  split
  · exact .of_running countable frameIndexLt rfl
  · exact .of_running countable frameIndexLt rfl
  · exact .of_running countable frameIndexLt rfl
  · split <;> exact .of_running countable frameIndexLt rfl

theorem Live.framesSent (live : handler.Live layer) (frameCount : Nat) :
    (handler.framesSent layer frameCount).1.Live layer := by
  unfold MessageTransmitProtocolHandler.framesSent
  split
  · exact live
  dsimp only
  split
  · exact ⟨live.countable, by simp [isDone, setState], fun _ => ⟨rfl, rfl⟩⟩
  rename_i unfinished
  split
  · rename_i block
    exact .afterFramesSent live.countable
      (Nat.lt_of_le_of_lt block.2 (Nat.lt_of_not_le unfinished))
  · exact .afterFramesSent live.countable (Nat.lt_of_not_le unfinished)

theorem Live.handleFlowControl (live : handler.Live layer) (flowStatus : FlowStatus)
    (blockSize : UInt8) (hasMinSeparationTime : Bool) (maxWaitCount : UInt8) :
    (handler.handleFlowControl layer flowStatus blockSize hasMinSeparationTime
      maxWaitCount).1.Live layer := by
  unfold MessageTransmitProtocolHandler.handleFlowControl
  split
  · exact live
  rename_i expected
  have active := live.active (.inl (by simp [Decidable.not_not.mp expected]))
  have frameIndexLt := live.frameIndex_lt active
  split
  · dsimp only
    split
    · exact .of_running live.countable frameIndexLt rfl
    · exact .of_running live.countable frameIndexLt active
  · split
    · dsimp only
      split
      · exact .of_running live.countable frameIndexLt rfl
      · exact .of_running live.countable frameIndexLt active
    · exact live.setFailed _ _
  · exact live.setFailed _ _
  · exact live.setFailed _ _

theorem Live.expired (live : handler.Live layer) : handler.expired.1.Live layer := by
  unfold MessageTransmitProtocolHandler.expired
  split
  · exact live.setFailed _ _
  · exact live.setFailed _ _
  · rename_i separation
    exact .of_running live.countable
      (live.frameIndex_lt (live.active (.inr (by simp [separation])))) rfl
  · exact live

theorem live_inductive (layer : DataLinkLayer) : (system layer).Inductive (Live layer) where
  initial := by
    rintro _ ⟨frameCount, nonzero, countable, rfl⟩
    exact .init nonzero countable
  step := by
    rintro source event target live ⟨startable, rfl⟩
    cases event with
    | start =>
      have fresh : source.isDone = false := by simp [isDone, startable rfl]
      exact .of_running live.countable (live.frameIndex_lt fresh) rfl
    | frameSending => exact live.frameSending
    | framesSent frameCount => exact live.framesSent frameCount
    | flowControl frame maxWaitCount => exact live.handleFlowControl _ _ _ _
    | expired => exact live.expired
    | cancel message => exact live.setFailed _ _

end MessageTransmitProtocolHandler

end OpenBsw.Docan
