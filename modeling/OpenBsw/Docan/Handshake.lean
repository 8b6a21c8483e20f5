import OpenBsw.Docan.Receiver.ProtocolHandler
import OpenBsw.Docan.Transmitter.FlowControlOrder

/-!
# The two protocol handlers of one message

A transmit and a receive handler for the same frame count, with an in-order
lossless channel in each direction.  Frames are written, delivered and
confirmed in any interleaving, and so are flow control frames.  The receiver
gets its transport message at the first attempt and can always send flow
control.
-/

namespace OpenBsw.Docan

/-- The parties, the frames in flight, and what an observer records: the
results the receiver returned for consecutive frames, the block size of the
last flow control the sender received and the frames it sent since. -/
structure Link where
  sender : MessageTransmitProtocolHandler
  receiver : Option MessageReceiveProtocolHandler := none
  unconfirmed : Nat := 0
  frames : List Nat := []
  flowControls : List FlowControlFrame := []
  results : List ReceiveResult := []
  lastBlockSize : Option UInt8 := none
  sentSince : Nat := 0

inductive LinkEvent where
  | start
  | sendFrame
  | confirm
  | separationExpired
  | deliverFrame
  | deliverFlowControl (maxWaitCount : UInt8)
  | allocate (maxRetryCount : UInt8)
  | sendFlowControl (hasMinSeparationTime : Bool)

namespace Link

section System

variable (layer : DataLinkLayer) (frameCount : Nat) (maxBlockSize : UInt8)

/-- The receiver's side of a delivered frame: the first frame creates the
handler, a consecutive frame carries the low bits of its index. -/
def deliver (link : Link) (frameIndex : Nat) : Link :=
  if frameIndex = 0 then { link with receiver := some (.init frameCount) }
  else
    match link.receiver with
    | none => { link with results := link.results ++ [{ transition := false }] }
    | some handler =>
      let (receiver, result) :=
        handler.consecutiveFrameReceived layer (UInt8.ofNat (frameIndex % 16)) maxBlockSize
      { link with receiver := some receiver, results := link.results ++ [result] }

/-- The flow control frame a receiver in state `send` emits. -/
def flowControl (handler : MessageReceiveProtocolHandler) (hasMinSeparationTime : Bool) :
    FlowControlFrame :=
  if handler.isFlowControlWait then ⟨.wait, 0, false⟩
  else ⟨.cts, maxBlockSize, hasMinSeparationTime⟩

/-- One step of the link, if it is enabled. -/
def next (link : Link) : LinkEvent → Option Link
  | .start =>
    if link.sender.state = .initialized then some { link with sender := link.sender.start.1 }
    else none
  | .sendFrame =>
    if link.sender.state = .send then
      some
        { link with
          sender := (link.sender.frameSending layer).1
          unconfirmed := link.unconfirmed + 1
          frames := link.frames ++ [link.sender.frameIndex]
          sentSince := link.sentSince + 1 }
    else none
  | .confirm =>
    if 0 < link.unconfirmed then
      some
        { link with
          sender := (link.sender.framesSent layer 1).1
          unconfirmed := link.unconfirmed - 1 }
    else none
  | .separationExpired =>
    if link.sender.timeout = .separationTime then
      some { link with sender := link.sender.expired.1 }
    else none
  | .deliverFrame =>
    match link.frames with
    | [] => none
    | frameIndex :: frames =>
      some ({ link with frames }.deliver layer frameCount maxBlockSize frameIndex)
  | .deliverFlowControl maxWaitCount =>
    match link.flowControls with
    | [] => none
    | frame :: flowControls =>
      some
        { link with
          sender := (link.sender.apply layer (.flowControl frame maxWaitCount)).1
          flowControls
          lastBlockSize := some frame.blockSize
          sentSince := 0 }
  | .allocate maxRetryCount =>
    match link.receiver with
    | none => none
    | some handler =>
      if handler.state = .allocate then
        some { link with receiver := some (handler.allocated true maxRetryCount).1 }
      else none
  | .sendFlowControl hasMinSeparationTime =>
    match link.receiver with
    | none => none
    | some handler =>
      if handler.state = .send then
        some
          { link with
            receiver := some (handler.frameSent true).1
            flowControls :=
              link.flowControls ++ [flowControl maxBlockSize handler hasMinSeparationTime] }
      else none

def system : Transition.System Link LinkEvent where
  Initial link := link = { sender := .init frameCount }
  Step source event target := source.next layer frameCount maxBlockSize event = some target

/-- The sender has sent at most one block since the last flow control. -/
def WithinBlock (link : Link) : Prop :=
  match link.lastBlockSize with
  | none => link.sentSince ≤ 1
  | some blockSize =>
    if blockSize = 0 then link.sentSince < frameCount else link.sentSince ≤ blockSize.toNat

/-- Both parties have completed a message of `frameCount` frames. -/
def Complete (link : Link) : Prop :=
  link.sender.state = .success ∧ link.sender.frameIndex = frameCount ∧
    ∃ handler, link.receiver = some handler ∧ handler.state = .processing ∧
      handler.frameIndex = frameCount ∧ link.results.length + 1 = frameCount

end System

/-! ## The sender's phases -/

/-- What a sender waits for after `sent` frames when the block it may send ends
at `blockEnd`. -/
inductive SenderPhase (frameCount blockEnd sent : Nat) :
    Nat → TransmitState → TransmitTimeout → FlowControl → Prop
  | initialized (nothing : sent = 0) (first : blockEnd = 1) :
      SenderPhase frameCount blockEnd sent 0 .initialized .none .unexpected
  | sending (unfinished : sent < frameCount) (inside : sent < blockEnd) :
      SenderPhase frameCount blockEnd sent 0 .send .txCallback .unexpected
  | confirming (inside : sent = frameCount ∨ sent < blockEnd) :
      SenderPhase frameCount blockEnd sent 1 .wait .txCallback .unexpected
  | confirmingBlock (unfinished : sent < frameCount) (full : sent = blockEnd) :
      SenderPhase frameCount blockEnd sent 1 .wait .txCallback .expected
  | granted (unfinished : sent < frameCount) (inside : sent < blockEnd) :
      SenderPhase frameCount blockEnd sent 1 .wait .txCallback .receivedCts
  | awaiting (unfinished : sent < frameCount) (full : sent = blockEnd) :
      SenderPhase frameCount blockEnd sent 0 .wait .flowControl .expected
  | separating (unfinished : sent < frameCount) (inside : sent < blockEnd) :
      SenderPhase frameCount blockEnd sent 0 .wait .separationTime .unexpected
  | success (finished : sent = frameCount) :
      SenderPhase frameCount blockEnd sent 0 .success .none .unexpected

/-- A sender with the true end of its block, which the handler stores modulo
the frame index type. -/
structure SenderAt (layer : DataLinkLayer) (frameCount blockEnd sent unconfirmed : Nat)
    (handler : MessageTransmitProtocolHandler) : Prop where
  frameCount_eq : handler.frameCount = frameCount
  blockEnd_eq : handler.blockEnd = layer.frameIndex blockEnd
  frameIndex_eq : handler.frameIndex + unconfirmed = sent
  sent_le : sent ≤ frameCount
  sent_le_blockEnd : sent ≤ blockEnd
  blockEnd_near : blockEnd ≤ sent + 255 ∨ blockEnd ≤ frameCount
  phase : SenderPhase frameCount blockEnd sent unconfirmed handler.state handler.timeout
    handler.flowControl

section Sender

variable {layer : DataLinkLayer} {frameCount blockEnd sent unconfirmed : Nat}
variable {handler : MessageTransmitProtocolHandler}

/-- The wrapped block end never equals the next frame index by accident. -/
theorem frameIndex_eq_blockEnd_iff (wide : 8 ≤ layer.frameIndexBits)
    (countable : frameCount ≤ layer.frameIndexMax) (unfinished : sent < frameCount)
    (near : blockEnd ≤ sent + 255 ∨ blockEnd ≤ frameCount) :
    sent + 1 = layer.frameIndex blockEnd ↔ sent + 1 = blockEnd := by
  have large : 2 ^ 8 ≤ 2 ^ layer.frameIndexBits := Nat.pow_le_pow_right (by decide) wide
  rw [DataLinkLayer.frameIndexMax] at countable
  rw [DataLinkLayer.frameIndex]
  generalize 2 ^ layer.frameIndexBits = modulus at large countable ⊢
  by_cases small : blockEnd < modulus
  · rw [Nat.mod_eq_of_lt small]
  · have wrapped : blockEnd % modulus = blockEnd - modulus := by
      rw [Nat.mod_eq_sub_mod (by omega), Nat.mod_eq_of_lt (by omega)]
    omega

theorem SenderAt.start (sender : SenderAt layer frameCount blockEnd sent unconfirmed handler)
    (nonzero : 0 < frameCount) (initialized : handler.state = .initialized) :
    SenderAt layer frameCount blockEnd sent unconfirmed handler.start.1 := by
  have phase := sender.phase
  rw [initialized] at phase
  generalize handler.timeout = timeout, handler.flowControl = flowControl at phase
  cases phase with
  | initialized nothing first => exact { sender with phase := .sending (by omega) (by omega) }

theorem SenderAt.frameSending (sender : SenderAt layer frameCount blockEnd sent unconfirmed handler)
    (wide : 8 ≤ layer.frameIndexBits) (countable : frameCount ≤ layer.frameIndexMax)
    (sending : handler.state = .send) :
    sent < frameCount ∧ sent < blockEnd ∧ unconfirmed = 0 ∧ handler.frameIndex = sent ∧
      SenderAt layer frameCount blockEnd (sent + 1) 1 (handler.frameSending layer).1 := by
  have phase := sender.phase
  have frameIndexEq := sender.frameIndex_eq
  have near := sender.blockEnd_near
  rw [sending] at phase
  generalize handler.timeout = timeout, handler.flowControl = flowControl at phase
  cases phase with
  | sending unfinished inside =>
    refine ⟨unfinished, inside, rfl, frameIndexEq, ?_⟩
    have next : layer.frameIndex (handler.frameIndex + 1) = sent + 1 := by
      rw [DataLinkLayer.frameIndexMax] at countable
      rw [DataLinkLayer.frameIndex, Nat.mod_eq_of_lt (by omega)]
      omega
    have match_iff := frameIndex_eq_blockEnd_iff wide countable unfinished near
    unfold MessageTransmitProtocolHandler.frameSending
    rw [if_pos sending]
    simp only [next, sender.blockEnd_eq, sender.frameCount_eq, match_iff]
    split
    · refine ⟨rfl, rfl, ?_, ?_, ?_, ?_, ?_⟩
      · exact congrArg (· + 1) frameIndexEq
      · omega
      · omega
      · omega
      · exact .confirmingBlock (by omega) (by omega)
    · refine ⟨sender.frameCount_eq, sender.blockEnd_eq, ?_, ?_, ?_, ?_, ?_⟩
      · exact congrArg (· + 1) frameIndexEq
      · omega
      · omega
      · omega
      · exact .confirming (by omega)

theorem SenderAt.framesSent (sender : SenderAt layer frameCount blockEnd sent unconfirmed handler)
    (countable : frameCount ≤ layer.frameIndexMax) (pending : 0 < unconfirmed) :
    SenderAt layer frameCount blockEnd sent (unconfirmed - 1) (handler.framesSent layer 1).1 := by
  have phase := sender.phase
  have frameIndexEq := sender.frameIndex_eq
  have sentLe := sender.sent_le
  -- all phases with an unconfirmed frame wait for the callback
  have waiting : handler.state = .wait ∧ handler.timeout = .txCallback ∧ unconfirmed = 1 := by
    generalize handler.state = state, handler.timeout = timeout,
      handler.flowControl = flowControl at phase
    cases phase <;> simp_all
  obtain ⟨state, timeout, rfl⟩ := waiting
  have next : layer.frameIndex (handler.frameIndex + 1) = sent := by
    rw [DataLinkLayer.frameIndexMax] at countable
    rw [DataLinkLayer.frameIndex, Nat.mod_eq_of_lt (by omega)]
    exact frameIndexEq
  by_cases finished : sent = frameCount
  · unfold MessageTransmitProtocolHandler.framesSent
    rw [if_neg (by simp [state, timeout])]
    dsimp only
    rw [next, if_pos (by rw [sender.frameCount_eq]; omega)]
    exact
      { sender with
        frameIndex_eq := rfl
        phase := .success finished }
  · have unfinished : sent < frameCount := by omega
    rw [MessageTransmitProtocolHandler.framesSent_one state timeout
      (by rw [next, sender.frameCount_eq]; exact unfinished), next]
    generalize flowControlEq : handler.flowControl = flowControl at phase
    rw [state, timeout] at phase
    unfold MessageTransmitProtocolHandler.afterFramesSent
    dsimp only
    cases phase with
    | confirming inside =>
      have inside : sent < blockEnd := by omega
      dsimp only
      split
      · exact { sender with frameIndex_eq := rfl, phase := .separating unfinished inside }
      · exact { sender with frameIndex_eq := rfl, phase := .sending unfinished inside }
    | confirmingBlock _ full =>
      exact { sender with frameIndex_eq := rfl, phase := .awaiting unfinished full }
    | granted _ inside =>
      exact { sender with frameIndex_eq := rfl, phase := .sending unfinished inside }

theorem SenderAt.expired (sender : SenderAt layer frameCount blockEnd sent unconfirmed handler)
    (separating : handler.timeout = .separationTime) :
    SenderAt layer frameCount blockEnd sent unconfirmed handler.expired.1 := by
  have phase := sender.phase
  rw [separating] at phase
  unfold MessageTransmitProtocolHandler.expired
  rw [separating]
  generalize handler.state = state, handler.flowControl = flowControl at phase
  cases phase with
  | separating unfinished inside => exact { sender with phase := .sending unfinished inside }

/-- A CTS at the end of the block moves the end of the block. -/
theorem SenderAt.handleFlowControl
    (sender : SenderAt layer frameCount blockEnd sent unconfirmed handler)
    (countable : frameCount ≤ layer.frameIndexMax) (unfinished : sent < frameCount)
    (full : sent = blockEnd)
    (maxBlockSize : UInt8) (hasMinSeparationTime : Bool) (maxWaitCount : UInt8) :
    SenderAt layer frameCount
      (if maxBlockSize = 0 then frameCount else blockEnd + maxBlockSize.toNat) sent unconfirmed
      (handler.apply layer
        (.flowControl ⟨.cts, maxBlockSize, hasMinSeparationTime⟩ maxWaitCount)).1 := by
  have phase := sender.phase
  have near : (if maxBlockSize = 0 then frameCount else blockEnd + maxBlockSize.toNat) ≤
      sent + 255 ∨
      (if maxBlockSize = 0 then frameCount else blockEnd + maxBlockSize.toNat) ≤ frameCount := by
    have sizeLt := maxBlockSize.toNat_lt
    split <;> omega
  have inside :
      sent < if maxBlockSize = 0 then frameCount else blockEnd + maxBlockSize.toNat := by
    split
    · exact unfinished
    · rename_i nonzero
      have positive : maxBlockSize.toNat ≠ 0 := fun zero =>
        nonzero (UInt8.toNat_inj.mp zero)
      omega
  have moved : handler.ctsBlockEnd layer maxBlockSize = layer.frameIndex
      (if maxBlockSize = 0 then frameCount else blockEnd + maxBlockSize.toNat) := by
    rw [MessageTransmitProtocolHandler.ctsBlockEnd, sender.frameCount_eq, sender.blockEnd_eq]
    by_cases zero : maxBlockSize = 0
    · subst zero
      rw [if_neg (by decide), if_pos rfl]
      exact (Nat.mod_eq_of_lt (by rw [DataLinkLayer.frameIndexMax] at countable; omega)).symm
    · rw [if_pos (UInt8.pos_iff_ne_zero.mpr zero), if_neg zero]
      simp only [DataLinkLayer.frameIndex, Nat.mod_add_mod]
  have expected : handler.flowControl = .expected ∧
      (handler.timeout = .flowControl ∧ unconfirmed = 0 ∨
        handler.timeout = .txCallback ∧ handler.state = .wait ∧ unconfirmed = 1) := by
    generalize handler.state = state, handler.timeout = timeout,
      handler.flowControl = flowControl at phase
    cases phase <;> simp_all
  have granted := MessageTransmitProtocolHandler.apply_cts layer maxWaitCount handler
    expected.1
      (rfl : (FlowControlFrame.mk .cts maxBlockSize hasMinSeparationTime).flowStatus = .cts)
  rcases expected.2 with ⟨timeout, rfl⟩ | ⟨timeout, state, rfl⟩
  · rw [if_pos timeout] at granted
    rw [granted]
    exact
      { frameCount_eq := sender.frameCount_eq
        blockEnd_eq := moved
        frameIndex_eq := sender.frameIndex_eq
        sent_le := sender.sent_le
        sent_le_blockEnd := Nat.le_of_lt inside
        blockEnd_near := near
        phase := .sending unfinished inside }
  · rw [if_neg (by simp [timeout])] at granted
    rw [granted]
    refine
      { frameCount_eq := sender.frameCount_eq
        blockEnd_eq := moved
        frameIndex_eq := sender.frameIndex_eq
        sent_le := sender.sent_le
        sent_le_blockEnd := Nat.le_of_lt inside
        blockEnd_near := near
        phase := ?_ }
    simp only [state, timeout]
    exact .granted unfinished inside

end Sender

/-! ## The receiver's phases -/

/-- A receiver in the middle of a message: what `received` frames have left in
the handler. -/
structure ReceiverAt (frameCount received : Nat) (handler : MessageReceiveProtocolHandler)
    (state : ReceiveState) (timeout : ReceiveTimeout) : Prop where
  state_eq : handler.state = state
  timeout_eq : handler.timeout = timeout
  frameCount_eq : handler.frameCount = frameCount
  frameIndex_eq : handler.frameIndex = received
  retry_eq : handler.allocateRetryCount = 0

/-- What a receiver waits for after `received` of `sent` frames, with the flow
control frames that are in flight to a sender whose block ends at `blockEnd`.
A receiver with a full block has received everything that was sent. -/
inductive ReceiverPhase (frameCount : Nat) (maxBlockSize : UInt8) (blockEnd sent received : Nat) :
    List FlowControlFrame → Option MessageReceiveProtocolHandler → Prop
  | absent (first : blockEnd = 1) (nothing : received = 0) :
      ReceiverPhase frameCount maxBlockSize blockEnd sent received [] none
  | allocating (first : blockEnd = 1) (one : received = 1) (all : sent = received) :
      ReceiverPhase frameCount maxBlockSize blockEnd sent received [] (some (.init frameCount))
  | sending {handler : MessageReceiveProtocolHandler}
      (receiver : ReceiverAt frameCount received handler .send .none)
      (block : handler.blockFrameIndex = 0) (positive : 0 < received)
      (unfinished : received < frameCount) (all : sent = received) (full : received = blockEnd) :
      ReceiverPhase frameCount maxBlockSize blockEnd sent received [] (some handler)
  | granting {handler : MessageReceiveProtocolHandler} {hasMinSeparationTime : Bool}
      (receiver : ReceiverAt frameCount received handler .wait .rx)
      (block : handler.blockFrameIndex = 0) (positive : 0 < received)
      (unfinished : received < frameCount) (all : sent = received) (full : received = blockEnd) :
      ReceiverPhase frameCount maxBlockSize blockEnd sent received
        [⟨.cts, maxBlockSize, hasMinSeparationTime⟩] (some handler)
  | receiving {handler : MessageReceiveProtocolHandler}
      (receiver : ReceiverAt frameCount received handler .wait .rx)
      (block : maxBlockSize = 0 ∧ blockEnd = frameCount ∨
        handler.blockFrameIndex.toNat < maxBlockSize.toNat ∧
          received + maxBlockSize.toNat = blockEnd + handler.blockFrameIndex.toNat)
      (positive : 0 < received) (unfinished : received < frameCount) :
      ReceiverPhase frameCount maxBlockSize blockEnd sent received [] (some handler)
  | complete {handler : MessageReceiveProtocolHandler}
      (receiver : ReceiverAt frameCount received handler .processing .none)
      (finished : received = frameCount) :
      ReceiverPhase frameCount maxBlockSize blockEnd sent received [] (some handler)

section Receiver

variable {layer : DataLinkLayer} {frameCount : Nat} {maxBlockSize : UInt8}
variable {blockEnd sent received : Nat} {flowControls : List FlowControlFrame}
variable {receiver : Option MessageReceiveProtocolHandler}

/-- The sender may go on inside its block. -/
theorem ReceiverPhase.sendFrame
    (phase : ReceiverPhase frameCount maxBlockSize blockEnd sent received flowControls receiver)
    (receivedLe : received ≤ sent) (unfinished : sent < frameCount) (inside : sent < blockEnd) :
    ReceiverPhase frameCount maxBlockSize blockEnd (sent + 1) received flowControls receiver := by
  cases phase with
  | absent first nothing => exact .absent first nothing
  | allocating first one all => omega
  | sending _ _ _ _ all full => omega
  | granting _ _ _ _ all full => omega
  | receiving receiver block positive unfinished =>
    exact .receiving receiver block positive unfinished
  | complete _ finished => omega

/-- The first frame finds no receiver and creates one. -/
theorem ReceiverPhase.firstFrame
    (phase : ReceiverPhase frameCount maxBlockSize blockEnd sent 0 flowControls receiver)
    (inFlight : 0 < sent) (sentLe : sent ≤ frameCount) (sentLeBlockEnd : sent ≤ blockEnd) :
    ReceiverPhase frameCount maxBlockSize blockEnd sent 1 flowControls
      (some (.init frameCount)) := by
  cases phase with
  | absent first nothing => exact .allocating first rfl (by omega)
  | allocating _ one => contradiction
  | sending _ _ positive | granting _ _ positive | receiving _ _ positive => omega
  | complete receiver finished => omega

/-- A delivered consecutive frame is accepted and advances the receiver. -/
theorem ReceiverPhase.consecutiveFrameReceived {handler : MessageReceiveProtocolHandler}
    (phase : ReceiverPhase frameCount maxBlockSize blockEnd sent received flowControls
      (some handler))
    (countable : frameCount ≤ layer.frameIndexMax) (inFlight : received < sent)
    (sentLe : sent ≤ frameCount) (sentLeBlockEnd : sent ≤ blockEnd) :
    ReceiverPhase frameCount maxBlockSize blockEnd sent (received + 1) flowControls
        (some (handler.consecutiveFrameReceived layer (UInt8.ofNat (received % 16))
          maxBlockSize).1) ∧
      (handler.consecutiveFrameReceived layer (UInt8.ofNat (received % 16)) maxBlockSize).2 =
        { transition := true } := by
  cases phase with
  | allocating _ _ all => omega
  | sending _ _ _ _ all => omega
  | granting _ _ _ _ all => omega
  | complete _ finished => omega
  | receiving receiver block positive unfinished =>
    have sequence : handler.frameIndex &&& 0xF = (UInt8.ofNat (received % 16)).toNat := by
      have lowBits : handler.frameIndex &&& 0xF = handler.frameIndex % 2 ^ 4 :=
        Nat.and_two_pow_sub_one_eq_mod _ 4
      rw [lowBits, receiver.frameIndex_eq, UInt8.toNat_ofNat']
      omega
    have next : layer.frameIndex (handler.frameIndex + 1) = received + 1 := by
      rw [DataLinkLayer.frameIndexMax] at countable
      rw [receiver.frameIndex_eq, DataLinkLayer.frameIndex, Nat.mod_eq_of_lt (by omega)]
    unfold MessageReceiveProtocolHandler.consecutiveFrameReceived
    rw [if_neg (by simp [receiver.state_eq, receiver.timeout_eq]),
      if_neg (not_not.mpr sequence)]
    simp only [next, receiver.frameCount_eq]
    split
    · rename_i finished
      exact ⟨.complete ⟨rfl, rfl, rfl, rfl, receiver.retry_eq⟩ finished, rfl⟩
    rename_i unfinished'
    split
    · rename_i blocks
      have positiveBlock : 0 < maxBlockSize.toNat := UInt8.lt_iff_toNat_lt.mp blocks
      have sizeLt := maxBlockSize.toNat_lt
      rcases block with ⟨zero, -⟩ | ⟨blockLt, blockEq⟩
      · simp [zero] at positiveBlock
      have counted : (handler.blockFrameIndex + 1).toNat = handler.blockFrameIndex.toNat + 1 := by
        rw [UInt8.toNat_add, UInt8.toNat_one]
        omega
      split
      · rename_i full
        have fullEq := congrArg UInt8.toNat full
        rw [counted] at fullEq
        exact ⟨.sending ⟨rfl, rfl, rfl, rfl, receiver.retry_eq⟩ rfl (by omega) (by omega)
          (by omega) (by omega), rfl⟩
      · rename_i notFull
        have notFullEq := mt UInt8.toNat_inj.mp notFull
        rw [counted] at notFullEq
        refine ⟨.receiving ⟨rfl, rfl, rfl, rfl, receiver.retry_eq⟩ (.inr ?_) (by omega)
          (by omega), rfl⟩
        simp only [MessageReceiveProtocolHandler.setState, counted]
        omega
    · rename_i endless
      have zero : maxBlockSize = 0 := by
        by_contra nonzero
        exact endless (UInt8.pos_iff_ne_zero.mpr nonzero)
      have whole : blockEnd = frameCount := by
        rcases block with ⟨-, whole⟩ | ⟨blockLt, -⟩
        · exact whole
        · simp [zero] at blockLt
      exact ⟨.receiving ⟨rfl, rfl, rfl, rfl, receiver.retry_eq⟩ (.inl ⟨zero, whole⟩) (by omega)
        (by omega), rfl⟩

theorem ReceiverPhase.allocated {handler : MessageReceiveProtocolHandler}
    (phase : ReceiverPhase frameCount maxBlockSize blockEnd sent received flowControls
      (some handler))
    (several : 2 ≤ frameCount) (allocating : handler.state = .allocate) (maxRetryCount : UInt8) :
    ReceiverPhase frameCount maxBlockSize blockEnd sent received flowControls
      (some (handler.allocated true maxRetryCount).1) := by
  cases phase with
  | allocating first one all =>
    have stateEq : (if frameCount = 1 then ReceiveState.processing else .send) = .send :=
      if_neg (by omega)
    exact .sending ⟨stateEq, rfl, rfl, one.symm, rfl⟩ rfl (by omega) (by omega) all (by omega)
  | sending receiver | granting receiver | receiving receiver | complete receiver =>
    rw [receiver.state_eq] at allocating
    contradiction

theorem ReceiverPhase.frameSent {handler : MessageReceiveProtocolHandler}
    (phase : ReceiverPhase frameCount maxBlockSize blockEnd sent received flowControls
      (some handler))
    (sending : handler.state = .send) (hasMinSeparationTime : Bool) :
    ReceiverPhase frameCount maxBlockSize blockEnd sent received
      (flowControls ++ [flowControl maxBlockSize handler hasMinSeparationTime])
      (some (handler.frameSent true).1) := by
  cases phase with
  | sending receiver block positive unfinished all full =>
    have noWait : handler.isFlowControlWait = false := by
      simp [MessageReceiveProtocolHandler.isFlowControlWait, receiver.retry_eq]
    have sent : (handler.frameSent true).1 = { handler with state := .wait, timeout := .rx } := by
      simp [MessageReceiveProtocolHandler.frameSent, sending, noWait,
        MessageReceiveProtocolHandler.setState]
    rw [sent, flowControl, noWait]
    exact .granting ⟨rfl, rfl, receiver.frameCount_eq, receiver.frameIndex_eq,
      receiver.retry_eq⟩ block positive unfinished all full
  | allocating => contradiction
  | granting receiver | receiving receiver | complete receiver =>
    rw [receiver.state_eq] at sending
    contradiction

end Receiver

/-! ## Agreement of the parties -/

/-- How many frames the sender has sent since the last flow control. -/
inductive BlockCount (maxBlockSize : UInt8) (blockEnd sent : Nat) : Option UInt8 → Nat → Prop
  | first (first : blockEnd = 1) : BlockCount maxBlockSize blockEnd sent none sent
  | later {sentSince : Nat} (endless : maxBlockSize = 0 → sentSince < sent)
      (bounded : maxBlockSize ≠ 0 → blockEnd + sentSince = sent + maxBlockSize.toNat) :
      BlockCount maxBlockSize blockEnd sent (some maxBlockSize) sentSince

/-- A link after `sent` frames of which `received` have been delivered, when
the sender's block ends at `blockEnd`. -/
structure Agrees (layer : DataLinkLayer) (frameCount : Nat) (maxBlockSize : UInt8) (link : Link)
    (blockEnd sent received : Nat) : Prop where
  sender : SenderAt layer frameCount blockEnd sent link.unconfirmed link.sender
  receiver : ReceiverPhase frameCount maxBlockSize blockEnd sent received link.flowControls
    link.receiver
  received_le : received ≤ sent
  frames_eq : link.frames = List.range' received (sent - received)
  results_length : link.results.length = received - 1
  results_ok : ∀ result ∈ link.results, result = { transition := true }
  block : BlockCount maxBlockSize blockEnd sent link.lastBlockSize link.sentSince

section Agreement

variable {layer : DataLinkLayer} {frameCount : Nat} {maxBlockSize : UInt8} {link : Link}
variable {blockEnd sent received : Nat}

theorem BlockCount.sendFrame {lastBlockSize : Option UInt8} {sentSince : Nat}
    (count : BlockCount maxBlockSize blockEnd sent lastBlockSize sentSince) :
    BlockCount maxBlockSize blockEnd (sent + 1) lastBlockSize (sentSince + 1) := by
  cases count with
  | first first => exact .first first
  | later endless bounded =>
    refine .later (fun zero => ?_) (fun nonzero => ?_)
    · exact Nat.succ_lt_succ (endless zero)
    · have total := bounded nonzero
      omega

theorem agrees_initial (wide : 8 ≤ layer.frameIndexBits) :
    Agrees layer frameCount maxBlockSize { sender := .init frameCount } 1 0 0 where
  sender :=
    { frameCount_eq := rfl
      blockEnd_eq := by
        have large : 2 ^ 8 ≤ 2 ^ layer.frameIndexBits := Nat.pow_le_pow_right (by decide) wide
        have one : 1 < 2 ^ layer.frameIndexBits := by omega
        exact (Nat.mod_eq_of_lt one).symm
      frameIndex_eq := rfl
      sent_le := Nat.zero_le _
      sent_le_blockEnd := Nat.zero_le _
      blockEnd_near := .inl (by decide)
      phase := .initialized rfl rfl }
  receiver := .absent rfl rfl
  received_le := Nat.le_refl 0
  frames_eq := rfl
  results_length := rfl
  results_ok := by simp
  block := .first rfl

theorem Agrees.sendFrame (agrees : Agrees layer frameCount maxBlockSize link blockEnd sent received)
    (wide : 8 ≤ layer.frameIndexBits) (countable : frameCount ≤ layer.frameIndexMax)
    (sending : link.sender.state = .send) :
    Agrees layer frameCount maxBlockSize
      { link with
        sender := (link.sender.frameSending layer).1
        unconfirmed := link.unconfirmed + 1
        frames := link.frames ++ [link.sender.frameIndex]
        sentSince := link.sentSince + 1 } blockEnd (sent + 1) received := by
  obtain ⟨unfinished, inside, unconfirmedEq, frameIndexEq, sender⟩ :=
    agrees.sender.frameSending wide countable sending
  have receivedLe := agrees.received_le
  refine
    { sender := by rw [unconfirmedEq]; exact sender
      receiver := agrees.receiver.sendFrame receivedLe unfinished inside
      received_le := by omega
      frames_eq := ?_
      results_length := agrees.results_length
      results_ok := agrees.results_ok
      block := agrees.block.sendFrame }
  have longer : sent + 1 - received = sent - received + 1 := by omega
  have last : received + (sent - received) = sent := by omega
  simp only [agrees.frames_eq, frameIndexEq, longer, List.range'_1_concat, last]

/-- A delivered flow control frame finds the sender at the end of its block. -/
theorem Agrees.deliverFlowControl
    (agrees : Agrees layer frameCount maxBlockSize link blockEnd sent received)
    (countable : frameCount ≤ layer.frameIndexMax) {frame : FlowControlFrame}
    {flowControls : List FlowControlFrame} (inFlight : link.flowControls = frame :: flowControls)
    (maxWaitCount : UInt8) :
    Agrees layer frameCount maxBlockSize
      { link with
        sender := (link.sender.apply layer (.flowControl frame maxWaitCount)).1
        flowControls
        lastBlockSize := some frame.blockSize
        sentSince := 0 }
      (if maxBlockSize = 0 then frameCount else blockEnd + maxBlockSize.toNat) sent received := by
  have phase := agrees.receiver
  rw [inFlight] at phase
  generalize receiverEq : link.receiver = receiver at phase
  cases phase with
  | @granting handler hasMinSeparationTime receiver block positive unfinished all full =>
    refine
      { sender := agrees.sender.handleFlowControl countable (by omega) (by omega) _ _ _
        receiver := ?_
        received_le := agrees.received_le
        frames_eq := agrees.frames_eq
        results_length := agrees.results_length
        results_ok := agrees.results_ok
        block := .later (fun _ => Nat.lt_of_lt_of_eq positive all.symm) (fun nonzero => ?_) }
    · refine .receiving receiver ?_ positive unfinished
      by_cases zero : maxBlockSize = 0
      · exact .inl ⟨zero, if_pos zero⟩
      · rw [if_neg zero, block]
        have size : 0 < maxBlockSize.toNat :=
          UInt8.lt_iff_toNat_lt.mp (UInt8.pos_iff_ne_zero.mpr zero)
        exact .inr ⟨size, by simp only [UInt8.toNat_zero]; omega⟩
    · rw [if_neg nonzero]
      simp only
      omega

theorem Agrees.deliverFrame
    (agrees : Agrees layer frameCount maxBlockSize link blockEnd sent received)
    (countable : frameCount ≤ layer.frameIndexMax) {frameIndex : Nat} {frames : List Nat}
    (inFlight : link.frames = frameIndex :: frames) :
    Agrees layer frameCount maxBlockSize
      ({ link with frames }.deliver layer frameCount maxBlockSize frameIndex)
      blockEnd sent (received + 1) := by
  have sentLe := agrees.sender.sent_le
  have sentLeBlockEnd := agrees.sender.sent_le_blockEnd
  have channel := agrees.frames_eq
  rw [inFlight, eq_comm, List.range'_eq_cons_iff] at channel
  obtain ⟨rfl, pending, rfl⟩ := channel
  have rest : sent - received - 1 = sent - (received + 1) := by omega
  have phase := agrees.receiver
  have lengthEq := agrees.results_length
  unfold deliver
  dsimp only
  by_cases first : received = 0
  · subst first
    rw [if_pos rfl]
    exact
      { sender := agrees.sender
        receiver := phase.firstFrame (by omega) sentLe sentLeBlockEnd
        received_le := by omega
        frames_eq := by rw [rest]
        results_length := lengthEq
        results_ok := agrees.results_ok
        block := agrees.block }
  · rw [if_neg first]
    generalize flowControlsEq : link.flowControls = flowControls,
      receiverEq : link.receiver = receiver at phase
    cases receiver with
    | none =>
      cases phase with
      | absent _ nothing => exact absurd nothing first
    | some handler =>
      obtain ⟨phase', resultEq⟩ := phase.consecutiveFrameReceived countable (by omega) sentLe
        sentLeBlockEnd
      exact
        { sender := agrees.sender
          receiver := phase'
          received_le := by omega
          frames_eq := by rw [rest]
          results_length := by simp only [List.length_append, List.length_singleton]; omega
          results_ok := by
            intro result member
            rw [List.mem_append, List.mem_singleton] at member
            rcases member with earlier | rfl
            · exact agrees.results_ok result earlier
            · exact resultEq
          block := agrees.block }

/-- Both parties agree in every reachable state. -/
theorem agrees_inductive (wide : 8 ≤ layer.frameIndexBits) (several : 2 ≤ frameCount)
    (countable : frameCount ≤ layer.frameIndexMax) :
    (system layer frameCount maxBlockSize).Inductive fun link =>
      ∃ blockEnd sent received,
        Agrees layer frameCount maxBlockSize link blockEnd sent received where
  initial := by
    rintro _ rfl
    exact ⟨1, 0, 0, agrees_initial wide⟩
  step := by
    rintro source event target ⟨blockEnd, sent, received, agrees⟩ stepped
    cases event with
    | start =>
      obtain ⟨initialized, ⟨⟩⟩ := Option.ite_none_right_eq_some.mp stepped
      exact ⟨blockEnd, sent, received,
        { agrees with sender := agrees.sender.start (by omega) initialized }⟩
    | sendFrame =>
      obtain ⟨sending, ⟨⟩⟩ := Option.ite_none_right_eq_some.mp stepped
      exact ⟨blockEnd, sent + 1, received, agrees.sendFrame wide countable sending⟩
    | confirm =>
      obtain ⟨pending, ⟨⟩⟩ := Option.ite_none_right_eq_some.mp stepped
      exact ⟨blockEnd, sent, received,
        { agrees with sender := agrees.sender.framesSent countable pending }⟩
    | separationExpired =>
      obtain ⟨separating, ⟨⟩⟩ := Option.ite_none_right_eq_some.mp stepped
      exact ⟨blockEnd, sent, received,
        { agrees with sender := agrees.sender.expired separating }⟩
    | deliverFrame =>
      simp only [system, next] at stepped
      split at stepped
      · contradiction
      rename_i inFlight
      cases stepped
      exact ⟨blockEnd, sent, received + 1, agrees.deliverFrame countable inFlight⟩
    | deliverFlowControl maxWaitCount =>
      simp only [system, next] at stepped
      split at stepped
      · contradiction
      rename_i inFlight
      cases stepped
      exact ⟨_, sent, received, agrees.deliverFlowControl countable inFlight maxWaitCount⟩
    | allocate maxRetryCount =>
      simp only [system, next] at stepped
      split at stepped
      · contradiction
      rename_i handler receiverEq
      obtain ⟨allocating, ⟨⟩⟩ := Option.ite_none_right_eq_some.mp stepped
      have phase := agrees.receiver
      rw [receiverEq] at phase
      exact ⟨blockEnd, sent, received,
        { agrees with receiver := phase.allocated several allocating maxRetryCount }⟩
    | sendFlowControl hasMinSeparationTime =>
      simp only [system, next] at stepped
      split at stepped
      · contradiction
      rename_i handler receiverEq
      obtain ⟨sending, ⟨⟩⟩ := Option.ite_none_right_eq_some.mp stepped
      have phase := agrees.receiver
      rw [receiverEq] at phase
      exact ⟨blockEnd, sent, received,
        { agrees with receiver := phase.frameSent sending hasMinSeparationTime }⟩

theorem Agrees.withinBlock
    (agrees : Agrees layer frameCount maxBlockSize link blockEnd sent received) :
    link.WithinBlock frameCount := by
  have sentLe := agrees.sender.sent_le
  have sentLeBlockEnd := agrees.sender.sent_le_blockEnd
  have count := agrees.block
  unfold WithinBlock
  generalize link.lastBlockSize = lastBlockSize, link.sentSince = sentSince at count
  cases count with
  | first first =>
    dsimp only
    omega
  | later endless bounded =>
    dsimp only
    split
    · rename_i zero
      exact Nat.lt_of_lt_of_le (endless zero) sentLe
    · rename_i nonzero
      have total := bounded nonzero
      omega

/-- What is left of a link in which nothing can happen. -/
structure Stuck (link : Link) : Prop where
  state : link.sender.state ≠ .initialized ∧ link.sender.state ≠ .send
  timeout : link.sender.timeout ≠ .separationTime
  unconfirmed : link.unconfirmed = 0
  frames : link.frames = []
  flowControls : link.flowControls = []
  receiver : ∀ handler, link.receiver = some handler →
    handler.state ≠ .allocate ∧ handler.state ≠ .send

theorem stuck_iff :
    (∀ event, link.next layer frameCount maxBlockSize event = none) ↔ link.Stuck := by
  constructor
  · intro stuck
    have noStart := stuck .start
    have noSend := stuck .sendFrame
    have noConfirm := stuck .confirm
    have noExpiry := stuck .separationExpired
    have noFrame := stuck .deliverFrame
    have noFlowControl := stuck (.deliverFlowControl 0)
    have noAllocate := stuck (.allocate 0)
    have noGrant := stuck (.sendFlowControl false)
    simp only [next, ite_eq_right_iff, reduceCtorEq, imp_false] at noStart noSend noConfirm noExpiry
    refine ⟨⟨noStart, noSend⟩, noExpiry, by omega, ?_, ?_, ?_⟩
    · cases framesEq : link.frames with
      | nil => rfl
      | cons frameIndex frames => simp [next, framesEq] at noFrame
    · cases flowControlsEq : link.flowControls with
      | nil => rfl
      | cons frame flowControls => simp [next, flowControlsEq] at noFlowControl
    · intro handler receiverEq
      simp only [next, receiverEq, ite_eq_right_iff, reduceCtorEq, imp_false] at noAllocate noGrant
      exact ⟨noAllocate, noGrant⟩
  · intro stuck event
    cases event with
    | start => simp [next, stuck.state.1]
    | sendFrame => simp [next, stuck.state.2]
    | confirm => simp [next, stuck.unconfirmed]
    | separationExpired => simp [next, stuck.timeout]
    | deliverFrame => simp [next, stuck.frames]
    | deliverFlowControl => simp [next, stuck.flowControls]
    | allocate =>
      cases receiverEq : link.receiver with
      | none => simp [next, receiverEq]
      | some handler => simp [next, receiverEq, (stuck.receiver handler receiverEq).1]
    | sendFlowControl =>
      cases receiverEq : link.receiver with
      | none => simp [next, receiverEq]
      | some handler => simp [next, receiverEq, (stuck.receiver handler receiverEq).2]

/-- A sender that only waits for the receiver is at the end of its block, or
done. -/
theorem SenderAt.of_stuck {handler : MessageTransmitProtocolHandler}
    (sender : SenderAt layer frameCount blockEnd sent 0 handler)
    (state : handler.state ≠ .initialized ∧ handler.state ≠ .send)
    (timeout : handler.timeout ≠ .separationTime) :
    sent < frameCount ∧ sent = blockEnd ∨ sent = frameCount ∧ handler.state = .success := by
  have phase := sender.phase
  generalize stateEq : handler.state = senderState, timeoutEq : handler.timeout = senderTimeout,
    handler.flowControl = flowControl at phase
  cases phase with
  | initialized => exact absurd stateEq state.1
  | sending => exact absurd stateEq state.2
  | awaiting unfinished full => exact .inl ⟨unfinished, full⟩
  | separating => exact absurd timeoutEq timeout
  | success finished => exact .inr ⟨finished, rfl⟩

/-- A link in which nothing can happen is complete. -/
theorem Agrees.complete_of_stuck
    (agrees : Agrees layer frameCount maxBlockSize link blockEnd sent received)
    (several : 2 ≤ frameCount) (stuck : link.Stuck) : link.Complete frameCount := by
  have sender := agrees.sender
  rw [stuck.unconfirmed] at sender
  have delivered : sent ≤ received := by
    have channel := agrees.frames_eq
    rw [stuck.frames, eq_comm, List.range'_eq_nil_iff] at channel
    omega
  have receivedLe := agrees.received_le
  have frameIndexEq := sender.frameIndex_eq
  have lengthEq := agrees.results_length
  have senderCases := sender.of_stuck stuck.state stuck.timeout
  have phase := agrees.receiver
  rw [stuck.flowControls] at phase
  generalize receiverEq : link.receiver = receiver at phase
  cases phase with
  | absent first nothing => omega
  | allocating => exact absurd rfl (stuck.receiver _ receiverEq).1
  | sending receiver => exact absurd receiver.state_eq (stuck.receiver _ receiverEq).2
  | receiving receiver block positive unfinished => omega
  | complete receiver finished =>
    rcases senderCases with ⟨unfinished, -⟩ | ⟨-, success⟩
    · omega
    · exact ⟨success, by omega, _, receiverEq, receiver.state_eq,
        receiver.frameIndex_eq.trans finished, by omega⟩

/-- In a complete link nothing can happen. -/
theorem Agrees.stuck_of_complete
    (agrees : Agrees layer frameCount maxBlockSize link blockEnd sent received)
    (complete : link.Complete frameCount) : link.Stuck := by
  obtain ⟨success, senderEq, handler, receiverEq, processing, handlerEq, -⟩ := complete
  have sender : link.unconfirmed = 0 ∧ link.sender.timeout = .none := by
    have phase := agrees.sender.phase
    rw [success] at phase
    generalize link.unconfirmed = unconfirmed, link.sender.timeout = timeout,
      link.sender.flowControl = flowControl at phase
    cases phase
    exact ⟨rfl, rfl⟩
  have receiver : link.flowControls = [] ∧ received = frameCount := by
    have phase := agrees.receiver
    rw [receiverEq] at phase
    generalize link.flowControls = flowControls at phase
    cases phase with
    | allocating => contradiction
    | sending receiver | granting receiver | receiving receiver =>
      rw [receiver.state_eq] at processing
      contradiction
    | complete receiver finished => exact ⟨rfl, finished⟩
  have sentLe := agrees.sender.sent_le
  refine
    { state := by simp [success]
      timeout := by simp [sender.2]
      unconfirmed := sender.1
      frames := ?_
      flowControls := receiver.1
      receiver := ?_ }
  · rw [agrees.frames_eq, List.range'_eq_nil_iff]
    omega
  · intro other otherEq
    rw [receiverEq, Option.some.injEq] at otherEq
    subst otherEq
    simp [processing]

/-- The protocol handlers of sender and receiver agree in every interleaving:
the receiver accepts every frame it gets, the sender stays within the block it
was granted, and nothing is left to do exactly when both have completed the
message. -/
theorem handlers_agree (wide : 8 ≤ layer.frameIndexBits) (several : 2 ≤ frameCount)
    (countable : frameCount ≤ layer.frameIndexMax)
    (reached : (system layer frameCount maxBlockSize).Reachable link) :
    (∀ result ∈ link.results, result = { transition := true }) ∧
      link.WithinBlock frameCount ∧
      ((∀ event, link.next layer frameCount maxBlockSize event = none) ↔
        link.Complete frameCount) := by
  obtain ⟨blockEnd, sent, received, agrees⟩ :=
    (agrees_inductive wide several countable).of_reachable reached
  rw [stuck_iff]
  exact ⟨agrees.results_ok, agrees.withinBlock, agrees.complete_of_stuck several,
    agrees.stuck_of_complete⟩

/-- Three frames, each of the two consecutive ones in a block of its own. -/
def threeFrames : List LinkEvent :=
  [.start, .sendFrame, .confirm, .deliverFrame, .allocate 0, .sendFlowControl true,
    .deliverFlowControl 3, .sendFrame, .confirm, .deliverFrame, .sendFlowControl true,
    .deliverFlowControl 3, .sendFrame, .deliverFrame, .confirm]

theorem handlers_agree_threeFrames :
    ∃ link, Transition.System.play (next .standard 3 1) { sender := .init 3 } threeFrames =
        some link ∧
      link.Complete 3 ∧ ∀ event, link.next .standard 3 1 event = none := by
  obtain ⟨link, played, complete⟩ : ∃ link,
      Transition.System.play (next .standard 3 1) { sender := .init 3 } threeFrames =
        some link ∧ link.Complete 3 :=
    ⟨_, rfl, rfl, rfl, _, rfl, rfl, rfl, rfl⟩
  have reached : (system .standard 3 1).Reachable link :=
    Transition.System.Reachable.play id (.initial rfl) played
  exact ⟨link, played, complete,
    (handlers_agree (by decide) (by decide) (by decide) reached).2.2.mpr complete⟩

end Agreement

end Link

end OpenBsw.Docan
