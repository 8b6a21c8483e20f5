import OpenBsw.Docan.Receiver.Transitions

/-!
# Handling transitions to their end

The loop of `handleTransitions` takes a message receiver to a state it rests
in, in as many rounds as its state needs.  What happens on the way is a
sequence of actions; the other receivers keep all but their blocked flags.
-/

namespace OpenBsw.Docan

open OpenBsw.Transport

variable {always : Prop} (environment : ReceiverEnvironment) {patience : Nat}
  {result : ReceiveResult}

namespace Receiver

variable {Address : Type}

/-- The parts that transitions of message receivers leave alone, except that
finished receivers are counted. -/
structure Keeps (source target : Receiver Address) (released : Nat) : Prop where
  lock_eq : target.removeLockCount = source.removeLockCount
  pool_eq : target.pool = source.pool
  released_eq : target.releasedReceiverCount = source.releasedReceiverCount + released

theorem Keeps.trans {first second third : Receiver Address} {released : Nat}
    (left : Keeps first second 0) (right : Keeps second third released) :
    Keeps first third released :=
  ⟨right.lock_eq.trans left.lock_eq, right.pool_eq.trans left.pool_eq,
    right.released_eq.trans (by rw [left.released_eq, Nat.add_zero])⟩

theorem keeps_record (source : Receiver Address) (call : ReceiverCall Address) :
    Keeps source (source.record call) 0 :=
  ⟨rfl, rfl, rfl⟩

variable [DecidableEq Address] {Takes : MessageReceiver Address → UInt8 → List UInt8 → Prop}
  {Starts : FirstDataFrame Address → Prop}

section

variable (Takes Starts)

/-- One transition of the message receiver between `before` and `after`. -/
structure Transits (source : Receiver Address) (before : List (MessageReceiver Address))
    (receiver : MessageReceiver Address) (after : List (MessageReceiver Address))
    (rounds patience : Nat) (next : Receiver Address) (target : MessageReceiver Address) :
    Prop where
  keeps : Keeps source next 0
  actions : Actions Takes Starts (source.place before receiver after)
    (next.place before target after)
  block_eq : target.block = receiver.block
  ready : target.handler.Ready target.message
  rounds_le : target.handler.rounds ≤ rounds
  patience_le : target.handler.patience ≤ patience

end

variable {source : Receiver Address} {before after : List (MessageReceiver Address)}
  {receiver : MessageReceiver Address}

/-- A handler that advances while its message stays. -/
theorem transits_of_advances {handler : MessageReceiveProtocolHandler} {rounds patience : Nat}
    {next : Receiver Address} (keeps : Keeps source next 0)
    (actions : Actions Takes Starts (source.place before receiver after)
      (next.place before receiver after))
    (advances : receiver.handler.Advances handler receiver.message rounds patience)
    (processing : handler.state ≠ .processing)
    (ending : receiver.message.isSome = true →
      receiver.handler.state = .processing ∨ receiver.handler.state = .done →
      handler.state = .done) :
    Transits Takes Starts source before receiver after rounds patience next
      { receiver with handler } where
  keeps := keeps
  actions := actions.tail (.touch
    { MessageReceiver.SameReception.refl receiver with
      frameCount_eq := advances.frameCount_eq
      frameIndex_eq := advances.frameIndex_eq
      message_eq := rfl
      allocating := advances.allocating
      processing := fun reached => absurd reached processing
      ending := fun some ended => .inr (ending some ended) })
  block_eq := rfl
  ready := advances.ready
  rounds_le := advances.rounds_le
  patience_le := advances.patience_le

/-- The ways a transition ends: with a new state, or with nothing but the call
recorded when this is possible. -/
def Proceeds (Takes : MessageReceiver Address → UInt8 → List UInt8 → Prop)
    (Starts : FirstDataFrame Address → Prop) (source : Receiver Address)
    (before : List (MessageReceiver Address)) (receiver : MessageReceiver Address)
    (after : List (MessageReceiver Address)) (rounds patience : Nat) (mayStay : Prop)
    (output : Receiver Address × ReceiveResult) : Prop :=
  (∃ next target, output.1 = next.place before target after ∧ output.2.transition = true ∧
      Transits Takes Starts source before receiver after rounds patience next target) ∨
    mayStay ∧ ∃ next, output.1 = next.place before receiver after ∧
      output.2.transition = false ∧ Keeps source next 0 ∧
      Actions Takes Starts (source.place before receiver after)
        (next.place before receiver after)

theorem allocates_none (environment : ReceiverEnvironment) {next : Receiver Address} {peek : Bool}
    (keeps : Keeps source next 0)
    (actions : Actions Takes Starts (source.place before receiver after)
      (next.place before receiver after)) (balanced : receiver.handler.Balanced receiver.message)
    (allocating : receiver.handler.isAllocating = true)
    (bound : peek = false → 256 - receiver.handler.allocateRetryCount.toNat ≤ patience) :
    Outcome
      (if peek then pure (next.place before receiver after, { transition := false })
      else (next.place before receiver after).announceAllocated environment before.length none)
      (Proceeds Takes Starts source before receiver after 2 patience (peek = true))
      Halt.Excused := by
  cases peek with
  | true => exact .inr ⟨rfl, next, rfl, rfl, keeps, actions⟩
  | false =>
    have none := balanced.allocating_iff.mp allocating
    rw [none] at balanced
    obtain ⟨advances, transition, processing⟩ :=
      MessageReceiveProtocolHandler.advances_allocated_false environment.maxAllocateRetryCount
        balanced allocating
    have later := bound rfl
    simp only [Bool.false_eq_true, if_false, announceAllocated, receiverAt_place, ok_bind,
      MessageReceiver.allocated, Option.isSome_none, setReceiver_place]
    refine .inl ⟨next, _, rfl, transition,
      transits_of_advances keeps actions ?_ processing (by simp [none])⟩
    rw [none]
    exact { advances with patience_le := Nat.le_trans advances.patience_le later }

omit [DecidableEq Address] in
theorem prepareMessage_outcome (message : TransportMessage) :
    Outcome (prepareMessage receiver message) (fun prepared =>
      prepared.id = message.id ∧ prepared.validBytes = 0 ∧
        receiver.messageSize % 2 ^ 16 ≤ prepared.maxPayloadLength) Halt.Excused := by
  unfold prepareMessage
  split
  · exact .inl rfl
  · rename_i fits
    exact ⟨rfl, rfl, Nat.le_of_not_lt fits⟩

theorem allocateTransportMessage_outcome (environment : ReceiverEnvironment) {peek : Bool}
    (balanced : receiver.handler.Balanced receiver.message)
    (allocating : receiver.handler.isAllocating = true) (positive : 1 ≤ patience)
    (bound : peek = false → 256 - receiver.handler.allocateRetryCount.toNat ≤ patience) :
    Outcome
      ((source.place before receiver after).allocateTransportMessage environment before.length peek)
      (Proceeds Takes Starts source before receiver after 2 patience (peek = true))
      Halt.Excused := by
  simp only [allocateTransportMessage, receiverAt_place, ok_bind]
  by_cases blocked : receiver.blocked = true
  · rw [if_pos blocked]
    exact allocates_none environment ⟨rfl, rfl, rfl⟩ .refl balanced allocating bound
  rw [if_neg blocked]
  by_cases permitted : (environment.getTransportMessage
      (source.place before receiver after).calls.length).Permitted
        (heldMessages (source.place before receiver after).messageReceivers)
  swap
  · rw [if_pos permitted]
    exact .inr rfl
  rw [if_neg (not_not_intro permitted)]
  generalize environment.getTransportMessage
    (source.place before receiver after).calls.length = allocation at permitted
  rw [record_place]
  have recorded : allocation.message = none →
      Actions Takes Starts (source.place before receiver after)
        ((source.record (.getTransportMessage receiver receiver.connection.transportAddressPair
          receiver.messageSize receiver.firstFrameData allocation)).place before receiver after) :=
    fun none => .single (.call none)
  by_cases failed : allocation.error ≠ .ok ∧ allocation.error ≠ .noMsgAvailable
  · have none : allocation.message = none := by
      cases messageEq : allocation.message with
      | none => rfl
      | some message => exact absurd (permitted message messageEq).1 failed.1
    rw [if_pos failed]
    simp only [setReceiver_place]
    have advances := receiver.handler.advances_setDone receiver.message .none 0 patience
    exact .inl ⟨_, _, rfl, rfl, transits_of_advances (keeps_record _ _) (recorded none)
      { advances with rounds_le := Nat.le_succ 1 } nofun fun _ _ => rfl⟩
  rw [if_neg failed]
  cases messageEq : allocation.message with
  | none =>
    exact allocates_none environment (keeps_record _ _) (recorded messageEq) balanced allocating
      bound
  | some message =>
    refine (prepareMessage_outcome message).bind ?_
    rintro prepared ⟨idEq, validBytes, fits⟩
    obtain ⟨advances, transition, settled, processing⟩ :=
      MessageReceiveProtocolHandler.advances_allocated_true
        (prepared.append receiver.firstFrameData) environment.maxAllocateRetryCount allocating
    have obtained : Obtained receiver
        { receiver with
          handler := (receiver.handler.allocated true environment.maxAllocateRetryCount).1
          message := some (prepared.append receiver.firstFrameData) } message :=
      { MessageReceiver.SameReception.refl receiver with
        frameCount_eq := advances.frameCount_eq
        frameIndex_eq := advances.frameIndex_eq
        allocating := allocating
        message_eq_none := balanced.allocating_iff.mp allocating
        message_eq := ⟨prepared, idEq, validBytes, fits, rfl⟩
        settled := settled
        processing_iff := processing }
    simp only [announceAllocated, receiverAt_place, ok_bind, MessageReceiver.allocated,
      Option.isSome_some, settled, Bool.false_eq_true, if_false, setReceiver_place]
    exact .inl ⟨_, _, rfl, transition,
      { keeps := keeps_record _ _
        actions := .single (.obtain messageEq (permitted message messageEq).2 obtained)
        block_eq := rfl
        ready := advances.ready
        rounds_le := advances.rounds_le
        patience_le := Nat.le_trans advances.patience_le positive }⟩

theorem sendFlowControlFrame_outcome (environment : ReceiverEnvironment)
    (sends : always → ∀ calls, environment.sendFlowControl calls = true)
    (balanced : receiver.handler.Balanced receiver.message)
    (state : receiver.handler.state = .send) (patience_le : receiver.handler.patience ≤ patience) :
    Outcome ((source.place before receiver after).sendFlowControlFrame environment before.length)
      (Proceeds Takes Starts source before receiver after 1 patience (¬always)) Halt.Excused := by
  simp only [sendFlowControlFrame, receiverAt_place, ok_bind, record_place, setReceiver_place]
  generalize answer : environment.sendFlowControl
    (source.place before receiver after).calls.length = success
  cases success with
  | true =>
    obtain ⟨advances, transition, waits⟩ :=
      MessageReceiveProtocolHandler.advances_frameSent balanced state
    refine .inl ⟨_, _, rfl, transition, transits_of_advances (keeps_record _ _)
      (.single (.call trivial))
      { advances with patience_le := Nat.le_trans advances.patience_le patience_le } ?_ ?_⟩
    · rw [waits]
      decide
    · simp [state]
  | false =>
    have unsent : ¬always := by
      intro holds
      rw [sends holds] at answer
      cases answer
    have stays : receiver.handler.frameSent false =
        (receiver.handler, { transition := false }) := by
      simp [MessageReceiveProtocolHandler.frameSent, state]
    rw [stays]
    exact .inr ⟨unsent, _, rfl, rfl, keeps_record _ _, .single (.call trivial)⟩

theorem startProcessingTransportMessage_outcome (environment : ReceiverEnvironment)
    (state : receiver.handler.state = .processing) (message : receiver.message.isSome = true) :
    Outcome
      ((source.place before receiver after).startProcessingTransportMessage environment
        before.length)
      (Proceeds Takes Starts source before receiver after 1 patience False) Halt.Excused := by
  obtain ⟨message, messageEq⟩ := Option.isSome_iff_exists.mp message
  simp only [startProcessingTransportMessage, receiverAt_place, ok_bind, messageEq, record_place]
  generalize environment.messageReceived
    (source.place before receiver after).calls.length = success
  have detached : Detached receiver
      { receiver with handler := (receiver.handler.processed success).1, message := none } :=
    { MessageReceiver.SameReception.refl receiver with
      message_eq_none := rfl, done := rfl, settled := rfl }
  have offered : Actions Takes Starts (source.place before receiver after)
      ({ source with calls := source.calls ++ offerCalls receiver message success }.place before
        { receiver with
          handler := (receiver.handler.processed success).1, message := none } after) :=
    .single (.offer messageEq state detached)
  have disposed : { source with calls := source.calls ++ offerCalls receiver message success } =
      if success then source.record (.messageReceived receiver message success)
      else (source.record (.messageReceived receiver message success)).record
        (.releaseTransportMessage message) := by
    cases success <;> simp [offerCalls, record]
  rw [disposed] at offered
  refine .inl ⟨_, _, ?_, rfl,
    { keeps := ?_
      actions := offered
      block_eq := rfl
      ready := rfl
      rounds_le := Nat.le_refl 1
      patience_le := Nat.zero_le _ }⟩
  · cases success <;> simp
  · cases success <;> exact ⟨rfl, rfl, rfl⟩

/-! ## The loop -/

section

variable (Takes Starts)

/-- The loop has ended with the message receiver in the given state. -/
structure Settles (always : Prop) (source : Receiver Address)
    (before : List (MessageReceiver Address)) (receiver : MessageReceiver Address)
    (after : List (MessageReceiver Address)) (patience : Nat) (target : Receiver Address)
    (settled : MessageReceiver Address) : Prop where
  forget_eq : target.messageReceivers.map MessageReceiver.forget =
    (before ++ settled :: after).map MessageReceiver.forget
  atRest : settled.AtRest always
  patience_le : settled.handler.patience ≤ patience
  block_eq : settled.block = receiver.block
  keeps : Keeps source target (if settled.isDone then 1 else 0)
  actions : Actions Takes Starts (source.place before receiver after) target

end

/-- Transitions that came before are added in front. -/
theorem Settles.precede {next target : Receiver Address}
    {middle settled : MessageReceiver Address} (keeps : Keeps source next 0)
    (actions : Actions Takes Starts (source.place before receiver after)
      (next.place before middle after)) (block_eq : middle.block = receiver.block)
    (settles : Settles Takes Starts always next before middle after patience target settled) :
    Settles Takes Starts always source before receiver after patience target settled :=
  { settles with
    block_eq := settles.block_eq.trans block_eq
    keeps := keeps.trans settles.keeps
    actions := actions.trans settles.actions }

/-- Nothing is left to do for a message receiver that rests. -/
theorem settles_self
    (resting : receiver.handler.Resting always receiver.message receiver.isTimerSet)
    (patience_le : receiver.handler.patience ≤ patience) :
    Settles Takes Starts always source before receiver after patience
      (source.place before receiver after) receiver where
  forget_eq := rfl
  atRest := .inl resting
  patience_le := patience_le
  block_eq := rfl
  keeps := by
    rw [MessageReceiver.isDone, decide_eq_false resting.state_ne_done]
    exact ⟨rfl, rfl, rfl⟩
  actions := .refl

variable (Takes Starts) in
theorem handleResult_place (environment : ReceiverEnvironment) (source : Receiver Address)
    (before after : List (MessageReceiver Address)) (receiver : MessageReceiver Address)
    (transition : result.transition = true) :
    ∃ next timer,
      (source.place before receiver after).handleResult environment before.length result =
          .ok (next.place before (receiver.setTimer timer) after) ∧
        Keeps source next 0 ∧
        Actions Takes Starts (source.place before receiver after)
          (next.place before (receiver.setTimer timer) after) := by
  have timed : ∀ now timer, Actions Takes Starts (source.place before receiver after)
      ((source.record (.nowUs now)).place before (receiver.setTimer timer) after) :=
    fun now timer => (Relation.ReflTransGen.single (.call trivial)).tail
      (.touch (receiver.steady_setTimer timer))
  simp only [handleResult, transition, if_true, resetTimer, receiverAt_place, record_place,
    setReceiver_place, ok_bind, pure, Except.pure, MessageReceiver.isDone_setTimer]
  by_cases done : receiver.isDone = true
  · simp only [done, if_true]
    exact ⟨_, _, rfl, keeps_record _ _, timed _ _⟩
  · simp only [done]
    exact ⟨{ source.record (.nowUs _) with timersUpdated := true }, _, rfl, ⟨rfl, rfl, rfl⟩,
      (timed _ _).tail (.bookkeeping _ _ _ true)⟩

theorem handleTransitionsFor_of_rests (environment : ReceiverEnvironment) (position rounds : Nat)
    (receiver : Receiver Address) (rests : result.transition = false) :
    handleTransitionsFor environment position rounds receiver result = .ok receiver := by
  cases rounds <;> simp [handleTransitionsFor, rests] <;> rfl

variable (Takes Starts) in
/-- The last transition of a finished receiver gives its message back. -/
theorem release_outcome (always : Prop) (patience : Nat)
    (ready : receiver.handler.isAllocating = false)
    (done : receiver.handler.state = .done) :
    Outcome ((source.place before receiver after).release before.length) (fun output =>
      output.2.transition = false ∧
        Settles Takes Starts always source before receiver after patience
        output.1 { receiver with message := none }) Halt.Excused := by
  have detached : Detached receiver { receiver with message := none } :=
    { MessageReceiver.SameReception.refl receiver with
      message_eq_none := rfl, done := done, settled := ready }
  have released : Actions Takes Starts (source.place before receiver after)
      ({ source with calls := source.calls ++ releaseCalls receiver.message }.place before
        { receiver with message := none } after) := .single (.release detached)
  have recorded : (source.place before { receiver with message := none } after).giveBack
        receiver.message =
      { source with calls := source.calls ++ releaseCalls receiver.message }.place before
        { receiver with message := none } after := by
    cases receiver.message <;> simp [giveBack, releaseCalls, record, place]
  simp only [release, receiverAt_place, ok_bind, setReceiver_place, recorded]
  split
  · exact .inl rfl
  · refine ⟨rfl, ?_⟩
    exact
      { forget_eq := map_forget_unblock _ _
        atRest := .inr ⟨done, ready, rfl⟩
        patience_le := by simp [MessageReceiveProtocolHandler.patience, done]
        block_eq := rfl
        keeps := by
          rw [MessageReceiver.isDone, decide_eq_true done]
          exact ⟨rfl, rfl, rfl⟩
        actions := (released.tail (.unblock _)).tail (.bookkeeping _ _ _ _) }

/-- One transition and the rounds that follow it, when the loop is known to
end for these. -/
theorem handleTransition_outcome
    (sends : always → ∀ calls, environment.sendFlowControl calls = true) {rounds patience : Nat}
    (loop : ∀ {next : Receiver Address} {target : MessageReceiver Address}
      {result : ReceiveResult}, result.transition = true →
      target.handler.Ready target.message → target.handler.rounds ≤ rounds →
      target.handler.patience ≤ patience →
      Outcome
        (handleTransitionsFor environment before.length rounds (next.place before target after)
          result)
        (fun final => ∃ settled,
          Settles Takes Starts always next before target after patience final settled)
        Halt.Excused) (armed : receiver.handler.state ≠ .allocate → receiver.isTimerSet = true)
    (ready : receiver.handler.Ready receiver.message)
    (enough : receiver.handler.rounds ≤ rounds + 1)
    (patience_le : receiver.handler.patience ≤ patience) :
    Outcome
      ((source.place before receiver after).handleTransition environment before.length >>=
        fun output =>
          handleTransitionsFor environment before.length rounds output.1 output.2)
      (fun final => ∃ settled,
        Settles Takes Starts always source before receiver after patience final settled)
      Halt.Excused := by
  have follow : ∀ {rounds' : Nat} {mayStay : Prop} {output : Receiver Address × ReceiveResult},
      Proceeds Takes Starts source before receiver after rounds' patience mayStay output →
      rounds' ≤ rounds →
      (mayStay → receiver.handler.Resting always receiver.message receiver.isTimerSet) →
      Outcome (handleTransitionsFor environment before.length rounds output.1 output.2)
        (fun final => ∃ settled,
          Settles Takes Starts always source before receiver after patience final settled)
        Halt.Excused := by
    rintro rounds' mayStay ⟨output, result⟩ proceeds fewer stays
    rcases proceeds with ⟨next, target, rfl, transition, transits⟩ |
      ⟨stay, next, rfl, rests, keeps, actions⟩
    · refine (loop transition transits.ready (Nat.le_trans transits.rounds_le fewer)
        transits.patience_le).mono ?_
      rintro final ⟨settled, settles⟩
      exact ⟨settled, settles.precede transits.keeps transits.actions transits.block_eq⟩
    · rw [handleTransitionsFor_of_rests _ _ _ _ rests]
      exact ⟨_, (settles_self (stays stay) patience_le).precede keeps actions rfl⟩
  simp only [handleTransition, receiverAt_place, ok_bind]
  rw [MessageReceiveProtocolHandler.Ready] at ready
  rw [MessageReceiveProtocolHandler.rounds] at enough
  have patienceEq := patience_le
  rw [MessageReceiveProtocolHandler.patience] at patienceEq
  cases stateEq : receiver.handler.state <;> simp only [stateEq] at ready enough patienceEq armed ⊢
  case allocate =>
    have counted := receiver.handler.allocateRetryCount.toNat_lt
    refine (allocateTransportMessage_outcome environment ready.1 ready.2 (by omega)
      fun _ => patienceEq).bind fun output proceeds => follow proceeds ?_ (by rintro ⟨⟩)
    omega
  case wait =>
    change Outcome (handleTransitionsFor _ _ _ _ _) _ _
    rw [handleTransitionsFor_of_rests _ _ _ _ rfl]
    exact ⟨_, settles_self ⟨ready.1, .inl ⟨stateEq, ready.2, armed (by rintro ⟨⟩)⟩⟩ patience_le⟩
  case send =>
    refine (sendFlowControlFrame_outcome environment sends ready.1 stateEq patience_le).bind
      fun output proceeds => follow proceeds ?_
        fun unsent => ⟨ready.1, .inr ⟨unsent, stateEq, ready.2⟩⟩
    omega
  case processing =>
    refine (startProcessingTransportMessage_outcome environment stateEq ready.1).bind
      fun output proceeds => follow proceeds ?_ False.elim
    omega
  case done =>
    refine (release_outcome Takes Starts always patience ready stateEq).bind
      fun output released => ?_
    rw [handleTransitionsFor_of_rests _ _ _ _ released.1]
    exact ⟨_, released.2⟩

theorem handleTransitionsFor_outcome
    (sends : always → ∀ calls, environment.sendFlowControl calls = true) {rounds patience : Nat}
    (transition : result.transition = true) (ready : receiver.handler.Ready receiver.message)
    (enough : receiver.handler.rounds ≤ rounds)
    (patience_le : receiver.handler.patience ≤ patience) :
    Outcome
      (handleTransitionsFor environment before.length rounds (source.place before receiver after)
        result)
      (fun target => ∃ settled,
        Settles Takes Starts always source before receiver after patience target settled)
      Halt.Excused := by
  induction rounds generalizing source receiver result with
  | zero =>
    exfalso
    simp only [MessageReceiveProtocolHandler.rounds] at enough
    split at enough <;> omega
  | succ rounds ih =>
    obtain ⟨next, timer, resultEq, keeps, actions⟩ :=
      handleResult_place Takes Starts environment source before after receiver transition
    rw [handleTransitionsFor, if_pos transition, resultEq, ok_bind]
    refine Outcome.mono (handleTransition_outcome environment sends ih ?_ ?_ ?_ ?_)
      fun target ⟨settled, settles⟩ => ⟨settled, settles.precede keeps actions rfl⟩
    · exact fun _ => rfl
    · exact ready
    · exact enough
    · exact patience_le

end Receiver

end OpenBsw.Docan
