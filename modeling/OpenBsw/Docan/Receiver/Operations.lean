import OpenBsw.Docan.Receiver.Sweeps

/-!
# Work under the remove lock

Between operations no remove lock is held, no message receiver is finished and
each one rests; its block of the pool is its own.  Under the lock the loops of
the operations and the reception of frames leave message receivers at rest or
finished, and the release of the lock removes exactly the finished ones.
-/

namespace OpenBsw.Docan

open OpenBsw.Transport List

namespace Receiver

open MessageReceiver

variable {Address : Type}

/-- The receiver between two operations. -/
structure Idle (always : Prop) (config : ReceiverConfig Address) (receiver : Receiver Address) :
    Prop where
  lock_eq : receiver.removeLockCount = 0
  released_eq : receiver.releasedReceiverCount = 0
  rests : ∀ messageReceiver ∈ receiver.messageReceivers, messageReceiver.Rests always
  blocks : (receiver.messageReceivers.map block ++ receiver.pool).Perm
    (List.range config.poolSize)

/-! ## The remove lock -/

/-- When as many are removed as are finished, exactly these are removed. -/
theorem removeReleased_countP (messageReceivers : List (MessageReceiver Address))
    (pool : List Nat) :
    removeReleased (messageReceivers.countP isDone) messageReceivers pool =
      .ok (messageReceivers.filter (!·.isDone),
        ((messageReceivers.filter isDone).map block).reverse ++ pool) := by
  induction messageReceivers generalizing pool with
  | nil => rfl
  | cons receiver rest ih =>
    by_cases done : receiver.isDone = true
    · rw [countP_cons_of_pos done, removeReleased, if_pos done, ih]
      simp [done]
    · rw [countP_cons_of_neg done]
      have removed := ih pool
      cases count : rest.countP isDone with
      | zero =>
        rw [count] at removed
        simp only [removeReleased, pure, Except.pure, Except.ok.injEq, Prod.mk.injEq] at removed
        simp only [removeReleased, pure, Except.pure, done, Bool.not_false, filter_cons]
        simp [← removed.1, ← removed.2]
      | succ released =>
        rw [count] at removed
        rw [removeReleased, if_neg done, removed]
        simp [done, pure, Except.pure]

variable [DecidableEq Address] {Takes : MessageReceiver Address → UInt8 → List UInt8 → Prop}
  {Starts : FirstDataFrame Address → Prop}

theorem actions_filter (source : Receiver Address)
    (before messageReceivers : List (MessageReceiver Address))
    (detached : ∀ receiver ∈ messageReceivers, receiver.isDone = true → receiver.message = none) :
    Actions Takes Starts { source with messageReceivers := before ++ messageReceivers }
      { source with messageReceivers := before ++ messageReceivers.filter (!·.isDone) } := by
  induction messageReceivers generalizing before with
  | nil => exact .refl
  | cons receiver rest ih =>
    have restDetached := fun other member =>
      detached other (mem_cons_of_mem receiver member)
    by_cases done : receiver.isDone = true
    · have removed : Action Takes Starts
          { source with messageReceivers := before ++ receiver :: rest }
          { source with messageReceivers := before ++ rest } :=
        .remove (of_decide_eq_true done) (detached receiver mem_cons_self done)
      rw [filter_cons_of_neg (by simp [done])]
      exact .head removed (ih before restDetached)
    · have kept := ih (before ++ [receiver]) restDetached
      rw [filter_cons_of_pos (by simp [done])]
      simpa only [append_assoc, singleton_append] using kept

variable {Visited : MessageReceiver Address → Prop} {always : Prop}
  {config : ReceiverConfig Address} {source : Receiver Address}

/-- A guarded operation leaves no finished message receiver behind. -/
theorem guarded_outcome {operation : Receiver Address → Except Halt (Receiver Address)}
    (idle : source.Idle always config)
    (settled : ∀ receiver : MessageReceiver Address, Visited receiver → receiver.AtRest always)
    (worked : Outcome (operation { source with removeLockCount := 1 })
      (Worked Takes Starts Visited { source with removeLockCount := 1 }) Halt.Excused) :
    Outcome (source.guarded operation)
      (fun target => target.Idle always config ∧ Actions Takes Starts source target ∧
        ∀ receiver ∈ target.messageReceivers, Visited receiver) Halt.Excused := by
  have locked : source.setRemoveLock = .ok { source with removeLockCount := 1 } := by
    simp [setRemoveLock, idle.lock_eq, pure, Except.pure]
  rw [guarded, locked, ok_bind]
  refine worked.bind fun state worked => ?_
  have lockEq : state.removeLockCount = 1 := worked.lock_eq
  have releasedEq : state.releasedReceiverCount = state.messageReceivers.countP isDone := by
    rw [worked.released_eq]
    simp [idle.released_eq]
  have unlocked : state.releaseRemoveLock =
      .ok { state with
        messageReceivers := state.messageReceivers.filter (!·.isDone)
        pool := ((state.messageReceivers.filter isDone).map block).reverse ++ state.pool
        removeLockCount := 0
        releasedReceiverCount := 0 } := by
    have removed := removeReleased_countP state.messageReceivers state.pool
    rw [← releasedEq] at removed
    rw [releaseRemoveLock, lockEq, if_neg (by decide)]
    by_cases some : 0 < state.releasedReceiverCount
    · rw [if_pos ⟨rfl, some⟩]
      simp only [removed, ok_bind]
      rfl
    · have none : state.releasedReceiverCount = 0 := Nat.eq_zero_of_not_pos some
      rw [none] at removed
      simp only [removeReleased, pure, Except.pure, Except.ok.injEq, Prod.mk.injEq] at removed
      rw [if_neg (fun both => some both.2), ← removed.1, ← removed.2]
      simp [none, pure, Except.pure]
  rw [unlocked]
  refine ⟨⟨rfl, rfl, ?_, ?_⟩, ?_, ?_⟩
  · intro receiver member
    obtain ⟨member, done⟩ := mem_filter.mp member
    rcases settled receiver (worked.visited receiver member) with rests | ⟨state, _⟩
    · exact rests
    · simp [isDone, state] at done
  · have parted : (state.messageReceivers.filter (!·.isDone) ++
        state.messageReceivers.filter isDone).Perm state.messageReceivers :=
      perm_append_comm.trans (filter_append_perm isDone state.messageReceivers)
    have reversed := reverse_perm ((state.messageReceivers.filter isDone).map block)
    have blocks := (reversed.append_left
      ((state.messageReceivers.filter (!·.isDone)).map block)).trans
        (map_append ▸ parted.map block)
    simp only [← append_assoc]
    exact ((blocks.append_right state.pool).trans worked.blocks).trans idle.blocks
  · have detached : ∀ receiver ∈ state.messageReceivers, receiver.isDone = true →
        receiver.message = none := by
      intro receiver member done
      rcases settled receiver (worked.visited receiver member) with rests | ⟨_, _, none⟩
      · simp [isDone, rests.state_ne_done] at done
      · exact none
    have started : Actions Takes Starts source { source with removeLockCount := 1 } :=
      .single (.bookkeeping _ 1 _ _)
    exact ((started.trans worked.actions).trans
      (actions_filter state [] state.messageReceivers detached)).tail (.bookkeeping _ 0 0 _)
  · exact fun receiver member => worked.visited receiver (mem_filter.mp member).1

/-! ## Loops over the list -/

variable (always) in
omit [DecidableEq Address] in
/-- A message receiver that has finished and still has its message. -/
theorem begins_setDone (receiver : MessageReceiver Address) (receiveMessage : ReceiveMessage)
    (param : UInt8) :
    receiver.Steady
        { receiver with handler := (receiver.handler.setDone receiveMessage param).1 } ∧
      Begins always { receiver with handler := (receiver.handler.setDone receiveMessage param).1 }
        (receiver.handler.setDone receiveMessage param).2 :=
  ⟨{ SameReception.refl receiver with
      message_eq := rfl, allocating := nofun, processing := nofun, ending := fun _ _ => .inr rfl },
    .inl ⟨rfl, rfl⟩⟩

omit [DecidableEq Address] in
/-- When the timer of a waiting receiver expires its patience decreases. -/
theorem begins_expired {receiver : MessageReceiver Address} (rests : receiver.Rests always) :
    receiver.Steady { receiver with isTimerSet := false, handler := receiver.handler.expired.1 } ∧
      Begins always
        { receiver with isTimerSet := false, handler := receiver.handler.expired.1 }
        receiver.handler.expired.2 ∧
      (always → receiver.handler.expired.1.patience < receiver.handler.patience) := by
  have same := SameReception.refl receiver
  rcases rests.waits with ⟨state, timeout | ⟨timeout, allocating⟩, _⟩ | ⟨unsent, state, timeout⟩
  · have expiredEq : receiver.handler.expired = receiver.handler.setDone .rxTimeoutExpired 0 := by
      simp [MessageReceiveProtocolHandler.expired, timeout]
    rw [expiredEq]
    refine ⟨{ same with
        message_eq := rfl, allocating := (by rintro ⟨⟩), processing := (by rintro ⟨⟩),
        ending := fun _ _ => .inr rfl },
      .inl ⟨rfl, rfl⟩, fun _ => ?_⟩
    simp [MessageReceiveProtocolHandler.patience, MessageReceiveProtocolHandler.setDone, state,
      timeout]
  · have expiredEq : receiver.handler.expired = receiver.handler.setState .allocate .none := by
      simp [MessageReceiveProtocolHandler.expired, timeout]
    have balanced := rests.balanced
    rw [expiredEq]
    refine ⟨{ same with
        message_eq := rfl, allocating := id, processing := (by rintro ⟨⟩),
        ending := by simp [state] },
      .inl ⟨rfl, ⟨balanced.allocating_iff, balanced.retry_zero, balanced.retry_le⟩, allocating⟩,
      fun _ => ?_⟩
    have counted := receiver.handler.allocateRetryCount.toNat_lt
    simp only [MessageReceiveProtocolHandler.patience, MessageReceiveProtocolHandler.setState,
      state, timeout, if_true]
    omega
  · have expiredEq : receiver.handler.expired = (receiver.handler, { transition := false }) := by
      simp [MessageReceiveProtocolHandler.expired, timeout]
    rw [expiredEq]
    exact ⟨{ same with
        message_eq := rfl, allocating := id, processing := id, ending := fun _ ended => ended },
      .inr ⟨rfl, rests.balanced, .inr ⟨unsent, state, timeout⟩⟩, fun holds => absurd holds unsent⟩

variable {before after : List (MessageReceiver Address)} {receiver : MessageReceiver Address}
  {state : Receiver Address}

/-- A message receiver that is left alone. -/
theorem Stands.skip
    (stands : Stands Takes Starts (AtRest always) source before receiver after state)
    (rests : ∀ receiver ∈ source.messageReceivers, receiver.Rests always) :
    Sweep Takes Starts (AtRest always) source (before.length + 1)
      (state.place before receiver after) :=
  stands.next rests (unblockable_atRest always) (settles_self (stands.rests rests) (Nat.le_refl _))
    (.inl (stands.rests rests))

/-- A loop over the list in which each visit returns with the message receiver
visited, or stops when nothing more need be visited. -/
theorem sweep_outcome {State : Type} (view : State → Receiver Address)
    {body : Nat → State → Except Halt (State × Bool)} {initial : State}
    (viewEq : view initial = source) (unblockable : Unblockable Visited)
    (rests : ∀ receiver ∈ source.messageReceivers, receiver.Rests always)
    (visit : ∀ before receiver after state,
      (view state).place before receiver after = view state →
      Stands Takes Starts Visited source before receiver after (view state) →
      Outcome (body before.length state) (fun result =>
        if result.2 then Sweep Takes Starts Visited source (before.length + 1) (view result.1)
        else Worked Takes Starts Visited source (view result.1)) Halt.Excused) :
    Outcome (iterate body 0 source.messageReceivers.length initial)
      (fun state => Worked Takes Starts Visited source (view state)) Halt.Excused := by
  refine Outcome.iterate
    (fun position state => Sweep Takes Starts Visited source position (view state)) ?_
    (fun state sweep => sweep.worked unblockable (by simp)) (Nat.zero_add _) ?_
  · intro position state inside sweep
    obtain ⟨before, receiver, after, rfl, placed, stands⟩ := sweep.stands inside
    exact visit before receiver after state placed stands
  · rw [viewEq]
    exact Sweep.start (Nat.zero_le _) rests fun _ member => absurd member not_mem_nil

theorem Sweep.atRest {position : Nat}
    (sweep : Sweep Takes Starts (AtRest always) source position state)
    (rests : ∀ receiver ∈ source.messageReceivers, receiver.Rests always) :
    Worked Takes Starts (AtRest always) source state :=
  sweep.worked (unblockable_atRest always) fun receiver member =>
    .inl (rests receiver (mem_of_mem_drop member))

/-! ## Operations -/

section

variable (environment : ReceiverEnvironment)
  (sends : always → ∀ calls, environment.sendFlowControl calls = true)
  (rests : ∀ receiver ∈ source.messageReceivers, receiver.Rests always)

include sends rests

/-- Cancelling a message receiver finishes it. -/
theorem Stands.cancel
    (stands : Stands Takes Starts (AtRest always) source before receiver after state)
    (receiveMessage : ReceiveMessage) :
    Outcome
      ((state.place before receiver after).handleWith environment before.length receiver
        (receiver.handler.cancel receiveMessage))
      (Sweep Takes Starts (AtRest always) source (before.length + 1)) Halt.Excused :=
  have begins := begins_setDone always receiver receiveMessage 0
  stands.handleWith environment sends rests (unblockable_atRest always)
    (fun _ atRest _ => atRest) begins.1 begins.2 (Nat.le_refl _)

variable (Takes Starts source) in
theorem shutdown_worked :
    Outcome (iterate (shutdownAt environment) 0 source.messageReceivers.length source)
      (Worked Takes Starts (AtRest always) source) Halt.Excused := by
  refine sweep_outcome id rfl (unblockable_atRest always) rests ?_
  intro before receiver after state placed stands
  have waiting : receiver.handler.shutdown = receiver.handler.cancel .none := by
    have processing : receiver.handler.state ≠ .processing := by
      rcases (stands.rests rests).waits with ⟨state, _⟩ | ⟨_, state, _⟩ <;> simp [state]
    rw [MessageReceiveProtocolHandler.shutdown, if_neg processing]
  rw [← show state.place before receiver after = state from placed, shutdownAt, receiverAt_place,
    ok_bind, waiting]
  exact (stands.cancel environment sends rests .none).bind fun target sweep => sweep

variable (Takes Starts source) in
theorem handlePendingMessageReceivers_worked (receptionAddress : Address) :
    Outcome (source.handlePendingMessageReceivers environment receptionAddress)
      (fun output => Worked Takes Starts (AtRest always) source output.1) Halt.Excused := by
  refine sweep_outcome Prod.fst rfl (unblockable_atRest always) rests ?_
  rintro before receiver after ⟨state, blocked⟩ placed stands
  have skipped := stands.skip rests
  simp only [handlePendingAt]
  rw [← show state.place before receiver after = state from placed, receiverAt_place, ok_bind]
  by_cases addressed : receiver.receptionAddress = receptionAddress
  · rw [if_pos addressed]
    by_cases segmented : 1 < receiver.handler.frameCount
    · rw [if_pos segmented]
      exact (stands.cancel environment sends rests .none).bind fun target sweep => sweep
    · rw [if_neg segmented]
      exact skipped
  · rw [if_neg addressed]
    exact skipped

/-- A message receiver whose timer has expired is visited. -/
theorem Stands.expire {nowUs : UInt32}
    (stands : Stands Takes Starts Visited source before receiver after state)
    (unblockable : Unblockable Visited)
    (visits : ∀ settled : MessageReceiver Address, settled.AtRest always →
      settled.handler.patience ≤ receiver.handler.expired.1.patience → Visited settled)
    (expired : (receiver.isTimerSet && receiver.timerExpired nowUs) = true) :
    Outcome (expireAt environment nowUs before.length (state.place before receiver after))
      (fun result => result.2 = true ∧
        Sweep Takes Starts Visited source (before.length + 1) result.1) Halt.Excused := by
  have begins := begins_expired (stands.rests rests)
  simp only [expireAt, receiverAt_place, ok_bind, updateTimer, expired, if_true]
  exact (stands.handleWith environment sends rests unblockable visits begins.1 begins.2.1
    (Nat.le_refl _)).bind fun target sweep => ⟨rfl, sweep⟩

variable (Takes Starts source) in
/-- The timers are visited up to the first that is still running. -/
theorem cyclicTask_worked {nowUs : UInt32} (unblockable : Unblockable Visited)
    (visits : ∀ receiver ∈ source.messageReceivers, ∀ settled : MessageReceiver Address,
      settled.AtRest always → settled.handler.patience ≤ receiver.handler.expired.1.patience →
      Visited settled)
    (others : (∃ receiver ∈ source.messageReceivers,
      (receiver.isTimerSet && receiver.timerExpired nowUs) = false) →
      ∀ receiver ∈ source.messageReceivers, Visited receiver) :
    Outcome (iterate (expireAt environment nowUs) 0 source.messageReceivers.length source)
      (Worked Takes Starts Visited source) Halt.Excused := by
  refine sweep_outcome id rfl unblockable rests ?_
  intro before receiver after state placed stands
  obtain ⟨other, member, forgetEq⟩ := stands.current
  have otherEq := eq_of_forget_eq forgetEq
  rw [← show state.place before receiver after = state from placed]
  cases expired : receiver.isTimerSet && receiver.timerExpired nowUs with
  | true =>
    refine (stands.expire environment sends rests unblockable ?_ expired).mono ?_
    · rw [otherEq]
      exact visits other member
    · rintro ⟨next, continues⟩ ⟨rfl, sweep⟩
      exact sweep
  | false =>
    simp only [expireAt, receiverAt_place, ok_bind, updateTimer, expired]
    refine stands.sweep.worked unblockable fun receiver member => ?_
    refine others ⟨other, ‹_›, ?_⟩ receiver (mem_of_mem_drop member)
    rw [← expired, otherEq]
    rfl

variable (Takes Starts source) in
theorem processMessageReceivers_worked :
    Outcome (iterate (peekAt environment) 0 source.messageReceivers.length source)
      (Worked Takes Starts (AtRest always) source) Halt.Excused := by
  refine sweep_outcome id rfl (unblockable_atRest always) rests ?_
  intro before receiver after state placed stands
  have receiverRests := stands.rests rests
  rw [← show state.place before receiver after = state from placed, peekAt, receiverAt_place,
    ok_bind]
  by_cases allocating : receiver.handler.isAllocating = true
  swap
  · rw [if_neg allocating]
    exact stands.skip rests
  rw [if_pos allocating]
  have allocated : Outcome
      ((state.place before receiver after).allocateTransportMessage environment before.length true)
      (Proceeds Takes Starts state before receiver after 2 1 (true = true)) Halt.Excused :=
    allocateTransportMessage_outcome environment receiverRests.balanced allocating
      (Nat.le_refl 1) nofun
  refine allocated.bind ?_
  rintro ⟨next, result⟩ proceeds
  have handled : Outcome (next.handleTransitions environment before.length result)
      (Sweep Takes Starts (AtRest always) source (before.length + 1)) Halt.Excused := by
    rcases proceeds with ⟨next, target, rfl, transition, transits⟩ |
      ⟨_, next, rfl, stays, keeps, actions⟩
    · exact stands.handleTransitions environment sends rests (unblockable_atRest always)
        (fun _ atRest _ => atRest) transits.keeps transits.actions transits.block_eq
        (.inl ⟨transition, transits.ready⟩) (Nat.le_refl _)
    · exact stands.handleTransitions environment sends rests (unblockable_atRest always)
        (fun _ atRest _ => atRest) keeps actions rfl (.inr ⟨stays, receiverRests⟩) (Nat.le_refl _)
  refine handled.bind fun target sweep => ?_
  obtain ⟨visited, others, listEq, lengthEq, _⟩ := sweep.split
  have inside : before.length < target.messageReceivers.length := by
    rw [listEq, List.length_append, lengthEq]
    omega
  rw [receiverAt, List.getElem?_eq_getElem inside, ok_bind]
  cases answered : (target.messageReceivers[before.length]).message.isSome with
  | true => exact sweep
  | false => exact sweep.atRest rests

end

omit [DecidableEq Address] in
theorem begins_consecutiveFrameReceived {message : TransportMessage}
    (rests : receiver.Rests always) (messageEq : receiver.message = some message)
    (sequenceNumber : UInt8) (expectedSize : Nat) (data : List UInt8) :
    let output := receiver.consecutiveFrameReceived message sequenceNumber expectedSize data
    output.1.block = receiver.block ∧ Begins always output.1 output.2 := by
  have balanced := rests.balanced
  have settled : receiver.handler.isAllocating = false := by
    by_contra allocating
    have none := balanced.allocating_iff.mp (eq_true_of_ne_false allocating)
    rw [messageEq] at none
    cases none
  have stillBalanced : ∀ message : TransportMessage, receiver.handler.Balanced (some message) :=
    fun message =>
      { balanced with allocating_iff := by simp [settled] }
  simp only [consecutiveFrameReceived]
  rcases receiver.handler.consecutiveFrameReceived_cases .standard sequenceNumber
    receiver.maxBlockSize with ⟨_, outputEq⟩ | ⟨_, _, _, outputEq⟩ |
    ⟨_, _, _, blockFrameIndex, state, timeout, outputEq, reached⟩
  · rw [outputEq, if_neg rests.state_ne_done]
    exact ⟨rfl, .inr ⟨rfl, stillBalanced _, rests.waits.imp_left fun waits => waits⟩⟩
  · rw [outputEq]
    exact ⟨rfl, .inl ⟨rfl, rfl⟩⟩
  · rw [outputEq]
    rcases reached with ⟨_, rfl, rfl⟩ | ⟨_, ⟨rfl, rfl⟩ | ⟨rfl, rfl⟩⟩
    · exact ⟨rfl, .inl ⟨rfl, rfl, settled⟩⟩
    · have balanced := stillBalanced (message.append (data.take expectedSize))
      exact ⟨rfl, .inl ⟨rfl,
        ⟨balanced.allocating_iff, balanced.retry_zero, balanced.retry_le⟩, rfl⟩⟩
    · have balanced := stillBalanced (message.append (data.take expectedSize))
      exact ⟨rfl, .inl ⟨rfl,
        ⟨balanced.allocating_iff, balanced.retry_zero, balanced.retry_le⟩, .inl rfl⟩⟩

theorem handleConsecutiveFrame_place (environment : ReceiverEnvironment)
    (source : Receiver Address) (before : List (MessageReceiver Address))
    (receiver : MessageReceiver Address) (after : List (MessageReceiver Address))
    (message : TransportMessage) (sequenceNumber : UInt8) (expectedSize : Nat)
    (data : List UInt8) :
    let output := receiver.consecutiveFrameReceived message sequenceNumber expectedSize data
    (source.place before receiver after).handleConsecutiveFrame environment before.length receiver
        message sequenceNumber expectedSize data =
      ((source.record (.consecutiveFrameReceived receiver output.1)).place before output.1
        after).handleTransitions environment before.length output.2 := by
  intro output
  rw [← setReceiver_place (source.record _) before after receiver output.1, ← record_place]
  rfl

section

variable (environment : ReceiverEnvironment)
  (sends : always → ∀ calls, environment.sendFlowControl calls = true)

include sends

variable (Takes Starts source) in
theorem handleConsecutiveFrame_worked {message : TransportMessage} {sequenceNumber : UInt8}
    {data : List UInt8} {position : Nat} (inside : position < source.messageReceivers.length)
    (rests : ∀ receiver ∈ source.messageReceivers, receiver.Rests always)
    (takes : Takes source.messageReceivers[position] sequenceNumber data)
    (messageEq : source.messageReceivers[position].message = some message)
    (long : source.messageReceivers[position].expectedConsecutiveFrameDataSize message.validBytes ≤
      data.length) :
    Outcome
      (source.handleConsecutiveFrame environment position source.messageReceivers[position] message
        sequenceNumber
        (source.messageReceivers[position].expectedConsecutiveFrameDataSize message.validBytes)
        data)
      (Worked Takes Starts (AtRest always) source) Halt.Excused := by
  have sweep : Sweep Takes Starts (AtRest always) source position source :=
    Sweep.start (Nat.le_of_lt inside) rests fun receiver member =>
      .inl (rests receiver (mem_of_mem_take member))
  obtain ⟨before, receiver, after, rfl, placed, stands⟩ := sweep.stands inside
  have receiverEq : source.messageReceivers[before.length] = receiver := by
    rw [← Option.some_inj, ← List.getElem?_eq_getElem inside, ← placed]
    simp [place]
  simp only [receiverEq] at takes messageEq long ⊢
  have begins := begins_consecutiveFrameReceived (stands.rests rests) messageEq sequenceNumber
    (receiver.expectedConsecutiveFrameDataSize message.validBytes) data
  have changed := handleConsecutiveFrame_place environment source before receiver after message
    sequenceNumber (receiver.expectedConsecutiveFrameDataSize message.validBytes) data
  rw [placed] at changed
  rw [changed]
  exact (stands.handleTransitions environment sends rests (unblockable_atRest always)
    (fun _ atRest _ => atRest) (keeps_record _ _) (.single (.frame takes messageEq long)) begins.1
    begins.2 (Nat.le_refl _)).mono fun target sweep => sweep.atRest rests

variable (Takes source) in
/-- A message receiver appended to the list starts with its allocation. -/
theorem insert_worked {block : Nat} {pool : List Nat} {frame : FirstDataFrame Address}
    {blocked : Bool} (poolEq : source.pool = block :: pool) (starts : Starts frame)
    (worked : Worked Takes Starts (AtRest always) { source with pool } state) :
    Outcome
      (({ state with
            messageReceivers :=
              state.messageReceivers ++ [newMessageReceiver environment frame block blocked] } :
          Receiver Address).handleTransition environment state.messageReceivers.length >>=
        fun output =>
          output.1.handleTransitions environment state.messageReceivers.length output.2)
      (Worked Takes Starts (AtRest always) source) Halt.Excused := by
  have popped : Actions Takes Starts source { source with pool } :=
    .single (.bookkeeping pool _ _ _)
  have inserted : Action Takes Starts state
      (state.place state.messageReceivers
        (newMessageReceiver environment frame block blocked) []) :=
    .insert starts
  have handled : Outcome
      ((state.place state.messageReceivers
          (newMessageReceiver environment frame block blocked) []).handleTransition environment
          state.messageReceivers.length >>= fun output =>
        handleTransitionsFor environment state.messageReceivers.length 3 output.1 output.2)
      (fun final => ∃ settled, Settles Takes Starts always state state.messageReceivers
        (newMessageReceiver environment frame block blocked) [] 256 final settled)
      Halt.Excused :=
    handleTransition_outcome environment sends
      (handleTransitionsFor_outcome environment sends) (absurd rfl)
      ⟨⟨⟨fun _ => rfl, fun _ => rfl⟩, nofun, fun _ => UInt8.zero_le⟩, rfl⟩ (Nat.le_succ 3)
      (Nat.le_refl 256)
  refine handled.mono ?_
  rintro final ⟨settled, settles⟩
  have listEq := settles.forget_eq
  refine
    { visited := ?_
      blocks := ?_
      lock_eq := settles.keeps.lock_eq.trans worked.lock_eq
      released_eq := ?_
      actions := ((popped.trans worked.actions).tail inserted).trans settles.actions }
  · refine forall_mem_of_map_forget_eq (unblockable_atRest always) listEq.symm ?_
    intro receiver member
    rcases mem_append.mp member with old | new
    · exact worked.visited receiver old
    · rw [mem_singleton.mp new]
      exact settles.atRest
  · rw [map_block_of_map_forget_eq listEq, settles.keeps.pool_eq, poolEq, map_append,
      map_singleton, settles.block_eq, append_assoc, singleton_append]
    exact perm_middle.trans ((worked.blocks.cons block).trans perm_middle.symm)
  · rw [settles.keeps.released_eq, worked.released_eq, countP_isDone_of_map_forget_eq listEq,
      countP_append, countP_singleton, Nat.add_assoc]

end

end Receiver

end OpenBsw.Docan
