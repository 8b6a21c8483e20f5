import OpenBsw.Someip.Rpc.RpcChannel

/-!
# Completion of remote calls

Every call that was sent is pending on one channel, which is in the handler's
list and has its timeout scheduled, until its closure is invoked once.  Two
things break this.  A response whose payload cannot be decoded completes a call
twice, and the second completion hits the call that the closure has made on the
same channel.  And a channel tells calls apart only by a session identifier
that it does not advance, so a late response completes the next call.
-/

namespace OpenBsw.Someip.RpcSystem

open Transition Function

variable {IPEndpoint : Type}

/-! ## Exact completion -/

/-- The call that is pending on a channel. -/
def pending (system : RpcSystem IPEndpoint) (channel : Nat) : Option Nat :=
  (system.channels channel).pendingCallback

/-- A call is completed with the result of its own response, error or timeout. -/
def Own (system : RpcSystem IPEndpoint) (call : Nat) (completion : Completion IPEndpoint) : Prop :=
  match completion.cause with
  | .response message =>
    message.answers = call ∧
      completion.result =
        (if system.supplied call = true ∧ message.decodes = false then .RPC_INVALID_PAYLOAD
          else getRpcErrorCode message.returnCode)
  | .error message =>
    message.answers = call ∧ completion.result = getRpcErrorCode message.returnCode
  | .timeout scheduledFor => scheduledFor = call ∧ completion.result = .RPC_TIMEOUT

/-- A sent call is pending, or its closure has been invoked once. -/
def Answered (system : RpcSystem IPEndpoint) (call : Nat) : Prop :=
  (∃ channel, system.pending channel = some call ∧ system.completions call = []) ∨
    ∃ completion, system.completions call = [completion] ∧ system.Own call completion

/-- Every call that was sent is completed once or waits, and no other call is completed. -/
structure Exact (system : RpcSystem IPEndpoint) : Prop where
  /-- Exactly the sent calls are pending or completed. -/
  sent : ∀ call < system.calls, system.returned call = some .RPC_SENT_SUCCESSFULLY →
    system.Answered call
  unsent : ∀ call < system.calls, system.returned call ≠ some .RPC_SENT_SUCCESSFULLY →
    system.completions call = []
  /-- A channel is in the list if and only if it has a pending call. -/
  listed : ∀ channel, channel ∈ system.rpcChannelList ↔ (system.pending channel).isSome = true
  /-- A pending call will be completed by its timeout at the latest. -/
  scheduled : ∀ channel, (system.channels channel).timeout = system.pending channel

/-- The invariant of a run. -/
structure Invariant (system : RpcSystem IPEndpoint) : Prop extends Exact system where
  future : ∀ call, system.calls ≤ call → system.completions call = []
  made : ∀ channel call, system.pending channel = some call →
    call < system.calls ∧ system.returned call = some .RPC_SENT_SUCCESSFULLY ∧
      system.completions call = [] ∧
      (system.channels channel).pendingResponse = system.supplied call
  distinct : ∀ channel other call, system.pending channel = some call →
    system.pending other = some call → channel = other

variable {system : RpcSystem IPEndpoint}

/-! ## Changes of one channel -/

variable {next : RpcSystem IPEndpoint} {code : ServiceResultCode}
  {completion : Completion IPEndpoint} {reactions : Reactions}

@[simp]
theorem setChannel_self (system : RpcSystem IPEndpoint) (channel : Nat)
    (value : RpcChannel IPEndpoint) :
    (system.setChannel channel value).channels channel = value := by
  simp only [setChannel, update_self]

theorem setChannel_of_ne (system : RpcSystem IPEndpoint) {channel other : Nat}
    (value : RpcChannel IPEndpoint) (different : other ≠ channel) :
    (system.setChannel channel value).channels other = system.channels other := by
  simp only [setChannel, update_of_ne different]

theorem mem_unregisterChannel {channel other : Nat} :
    other ∈ (system.unregisterChannel channel).rpcChannelList ↔
      other ∈ system.rpcChannelList ∧ other ≠ channel := by
  simp only [unregisterChannel, List.mem_filter, decide_eq_true_eq]

theorem mem_registerChannel {channel other : Nat} :
    other ∈ (system.registerChannel channel).rpcChannelList ↔
      other = channel ∨ other ∈ system.rpcChannelList := by
  rw [registerChannel]
  split
  · next member =>
      constructor
      · exact .inr
      · rintro (rfl | listed)
        · exact member
        · exact listed
  · exact List.mem_cons

theorem registerChannel_channels (system : RpcSystem IPEndpoint) (channel : Nat) :
    (system.registerChannel channel).channels = system.channels := by
  rw [registerChannel]
  split <;> rfl

/-! ## Making a call -/

/-- The layers below deliver the call. -/
def Delivered (system : RpcSystem IPEndpoint) (attempt : CallAttempt) : Prop :=
  (system.channels attempt.channel).isOpen = true ∧
    (system.channels attempt.channel).localPort ≠ none ∧ attempt.hasNetworkChannel = true ∧
    attempt.headerFits = true ∧ attempt.payloadFits = true ∧ attempt.sent = true

/-- Only the list and what is pending on one channel may differ. -/
structure SameElsewhere (channel : Nat) (system next : RpcSystem IPEndpoint) : Prop where
  calls : next.calls = system.calls
  returned : next.returned = system.returned
  supplied : next.supplied = system.supplied
  completions : next.completions = system.completions
  others : ∀ other ≠ channel, next.channels other = system.channels other
  isOpen : (next.channels channel).isOpen = (system.channels channel).isOpen
  localPort : (next.channels channel).localPort = (system.channels channel).localPort

namespace SameElsewhere

variable {channel : Nat} {next last : RpcSystem IPEndpoint}

theorem refl (channel : Nat) (system : RpcSystem IPEndpoint) :
    SameElsewhere channel system system :=
  ⟨rfl, rfl, rfl, rfl, fun _ _ => rfl, rfl, rfl⟩

theorem trans (first : SameElsewhere channel system next)
    (second : SameElsewhere channel next last) : SameElsewhere channel system last where
  calls := second.calls.trans first.calls
  returned := second.returned.trans first.returned
  supplied := second.supplied.trans first.supplied
  completions := second.completions.trans first.completions
  others other different := (second.others other different).trans (first.others other different)
  isOpen := second.isOpen.trans first.isOpen
  localPort := second.localPort.trans first.localPort

theorem setChannel (system : RpcSystem IPEndpoint) (channel : Nat)
    (value : RpcChannel IPEndpoint) (isOpen : value.isOpen = (system.channels channel).isOpen)
    (localPort : value.localPort = (system.channels channel).localPort) :
    SameElsewhere channel system (system.setChannel channel value) :=
  ⟨rfl, rfl, rfl, rfl, fun _ different => setChannel_of_ne system value different,
    by rw [setChannel_self, isOpen], by rw [setChannel_self, localPort]⟩

theorem registerChannel (system : RpcSystem IPEndpoint) (channel : Nat) :
    SameElsewhere channel system (system.registerChannel channel) := by
  have same := registerChannel_channels system channel
  refine ⟨?_, ?_, ?_, ?_, fun other _ => by rw [same], by rw [same], by rw [same]⟩ <;>
    (rw [RpcSystem.registerChannel]; split <;> rfl)

theorem unregisterChannel (system : RpcSystem IPEndpoint) (channel : Nat) :
    SameElsewhere channel system (system.unregisterChannel channel) :=
  ⟨rfl, rfl, rfl, rfl, fun _ _ => rfl, rfl, rfl⟩

theorem setTimeout (system : RpcSystem IPEndpoint) (channel : Nat) :
    SameElsewhere channel system (system.setTimeout channel) :=
  .setChannel system channel _ rfl rfl

theorem cancelTimeout (system : RpcSystem IPEndpoint) (channel : Nat) :
    SameElsewhere channel system (system.cancelTimeout channel) :=
  .setChannel system channel _ rfl rfl

end SameElsewhere

/-- A call was made and has returned a code. -/
structure Called (system : RpcSystem IPEndpoint) (attempt : CallAttempt)
    (code : ServiceResultCode) (next : RpcSystem IPEndpoint) : Prop where
  calls : next.calls = system.calls + 1
  returned : next.returned = update system.returned system.calls (some code)
  supplied : next.supplied = update system.supplied system.calls attempt.hasResponse
  completions : next.completions = system.completions
  others : ∀ other ≠ attempt.channel, next.channels other = system.channels other
  isOpen : (next.channels attempt.channel).isOpen = (system.channels attempt.channel).isOpen
  localPort : (next.channels attempt.channel).localPort =
    (system.channels attempt.channel).localPort

theorem SameElsewhere.called {attempt : CallAttempt}
    (same : SameElsewhere attempt.channel system next) (code : ServiceResultCode) :
    Called system attempt code (next.returnCode attempt code) where
  calls := by rw [returnCode, same.calls]
  returned := by rw [returnCode, same.returned, same.calls]
  supplied := by rw [returnCode, same.supplied, same.calls]
  completions := same.completions
  others := same.others
  isOpen := same.isOpen
  localPort := same.localPort

/-- The call was not sent, and nothing is pending but what was. -/
structure Refused (system : RpcSystem IPEndpoint) (attempt : CallAttempt)
    (next : RpcSystem IPEndpoint) : Prop where
  called : ∃ code, code ≠ .RPC_SENT_SUCCESSFULLY ∧ Called system attempt code next
  pending : next.pending attempt.channel = system.pending attempt.channel
  timeout : (next.channels attempt.channel).timeout = system.pending attempt.channel
  response : system.pending attempt.channel ≠ none →
    (next.channels attempt.channel).pendingResponse =
      (system.channels attempt.channel).pendingResponse
  list : ∀ channel, channel ∈ next.rpcChannelList ↔ channel ∈ system.rpcChannelList

/-- The call was sent and is pending now. -/
structure Sent (system : RpcSystem IPEndpoint) (attempt : CallAttempt)
    (next : RpcSystem IPEndpoint) : Prop where
  called : Called system attempt .RPC_SENT_SUCCESSFULLY next
  idle : system.pending attempt.channel = none
  delivered : system.Delivered attempt
  pending : next.pending attempt.channel = some system.calls
  timeout : (next.channels attempt.channel).timeout = some system.calls
  response : (next.channels attempt.channel).pendingResponse = attempt.hasResponse
  list : ∀ channel, channel ∈ next.rpcChannelList ↔
    channel = attempt.channel ∨ channel ∈ system.rpcChannelList

theorem sendRequest_cases (system : RpcSystem IPEndpoint) (attempt : CallAttempt) :
    (system.sendRequest attempt = (.COULD_NOT_DELIVER, system)) ∨
      (system.sendRequest attempt = (.COULD_NOT_DELIVER,
        (((system.registerChannel attempt.channel).setTimeout attempt.channel).unregisterChannel
          attempt.channel).cancelTimeout attempt.channel)) ∨
      (system.sendRequest attempt = (.RPC_SENT_SUCCESSFULLY,
        (system.registerChannel attempt.channel).setTimeout attempt.channel) ∧
        (system.channels attempt.channel).localPort ≠ none ∧ attempt.hasNetworkChannel = true ∧
        attempt.headerFits = true ∧ attempt.payloadFits = true ∧ attempt.sent = true) := by
  rw [sendRequest]
  split
  · exact .inl rfl
  · next port =>
      split
      · exact .inl rfl
      · next network =>
          split
          · exact .inl rfl
          · next header =>
              split
              · exact .inl rfl
              · next payload =>
                  dsimp only
                  split
                  · exact .inr (.inl rfl)
                  · next sent =>
                      exact .inr (.inr ⟨rfl, port, by simpa using network, by simpa using header,
                        by simpa using payload, by simpa using sent⟩)

/-- A call that is given up behind the check for a pending one. -/
theorem refused_of_failed {failed : RpcSystem IPEndpoint} {attempt : CallAttempt}
    (same : SameElsewhere attempt.channel system failed) (unsent : code ≠ .RPC_SENT_SUCCESSFULLY)
    (idle : system.pending attempt.channel = none)
    (timeout : (failed.channels attempt.channel).timeout = none)
    (list : ∀ channel, channel ∈ failed.rpcChannelList ↔ channel ∈ system.rpcChannelList) :
    Refused system attempt ((failed.setChannel attempt.channel
      { failed.channels attempt.channel with pendingCallback := none }).returnCode attempt
        code) := by
  have cleared := same.trans (SameElsewhere.setChannel failed attempt.channel
    { failed.channels attempt.channel with pendingCallback := none } rfl rfl)
  refine ⟨⟨code, unsent, cleared.called code⟩, ?_, ?_, fun busy => absurd idle busy, list⟩
  · rw [idle]
    change ((failed.setChannel attempt.channel _).channels attempt.channel).pendingCallback = none
    rw [setChannel_self]
  · rw [idle]
    change ((failed.setChannel attempt.channel _).channels attempt.channel).timeout = none
    rw [setChannel_self, timeout]

/-- A call on a channel that is not idle or not delivered leaves no trace. -/
theorem callMethod_cases (exact_ : Exact system) (attempt : CallAttempt) :
    Refused system attempt (system.callMethod attempt) ∨
      Sent system attempt (system.callMethod attempt) := by
  have scheduled := exact_.scheduled attempt.channel
  have unchanged : ∀ code, code ≠ .RPC_SENT_SUCCESSFULLY →
      Refused system attempt (system.returnCode attempt code) := fun code unsent =>
    ⟨⟨code, unsent, (SameElsewhere.refl _ _).called code⟩, rfl, scheduled, fun _ => rfl,
      fun _ => Iff.rfl⟩
  rw [callMethod]
  dsimp only
  split
  · exact .inl (unchanged _ (by decide))
  · next isOpen =>
      split
      · exact .inl (unchanged _ (by decide))
      · next busy =>
          have idle : system.pending attempt.channel = none := not_not.mp busy
          have unlisted : attempt.channel ∉ system.rpcChannelList := by
            rw [exact_.listed, idle]
            simp
          rw [idle] at scheduled
          obtain ⟨waiting, waitingEq⟩ : ∃ waiting, waiting = system.setChannel attempt.channel
              { system.channels attempt.channel with
                pendingResponse := attempt.hasResponse
                pendingCallback := some system.calls } := ⟨_, rfl⟩
          rw [← waitingEq]
          have same : SameElsewhere attempt.channel system waiting := by
            rw [waitingEq]
            exact .setChannel system attempt.channel _ rfl rfl
          have channel : waiting.channels attempt.channel =
              { system.channels attempt.channel with
                pendingResponse := attempt.hasResponse
                pendingCallback := some system.calls } := by rw [waitingEq, setChannel_self]
          have list : waiting.rpcChannelList = system.rpcChannelList := by rw [waitingEq]; rfl
          have registered : SameElsewhere attempt.channel system
              ((waiting.registerChannel attempt.channel).setTimeout attempt.channel) :=
            (same.trans (.registerChannel _ _)).trans (.setTimeout _ _)
          rcases sendRequest_cases waiting attempt with failed | failed | ⟨sent, delivered⟩
          · rw [failed]
            refine .inl (refused_of_failed same (by decide) idle ?_ fun _ => by rw [list])
            rw [channel]
            exact scheduled
          · rw [failed]
            have given := (registered.trans (.unregisterChannel _ _)).trans (.cancelTimeout _ _)
            refine .inl (refused_of_failed given (by decide) idle ?_ fun other => ?_)
            · rw [cancelTimeout, setChannel_self]
            · change other ∈ (((waiting.registerChannel attempt.channel).setTimeout
                attempt.channel).unregisterChannel attempt.channel).rpcChannelList ↔ _
              rw [mem_unregisterChannel]
              change other ∈ (waiting.registerChannel attempt.channel).rpcChannelList ∧ _ ↔ _
              rw [mem_registerChannel, list]
              constructor
              · rintro ⟨rfl | listed, different⟩
                · exact absurd rfl different
                · exact listed
              · intro listed
                exact ⟨.inr listed, fun equal => unlisted (equal ▸ listed)⟩
          · rw [sent]
            right
            refine ⟨registered.called _, idle, ?_, ?_, ?_, ?_, fun other => ?_⟩
            · rw [channel] at delivered
              exact ⟨by simpa using isOpen, delivered⟩
            · change (((waiting.registerChannel attempt.channel).setTimeout
                attempt.channel).channels attempt.channel).pendingCallback = _
              rw [setTimeout, setChannel_self, registerChannel_channels, channel]
            · change (((waiting.registerChannel attempt.channel).setTimeout
                attempt.channel).channels attempt.channel).timeout = _
              rw [setTimeout, setChannel_self, registerChannel_channels, channel]
            · change (((waiting.registerChannel attempt.channel).setTimeout
                attempt.channel).channels attempt.channel).pendingResponse = _
              rw [setTimeout, setChannel_self, registerChannel_channels, channel]
            · change other ∈ (waiting.registerChannel attempt.channel).rpcChannelList ↔ _
              rw [mem_registerChannel, list]

/-! ## What calls preserve -/

theorem own_congr {call : Nat} (supplied : next.supplied call = system.supplied call)
    (own : system.Own call completion) : next.Own call completion := by
  rw [Own] at own ⊢
  cases cause : completion.cause with
  | response message =>
    rw [cause] at own
    dsimp only at own ⊢
    rw [supplied]
    exact own
  | error message => rwa [cause] at own
  | timeout scheduledFor => rwa [cause] at own

/-- An answered call stays so where its channel and its completions stay. -/
theorem Answered.congr {call : Nat} (answered : system.Answered call)
    (pending : ∀ channel, system.pending channel = some call → next.pending channel = some call)
    (completions : next.completions call = system.completions call)
    (supplied : next.supplied call = system.supplied call) : next.Answered call := by
  rcases answered with ⟨channel, waits, none_⟩ | ⟨completion, done, own⟩
  · exact .inl ⟨channel, pending channel waits, by rw [completions, none_]⟩
  · exact .inr ⟨completion, by rw [completions, done], own_congr supplied own⟩

variable {attempt : CallAttempt} {next : RpcSystem IPEndpoint}

theorem Called.returned_of_lt (called : Called system attempt code next) {call : Nat}
    (earlier : call < system.calls) :
    next.returned call = system.returned call ∧ next.supplied call = system.supplied call := by
  rw [called.returned, called.supplied, update_of_ne (by omega),
    update_of_ne (by omega)]
  exact ⟨rfl, rfl⟩

theorem Refused.pending_eq (refused : Refused system attempt next) (channel : Nat) :
    next.pending channel = system.pending channel := by
  obtain ⟨code, unsent, called⟩ := refused.called
  by_cases same : channel = attempt.channel
  · rw [same, refused.pending]
  · rw [RpcSystem.pending, called.others channel same]
    rfl

theorem Refused.invariant (refused : Refused system attempt next)
    (invariant : Invariant system) : Invariant next := by
  obtain ⟨code, unsent, called⟩ := refused.called
  refine ⟨⟨?_, ?_, ?_, ?_⟩, ?_, ?_, ?_⟩
  · intro call made returned
    rw [called.calls] at made
    rcases Nat.lt_succ_iff_lt_or_eq.mp made with earlier | last
    · obtain ⟨returnedEq, suppliedEq⟩ := called.returned_of_lt earlier
      refine (invariant.sent call earlier (returnedEq ▸ returned)).congr ?_ ?_ suppliedEq
      · intro channel waits
        rw [refused.pending_eq, waits]
      · rw [called.completions]
    · rw [called.returned, last, update_self] at returned
      exact absurd (Option.some.inj returned) unsent
  · intro call made returned
    rw [called.calls] at made
    rw [called.completions]
    rcases Nat.lt_succ_iff_lt_or_eq.mp made with earlier | last
    · obtain ⟨returnedEq, -⟩ := called.returned_of_lt earlier
      exact invariant.unsent call earlier (returnedEq ▸ returned)
    · exact invariant.future call (by omega)
  · intro channel
    rw [refused.list, refused.pending_eq]
    exact invariant.listed channel
  · intro channel
    rw [refused.pending_eq]
    by_cases same : channel = attempt.channel
    · rw [same, refused.timeout]
    · rw [called.others channel same]
      exact invariant.scheduled channel
  · intro call later
    rw [called.calls] at later
    rw [called.completions]
    exact invariant.future call (by omega)
  · intro channel call waits
    rw [refused.pending_eq] at waits
    obtain ⟨made, returned, none_, response⟩ := invariant.made channel call waits
    obtain ⟨returnedEq, suppliedEq⟩ := called.returned_of_lt made
    refine ⟨by rw [called.calls]; omega, by rw [returnedEq, returned],
      by rw [called.completions, none_], ?_⟩
    rw [suppliedEq, ← response]
    by_cases same : channel = attempt.channel
    · subst same
      exact refused.response (by rw [waits]; simp)
    · rw [called.others channel same]
  · intro channel other call waits otherWaits
    rw [refused.pending_eq] at waits otherWaits
    exact invariant.distinct channel other call waits otherWaits

theorem Sent.pending_of_ne (sent : Sent system attempt next) {channel : Nat}
    (different : channel ≠ attempt.channel) : next.pending channel = system.pending channel := by
  rw [RpcSystem.pending, sent.called.others channel different]
  rfl

theorem Sent.invariant (sent : Sent system attempt next) (invariant : Invariant system) :
    Invariant next := by
  have called := sent.called
  refine ⟨⟨?_, ?_, ?_, ?_⟩, ?_, ?_, ?_⟩
  · intro call made returned
    rw [called.calls] at made
    rcases Nat.lt_succ_iff_lt_or_eq.mp made with earlier | rfl
    · obtain ⟨returnedEq, suppliedEq⟩ := called.returned_of_lt earlier
      refine (invariant.sent call earlier (returnedEq ▸ returned)).congr ?_ ?_ suppliedEq
      · intro channel waits
        have different : channel ≠ attempt.channel := by
          rintro rfl
          rw [sent.idle] at waits
          exact absurd waits (by simp)
        rw [sent.pending_of_ne different, waits]
      · rw [called.completions]
    · left
      refine ⟨attempt.channel, sent.pending, ?_⟩
      rw [called.completions]
      exact invariant.future _ (Nat.le_refl _)
  · intro call made returned
    rw [called.calls] at made
    rw [called.completions]
    rcases Nat.lt_succ_iff_lt_or_eq.mp made with earlier | last
    · obtain ⟨returnedEq, -⟩ := called.returned_of_lt earlier
      exact invariant.unsent call earlier (returnedEq ▸ returned)
    · exact invariant.future call (by omega)
  · intro channel
    rw [sent.list]
    by_cases same : channel = attempt.channel
    · rw [same, sent.pending]
      simp
    · rw [sent.pending_of_ne same, ← invariant.listed channel]
      exact or_iff_right same
  · intro channel
    by_cases same : channel = attempt.channel
    · rw [same, sent.timeout, sent.pending]
    · rw [sent.pending_of_ne same, called.others channel same]
      exact invariant.scheduled channel
  · intro call later
    rw [called.calls] at later
    rw [called.completions]
    exact invariant.future call (by omega)
  · intro channel call waits
    by_cases same : channel = attempt.channel
    · rw [same, sent.pending] at waits
      cases waits
      refine ⟨by rw [called.calls]; omega, by rw [called.returned, update_self], ?_, ?_⟩
      · rw [called.completions]
        exact invariant.future _ (Nat.le_refl _)
      · rw [same, sent.response, called.supplied, update_self]
    · rw [sent.pending_of_ne same] at waits
      obtain ⟨made, returned, none_, response⟩ := invariant.made channel call waits
      obtain ⟨returnedEq, suppliedEq⟩ := called.returned_of_lt made
      exact ⟨by rw [called.calls]; omega, by rw [returnedEq, returned],
        by rw [called.completions, none_], by rw [called.others channel same, suppliedEq, response]⟩
  · have older : ∀ channel ≠ attempt.channel, next.pending channel ≠ some system.calls := by
      intro channel different waits
      rw [sent.pending_of_ne different] at waits
      exact absurd (invariant.made channel _ waits).1 (Nat.lt_irrefl _)
    intro channel other call waits otherWaits
    by_cases same : channel = attempt.channel
    · by_cases otherSame : other = attempt.channel
      · rw [same, otherSame]
      · rw [same, sent.pending] at waits
        exact absurd (otherWaits.trans waits.symm) (older other otherSame)
    · by_cases otherSame : other = attempt.channel
      · rw [otherSame, sent.pending] at otherWaits
        exact absurd (waits.trans otherWaits.symm) (older channel same)
      · rw [sent.pending_of_ne same] at waits
        rw [sent.pending_of_ne otherSame] at otherWaits
        exact invariant.distinct channel other call waits otherWaits

theorem callMethod_invariant (invariant : Invariant system) (attempt : CallAttempt) :
    Invariant (system.callMethod attempt) := by
  rcases callMethod_cases invariant.toExact attempt with refused | sent
  · exact refused.invariant invariant
  · exact sent.invariant invariant

theorem callMethods_invariant (invariant : Invariant system) (attempts : List CallAttempt) :
    Invariant (system.callMethods attempts) := by
  induction attempts generalizing system with
  | nil => exact invariant
  | cons attempt rest ih => exact ih (callMethod_invariant invariant attempt)

/-- Only answers and timeouts complete calls. -/
theorem callMethods_completions (invariant : Invariant system) (attempts : List CallAttempt) :
    (system.callMethods attempts).completions = system.completions := by
  induction attempts generalizing system with
  | nil => rfl
  | cons attempt rest ih =>
    refine (ih (callMethod_invariant invariant attempt)).trans ?_
    rcases callMethod_cases invariant.toExact attempt with ⟨⟨code, -, called⟩, -⟩ | sent
    · exact called.completions
    · exact sent.called.completions

/-- A call changes nothing about what later calls are delivered. -/
theorem Called.delivered_iff (called : Called system attempt code next) (other : CallAttempt) :
    next.Delivered other ↔ system.Delivered other := by
  by_cases same : other.channel = attempt.channel
  · rw [Delivered, Delivered, same, called.isOpen, called.localPort]
  · rw [Delivered, Delivered, called.others other.channel same]

/-- Calls that are not delivered on a channel leave it idle. -/
theorem callMethods_idle (invariant : Invariant system) {channel : Nat}
    (idle : system.pending channel = none) (attempts : List CallAttempt)
    (elsewhere : ∀ attempt ∈ attempts, attempt.channel = channel → ¬ system.Delivered attempt) :
    (system.callMethods attempts).pending channel = none := by
  induction attempts generalizing system with
  | nil => exact idle
  | cons attempt rest ih =>
    have head := elsewhere attempt List.mem_cons_self
    have later := fun other member => elsewhere other (List.mem_cons_of_mem attempt member)
    have further := callMethod_invariant invariant attempt
    rcases callMethod_cases invariant.toExact attempt with refused | sent
    · obtain ⟨code, -, called⟩ := refused.called
      refine ih further (by rw [refused.pending_eq, idle]) fun other member same => ?_
      rw [called.delivered_iff]
      exact later other member same
    · refine ih further ?_ fun other member same => ?_
      · have different : channel ≠ attempt.channel := fun same =>
          head same.symm sent.delivered
        rw [sent.pending_of_ne different, idle]
      · rw [sent.called.delivered_iff]
        exact later other member same

/-! ## What completions preserve -/

/-- The pending call of a channel has been completed, and the channel waits for
nothing. -/
structure Completed (channel call : Nat) (completion : Completion IPEndpoint)
    (system next : RpcSystem IPEndpoint) : Prop where
  calls : next.calls = system.calls
  returned : next.returned = system.returned
  supplied : next.supplied = system.supplied
  completions : next.completions =
    update system.completions call (system.completions call ++ [completion])
  others : ∀ other ≠ channel, next.channels other = system.channels other
  idle : next.pending channel = none
  timeout : (next.channels channel).timeout = none
  isOpen : (next.channels channel).isOpen = (system.channels channel).isOpen
  localPort : (next.channels channel).localPort = (system.channels channel).localPort
  list : ∀ other, other ∈ next.rpcChannelList ↔ other ∈ system.rpcChannelList ∧ other ≠ channel

theorem Completed.pending_of_ne {channel call : Nat}
    (completed : Completed channel call completion system next) {other : Nat}
    (different : other ≠ channel) : next.pending other = system.pending other := by
  rw [RpcSystem.pending, completed.others other different]
  rfl

/-- Completing the pending call of a channel for its own reason. -/
theorem Completed.invariant {channel call : Nat}
    (completed : Completed channel call completion system next) (invariant : Invariant system)
    (waits : system.pending channel = some call) (own : system.Own call completion) :
    Invariant next := by
  obtain ⟨made, returned, none_, -⟩ := invariant.made channel call waits
  have others : ∀ other ≠ call, next.completions other = system.completions other :=
    fun other different => by rw [completed.completions, update_of_ne different]
  have done : next.completions call = [completion] := by
    rw [completed.completions, update_self, none_, List.nil_append]
  refine ⟨⟨?_, ?_, ?_, ?_⟩, ?_, ?_, ?_⟩
  · intro other otherMade otherReturned
    rw [completed.calls] at otherMade
    rw [completed.returned] at otherReturned
    by_cases same : other = call
    · right
      refine ⟨completion, same ▸ done, own_congr (by rw [completed.supplied]) (same ▸ own)⟩
    · refine (invariant.sent other otherMade otherReturned).congr ?_ (others other same)
        (by rw [completed.supplied])
      intro place otherWaits
      have different : place ≠ channel := by
        rintro rfl
        exact same (Option.some.inj (otherWaits.symm.trans waits))
      rw [completed.pending_of_ne different, otherWaits]
  · intro other otherMade otherReturned
    rw [completed.calls] at otherMade
    rw [completed.returned] at otherReturned
    have different : other ≠ call := fun same => otherReturned (same ▸ returned)
    rw [others other different]
    exact invariant.unsent other otherMade otherReturned
  · intro other
    rw [completed.list]
    by_cases same : other = channel
    · rw [same, completed.idle]
      simp
    · rw [completed.pending_of_ne same, ← invariant.listed other]
      exact and_iff_left same
  · intro other
    by_cases same : other = channel
    · rw [same, completed.timeout, completed.idle]
    · rw [completed.others other same, completed.pending_of_ne same]
      exact invariant.scheduled other
  · intro other later
    rw [completed.calls] at later
    rw [others other (by omega)]
    exact invariant.future other later
  · intro other otherCall otherWaits
    have different : other ≠ channel := by
      rintro rfl
      rw [completed.idle] at otherWaits
      exact absurd otherWaits (by simp)
    rw [completed.pending_of_ne different] at otherWaits
    obtain ⟨otherMade, otherReturned, otherNone, response⟩ :=
      invariant.made other otherCall otherWaits
    have otherCallNe : otherCall ≠ call := by
      rintro rfl
      exact different (invariant.distinct other channel otherCall otherWaits waits)
    rw [completed.calls, completed.returned, completed.supplied, others otherCall otherCallNe,
      completed.others other different]
    exact ⟨otherMade, otherReturned, otherNone, response⟩
  · intro first second otherCall firstWaits secondWaits
    have elsewhere : ∀ place, next.pending place = some otherCall → place ≠ channel := by
      rintro place placeWaits rfl
      rw [completed.idle] at placeWaits
      exact absurd placeWaits (by simp)
    rw [completed.pending_of_ne (elsewhere first firstWaits)] at firstWaits
    rw [completed.pending_of_ne (elsewhere second secondWaits)] at secondWaits
    exact invariant.distinct first second otherCall firstWaits secondWaits

/-- A channel that is unregistered, and whose timeout is cancelled, completes
its call. -/
theorem responseReceived_eq {channel call : Nat} (completion : Completion IPEndpoint)
    (reactions : Reactions) (waits : system.pending channel = some call) :
    ∃ next, Completed channel call completion system next ∧
      ((system.unregisterChannel channel).cancelTimeout channel).responseReceived channel
        completion reactions = next.callMethods (reactions call completion.result) := by
  have channelEq : ((system.unregisterChannel channel).cancelTimeout channel).channels channel =
      { system.channels channel with timeout := none } := by
    rw [cancelTimeout, setChannel_self]
    rfl
  have pendingEq : (((system.unregisterChannel channel).cancelTimeout channel).channels
      channel).pendingCallback = some call := by
    rw [channelEq]
    exact waits
  rw [responseReceived, pendingEq]
  refine ⟨_, ?_, rfl⟩
  refine ⟨rfl, rfl, rfl, rfl, ?_, ?_, ?_, ?_, ?_, fun other => mem_unregisterChannel⟩
  · intro other different
    exact (setChannel_of_ne _ _ different).trans (setChannel_of_ne _ _ different)
  · exact congrArg RpcChannel.pendingCallback (setChannel_self _ _ _)
  · refine (congrArg RpcChannel.timeout (setChannel_self _ _ _)).trans ?_
    exact congrArg RpcChannel.timeout channelEq
  · refine (congrArg RpcChannel.isOpen (setChannel_self _ _ _)).trans ?_
    dsimp only
    rw [channelEq]
  · refine (congrArg RpcChannel.localPort (setChannel_self _ _ _)).trans ?_
    dsimp only
    rw [channelEq]

/-! ## Events -/

variable [DecidableEq IPEndpoint]

/-- A reply answers the call that is pending on the channel with its
identifiers, and a closure that is told of an undecodable payload makes no
further call on the same channel that is delivered. -/
def Orderly (system : RpcSystem IPEndpoint) : RpcEvent IPEndpoint → Prop
  | .response message reactions => ∀ channel, system.findChannel message = some channel →
      (system.channels channel).localPort = some message.localPort →
      system.pending channel = some message.answers ∧
        ((system.channels channel).pendingResponse = true → message.decodes = false →
          ∀ attempt ∈ reactions message.answers .RPC_INVALID_PAYLOAD,
            attempt.channel = channel → ¬ system.Delivered attempt)
  | .error message _ => ∀ channel, system.findChannel message = some channel →
      system.pending channel = some message.answers
  | _ => True

omit [DecidableEq IPEndpoint] in
/-- The pending call of a channel is completed for its own reason, and then its closure makes
calls. -/
def CompletedBy (channel call : Nat) (reactions : Reactions)
    (system next : RpcSystem IPEndpoint) : Prop :=
  ∃ completion completed, Completed channel call completion system completed ∧
    system.Own call completion ∧ next = completed.callMethods (reactions call completion.result)

omit [DecidableEq IPEndpoint] in
theorem CompletedBy.invariant {channel call : Nat}
    (done : CompletedBy channel call reactions system next) (invariant : Invariant system)
    (waits : system.pending channel = some call) : Invariant next := by
  obtain ⟨completion, between, completed, own, rfl⟩ := done
  exact callMethods_invariant (completed.invariant invariant waits own) _

omit [DecidableEq IPEndpoint] in
theorem CompletedBy.completions {channel call : Nat}
    (done : CompletedBy channel call reactions system next) (invariant : Invariant system)
    (waits : system.pending channel = some call) :
    ∃ completion, next.completions call = [completion] ∧ system.Own call completion := by
  obtain ⟨completion, between, completed, own, rfl⟩ := done
  obtain ⟨-, -, nothing, -⟩ := invariant.made channel call waits
  refine ⟨completion, ?_, own⟩
  rw [callMethods_completions (completed.invariant invariant waits own), completed.completions,
    update_self, nothing, List.nil_append]

theorem handleResponse_completes (invariant : Invariant system) {message : RpcReply IPEndpoint}
    {channel : Nat} (orderly : system.Orderly (.response message reactions))
    (found : system.findChannel message = some channel)
    (port : (system.channels channel).localPort = some message.localPort) :
    CompletedBy channel message.answers reactions system
      (system.handleResponse message reactions) := by
  obtain ⟨waits, quiet⟩ := orderly channel found port
  obtain ⟨-, -, -, response⟩ := invariant.made channel _ waits
  have getResponseEq :
      ((system.unregisterChannel channel).cancelTimeout channel).getResponse channel =
        system.supplied message.answers := by
    rw [getResponse, cancelTimeout, setChannel_self]
    change ((system.pending channel).isSome && (system.channels channel).pendingResponse) = _
    rw [waits, response]
    rfl
  rw [handleResponse, found]
  dsimp only
  rw [if_neg (not_not.mpr port), getResponseEq]
  split
  · next undecodable =>
      obtain ⟨next, completed, received⟩ := responseReceived_eq
        ⟨.RPC_INVALID_PAYLOAD, .response message⟩ reactions waits
      have own : system.Own message.answers ⟨.RPC_INVALID_PAYLOAD, .response message⟩ :=
        ⟨rfl, (if_pos undecodable).symm⟩
      have idle := callMethods_idle (completed.invariant invariant waits own) completed.idle
        (reactions message.answers .RPC_INVALID_PAYLOAD) ?_
      · rw [received, responseReceived]
        rw [RpcSystem.pending] at idle
        rw [idle]
        exact ⟨_, next, completed, own, rfl⟩
      · intro attempt member same
        have delivered := quiet (response ▸ undecodable.1) undecodable.2 attempt member same
        rw [Delivered] at delivered ⊢
        rw [same] at delivered ⊢
        rwa [completed.isOpen, completed.localPort]
  · next decodable =>
      obtain ⟨next, completed, received⟩ := responseReceived_eq
        ⟨getRpcErrorCode message.returnCode, .response message⟩ reactions waits
      exact ⟨_, next, completed, ⟨rfl, (if_neg decodable).symm⟩, received⟩

theorem handleError_completes {message : RpcReply IPEndpoint} {channel : Nat}
    (orderly : system.Orderly (.error message reactions))
    (found : system.findChannel message = some channel) :
    CompletedBy channel message.answers reactions system
      (system.handleError message reactions) := by
  obtain ⟨next, completed, received⟩ := responseReceived_eq
    ⟨getRpcErrorCode message.returnCode, .error message⟩ reactions (orderly channel found)
  rw [handleError, found]
  exact ⟨_, next, completed, ⟨rfl, rfl⟩, received⟩

omit [DecidableEq IPEndpoint] in
theorem timeoutExpired_completes {channel scheduledFor : Nat}
    (waits : system.pending channel = some scheduledFor) :
    CompletedBy channel scheduledFor reactions system
      (system.timeoutExpired channel scheduledFor reactions) := by
  obtain ⟨next, completed, received⟩ :=
    responseReceived_eq ⟨.RPC_TIMEOUT, .timeout scheduledFor⟩ reactions waits
  have same : system.timeoutExpired channel scheduledFor reactions =
      ((system.unregisterChannel channel).cancelTimeout channel).responseReceived channel
        ⟨.RPC_TIMEOUT, .timeout scheduledFor⟩ reactions := by
    have cancelled : ((system.cancelTimeout channel).channels channel).pendingCallback =
        some scheduledFor := by
      rw [cancelTimeout, setChannel_self]
      exact waits
    have unregistered : (((system.unregisterChannel channel).cancelTimeout channel).channels
        channel).pendingCallback = some scheduledFor := cancelled
    rw [timeoutExpired, responseReceived, unregistered]
    dsimp only
    rw [cancelled]
    rfl
  exact ⟨_, next, completed, ⟨rfl, rfl⟩, same.trans received⟩

omit [DecidableEq IPEndpoint] in
/-- Identifiers and network channels play no part in the invariant. -/
theorem configure_invariant (invariant : Invariant system) {channel : Nat}
    {value : RpcChannel IPEndpoint}
    (pending : value.pendingCallback = (system.channels channel).pendingCallback)
    (timeout : value.timeout = (system.channels channel).timeout)
    (response : value.pendingResponse = (system.channels channel).pendingResponse) :
    Invariant (system.setChannel channel value) := by
  have pendingEq : ∀ other, (system.setChannel channel value).pending other =
      system.pending other := by
    intro other
    by_cases same : other = channel
    · rw [same, RpcSystem.pending, setChannel_self, pending]
      rfl
    · rw [RpcSystem.pending, setChannel_of_ne _ _ same]
      rfl
  refine ⟨⟨?_, invariant.unsent, ?_, ?_⟩, invariant.future, ?_, ?_⟩
  · intro call made returned
    refine (invariant.sent call made returned).congr ?_ rfl rfl
    intro other waits
    rw [pendingEq, waits]
  · intro other
    rw [pendingEq]
    exact invariant.listed other
  · intro other
    rw [pendingEq]
    by_cases same : other = channel
    · rw [same, setChannel_self, timeout]
      exact invariant.scheduled channel
    · rw [setChannel_of_ne _ _ same]
      exact invariant.scheduled other
  · intro other call waits
    rw [pendingEq] at waits
    obtain ⟨made, returned, none_, set⟩ := invariant.made other call waits
    refine ⟨made, returned, none_, ?_⟩
    by_cases same : other = channel
    · rw [same, setChannel_self, response, ← same, set]
      rfl
    · rw [setChannel_of_ne _ _ same, set]
      rfl
  · intro first second call firstWaits secondWaits
    rw [pendingEq] at firstWaits secondWaits
    exact invariant.distinct first second call firstWaits secondWaits

theorem perform_invariant {event : RpcEvent IPEndpoint} (invariant : Invariant system)
    (performed : system.perform event = some next) (orderly : system.Orderly event) :
    Invariant next := by
  cases event with
  | callMethod attempt =>
    cases performed
    exact callMethod_invariant invariant attempt
  | response message reactions =>
    cases performed
    cases found : system.findChannel message with
    | none => rwa [handleResponse, found]
    | some channel =>
      by_cases port : (system.channels channel).localPort = some message.localPort
      · exact (handleResponse_completes invariant orderly found port).invariant invariant
          (orderly channel found port).1
      · rw [handleResponse, found]
        dsimp only
        rwa [if_pos port]
  | error message reactions =>
    cases performed
    cases found : system.findChannel message with
    | none => rwa [handleError, found]
    | some channel =>
      exact (handleError_completes orderly found).invariant invariant (orderly channel found)
  | timeoutExpired channel reactions =>
    obtain ⟨scheduledFor, scheduled, rfl⟩ := Option.map_eq_some_iff.mp performed
    have waits := (invariant.scheduled channel).symm.trans scheduled
    exact (timeoutExpired_completes waits).invariant invariant waits
  | configure channel serviceId clientId sessionId isOpen remoteIp localPort =>
    cases performed
    exact configure_invariant invariant rfl rfl rfl

omit [DecidableEq IPEndpoint] in
theorem Initial.invariant (initial : Initial system) : Invariant system := by
  obtain ⟨list, calls, completions, channels⟩ := initial
  have idle : ∀ channel, system.pending channel = none := fun channel => (channels channel).1
  refine ⟨⟨?_, ?_, ?_, ?_⟩, fun call _ => completions call, ?_, ?_⟩
  · intro call made
    omega
  · intro call made
    omega
  · intro channel
    rw [list, idle]
    simp
  · intro channel
    rw [idle, (channels channel).2]
  · intro channel call waits
    rw [idle] at waits
    exact absurd waits (by simp)
  · intro channel other call waits
    rw [idle] at waits
    exact absurd waits (by simp)

/-! ## Answers to pending calls -/

omit [DecidableEq IPEndpoint] in
/-- A message has the identifiers of a channel. -/
def Identifies (system : RpcSystem IPEndpoint) (message : RpcReply IPEndpoint)
    (channel : Nat) : Prop :=
  (system.channels channel).serviceId = message.serviceId ∧
    (system.channels channel).clientId = message.clientId ∧
    (system.channels channel).remoteIp = message.sourceAddress ∧
    (system.channels channel).sessionId = message.sessionId

omit [DecidableEq IPEndpoint] in
/-- A message has the identifiers of this channel and of no other one that waits. -/
def Awaits (system : RpcSystem IPEndpoint) (channel : Nat)
    (message : RpcReply IPEndpoint) : Prop :=
  system.Identifies message channel ∧ ∀ other, (system.pending other).isSome = true →
    system.Identifies message other → other = channel

omit [DecidableEq IPEndpoint] in
/-- The events that answer what is pending on a channel. -/
def Answers (system : RpcSystem IPEndpoint) (channel : Nat) : RpcEvent IPEndpoint → Prop
  | .response message _ => system.Awaits channel message ∧
      (system.channels channel).localPort = some message.localPort
  | .error message _ => system.Awaits channel message
  | .timeoutExpired expired _ => expired = channel
  | _ => False

/-- The response, the error message and the timeout of a pending call can happen, and each of
them completes it with its own result. -/
def Completes (system : RpcSystem IPEndpoint) : Prop :=
  ∀ channel call event, system.pending channel = some call → system.Answers channel event →
    system.Orderly event → ∃ next completion, system.perform event = some next ∧
      next.completions call = [completion] ∧ system.Own call completion

theorem Awaits.found {channel call : Nat} {message : RpcReply IPEndpoint}
    (awaits : system.Awaits channel message) (invariant : Invariant system)
    (waits : system.pending channel = some call) :
    system.findChannel message = some channel := by
  have listed := (invariant.listed channel).mpr (by rw [waits]; rfl)
  have some : (system.findChannel message).isSome = true :=
    List.find?_isSome.mpr ⟨channel, listed, decide_eq_true_iff.mpr awaits.1⟩
  obtain ⟨other, found⟩ := Option.isSome_iff_exists.mp some
  have waiting := (invariant.listed other).mp (List.mem_of_find?_eq_some found)
  have meets := List.find?_some found
  rw [decide_eq_true_iff] at meets
  rwa [awaits.2 other waiting meets] at found

theorem Invariant.completes (invariant : Invariant system) : Completes system := by
  intro channel call event waits answers orderly
  cases event with
  | response message reactions =>
    have found := answers.1.found invariant waits
    have own := (orderly channel found answers.2).1
    obtain rfl := Option.some.inj (waits.symm.trans own)
    obtain ⟨completion, done⟩ := (handleResponse_completes invariant orderly found
      answers.2).completions invariant own
    exact ⟨_, completion, rfl, done⟩
  | error message reactions =>
    have found := answers.found invariant waits
    have own := orderly channel found
    obtain rfl := Option.some.inj (waits.symm.trans own)
    obtain ⟨completion, done⟩ :=
      (handleError_completes orderly found).completions invariant own
    exact ⟨_, completion, rfl, done⟩
  | timeoutExpired expired reactions =>
    obtain rfl : expired = channel := answers
    have completed : CompletedBy expired call reactions system
        (system.timeoutExpired expired call reactions) := timeoutExpired_completes waits
    obtain ⟨completion, done⟩ := completed.completions invariant waits
    refine ⟨_, completion, ?_, done⟩
    rw [perform, invariant.scheduled, waits]
    rfl
  | callMethod attempt => exact absurd answers id
  | configure => exact absurd answers id

/-- In every run of orderly events every call that was sent is completed
exactly once, for its own reason, or is still pending on a listed channel with
its timeout scheduled, where its response, an error message and the timeout
complete it; no other call is completed. -/
theorem calls_complete_once (system : RpcSystem IPEndpoint)
    (reached : (runs.restrict Orderly).Reachable system) : Exact system ∧ Completes system := by
  have invariant : (runs.restrict Orderly :
      System (RpcSystem IPEndpoint) (RpcEvent IPEndpoint)).Inductive Invariant := by
    constructor
    · intro state initial
      exact Initial.invariant initial
    · intro source event target holds stepped
      exact perform_invariant holds stepped.1 stepped.2
  have holds := invariant.of_reachable reached
  exact ⟨holds.toExact, holds.completes⟩

/-! ## Runs on one channel -/

/-- Channels that are open, with one set of identifiers. -/
def sampleSystem : RpcSystem Nat where
  channels _ := ⟨1, 0, 0, true, 7, some 30490, false, none, none⟩
  rpcChannelList := []
  calls := 0
  returned _ := none
  supplied _ := false
  completions _ := []

/-- A call on channel 0 that is delivered. -/
def sampleCall : CallAttempt := ⟨0, true, true, true, true, true⟩

/-- A positive response to a call on a channel of the sample. -/
def sampleReply (decodes : Bool) (answers : Nat) : RpcReply Nat :=
  ⟨1, 0, 0, 7, 30490, 0, decodes, answers⟩

/-- The closure of call 0 makes one more call. -/
def sampleReactions : Reactions := fun call _ => if call = 0 then [sampleCall] else []

/-- A call that is answered, and whose closure makes the next call, which times out. -/
theorem calls_complete_once_sample :
    ∃ final, System.play perform sampleSystem
        [.callMethod sampleCall, .response (sampleReply true 0) sampleReactions,
          .timeoutExpired 0 sampleReactions] = some final ∧
      final.completions 0 = [⟨.RPC_POSITIVE_RESPONSE, .response (sampleReply true 0)⟩] ∧
      final.completions 1 = [⟨.RPC_TIMEOUT, .timeout 1⟩] ∧ Exact final ∧ Completes final := by
  have start : sampleSystem.Initial := ⟨rfl, rfl, fun _ => rfl, fun _ => ⟨rfl, rfl⟩⟩
  have called : (runs.restrict Orderly).Step sampleSystem (.callMethod sampleCall)
      (sampleSystem.callMethod sampleCall) := ⟨rfl, trivial⟩
  have answered : (runs.restrict Orderly).Step (sampleSystem.callMethod sampleCall)
      (.response (sampleReply true 0) sampleReactions)
      ((sampleSystem.callMethod sampleCall).handleResponse (sampleReply true 0)
        sampleReactions) := by
    refine ⟨rfl, ?_⟩
    intro channel found _
    obtain rfl : 0 = channel := Option.some.inj found
    exact ⟨rfl, fun _ undecodable => absurd undecodable (by decide)⟩
  have expired : (runs.restrict Orderly).Step
      ((sampleSystem.callMethod sampleCall).handleResponse (sampleReply true 0) sampleReactions)
      (.timeoutExpired 0 sampleReactions)
      (((sampleSystem.callMethod sampleCall).handleResponse (sampleReply true 0)
        sampleReactions).timeoutExpired 0 1 sampleReactions) := ⟨rfl, trivial⟩
  exact ⟨_, rfl, rfl, rfl,
    calls_complete_once _ (.step (.step (.step (.initial start) called) answered) expired)⟩

/-- An undecodable response completes the call that the closure makes, and
leaves the channel in the list; and a response that comes after the timeout
completes the next call. -/
theorem not_calls_complete_once :
    (∃ final, System.play perform sampleSystem
        [.callMethod sampleCall, .response (sampleReply false 0) sampleReactions] = some final ∧
      ¬ Exact final) ∧
      ∃ final, System.play perform sampleSystem
        [.callMethod sampleCall, .timeoutExpired 0 fun _ _ => [], .callMethod sampleCall,
          .response (sampleReply true 0) fun _ _ => []] = some final ∧ ¬ Exact final := by
  refine ⟨⟨_, rfl, fun exact_ => ?_⟩, ⟨_, rfl, fun exact_ => ?_⟩⟩
  · have listed := (exact_.listed 0).mp (by decide)
    exact absurd listed (by decide)
  · rcases exact_.sent 1 (by decide) rfl with ⟨channel, -, nothing⟩ | ⟨completion, done, own⟩
    · exact absurd nothing (List.cons_ne_nil _ _)
    · obtain rfl := List.head_eq_of_cons_eq done
      exact absurd own.1 (by decide)

end OpenBsw.Someip.RpcSystem
