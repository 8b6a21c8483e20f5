import OpenBsw.Uds.ConnectionInvariant

/-!
# Steps of an incoming connection

Every closure, confirmation and timeout keeps the invariant, as long as the timeout of the
whole request does not interrupt a nested request.
-/

namespace OpenBsw.Uds.ConnectionRuns

open DiagReturnCode IncomingDiagConnection List

variable {connection after : IncomingDiagConnection} {job : JobId} {work : Work}
  {pending : Pending}

/-! ## Sending -/

/-- A message behind others that are not final. -/
theorem ordered_concat {sent : List Sent} (notFinal : ∀ before ∈ sent, before.final = false)
    (last : Sent) : (sent ++ [last]).Pairwise fun before _ => before.final = false := by
  refine pairwise_append.mpr ⟨?_, pairwise_singleton _ _, ?_⟩
  · exact List.Pairwise.imp_mem.mpr (pairwise_of_forall fun before _ member _ =>
      notFinal before member)
  · exact fun before member _ _ => notFinal before member

/-- A message that is not final, before the final one. -/
theorem Core.handOver (core : Core connection job work pending)
    (notHanded : work.isHanded = false) (sent : Sent) (notFinal : sent.final = false) :
    Core (connection.handOver sent) job work pending :=
  { core with
    handed := by
      intro before member final
      rcases mem_append.mp member with front | back
      · exact core.handed before front final
      · rw [mem_singleton.mp back, notFinal] at final
        exact Bool.noConfusion final
    logged := by
      rw [notHanded]
      exact fun handed => Bool.noConfusion handed
    ordered := ordered_concat (core.not_final notHanded) sent }

/-- A ResponsePending of the connection itself is sent while nothing is counted. -/
theorem Core.sendResponsePending (core : Core connection job work .absent)
    (uncounted : work.counted = 0) (taken : Bool) :
    Core (connection.sendResponsePending taken) job work (if taken then .inFlight else .absent)
    := by
  have messages := Work.messages_of_uncounted uncounted
  have count := core.count
  have unconfirmed := core.unconfirmed
  rw [uncounted] at count
  rw [messages] at unconfirmed
  have logged := core.handOver (Work.isHanded_of_uncounted uncounted)
    ⟨false, taken, connection.buildResponsePendingTransportMessage⟩ rfl
  rw [IncomingDiagConnection.sendResponsePending, if_neg (by simp [core.isOpen])]
  cases taken with
  | false => exact logged
  | true =>
    exact
      { logged with
        count := by
          simp only [increment, IncomingDiagConnection.handOver, count, uncounted, if_true]
          rfl
        scheduled := logged.scheduled
        unconfirmed := by
          simp only [increment, IncomingDiagConnection.handOver, unconfirmed, messages, if_true]
          rfl
        beingSent := rfl
        wrapped := by
          simp only [increment, IncomingDiagConnection.handOver, core.wrapped, count]
          rfl }

/-- What sending a ResponsePending does not touch. -/
theorem keeps_sendResponsePending (connection : IncomingDiagConnection) (taken : Bool) :
    (connection.sendResponsePending taken).nestedRequest = connection.nestedRequest ∧
      (connection.sendResponsePending taken).jobs = connection.jobs ∧
        (connection.sendResponsePending taken).hasResponse = connection.hasResponse ∧
          (connection.sendResponsePending taken).responsePendingTimeout =
            connection.responsePendingTimeout := by
  unfold IncomingDiagConnection.sendResponsePending
  split
  · exact ⟨rfl, rfl, rfl, rfl⟩
  · cases taken <;> exact ⟨rfl, rfl, rfl, rfl⟩

theorem Nested.of_eq (knows : Nested connection job work)
    (nested : after.nestedRequest = connection.nestedRequest) (jobs : after.jobs = connection.jobs)
    (response : after.hasResponse = connection.hasResponse) : Nested after job work := by
  intro request running
  rw [nested] at running
  rw [jobs, response]
  exact knows request running

/-! ## When all responses have been sent -/

/-- With nothing counted and no nested request the job in charge works. -/
theorem Sound.quiet_or_closed (sound : Sound connection) (none : connection.nestedRequest = none)
    (count : connection.numPendingMessageProcessedCallbacks = 0) :
    Closed connection ∨ Quiet connection := by
  rcases sound with closed | ⟨job, work, pending, core, knows, fits⟩
  · exact .inl closed
  · right
    have counted := core.count
    rw [count] at counted
    obtain rfl : pending = .absent := by
      cases pending <;> simp only [Pending.counted] at counted <;> first | rfl | omega
    cases work with
    | working => exact core.quiet rfl none
    | scheduled _ _ | delayed _ | sent _ | processed _ | executing _ =>
      simp only [Work.counted] at counted
      omega
    | waitsForPending =>
      obtain ⟨running, _⟩ := fits
      rw [none] at running
      exact Bool.noConfusion running
    | triggered =>
      obtain ⟨nested, running, _⟩ := fits
      rw [none] at running
      cases running
    | finished => exact absurd rfl fits.2.1
    | called _ | idle | nesting => exact fits.elim

/-- A termination that was waiting. -/
theorem Sound.terminate (sound : Sound connection) (none : connection.nestedRequest = none)
    (count : connection.numPendingMessageProcessedCallbacks = 0) :
    Closed connection.terminate := by
  rcases sound.quiet_or_closed none count with closed | quiet
  · rw [terminate_of_closed closed]
    exact closed
  · exact quiet.terminate

/-- A ResponsePending of the connection itself, with nothing counted. -/
theorem Sound.sendResponsePending (sound : Sound connection)
    (count : connection.numPendingMessageProcessedCallbacks = 0) (taken : Bool) :
    Sound (connection.sendResponsePending taken) := by
  rcases sound with closed | ⟨job, work, pending, core, knows, fits⟩
  · rw [IncomingDiagConnection.sendResponsePending, if_pos closed.isOpen]
    exact .inl closed
  · have counted := core.count
    rw [count] at counted
    obtain rfl : pending = .absent := by
      cases pending <;> simp only [Pending.counted] at counted <;> first | rfl | omega
    obtain ⟨nested, jobs, response, timeout⟩ := keeps_sendResponsePending connection taken
    have knowsAfter := knows.of_eq nested jobs response
    have uncounted : work.counted = 0 := by
      simp only [Pending.counted] at counted
      omega
    refine .inr ⟨job, work, _, core.sendResponsePending uncounted taken, knowsAfter, ?_⟩
    cases work with
    | working => trivial
    | scheduled _ _ | delayed _ | sent _ | processed _ | executing _ =>
      exact (Nat.one_ne_zero uncounted).elim
    | waitsForPending =>
      refine ⟨by rw [nested]; exact fits.1, ?_⟩
      rw [timeout]
      exact .inr (fits.2.resolve_left fun present => present rfl)
    | triggered =>
      obtain ⟨request, running, ok⟩ := fits
      exact ⟨request, nested.trans running, ok⟩
    | finished => exact absurd rfl fits.2.1
    | called _ | idle | nesting => exact fits.elim

theorem Quiet.allSent (quiet : Quiet connection)
    (terminates : connection.connectionTerminationIsPending = true) (pendingTaken : Bool) :
    Closed (connection.allSent pendingTaken) := by
  rw [IncomingDiagConnection.allSent, if_neg (by simp [quiet.count]), if_pos terminates]
  exact quiet.terminate

theorem sound_allSent (sound : Sound connection) (settles : Settles connection)
    (pendingTaken : Bool) : Sound (connection.allSent pendingTaken) := by
  unfold allSent
  split
  · exact sound
  next count =>
    have count : connection.numPendingMessageProcessedCallbacks = 0 := not_not.mp count
    split
    next terminates => exact .inl (sound.terminate (settles terminates) count)
    next =>
      split
      · have still : Sound { connection with responsePendingIsPending := false } := by
          rcases sound with closed | ⟨job, work, pending, core, knows, fits⟩
          · exact .inl { closed with }
          · exact .inr ⟨job, work, pending, { core with }, knows, fits⟩
        exact still.sendResponsePending count pendingTaken
      · exact sound

/-! ## The response message -/

variable {final : Bool} {closure : Closure} {nested : NestedRequest}

/-- After a failed or ignored response nothing of the job is on its way. -/
theorem Core.senderCalled (core : Core connection job (.delayed final) pending) :
    Core { connection.decrement with sender := none } job (.called final) pending := by
  have count := core.count
  have small : pending.counted ≤ 1 := by cases pending <;> simp [Pending.counted]
  simp only [Work.counted] at count
  exact
    { core with
      count := by
        simp only [decrement, count, Work.counted]
        omega
      scheduled := core.scheduled
      sender := rfl
      response := fun _ => core.response (.inr (by simp))
      wrapped := by
        simp only [decrement, core.wrapped, count, Bool.false_or, beq_eq_false_iff_ne]
        omega
      handed := by
        intro sent member isFinal
        exact Bool.noConfusion (core.handed sent member isFinal) }

theorem Core.senderResponseSent (core : Core connection job (.delayed final) pending)
    (reaction : List (JobId × Action)) :
    connection.decrement.senderResponseSent reaction =
      { connection.decrement with sender := none }.responseSent job reaction := by
  have sender : connection.decrement.sender = some job := core.sender
  rw [IncomingDiagConnection.senderResponseSent, sender]

/-- What is written down when the response message is handed over. -/
theorem Core.isFinal (core : Core connection job (.delayed final) pending) :
    (connection.sender.any fun sender => connection.jobs[sender]? == some .answered) =
      final := by
  have inCharge := core.inCharge
  have sender : connection.sender = some job := core.sender
  rw [sender, Option.any_some, inCharge]
  cases final <;> rfl

/-- The callback after a final response closes a connection with nothing else on its way. -/
theorem closed_senderResponseSent (isOpen : connection.isOpen = true)
    (count : connection.numPendingMessageProcessedCallbacks = 0)
    (scheduled : connection.scheduled = []) (unconfirmed : connection.unconfirmed = [])
    (nested : connection.nestedRequest = none) (sender : connection.sender = some job)
    (answered : connection.jobs[job]? = some .answered)
    (terminations : connection.log.terminations = 0)
    (overwritten : connection.log.overwritten = false) (wrapped : connection.log.wrapped = false)
    (ordered : Ordered connection) (reaction : List (JobId × Action)) :
    Closed (connection.senderResponseSent reaction) := by
  have quiet : Quiet ({ connection with sender := none }.setPhase job .done) :=
    ⟨isOpen, count, scheduled, unconfirmed, nested, terminations, overwritten, wrapped, ordered⟩
  have called : { connection with sender := none }.responseSent job reaction =
      ({ connection with sender := none }.setPhase job .done).terminate := by
    apply responseSent_of_answered
    exact answered
  rw [IncomingDiagConnection.senderResponseSent, sender]
  simp only
  rw [called]
  exact quiet.terminate

/-- The callback after a ResponsePending starts no nested request behind a termination. -/
theorem settles_responseSent (core : Core connection job (.called false) pending)
    (none : connection.nestedRequest = none) {reaction : List (JobId × Action)}
    (allowed : Allowed connection reaction) : Settles (connection.responseSent job reaction) := by
  rw [core.responseSent_called]
  have settles : Settles (connection.setPhase job .working) := fun _ => none
  exact settles.react (sound_works_on core (Nested.of_none none)) allowed

/-- The response message is handed over while no ResponsePending is on its way. -/
theorem sound_sendResponse (core : Core connection job (.delayed final) .absent)
    (none : connection.nestedRequest = none) (around : Surroundings)
    (allowed : Allowed connection around.reaction) :
    Sound (connection.sendResponse around) ∧ Settles (connection.sendResponse around) := by
  have response : connection.hasResponse = true := core.response (.inr (by simp))
  have count := core.count
  simp only [Work.counted, Pending.counted] at count
  rw [sendResponse, if_neg (by simp [response]), core.isFinal]
  simp only
  split
  · refine ⟨.inr ⟨job, .sent final, .absent, ?_, Nested.of_none none, none, rfl⟩,
      fun _ => none⟩
    exact
      { core with
        scheduled := core.scheduled
        unconfirmed := by
          show connection.unconfirmed ++ [.responseMessage] = _
          rw [core.unconfirmed]
          rfl
        response := fun _ => response
        handed := by
          intro sent member isFinal
          rcases mem_append.mp member with before | new
          · rw [core.not_final rfl sent before] at isFinal
            exact Bool.noConfusion isFinal
          · rw [mem_singleton.mp new] at isFinal
            exact isFinal
        logged := fun isFinal => ⟨_, mem_append_right _ mem_cons_self, isFinal⟩
        ordered := ordered_concat (core.not_final rfl) _ }
  next notTaken =>
    have settled : Sound ((connection.handOver
          ⟨final, around.responseTaken, connection.message⟩).decrement.senderResponseSent
            around.reaction) ∧
        Settles ((connection.handOver
          ⟨final, around.responseTaken, connection.message⟩).decrement.senderResponseSent
            around.reaction) := by
      cases final with
      | true =>
        have scheduled : connection.scheduled = [] := by
          rcases core.scheduled with scheduled | scheduled <;> exact scheduled
        have closed : Closed ((connection.handOver
            ⟨true, around.responseTaken, connection.message⟩).decrement.senderResponseSent
              around.reaction) := by
          apply closed_senderResponseSent
          · exact core.isOpen
          · simp only [decrement, IncomingDiagConnection.handOver, count]
          · exact scheduled
          · exact core.unconfirmed
          · exact none
          · exact core.sender
          · exact core.inCharge
          · exact core.terminations
          · exact core.overwritten
          · simp only [decrement, IncomingDiagConnection.handOver, core.wrapped, count]
            rfl
          · exact ordered_concat (core.not_final rfl) _
        exact ⟨.inl closed, fun _ => closed.nested⟩
      | false =>
        have logged := core.handOver rfl
          ⟨false, around.responseTaken, connection.message⟩ rfl
        rw [logged.senderResponseSent]
        exact ⟨sound_responseSent logged.senderCalled (Nested.of_none none) around.reaction,
          settles_responseSent logged.senderCalled none allowed⟩
    split
    next waiting =>
      have closed := settled.1.terminate (settled.2 waiting.1) waiting.2
      exact ⟨.inl closed, fun _ => closed.nested⟩
    next => exact settled

/-! ## The closures of an answer -/

/-- A closure that was taken from the front is either the job's or the one of the
ResponsePending; what is left is the other's. -/
theorem head_cases {xs ys rest : List Closure} (xsShort : xs.length ≤ 1) (ysShort : ys.length ≤ 1)
    (scheduled : closure :: rest = xs ++ ys ∨ closure :: rest = ys ++ xs) :
    (xs = [closure] ∧ rest = ys) ∨ (ys = [closure] ∧ rest = xs) := by
  cases xs with
  | nil =>
    right
    have front : closure :: rest = ys := by simpa using scheduled
    subst front
    exact ⟨by simpa using ysShort, by simpa using ysShort⟩
  | cons x xs =>
    obtain rfl : xs = [] := by simpa using xsShort
    cases ys with
    | nil =>
      left
      simpa [eq_comm] using scheduled
    | cons y ys =>
      obtain rfl : ys = [] := by simpa using ysShort
      rcases scheduled with scheduled | scheduled
      · left
        simpa [eq_comm] using scheduled
      · right
        simpa [eq_comm] using scheduled

/-- The closure of the answer is executed. -/
theorem Core.executing (core : Core connection job (.scheduled closure final) pending) :
    Core { connection with scheduled := pending.closures } job (.executing final) pending :=
  { core with
    scheduled := .inl rfl
    response := fun _ => core.response (.inr (by simp))
    handed := core.handed }

/-- The answer is in the response message and the job is remembered as its sender. -/
theorem Core.delayed (core : Core connection job (.executing final) pending)
    (message : Transport.TransportMessage) (negativeResponseTempBuffer : List UInt8) :
    Core { connection with message, negativeResponseTempBuffer, sender := some job } job
      (.delayed final) pending :=
  { core with
    sender := rfl
    response := fun _ => core.response (.inr (by simp))
    handed := core.handed }

/-- The answer to a part of a nested request is not sent. -/
theorem Core.counted_out (core : Core connection job (.executing final) pending) :
    Core connection.decrement job (.called final) pending := by
  have count := core.count
  have small : pending.counted ≤ 1 := by cases pending <;> simp [Pending.counted]
  simp only [Work.counted] at count
  exact
    { core with
      count := by
        simp only [decrement, count, Work.counted]
        omega
      response := fun _ => core.response (.inr (by simp))
      wrapped := by
        simp only [decrement, core.wrapped, count, Bool.false_or, beq_eq_false_iff_ne]
        omega
      handed := core.handed }

/-- The nested request takes the answer to its part. -/
theorem Core.withNested (core : Core connection job work pending)
    (running : connection.nestedRequest = some nested) (changed : NestedRequest)
    (sameSender : changed.senderJob = nested.senderJob) :
    Core (connection.withNested changed) job work pending :=
  { core with
    others := by
      intro other phase away found
      rcases core.others away found with done | ⟨request, isRunning, sender⟩
      · exact .inl done
      · rw [running] at isRunning
        refine .inr ⟨changed, rfl, ?_⟩
        rw [sameSender, Option.some.inj isRunning]
        exact sender }

theorem Nested.withNested (knows : Nested connection job work)
    (running : connection.nestedRequest = some nested) (changed : NestedRequest)
    (sameSender : changed.senderJob = nested.senderJob) {next : Work}
    (waits : changed.pendingResponseSender = if next = .waitsForPending then some job else none) :
    Nested (connection.withNested changed) job next := by
  intro request isRunning
  cases isRunning
  obtain ⟨notInCharge, nesting, response, _⟩ := knows nested running
  rw [sameSender]
  exact ⟨notInCharge, nesting, response, waits⟩

/-- The response goes out at once or behind the ResponsePending on its way. -/
theorem sound_sendOrDelay (core : Core connection job (.delayed final) pending)
    (none : connection.nestedRequest = none) (around : Surroundings)
    (allowed : Allowed connection around.reaction) : Sound (connection.sendOrDelay around) := by
  rw [sendOrDelay, core.beingSent]
  by_cases absent : pending = .absent
  · subst absent
    rw [if_neg (by simp)]
    exact (sound_sendResponse core none around allowed).1
  · rw [if_pos (by simpa using absent)]
    exact .inr ⟨job, .delayed final, pending, core, Nested.of_none none, none, absent⟩

theorem sound_ignoreResponse (core : Core connection job (.delayed final) pending)
    (none : connection.nestedRequest = none) (around : Surroundings) :
    Sound (connection.ignoreResponse around) := by
  rw [ignoreResponse, core.senderResponseSent]
  exact sound_responseSent core.senderCalled (Nested.of_none none) around.reaction

theorem sound_asyncSendPositiveResponse {length : Nat}
    (core : Core connection job (.executing true) pending)
    (knows : Nested connection job (.executing true)) (around : Surroundings)
    (allowed : Allowed connection around.reaction) :
    Sound (connection.asyncSendPositiveResponse length job around) := by
  unfold asyncSendPositiveResponse
  split
  next nested running =>
    have waits := (knows nested running).2.2.2
    have called : Core connection.decrement job (.called true) pending := core.counted_out
    have still : Nested connection.decrement job (.executing true) := knows
    apply sound_responseSent
    · exact called.withNested running _ rfl
    · apply still.withNested running
      · rfl
      · exact waits
  next none =>
    have delayed := core.delayed (connection.buildPositiveResponse length)
      connection.negativeResponseTempBuffer
    simp only
    split
    · exact sound_sendOrDelay delayed none around allowed
    · exact sound_ignoreResponse delayed none around

/-- A job of a nested request asks for a ResponsePending that would be sent now. -/
def AsksPending (connection : IncomingDiagConnection) : Prop :=
  ∃ sender rest nested,
    connection.scheduled = .sendNegativeResponse ISO_RESPONSE_PENDING sender :: rest ∧
      connection.nestedRequest = some nested ∧ nested.isPendingSent = false ∧
        connection.numPendingMessageProcessedCallbacks = 1

/-- The job of a part waits for a ResponsePending. -/
theorem Core.waits (core : Core connection job (.called false) pending)
    (responsePendingIsPending : Bool) :
    Core { connection with responsePendingIsPending } job .waitsForPending pending :=
  { core with response := fun _ => core.response (.inr (by simp)) }

theorem Core.restartPendingTimeout (core : Core connection job work pending) :
    Core connection.restartPendingTimeout job work pending :=
  { core with armed := id }

/-- A job that waits for a ResponsePending gets one: it is on its way already, it is taken, or
the timeout tries again. -/
theorem sound_waits (core : Core connection job .waitsForPending pending)
    (knows : Nested connection job .waitsForPending)
    (running : connection.nestedRequest.isSome = true)
    (waits : connection.responsePendingIsPending = decide (pending ≠ .absent)) {taken : Bool}
    (again : pending = .absent → taken = true ∨ connection.pendingActivated = true) :
    Sound (if connection.responsePendingIsPending = true then connection
      else connection.sendResponsePending taken).restartPendingTimeout := by
  rw [waits]
  by_cases absent : pending = .absent
  · subst absent
    obtain ⟨nested, jobs, response, _⟩ := keeps_sendResponsePending connection taken
    rw [if_neg (by simp)]
    refine .inr ⟨job, .waitsForPending, _,
      (core.sendResponsePending rfl taken).restartPendingTimeout,
      knows.of_eq nested jobs response, ?_, ?_⟩
    · exact (congrArg Option.isSome nested).trans running
    · cases taken with
      | true => exact .inl (by simp)
      | false =>
        right
        have activated : (connection.sendResponsePending false).pendingActivated =
            connection.pendingActivated := by
          unfold IncomingDiagConnection.sendResponsePending
          split <;> rfl
        exact activated.trans ((again rfl).resolve_left Bool.false_ne_true)
  · rw [if_pos (by simpa using absent)]
    exact .inr ⟨job, .waitsForPending, pending, core.restartPendingTimeout, knows, running,
      .inl absent⟩

theorem sound_asyncSendNestedNegativeResponse {code : UInt8}
    (core : Core connection job (.executing (decide (code ≠ ISO_RESPONSE_PENDING))) pending)
    (knows : Nested connection job (.executing (decide (code ≠ ISO_RESPONSE_PENDING))))
    (running : connection.nestedRequest = some nested) (around : Surroundings)
    (pendingTaken : code = ISO_RESPONSE_PENDING → nested.isPendingSent = false →
      connection.numPendingMessageProcessedCallbacks = 1 →
      around.pendingTaken = true ∨ connection.pendingActivated = true) :
    Sound (connection.asyncSendNestedNegativeResponse nested code job around) := by
  have called := core.counted_out
  have waits := (knows nested running).2.2.2
  have still : Nested connection.decrement job
      (.executing (decide (code ≠ ISO_RESPONSE_PENDING))) := knows
  have same : connection.decrement.nestedRequest = some nested := running
  unfold asyncSendNestedNegativeResponse
  simp only
  split
  · apply sound_responseSent
    · exact called.withNested same _ rfl
    · apply still.withNested same
      · rfl
      · exact waits
  next isPending =>
    have isPending : code = ISO_RESPONSE_PENDING := not_not.mp isPending
    subst isPending
    split
    next notSent =>
      have waiting := (called.withNested same { nested with pendingResponseSender := some job }
        rfl).waits (decide (connection.decrement.numPendingMessageProcessedCallbacks ≠ 0))
      have knowsWaiting : Nested { connection.decrement.withNested
          { nested with pendingResponseSender := some job } with
          responsePendingIsPending :=
            decide (connection.decrement.numPendingMessageProcessedCallbacks ≠ 0) } job
              .waitsForPending := by
        apply still.withNested same
        · rfl
        · rfl
      have count := core.count
      have calledCount := called.count
      simp only [Work.counted] at count calledCount
      apply sound_waits waiting knowsWaiting rfl
      · simp only [calledCount]
        cases pending <;> simp [Pending.counted]
      · intro absent
        subst absent
        exact pendingTaken rfl notSent count
    next =>
      exact sound_responseSent called still around.reaction

theorem sound_asyncSendNegativeResponse {code : UInt8}
    (core : Core connection job (.executing (decide (code ≠ ISO_RESPONSE_PENDING))) pending)
    (knows : Nested connection job (.executing (decide (code ≠ ISO_RESPONSE_PENDING))))
    (around : Surroundings) (allowed : Allowed connection around.reaction)
    (pendingTaken : ∀ nested, code = ISO_RESPONSE_PENDING →
      connection.nestedRequest = some nested → nested.isPendingSent = false →
        connection.numPendingMessageProcessedCallbacks = 1 →
          around.pendingTaken = true ∨ connection.pendingActivated = true) :
    Sound (connection.asyncSendNegativeResponse code job around) := by
  unfold asyncSendNegativeResponse
  split
  next nested running =>
    exact sound_asyncSendNestedNegativeResponse core knows running around
      fun isPending notSent count => pendingTaken nested isPending running notSent count
  next none =>
    have delayed := core.delayed (connection.buildNegativeResponse code) connection.backup
    simp only
    split
    · split
      · exact sound_sendOrDelay delayed.restartPendingTimeout none around allowed
      · exact sound_sendOrDelay delayed none around allowed
    · exact sound_ignoreResponse delayed none around

/-! ## Confirmations and timeouts -/

/-- The ResponsePending of the connection itself is confirmed. -/
theorem Core.confirmed (core : Core connection job work .processed) :
    Core { { connection with scheduled := work.closures }.decrement with
      responsePendingIsBeingSent := false } job work .absent := by
  have count := core.count
  have small : work.counted ≤ 1 := by cases work <;> simp [Work.counted]
  simp only [Pending.counted] at count
  exact
    { core with
      count := by
        simp only [decrement, count, Pending.counted]
        omega
      scheduled := .inr rfl
      unconfirmed := core.unconfirmed
      beingSent := rfl
      wrapped := by
        simp only [decrement, core.wrapped, count, Bool.false_or, beq_eq_false_iff_ne]
        omega }

/-- The job that waited for a ResponsePending is called. -/
theorem Core.waited (core : Core connection job .waitsForPending pending) :
    Core connection job (.called false) pending :=
  { core with response := fun _ => core.response (.inr (by simp)) }

/-- The part of a nested request after its ResponsePending was confirmed. -/
theorem sound_pendingMessageProcessed_nested (core : Core connection job work .absent)
    (knows : Nested connection job work) (fits : Fits connection job .processed work)
    (running : connection.nestedRequest = some nested) (around : Surroundings) :
    Sound (connection.pendingMessageProcessed around) := by
  have waits := (knows nested running).2.2.2
  have changed := core.withNested running
    { nested with isPendingSent := true, pendingResponseSender := none } rfl
  rw [pendingMessageProcessed, running]
  simp only
  by_cases waiting : work = .waitsForPending
  · subst waiting
    rw [if_pos rfl] at waits
    rw [waits]
    apply sound_responseSent changed.waited
    apply knows.withNested running
    · rfl
    · rfl
  · rw [if_neg waiting] at waits
    rw [waits]
    refine .inr ⟨job, work, .absent, changed, ?_, ?_⟩
    · apply knows.withNested running
      · rfl
      · rw [if_neg waiting]
    · cases work with
      | working => trivial
      | scheduled closure final => exact fits
      | waitsForPending => exact absurd rfl waiting
      | triggered =>
        obtain ⟨request, isRunning, ok⟩ := fits
        rw [running] at isRunning
        cases isRunning
        exact ⟨_, rfl, ok⟩
      | delayed _ | sent _ | processed _ | finished =>
        have none := fits.1
        rw [running] at none
        cases none
      | executing _ | called _ | idle | nesting => exact fits.elim

theorem sound_pendingMessageProcessed (core : Core connection job work .absent)
    (knows : Nested connection job work) (fits : Fits connection job .processed work)
    (around : Surroundings) (allowed : Allowed connection around.reaction) :
    Sound (connection.pendingMessageProcessed around) := by
  cases running : connection.nestedRequest with
  | some nested => exact sound_pendingMessageProcessed_nested core knows fits running around
  | none =>
    have settles : Settles connection := fun _ => running
    rw [pendingMessageProcessed, running]
    simp only [core.sender]
    cases work with
    | working | scheduled _ _ =>
      exact sound_allSent (.inr ⟨job, _, .absent, core, knows, fits⟩) settles _
    | delayed final =>
      have sent := sound_sendResponse core running around allowed
      exact sound_allSent sent.1 sent.2 _
    | sent _ | processed _ => exact absurd fits.2 (by simp)
    | waitsForPending =>
      obtain ⟨isSome, _⟩ := fits
      rw [running] at isSome
      exact Bool.noConfusion isSome
    | triggered =>
      obtain ⟨nested, isRunning, _⟩ := fits
      rw [running] at isRunning
      cases isRunning
    | finished =>
      exact .inl ((core.quiet rfl running).allSent fits.2.2 _)
    | executing _ | called _ | idle | nesting => exact fits.elim

/-- The response message is confirmed: its job is called back. -/
theorem sound_responseProcessed (core : Core connection job (.processed final) .absent)
    (none : connection.nestedRequest = none) (around : Surroundings)
    (allowed : Allowed connection around.reaction) :
    Sound ({ connection with scheduled := [] }.asyncTransportMessageProcessed .responseMessage
      around) := by
  have count := core.count
  simp only [Work.counted, Pending.counted] at count
  unfold asyncTransportMessageProcessed
  cases final with
  | true =>
    have closed : Closed ({ connection with
        scheduled := [] }.decrement.senderResponseSent around.reaction) := by
      apply closed_senderResponseSent
      · exact core.isOpen
      · simp only [decrement, count]
      · rfl
      · exact core.unconfirmed
      · exact none
      · exact core.sender
      · exact core.inCharge
      · exact core.terminations
      · exact core.overwritten
      · simp only [decrement, core.wrapped, count]
        rfl
      · exact core.ordered
    exact sound_allSent (.inl closed) (fun _ => closed.nested) _
  | false =>
    have called : Core { connection with scheduled := [] } job (.delayed false) .absent :=
      { core with
        scheduled := .inl rfl
        response := fun _ => core.response (.inr (by simp)) }
    simp only
    rw [called.senderResponseSent]
    exact sound_allSent
      (sound_responseSent called.senderCalled (Nested.of_none none) around.reaction)
      (settles_responseSent called.senderCalled none allowed) _

/-! ## Steps -/

/-- What must not happen in a run: the timeout of the whole request expires while a part of a
nested request is answered, a nested request is started in a callback of a connection that is
about to terminate, or the ResponsePending a part asks for is not taken and nothing repeats
it. -/
def Condition (connection : IncomingDiagConnection) : Event → Prop
  | .execute around => Allowed connection around.reaction ∧
      (AsksPending connection → around.pendingTaken = true ∨ connection.pendingActivated = true)
  | .globalPendingExpired => connection.nestedRequest = none ∨
      Closure.triggerNextNestedRequest ∈ connection.scheduled
  | _ => True

/-- The nested request goes on. -/
theorem sound_run_triggerNextNestedRequest (core : Core connection job .idle pending)
    (knows : Nested connection job .idle) (running : connection.nestedRequest = some nested)
    (around : Surroundings) : Sound (connection.run .triggerNextNestedRequest around) := by
  rw [run, running]
  apply sound_triggerNextNestedRequest around.next (core.to_sender knows running)
  · intro request isRunning
    rw [running] at isRunning
    rw [Option.some.inj isRunning]
  · exact (knows nested running).2.2.2

/-- The closure in front is executed. -/
theorem sound_run (core : Core connection job work pending) (knows : Nested connection job work)
    (fits : Fits connection job pending work) {rest : List Closure}
    (front : connection.scheduled = closure :: rest) (around : Surroundings)
    (condition : Condition connection (.execute around)) :
    Sound ({ connection with scheduled := rest }.run closure around) := by
  have workShort : work.closures.length ≤ 1 := by cases work <;> simp [Work.closures]
  have pendingShort : pending.closures.length ≤ 1 := by cases pending <;> simp [Pending.closures]
  have scheduled := core.scheduled
  rw [front] at scheduled
  rcases head_cases workShort pendingShort scheduled with ⟨own, rfl⟩ | ⟨other, rfl⟩
  · cases work with
    | scheduled answer final =>
      obtain rfl : answer = closure := by simpa [Work.closures] using own
      rcases fits with ⟨length, rfl, rfl⟩ | ⟨code, rfl, rfl⟩
      · exact sound_asyncSendPositiveResponse core.executing knows around condition.1
      · refine sound_asyncSendNegativeResponse core.executing knows around condition.1 ?_
        rintro nested rfl running notSent count
        exact condition.2 ⟨job, _, nested, front, running, notSent, count⟩
    | processed final =>
      obtain rfl : Closure.transportMessageProcessed .responseMessage = closure := by
        simpa [Work.closures] using own
      obtain ⟨none, rfl⟩ := fits
      exact sound_responseProcessed core none around condition.1
    | triggered =>
      obtain rfl : Closure.triggerNextNestedRequest = closure := by
        simpa [Work.closures] using own
      obtain ⟨nested, running, ok⟩ := fits
      have idle : Core { connection with scheduled := pending.closures } job .idle pending :=
        { core with
          scheduled := .inl rfl
          response := fun _ => core.response (.inr (by simp)) }
      have still : Nested { connection with scheduled := pending.closures } job .idle := knows
      exact sound_run_triggerNextNestedRequest idle still running around
    | working | delayed _ | sent _ | waitsForPending | finished | executing _ | called _ | idle
    | nesting => cases own
  · cases pending with
    | processed =>
      obtain rfl : Closure.transportMessageProcessed .pendingMessage = closure := by
        simpa [Pending.closures] using other
      exact sound_pendingMessageProcessed core.confirmed knows fits around condition.1
    | absent | inFlight => cases other

/-- A message that was taken is confirmed. -/
theorem sound_confirm (core : Core connection job work pending)
    (knows : Nested connection job work) (fits : Fits connection job pending work)
    {message : Message} (unconfirmed : message ∈ connection.unconfirmed) :
    Sound ({ connection with
      unconfirmed := connection.unconfirmed.erase message }.execute
        (.transportMessageProcessed message)) := by
  rw [core.unconfirmed] at unconfirmed
  cases pending with
  | inFlight =>
    have noMessages : work.messages = [] := by
      cases work <;> first | rfl | exact absurd fits.2 (by simp)
    have noConfirmation : ∀ waiting ∈ connection.scheduled,
        (Closure.transportMessageProcessed message).isSame waiting = false := by
      intro waiting member
      have own : waiting ∈ work.closures := by
        rcases core.scheduled with scheduled | scheduled <;>
          simpa [scheduled, Pending.closures] using member
      cases work with
      | scheduled closure final =>
        rw [mem_singleton.mp own]
        rcases fits with ⟨length, rfl, _⟩ | ⟨code, rfl, _⟩ <;> rfl
      | processed _ => exact absurd fits.2 (by simp)
      | triggered =>
        rw [mem_singleton.mp own]
        rfl
      | _ => cases own
    obtain rfl : message = .pendingMessage := by
      simpa [noMessages, Pending.messages] using unconfirmed
    rw [execute_eq]
    swap
    · exact noConfirmation
    refine .inr ⟨job, work, .processed, ?_, knows, ?_⟩
    · exact
        { core with
          scheduled := by
            left
            rcases core.scheduled with scheduled | scheduled <;>
              simp [scheduled, Pending.closures]
          unconfirmed := by
            simp only [core.unconfirmed, noMessages]
            rfl }
    · cases work with
      | working | triggered | scheduled _ _ => exact fits
      | delayed _ => exact ⟨fits.1, by simp⟩
      | waitsForPending => exact ⟨fits.1, .inl (by simp)⟩
      | finished => exact ⟨fits.1, by simp, fits.2.2⟩
      | sent _ | processed _ => exact absurd fits.2 (by simp)
      | executing _ | called _ | idle | nesting => exact fits.elim
  | absent | processed =>
    cases work with
    | sent final =>
      obtain ⟨none, isAbsent⟩ := fits
      obtain rfl : message = .responseMessage := by
        simpa [Work.messages, Pending.messages] using unconfirmed
      have scheduled : connection.scheduled = [] := by
        rw [isAbsent] at core
        rcases core.scheduled with scheduled | scheduled <;> exact scheduled
      rw [execute_eq]
      swap
      · simp only [scheduled]
        exact fun _ member => (not_mem_nil member).elim
      refine .inr ⟨job, .processed final, .absent, ?_, Nested.of_none none, none, rfl⟩
      rw [isAbsent] at core
      exact
        { core with
          scheduled := by
            left
            simp only [scheduled]
            rfl
          unconfirmed := by
            simp only [core.unconfirmed]
            rfl
          response := fun _ => core.response (.inr (by simp)) }
    | _ => simp [Work.messages, Pending.messages] at unconfirmed

/-- The timeout is set anew only where it was set for a reason. -/
theorem Sound.restartPendingTimeout (sound : Sound connection) :
    Sound connection.restartPendingTimeout := by
  rcases sound with closed | ⟨job, work, pending, core, knows, fits⟩
  · exact .inl { closed with }
  · refine .inr ⟨job, work, pending, core.restartPendingTimeout, knows, ?_⟩
    cases work with
    | waitsForPending => exact ⟨fits.1, fits.2.imp_right core.armed⟩
    | _ => exact fits

theorem Sound.responsePendingExpired (sound : Sound connection) (pendingTaken : Bool) :
    Sound (connection.responsePendingExpired pendingTaken) := by
  have still : ∀ responsePendingIsPending,
      Sound { connection with responsePendingIsPending } := by
    intro responsePendingIsPending
    rcases sound with closed | ⟨job, work, pending, core, knows, fits⟩
    · exact .inl { closed with }
    · exact .inr ⟨job, work, pending, { core with }, knows, fits⟩
  unfold IncomingDiagConnection.responsePendingExpired
  simp only
  split
  · exact (still _).restartPendingTimeout
  next nothing =>
    refine ((still _).sendResponsePending ?_ pendingTaken).restartPendingTimeout
    simpa using nothing

/-- The delegate that waits already is not scheduled again. -/
theorem execute_triggerNextNestedRequest
    (waits : Closure.triggerNextNestedRequest ∈ connection.scheduled) :
    connection.execute .triggerNextNestedRequest = connection := by
  have again : connection.scheduled.any Closure.triggerNextNestedRequest.isSame = true :=
    any_eq_true.mpr ⟨_, waits, rfl⟩
  have same : connection.scheduled.map (fun waiting =>
      if Closure.triggerNextNestedRequest.isSame waiting = true then .triggerNextNestedRequest
      else waiting) = connection.scheduled := by
    refine (map_congr_left fun waiting _ => ?_).trans (map_id _)
    cases waiting <;> rfl
  rw [IncomingDiagConnection.execute, if_pos again, same]
  simp only [Closure.isResponse, Bool.or_false]

/-- The delegate waits only in a nested request whose part is done. -/
theorem Core.triggered (core : Core connection job work pending)
    (fits : Fits connection job pending work)
    (waits : Closure.triggerNextNestedRequest ∈ connection.scheduled) : work = .triggered := by
  have either : Closure.triggerNextNestedRequest ∈ work.closures ∨
      Closure.triggerNextNestedRequest ∈ pending.closures := by
    rcases core.scheduled with scheduled | scheduled <;> rw [scheduled] at waits <;>
      simpa [or_comm] using waits
  rcases either with own | other
  · cases work with
    | triggered => rfl
    | scheduled closure final =>
      have is := mem_singleton.mp own
      rcases fits with ⟨length, rfl, _⟩ | ⟨code, rfl, _⟩ <;> cases is
    | processed _ => simp [Work.closures] at own
    | _ => cases own
  · cases pending <;> simp [Pending.closures] at other

theorem Core.cancelTimeouts (core : Core connection job work pending) :
    Core connection.cancelTimeouts job work pending :=
  { core with armed := fun armed => Bool.noConfusion armed }

/-- The timeout of the whole request terminates a connection without a nested request. -/
theorem sound_globalPendingExpired_direct (core : Core connection job work pending)
    (fits : Fits connection job pending work) (none : connection.nestedRequest = none) :
    Sound connection.globalPendingExpired := by
  have expired := core.cancelTimeouts
  have expiredNone : connection.cancelTimeouts.nestedRequest = .none := none
  have still : Fits connection.cancelTimeouts job pending work := by
    cases work with
    | waitsForPending =>
      obtain ⟨isSome, _⟩ := fits
      rw [none] at isSome
      exact Bool.noConfusion isSome
    | _ => exact fits
  rw [globalPendingExpired]
  by_cases count : connection.cancelTimeouts.numPendingMessageProcessedCallbacks = 0
  · have isSound : Sound connection.cancelTimeouts :=
      .inr ⟨job, work, pending, expired, Nested.of_none expiredNone, still⟩
    exact .inl (isSound.terminate expiredNone count)
  · rw [expired.terminate_of_counted expiredNone count]
    refine .inr ⟨job, work, pending, { expired with }, Nested.of_none expiredNone, ?_⟩
    cases work with
    | finished => exact ⟨still.1, still.2.1, rfl⟩
    | _ => exact still

theorem sound_globalPendingExpired (core : Core connection job work pending)
    (knows : Nested connection job work) (fits : Fits connection job pending work)
    (condition : Condition connection .globalPendingExpired) :
    Sound connection.globalPendingExpired := by
  cases running : connection.nestedRequest with
  | none => exact sound_globalPendingExpired_direct core fits running
  | some nested =>
    have waits : Closure.triggerNextNestedRequest ∈ connection.scheduled :=
      condition.resolve_left (by rw [running]; simp)
    obtain rfl := core.triggered fits waits
    have ok : nested.responseCode.1 = OK := by
      obtain ⟨request, isRunning, ok⟩ := fits
      rw [running] at isRunning
      rw [Option.some.inj isRunning]
      exact ok
    have expired : connection.cancelTimeouts.nestedRequest = some nested := running
    have unchanged : connection.cancelTimeouts.terminate = connection.cancelTimeouts := by
      rw [terminate, expired]
      simp only [if_pos ok]
      exact execute_triggerNextNestedRequest waits
    rw [globalPendingExpired, unchanged]
    exact .inr ⟨job, .triggered, pending, core.cancelTimeouts, knows, nested, running, ok⟩

/-- One event. -/
theorem Sound.step (sound : Sound connection) (event : Event)
    (condition : Condition connection event) : Sound (connection.step event) := by
  unfold IncomingDiagConnection.step
  rcases sound with closed | ⟨job, work, pending, core, knows, fits⟩
  · rw [if_pos closed.isOpen]
    exact .inl closed
  · have sound : Sound connection := .inr ⟨job, work, pending, core, knows, fits⟩
    rw [if_neg (by simp [core.isOpen])]
    cases event with
    | act other action => exact (sound.act other action).1
    | execute around =>
      simp only
      split
      next closure rest front => exact sound_run core knows fits front around condition
      next => exact sound
    | confirm message =>
      simp only
      split
      next unconfirmed => exact sound_confirm core knows fits unconfirmed
      next => exact sound
    | responsePendingExpired pendingTaken =>
      simp only
      split
      · exact sound.responsePendingExpired pendingTaken
      · exact sound
    | globalPendingExpired =>
      simp only
      split
      · exact sound_globalPendingExpired core knows fits condition
      · exact sound

end OpenBsw.Uds.ConnectionRuns
