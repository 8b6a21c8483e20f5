import OpenBsw.Uds.ConnectionRuns
import OpenBsw.Uds.ResponseContent

/-!
# The final response

Runs in which the job of a request answers it itself, without a nested request.  Until the
answer is decided its job writes a draft; afterwards nobody touches the message, and it is
handed over as it was built.
-/

namespace OpenBsw.Uds.FinalResponse

open DiagReturnCode IncomingDiagConnection ResponseContent ConnectionRuns Transition List

variable {connection after : IncomingDiagConnection} {job : JobId} {built : Option Bool}

/-- The answer that a closure builds.  A ResponsePending is none. -/
def answerOf : Closure → Option Answer
  | .sendPositiveResponse _ _ => some .positive
  | .sendNegativeResponse code _ =>
    if code = ISO_RESPONSE_PENDING then none else some (.negative code)
  | _ => none

/-- An answer that may be omitted: a positive one to a silent request, or one of five codes to
a functional request. -/
def Suppressed (connection : IncomingDiagConnection) : Answer → Prop
  | .positive => connection.log.silent = true
  | .negative code => TransportConfiguration.isFunctionalAddress connection.targetAddress = true ∧
      isSuppressed code = true

/-- It is omitted if no ResponsePending was sent before. -/
def Omitted (connection : IncomingDiagConnection) (answer : Answer) (pendingBefore : Bool) : Prop :=
  pendingBefore = false ∧ Suppressed connection answer

/-- What is sent as an answer. -/
def payloadOf (log : Log) : Answer → List UInt8
  | .positive => positivePayload log
  | .negative code => [NEGATIVE_RESPONSE_IDENTIFIER, log.request.getD 0 0, code]

/-- A response message with the payload of an answer and the addresses of its connection. -/
structure Answers (connection : IncomingDiagConnection) (answer : Answer)
    (message : Transport.TransportMessage) : Prop where
  payload : message.payload = payloadOf connection.log answer
  payloadLength : message.payloadLength = (payloadOf connection.log answer).length
  sourceAddress : message.sourceAddress = connection.responseSourceAddress
  targetAddress : message.targetAddress = connection.sourceAddress

/-- The job has not answered yet, or its answer is scheduled. -/
structure Undecided (connection : IncomingDiagConnection) : Prop where
  draft : Draft connection
  sent : ∀ sent ∈ connection.log.sent, sent.final = false
  sender : ∀ job : JobId, connection.sender = some job → connection.jobs[job]? ≠ some .answered
  positive : ∀ length sender, .sendPositiveResponse length sender ∈ connection.scheduled →
    length = connection.log.appended.length ∧ connection.isResponseActive = true
  negative : ∀ code sender, .sendNegativeResponse code sender ∈ connection.scheduled →
    connection.isResponseActive = true
  answer : ∀ closure ∈ connection.scheduled,
    (∃ message, closure = .transportMessageProcessed message) ∨
      connection.log.answer = answerOf closure
  asked : ∀ answer, connection.log.answer = some answer →
    ∃ closure ∈ connection.scheduled, answerOf closure = some answer

/-- The answer is built, and sent or not. -/
structure Decided (connection : IncomingDiagConnection) (answer : Answer) (pendingBefore : Bool) :
    Prop where
  given : connection.log.answer = some answer
  nobody : ∀ job : JobId, connection.jobs[job]? ≠ some .working
  sender : ∀ job : JobId, connection.sender = some job → connection.jobs[job]? = some .answered
  closures : ∀ closure ∈ connection.scheduled, ∃ message,
    closure = .transportMessageProcessed message
  answers : Answers connection answer connection.message
  handed : ∀ sent ∈ connection.log.sent, sent.final = true → sent.message = connection.message
  omitted : Omitted connection answer pendingBefore →
    connection.sender = none ∧ ∀ sent ∈ connection.log.sent, sent.final = false
  sends : ¬Omitted connection answer pendingBefore →
    connection.sender.isSome = true ∨ ∃ sent ∈ connection.log.sent, sent.final = true

/-- The job of the request answers it itself, and a ResponsePending that the connection
remembers was sent. -/
structure Alone (connection : IncomingDiagConnection) : Prop where
  direct : connection.nestedRequest = none
  single : connection.jobs.length = 1
  pendingSent : connection.responsePendingSent = true ∨
    connection.responsePendingIsBeingSent = true → connection.log.pendingSent = true

/-- The log of a connection fits to its message.  `built` says of an answer that is built
whether a ResponsePending was sent before. -/
structure Consistent (built : Option Bool) (connection : IncomingDiagConnection) : Prop
    extends Alone connection where
  undecided : built = none → Undecided connection
  decided : ∀ {pendingBefore}, built = some pendingBefore →
    ∃ answer, Decided connection answer pendingBefore

/-! ## Steps that do not touch the message -/

theorem payloadOf_of_kept (kept : Kept connection after) (answer : Answer) :
    payloadOf after.log answer = payloadOf connection.log answer := by
  cases answer with
  | positive =>
    simp only [payloadOf, positivePayload]
    rw [kept.request, kept.identified, kept.appended]
  | negative code =>
    simp only [payloadOf]
    rw [kept.request]

theorem Answers.of_kept {answer : Answer} {message : Transport.TransportMessage}
    (answers : Answers connection answer message) (kept : Kept connection after) :
    Answers after answer message where
  payload := answers.payload.trans (payloadOf_of_kept kept answer).symm
  payloadLength := by
    rw [payloadOf_of_kept kept]
    exact answers.payloadLength
  sourceAddress := answers.sourceAddress.trans kept.responseSourceAddress.symm
  targetAddress := answers.targetAddress.trans kept.sourceAddress.symm

theorem omitted_of_kept (kept : Kept connection after) (answer : Answer) (pendingBefore : Bool) :
    Omitted after answer pendingBefore ↔ Omitted connection answer pendingBefore := by
  cases answer with
  | positive =>
    simp only [Omitted, Suppressed]
    rw [kept.silent]
  | negative code =>
    simp only [Omitted, Suppressed]
    rw [kept.targetAddress]

/-- What may happen without touching the message: closures leave that build no answer,
confirmations come, and what is handed over is the message. -/
structure Update (built : Option Bool) (before after : IncomingDiagConnection) : Prop where
  kept : Kept before after
  answer : after.log.answer = before.log.answer
  direct : after.nestedRequest = none
  single : after.jobs.length = 1
  pendingSent : after.responsePendingSent = true ∨ after.responsePendingIsBeingSent = true →
    after.log.pendingSent = true
  closures : ∀ closure ∈ after.scheduled, closure ∈ before.scheduled ∨
    ∃ message, closure = .transportMessageProcessed message
  waiting : built = none → ∀ closure ∈ before.scheduled, answerOf closure ≠ none →
    closure ∈ after.scheduled
  sent : ∀ sent ∈ after.log.sent, sent ∈ before.log.sent ∨
    (sent.final = true → built ≠ none ∧ sent.message = before.message ∧ before.sender ≠ none)
  keptSent : ∀ sent ∈ before.log.sent, sent ∈ after.log.sent
  undecided : built = none → ∀ job : JobId, after.sender = some job →
    after.jobs[job]? ≠ some .answered
  nobody : built ≠ none → ∀ job : JobId, after.jobs[job]? ≠ some .working
  sender : built ≠ none → ∀ job : JobId, after.sender = some job →
    after.jobs[job]? = some .answered
  sends : built ≠ none → before.sender.isSome = true →
    after.sender.isSome = true ∨ ∃ sent ∈ after.log.sent, sent.final = true
  silent : before.sender = none → after.sender = none

theorem Consistent.update (consistent : Consistent built connection)
    (update : Update built connection after) : Consistent built after where
  direct := update.direct
  single := update.single
  pendingSent := update.pendingSent
  undecided := by
    intro none
    have before := consistent.undecided none
    constructor
    · exact before.draft.of_kept update.kept
    · intro message member
      rcases update.sent message member with old | new
      · exact before.sent message old
      · by_contra final
        exact (new (Bool.eq_true_of_not_eq_false final)).1 none
    · exact update.undecided none
    · intro length sender scheduled
      rw [update.kept.appended, update.kept.isResponseActive]
      rcases update.closures _ scheduled with old | ⟨message, new⟩
      · exact before.positive length sender old
      · cases new
    · intro code sender scheduled
      rw [update.kept.isResponseActive]
      rcases update.closures _ scheduled with old | ⟨message, new⟩
      · exact before.negative code sender old
      · cases new
    · intro closure scheduled
      rw [update.answer]
      exact (update.closures closure scheduled).elim (before.answer closure) .inl
    · intro answer given
      rw [update.answer] at given
      obtain ⟨closure, scheduled, builds⟩ := before.asked answer given
      exact ⟨closure, update.waiting none closure scheduled (by simp [builds]), builds⟩
  decided := by
    intro pendingBefore isBuilt
    have notNone : built ≠ none := by simp [isBuilt]
    obtain ⟨answer, before⟩ := consistent.decided isBuilt
    refine ⟨answer, ?_⟩
    constructor
    · rw [update.answer]
      exact before.given
    · exact update.nobody notNone
    · exact update.sender notNone
    · intro closure scheduled
      exact (update.closures closure scheduled).elim (before.closures closure) id
    · rw [update.kept.message]
      exact before.answers.of_kept update.kept
    · intro message member final
      rw [update.kept.message]
      rcases update.sent message member with old | new
      · exact before.handed message old final
      · exact (new final).2.1
    · rw [omitted_of_kept update.kept]
      intro omitted
      obtain ⟨noSender, noFinal⟩ := before.omitted omitted
      refine ⟨update.silent noSender, ?_⟩
      intro message member
      rcases update.sent message member with old | new
      · exact noFinal message old
      · by_contra final
        exact (new (Bool.eq_true_of_not_eq_false final)).2.2 noSender
    · rw [omitted_of_kept update.kept]
      intro sends
      rcases before.sends sends with waits | ⟨message, member, final⟩
      · exact update.sends notNone waits
      · exact .inr ⟨message, update.keptSent message member, final⟩

/-- Nothing changes that the log is compared with. -/
theorem Update.of_eq (consistent : Consistent built connection) (kept : Kept connection after)
    (answer : after.log.answer = connection.log.answer)
    (direct : after.nestedRequest = connection.nestedRequest)
    (jobs : after.jobs = connection.jobs)
    (sent : after.log.sent = connection.log.sent)
    (pendingSent : after.responsePendingSent = connection.responsePendingSent)
    (beingSent : after.responsePendingIsBeingSent = true →
      connection.responsePendingIsBeingSent = true)
    (closures : ∀ closure ∈ after.scheduled, closure ∈ connection.scheduled ∨
      ∃ message, closure = .transportMessageProcessed message)
    (waiting : ∀ closure ∈ connection.scheduled, answerOf closure ≠ none →
      closure ∈ after.scheduled)
    (sender : after.sender = connection.sender) : Update built connection after where
  kept := kept
  answer := answer
  direct := direct.trans consistent.direct
  single := by
    rw [jobs]
    exact consistent.single
  pendingSent := by
    rintro isSent
    have before := consistent.pendingSent (isSent.imp (pendingSent.symm.trans ·) beingSent)
    rw [Log.pendingSent, sent]
    exact before
  closures := closures
  waiting := fun _ => waiting
  sent := by
    rw [sent]
    exact fun _ member => .inl member
  keptSent := by
    rw [sent]
    exact fun _ member => member
  undecided := by
    intro none
    rw [sender, jobs]
    exact (consistent.undecided none).sender
  nobody := by
    intro notNone
    obtain ⟨_, isBuilt⟩ := Option.ne_none_iff_exists'.mp notNone
    obtain ⟨_, decided⟩ := consistent.decided isBuilt
    rw [jobs]
    exact decided.nobody
  sender := by
    intro notNone
    obtain ⟨_, isBuilt⟩ := Option.ne_none_iff_exists'.mp notNone
    obtain ⟨_, decided⟩ := consistent.decided isBuilt
    rw [jobs, sender]
    exact decided.sender
  sends := by
    intro _ waits
    rw [sender]
    exact .inl waits
  silent := by
    rw [sender]
    exact id

theorem Update.refl (consistent : Consistent built connection) :
    Update built connection connection := by
  apply Update.of_eq consistent <;> first
    | rfl
    | exact id
    | (constructor <;> rfl)
    | exact fun _ => .inl
    | exact fun _ member _ => member

/-- Only the counter, the timeouts and the like change. -/
theorem Consistent.of_eq (consistent : Consistent built connection) (kept : Kept connection after)
    (answer : after.log.answer = connection.log.answer)
    (direct : after.nestedRequest = connection.nestedRequest)
    (jobs : after.jobs = connection.jobs)
    (sent : after.log.sent = connection.log.sent)
    (pendingSent : after.responsePendingSent = connection.responsePendingSent)
    (beingSent : after.responsePendingIsBeingSent = connection.responsePendingIsBeingSent)
    (scheduled : after.scheduled = connection.scheduled)
    (sender : after.sender = connection.sender) : Consistent built after :=
  consistent.update (Update.of_eq consistent kept answer direct jobs sent pendingSent
    (beingSent.symm.trans ·) (by rw [scheduled]; exact fun _ member => .inl member)
    (by rw [scheduled]; exact fun _ member _ => member) sender)

theorem Consistent.decrement (consistent : Consistent built connection) :
    Consistent built connection.decrement := by
  apply consistent.of_eq <;> first | rfl | (constructor <;> rfl)

/-- A termination closes the connection only without a sender. -/
theorem Consistent.terminate (consistent : Consistent built connection)
    (quiet : connection.numPendingMessageProcessedCallbacks = 0 → connection.sender = none) :
    Consistent built connection.terminate ∧
      (connection.sender = none → connection.terminate.sender = none) := by
  have direct := consistent.direct
  rw [IncomingDiagConnection.terminate, direct]
  simp only
  split
  · exact ⟨consistent, id⟩
  · split
    · refine ⟨?_, id⟩
      apply consistent.of_eq <;> first | rfl | exact direct.symm | (constructor <;> rfl)
    next nothing =>
      have sender := quiet (not_not.mp nothing)
      refine ⟨?_, fun _ => rfl⟩
      apply consistent.of_eq <;>
        first | rfl | exact direct.symm | exact sender.symm | (constructor <;> rfl)

theorem mem_concat {sent : List Sent} {last other : Sent} (member : other ∈ sent ++ [last]) :
    other ∈ sent ∨ other = last :=
  (mem_append.mp member).imp_right mem_singleton.mp

/-- A message that is not the final response is handed over. -/
theorem Consistent.handOver (consistent : Consistent built connection) (sent : Sent)
    (final : sent.final = true →
      built ≠ none ∧ sent.message = connection.message ∧ connection.sender ≠ none) :
    Consistent built (connection.handOver sent) := by
  refine consistent.update { Update.refl consistent with
    kept := by constructor <;> rfl
    pendingSent := ?_
    sent := ?_
    keptSent := ?_
    sends := ?_ }
  · intro isSent
    have before := consistent.pendingSent isSent
    simp only [Log.pendingSent, IncomingDiagConnection.handOver, any_append] at before ⊢
    rw [before, Bool.true_or]
  · intro other member
    rcases mem_concat member with old | rfl
    · exact .inl old
    · exact .inr final
  · exact fun other member => mem_append_left _ member
  · exact fun _ waits => .inl waits

/-- A ResponsePending of the connection itself. -/
theorem Consistent.sendResponsePending (consistent : Consistent built connection) (taken : Bool) :
    Consistent built (connection.sendResponsePending taken) := by
  unfold IncomingDiagConnection.sendResponsePending
  split
  · exact consistent
  · simp only
    have handedOver := consistent.handOver
      ⟨false, taken, connection.buildResponsePendingTransportMessage⟩
        (fun final => Bool.noConfusion final)
    cases taken with
    | false => exact handedOver
    | true =>
      refine handedOver.update { Update.refl handedOver with
        kept := by constructor <;> rfl
        pendingSent := ?_ }
      intro _
      simp [Log.pendingSent, increment, IncomingDiagConnection.handOver]

/-! ## Jobs -/

/-- Only confirmations are scheduled. -/
def Clear (connection : IncomingDiagConnection) : Prop :=
  ∀ closure ∈ connection.scheduled, ∃ message, closure = .transportMessageProcessed message

/-- A job that works finds nothing of its own on the way. -/
structure Ready (built : Option Bool) (connection : IncomingDiagConnection) : Prop where
  consistent : Consistent built connection
  sender : connection.sender = none
  clear : (∃ job : JobId, connection.jobs[job]? = some .working) → Clear connection

/-- The only job is the first. -/
theorem Alone.job_eq_zero (alone : Alone connection) {phase : Phase}
    (found : connection.jobs[job]? = some phase) : job = 0 := by
  have inside := (List.getElem?_eq_some_iff.mp found).1
  rw [alone.single] at inside
  exact Nat.lt_one_iff.mp inside

/-- Nothing is built while a job works. -/
theorem Consistent.undecided_of_working (consistent : Consistent built connection)
    (working : connection.jobs[job]? = some .working) : built = none := by
  by_contra notNone
  obtain ⟨_, isBuilt⟩ := Option.ne_none_iff_exists'.mp notNone
  obtain ⟨_, decided⟩ := consistent.decided isBuilt
  exact decided.nobody job working

/-- A job that works has not answered. -/
theorem Ready.unanswered (ready : Ready built connection)
    (working : connection.jobs[job]? = some .working) : connection.log.answer = none := by
  by_contra given
  obtain ⟨answer, isAnswer⟩ := Option.ne_none_iff_exists'.mp given
  have undecided := ready.consistent.undecided (ready.consistent.undecided_of_working working)
  obtain ⟨closure, scheduled, builds⟩ := undecided.asked answer isAnswer
  obtain ⟨message, rfl⟩ := ready.clear ⟨job, working⟩ closure scheduled
  cases builds

/-- A call that changes the draft. -/
theorem Ready.of_draft (ready : Ready built connection)
    (working : connection.jobs[job]? = some .working) (same : Same connection after)
    (answer : after.log.answer = connection.log.answer) (draft : Draft after) :
    Ready built after := by
  have undecided := ready.consistent.undecided_of_working working
  have before := ready.consistent.undecided undecided
  have clear : Clear after := by
    intro closure
    rw [same.scheduled]
    exact ready.clear ⟨job, working⟩ closure
  refine ⟨?_, same.sender.trans ready.sender, fun _ => clear⟩
  exact
    { direct := same.nested.trans ready.consistent.direct
      single := by
        rw [same.jobs]
        exact ready.consistent.single
      pendingSent := by
        rw [same.pendingSent, same.beingSent, Log.pendingSent, same.sent]
        exact ready.consistent.pendingSent
      undecided := fun _ =>
        { draft := draft
          sent := by
            rw [same.sent]
            exact before.sent
          sender := by
            intro other
            rw [same.sender, ready.sender]
            intro found
            cases found
          positive := by
            intro length sender scheduled
            obtain ⟨message, new⟩ := clear _ scheduled
            cases new
          negative := by
            intro code sender scheduled
            obtain ⟨message, new⟩ := clear _ scheduled
            cases new
          answer := fun closure scheduled => .inl (clear closure scheduled)
          asked := by
            intro given isGiven
            rw [answer, ready.unanswered working] at isGiven
            cases isGiven }
      decided := by
        intro _ isBuilt
        rw [undecided] at isBuilt
        cases isBuilt }

/-- In a phase set for the only job nobody else is. -/
theorem Alone.phase_eq (alone : Alone connection) {other : JobId}
    {phase found : Phase} (working : connection.jobs[job]? = some .working)
    (isFound : (connection.setPhase job phase).jobs[other]? = some found) : found = phase := by
  have zero := alone.job_eq_zero working
  have inside : other < (connection.jobs.set job phase).length :=
    (List.getElem?_eq_some_iff.mp isFound).1
  rw [length_set, alone.single] at inside
  have same : other = job := (Nat.lt_one_iff.mp inside).trans zero.symm
  subst same
  rw [setPhase, List.getElem?_set_self (by rw [alone.single]; exact inside)] at isFound
  exact (Option.some.inj isFound).symm

/-- The job hands its answer or a ResponsePending over. -/
theorem Ready.hand (ready : Ready built connection)
    (working : connection.jobs[job]? = some .working)
    (active : connection.isResponseActive = true) {closure : Closure} {phase : Phase} {log : Log}
    (isLog : log = { connection.log with answer := answerOf closure })
    (notWorking : phase ≠ .working)
    (kind : ∀ message, closure.isSame (.transportMessageProcessed message) = false)
    (length : ∀ length sender, closure = .sendPositiveResponse length sender →
      length = connection.log.appended.length) :
    Ready built (({ connection with log }.increment.execute closure).setPhase job phase) := by
  have clear := ready.clear ⟨job, working⟩
  have undecided := ready.consistent.undecided_of_working working
  have before := ready.consistent.undecided undecided
  have absent : ∀ waiting ∈ { connection with log }.increment.scheduled,
      closure.isSame waiting = false := by
    intro waiting member
    obtain ⟨message, rfl⟩ := clear waiting member
    exact kind message
  have phases : ∀ {other : JobId} {found},
      (connection.jobs.set job phase)[other]? = some found → found = phase := by
    intro other found isFound
    exact ready.consistent.phase_eq working isFound
  rw [execute_eq absent]
  subst isLog
  refine ⟨?_, ready.sender, ?_⟩
  · exact
      { direct := ready.consistent.direct
        single := by
          simp only [setPhase, increment, length_set]
          exact ready.consistent.single
        pendingSent := ready.consistent.pendingSent
        undecided := fun _ =>
          { draft := before.draft.of_kept (by constructor <;> rfl)
            sent := before.sent
            sender := by
              intro other found
              have sender := ready.sender
              rw [show connection.sender = some other from found] at sender
              cases sender
            positive := by
              intro size sender scheduled
              rcases mem_append.mp scheduled with old | new
              · obtain ⟨message, confirmation⟩ := clear _ old
                cases confirmation
              · exact ⟨length size sender (mem_singleton.mp new).symm, active⟩
            negative := fun _ _ _ => active
            answer := by
              intro other scheduled
              rcases mem_append.mp scheduled with old | new
              · exact .inl (clear other old)
              · exact .inr (congrArg answerOf (mem_singleton.mp new).symm)
            asked := fun answer given =>
              ⟨closure, mem_append_right _ mem_cons_self, given⟩ }
        decided := by
          intro _ isBuilt
          rw [undecided] at isBuilt
          cases isBuilt }
  · rintro ⟨other, isWorking⟩
    exact absurd (phases isWorking).symm notWorking

/-- Without a nested request a termination keeps the jobs and the closures. -/
theorem keeps_terminate (direct : connection.nestedRequest = none) :
    connection.terminate.jobs = connection.jobs ∧
      connection.terminate.scheduled = connection.scheduled := by
  rw [IncomingDiagConnection.terminate, direct]
  simp only
  split
  · exact ⟨rfl, rfl⟩
  · split <;> exact ⟨rfl, rfl⟩

theorem Ready.terminate (ready : Ready built connection) : Ready built connection.terminate := by
  obtain ⟨consistent, sender⟩ := ready.consistent.terminate fun _ => ready.sender
  obtain ⟨jobs, scheduled⟩ := keeps_terminate ready.consistent.direct
  refine ⟨consistent, sender ready.sender, ?_⟩
  rw [jobs, Clear, scheduled]
  exact ready.clear

/-- The response of a job that works. -/
theorem Ready.takeResponse (ready : Ready built connection)
    (working : connection.jobs[job]? = some .working) :
    Ready built connection.takeResponse ∧ Draft connection.takeResponse ∧
      connection.takeResponse.jobs[job]? = some .working ∧
      connection.takeResponse.isResponseActive = true ∧
      connection.takeResponse.hasResponse = true := by
  have same := same_takeResponse connection
  have before := ready.consistent.undecided (ready.consistent.undecided_of_working working)
  obtain ⟨draft, active⟩ := before.draft.takeResponse ready.consistent.direct
  refine ⟨ready.of_draft working same ?_ draft, draft, ?_, active, (draft.taken active).1⟩
  · rw [log_takeResponse]
  · rw [same.jobs]
    exact working

theorem Ready.sendNegativeResponse (ready : Ready built connection)
    (isOpen : connection.isOpen = true) (working : connection.jobs[job]? = some .working)
    (code : UInt8) {action : Action}
    (isNoted : connection.noted action =
      { connection.log with answer := answerOf (.sendNegativeResponse code job) }) :
    Ready built ((connection.note action).sendNegativeResponse code job) := by
  obtain ⟨taken, _, stillWorking, active, response⟩ := ready.takeResponse working
  have stillOpen : (connection.note action).isOpen = true := isOpen
  rw [IncomingDiagConnection.sendNegativeResponse, if_neg (by simp [stillOpen]),
    takeResponse_note]
  simp only
  rw [if_neg (by simp [response])]
  apply taken.hand stillWorking active
  · rw [isNoted, log_takeResponse]
  · split <;> simp
  · exact fun _ => rfl
  · exact fun _ _ is => by cases is

/-- A call of the job, without a nested request. -/
theorem Ready.act (ready : Ready built connection) (other : JobId) (action : Action)
    (direct : startsNested action = false) : Ready built (connection.act other action) := by
  unfold IncomingDiagConnection.act
  split
  · exact ready
  next guard =>
    rw [not_or, not_not] at guard
    obtain ⟨working, closed⟩ := guard
    have isOpen : connection.isOpen = true := Bool.eq_true_of_not_eq_false closed
    have before := ready.consistent.undecided (ready.consistent.undecided_of_working working)
    have noNested := ready.consistent.direct
    have unanswered := ready.unanswered working
    have same := same_note connection action
    cases action with
    | addIdentifier =>
      refine ready.of_draft working (same.trans (same_addIdentifier _)) ?_
        (before.draft.addIdentifier noNested)
      rw [perform, log_addIdentifier, note, noted]
      split <;> rfl
    | suppressPositiveResponse =>
      refine ready.of_draft working (same.trans (same_checkSuppressPositiveResponseBit _)) ?_
        (before.draft.checkSuppressPositiveResponseBit noNested)
      rw [perform, log_checkSuppressPositiveResponseBit, note, noted]
      split <;> rfl
    | releaseRequestGetResponse =>
      refine ready.of_draft working (same.trans (same_releaseRequestGetResponse _)) ?_
        (before.draft.releaseRequestGetResponse noNested)
      rw [perform, log_releaseRequestGetResponse]
      rfl
    | append call =>
      obtain ⟨_, draft, _, active, _⟩ := ready.takeResponse working
      have appended := draft.append active call
      rw [noted_takeResponse] at appended
      have isAppended : (connection.note (.append call)).perform other (.append call) =
          { connection.takeResponse.append call with log := connection.noted (.append call) } := by
        rw [perform, takeResponse_note]
        rfl
      refine ready.of_draft working
        (same.trans ((same_takeResponse _).trans (same_append _ call))) ?_ ?_
      · rw [isAppended]
        simp only [noted]
        split <;> rfl
      · rw [isAppended]
        exact appended
    | sendPositiveResponse =>
      obtain ⟨taken, draft, stillWorking, active, response⟩ := ready.takeResponse working
      have stillOpen : connection.takeResponse.isOpen = true :=
        (same_takeResponse connection).isOpen.trans isOpen
      rw [perform, IncomingDiagConnection.sendPositiveResponse, takeResponse_note]
      simp only [sendPositiveResponseInternal]
      rw [if_neg (by simp [stillOpen, taken.sender, response])]
      apply taken.hand stillWorking active
      · rw [log_takeResponse]
        rfl
      · simp
      · exact fun _ => rfl
      · rintro length sender is
        obtain ⟨rfl, _⟩ := Closure.sendPositiveResponse.inj is
        exact (draft.taken active).2.2.2.1
    | sendNegativeResponse responseCode =>
      apply ready.sendNegativeResponse isOpen working
      simp only [noted, answerOf]
      split
      · rw [← unanswered]
      · rfl
    | returned responseCode =>
      have sent := ready.sendNegativeResponse isOpen working responseCode.1
        (show connection.noted (.returned responseCode) = _ by
          simp only [noted, answerOf, if_neg responseCode.2])
      have still : (connection.note (.returned responseCode)).nestedRequest = none := noNested
      rw [perform, if_neg (by simp [still])]
      exact sent.terminate
    | disableResponseTimeout =>
      refine ready.of_draft working ?_ rfl (before.draft.of_kept (by constructor <;> rfl))
      constructor <;> first | rfl | exact id | exact fun armed => Bool.noConfusion armed
    | disableGlobalTimeout =>
      refine ready.of_draft working ?_ rfl (before.draft.of_kept (by constructor <;> rfl))
      constructor <;> first | rfl | exact id
    | startNestedRequest prefixLength next => exact Bool.noConfusion direct

theorem Ready.react (ready : Ready built connection) {reaction : List (JobId × Action)}
    (direct : ∀ call ∈ reaction, startsNested call.2 = false) :
    Ready built (connection.react reaction) := by
  induction reaction generalizing connection with
  | nil => exact ready
  | cons call rest ih =>
    exact ih (ready.act call.1 call.2 (direct call mem_cons_self))
      fun later member => direct later (mem_cons_of_mem _ member)

/-- The callback to a job that has no sender any more. -/
theorem Ready.responseSent (consistent : Consistent built connection)
    (sender : connection.sender = none) (clear : Clear connection)
    (asked : connection.jobs[job]? = some .pendingAsked → built = none)
    {reaction : List (JobId × Action)}
    (direct : ∀ call ∈ reaction, startsNested call.2 = false) :
    Ready built (connection.responseSent job reaction) := by
  have noSender : ∀ {phase : Phase}, ∀ other : JobId,
      (connection.setPhase job phase).sender = some other → False := by
    intro phase other found
    rw [show connection.sender = some other from found] at sender
    cases sender
  have phased : ∀ phase : Phase, (phase = .working → built = none) →
      Ready built (connection.setPhase job phase) := by
    intro phase works
    refine ⟨consistent.update { Update.refl consistent with
      kept := by constructor <;> rfl
      single := ?_
      undecided := ?_
      nobody := ?_
      sender := ?_ }, sender, fun _ => clear⟩
    · rw [setPhase, length_set]
      exact consistent.single
    · exact fun _ other found => (noSender other found).elim
    · intro notNone other working
      rw [setPhase, List.getElem?_set] at working
      split at working
      · split at working
        · exact notNone (works (Option.some.inj working))
        · cases working
      · obtain ⟨_, isBuilt⟩ := Option.ne_none_iff_exists'.mp notNone
        obtain ⟨_, decided⟩ := consistent.decided isBuilt
        exact decided.nobody other working
    · exact fun _ other found => (noSender other found).elim
  rw [IncomingDiagConnection.responseSent]
  split
  next isAsked => exact (phased .working fun _ => asked isAsked).react direct
  next => exact (phased .done fun working => by cases working).terminate

/-- The callback to the sender: a final response was handed over before. -/
theorem Ready.senderResponseSent (consistent : Consistent built connection)
    (clear : Clear connection)
    (handed : built ≠ none → connection.sender.isSome = true →
      ∃ sent ∈ connection.log.sent, sent.final = true)
    {reaction : List (JobId × Action)}
    (direct : ∀ call ∈ reaction, startsNested call.2 = false) :
    Ready built (connection.senderResponseSent reaction) := by
  rw [IncomingDiagConnection.senderResponseSent]
  split
  next sender isSender =>
    have dropped : Consistent built { connection with sender := none } :=
      consistent.update { Update.refl consistent with
        kept := by constructor <;> rfl
        undecided := fun _ other found => by cases found
        sender := fun _ other found => by cases found
        sends := fun notNone waits => .inr (handed notNone waits)
        silent := fun _ => rfl }
    refine Ready.responseSent dropped rfl clear ?_ direct
    intro asked
    by_contra notNone
    obtain ⟨_, isBuilt⟩ := Option.ne_none_iff_exists'.mp notNone
    obtain ⟨_, decided⟩ := consistent.decided isBuilt
    have answered := decided.sender sender isSender
    rw [show connection.jobs[sender]? = some .pendingAsked from asked] at answered
    cases answered
  next none => exact ⟨consistent, none, fun _ => clear⟩

/-! ## Sending -/

/-- The response message is handed over. -/
theorem Consistent.sendResponse (consistent : Consistent built connection)
    (clear : Clear connection) (around : Surroundings)
    (direct : ∀ call ∈ around.reaction, startsNested call.2 = false) :
    Consistent built (connection.sendResponse around) := by
  rw [IncomingDiagConnection.sendResponse]
  split
  · exact consistent
  · simp only
    have isFinal : ∀ {sender}, connection.sender = some sender →
        (connection.sender.any fun sender => connection.jobs[sender]? == some .answered) =
          decide (connection.jobs[sender]? = some .answered) := by
      intro sender isSender
      rw [isSender, Option.any_some]
      exact Bool.eq_iff_iff.mpr (by simp)
    generalize finalEq : (connection.sender.any fun sender =>
      connection.jobs[sender]? == some .answered) = final at isFinal ⊢
    have handedOver := consistent.handOver ⟨final, around.responseTaken, connection.message⟩ (by
      intro isTrue
      rw [show final = true from isTrue, Option.any_eq_true] at finalEq
      obtain ⟨sender, isSender, answered⟩ := finalEq
      refine ⟨fun none => ?_, rfl, fun none => ?_⟩
      · exact (consistent.undecided none).sender sender isSender (by simpa using answered)
      · rw [none] at isSender
        cases isSender)
    split
    · apply handedOver.of_eq <;> first | rfl | (constructor <;> rfl)
    · have called : Ready built ((connection.handOver
          ⟨final, around.responseTaken, connection.message⟩).decrement.senderResponseSent
            around.reaction) := by
        refine Ready.senderResponseSent handedOver.decrement clear ?_ direct
        intro notNone waits
        obtain ⟨_, isBuilt⟩ := Option.ne_none_iff_exists'.mp notNone
        obtain ⟨_, decided⟩ := consistent.decided isBuilt
        obtain ⟨sender, isSender⟩ := Option.isSome_iff_exists.mp waits
        refine ⟨_, mem_append_right _ mem_cons_self, ?_⟩
        rw [isFinal isSender]
        exact decide_eq_true (decided.sender sender isSender)
      split
      · exact called.terminate.consistent
      · exact called.consistent

theorem Consistent.allSent (consistent : Consistent built connection)
    (quiet : connection.numPendingMessageProcessedCallbacks = 0 → connection.sender = none)
    (pendingTaken : Bool) : Consistent built (connection.allSent pendingTaken) := by
  rw [IncomingDiagConnection.allSent]
  split
  · exact consistent
  · split
    · exact (consistent.terminate quiet).1
    · split
      · apply Consistent.sendResponsePending
        apply consistent.of_eq <;> first | rfl | (constructor <;> rfl)
      · exact consistent

theorem Consistent.sendOrDelay (consistent : Consistent built connection)
    (clear : Clear connection) (around : Surroundings)
    (direct : ∀ call ∈ around.reaction, startsNested call.2 = false) :
    Consistent built (connection.sendOrDelay around) := by
  rw [IncomingDiagConnection.sendOrDelay]
  split
  · exact consistent
  · exact consistent.sendResponse clear around direct

/-- A response that is not sent. -/
theorem Consistent.ignoreResponse
    (consistent : Consistent built { connection with sender := none })
    (sender : connection.sender = some job) (answered : connection.jobs[job]? = some .answered)
    (clear : Clear connection) (around : Surroundings)
    (direct : ∀ call ∈ around.reaction, startsNested call.2 = false) :
    Consistent built (connection.ignoreResponse around) := by
  rw [IncomingDiagConnection.ignoreResponse, IncomingDiagConnection.senderResponseSent,
    show connection.decrement.sender = some job from sender]
  refine (Ready.responseSent consistent.decrement rfl clear ?_ direct).consistent
  intro asked
  rw [show connection.jobs[job]? = some .pendingAsked from asked] at answered
  cases answered

/-! ## Answers -/

/-- An answer that is built for the job in charge. -/
theorem Alone.answer (alone : Alone connection)
    (nothing : ∀ sent ∈ connection.log.sent, sent.final = false)
    (answered : connection.jobs[job]? = some .answered) (clear : Clear connection)
    {answer : Answer} (given : connection.log.answer = some answer)
    (message : Transport.TransportMessage) (negativeResponseTempBuffer : List UInt8)
    (answers : Answers connection answer message) {sends : Bool}
    (omitted : sends = false ↔ Omitted connection answer connection.log.pendingSent)
    {sender : Option JobId} (isSender : sender = if sends then some job else none) :
    Consistent (some connection.log.pendingSent)
      { connection with message, negativeResponseTempBuffer, sender } where
  direct := alone.direct
  single := alone.single
  pendingSent := alone.pendingSent
  undecided := fun none => by cases none
  decided := by
    intro pendingBefore isBuilt
    obtain rfl := Option.some.inj isBuilt
    refine ⟨answer, ?_⟩
    constructor
    · exact given
    · intro other working
      have zero := alone.job_eq_zero answered
      have otherZero := alone.job_eq_zero working
      rw [otherZero, ← zero, answered] at working
      cases working
    · intro other found
      rw [show sender = some other from found] at isSender
      split at isSender
      · rw [Option.some.inj isSender]
        exact answered
      · cases isSender
    · exact clear
    · exact ⟨answers.payload, answers.payloadLength, answers.sourceAddress, answers.targetAddress⟩
    · intro sent member final
      rw [nothing sent member] at final
      exact Bool.noConfusion final
    · intro isOmitted
      refine ⟨?_, nothing⟩
      rw [isSender, if_neg (by rw [omitted.mpr isOmitted]; exact Bool.false_ne_true)]
    · intro notOmitted
      have isSent : sends = true := Bool.eq_true_of_not_eq_false fun not =>
        notOmitted (omitted.mp not)
      left
      rw [show sender = some job by rw [isSender, if_pos isSent]]
      rfl

theorem Alone.asyncSendPositiveResponse (alone : Alone connection) (draft : Draft connection)
    (nothing : ∀ sent ∈ connection.log.sent, sent.final = false)
    (answered : connection.jobs[job]? = some .answered) (clear : Clear connection)
    (given : connection.log.answer = some .positive)
    (active : connection.isResponseActive = true) (identified : connection.log.identified ≠ 0)
    (onTime : connection.log.late = false)
    (recorded : connection.log.silent = true → connection.log.pendingSent = true →
      connection.responsePendingSent = true)
    (around : Surroundings)
    (direct : ∀ call ∈ around.reaction, startsNested call.2 = false) :
    Consistent (some connection.log.pendingSent)
      (connection.asyncSendPositiveResponse connection.log.appended.length job around) := by
  have some : connection.identifiers ≠ [] := by
    rw [draft.identified] at identified
    exact fun empty => identified (by rw [empty]; rfl)
  obtain ⟨payload, payloadLength, sourceAddress, targetAddress⟩ :=
    payload_buildPositiveResponse draft active some onTime
  have omitted : (!connection.suppressPositiveResponse || connection.responsePendingSent) = false ↔
      Omitted connection .positive connection.log.pendingSent := by
    rw [Bool.or_eq_false_iff, Bool.not_eq_false', ← draft.silent]
    constructor
    · rintro ⟨silent, notSent⟩
      refine ⟨?_, silent⟩
      by_contra isSent
      rw [recorded silent (Bool.eq_true_of_not_eq_false isSent)] at notSent
      exact Bool.noConfusion notSent
    · rintro ⟨notSent, silent⟩
      refine ⟨silent, ?_⟩
      by_contra isSent
      rw [alone.pendingSent (.inl (Bool.eq_true_of_not_eq_false isSent))] at notSent
      exact Bool.noConfusion notSent
  have built := @Alone.answer _ _ alone nothing answered clear _ given
    (connection.buildPositiveResponse connection.log.appended.length)
    connection.negativeResponseTempBuffer
    ⟨payload, payloadLength, sourceAddress, targetAddress⟩ _ omitted
  unfold IncomingDiagConnection.asyncSendPositiveResponse
  split
  next nested running =>
    rw [alone.direct] at running
    cases running
  next =>
    simp only
    split
    next sends => exact (built (if_pos sends).symm).sendOrDelay clear around direct
    next silent =>
      apply Consistent.ignoreResponse
      · exact built (if_neg silent).symm
      · rfl
      · exact answered
      · exact clear
      · exact direct

/-- A ResponsePending of the job. -/
theorem Consistent.asyncSendResponsePending (consistent : Consistent none connection)
    (phase : connection.jobs[job]? = some .pendingAsked) (clear : Clear connection)
    (active : connection.isResponseActive = true) (around : Surroundings)
    (direct : ∀ call ∈ around.reaction, startsNested call.2 = false) :
    Consistent none
      (connection.asyncSendNegativeResponse ISO_RESPONSE_PENDING job around) := by
  have before := consistent.undecided rfl
  have asked : Consistent none { connection with
      message := connection.buildNegativeResponse ISO_RESPONSE_PENDING
      negativeResponseTempBuffer := connection.backup
      sender := some job } :=
    { direct := consistent.direct
      single := consistent.single
      pendingSent := consistent.pendingSent
      undecided := fun _ =>
        { before with
          draft := before.draft.buildNegativeResponse active _ _
          sender := by
            intro other isSender answered
            rw [← Option.some.inj isSender,
              show connection.jobs[job]? = some .pendingAsked from phase] at answered
            cases answered }
      decided := fun isBuilt => by cases isBuilt }
  have sends : (!(TransportConfiguration.isFunctionalAddress connection.targetAddress &&
      isSuppressed ISO_RESPONSE_PENDING)) = true := by
    rw [show isSuppressed ISO_RESPONSE_PENDING = false by decide, Bool.and_false]
    rfl
  unfold IncomingDiagConnection.asyncSendNegativeResponse
  split
  next nested running =>
    rw [consistent.direct] at running
    cases running
  next =>
    simp only [sends, if_true, beq_self_eq_true]
    split
    · apply Consistent.sendOrDelay
      · apply asked.of_eq <;> first | rfl | (constructor <;> rfl)
      · exact clear
      · exact direct
    · exact asked.sendOrDelay clear around direct

theorem Alone.asyncSendNegativeResponse (alone : Alone connection) (draft : Draft connection)
    (nothing : ∀ sent ∈ connection.log.sent, sent.final = false) {code : UInt8}
    (isFinal : code ≠ ISO_RESPONSE_PENDING)
    (answered : connection.jobs[job]? = some .answered) (clear : Clear connection)
    (given : connection.log.answer = some (.negative code))
    (unanswered : TransportConfiguration.isFunctionalAddress connection.targetAddress = true →
      isSuppressed code = true → connection.log.pendingSent = false)
    (around : Surroundings)
    (direct : ∀ call ∈ around.reaction, startsNested call.2 = false) :
    Consistent (some connection.log.pendingSent)
      (connection.asyncSendNegativeResponse code job around) := by
  have omitted : (!(TransportConfiguration.isFunctionalAddress connection.targetAddress &&
      isSuppressed code)) = false ↔
        Omitted connection (.negative code) connection.log.pendingSent := by
    rw [Bool.not_eq_false', Bool.and_eq_true]
    exact ⟨fun suppressed => ⟨unanswered suppressed.1 suppressed.2, suppressed⟩, And.right⟩
  have negative := buildNegativeResponse_eq code draft.size
  have payload := payload_buildNegativeResponse code draft.size
  rw [draft.serviceId] at payload
  have built := @Alone.answer _ _ alone nothing answered clear _ given
    (connection.buildNegativeResponse code) connection.backup
    ⟨payload, by rw [negative]; rfl, by rw [negative], by rw [negative]⟩ _ omitted
  have notPending : (code == ISO_RESPONSE_PENDING) = false := by simpa using isFinal
  unfold IncomingDiagConnection.asyncSendNegativeResponse
  split
  next nested running =>
    rw [alone.direct] at running
    cases running
  next =>
    simp only [notPending, Bool.false_eq_true, and_false, if_false]
    split
    next sends => exact (built (if_pos sends).symm).sendOrDelay clear around direct
    next silent =>
      apply Consistent.ignoreResponse
      · exact built (if_neg silent).symm
      · rfl
      · exact answered
      · exact clear
      · exact direct

/-! ## Steps -/

/-- The job of the request answers it itself. -/
def Direct : Event → Prop
  | .act _ action => startsNested action = false
  | .execute around => ∀ call ∈ around.reaction, startsNested call.2 = false
  | _ => True

/-- When a positive answer is built, the response has an identifier, nothing was appended into
its first three bytes behind a ResponsePending of the job, and a ResponsePending before a silent
answer was one of the connection itself; and a negative answer that is suppressed for a
functional request has no ResponsePending before it. -/
def Answerable (connection : IncomingDiagConnection) : List Closure → Prop
  | .sendPositiveResponse _ _ :: _ =>
    connection.log.identified ≠ 0 ∧ connection.log.late = false ∧
      (connection.log.silent = true → connection.log.pendingSent = true →
        connection.responsePendingSent = true)
  | .sendNegativeResponse code _ :: _ =>
    TransportConfiguration.isFunctionalAddress connection.targetAddress = true →
      isSuppressed code = true → connection.log.pendingSent = false
  | _ => True

def Condition (connection : IncomingDiagConnection) : Event → Prop
  | .execute _ => Answerable connection connection.scheduled
  | _ => True

/-- A direct event is one that the invariant of all connections allows. -/
theorem condition_of_direct (alone : Alone connection) {event : Event}
    (direct : Direct event) : ConnectionRuns.Condition connection event := by
  cases event with
  | execute around =>
    refine ⟨fun _ => direct, ?_⟩
    rintro ⟨sender, rest, nested, _, running, _⟩
    rw [alone.direct] at running
    cases running
  | globalPendingExpired => exact .inl alone.direct
  | _ => trivial

/-- An answer waits only while nothing is built. -/
theorem Consistent.undecided_of_scheduled (consistent : Consistent built connection)
    {closure : Closure} (scheduled : closure ∈ connection.scheduled)
    (answer : ∀ message, closure ≠ .transportMessageProcessed message) : built = none := by
  by_contra notNone
  obtain ⟨_, isBuilt⟩ := Option.ne_none_iff_exists'.mp notNone
  obtain ⟨_, decided⟩ := consistent.decided isBuilt
  obtain ⟨message, confirmation⟩ := decided.closures closure scheduled
  exact answer message confirmation

/-- The ResponsePending of the connection itself is confirmed. -/
theorem Consistent.pendingMessageProcessed {work : Work}
    (consistent : Consistent built connection) (core : Core connection job work .absent)
    (fits : Fits connection job .processed work) (around : Surroundings)
    (direct : Direct (.execute around)) :
    Consistent built (connection.pendingMessageProcessed around) := by
  rw [IncomingDiagConnection.pendingMessageProcessed, consistent.direct]
  simp only
  split
  next waits =>
    cases work with
    | delayed final =>
      have clear : Clear connection := by
        intro closure member
        rcases core.scheduled with scheduled | scheduled <;> rw [scheduled] at member <;>
          cases member
      have sent := sound_sendResponse core consistent.direct around fun _ => direct
      exact (consistent.sendResponse clear around direct).allSent sent.1.sender_none _
    | sent _ | processed _ => exact absurd fits.2 (by simp)
    | _ =>
      rw [core.sender] at waits
      cases waits
  next quiet =>
    exact consistent.allSent (fun _ => Option.not_isSome_iff_eq_none.mp quiet) _

/-- The response message is confirmed. -/
theorem Consistent.responseProcessed {final : Bool} (consistent : Consistent built connection)
    (sender : connection.sender = some job)
    (inCharge : connection.jobs[job]? = some (Work.processed final).phase)
    (logged : final = true → ∃ sent ∈ connection.log.sent, sent.final = true)
    (scheduled : connection.scheduled = []) (around : Surroundings)
    (direct : Direct (.execute around)) :
    Consistent built (connection.asyncTransportMessageProcessed .responseMessage around) := by
  have clear : Clear connection.decrement := by
    intro closure member
    rw [show connection.decrement.scheduled = [] from scheduled] at member
    cases member
  have called : Ready built (connection.decrement.senderResponseSent around.reaction) := by
    refine Ready.senderResponseSent consistent.decrement clear ?_ direct
    intro notNone _
    cases final with
    | true => exact logged rfl
    | false =>
      obtain ⟨_, isBuilt⟩ := Option.ne_none_iff_exists'.mp notNone
      obtain ⟨_, decided⟩ := consistent.decided isBuilt
      have answered := decided.sender job sender
      rw [inCharge] at answered
      cases answered
  exact called.consistent.allSent (fun _ => called.sender) _

/-- What the observer writes down where the closure in front builds an answer: whether a
ResponsePending was sent before. -/
def noteBuilt (built : Option Bool) (connection : IncomingDiagConnection) : Event → Option Bool
  | .execute _ =>
    match connection.scheduled with
    | closure :: _ =>
      if (answerOf closure).isSome then some connection.log.pendingSent else built
    | [] => built
  | _ => built

/-- The closure in front is executed. -/
theorem Consistent.run {work : Work} {pending : ConnectionRuns.Pending}
    (consistent : Consistent built connection) (core : Core connection job work pending)
    (fits : Fits connection job pending work) {closure : Closure} {rest : List Closure}
    (front : connection.scheduled = closure :: rest) (around : Surroundings)
    (direct : Direct (.execute around)) (condition : Condition connection (.execute around)) :
    Consistent (noteBuilt built connection (.execute around))
      ({ connection with scheduled := rest }.run closure around) := by
  have alone : Alone { connection with scheduled := rest } := { consistent.toAlone with }
  have popped : answerOf closure = none →
      Consistent built { connection with scheduled := rest } := by
    intro builds
    apply consistent.update
    apply Update.of_eq consistent <;> first | rfl | exact id | (constructor <;> rfl) | skip
    · intro other member
      rw [front]
      exact .inl (mem_cons_of_mem _ member)
    · intro other member isAnswer
      rw [front] at member
      rcases mem_cons.mp member with rfl | waits
      · exact absurd builds isAnswer
      · exact waits
  have isFront : closure ∈ connection.scheduled := by
    rw [front]
    exact mem_cons_self
  have workShort : work.closures.length ≤ 1 := by cases work <;> simp [Work.closures]
  have pendingShort : pending.closures.length ≤ 1 := by
    cases pending <;> simp [ConnectionRuns.Pending.closures]
  have scheduled := core.scheduled
  rw [front] at scheduled
  rw [Condition, front] at condition
  simp only [noteBuilt, front]
  rcases head_cases workShort pendingShort scheduled with ⟨own, rfl⟩ | ⟨other, rfl⟩
  · have clear : Clear { connection with scheduled := pending.closures } := by
      intro closure member
      cases pending with
      | processed => exact ⟨.pendingMessage, mem_singleton.mp member⟩
      | absent | inFlight => cases member
    cases work with
    | scheduled answer final =>
      obtain rfl : answer = closure := by simpa [Work.closures] using own
      rcases fits with ⟨length, rfl, rfl⟩ | ⟨code, rfl, rfl⟩
      · obtain rfl := consistent.undecided_of_scheduled isFront (by simp)
        have before := consistent.undecided rfl
        obtain ⟨rfl, active⟩ := before.positive length job isFront
        have given := (before.answer _ isFront).resolve_left (by simp)
        obtain ⟨identified, onTime, recorded⟩ := condition
        exact alone.asyncSendPositiveResponse (before.draft.of_kept (by constructor <;> rfl))
          before.sent core.inCharge clear given active identified onTime recorded around direct
      · obtain rfl := consistent.undecided_of_scheduled isFront (by simp)
        have before := consistent.undecided rfl
        have active := before.negative code job isFront
        have given := (before.answer _ isFront).resolve_left (by simp)
        have phase := core.inCharge
        by_cases isPending : code = ISO_RESPONSE_PENDING
        · subst isPending
          exact (popped rfl).asyncSendResponsePending phase clear active around direct
        · simp only [answerOf, if_neg isPending] at given ⊢
          refine alone.asyncSendNegativeResponse (before.draft.of_kept (by constructor <;> rfl))
            before.sent isPending ?_ clear given condition around direct
          simpa [Work.phase, isPending] using phase
    | processed final =>
      obtain rfl : Closure.transportMessageProcessed .responseMessage = closure := by
        simpa [Work.closures] using own
      obtain ⟨none, rfl⟩ := fits
      exact (popped rfl).responseProcessed core.sender core.inCharge core.logged rfl around direct
    | triggered =>
      obtain ⟨nested, running, _⟩ := fits
      rw [consistent.direct] at running
      cases running
    | working | delayed _ | sent _ | waitsForPending | finished | executing _ | called _ | idle
    | nesting => cases own
  · cases pending with
    | processed =>
      obtain rfl : Closure.transportMessageProcessed .pendingMessage = closure := by
        simpa [ConnectionRuns.Pending.closures] using other
      have popped := popped rfl
      have confirmed : Consistent built { { connection with
          scheduled := work.closures }.decrement with responsePendingIsBeingSent := false } := by
        apply popped.decrement.update
        apply Update.of_eq popped.decrement <;> first | rfl | (constructor <;> rfl) | skip
        · intro beingSent
          cases beingSent
        · exact fun _ member => .inl member
        · exact fun _ member _ => member
      exact confirmed.pendingMessageProcessed core.confirmed fits around direct
    | absent | inFlight => cases other

/-- A job that works finds only confirmations scheduled. -/
theorem Consistent.ready {work : Work} {pending : ConnectionRuns.Pending}
    (consistent : Consistent built connection) (core : Core connection job work pending)
    (knows : Nested connection job work) {other : JobId}
    (working : connection.jobs[other]? = some .working) : Ready built connection := by
  obtain ⟨_, rfl⟩ := core.works knows working
  refine ⟨consistent, core.sender_of_isFree rfl, fun _ closure member => ?_⟩
  rw [core.scheduled_of_isFree rfl] at member
  cases pending with
  | processed => exact ⟨.pendingMessage, mem_singleton.mp member⟩
  | absent | inFlight => cases member

theorem mem_execute {closure other : Closure}
    (member : other ∈ (connection.execute closure).scheduled) :
    other ∈ connection.scheduled ∨ other = closure := by
  unfold IncomingDiagConnection.execute at member
  split at member
  · obtain ⟨waiting, isWaiting, rfl⟩ := mem_map.mp member
    split
    · exact .inr rfl
    · exact .inl isWaiting
  · exact (mem_append.mp member).imp_right mem_singleton.mp

/-- An answer that waits is not replaced by a confirmation. -/
theorem waiting_execute {message : Message} {waiting : Closure}
    (member : waiting ∈ connection.scheduled) (builds : answerOf waiting ≠ none) :
    waiting ∈ (connection.execute (.transportMessageProcessed message)).scheduled := by
  unfold IncomingDiagConnection.execute
  split
  · refine mem_map.mpr ⟨waiting, member, if_neg ?_⟩
    cases waiting <;> first | exact Bool.false_ne_true | exact absurd rfl builds
  · exact mem_append_left _ member

/-- A confirmation is scheduled. -/
theorem Consistent.confirm (consistent : Consistent built connection) (message : Message)
    (unconfirmed : List Message) :
    Consistent built
      ({ connection with unconfirmed }.execute (.transportMessageProcessed message)) := by
  have closures := @mem_execute { connection with unconfirmed }
    (.transportMessageProcessed message)
  have waiting := @waiting_execute { connection with unconfirmed } message
  apply consistent.update
  unfold IncomingDiagConnection.execute at closures waiting ⊢
  split at closures
  next again =>
    rw [if_pos again] at waiting ⊢
    apply Update.of_eq consistent <;> first | rfl | exact id | (constructor <;> rfl) | skip
    · exact fun closure member => (closures member).imp_right fun new => ⟨message, new⟩
    · exact fun closure member builds => waiting member builds
  next first =>
    rw [if_neg first] at waiting ⊢
    apply Update.of_eq consistent <;> first | rfl | exact id | (constructor <;> rfl) | skip
    · exact fun closure member => (closures member).imp_right fun new => ⟨message, new⟩
    · exact fun closure member builds => waiting member builds

theorem Consistent.restartPendingTimeout (consistent : Consistent built connection) :
    Consistent built connection.restartPendingTimeout := by
  apply consistent.of_eq <;> first | rfl | (constructor <;> rfl)

/-- One event. -/
theorem Consistent.step (consistent : Consistent built connection) (sound : Sound connection)
    (event : Event) (direct : Direct event) (condition : Condition connection event) :
    Consistent (noteBuilt built connection event) (connection.step event) := by
  unfold IncomingDiagConnection.step
  rcases sound with closed | ⟨job, work, pending, core, knows, fits⟩
  · have same : noteBuilt built connection event = built := by
      unfold noteBuilt
      rw [closed.scheduled]
      split <;> rfl
    rw [if_pos closed.isOpen, same]
    exact consistent
  · have sound : Sound connection := .inr ⟨job, work, pending, core, knows, fits⟩
    rw [if_neg (by simp [core.isOpen])]
    cases event with
    | act other action =>
      by_cases working : connection.jobs[other]? = some .working
      · exact ((consistent.ready core knows working).act other action direct).consistent
      · simp only [act_of_nobody_works working]
        exact consistent
    | execute around =>
      simp only
      split
      next closure rest front => exact consistent.run core fits front around direct condition
      next front =>
        simp only [noteBuilt, front]
        exact consistent
    | confirm message =>
      simp only
      split
      · exact consistent.confirm message _
      · exact consistent
    | responsePendingExpired pendingTaken =>
      simp only
      split
      · rw [IncomingDiagConnection.responsePendingExpired]
        apply Consistent.restartPendingTimeout
        split
        · apply consistent.of_eq <;> first | rfl | (constructor <;> rfl)
        · apply Consistent.sendResponsePending
          apply consistent.of_eq <;> first | rfl | (constructor <;> rfl)
      · exact consistent
    | globalPendingExpired =>
      simp only
      split
      · have cancelled : Consistent built connection.cancelTimeouts := by
          apply consistent.of_eq <;> first | rfl | (constructor <;> rfl)
        exact (cancelled.terminate sound.sender_none).1
      · exact consistent

/-! ## Runs -/

instance : DecidablePred Direct
  | .act _ _ => inferInstanceAs (Decidable (_ = _))
  | .execute around =>
    inferInstanceAs (Decidable (∀ call ∈ around.reaction, startsNested call.2 = false))
  | .confirm _ | .responsePendingExpired _ | .globalPendingExpired => .isTrue trivial

instance : DecidablePred (Answerable connection)
  | .sendPositiveResponse _ _ :: _ => inferInstanceAs (Decidable (_ ≠ _ ∧ _ = _ ∧ (_ → _ → _)))
  | .sendNegativeResponse _ _ :: _ => inferInstanceAs (Decidable (_ → _ → _))
  | [] | .transportMessageProcessed _ :: _ | .triggerNextNestedRequest :: _ => .isTrue trivial

instance : DecidablePred (Condition connection)
  | .execute _ => inferInstanceAs (Decidable (Answerable connection connection.scheduled))
  | .act _ _ | .confirm _ | .responsePendingExpired _ | .globalPendingExpired => .isTrue trivial

/-- A connection and what the observer has written down of its answer. -/
structure Run where
  connection : IncomingDiagConnection
  built : Option Bool := none

namespace Run

variable {run target : Run} {event : Event}

def step (run : Run) (event : Event) : Run where
  connection := run.connection.step event
  built := noteBuilt run.built run.connection event

def perform (run : Run) (event : Event) : Option Run :=
  if Direct event then some (run.step event) else none

theorem step_of_perform (performed : run.perform event = some target) :
    Direct event ∧ target = run.step event := by
  rw [perform] at performed
  split_ifs at performed with direct
  exact ⟨direct, (Option.some.inj performed).symm⟩

end Run

/-- A request that jobs are given: a buffer with room for a negative response and a size of
sixteen bits, and no response identifier in front. -/
structure WellFormed (request : Transport.TransportMessage) : Prop where
  room : 3 ≤ request.buffer.length
  small : request.buffer.length < 65536
  service : request.buffer.getD 0 0 ≠ NEGATIVE_RESPONSE_IDENTIFIER

/-- The runs of a connection whose job answers the request itself. -/
def answering : System Run Event where
  Initial run := ∃ request responseSourceAddress activatePending, WellFormed request ∧
    run = { connection := opened request responseSourceAddress activatePending }
  Step source event target := source.perform event = some target

/-- The runs that meet the condition. -/
abbrev answerable : System Run Event :=
  answering.restrict fun run => Condition run.connection

theorem consistent_opened {request : Transport.TransportMessage} (wellFormed : WellFormed request)
    (responseSourceAddress : Nat) (activatePending : Bool) :
    Consistent none (opened request responseSourceAddress activatePending) where
  direct := rfl
  single := rfl
  pendingSent := by
    rintro (isSent | beingSent)
    · cases isSent
    · cases beingSent
  undecided := fun _ =>
    { draft := draft_opened ⟨wellFormed.room, wellFormed.small⟩ wellFormed.service _ _
      sent := fun _ member => by cases member
      sender := fun _ found => by cases found
      positive := fun _ _ member => by cases member
      negative := fun _ _ member => by cases member
      answer := fun _ member => by cases member
      asked := fun _ given => by cases given }
  decided := fun isBuilt => by cases isBuilt

theorem consistent_inductive :
    answerable.Inductive fun run =>
      Sound run.connection ∧ Consistent run.built run.connection where
  initial := by
    rintro run ⟨request, responseSourceAddress, activatePending, wellFormed, rfl⟩
    exact ⟨sound_opened _ _ _, consistent_opened wellFormed _ _⟩
  step := by
    rintro source event target ⟨sound, consistent⟩ ⟨performed, condition⟩
    obtain ⟨direct, rfl⟩ := Run.step_of_perform performed
    exact ⟨sound.step event (condition_of_direct consistent.toAlone direct),
      consistent.step sound event direct condition⟩

/-- A final response that is sent is what the job wrote.  It is not sent where it is omitted, and
otherwise it was sent when the connection is given back. -/
structure Final (connection : IncomingDiagConnection) (answer : Answer) (pendingBefore : Bool) :
    Prop where
  answers : ∀ sent ∈ connection.log.sent, sent.final = true →
    Answers connection answer sent.message
  omitted : Omitted connection answer pendingBefore →
    ∀ sent ∈ connection.log.sent, sent.final = false
  sends : ¬Omitted connection answer pendingBefore → connection.isOpen = false →
    ∃ sent ∈ connection.log.sent, sent.final = true

/-- The final response is the answer that the job gave, and no answer is lost. -/
structure Exact (run : Run) : Prop where
  unbuilt : run.built = none → (∀ sent ∈ run.connection.log.sent, sent.final = false) ∧
    (run.connection.isOpen = false → run.connection.log.answer = none)
  built : ∀ pendingBefore, run.built = some pendingBefore →
    ∃ answer, run.connection.log.answer = some answer ∧ Final run.connection answer pendingBefore

theorem Sound.closed (sound : Sound connection) (isClosed : connection.isOpen = false) :
    Closed connection := by
  rcases sound with closed | ⟨job, work, pending, core, _, _⟩
  · exact closed
  · rw [core.isOpen] at isClosed
    cases isClosed

theorem Consistent.exact {run : Run} (consistent : Consistent run.built run.connection)
    (sound : Sound run.connection) : Exact run where
  unbuilt := by
    intro none
    have undecided := consistent.undecided none
    refine ⟨undecided.sent, fun isClosed => ?_⟩
    by_contra given
    obtain ⟨answer, isAnswer⟩ := Option.ne_none_iff_exists'.mp given
    obtain ⟨closure, scheduled, _⟩ := undecided.asked answer isAnswer
    rw [(Sound.closed sound isClosed).scheduled] at scheduled
    cases scheduled
  built := by
    intro pendingBefore isBuilt
    obtain ⟨answer, decided⟩ := consistent.decided isBuilt
    refine ⟨answer, decided.given, ?_⟩
    constructor
    · intro sent member final
      rw [decided.handed sent member final]
      exact decided.answers
    · exact fun omitted => (decided.omitted omitted).2
    · intro sends isClosed
      rcases decided.sends sends with waits | sent
      · rw [(Sound.closed sound isClosed).sender] at waits
        cases waits
      · exact sent

/-- A request with the suppress bit set. -/
def silentRequest : Transport.TransportMessage where
  id := 0
  buffer := [0x3E, 0x80, 0, 0, 0, 0, 0, 0]
  sourceAddress := 0xF1
  targetAddress := 0x10
  payloadLength := 2
  validBytes := 2

theorem silentRequest_wellFormed : WellFormed silentRequest := ⟨by decide, by decide, by decide⟩

/-- A job writes the first bytes of its response, asks for more time, writes the rest and
answers. -/
def answeredRun : List Event :=
  [.act 0 .addIdentifier, .act 0 (.append (.appendData [1, 2, 3])),
    .act 0 (.sendNegativeResponse ISO_RESPONSE_PENDING), .execute {}, .confirm .responseMessage,
    .execute {}, .act 0 (.append (.appendUint8 4)), .act 0 .sendPositiveResponse, .execute {},
    .confirm .responseMessage, .execute {}]

/-- The job of a silent request asks for more time and then answers. -/
def silentRun : List Event :=
  [.act 0 .addIdentifier, .act 0 .suppressPositiveResponse,
    .act 0 (.sendNegativeResponse ISO_RESPONSE_PENDING), .execute {}, .confirm .responseMessage,
    .execute {}, .act 0 .sendPositiveResponse, .execute {}]

end OpenBsw.Uds.FinalResponse
