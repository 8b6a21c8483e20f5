import OpenBsw.Uds.IncomingDiagConnection

/-!
# The invariant of an incoming connection

The counter of a connection adds up what two things owe: the answer of the job in charge and
a ResponsePending of the connection itself.  Each of them is somewhere between a closure, the
message sender and a confirmation, and the counter counts where.
-/

namespace OpenBsw.Uds.ConnectionRuns

open DiagReturnCode IncomingDiagConnection

/-- How far the job in charge of a connection is with its answer; `final` is false for a
ResponsePending.  What follows `finished` is passed through inside one step. -/
inductive Work
  | working
  | scheduled (closure : Closure) (final : Bool)
  | delayed (final : Bool)
  | sent (final : Bool)
  | processed (final : Bool)
  | waitsForPending
  | triggered
  | finished
  | executing (final : Bool)
  | called (final : Bool)
  | idle
  | nesting
  deriving DecidableEq

/-- How far a ResponsePending of the connection itself is. -/
inductive Pending
  | absent
  | inFlight
  | processed
  deriving DecidableEq

variable {work : Work} {nested : NestedRequest} {closure : Closure} {final : Bool}

namespace Work

def phase : Work → Phase
  | working => .working
  | scheduled _ final | delayed final | sent final | processed final | executing final
  | called final => if final then .answered else .pendingAsked
  | waitsForPending => .pendingAsked
  | triggered | finished | idle => .done
  | nesting => .nesting

def closures : Work → List Closure
  | scheduled closure _ => [closure]
  | processed _ => [.transportMessageProcessed .responseMessage]
  | triggered => [.triggerNextNestedRequest]
  | _ => []

def messages : Work → List Message
  | sent _ => [.responseMessage]
  | _ => []

def counted : Work → Nat
  | scheduled _ _ | delayed _ | sent _ | processed _ | executing _ => 1
  | _ => 0

def hasSender : Work → Bool
  | delayed _ | sent _ | processed _ => true
  | _ => false

/-- Nothing of the job is on its way. -/
def isFree : Work → Bool
  | working | waitsForPending | finished | called _ | idle | nesting => true
  | _ => false

/-- The final response was handed to the message sender. -/
def isHanded : Work → Bool
  | sent final | processed final => final
  | _ => false

theorem closures_of_isFree (free : work.isFree = true) : work.closures = [] := by
  cases work <;> first | rfl | exact Bool.noConfusion free

theorem counted_of_isFree (free : work.isFree = true) : work.counted = 0 := by
  cases work <;> first | rfl | exact Bool.noConfusion free

theorem hasSender_of_isFree (free : work.isFree = true) : work.hasSender = false := by
  cases work <;> first | rfl | exact Bool.noConfusion free

theorem messages_of_uncounted (uncounted : work.counted = 0) : work.messages = [] := by
  cases work <;> first | rfl | exact (Nat.one_ne_zero uncounted).elim

theorem isHanded_of_uncounted (uncounted : work.counted = 0) : work.isHanded = false := by
  cases work <;> first | rfl | exact (Nat.one_ne_zero uncounted).elim

theorem isHanded_of_isFree (free : work.isFree = true) : work.isHanded = false :=
  isHanded_of_uncounted (counted_of_isFree free)

theorem messages_of_isFree (free : work.isFree = true) : work.messages = [] :=
  messages_of_uncounted (counted_of_isFree free)

end Work

namespace Pending

def closures : Pending → List Closure
  | processed => [.transportMessageProcessed .pendingMessage]
  | _ => []

def messages : Pending → List Message
  | inFlight => [.pendingMessage]
  | _ => []

def counted : Pending → Nat
  | absent => 0
  | _ => 1

end Pending

/-- Nothing was sent after a final response. -/
def Ordered (connection : IncomingDiagConnection) : Prop :=
  connection.log.sent.Pairwise fun before _ => before.final = false

/-- The fields of a connection say that a job is so far with its answer, and the connection
so far with a ResponsePending. -/
structure Core (connection : IncomingDiagConnection) (job : JobId) (work : Work)
    (pending : Pending) : Prop where
  isOpen : connection.isOpen = true
  count : connection.numPendingMessageProcessedCallbacks = work.counted + pending.counted
  scheduled : connection.scheduled = work.closures ++ pending.closures ∨
    connection.scheduled = pending.closures ++ work.closures
  unconfirmed : connection.unconfirmed = work.messages ++ pending.messages
  sender : connection.sender = if work.hasSender then some job else none
  beingSent : connection.responsePendingIsBeingSent = decide (pending ≠ .absent)
  armed : connection.responsePendingTimeout = true → connection.pendingActivated = true
  inCharge : connection.jobs[job]? = some work.phase
  others : ∀ {other phase}, other ≠ job → connection.jobs[other]? = some phase →
    phase = .done ∨ ∃ nested, connection.nestedRequest = some nested ∧ nested.senderJob = other
  response : connection.isResponseActive = true ∨ work ≠ .working →
    connection.hasResponse = true
  terminations : connection.log.terminations = 0
  overwritten : connection.log.overwritten = false
  wrapped : connection.log.wrapped = false
  handed : ∀ sent ∈ connection.log.sent, sent.final = true → work.isHanded = true
  logged : work.isHanded = true → ∃ sent ∈ connection.log.sent, sent.final = true
  ordered : Ordered connection

/-- What a running nested request knows of the jobs. -/
def Nested (connection : IncomingDiagConnection) (job : JobId) (work : Work) : Prop :=
  ∀ nested, connection.nestedRequest = some nested →
    nested.senderJob ≠ job ∧ connection.jobs[nested.senderJob]? = some .nesting ∧
      connection.hasResponse = true ∧
      nested.pendingResponseSender = if work = .waitsForPending then some job else none

/-- What can be so between two steps. -/
def Fits (connection : IncomingDiagConnection) (job : JobId) (pending : Pending) : Work → Prop
  | .working => True
  | .scheduled closure final =>
    (∃ length, closure = .sendPositiveResponse length job ∧ final = true) ∨
      ∃ code, closure = .sendNegativeResponse code job ∧
        final = decide (code ≠ ISO_RESPONSE_PENDING)
  | .delayed _ => connection.nestedRequest = none ∧ pending ≠ .absent
  | .sent _ | .processed _ => connection.nestedRequest = none ∧ pending = .absent
  | .waitsForPending => connection.nestedRequest.isSome = true ∧
      (pending ≠ .absent ∨ connection.responsePendingTimeout = true)
  | .triggered => ∃ nested, connection.nestedRequest = some nested ∧
      nested.responseCode.1 = OK
  | .finished => connection.nestedRequest = none ∧ pending ≠ .absent ∧
      connection.connectionTerminationIsPending = true
  | .executing _ | .called _ | .idle | .nesting => False

/-- The connection was given back. -/
structure Closed (connection : IncomingDiagConnection) : Prop where
  isOpen : connection.isOpen = false
  count : connection.numPendingMessageProcessedCallbacks = 0
  scheduled : connection.scheduled = []
  unconfirmed : connection.unconfirmed = []
  sender : connection.sender = none
  nested : connection.nestedRequest = none
  terminations : connection.log.terminations = 1
  overwritten : connection.log.overwritten = false
  wrapped : connection.log.wrapped = false
  ordered : Ordered connection

/-- The invariant of a connection. -/
def Sound (connection : IncomingDiagConnection) : Prop :=
  Closed connection ∨
    ∃ job work pending, Core connection job work pending ∧ Nested connection job work ∧
      Fits connection job pending work

/-! ## What operations leave as it is -/

/-- Nothing changes but the response and the timeouts. -/
structure Same (before after : IncomingDiagConnection) : Prop where
  isOpen : after.isOpen = before.isOpen
  count : after.numPendingMessageProcessedCallbacks =
    before.numPendingMessageProcessedCallbacks
  scheduled : after.scheduled = before.scheduled
  unconfirmed : after.unconfirmed = before.unconfirmed
  sender : after.sender = before.sender
  beingSent : after.responsePendingIsBeingSent = before.responsePendingIsBeingSent
  pendingSent : after.responsePendingSent = before.responsePendingSent
  pendingActivated : after.pendingActivated = before.pendingActivated
  armed : after.responsePendingTimeout = true → before.responsePendingTimeout = true
  jobs : after.jobs = before.jobs
  nested : after.nestedRequest = before.nestedRequest
  terminationIsPending :
    after.connectionTerminationIsPending = before.connectionTerminationIsPending
  sent : after.log.sent = before.log.sent
  terminations : after.log.terminations = before.log.terminations
  overwritten : after.log.overwritten = before.log.overwritten
  wrapped : after.log.wrapped = before.log.wrapped
  hasResponse : before.hasResponse = true → after.hasResponse = true

variable {connection after : IncomingDiagConnection} {job : JobId} {work : Work}
  {pending : Pending}

theorem Same.refl (connection : IncomingDiagConnection) : Same connection connection := by
  constructor <;> first | rfl | exact id

theorem same_addIdentifier (connection : IncomingDiagConnection) :
    Same connection connection.addIdentifier := by
  unfold addIdentifier
  split
  · exact Same.refl connection
  · split
    · constructor <;> first | rfl | exact id
    · exact Same.refl connection

theorem same_checkSuppressPositiveResponseBit (connection : IncomingDiagConnection) :
    Same connection connection.checkSuppressPositiveResponseBit := by
  unfold checkSuppressPositiveResponseBit
  split
  · exact Same.refl connection
  · split <;> constructor <;> first | rfl | exact id

theorem same_releaseRequestGetResponse (connection : IncomingDiagConnection) :
    Same connection connection.releaseRequestGetResponse := by
  unfold releaseRequestGetResponse
  split
  · constructor <;> first | rfl | exact id
  · constructor <;> first | rfl | exact id | exact fun _ => rfl

theorem same_takeResponse (connection : IncomingDiagConnection) :
    Same connection connection.takeResponse := by
  unfold takeResponse
  split
  · exact Same.refl connection
  · exact same_releaseRequestGetResponse connection

theorem same_append (connection : IncomingDiagConnection) (call : PositiveResponse.Append) :
    Same connection (connection.append call) := by
  constructor <;> first | rfl | exact id

theorem same_note (connection : IncomingDiagConnection) (action : Action) :
    Same connection (connection.note action) := by
  constructor <;> first
    | rfl
    | exact id
    | (cases action <;> simp only [note, noted] <;> split <;> rfl)

theorem Same.trans {first second third : IncomingDiagConnection} (before : Same first second)
    (after : Same second third) : Same first third where
  isOpen := after.isOpen.trans before.isOpen
  count := after.count.trans before.count
  scheduled := after.scheduled.trans before.scheduled
  unconfirmed := after.unconfirmed.trans before.unconfirmed
  sender := after.sender.trans before.sender
  beingSent := after.beingSent.trans before.beingSent
  pendingSent := after.pendingSent.trans before.pendingSent
  pendingActivated := after.pendingActivated.trans before.pendingActivated
  armed := fun armed => before.armed (after.armed armed)
  jobs := after.jobs.trans before.jobs
  nested := after.nested.trans before.nested
  terminationIsPending := after.terminationIsPending.trans before.terminationIsPending
  sent := after.sent.trans before.sent
  terminations := after.terminations.trans before.terminations
  overwritten := after.overwritten.trans before.overwritten
  wrapped := after.wrapped.trans before.wrapped
  hasResponse := fun response => after.hasResponse (before.hasResponse response)

theorem Core.of_same (core : Core connection job work pending) (same : Same connection after)
    (response : after.isResponseActive = true ∨ work ≠ .working → after.hasResponse = true) :
    Core after job work pending where
  isOpen := same.isOpen.trans core.isOpen
  count := same.count.trans core.count
  scheduled := by rw [same.scheduled]; exact core.scheduled
  unconfirmed := same.unconfirmed.trans core.unconfirmed
  sender := same.sender.trans core.sender
  beingSent := same.beingSent.trans core.beingSent
  armed := by
    rw [same.pendingActivated]
    exact fun armed => core.armed (same.armed armed)
  inCharge := by rw [same.jobs]; exact core.inCharge
  others := by rw [same.jobs, same.nested]; exact core.others
  response := response
  terminations := same.terminations.trans core.terminations
  overwritten := same.overwritten.trans core.overwritten
  wrapped := same.wrapped.trans core.wrapped
  handed := by rw [same.sent]; exact core.handed
  logged := by rw [same.sent]; exact core.logged
  ordered := by
    unfold Ordered
    rw [same.sent]
    exact core.ordered

theorem Nested.of_same (nested : Nested connection job work) (same : Same connection after) :
    Nested after job work := by
  intro request running
  rw [same.nested] at running
  obtain ⟨notInCharge, nesting, response, waits⟩ := nested request running
  rw [same.jobs]
  exact ⟨notInCharge, nesting, same.hasResponse response, waits⟩

/-! ## Handing a response over -/

theorem execute_eq (absent : ∀ waiting ∈ connection.scheduled, closure.isSame waiting = false) :
    connection.execute closure =
      { connection with scheduled := connection.scheduled ++ [closure] } := by
  have none : connection.scheduled.any closure.isSame = false := by
    rw [List.any_eq_false]
    intro waiting member
    rw [absent waiting member]
    exact Bool.false_ne_true
  rw [IncomingDiagConnection.execute, none]
  rfl

theorem Core.scheduled_of_isFree (core : Core connection job work pending)
    (free : work.isFree = true) : connection.scheduled = pending.closures := by
  rcases core.scheduled with scheduled | scheduled <;>
    simpa [Work.closures_of_isFree free] using scheduled

theorem Core.unconfirmed_of_isFree (core : Core connection job work pending)
    (free : work.isFree = true) : connection.unconfirmed = pending.messages := by
  rw [core.unconfirmed, Work.messages_of_isFree free, List.nil_append]

theorem Core.sender_of_isFree (core : Core connection job work pending)
    (free : work.isFree = true) : connection.sender = none := by
  rw [core.sender, Work.hasSender_of_isFree free]
  rfl

theorem Core.count_of_isFree (core : Core connection job work pending)
    (free : work.isFree = true) :
    connection.numPendingMessageProcessedCallbacks = pending.counted := by
  rw [core.count, Work.counted_of_isFree free, Nat.zero_add]

/-- No final response was handed over before the job was ready with it. -/
theorem Core.not_final (core : Core connection job work pending)
    (notHanded : work.isHanded = false) : ∀ sent ∈ connection.log.sent, sent.final = false := by
  intro sent member
  by_contra final
  have handed := core.handed sent member (Bool.eq_true_of_not_eq_false final)
  rw [notHanded] at handed
  exact Bool.noConfusion handed

theorem Core.job_lt (core : Core connection job work pending) :
    job < connection.jobs.length :=
  (List.getElem?_eq_some_iff.mp core.inCharge).1

/-- No closure of the kind is scheduled. -/
theorem Core.absent_of_isFree (core : Core connection job work pending)
    (free : work.isFree = true)
    (kind : closure.isSame (.transportMessageProcessed .pendingMessage) = false) :
    ∀ waiting ∈ connection.scheduled, closure.isSame waiting = false := by
  intro waiting member
  rw [core.scheduled_of_isFree free] at member
  cases pending <;> simp [Pending.closures] at member
  rw [member]
  exact kind

/-- The job in charge goes into another phase while nothing of it is on its way. -/
theorem Core.setPhase (core : Core connection job work pending) (free : work.isFree = true)
    (next : Work) (nextFree : next.isFree = true) (response : connection.hasResponse = true) :
    Core (connection.setPhase job next.phase) job next pending where
  isOpen := core.isOpen
  count := by
    rw [Work.counted_of_isFree nextFree, Nat.zero_add]
    exact core.count_of_isFree free
  scheduled := by
    right
    rw [Work.closures_of_isFree nextFree, List.append_nil]
    exact core.scheduled_of_isFree free
  unconfirmed := by
    rw [Work.messages_of_isFree nextFree, List.nil_append]
    exact core.unconfirmed_of_isFree free
  sender := by
    rw [Work.hasSender_of_isFree nextFree]
    exact core.sender_of_isFree free
  beingSent := core.beingSent
  armed := core.armed
  inCharge := List.getElem?_set_self core.job_lt
  others := by
    intro other phase away
    simp only [IncomingDiagConnection.setPhase]
    rw [List.getElem?_set_ne away.symm]
    exact core.others away
  response := fun _ => response
  terminations := core.terminations
  overwritten := core.overwritten
  wrapped := core.wrapped
  handed := by
    intro sent member final
    rw [core.not_final (Work.isHanded_of_isFree free) sent member] at final
    exact Bool.noConfusion final
  logged := by
    rw [Work.isHanded_of_isFree nextFree]
    exact fun handed => Bool.noConfusion handed
  ordered := core.ordered

/-- A closure for the answer is scheduled and counted. -/
theorem Core.hand (core : Core connection job work pending) (free : work.isFree = true)
    (response : connection.hasResponse = true)
    (kind : closure.isSame (.transportMessageProcessed .pendingMessage) = false) :
    Core ((connection.increment.execute closure).setPhase job
      (if final then .answered else .pendingAsked)) job (.scheduled closure final) pending := by
  have count := core.count_of_isFree free
  have small : pending.counted ≤ 1 := by cases pending <;> simp [Pending.counted]
  have absent : ∀ waiting ∈ connection.increment.scheduled, closure.isSame waiting = false :=
    core.absent_of_isFree free kind
  rw [execute_eq absent]
  exact
    { isOpen := core.isOpen
      count := by
        simp only [IncomingDiagConnection.setPhase, increment, Work.counted, count]
        omega
      scheduled := by
        right
        simp only [IncomingDiagConnection.setPhase, increment, Work.closures]
        rw [core.scheduled_of_isFree free]
      unconfirmed := core.unconfirmed_of_isFree free
      sender := core.sender_of_isFree free
      beingSent := core.beingSent
      armed := core.armed
      inCharge := List.getElem?_set_self core.job_lt
      others := by
        intro other phase away
        simp only [IncomingDiagConnection.setPhase, increment]
        rw [List.getElem?_set_ne away.symm]
        exact core.others away
      response := fun _ => response
      terminations := core.terminations
      overwritten := core.overwritten
      wrapped := by
        simp only [IncomingDiagConnection.setPhase, increment, core.wrapped, count,
          Bool.false_or, beq_eq_false_iff_ne]
        omega
      handed := by
        intro sent member final
        rw [core.not_final (Work.isHanded_of_isFree free) sent member] at final
        exact Bool.noConfusion final
      logged := fun handed => Bool.noConfusion handed
      ordered := core.ordered }

/-- A nested request is not concerned by the phase of the job in charge. -/
theorem Nested.setPhase (knows : Nested connection job work)
    (notWaits : work ≠ .waitsForPending) {next : Work} (nextNotWaits : next ≠ .waitsForPending)
    (phase : Phase) : Nested (connection.setPhase job phase) job next := by
  intro nested running
  obtain ⟨notInCharge, nesting, response, waits⟩ := knows nested running
  refine ⟨notInCharge, ?_, response, ?_⟩
  · simp only [IncomingDiagConnection.setPhase]
    rw [List.getElem?_set_ne notInCharge.symm]
    exact nesting
  · rw [waits, if_neg notWaits, if_neg nextNotWaits]

theorem Nested.hand (knows : Nested connection job work) (notWaits : work ≠ .waitsForPending)
    (core : Core connection job work pending) (free : work.isFree = true) (phase : Phase)
    (kind : closure.isSame (.transportMessageProcessed .pendingMessage) = false) :
    Nested ((connection.increment.execute closure).setPhase job phase) job
      (.scheduled closure final) := by
  have absent : ∀ waiting ∈ connection.increment.scheduled, closure.isSame waiting = false :=
    core.absent_of_isFree free kind
  rw [execute_eq absent]
  have scheduled : Nested { connection.increment with
      scheduled := connection.increment.scheduled ++ [closure] } job work := knows
  exact scheduled.setPhase notWaits (by simp) phase

theorem Core.sendPositiveResponseInternal (core : Core connection job work pending)
    (free : work.isFree = true) (response : connection.hasResponse = true) (length : Nat) :
    connection.sendPositiveResponseInternal length job =
      (connection.increment.execute (.sendPositiveResponse length job)).setPhase job
        .answered := by
  have accepted : ¬(connection.isOpen = false ∨ connection.sender.isSome = true ∨
      connection.hasResponse = false) := by
    rw [core.isOpen, core.sender_of_isFree free, response]
    simp
  rw [IncomingDiagConnection.sendPositiveResponseInternal, if_neg accepted]

/-- After taking it there is a response. -/
theorem hasResponse_takeResponse
    (response : connection.isResponseActive = true ∨ connection.nestedRequest.isSome = true →
      connection.hasResponse = true) : connection.takeResponse.hasResponse = true := by
  unfold takeResponse
  split
  next active => exact response (.inl active)
  next inactive =>
    unfold releaseRequestGetResponse
    split
    next nested running => exact response (.inr (by rw [running]; rfl))
    next => rfl

theorem Core.takeResponse (core : Core connection job work pending)
    (response : connection.takeResponse.hasResponse = true) :
    Core connection.takeResponse job work pending :=
  core.of_same (same_takeResponse connection) fun _ => response

theorem Core.sendNegativeResponse (core : Core connection job work pending)
    (response : connection.takeResponse.hasResponse = true) (code : UInt8) :
    connection.sendNegativeResponse code job =
      (connection.takeResponse.increment.execute (.sendNegativeResponse code job)).setPhase job
        (if decide (code ≠ ISO_RESPONSE_PENDING) then .answered else .pendingAsked) := by
  have isOpen : ¬connection.isOpen = false := by simp [core.isOpen]
  have taken : ¬connection.takeResponse.hasResponse = false := by simp [response]
  have phase : (if code = ISO_RESPONSE_PENDING then Phase.pendingAsked else .answered) =
      if decide (code ≠ ISO_RESPONSE_PENDING) = true then .answered else .pendingAsked := by
    by_cases isPending : code = ISO_RESPONSE_PENDING <;> simp [isPending]
  simp only [IncomingDiagConnection.sendNegativeResponse, if_neg isOpen, if_neg taken, phase]

/-- After a positive answer its closure is scheduled. -/
theorem Core.answer (core : Core connection job work pending) (free : work.isFree = true)
    (response : connection.hasResponse = true) (length : Nat) :
    Core (connection.sendPositiveResponseInternal length job) job
      (.scheduled (.sendPositiveResponse length job) true) pending := by
  rw [core.sendPositiveResponseInternal free response]
  have handed : Core ((connection.increment.execute (.sendPositiveResponse length job)).setPhase
      job (if true then .answered else .pendingAsked)) job
      (.scheduled (.sendPositiveResponse length job) true) pending :=
    core.hand free response rfl
  exact handed

/-- After a negative answer or a ResponsePending its closure is scheduled. -/
theorem Core.reject (core : Core connection job work pending) (free : work.isFree = true)
    (response : connection.takeResponse.hasResponse = true) (code : UInt8) :
    Core (connection.sendNegativeResponse code job) job
      (.scheduled (.sendNegativeResponse code job) (decide (code ≠ ISO_RESPONSE_PENDING)))
      pending := by
  rw [core.sendNegativeResponse response]
  exact (core.takeResponse response).hand free response rfl

theorem Nested.answer (knows : Nested connection job work) (notWaits : work ≠ .waitsForPending)
    (core : Core connection job work pending) (free : work.isFree = true)
    (response : connection.hasResponse = true) (length : Nat) :
    Nested (connection.sendPositiveResponseInternal length job) job
      (.scheduled (.sendPositiveResponse length job) true) := by
  rw [core.sendPositiveResponseInternal free response]
  exact knows.hand notWaits core free .answered rfl

theorem Nested.reject (knows : Nested connection job work) (notWaits : work ≠ .waitsForPending)
    (core : Core connection job work pending) (free : work.isFree = true)
    (response : connection.takeResponse.hasResponse = true) (code : UInt8) :
    Nested (connection.sendNegativeResponse code job) job
      (.scheduled (.sendNegativeResponse code job) (decide (code ≠ ISO_RESPONSE_PENDING))) := by
  rw [core.sendNegativeResponse response]
  exact (knows.of_same (same_takeResponse connection)).hand notWaits (core.takeResponse response)
    free _ rfl

/-- Sending changes neither the nested request nor the termination. -/
theorem keeps_sendPositiveResponseInternal (connection : IncomingDiagConnection)
    (length : Nat) (sender : JobId) :
    (connection.sendPositiveResponseInternal length sender).nestedRequest =
        connection.nestedRequest ∧
      (connection.sendPositiveResponseInternal length sender).connectionTerminationIsPending =
        connection.connectionTerminationIsPending := by
  unfold IncomingDiagConnection.sendPositiveResponseInternal IncomingDiagConnection.execute
  split
  · exact ⟨rfl, rfl⟩
  · split <;> exact ⟨rfl, rfl⟩

theorem keeps_sendNegativeResponse (connection : IncomingDiagConnection)
    (code : UInt8) (sender : JobId) :
    (connection.sendNegativeResponse code sender).nestedRequest = connection.nestedRequest ∧
      (connection.sendNegativeResponse code sender).connectionTerminationIsPending =
        connection.connectionTerminationIsPending := by
  have same := same_takeResponse connection
  have taken := And.intro same.nested same.terminationIsPending
  unfold IncomingDiagConnection.sendNegativeResponse
  split
  · exact ⟨rfl, rfl⟩
  · simp only
    split
    · exact taken
    · unfold IncomingDiagConnection.execute
      split <;> exact taken

/-! ## Nested requests -/

/-- Without a nested request there is nothing it could know. -/
theorem Nested.of_none (none : connection.nestedRequest = none) :
    Nested connection job work := by
  intro nested running
  rw [none] at running
  cases running

/-- The connection answers for the job that started the nested request. -/
theorem sound_endNestedRequest (core : Core connection nested.senderJob .nesting pending)
    (alone : ∀ running, connection.nestedRequest = some running →
      running.senderJob = nested.senderJob) : Sound (connection.endNestedRequest nested) := by
  have response : connection.hasResponse = true := core.response (.inr (by simp))
  have ended : Core { connection with nestedRequest := none } nested.senderJob .nesting pending :=
    { core with
      others := by
        intro other phase away found
        rcases core.others away found with done | ⟨running, isRunning, sender⟩
        · exact .inl done
        · exact (away (sender.symm.trans (alone running isRunning))).elim }
  right
  unfold endNestedRequest
  by_cases ok : nested.responseCode.1 = OK
  · rw [if_pos ok]
    refine ⟨nested.senderJob, _, pending,
      ended.answer rfl response nested.responseLength, ?_, ?_⟩
    · exact Nested.of_none (keeps_sendPositiveResponseInternal _ _ _).1
    · exact .inl ⟨nested.responseLength, rfl, rfl⟩
  · rw [if_neg ok]
    refine ⟨nested.senderJob, _, pending,
      ended.reject rfl ?_ nested.responseCode.1, ?_, ?_⟩
    · exact (same_takeResponse _).hasResponse response
    · exact Nested.of_none (keeps_sendNegativeResponse _ _ _).1
    · exact .inr ⟨nested.responseCode.1, rfl, rfl⟩

theorem terminationIsPending_endNestedRequest (connection : IncomingDiagConnection)
    (nested : NestedRequest) :
    (connection.endNestedRequest nested).connectionTerminationIsPending =
      connection.connectionTerminationIsPending := by
  unfold endNestedRequest
  split
  · exact (keeps_sendPositiveResponseInternal _ _ _).2
  · exact (keeps_sendNegativeResponse _ _ _).2

theorem terminationIsPending_triggerNextNestedRequest (connection : IncomingDiagConnection)
    (nested : NestedRequest) (next : NextRequest) :
    (connection.triggerNextNestedRequest nested next).connectionTerminationIsPending =
      connection.connectionTerminationIsPending := by
  induction next generalizing connection nested with
  | processed message responseBuffer =>
    unfold triggerNextNestedRequest
    split
    · rfl
    · exact terminationIsPending_endNestedRequest connection nested
  | exhausted responseLength responseCode =>
    unfold triggerNextNestedRequest
    split <;> exact terminationIsPending_endNestedRequest connection _
  | refused responseCode next ih =>
    unfold triggerNextNestedRequest
    split
    · exact ih _ _
    · exact terminationIsPending_endNestedRequest connection nested

/-- Whatever becomes of the parts, either a job is in charge of the next one or the job that
started the nested request is answered for. -/
theorem sound_triggerNextNestedRequest (next : NextRequest)
    (core : Core connection nested.senderJob .nesting pending)
    (alone : ∀ running, connection.nestedRequest = some running →
      running.senderJob = nested.senderJob) (nobodyWaits : nested.pendingResponseSender = none) :
    Sound (connection.triggerNextNestedRequest nested next) := by
  induction next generalizing connection nested with
  | processed message responseBuffer =>
    unfold triggerNextNestedRequest
    split
    · have length := core.job_lt
      right
      refine ⟨connection.jobs.length, .working, pending, ?_, ?_, trivial⟩
      · exact
          { core with
            inCharge := List.getElem?_concat_length
            others := by
              intro other phase away found
              simp only at found
              by_cases sender : other = nested.senderJob
              · exact .inr ⟨_, rfl, sender.symm⟩
              · rw [List.getElem?_append] at found
                split at found
                next =>
                  rcases core.others sender found with done | ⟨running, isRunning, same⟩
                  · exact .inl done
                  · exact (sender (same.symm.trans (alone running isRunning))).elim
                next behind =>
                  rw [List.getElem?_singleton] at found
                  split at found
                  next first =>
                    exact (away (Nat.le_antisymm (Nat.sub_eq_zero_iff_le.mp first)
                      (Nat.le_of_not_lt behind))).elim
                  next => cases found
            response := fun _ => core.response (.inr (by simp))
            handed := by
              intro sent member final
              rw [core.not_final rfl sent member] at final
              exact Bool.noConfusion final }
      · intro running isRunning
        cases isRunning
        refine ⟨Nat.ne_of_lt length, ?_, core.response (.inr (by simp)), nobodyWaits⟩
        simp only
        rw [List.getElem?_append_left length]
        exact core.inCharge
    · exact sound_endNestedRequest core alone
  | exhausted responseLength responseCode =>
    unfold triggerNextNestedRequest
    split
    · exact sound_endNestedRequest core alone
    · exact sound_endNestedRequest core alone
  | refused responseCode next ih =>
    unfold triggerNextNestedRequest
    split
    · refine ih ?_ alone nobodyWaits
      exact { core with response := fun _ => core.response (.inr (by simp)) }
    · exact sound_endNestedRequest core alone

/-- The job of a part is done; the nested request goes on from the job that started it. -/
theorem Core.to_sender (core : Core connection job .idle pending)
    (knows : Nested connection job .idle) (running : connection.nestedRequest = some nested) :
    Core connection nested.senderJob .nesting pending :=
  { core with
    inCharge := (knows nested running).2.1
    others := by
      intro other phase away found
      by_cases inCharge : other = job
      · subst inCharge
        rw [core.inCharge] at found
        exact .inl (Option.some.inj found).symm
      · exact core.others inCharge found
    response := fun _ => core.response (.inr (by simp)) }

/-! ## Termination -/

/-- Nothing is on its way and no nested request runs. -/
structure Quiet (connection : IncomingDiagConnection) : Prop where
  isOpen : connection.isOpen = true
  count : connection.numPendingMessageProcessedCallbacks = 0
  scheduled : connection.scheduled = []
  unconfirmed : connection.unconfirmed = []
  nested : connection.nestedRequest = none
  terminations : connection.log.terminations = 0
  overwritten : connection.log.overwritten = false
  wrapped : connection.log.wrapped = false
  ordered : Ordered connection

/-- A quiet connection is closed by a termination. -/
theorem Quiet.terminate (quiet : Quiet connection) : Closed connection.terminate := by
  rw [IncomingDiagConnection.terminate, quiet.nested]
  simp only [quiet.isOpen, Bool.true_eq_false, if_false, quiet.count, ne_eq, not_true_eq_false]
  exact
    { isOpen := rfl
      count := rfl
      scheduled := quiet.scheduled
      unconfirmed := quiet.unconfirmed
      sender := rfl
      nested := rfl
      terminations := by simp only [quiet.terminations]
      overwritten := quiet.overwritten
      wrapped := quiet.wrapped
      ordered := quiet.ordered }

theorem Core.quiet (core : Core connection job work .absent) (free : work.isFree = true)
    (none : connection.nestedRequest = none) : Quiet connection where
  isOpen := core.isOpen
  count := core.count_of_isFree free
  scheduled := core.scheduled_of_isFree free
  unconfirmed := core.unconfirmed_of_isFree free
  nested := none
  terminations := core.terminations
  overwritten := core.overwritten
  wrapped := core.wrapped
  ordered := core.ordered

theorem terminate_of_closed (closed : Closed connection) : connection.terminate = connection := by
  rw [IncomingDiagConnection.terminate, closed.nested]
  simp only [closed.isOpen, if_true]

/-- While something is counted the termination has to wait. -/
theorem Core.terminate_of_counted (core : Core connection job work pending)
    (none : connection.nestedRequest = none)
    (counted : connection.numPendingMessageProcessedCallbacks ≠ 0) :
    connection.terminate = { connection with connectionTerminationIsPending := true } := by
  rw [IncomingDiagConnection.terminate, none]
  simp only [core.isOpen, Bool.true_eq_false, if_false, if_pos counted]

theorem Core.finished_terminate (core : Core connection job .idle pending)
    (none : connection.nestedRequest = none) (present : pending ≠ .absent) :
    Core connection.terminate job .finished pending ∧
      connection.terminate.nestedRequest = .none ∧ pending ≠ .absent ∧
        connection.terminate.connectionTerminationIsPending = true := by
  have counted : connection.numPendingMessageProcessedCallbacks ≠ 0 := by
    rw [core.count_of_isFree rfl]
    cases pending <;> simp [Pending.counted] at present ⊢
  rw [core.terminate_of_counted none counted]
  refine ⟨?_, none, present, rfl⟩
  exact { core with response := fun _ => core.response (.inr (by simp)) }

/-- A job that is done terminates the connection, or lets its nested request go on. -/
theorem sound_terminate (core : Core connection job .idle pending)
    (knows : Nested connection job .idle) : Sound connection.terminate := by
  cases running : connection.nestedRequest with
  | some nested =>
    rw [IncomingDiagConnection.terminate, running]
    simp only
    split
    · rw [execute_eq (core.absent_of_isFree rfl rfl)]
      refine .inr ⟨job, .triggered, pending, ?_, ?_, ?_⟩
      · exact
          { core with
            scheduled := by
              right
              simp only [core.scheduled_of_isFree rfl]
              rfl
            response := fun _ => core.response (.inr (by simp)) }
      · intro request isRunning
        exact knows request isRunning
      · exact ⟨nested, running, by assumption⟩
    · refine sound_endNestedRequest (core.to_sender knows running) ?_
      intro other isRunning
      rw [running] at isRunning
      rw [Option.some.inj isRunning]
  | none =>
    by_cases absent : pending = .absent
    · subst absent
      exact .inl (core.quiet rfl running).terminate
    · exact .inr ⟨job, .finished, pending, (core.finished_terminate running absent).1,
        Nested.of_none (core.finished_terminate running absent).2.1,
        (core.finished_terminate running absent).2⟩

/-- While the one in charge does not work, nobody works. -/
theorem Core.nobody_works (core : Core connection job work pending)
    (knows : Nested connection job work) (notWorking : work.phase ≠ .working) (other : JobId) :
    connection.jobs[other]? ≠ some .working := by
  intro working
  by_cases inCharge : other = job
  · subst inCharge
    rw [core.inCharge] at working
    exact notWorking (Option.some.inj working)
  · rcases core.others inCharge working with done | ⟨nested, running, sender⟩
    · cases done
    · have nesting := (knows nested running).2.1
      rw [sender, working] at nesting
      cases nesting

/-- A job that works is in charge. -/
theorem Core.works (core : Core connection job work pending) (knows : Nested connection job work)
    {other : JobId} (working : connection.jobs[other]? = some .working) :
    other = job ∧ work = .working := by
  constructor
  · by_contra away
    rcases core.others away working with done | ⟨nested, running, sender⟩
    · cases done
    · have nesting := (knows nested running).2.1
      rw [sender, working] at nesting
      cases nesting
  · have isWorking : work.phase = .working := by
      by_contra notWorking
      exact core.nobody_works knows notWorking other working
    cases work with
    | working => rfl
    | scheduled _ final | delayed final | sent final | processed final | executing final
    | called final => cases final <;> cases isWorking
    | _ => cases isWorking

/-! ## Jobs -/

/-- The call starts a nested request. -/
def startsNested : Action → Bool
  | .startNestedRequest _ _ => true
  | _ => false

/-- No nested request is started once the connection is about to terminate. -/
def Allowed (connection : IncomingDiagConnection) (calls : List (JobId × Action)) : Prop :=
  connection.connectionTerminationIsPending = true →
    ∀ call ∈ calls, startsNested call.2 = false

/-- Where nobody works nobody calls the connection. -/
theorem act_of_nobody_works {other : JobId} (notWorking : connection.jobs[other]? ≠ some .working)
    (action : Action) : connection.act other action = connection := by
  unfold IncomingDiagConnection.act
  rw [if_pos (.inl notWorking)]

theorem act_of_closed (closed : connection.isOpen = false) (other : JobId) (action : Action) :
    connection.act other action = connection := by
  unfold IncomingDiagConnection.act
  rw [if_pos (.inr closed)]

theorem react_of_unchanged (reaction : List (JobId × Action))
    (unchanged : ∀ job action, connection.act job action = connection) :
    connection.react reaction = connection := by
  induction reaction with
  | nil => rfl
  | cons call rest ih =>
    rw [react, List.foldl_cons, unchanged]
    exact ih

/-- A connection that is about to terminate runs no nested request. -/
def Settles (connection : IncomingDiagConnection) : Prop :=
  connection.connectionTerminationIsPending = true → connection.nestedRequest = none

/-- The result of a call: the connection is sound, and is about to terminate only if it was
before or the job has answered. -/
def Acted (connection after : IncomingDiagConnection) (action : Action) : Prop :=
  Sound after ∧
    (Settles connection →
      (connection.connectionTerminationIsPending = true → startsNested action = false) →
      Settles after) ∧
    (after.connectionTerminationIsPending = connection.connectionTerminationIsPending ∨
      ∀ job : JobId, after.jobs[job]? ≠ some .working)

variable {action : Action}

theorem Settles.of_eq (settles : Settles connection)
    (nested : after.nestedRequest = connection.nestedRequest)
    (terminates : after.connectionTerminationIsPending =
      connection.connectionTerminationIsPending) : Settles after := by
  unfold Settles
  rw [nested, terminates]
  exact settles

/-- A call that changes the response only. -/
theorem Acted.of_same (core : Core connection job .working pending)
    (knows : Nested connection job .working) (same : Same connection after)
    (response : after.isResponseActive = true → after.hasResponse = true) :
    Acted connection after action := by
  refine ⟨.inr ⟨job, .working, pending, core.of_same same ?_, knows.of_same same, trivial⟩,
    fun settles _ => settles.of_eq same.nested same.terminationIsPending,
    .inl same.terminationIsPending⟩
  rintro (active | notWorking)
  · exact response active
  · exact absurd rfl notWorking

/-- A call that hands the answer over. -/
theorem Acted.of_handed (core : Core after job (.scheduled closure final) pending)
    (knows : Nested after job (.scheduled closure final))
    (fits : Fits after job pending (.scheduled closure final))
    (settles : Settles connection → Settles after) : Acted connection after action := by
  refine ⟨.inr ⟨job, _, pending, core, knows, fits⟩, fun before _ => settles before,
    .inr (core.nobody_works knows ?_)⟩
  cases final <;> simp [Work.phase]

theorem isResponseActive_addIdentifier (connection : IncomingDiagConnection) :
    connection.addIdentifier.isResponseActive = connection.isResponseActive ∧
      connection.addIdentifier.hasResponse = connection.hasResponse := by
  unfold IncomingDiagConnection.addIdentifier
  split
  · exact ⟨rfl, rfl⟩
  · split <;> exact ⟨rfl, rfl⟩

theorem isResponseActive_checkSuppressPositiveResponseBit (connection : IncomingDiagConnection) :
    connection.checkSuppressPositiveResponseBit.isResponseActive =
        connection.isResponseActive ∧
      connection.checkSuppressPositiveResponseBit.hasResponse = connection.hasResponse := by
  unfold IncomingDiagConnection.checkSuppressPositiveResponseBit
  split
  · exact ⟨rfl, rfl⟩
  · split <;> exact ⟨rfl, rfl⟩

theorem hasResponse_releaseRequestGetResponse
    (response : connection.nestedRequest.isSome = true → connection.hasResponse = true) :
    connection.releaseRequestGetResponse.hasResponse = true := by
  unfold IncomingDiagConnection.releaseRequestGetResponse
  split
  next nested running => exact response (by rw [running]; rfl)
  next => rfl

/-- In a nested request there is a response. -/
theorem Nested.response (knows : Nested connection job work)
    (running : connection.nestedRequest.isSome = true) : connection.hasResponse = true := by
  obtain ⟨nested, isRunning⟩ := Option.isSome_iff_exists.mp running
  exact (knows nested isRunning).2.2.1

/-- One call of the job in charge. -/
theorem performed (core : Core connection job .working pending)
    (knows : Nested connection job .working) (action : Action) :
    Acted connection (connection.perform job action) action := by
  have active : connection.isResponseActive = true → connection.hasResponse = true :=
    fun active => core.response (.inl active)
  have taken : connection.takeResponse.hasResponse = true :=
    hasResponse_takeResponse (by
      rintro (isActive | running)
      · exact active isActive
      · exact knows.response running)
  cases action with
  | addIdentifier =>
    refine Acted.of_same core knows (same_addIdentifier connection) ?_
    rw [perform, (isResponseActive_addIdentifier connection).1,
      (isResponseActive_addIdentifier connection).2]
    exact active
  | suppressPositiveResponse =>
    refine Acted.of_same core knows (same_checkSuppressPositiveResponseBit connection) ?_
    rw [perform, (isResponseActive_checkSuppressPositiveResponseBit connection).1,
      (isResponseActive_checkSuppressPositiveResponseBit connection).2]
    exact active
  | releaseRequestGetResponse =>
    exact Acted.of_same core knows (same_releaseRequestGetResponse connection)
      fun _ => hasResponse_releaseRequestGetResponse knows.response
  | append call =>
    exact Acted.of_same core knows
      ((same_takeResponse connection).trans (same_append _ call)) fun _ =>
        (same_append _ call).hasResponse taken
  | sendPositiveResponse =>
    have same := same_takeResponse connection
    have core := core.takeResponse taken
    have knows := knows.of_same same
    exact Acted.of_handed (core.answer rfl taken _)
      (knows.answer (by simp) core rfl taken _) (.inl ⟨_, rfl, rfl⟩) fun settles =>
        (settles.of_eq same.nested same.terminationIsPending).of_eq
          (keeps_sendPositiveResponseInternal _ _ _).1
          (keeps_sendPositiveResponseInternal _ _ _).2
  | sendNegativeResponse responseCode =>
    exact Acted.of_handed (core.reject rfl taken responseCode)
      (knows.reject (by simp) core rfl taken responseCode) (.inr ⟨_, rfl, rfl⟩) fun settles =>
        settles.of_eq (keeps_sendNegativeResponse _ _ _).1 (keeps_sendNegativeResponse _ _ _).2
  | returned responseCode =>
    rw [perform]
    split
    · exact Acted.of_same core knows (Same.refl connection) active
    next notNested =>
      have none : (connection.sendNegativeResponse responseCode.1 job).nestedRequest = none := by
        rw [(keeps_sendNegativeResponse _ _ _).1]
        exact Option.not_isSome_iff_eq_none.mp notNested
      have handed := core.reject rfl taken responseCode.1
      have knowsAfter := knows.reject (by simp) core rfl taken responseCode.1
      rw [handed.terminate_of_counted none (by rw [handed.count]; simp [Work.counted])]
      exact Acted.of_handed { handed with response := handed.response }
        (Nested.of_none none) (.inr ⟨_, rfl, rfl⟩) fun _ _ => none
  | disableResponseTimeout =>
    refine Acted.of_same core knows ?_ active
    constructor <;> first | rfl | exact id | exact fun armed => Bool.noConfusion armed
  | disableGlobalTimeout =>
    refine Acted.of_same core knows ?_ active
    constructor <;> first | rfl | exact id
  | startNestedRequest prefixLength next =>
    rw [perform, IncomingDiagConnection.startNestedRequest]
    split
    · exact Acted.of_same core knows (Same.refl connection) active
    next guard =>
      have released := same_releaseRequestGetResponse connection
      have response : connection.releaseRequestGetResponse.hasResponse = true :=
        hasResponse_releaseRequestGetResponse knows.response
      have alone : connection.nestedRequest = none :=
        Option.not_isSome_iff_eq_none.mp fun running => guard (.inl running)
      have nesting : Core (connection.releaseRequestGetResponse.setPhase job .nesting) job
          .nesting pending :=
        (core.of_same released fun _ => response).setPhase rfl .nesting rfl response
      refine ⟨@sound_triggerNextNestedRequest _ _ pending next ?_ ?_ rfl, ?_, .inl ?_⟩
      · exact
          { nesting with
            others := by
              intro other phase away found
              rcases nesting.others away found with done | ⟨nested, running, _⟩
              · exact .inl done
              · rw [show (connection.releaseRequestGetResponse.setPhase job
                  .nesting).nestedRequest = none from released.nested.trans alone] at running
                cases running
            response := fun _ => response }
      · intro running isRunning
        rw [← Option.some.inj isRunning]
      · intro _ allowed terminates
        rw [terminationIsPending_triggerNextNestedRequest] at terminates
        exact Bool.noConfusion (allowed (released.terminationIsPending.symm.trans terminates))
      · rw [terminationIsPending_triggerNextNestedRequest]
        exact released.terminationIsPending

/-- A call of any job in a sound connection. -/
theorem Sound.act (sound : Sound connection) (other : JobId) (action : Action) :
    Acted connection (connection.act other action) action := by
  rcases sound with closed | ⟨job, work, pending, core, knows, fits⟩
  · rw [act_of_closed closed.isOpen]
    exact ⟨.inl closed, fun settles _ => settles, .inl rfl⟩
  · by_cases working : connection.jobs[other]? = some .working
    · obtain ⟨rfl, rfl⟩ := core.works knows working
      have same := same_note connection action
      have guard : ¬(connection.jobs[other]? ≠ some .working ∨ connection.isOpen = false) := by
        rw [core.inCharge, core.isOpen]
        simp [Work.phase]
      rw [IncomingDiagConnection.act, if_neg guard]
      exact performed (core.of_same same core.response) (knows.of_same same) action
    · rw [act_of_nobody_works working]
      exact ⟨.inr ⟨job, work, pending, core, knows, fits⟩, fun settles _ => settles, .inl rfl⟩

/-- What jobs do inside a callback. -/
theorem Sound.react (sound : Sound connection) (reaction : List (JobId × Action)) :
    Sound (connection.react reaction) := by
  induction reaction generalizing connection with
  | nil => exact sound
  | cons call rest ih => exact ih (sound.act call.1 call.2).1

theorem Settles.react (settles : Settles connection) (sound : Sound connection)
    {reaction : List (JobId × Action)} (allowed : Allowed connection reaction) :
    Settles (connection.react reaction) := by
  induction reaction generalizing connection with
  | nil => exact settles
  | cons call rest ih =>
    obtain ⟨soundAfter, settlesAfter, terminates⟩ := sound.act call.1 call.2
    have settled := settlesAfter settles
      fun terminates => allowed terminates call List.mem_cons_self
    rcases terminates with same | nobody
    · refine ih settled soundAfter fun terminates later member => ?_
      rw [same] at terminates
      exact allowed terminates later (List.mem_cons_of_mem _ member)
    · have unchanged := react_of_unchanged rest fun job action =>
        act_of_nobody_works (nobody job) action
      rw [IncomingDiagConnection.react] at unchanged
      rw [IncomingDiagConnection.react, List.foldl_cons, unchanged]
      exact settled

/-- The callback after a ResponsePending. -/
theorem sound_works_on (core : Core connection job (.called false) pending)
    (knows : Nested connection job (.called false)) :
    Sound (connection.setPhase job .working) :=
  .inr ⟨job, .working, pending,
    core.setPhase rfl .working rfl (core.response (.inr (by simp))),
    knows.setPhase (by simp) (by simp) .working, trivial⟩

theorem Core.responseSent_called (core : Core connection job (.called false) pending)
    (reaction : List (JobId × Action)) :
    connection.responseSent job reaction =
      (connection.setPhase job .working).react reaction := by
  have asked : connection.jobs[job]? = some .pendingAsked := core.inCharge
  rw [responseSent, if_pos asked]

theorem responseSent_of_answered (answered : connection.jobs[job]? = some .answered)
    (reaction : List (JobId × Action)) :
    connection.responseSent job reaction = (connection.setPhase job .done).terminate := by
  rw [responseSent, if_neg (by rw [answered]; simp)]

/-- The callback to the job in charge. -/
theorem sound_responseSent (core : Core connection job (.called final) pending)
    (knows : Nested connection job (.called final)) (reaction : List (JobId × Action)) :
    Sound (connection.responseSent job reaction) := by
  cases final with
  | false =>
    rw [core.responseSent_called]
    exact (sound_works_on core knows).react reaction
  | true =>
    rw [responseSent_of_answered core.inCharge]
    have done : Core (connection.setPhase job .done) job .idle pending :=
      core.setPhase rfl .idle rfl (core.response (.inr (by simp)))
    exact sound_terminate done (knows.setPhase (by simp) (by simp) .done)

end OpenBsw.Uds.ConnectionRuns
