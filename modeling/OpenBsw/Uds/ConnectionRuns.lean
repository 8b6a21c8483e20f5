import OpenBsw.Transition.System
import OpenBsw.Uds.ConnectionSteps

/-!
# Runs of an incoming connection

What the invariant says of every state a connection reaches: the counter is exact, one message
is on its way at a time, nothing follows the final response, and the connection terminates
once.
-/

namespace OpenBsw.Uds.ConnectionRuns

open DiagReturnCode IncomingDiagConnection

variable {connection : IncomingDiagConnection} {job : JobId} {work : Work} {pending : Pending}

/-- The runs of a connection that was opened for a request. -/
def connections : Transition.System IncomingDiagConnection Event where
  Initial connection := ∃ request responseSourceAddress activatePending,
    connection = opened request responseSourceAddress activatePending
  Step source event target := target = source.step event

theorem sound_opened (request : Transport.TransportMessage) (responseSourceAddress : Nat)
    (activatePending : Bool) : Sound (opened request responseSourceAddress activatePending) := by
  refine .inr ⟨0, .working, .absent, ?_, Nested.of_none rfl, trivial⟩
  exact
    { isOpen := rfl
      count := rfl
      scheduled := .inl rfl
      unconfirmed := rfl
      sender := rfl
      beingSent := rfl
      armed := id
      inCharge := rfl
      others := by
        intro other phase away found
        cases other with
        | zero => exact absurd rfl away
        | succ other => cases found
      response := fun active => active.elim (fun active => Bool.noConfusion active)
        fun notWorking => absurd rfl notWorking
      terminations := rfl
      overwritten := rfl
      wrapped := rfl
      handed := fun sent member => (List.not_mem_nil member).elim
      logged := fun handed => Bool.noConfusion handed
      ordered := List.Pairwise.nil }

theorem sound_inductive : (connections.restrict Condition).Inductive Sound where
  initial := by
    rintro connection ⟨request, responseSourceAddress, activatePending, rfl⟩
    exact sound_opened request responseSourceAddress activatePending
  step := by
    rintro source event target sound ⟨rfl, condition⟩
    exact sound.step event condition

/-- With nothing counted there is no sender. -/
theorem Sound.sender_none (sound : Sound connection)
    (count : connection.numPendingMessageProcessedCallbacks = 0) : connection.sender = none := by
  rcases sound with closed | ⟨job, work, pending, core, _, fits⟩
  · exact closed.sender
  · have counted := core.count
    rw [count] at counted
    rw [core.sender]
    cases work <;> first | rfl | (simp only [Work.counted] at counted; omega)

/-- A response that waits for a ResponsePending to be confirmed. -/
def isDelayed (connection : IncomingDiagConnection) : Bool :=
  connection.sender.isSome && connection.responsePendingIsBeingSent

/-- The response closures not yet executed, the messages not yet confirmed and a response that
waits. -/
def outstanding (connection : IncomingDiagConnection) : Nat :=
  (connection.scheduled.filter Closure.isResponse).length + connection.unconfirmed.length +
    if isDelayed connection then 1 else 0

/-- Something is left to happen: a job works, a closure is scheduled, a message is unconfirmed,
or a job waits for a ResponsePending that the timeout will repeat. -/
def Proceeds (connection : IncomingDiagConnection) : Prop :=
  (∃ job : JobId, connection.jobs[job]? = some .working) ∨ connection.scheduled ≠ [] ∨
    connection.unconfirmed ≠ [] ∨
    (connection.responsePendingTimeout = true ∧
      ∃ nested, connection.nestedRequest = some nested ∧
        nested.pendingResponseSender.isSome = true)

/-- No confirmation is lost and the connection terminates once. -/
structure Settled (connection : IncomingDiagConnection) : Prop where
  counted : connection.numPendingMessageProcessedCallbacks = outstanding connection ∧
    connection.log.wrapped = false
  single : connection.unconfirmed.length ≤ 1 ∧ connection.log.overwritten = false
  terminated : connection.log.terminations = (if connection.isOpen then 0 else 1) ∧
    (connection.isOpen = false → outstanding connection = 0 ∧ connection.scheduled = [])
  proceeds : connection.isOpen = true → Proceeds connection
  ordered : connection.log.sent.Pairwise fun before _ => before.final = false

theorem Core.outstanding_eq (core : Core connection job work pending)
    (fits : Fits connection job pending work) :
    connection.numPendingMessageProcessedCallbacks = outstanding connection := by
  have delayed : isDelayed connection = (work.hasSender && decide (pending ≠ .absent)) := by
    rw [isDelayed, core.sender, core.beingSent]
    cases work.hasSender <;> rfl
  have filtered : (connection.scheduled.filter Closure.isResponse).length =
      (work.closures.filter Closure.isResponse).length + pending.closures.length := by
    have all : pending.closures.filter Closure.isResponse = pending.closures := by
      cases pending <;> rfl
    rcases core.scheduled with scheduled | scheduled <;>
      simp only [scheduled, List.filter_append, List.length_append, all]
    omega
  rw [outstanding, filtered, core.unconfirmed, delayed, core.count, List.length_append]
  cases work with
  | scheduled closure final =>
    rcases fits with ⟨length, rfl, _⟩ | ⟨code, rfl, _⟩ <;> cases pending <;> rfl
  | sent _ | processed _ =>
    obtain ⟨_, rfl⟩ := fits
    rfl
  | delayed _ =>
    have present := fits.2
    cases pending with
    | absent => exact absurd rfl present
    | inFlight | processed => rfl
  | executing _ | called _ | idle | nesting => exact fits.elim
  | working | waitsForPending | triggered | finished => cases pending <;> rfl

theorem Core.single (core : Core connection job work pending)
    (fits : Fits connection job pending work) : connection.unconfirmed.length ≤ 1 := by
  rw [core.unconfirmed, List.length_append]
  cases work with
  | sent _ =>
    obtain ⟨_, rfl⟩ := fits
    exact Nat.le_refl 1
  | _ => cases pending <;> simp [Work.messages, Pending.messages]

theorem Core.proceeds (core : Core connection job work pending)
    (knows : Nested connection job work) (fits : Fits connection job pending work) :
    Proceeds connection := by
  have present : pending ≠ .absent → connection.scheduled ≠ [] ∨ connection.unconfirmed ≠ [] := by
    intro present
    cases pending with
    | absent => exact absurd rfl present
    | inFlight =>
      right
      rw [core.unconfirmed]
      simp [Pending.messages]
    | processed =>
      left
      rcases core.scheduled with scheduled | scheduled <;> rw [scheduled] <;>
        simp [Pending.closures]
  have own : work.closures ≠ [] → connection.scheduled ≠ [] := by
    intro some
    rcases core.scheduled with scheduled | scheduled <;> rw [scheduled] <;> simp [some]
  cases work with
  | working => exact .inl ⟨job, core.inCharge⟩
  | scheduled _ _ | processed _ | triggered => exact .inr (.inl (own (by simp [Work.closures])))
  | sent _ =>
    refine .inr (.inr (.inl ?_))
    rw [core.unconfirmed]
    simp [Work.messages]
  | delayed _ =>
    rcases present fits.2 with scheduled | unconfirmed
    · exact .inr (.inl scheduled)
    · exact .inr (.inr (.inl unconfirmed))
  | finished =>
    rcases present fits.2.1 with scheduled | unconfirmed
    · exact .inr (.inl scheduled)
    · exact .inr (.inr (.inl unconfirmed))
  | waitsForPending =>
    obtain ⟨isSome, still | armed⟩ := fits
    · rcases present still with scheduled | unconfirmed
      · exact .inr (.inl scheduled)
      · exact .inr (.inr (.inl unconfirmed))
    · obtain ⟨nested, running⟩ := Option.isSome_iff_exists.mp isSome
      refine .inr (.inr (.inr ⟨armed, nested, running, ?_⟩))
      rw [(knows nested running).2.2.2, if_pos rfl]
      rfl
  | executing _ | called _ | idle | nesting => exact fits.elim

theorem Sound.settled (sound : Sound connection) : Settled connection := by
  rcases sound with closed | ⟨job, work, pending, core, knows, fits⟩
  · have nothing : outstanding connection = 0 := by
      rw [outstanding, isDelayed, closed.scheduled, closed.unconfirmed, closed.sender]
      rfl
    exact
      { counted := ⟨closed.count.trans nothing.symm, closed.wrapped⟩
        single := ⟨by rw [closed.unconfirmed]; exact Nat.zero_le 1, closed.overwritten⟩
        terminated := ⟨by rw [closed.terminations, closed.isOpen]; rfl,
          fun _ => ⟨nothing, closed.scheduled⟩⟩
        proceeds := fun isOpen => absurd closed.isOpen (by simp [isOpen])
        ordered := closed.ordered }
  · exact
      { counted := ⟨core.outstanding_eq fits, core.wrapped⟩
        single := ⟨core.single fits, core.overwritten⟩
        terminated := ⟨by rw [core.terminations, core.isOpen]; rfl,
          fun closed => absurd closed (by simp [core.isOpen])⟩
        proceeds := fun _ => core.proceeds knows fits
        ordered := core.ordered }

/-- In every run that keeps the timeout of the whole request away from a nested request, the
counter counts what is outstanding, one message is on its way at a time, nothing is sent after
the final response, and the connection terminates once, when nothing is outstanding. -/
theorem confirmations_settled (connection : IncomingDiagConnection)
    (reached : (connections.restrict Condition).Reachable connection) : Settled connection :=
  (sound_inductive.of_reachable reached).settled

/-- A request of three bytes. -/
def sampleRequest : Transport.TransportMessage where
  id := 0
  buffer := [0x22, 0xF1, 0x90, 0, 0, 0, 0, 0]
  sourceAddress := 0xF1
  targetAddress := 0x10
  payloadLength := 3
  validBytes := 3

/-- A job answers while a ResponsePending is on its way. -/
theorem confirmations_settled_sample :
    Settled (((opened sampleRequest 0x10 true).step (.responsePendingExpired true)).step
      (.act 0 .sendPositiveResponse)) := by
  apply confirmations_settled
  have start : (connections.restrict Condition).Reachable (opened sampleRequest 0x10 true) :=
    .initial ⟨sampleRequest, 0x10, true, rfl⟩
  have sent : (connections.restrict Condition).Step (opened sampleRequest 0x10 true)
      (.responsePendingExpired true)
      ((opened sampleRequest 0x10 true).step (.responsePendingExpired true)) := ⟨rfl, trivial⟩
  have answered : (connections.restrict Condition).Step
      ((opened sampleRequest 0x10 true).step (.responsePendingExpired true))
      (.act 0 .sendPositiveResponse)
      (((opened sampleRequest 0x10 true).step (.responsePendingExpired true)).step
        (.act 0 .sendPositiveResponse)) := ⟨rfl, trivial⟩
  exact (start.step sent).step answered

/-- The timeout of the whole request expires while the first part of a nested request is
answered: the second part starts beside it, and both answers use one closure. -/
def interruptedRun : List Event :=
  [.act 0 (.startNestedRequest 1 (.processed sampleRequest.buffer (1, 7))),
    .globalPendingExpired, .execute { next := .processed sampleRequest.buffer (1, 7) },
    .act 1 .sendPositiveResponse, .act 2 .sendPositiveResponse]

theorem reachable_run (events : List Event) {source : IncomingDiagConnection}
    (reached : connections.Reachable source) :
    connections.Reachable (events.foldl step source) := by
  induction events generalizing source with
  | nil => exact reached
  | cons event rest ih =>
    have stepped : connections.Step source event (source.step event) := rfl
    exact ih (reached.step stepped)

theorem not_confirmations_settled :
    ¬∀ connection, connections.Reachable connection → Settled connection := by
  intro all
  have start : connections.Reachable (opened sampleRequest 0x10 true) :=
    .initial ⟨sampleRequest, 0x10, true, rfl⟩
  have settled := all _ (reachable_run interruptedRun start)
  have overwritten : (interruptedRun.foldl step
      (opened sampleRequest 0x10 true)).log.overwritten = true := by decide
  rw [settled.single.2] at overwritten
  exact Bool.noConfusion overwritten

end OpenBsw.Uds.ConnectionRuns
