import OpenBsw.Transition.System
import OpenBsw.Uds.OutgoingDiagConnection

/-!
# The manager of the outgoing connections

The manager hands out the connections of its pool, asks all that are handed out whether a
new request conflicts with theirs, and dispatches a response to the connection that expects
it at the highest level.  The run records for each connection what its last
`sendDiagRequest` returned since it was handed out, and whether the application has written
into the request buffer since.
-/

namespace OpenBsw.Uds

open Transport TransportConfiguration Function

structure OutgoingDiagConnectionManager where
  DiagAddress : Nat
  connections : Nat → OutgoingDiagConnection
  outgoingDiagConnections : List Nat
  releasedOutgoingDiagConnections : List Nat
  shutdownRequested : Bool := false

namespace OutgoingDiagConnectionManager

def setConnection (manager : OutgoingDiagConnectionManager) (id : Nat)
    (connection : OutgoingDiagConnection) : OutgoingDiagConnectionManager :=
  { manager with connections := update manager.connections id connection }

/-! ## Conflicts and responses -/

def hasConflictingConnection (manager : OutgoingDiagConnectionManager) (id : Nat)
    (connection : OutgoingDiagConnection) : Bool :=
  manager.releasedOutgoingDiagConnections.any fun other =>
    decide (other ≠ id) && (manager.connections other).isConflicting connection

/-- One round of the search: the highest level so far and the connection that has it. -/
def expecting (manager : OutgoingDiagConnectionManager) (message : ReceivedMessage)
    (best : Nat × Option Nat) (id : Nat) : Nat × Option Nat :=
  if best.1 < (manager.connections id).isExpectedResponse message then
    ((manager.connections id).isExpectedResponse message, some id)
  else best

def getExpectingConnection (manager : OutgoingDiagConnectionManager)
    (message : ReceivedMessage) : Option Nat :=
  (manager.releasedOutgoingDiagConnections.foldl (manager.expecting message) (0, none)).2

/-! ## Handing out and taking back -/

def requestedPayloadSize (targetAddress : Nat) : Nat :=
  if isFunctionalAddress targetAddress then MAX_FUNCTIONAL_MESSAGE_PAYLOAD_SIZE
  else DIAG_PAYLOAD_SIZE

/-- The request message of the caller where it is large enough, else that of the provider. -/
def getRequestMessage (targetAddress : Nat) (given provided : Option TransportMessage) :
    Option TransportMessage :=
  match given with
  | none => provided
  | some message =>
    if message.maxPayloadLength < requestedPayloadSize targetAddress then none
    else some message

def opened (connection : OutgoingDiagConnection) (DiagAddress targetAddress : Nat)
    (message : TransportMessage) : OutgoingDiagConnection :=
  { connection with
    hasMessageSender := true
    hasDiagConnectionManager := true
    requestMessage :=
      { message.resetValidBytes with sourceAddress := DiagAddress, targetAddress }
    sourceAddress := DiagAddress
    targetAddress
    isOpen := true
    suppressIncomingPendings := true }

/-- The manager afterwards and the connection that was handed out, if there was one. -/
def requestOutgoingConnection (manager : OutgoingDiagConnectionManager) (targetAddress : Nat)
    (given provided : Option TransportMessage) :
    OutgoingDiagConnectionManager × Option Nat :=
  match manager.outgoingDiagConnections with
  | [] => (manager, none)
  | id :: rest =>
    if manager.shutdownRequested then (manager, none)
    else
      match getRequestMessage targetAddress given provided with
      | none => ({ manager with outgoingDiagConnections := rest ++ [id] }, none)
      | some message =>
        ({ manager with
          connections := update manager.connections id
            (opened (manager.connections id) manager.DiagAddress targetAddress message)
          outgoingDiagConnections := rest
          releasedOutgoingDiagConnections :=
            manager.releasedOutgoingDiagConnections ++ [id] }, some id)

def diagConnectionTerminated (manager : OutgoingDiagConnectionManager) (id : Nat) :
    OutgoingDiagConnectionManager :=
  { manager with
    releasedOutgoingDiagConnections := manager.releasedOutgoingDiagConnections.erase id
    outgoingDiagConnections := manager.outgoingDiagConnections ++ [id] }

def terminate (manager : OutgoingDiagConnectionManager) (id : Nat) :
    OutgoingDiagConnectionManager :=
  let connection := manager.connections id
  if connection.isOpen ∨ connection.connectionTerminationIsPending then
    (manager.setConnection id
      { connection with
        isOpen := false
        connectionTerminationIsPending := false
        sendInProgress := false
        sender := none }).diagConnectionTerminated id
  else manager

/-- A connection whose time is over stays handed out while responses are waiting. -/
def timeoutOccurred (manager : OutgoingDiagConnectionManager) (id : Nat)
    (responsesPending : Bool) : OutgoingDiagConnectionManager :=
  if responsesPending then
    manager.setConnection id
      { manager.connections id with isOpen := false, connectionTerminationIsPending := true }
  else manager.terminate id

def checkShutdownProgress (manager : OutgoingDiagConnectionManager) :
    OutgoingDiagConnectionManager :=
  if manager.shutdownRequested then
    manager.releasedOutgoingDiagConnections.foldl terminate manager
  else manager

def shutdown (manager : OutgoingDiagConnectionManager) : OutgoingDiagConnectionManager :=
  { manager with shutdownRequested := true }.checkShutdownProgress

/-! ## Sending -/

/-- The parameters of `sendDiagRequest`. -/
structure DiagRequest where
  length : Nat
  sender : Nat
  matchingResponseBytes : Nat := 0
  acceptNegativeResponse : Bool := true
  suppressSend : Bool := false
  suppressIncomingPendings : Bool := true
  deriving DecidableEq

/-- The connection when the conflict test is made. -/
def prepared (connection : OutgoingDiagConnection) (request : DiagRequest)
    (serviceId : UInt8) : OutgoingDiagConnection :=
  { connection with
    matchingResponseBytes := request.matchingResponseBytes
    acceptNegativeResponse := request.acceptNegativeResponse
    suppressIncomingPendings := request.suppressIncomingPendings
    sender := some request.sender
    requestMessage :=
      { connection.requestMessage with
        validBytes := request.length, payloadLength := request.length }
    serviceId }

/-- Send a request; `sent` is the answer of the transport layer.  There is no result where
the length does not fit into the message, which fails an assertion, and where bytes are to
be matched that lie outside of the message. -/
def sendDiagRequest (manager : OutgoingDiagConnectionManager) (id : Nat)
    (request : DiagRequest) (sent : Bool) :
    Option (OutgoingDiagConnectionManager × ErrorCode) :=
  let connection := manager.connections id
  if !connection.isOpen then some (manager, .CONNECTION_NOT_OPEN)
  else if connection.sendInProgress then some (manager, .SEND_FAILED)
  else if !connection.hasMessageSender then some (manager, .SEND_FAILED)
  else if connection.requestMessage.maxPayloadLength < request.length ∨
      connection.requestMessage.maxPayloadLength ≤ request.matchingResponseBytes then none
  else
    connection.requestMessage.buffer.head?.map fun serviceId =>
      let connection := prepared connection request serviceId
      if connection.hasDiagConnectionManager ∧
          manager.hasConflictingConnection id connection then
        (manager.setConnection id connection, .CONFLICTING_REQUEST)
      else if request.suppressSend then
        (manager.setConnection id { connection with sendInProgress := false }, .OK)
      else if sent then
        (manager.setConnection id { connection with sendInProgress := true }, .OK)
      else (manager.setConnection id { connection with sendInProgress := false }, .SEND_FAILED)

def resend (manager : OutgoingDiagConnectionManager) (id : Nat) (sent : Bool) :
    Option (OutgoingDiagConnectionManager × ErrorCode) :=
  match (manager.connections id).sender with
  | some sender =>
    manager.sendDiagRequest id
      { length := (manager.connections id).requestMessage.payloadLength, sender } sent
  | none => some (manager, .SEND_FAILED)

def transportMessageProcessed (manager : OutgoingDiagConnectionManager) (id : Nat) :
    OutgoingDiagConnectionManager :=
  if (manager.connections id).sender = none then manager
  else manager.setConnection id { manager.connections id with sendInProgress := false }

/-- The application writes into the buffer that `getRequestBuffer` returned. -/
def writeRequestBuffer (manager : OutgoingDiagConnectionManager) (id offset : Nat)
    (bytes : List UInt8) : Option OutgoingDiagConnectionManager :=
  let connection := manager.connections id
  if offset + bytes.length ≤ connection.requestMessage.buffer.length then
    some (manager.setConnection id
      { connection with
        requestMessage :=
          { connection.requestMessage with
            buffer := Bytes.overwrite connection.requestMessage.buffer offset bytes } })
  else none

end OutgoingDiagConnectionManager

/-! ## Runs -/

inductive OutgoingEvent
  | requestOutgoingConnection (targetAddress : Nat) (given provided : Option TransportMessage)
  | writeRequestBuffer (id offset : Nat) (bytes : List UInt8)
  | sendDiagRequest (id : Nat) (request : OutgoingDiagConnectionManager.DiagRequest)
      (sent : Bool)
  | resend (id : Nat) (sent : Bool)
  | transportMessageProcessed (id : Nat)
  | timeoutOccurred (id : Nat) (responsesPending : Bool)
  | terminate (id : Nat)
  | shutdown
  deriving DecidableEq

/-- The manager with what the last request of each connection came to. -/
structure OutgoingRun where
  manager : OutgoingDiagConnectionManager
  outcome : Nat → Option ErrorCode := fun _ => none
  rewritten : Nat → Bool := fun _ => false

namespace OutgoingRun

open OutgoingDiagConnectionManager OutgoingDiagConnection

/-- A request returned this result; the buffer is as it was when it was sent. -/
def sentRequest (run : OutgoingRun) (id : Nat)
    (result : OutgoingDiagConnectionManager × ErrorCode) : OutgoingRun where
  manager := result.1
  outcome := update run.outcome id (some result.2)
  rewritten := update run.rewritten id false

def perform (run : OutgoingRun) : OutgoingEvent → Option OutgoingRun
  | .requestOutgoingConnection targetAddress given provided =>
    match run.manager.requestOutgoingConnection targetAddress given provided with
    | (manager, none) => some { run with manager }
    | (manager, some id) =>
      some { run with manager, outcome := update run.outcome id none }
  | .writeRequestBuffer id offset bytes =>
    (run.manager.writeRequestBuffer id offset bytes).map fun manager =>
      { run with manager, rewritten := update run.rewritten id true }
  | .sendDiagRequest id request sent =>
    (run.manager.sendDiagRequest id request sent).map (run.sentRequest id)
  | .resend id sent => (run.manager.resend id sent).map (run.sentRequest id)
  | .transportMessageProcessed id =>
    some { run with manager := run.manager.transportMessageProcessed id }
  | .timeoutOccurred id responsesPending =>
    some { run with manager := run.manager.timeoutOccurred id responsesPending }
  | .terminate id => some { run with manager := run.manager.terminate id }
  | .shutdown => some { run with manager := run.manager.shutdown }

/-- At the start no connection is handed out or open. -/
structure Initial (run : OutgoingRun) : Prop where
  closed : ∀ id, (run.manager.connections id).isOpen = false

/-- The runs of the manager. -/
def system : Transition.System OutgoingRun OutgoingEvent where
  Initial := Initial
  Step run event next := run.perform event = some next

/-- An open connection whose last request was sent. -/
def Outstanding (run : OutgoingRun) (id : Nat) : Prop :=
  (run.manager.connections id).isOpen = true ∧ run.outcome id = some .OK

instance (run : OutgoingRun) (id : Nat) : Decidable (run.Outstanding id) := by
  unfold Outstanding
  infer_instance

/-! ## What sending establishes -/

/-- The outstanding requests are handed out and lie in their messages, and two of them
whose buffers were left alone do not conflict. -/
structure Invariant (run : OutgoingRun) : Prop where
  released : ∀ {id}, (run.manager.connections id).isOpen = true →
    id ∈ run.manager.releasedOutgoingDiagConnections
  source : ∀ {id}, (run.manager.connections id).isOpen = true →
    (run.manager.connections id).sourceAddress = run.manager.DiagAddress
  managed : ∀ {id}, (run.manager.connections id).isOpen = true →
    (run.manager.connections id).hasDiagConnectionManager = true
  sender : ∀ {id}, run.Outstanding id → (run.manager.connections id).sender ≠ none
  inside : ∀ {id}, run.Outstanding id →
    (run.manager.connections id).matchingResponseBytes <
      (run.manager.connections id).requestMessage.maxPayloadLength
  apart : ∀ {id other}, id ≠ other → run.Outstanding id → run.Outstanding other →
    run.rewritten id = false → run.rewritten other = false →
    (run.manager.connections id).isConflicting (run.manager.connections other) = false

/-- The steps that touch one connection: everything else is as before. -/
structure Touches (run next : OutgoingRun) (id : Nat) : Prop where
  address : next.manager.DiagAddress = run.manager.DiagAddress
  connections : ∀ other, other ≠ id →
    next.manager.connections other = run.manager.connections other
  outcome : ∀ other, other ≠ id → next.outcome other = run.outcome other
  rewritten : ∀ other, other ≠ id → next.rewritten other = run.rewritten other
  released : ∀ other, other ≠ id → other ∈ run.manager.releasedOutgoingDiagConnections →
    other ∈ next.manager.releasedOutgoingDiagConnections

theorem Touches.outstanding {run next : OutgoingRun} {id other : Nat}
    (touches : Touches run next id) (distinct : other ≠ id) :
    next.Outstanding other ↔ run.Outstanding other := by
  rw [Outstanding, Outstanding, touches.connections other distinct,
    touches.outcome other distinct]

/-- One connection is touched: only what the invariant says about it has to be shown. -/
theorem Invariant.touch {run next : OutgoingRun} (invariant : run.Invariant) (id : Nat)
    (touches : Touches run next id)
    (released : (next.manager.connections id).isOpen = true →
      id ∈ next.manager.releasedOutgoingDiagConnections ∧
      (next.manager.connections id).sourceAddress = run.manager.DiagAddress ∧
      (next.manager.connections id).hasDiagConnectionManager = true)
    (outstanding : next.Outstanding id →
      (next.manager.connections id).sender ≠ none ∧
      (next.manager.connections id).matchingResponseBytes <
        (next.manager.connections id).requestMessage.maxPayloadLength)
    (apart : next.Outstanding id → next.rewritten id = false → ∀ other, other ≠ id →
      run.Outstanding other → run.rewritten other = false →
      (run.manager.connections other).isConflicting (next.manager.connections id) = false) :
    next.Invariant where
  released := by
    intro other opened
    by_cases same : other = id
    · subst same
      exact (released opened).1
    · rw [touches.connections other same] at opened
      exact touches.released other same (invariant.released opened)
  source := by
    intro other opened
    rw [touches.address]
    by_cases same : other = id
    · subst same
      exact (released opened).2.1
    · rw [touches.connections other same] at opened ⊢
      exact invariant.source opened
  managed := by
    intro other opened
    by_cases same : other = id
    · subst same
      exact (released opened).2.2
    · rw [touches.connections other same] at opened ⊢
      exact invariant.managed opened
  sender := by
    intro other sent
    by_cases same : other = id
    · subst same
      exact (outstanding sent).1
    · rw [touches.connections other same]
      exact invariant.sender ((touches.outstanding same).mp sent)
  inside := by
    intro other sent
    by_cases same : other = id
    · subst same
      exact (outstanding sent).2
    · rw [touches.connections other same]
      exact invariant.inside ((touches.outstanding same).mp sent)
  apart := by
    intro first second distinct firstSent secondSent firstKept secondKept
    by_cases firstIs : first = id
    · subst firstIs
      have old := (touches.outstanding distinct.symm).mp secondSent
      have senders := invariant.sender old
      have before := touches.connections second distinct.symm
      rw [touches.rewritten second distinct.symm] at secondKept
      rw [isConflicting_comm (outstanding firstSent).1 (by rw [before]; exact senders), before]
      exact apart firstSent firstKept second distinct.symm old secondKept
    · by_cases secondIs : second = id
      · subst secondIs
        rw [touches.rewritten first firstIs] at firstKept
        rw [touches.connections first firstIs]
        exact apart secondSent secondKept first firstIs
          ((touches.outstanding firstIs).mp firstSent) firstKept
      · rw [touches.rewritten first firstIs] at firstKept
        rw [touches.rewritten second secondIs] at secondKept
        rw [touches.connections first firstIs, touches.connections second secondIs]
        exact invariant.apart distinct ((touches.outstanding firstIs).mp firstSent)
          ((touches.outstanding secondIs).mp secondSent) firstKept secondKept

/-- A connection that is not open and sent afterwards needs no further argument. -/
theorem Invariant.touch_idle {run next : OutgoingRun} (invariant : run.Invariant) (id : Nat)
    (touches : Touches run next id)
    (released : (next.manager.connections id).isOpen = true →
      id ∈ next.manager.releasedOutgoingDiagConnections ∧
      (next.manager.connections id).sourceAddress = run.manager.DiagAddress ∧
      (next.manager.connections id).hasDiagConnectionManager = true)
    (idle : ¬next.Outstanding id) : next.Invariant :=
  invariant.touch id touches released (fun sent => (idle sent).elim)
    fun sent => (idle sent).elim

theorem terminate_invariant {run : OutgoingRun} (invariant : run.Invariant) (id : Nat) :
    Invariant { run with manager := run.manager.terminate id } := by
  by_cases active : (run.manager.connections id).isOpen ∨
      (run.manager.connections id).connectionTerminationIsPending
  · have closed : ((run.manager.terminate id).connections id).isOpen = false := by
      rw [terminate, if_pos active]
      simp only [setConnection, diagConnectionTerminated, update_self]
    apply invariant.touch_idle id
    · constructor
      · rw [terminate, if_pos active]
        rfl
      · intro other distinct
        rw [terminate, if_pos active]
        exact update_of_ne distinct _ _
      · intro _ _
        rfl
      · intro _ _
        rfl
      · intro other distinct member
        rw [terminate, if_pos active]
        exact (List.mem_erase_of_ne distinct).mpr member
    · intro opened
      rw [closed] at opened
      contradiction
    · intro sent
      have opened := sent.1
      rw [closed] at opened
      contradiction
  · rw [terminate, if_neg active]
    exact invariant

theorem timeoutOccurred_invariant {run : OutgoingRun} (invariant : run.Invariant) (id : Nat)
    (responsesPending : Bool) :
    Invariant { run with manager := run.manager.timeoutOccurred id responsesPending } := by
  cases responsesPending with
  | false => exact terminate_invariant invariant id
  | true =>
    have closed : ((run.manager.timeoutOccurred id true).connections id).isOpen = false := by
      simp only [timeoutOccurred, if_true, setConnection, update_self]
    apply invariant.touch_idle id
    · constructor
      · rfl
      · intro other distinct
        exact update_of_ne distinct _ _
      · intro _ _
        rfl
      · intro _ _
        rfl
      · intro _ _ member
        exact member
    · intro opened
      rw [closed] at opened
      contradiction
    · intro sent
      have opened := sent.1
      rw [closed] at opened
      contradiction

theorem foldl_terminate_invariant {run : OutgoingRun} (invariant : run.Invariant)
    (ids : List Nat) :
    Invariant { run with manager := ids.foldl terminate run.manager } := by
  induction ids generalizing run with
  | nil => exact invariant
  | cons id rest ih => exact ih (terminate_invariant invariant id)

theorem shutdown_invariant {run : OutgoingRun} (invariant : run.Invariant) :
    Invariant { run with manager := run.manager.shutdown } := by
  have requested :
      Invariant { run with manager := { run.manager with shutdownRequested := true } } :=
    ⟨invariant.released, invariant.source, invariant.managed, invariant.sender,
      invariant.inside, invariant.apart⟩
  exact foldl_terminate_invariant requested _

theorem requestOutgoingConnection_invariant {run next : OutgoingRun}
    (invariant : run.Invariant) {targetAddress : Nat} {given provided : Option TransportMessage}
    (performed : run.perform (.requestOutgoingConnection targetAddress given provided) =
      some next) : next.Invariant := by
  simp only [perform, requestOutgoingConnection] at performed
  cases pool : run.manager.outgoingDiagConnections with
  | nil =>
    simp only [pool, Option.some.injEq] at performed
    subst performed
    exact invariant
  | cons id rest =>
    by_cases shuts : run.manager.shutdownRequested = true
    · simp only [pool, shuts, if_true, Option.some.injEq] at performed
      subst performed
      exact invariant
    · cases message : getRequestMessage targetAddress given provided with
      | none =>
        simp only [pool, shuts, message, if_false, Option.some.injEq,
          Bool.false_eq_true] at performed
        subst performed
        exact ⟨invariant.released, invariant.source, invariant.managed, invariant.sender,
          invariant.inside, invariant.apart⟩
      | some message' =>
        simp only [pool, shuts, message, if_false, Option.some.injEq,
          Bool.false_eq_true] at performed
        subst performed
        apply invariant.touch_idle id
        · constructor
          · rfl
          · intro other distinct
            exact update_of_ne distinct _ _
          · intro other distinct
            exact update_of_ne distinct _ _
          · intro _ _
            rfl
          · intro _ _ member
            exact List.mem_append_left _ member
        · intro _
          constructor
          · exact List.mem_append_right _ (List.mem_singleton.mpr rfl)
          · simp [opened]
        · intro sent
          have outcome := sent.2
          simp at outcome

theorem writeRequestBuffer_invariant {run next : OutgoingRun} (invariant : run.Invariant)
    {id offset : Nat} {bytes : List UInt8}
    (performed : run.perform (.writeRequestBuffer id offset bytes) = some next) :
    next.Invariant := by
  simp only [perform, writeRequestBuffer, Option.map_eq_some_iff, Option.ite_none_right_eq_some,
    Option.some.injEq] at performed
  obtain ⟨manager, ⟨fits, rfl⟩, rfl⟩ := performed
  have sent : Outstanding
      { run with
        manager := run.manager.setConnection id
          { run.manager.connections id with
            requestMessage :=
              { (run.manager.connections id).requestMessage with
                buffer := Bytes.overwrite (run.manager.connections id).requestMessage.buffer
                  offset bytes } }
        rewritten := update run.rewritten id true } id → run.Outstanding id := by
    rintro ⟨opened, outcome⟩
    simp only [setConnection, update_self] at opened
    exact ⟨opened, outcome⟩
  apply invariant.touch id
  · constructor
    · rfl
    · intro other distinct
      exact update_of_ne distinct _ _
    · intro _ _
      rfl
    · intro other distinct
      exact update_of_ne distinct _ _
    · intro _ _ member
      exact member
  · simp only [setConnection, update_self]
    intro opened
    exact ⟨invariant.released opened, invariant.source opened, invariant.managed opened⟩
  · intro outstanding
    have old := sent outstanding
    simp only [setConnection, update_self, TransportMessage.maxPayloadLength,
      Bytes.length_overwrite fits]
    exact ⟨invariant.sender old, invariant.inside old⟩
  · intro _ kept
    simp at kept

theorem transportMessageProcessed_invariant {run : OutgoingRun} (invariant : run.Invariant)
    (id : Nat) :
    Invariant { run with manager := run.manager.transportMessageProcessed id } := by
  by_cases idle : (run.manager.connections id).sender = none
  · rw [transportMessageProcessed, if_pos idle]
    exact invariant
  · rw [transportMessageProcessed, if_neg idle]
    have sent : Outstanding
        { run with
          manager := run.manager.setConnection id
            { run.manager.connections id with sendInProgress := false } } id →
        run.Outstanding id := by
      rintro ⟨opened, outcome⟩
      simp only [setConnection, update_self] at opened
      exact ⟨opened, outcome⟩
    apply invariant.touch id
    · constructor
      · rfl
      · intro other distinct
        exact update_of_ne distinct _ _
      · intro _ _
        rfl
      · intro _ _
        rfl
      · intro _ _ member
        exact member
    · simp only [setConnection, update_self]
      intro opened
      exact ⟨invariant.released opened, invariant.source opened, invariant.managed opened⟩
    · intro outstanding
      simp only [setConnection, update_self]
      exact ⟨invariant.sender (sent outstanding), invariant.inside (sent outstanding)⟩
    · intro outstanding kept other distinct otherSent otherKept
      simp only [setConnection, update_self]
      exact invariant.apart distinct otherSent (sent outstanding) otherKept kept

/-- What `sendDiagRequest` can do: it fails without a trace, or it stores the request, and
where it returns `OK` no connection that is handed out conflicts with it. -/
theorem sendDiagRequest_cases {manager after : OutgoingDiagConnectionManager} {id : Nat}
    {request : DiagRequest} {sent : Bool} {result : ErrorCode}
    (performed : manager.sendDiagRequest id request sent = some (after, result)) :
    (after = manager ∧ result ≠ .OK) ∨
      ∃ serviceId sendInProgress,
        after = manager.setConnection id
          { prepared (manager.connections id) request serviceId with sendInProgress } ∧
        (manager.connections id).isOpen = true ∧
        request.matchingResponseBytes <
          (manager.connections id).requestMessage.maxPayloadLength ∧
        (result = .OK → (manager.connections id).hasDiagConnectionManager = true →
          manager.hasConflictingConnection id
            (prepared (manager.connections id) request serviceId) = false) := by
  rw [sendDiagRequest] at performed
  simp only at performed
  by_cases opened : (manager.connections id).isOpen = true
  · rw [opened, if_neg (by simp)] at performed
    by_cases busy : (manager.connections id).sendInProgress = true
    · rw [if_pos busy] at performed
      cases performed
      exact .inl ⟨rfl, by decide⟩
    · rw [if_neg busy] at performed
      by_cases senderless : (!(manager.connections id).hasMessageSender) = true
      · rw [if_pos senderless] at performed
        cases performed
        exact .inl ⟨rfl, by decide⟩
      · rw [if_neg senderless] at performed
        by_cases outside : (manager.connections id).requestMessage.maxPayloadLength <
              request.length ∨
            (manager.connections id).requestMessage.maxPayloadLength ≤
              request.matchingResponseBytes
        · rw [if_pos outside] at performed
          cases performed
        · rw [if_neg outside] at performed
          obtain ⟨serviceId, _, stored⟩ := Option.map_eq_some_iff.mp performed
          right
          by_cases conflict : (prepared (manager.connections id) request
                serviceId).hasDiagConnectionManager ∧
              manager.hasConflictingConnection id
                (prepared (manager.connections id) request serviceId) = true
          · rw [if_pos conflict] at stored
            cases stored
            exact ⟨serviceId, _, rfl, opened, by omega, fun ok => by cases ok⟩
          · rw [if_neg conflict] at stored
            have free : (manager.connections id).hasDiagConnectionManager = true →
                manager.hasConflictingConnection id
                  (prepared (manager.connections id) request serviceId) = false := by
              intro managed
              by_contra conflicting
              exact conflict ⟨managed, by simpa using conflicting⟩
            by_cases suppressed : request.suppressSend = true
            · rw [if_pos suppressed] at stored
              cases stored
              exact ⟨serviceId, _, rfl, opened, by omega, fun _ => free⟩
            · rw [if_neg suppressed] at stored
              cases sent <;> cases stored <;>
                exact ⟨serviceId, _, rfl, opened, by omega, fun _ => free⟩
  · rw [if_pos (by simpa using opened)] at performed
    cases performed
    exact .inl ⟨rfl, by decide⟩

theorem sentRequest_invariant {run : OutgoingRun} (invariant : run.Invariant) {id : Nat}
    {request : DiagRequest} {sent : Bool} {result : OutgoingDiagConnectionManager × ErrorCode}
    (performed : run.manager.sendDiagRequest id request sent = some result) :
    (run.sentRequest id result).Invariant := by
  obtain ⟨after, code⟩ := result
  have touches : after.DiagAddress = run.manager.DiagAddress →
      (∀ other, other ≠ id → after.connections other = run.manager.connections other) →
      after.releasedOutgoingDiagConnections = run.manager.releasedOutgoingDiagConnections →
      Touches run (run.sentRequest id (after, code)) id := by
    intro address connections released
    constructor
    · exact address
    · exact connections
    · intro other distinct
      exact update_of_ne distinct _ _
    · intro other distinct
      exact update_of_ne distinct _ _
    · intro other _ member
      rw [sentRequest, released]
      exact member
  rcases sendDiagRequest_cases performed with
    ⟨rfl, failed⟩ | ⟨serviceId, sendInProgress, rfl, opened, inside, free⟩
  · apply invariant.touch_idle id (touches rfl (fun _ _ => rfl) rfl)
    · intro opened
      exact ⟨invariant.released opened, invariant.source opened, invariant.managed opened⟩
    · intro outstanding
      have outcome := outstanding.2
      simp only [sentRequest, update_self, Option.some.injEq] at outcome
      exact failed outcome
  · apply invariant.touch id
      (touches rfl (fun other distinct => update_of_ne distinct _ _) rfl)
    · intro _
      simp only [sentRequest, setConnection, update_self, prepared]
      exact ⟨invariant.released opened, invariant.source opened, invariant.managed opened⟩
    · intro _
      simp only [sentRequest, setConnection, update_self, prepared]
      exact ⟨by simp, inside⟩
    · intro outstanding _ other distinct otherSent _
      have outcome := outstanding.2
      simp only [sentRequest, update_self, Option.some.injEq] at outcome
      have conflicts := free outcome (invariant.managed opened)
      rw [hasConflictingConnection, List.any_eq_false] at conflicts
      have pair := conflicts other (invariant.released otherSent.1)
      simp only [distinct, ne_eq, not_false_eq_true, decide_true, Bool.true_and,
        Bool.not_eq_true] at pair
      simp only [sentRequest, setConnection, update_self]
      exact pair

/-- Every event preserves the invariant. -/
theorem perform_invariant {run next : OutgoingRun} (invariant : run.Invariant)
    {event : OutgoingEvent} (performed : run.perform event = some next) : next.Invariant := by
  cases event with
  | requestOutgoingConnection targetAddress given provided =>
    exact requestOutgoingConnection_invariant invariant performed
  | writeRequestBuffer id offset bytes => exact writeRequestBuffer_invariant invariant performed
  | sendDiagRequest id request sent =>
    obtain ⟨result, returned, rfl⟩ := Option.map_eq_some_iff.mp performed
    exact sentRequest_invariant invariant returned
  | resend id sent =>
    obtain ⟨result, returned, rfl⟩ := Option.map_eq_some_iff.mp performed
    rw [OutgoingDiagConnectionManager.resend] at returned
    cases sender : (run.manager.connections id).sender with
    | some application =>
      rw [sender] at returned
      exact sentRequest_invariant invariant returned
    | none =>
      rw [sender] at returned
      cases returned
      apply invariant.touch_idle id
      · constructor
        · rfl
        · intro _ _
          rfl
        · intro other distinct
          exact update_of_ne distinct _ _
        · intro other distinct
          exact update_of_ne distinct _ _
        · intro _ _ member
          exact member
      · intro opened
        exact ⟨invariant.released opened, invariant.source opened,
          invariant.managed opened⟩
      · intro outstanding
        have outcome := outstanding.2
        simp [sentRequest] at outcome
  | transportMessageProcessed id =>
    cases performed
    exact transportMessageProcessed_invariant invariant id
  | timeoutOccurred id responsesPending =>
    cases performed
    exact timeoutOccurred_invariant invariant id responsesPending
  | terminate id =>
    cases performed
    exact terminate_invariant invariant id
  | shutdown =>
    cases performed
    exact shutdown_invariant invariant

theorem invariant_inductive : system.Inductive Invariant where
  initial := by
    intro run start
    have closed {id : Nat} (opened : (run.manager.connections id).isOpen = true) : False := by
      rw [start.closed id] at opened
      contradiction
    constructor
    · intro _ opened
      exact (closed opened).elim
    · intro _ opened
      exact (closed opened).elim
    · intro _ opened
      exact (closed opened).elim
    · intro _ sent
      exact (closed sent.1).elim
    · intro _ sent
      exact (closed sent.1).elim
    · intro _ _ _ sent
      exact (closed sent.1).elim
  step := by
    intro source event target invariant performed
    exact perform_invariant invariant performed

end OutgoingRun

end OpenBsw.Uds
