import OpenBsw.Transport.TransportMessage
import OpenBsw.Uds.DiagCodes

/-!
# Outgoing diagnostic connections

An outgoing connection carries one request at a time.  Two predicates over it decide what
becomes of a response: `isConflicting`, asked before a request is sent, compares two
connections, and `isExpectedResponse`, asked when a message arrives, yields the level at
which the message answers the request.
-/

namespace OpenBsw.Uds

open Transport

inductive ErrorCode
  | OK
  | NO_TP_MESSAGE
  | SEND_FAILED
  | CONNECTION_NOT_OPEN
  | CONFLICTING_REQUEST
  | CONNECTION_BUSY
  deriving DecidableEq, Repr

open DiagReturnCode DiagCodes TransportConfiguration

/-- A received message: who sent it, and its payload. -/
structure ReceivedMessage where
  sourceAddress : Nat
  payload : List UInt8
  deriving DecidableEq

/-- A connection with the request message it owns.  Before the first request message there
is an empty one. -/
structure OutgoingDiagConnection where
  requestMessage : TransportMessage := ⟨0, [], 0, 0, 0, 0⟩
  hasMessageSender : Bool := false
  hasDiagConnectionManager : Bool := false
  isOpen : Bool := false
  sourceAddress : Nat := 0xFF
  targetAddress : Nat := 0xFF
  serviceId : UInt8 := 0xFF
  sender : Option Nat := none
  sendInProgress : Bool := false
  acceptNegativeResponse : Bool := true
  suppressIncomingPendings : Bool := false
  matchingResponseBytes : Nat := 0
  connectionTerminationIsPending : Bool := false
  deriving DecidableEq

namespace OutgoingDiagConnection

variable {connection other : OutgoingDiagConnection} {payload : List UInt8}

/-! ## Conflicts -/

/-- The bytes of the two requests that both want to see in a response agree. -/
def sameBytes (connection other : OutgoingDiagConnection) (bytesToCheck : Nat) : Bool :=
  (List.range' 1 bytesToCheck).all fun i =>
    decide (connection.requestMessage.buffer[i]? = other.requestMessage.buffer[i]?)

def isConflicting (connection other : OutgoingDiagConnection) : Bool :=
  if connection.sender = none then false
  else if connection.sourceAddress ≠ other.sourceAddress then false
  else if !isFunctionalAddress connection.targetAddress ∧
      !isFunctionalAddress other.targetAddress ∧
      connection.targetAddress ≠ other.targetAddress then false
  else if connection.serviceId ≠ other.serviceId then false
  else if connection.acceptNegativeResponse ≠ other.acceptNegativeResponse ∧
      (0 < connection.matchingResponseBytes ∨ 0 < other.matchingResponseBytes) then false
  else
    sameBytes connection other
      (if connection.matchingResponseBytes < other.matchingResponseBytes then
        connection.matchingResponseBytes
      else other.matchingResponseBytes)

/-- The test of the addresses sees a conflict. -/
def AddressesMeet (connection other : OutgoingDiagConnection) : Prop :=
  connection.targetAddress = FUNCTIONAL_ALL_ISO14229 ∨
    other.targetAddress = FUNCTIONAL_ALL_ISO14229 ∨
    connection.targetAddress = other.targetAddress

theorem sameBytes_iff {bytesToCheck : Nat} :
    sameBytes connection other bytesToCheck = true ↔
      ∀ i, 1 ≤ i → i ≤ bytesToCheck →
        connection.requestMessage.buffer[i]? = other.requestMessage.buffer[i]? := by
  simp only [sameBytes, List.all_eq_true, List.mem_range'_1, decide_eq_true_eq]
  constructor
  · intro same i lower upper
    exact same i ⟨lower, by omega⟩
  · intro same i bounds
    exact same i bounds.1 (by omega)

/-- What the test at sending amounts to for two requests with a sender. -/
theorem isConflicting_iff (sent : connection.sender ≠ none) :
    connection.isConflicting other = true ↔
      connection.sourceAddress = other.sourceAddress ∧ AddressesMeet connection other ∧
        connection.serviceId = other.serviceId ∧
        (connection.acceptNegativeResponse = other.acceptNegativeResponse ∨
          (connection.matchingResponseBytes = 0 ∧ other.matchingResponseBytes = 0)) ∧
        ∀ i, 1 ≤ i → i ≤ connection.matchingResponseBytes →
          i ≤ other.matchingResponseBytes →
          connection.requestMessage.buffer[i]? = other.requestMessage.buffer[i]? := by
  have addresses : (!isFunctionalAddress connection.targetAddress ∧
      !isFunctionalAddress other.targetAddress ∧
      connection.targetAddress ≠ other.targetAddress) ↔ ¬AddressesMeet connection other := by
    simp only [isFunctionalAddress, AddressesMeet, Bool.not_eq_true', decide_eq_false_iff_not,
      not_or, ne_eq]
    tauto
  have bytes : sameBytes connection other
      (if connection.matchingResponseBytes < other.matchingResponseBytes then
        connection.matchingResponseBytes else other.matchingResponseBytes) = true ↔
      ∀ i, 1 ≤ i → i ≤ connection.matchingResponseBytes → i ≤ other.matchingResponseBytes →
        connection.requestMessage.buffer[i]? = other.requestMessage.buffer[i]? := by
    rw [sameBytes_iff]
    constructor
    · intro same i lower first second
      apply same i lower
      split <;> omega
    · intro same i lower upper
      split at upper
      · exact same i lower upper (by omega)
      · exact same i lower (by omega) upper
  have flags : (connection.acceptNegativeResponse ≠ other.acceptNegativeResponse ∧
      (0 < connection.matchingResponseBytes ∨ 0 < other.matchingResponseBytes)) ↔
      ¬(connection.acceptNegativeResponse = other.acceptNegativeResponse ∨
        (connection.matchingResponseBytes = 0 ∧ other.matchingResponseBytes = 0)) := by
    rw [not_or, not_and_or, Nat.pos_iff_ne_zero, Nat.pos_iff_ne_zero]
  rw [isConflicting, if_neg sent, ← bytes]
  by_cases sources : connection.sourceAddress = other.sourceAddress
  · rw [if_neg (not_not.mpr sources)]
    by_cases meet : AddressesMeet connection other
    · rw [if_neg (fun separate => addresses.mp separate meet)]
      by_cases services : connection.serviceId = other.serviceId
      · rw [if_neg (not_not.mpr services)]
        by_cases accepting : connection.acceptNegativeResponse = other.acceptNegativeResponse ∨
            (connection.matchingResponseBytes = 0 ∧ other.matchingResponseBytes = 0)
        · rw [if_neg (fun differ => flags.mp differ accepting)]
          simp only [sources, meet, services, accepting, true_and]
        · rw [if_pos (flags.mpr accepting)]
          simp only [accepting, false_and, and_false, Bool.false_eq_true]
      · rw [if_pos services]
        simp only [services, false_and, and_false, Bool.false_eq_true]
    · rw [if_pos (addresses.mpr meet)]
      simp only [meet, false_and, and_false, Bool.false_eq_true]
  · rw [if_pos sources]
    simp only [sources, false_and, Bool.false_eq_true]

/-- Between requests that both have a sender the test is symmetric. -/
theorem isConflicting_comm (sent : connection.sender ≠ none) (otherSent : other.sender ≠ none) :
    connection.isConflicting other = other.isConflicting connection := by
  rw [Bool.eq_iff_iff, isConflicting_iff sent, isConflicting_iff otherSent]
  simp only [AddressesMeet, eq_comm (a := other.sourceAddress),
    eq_comm (a := other.targetAddress) (b := connection.targetAddress),
    eq_comm (a := other.serviceId), eq_comm (a := other.acceptNegativeResponse)]
  constructor
  · rintro ⟨sources, meet, services, accepting, same⟩
    exact ⟨sources, by tauto, services, by tauto,
      fun i lower first second => (same i lower second first).symm⟩
  · rintro ⟨sources, meet, services, accepting, same⟩
    exact ⟨sources, by tauto, services, by tauto,
      fun i lower first second => (same i lower second first).symm⟩

/-! ## Responses -/

def verifyResponse (connection : OutgoingDiagConnection) (payload : List UInt8) : Nat :=
  match payload with
  | [] => 0
  | first :: _ =>
    if NEGATIVE_RESPONSE_IDENTIFIER = first then
      if payload.length = NEGATIVE_RESPONSE_MESSAGE_LENGTH ∧ connection.acceptNegativeResponse
          ∧ payload[1]? = some connection.serviceId then 1
      else 0
    else if connection.serviceId.toNat + POSITIVE_RESPONSE_OFFSET ≠ first.toNat then 0
    else if payload.length - 1 < connection.matchingResponseBytes then 0
    else
      let matchingBytes :=
        1 + (List.range' 1 connection.matchingResponseBytes).countP fun i =>
          decide (connection.requestMessage.buffer[i]? = payload[i]?)
      if 0 < connection.matchingResponseBytes ∧
          matchingBytes ≤ connection.matchingResponseBytes then 0
      else matchingBytes

/-- A negative response that the request accepts. -/
structure Rejects (connection : OutgoingDiagConnection) (payload : List UInt8) : Prop where
  identifier : payload[0]? = some NEGATIVE_RESPONSE_IDENTIFIER
  length : payload.length = NEGATIVE_RESPONSE_MESSAGE_LENGTH
  accepted : connection.acceptNegativeResponse = true
  service : payload[1]? = some connection.serviceId

/-- A positive response with the bytes the request wants to see in it. -/
structure Answers (connection : OutgoingDiagConnection) (payload : List UInt8) : Prop where
  positive : payload[0]? ≠ some NEGATIVE_RESPONSE_IDENTIFIER
  service : ∃ first, payload[0]? = some first ∧
    connection.serviceId.toNat + POSITIVE_RESPONSE_OFFSET = first.toNat
  length : connection.matchingResponseBytes < payload.length
  bytes : ∀ i, 1 ≤ i → i ≤ connection.matchingResponseBytes →
    connection.requestMessage.buffer[i]? = payload[i]?

theorem verifyResponse_of_rejects (rejects : Rejects connection payload) :
    connection.verifyResponse payload = 1 := by
  obtain ⟨identifier, length, accepted, service⟩ := rejects
  cases payload with
  | nil => simp at identifier
  | cons first rest =>
    rw [verifyResponse, if_pos (by simpa using identifier.symm),
      if_pos ⟨length, accepted, service⟩]

theorem verifyResponse_of_answers (answers : Answers connection payload) :
    connection.verifyResponse payload = connection.matchingResponseBytes + 1 := by
  obtain ⟨positive, ⟨first, head, service⟩, length, bytes⟩ := answers
  cases payload with
  | nil => simp at head
  | cons byte rest =>
    obtain rfl : byte = first := by simpa using head
    have all : (List.range' 1 connection.matchingResponseBytes).countP (fun i =>
        decide (connection.requestMessage.buffer[i]? = (byte :: rest)[i]?)) =
        connection.matchingResponseBytes := by
      rw [List.countP_eq_length.mpr, List.length_range']
      intro i member
      rw [List.mem_range'_1] at member
      exact decide_eq_true (bytes i member.1 (by omega))
    rw [verifyResponse, if_neg (fun negative => positive (by simp [negative])),
      if_neg (not_not.mpr service), if_neg (by omega)]
    simp only [all]
    rw [if_neg (by omega)]
    omega

/-- A response matches at a positive level only where it rejects or answers. -/
theorem rejects_or_answers (matched : 0 < connection.verifyResponse payload) :
    Rejects connection payload ∨ Answers connection payload := by
  cases payload with
  | nil => simp [verifyResponse] at matched
  | cons first rest =>
    rw [verifyResponse] at matched
    by_cases negative : NEGATIVE_RESPONSE_IDENTIFIER = first
    · rw [if_pos negative] at matched
      by_cases accepted : (first :: rest).length = NEGATIVE_RESPONSE_MESSAGE_LENGTH ∧
          connection.acceptNegativeResponse ∧
          (first :: rest)[1]? = some connection.serviceId
      · exact .inl ⟨by simp [negative], accepted.1, accepted.2.1, accepted.2.2⟩
      · rw [if_neg accepted] at matched
        omega
    · rw [if_neg negative] at matched
      by_cases service : connection.serviceId.toNat + POSITIVE_RESPONSE_OFFSET = first.toNat
      · rw [if_neg (not_not.mpr service)] at matched
        by_cases short : (first :: rest).length - 1 < connection.matchingResponseBytes
        · rw [if_pos short] at matched
          omega
        · rw [if_neg short] at matched
          simp only at matched
          by_cases missed : 0 < connection.matchingResponseBytes ∧
              1 + (List.range' 1 connection.matchingResponseBytes).countP (fun i =>
                decide (connection.requestMessage.buffer[i]? = (first :: rest)[i]?)) ≤
              connection.matchingResponseBytes
          · rw [if_pos missed] at matched
            omega
          · have full : (List.range' 1 connection.matchingResponseBytes).countP (fun i =>
                decide (connection.requestMessage.buffer[i]? = (first :: rest)[i]?)) =
                (List.range' 1 connection.matchingResponseBytes).length := by
              apply le_antisymm (List.countP_le_length)
              rw [List.length_range']
              omega
            refine .inr ⟨by simpa using Ne.symm negative, ⟨first, by simp, service⟩, ?_, ?_⟩
            · simp only [List.length_cons] at short ⊢
              omega
            · intro i lower upper
              have holds := List.countP_eq_length.mp full i
                (by rw [List.mem_range'_1]; omega)
              exact of_decide_eq_true holds
      · rw [if_pos service] at matched
        omega

/-- The sender of a message is the target of the request, or the request went to everyone. -/
def ExpectsFrom (connection : OutgoingDiagConnection) (address : Nat) : Prop :=
  address = connection.targetAddress ∨
    connection.targetAddress = FUNCTIONAL_ID_ALL_ISO14229_ECUS ∨
    connection.targetAddress = FUNCTIONAL_ID_ALL_KWP2000_ECUS

instance (connection : OutgoingDiagConnection) (address : Nat) :
    Decidable (connection.ExpectsFrom address) := by
  unfold ExpectsFrom
  infer_instance

def isExpectedResponse (connection : OutgoingDiagConnection) (message : ReceivedMessage) : Nat :=
  if !connection.isOpen then 0
  else if message.sourceAddress ≠ connection.targetAddress ∧
      connection.targetAddress ≠ FUNCTIONAL_ID_ALL_ISO14229_ECUS ∧
      connection.targetAddress ≠ FUNCTIONAL_ID_ALL_KWP2000_ECUS then 0
  else connection.verifyResponse message.payload

theorem isExpectedResponse_of_closed {message : ReceivedMessage}
    (closed : connection.isOpen = false) : connection.isExpectedResponse message = 0 := by
  rw [isExpectedResponse, closed]
  rfl

theorem isExpectedResponse_eq {message : ReceivedMessage} (opened : connection.isOpen = true) :
    connection.isExpectedResponse message =
      if connection.ExpectsFrom message.sourceAddress then
        connection.verifyResponse message.payload
      else 0 := by
  rw [isExpectedResponse, opened, if_neg (by simp)]
  by_cases expected : connection.ExpectsFrom message.sourceAddress
  · rw [if_pos expected, if_neg]
    rintro ⟨source, iso, kwp⟩
    rcases expected with same | broadcast | broadcast
    · exact source same
    · exact iso broadcast
    · exact kwp broadcast
  · rw [if_neg expected, if_pos]
    simp only [ExpectsFrom, not_or] at expected
    exact expected

theorem isExpectedResponse_of_expected {message : ReceivedMessage}
    (opened : connection.isOpen = true) (expected : connection.ExpectsFrom message.sourceAddress) :
    connection.isExpectedResponse message = connection.verifyResponse message.payload := by
  rw [isExpectedResponse_eq opened, if_pos expected]

/-- A level is one for a negative response and at most the length of a positive one. -/
theorem isExpectedResponse_le {message : ReceivedMessage} :
    connection.isExpectedResponse message ≤ message.payload.length ∧
      (message.payload[0]? = some NEGATIVE_RESPONSE_IDENTIFIER →
        connection.isExpectedResponse message ≤ 1) := by
  by_cases matched : 0 < connection.isExpectedResponse message
  · have opened : connection.isOpen = true := by
      by_contra closed
      rw [isExpectedResponse_of_closed (by simpa using closed)] at matched
      omega
    rw [isExpectedResponse_eq opened] at matched ⊢
    by_cases expected : connection.ExpectsFrom message.sourceAddress
    · rw [if_pos expected] at matched ⊢
      rcases rejects_or_answers matched with rejects | answers
      · rw [verifyResponse_of_rejects rejects, rejects.length]
        exact ⟨by decide, fun _ => le_rfl⟩
      · rw [verifyResponse_of_answers answers]
        exact ⟨answers.length, fun negative => (answers.positive negative).elim⟩
    · rw [if_neg expected]
      constructor <;> omega
  · constructor <;> omega

end OutgoingDiagConnection

end OpenBsw.Uds
