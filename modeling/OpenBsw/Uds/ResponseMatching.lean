import OpenBsw.Uds.OutgoingDiagConnectionManager

/-!
# Responses and the requests they belong to

A response is ambiguous where two outstanding requests expect it at the same highest level.
`Overlooked` names the pairs of requests for which that happens: those the conflict test
lets pass although one message answers both.  A connection that is open without an
outstanding request may be found instead of the one that has it; `Hides` names these pairs.
In every reachable state responses are unambiguous exactly where no pair is overlooked and
no request is hidden.
-/

namespace OpenBsw.Uds

open TransportConfiguration DiagReturnCode DiagCodes

namespace OutgoingDiagConnection

/-! ## Pairs the conflict test lets pass -/

/-- Some sender is expected by both connections. -/
def ShareSender (connection other : OutgoingDiagConnection) : Prop :=
  ∃ address, connection.ExpectsFrom address ∧ other.ExpectsFrom address

/-- Both accept a negative response to the service, and the test has not seen it: it compares
neither the second broadcast address nor what was written after sending, and it lets requests
pass whose bytes differ, which a negative response does not contain. -/
def OverlookedNegative (connection other : OutgoingDiagConnection) (rewritten : Bool) : Prop :=
  connection.acceptNegativeResponse = true ∧ other.acceptNegativeResponse = true ∧
    (¬AddressesMeet connection other ∨ rewritten = true ∨
      ∃ i, 1 ≤ i ∧ i ≤ connection.matchingResponseBytes ∧ i ≤ other.matchingResponseBytes ∧
        connection.requestMessage.buffer[i]? ≠ other.requestMessage.buffer[i]?)

/-- Both want to see the same bytes in a positive response, and the test has not seen it: it
lets requests pass of which just one accepts negative responses. -/
def OverlookedPositive (connection other : OutgoingDiagConnection) (rewritten : Bool) : Prop :=
  connection.matchingResponseBytes = other.matchingResponseBytes ∧
    (∀ i, 1 ≤ i → i ≤ connection.matchingResponseBytes →
      connection.requestMessage.buffer[i]? = other.requestMessage.buffer[i]?) ∧
    connection.serviceId.toNat + POSITIVE_RESPONSE_OFFSET < 0x100 ∧
    connection.serviceId.toNat + POSITIVE_RESPONSE_OFFSET ≠
      NEGATIVE_RESPONSE_IDENTIFIER.toNat ∧
    (¬AddressesMeet connection other ∨ rewritten = true ∨
      (connection.acceptNegativeResponse ≠ other.acceptNegativeResponse ∧
        0 < connection.matchingResponseBytes))

def Overlooked (connection other : OutgoingDiagConnection) (rewritten : Bool) : Prop :=
  connection.ShareSender other ∧ connection.serviceId = other.serviceId ∧
    (connection.OverlookedNegative other rewritten ∨
      connection.OverlookedPositive other rewritten)

variable {connection other : OutgoingDiagConnection} {message : ReceivedMessage}
  {rewritten : Bool}

theorem expected_of_matched (matched : 0 < connection.isExpectedResponse message) :
    connection.ExpectsFrom message.sourceAddress ∧
      connection.isExpectedResponse message = connection.verifyResponse message.payload := by
  by_cases opened : connection.isOpen = true
  · rw [isExpectedResponse_eq opened] at matched ⊢
    by_cases expected : connection.ExpectsFrom message.sourceAddress
    · exact ⟨expected, if_pos expected⟩
    · rw [if_neg expected] at matched
      omega
  · rw [isExpectedResponse_of_closed (by simpa using opened)] at matched
    omega

/-- Where one message matches both connections at one level, the conflict test has either
reported the pair or overlooked it. -/
theorem overlooked_of_matched (sent : connection.sender ≠ none)
    (source : connection.sourceAddress = other.sourceAddress)
    (passed : rewritten = false → connection.isConflicting other = false)
    (matched : 0 < connection.isExpectedResponse message)
    (same : connection.isExpectedResponse message = other.isExpectedResponse message) :
    connection.Overlooked other rewritten := by
  obtain ⟨expected, level⟩ := expected_of_matched matched
  obtain ⟨otherExpected, otherLevel⟩ := expected_of_matched (same ▸ matched)
  rw [same] at matched
  rw [level, otherLevel] at same
  rw [otherLevel] at matched
  have firstMatched : 0 < connection.verifyResponse message.payload := by omega
  have share : connection.ShareSender other := ⟨_, expected, otherExpected⟩
  -- a test that passed has missed the pair in one of its clauses
  have missed : connection.serviceId = other.serviceId →
      (¬AddressesMeet connection other ∨ rewritten = true) ∨
        ¬(connection.acceptNegativeResponse = other.acceptNegativeResponse ∨
          (connection.matchingResponseBytes = 0 ∧ other.matchingResponseBytes = 0)) ∨
        ∃ i, 1 ≤ i ∧ i ≤ connection.matchingResponseBytes ∧ i ≤ other.matchingResponseBytes ∧
          connection.requestMessage.buffer[i]? ≠ other.requestMessage.buffer[i]? := by
    intro service
    by_contra caught
    simp only [not_or, not_not, not_exists, not_and, ne_eq, Bool.not_eq_true] at caught
    obtain ⟨⟨meet, kept⟩, accepting, bytes⟩ := caught
    have conflict : connection.isConflicting other = true := by
      rw [isConflicting_iff sent]
      refine ⟨source, meet, service, ?_, bytes⟩
      by_contra neither
      rw [not_or, not_and] at neither
      exact accepting neither.1 (by tauto)
    rw [passed kept] at conflict
    contradiction
  rcases rejects_or_answers matched with otherRejects | otherAnswers
  · rw [verifyResponse_of_rejects otherRejects] at same
    rcases rejects_or_answers firstMatched with rejects | answers
    · have service : connection.serviceId = other.serviceId :=
        Option.some.inj (rejects.service.symm.trans otherRejects.service)
      refine ⟨share, service, .inl ⟨rejects.accepted, otherRejects.accepted, ?_⟩⟩
      rcases missed service with (separate | changed) | flags | bytes
      · exact .inl separate
      · exact .inr (.inl changed)
      · rw [rejects.accepted, otherRejects.accepted] at flags
        exact (flags (.inl rfl)).elim
      · exact .inr (.inr bytes)
    · exact (answers.positive otherRejects.identifier).elim
  · rw [verifyResponse_of_answers otherAnswers] at same
    rcases rejects_or_answers firstMatched with rejects | answers
    · exact (otherAnswers.positive rejects.identifier).elim
    · rw [verifyResponse_of_answers answers] at same
      have count : connection.matchingResponseBytes = other.matchingResponseBytes := by omega
      obtain ⟨first, head, identifier⟩ := answers.service
      obtain ⟨otherFirst, otherHead, otherIdentifier⟩ := otherAnswers.service
      obtain rfl : first = otherFirst := Option.some.inj (head.symm.trans otherHead)
      have service : connection.serviceId = other.serviceId :=
        UInt8.toNat_inj.mp (by omega)
      have bytes : ∀ i, 1 ≤ i → i ≤ connection.matchingResponseBytes →
          connection.requestMessage.buffer[i]? = other.requestMessage.buffer[i]? := by
        intro i lower upper
        rw [answers.bytes i lower upper, otherAnswers.bytes i lower (by omega)]
      refine ⟨share, service, .inr ⟨count, bytes, ?_, ?_, ?_⟩⟩
      · rw [identifier]
        exact first.toNat_lt
      · rw [identifier]
        intro negative
        apply answers.positive
        rw [head, UInt8.toNat_inj.mp negative]
      · rcases missed service with (separate | changed) | flags | ⟨i, lower, upper, _, differ⟩
        · exact .inl separate
        · exact .inr (.inl changed)
        · rw [not_or] at flags
          exact .inr (.inr ⟨flags.1, by omega⟩)
        · exact (differ (bytes i lower upper)).elim

/-- A negative response to the service. -/
def negativeResponse (serviceId : UInt8) (address : Nat) : ReceivedMessage :=
  ⟨address, [NEGATIVE_RESPONSE_IDENTIFIER, serviceId, 0x31]⟩

/-- The positive response with nothing but the bytes that the request wants to see in it. -/
def positiveResponse (connection : OutgoingDiagConnection) (address : Nat) : ReceivedMessage :=
  ⟨address, UInt8.ofNat (connection.serviceId.toNat + POSITIVE_RESPONSE_OFFSET) ::
    (connection.requestMessage.buffer.drop 1).take connection.matchingResponseBytes⟩

/-- The service has a positive response, and the bytes to be seen in it lie in the buffer and
fit into a message. -/
structure Answerable (connection : OutgoingDiagConnection) : Prop where
  identifier : connection.serviceId.toNat + POSITIVE_RESPONSE_OFFSET < 0x100
  positive : connection.serviceId.toNat + POSITIVE_RESPONSE_OFFSET ≠
    NEGATIVE_RESPONSE_IDENTIFIER.toNat
  inside : ∀ i, 1 ≤ i → i ≤ connection.matchingResponseBytes →
    i < connection.requestMessage.buffer.length
  short : connection.matchingResponseBytes + 1 < 2 ^ 16

/-- What the connection wants to see in a positive response is part of what the other one
wants to see. -/
structure AnsweredWith (connection other : OutgoingDiagConnection) : Prop where
  service : connection.serviceId = other.serviceId
  count : connection.matchingResponseBytes ≤ other.matchingResponseBytes
  bytes : ∀ i, 1 ≤ i → i ≤ connection.matchingResponseBytes →
    connection.requestMessage.buffer[i]? = other.requestMessage.buffer[i]?

theorem Answers.answerable {payload : List UInt8} (answers : Answers connection payload)
    (short : payload.length < 2 ^ 16) : connection.Answerable := by
  obtain ⟨positive, ⟨first, head, service⟩, length, bytes⟩ := answers
  constructor
  · rw [service]
    exact first.toNat_lt
  · rw [service]
    intro negative
    apply positive
    rw [head, UInt8.toNat_inj.mp negative]
  · intro i lower upper
    have inside : i < payload.length := by omega
    exact (List.getElem?_eq_some_iff.mp
      ((bytes i lower upper).trans (List.getElem?_eq_getElem inside))).1
  · omega

theorem Answers.answeredWith {payload : List UInt8} (answers : Answers connection payload)
    (otherAnswers : Answers other payload)
    (count : connection.matchingResponseBytes ≤ other.matchingResponseBytes) :
    connection.AnsweredWith other := by
  obtain ⟨first, head, identifier⟩ := answers.service
  obtain ⟨otherFirst, otherHead, otherIdentifier⟩ := otherAnswers.service
  obtain rfl : first = otherFirst := Option.some.inj (head.symm.trans otherHead)
  refine ⟨UInt8.toNat_inj.mp (by omega), count, ?_⟩
  intro i lower upper
  rw [answers.bytes i lower upper, otherAnswers.bytes i lower (by omega)]

theorem AnsweredWith.answers {payload : List UInt8} (part : connection.AnsweredWith other)
    (answers : Answers other payload) : Answers connection payload := by
  refine ⟨answers.positive, ?_, part.count.trans_lt answers.length, ?_⟩
  · rw [part.service]
    exact answers.service
  · intro i lower upper
    rw [part.bytes i lower upper, answers.bytes i lower (upper.trans part.count)]

theorem Answerable.length (answerable : connection.Answerable) (address : Nat) :
    (positiveResponse connection address).payload.length =
      connection.matchingResponseBytes + 1 := by
  have inside := answerable.inside connection.matchingResponseBytes
  simp only [positiveResponse, List.length_cons, List.length_take, List.length_drop]
  omega

theorem Answerable.answers (answerable : connection.Answerable) (address : Nat) :
    Answers connection (positiveResponse connection address).payload := by
  have first := UInt8.toNat_ofNat_of_lt' answerable.identifier
  refine ⟨?_, ⟨_, rfl, first.symm⟩, by rw [answerable.length]; omega, ?_⟩
  · simp only [positiveResponse, List.getElem?_cons_zero, ne_eq, Option.some.injEq]
    intro negative
    apply answerable.positive
    rw [← negative, first]
  · intro i lower upper
    obtain ⟨j, rfl⟩ : ∃ j, i = j + 1 := ⟨i - 1, by omega⟩
    simp only [positiveResponse, List.getElem?_cons_succ]
    rw [List.getElem?_take_of_lt (by omega), List.getElem?_drop, Nat.add_comm]

theorem level_negativeResponse {address : Nat} (opened : connection.isOpen = true)
    (expected : connection.ExpectsFrom address)
    (accepted : connection.acceptNegativeResponse = true)
    (service : connection.serviceId = other.serviceId) :
    connection.isExpectedResponse (negativeResponse other.serviceId address) = 1 := by
  apply (isExpectedResponse_of_expected opened expected).trans
  exact verifyResponse_of_rejects ⟨rfl, rfl, accepted, by rw [service]; rfl⟩

theorem level_of_answers (opened : connection.isOpen = true)
    (expected : connection.ExpectsFrom message.sourceAddress)
    (answers : Answers connection message.payload) :
    connection.isExpectedResponse message = connection.matchingResponseBytes + 1 :=
  (isExpectedResponse_of_expected opened expected).trans (verifyResponse_of_answers answers)

/-- For an overlooked pair there is a message that both connections expect at one level, and
no connection at all expects it at a higher one. -/
theorem matched_of_overlooked (overlooked : connection.Overlooked other rewritten)
    (opened : connection.isOpen = true) (otherOpened : other.isOpen = true)
    (inside : connection.matchingResponseBytes < connection.requestMessage.maxPayloadLength) :
    ∃ message : ReceivedMessage, message.payload.length < 2 ^ 16 ∧
      0 < connection.isExpectedResponse message ∧
      connection.isExpectedResponse message = other.isExpectedResponse message ∧
      ∀ third : OutgoingDiagConnection,
        third.isExpectedResponse message ≤ connection.isExpectedResponse message := by
  obtain ⟨⟨address, expected, otherExpected⟩, service, negative | positive⟩ := overlooked
  · obtain ⟨accepted, otherAccepted, _⟩ := negative
    have level := level_negativeResponse opened expected accepted (rfl : _ = connection.serviceId)
    have otherLevel := level_negativeResponse otherOpened otherExpected otherAccepted service.symm
    refine ⟨negativeResponse connection.serviceId address, (by decide : 3 < 2 ^ 16), by omega,
      by omega, ?_⟩
    intro third
    rw [level]
    exact isExpectedResponse_le.2 rfl
  · obtain ⟨count, bytes, small, identifier, _⟩ := positive
    have bufferLe : connection.requestMessage.maxPayloadLength ≤
        connection.requestMessage.buffer.length := Nat.mod_le _ _
    have lengthLt : connection.requestMessage.maxPayloadLength < 2 ^ 16 :=
      Nat.mod_lt _ (by decide)
    have answerable : connection.Answerable :=
      ⟨small, identifier, fun i _ _ => by omega, by omega⟩
    have part : other.AnsweredWith connection :=
      ⟨service.symm, count.ge, fun i lower upper => (bytes i lower (by omega)).symm⟩
    have length := answerable.length address
    have answers := answerable.answers address
    have level : connection.isExpectedResponse (positiveResponse connection address) = _ :=
      level_of_answers opened expected answers
    have otherLevel : other.isExpectedResponse (positiveResponse connection address) = _ :=
      level_of_answers otherOpened otherExpected (part.answers answers)
    refine ⟨positiveResponse connection address, by omega, by omega, by omega, ?_⟩
    intro third
    rw [level, ← length]
    exact isExpectedResponse_le.1

end OutgoingDiagConnection

/-! ## The search for the expecting connection -/

namespace OutgoingDiagConnectionManager

variable {manager : OutgoingDiagConnectionManager} {message : ReceivedMessage}

/-- What the search has found is one of the connections it has seen, with its level; no
connection it has seen has a higher one, and none in front of it has the same. -/
structure Found (manager : OutgoingDiagConnectionManager) (message : ReceivedMessage)
    (seen : List Nat) (best : Nat × Option Nat) : Prop where
  highest : ∀ id ∈ seen, (manager.connections id).isExpectedResponse message ≤ best.1
  none : best.2 = none → best.1 = 0
  some : ∀ {id}, best.2 = some id → id ∈ seen ∧ 0 < best.1 ∧
    (manager.connections id).isExpectedResponse message = best.1
  first : ∀ {id : Nat}, best.2 = Option.some id → ∀ other ∈ seen,
    (manager.connections other).isExpectedResponse message = best.1 →
    seen.idxOf id ≤ seen.idxOf other

theorem Found.next {seen : List Nat} {best : Nat × Option Nat} (id : Nat)
    (found : Found manager message seen best) :
    Found manager message (seen ++ [id]) (manager.expecting message best id) := by
  rw [expecting]
  by_cases higher : best.1 < (manager.connections id).isExpectedResponse message
  · rw [if_pos higher]
    constructor
    · intro other member
      rcases List.mem_append.mp member with earlier | last
      · exact (found.highest other earlier).trans higher.le
      · rw [List.mem_singleton.mp last]
    · intro absent
      cases absent
    · intro other same
      cases same
      exact ⟨List.mem_append_right _ (List.mem_singleton.mpr rfl), by omega, rfl⟩
    · intro last same other member level
      cases same
      rcases List.mem_append.mp member with earlier | last
      · have lower := found.highest other earlier
        omega
      · rw [List.mem_singleton.mp last]
  · rw [if_neg higher]
    constructor
    · intro other member
      rcases List.mem_append.mp member with earlier | last
      · exact found.highest other earlier
      · rw [List.mem_singleton.mp last]
        omega
    · exact found.none
    · intro other same
      obtain ⟨member, positive, level⟩ := found.some same
      exact ⟨List.mem_append_left _ member, positive, level⟩
    · intro other same third _ level
      obtain ⟨member, _⟩ := found.some same
      rw [List.idxOf_append_of_mem member]
      by_cases earlier : third ∈ seen
      · rw [List.idxOf_append_of_mem earlier]
        exact found.first same third earlier level
      · rw [List.idxOf_append_of_notMem earlier]
        have inside := List.idxOf_lt_length_of_mem member
        omega

theorem found_foldl (ids : List Nat) {seen : List Nat} {best : Nat × Option Nat}
    (found : Found manager message seen best) :
    Found manager message (seen ++ ids) (ids.foldl (manager.expecting message) best) := by
  induction ids generalizing seen best with
  | nil => simpa using found
  | cons id rest ih => simpa using ih (found.next id)

/-- The connection found is the first of those with the highest level above zero. -/
theorem found_getExpectingConnection (manager : OutgoingDiagConnectionManager)
    (message : ReceivedMessage) :
    ∃ level, Found manager message manager.releasedOutgoingDiagConnections
      (level, manager.getExpectingConnection message) := by
  refine ⟨(manager.releasedOutgoingDiagConnections.foldl
    (manager.expecting message) (0, none)).1, ?_⟩
  have start : Found manager message [] (0, none) := by
    constructor
    · intro _ member
      cases member
    · intro _
      rfl
    · intro _ absent
      cases absent
    · intro _ absent
      cases absent
  exact found_foldl _ start

end OutgoingDiagConnectionManager

/-! ## Responses in a run -/

namespace OutgoingRun

open OutgoingDiagConnection OutgoingDiagConnectionManager Transition Transport

def level (run : OutgoingRun) (message : ReceivedMessage) (id : Nat) : Nat :=
  (run.manager.connections id).isExpectedResponse message

/-- The outstanding request that expects the message at a level above that of all others. -/
def Expects (run : OutgoingRun) (message : ReceivedMessage) (id : Nat) : Prop :=
  run.Outstanding id ∧ 0 < run.level message id ∧
    ∀ other, other ≠ id → run.Outstanding other →
      run.level message other < run.level message id

/-- No outstanding request expects the message, or one does above all others, and the
message is dispatched to that one. -/
structure Unambiguous (run : OutgoingRun) (message : ReceivedMessage) : Prop where
  unique : (∀ id, run.Outstanding id → run.level message id = 0) ∨
    ∃ id, run.Expects message id
  dispatched : ∀ {id}, run.Expects message id →
    run.manager.getExpectingConnection message = some id

def NeverAmbiguous (run : OutgoingRun) : Prop :=
  ∀ message : ReceivedMessage, message.payload.length < 2 ^ 16 → run.Unambiguous message

/-- The place of a connection in the list that is searched. -/
def place (run : OutgoingRun) (id : Nat) : Nat :=
  run.manager.releasedOutgoingDiagConnections.idxOf id

/-- Both accept a negative response to the service, and the other one is found first. -/
def HidesNegative (run : OutgoingRun) (id other : Nat) : Prop :=
  (run.manager.connections id).ShareSender (run.manager.connections other) ∧
    (run.manager.connections id).serviceId = (run.manager.connections other).serviceId ∧
    (run.manager.connections id).acceptNegativeResponse = true ∧
    (run.manager.connections other).acceptNegativeResponse = true ∧
    run.place other < run.place id

/-- What answers the other one answers the request too, and the outstanding requests that
want to see just as many of these bytes are found later. -/
def HidesPositive (run : OutgoingRun) (id other : Nat) : Prop :=
  (run.manager.connections other).Answerable ∧
    (run.manager.connections id).AnsweredWith (run.manager.connections other) ∧
    ∃ address, (run.manager.connections id).ExpectsFrom address ∧
      (run.manager.connections other).ExpectsFrom address ∧
      ∀ third, run.Outstanding third → (run.manager.connections third).ExpectsFrom address →
        (run.manager.connections third).AnsweredWith (run.manager.connections other) →
        (run.manager.connections third).matchingResponseBytes =
          (run.manager.connections other).matchingResponseBytes →
        run.place other < run.place third

/-- The request is outstanding and the other connection, which is open but has none, takes a
response away from the outstanding ones. -/
def Hides (run : OutgoingRun) (id other : Nat) : Prop :=
  run.Outstanding id ∧ (run.manager.connections other).isOpen = true ∧
    ¬run.Outstanding other ∧ (run.HidesNegative id other ∨ run.HidesPositive id other)

/-- A response that two requests accept in the same way is found for the one in front. -/
theorem place_le {run : OutgoingRun} {message : ReceivedMessage} {level id other : Nat}
    (invariant : run.Invariant)
    (found : Found run.manager message run.manager.releasedOutgoingDiagConnections
      (level, some id))
    (opened : (run.manager.connections other).isOpen = true)
    (same : (run.manager.connections other).isExpectedResponse message = level) :
    run.place id ≤ run.place other :=
  found.first rfl other (invariant.released opened) same

/-- The search finds the connection that expects the message above all others. -/
theorem dispatched (run : OutgoingRun) {message : ReceivedMessage}
    (invariant : run.Invariant) (length : message.payload.length < 2 ^ 16)
    (plain : ∀ id other, ¬run.Hides id other) {id : Nat} (expects : run.Expects message id) :
    run.manager.getExpectingConnection message = some id := by
  obtain ⟨outstanding, positive, above⟩ := expects
  obtain ⟨level, found⟩ := found_getExpectingConnection run.manager message
  have member := invariant.released outstanding.1
  have reached : run.level message id ≤ level := found.highest id member
  cases result : run.manager.getExpectingConnection message with
  | none =>
    have zero : level = 0 := found.none result
    omega
  | some other =>
    rw [result] at found
    obtain ⟨otherMember, otherPositive, otherLevel⟩ := found.some rfl
    simp only at otherPositive otherLevel
    by_contra differ
    have distinct : other ≠ id := fun same => differ (congrArg some same)
    have opened : (run.manager.connections other).isOpen = true := by
      by_contra closed
      rw [isExpectedResponse_of_closed (by simpa using closed)] at otherLevel
      omega
    have idle : ¬run.Outstanding other := by
      intro sent
      have lower := above other distinct sent
      rw [OutgoingRun.level, otherLevel] at lower
      omega
    -- the one found stands in front where both have one level
    have inFront : run.level message id = level → run.place other < run.place id := by
      intro same
      apply lt_of_le_of_ne (place_le invariant found outstanding.1 same)
      exact fun places => distinct (List.idxOf_inj otherMember |>.mp places)
    obtain ⟨expected, verified⟩ := expected_of_matched positive
    obtain ⟨otherExpected, otherVerified⟩ :=
      expected_of_matched (otherLevel ▸ otherPositive : 0 < _)
    rw [OutgoingRun.level, verified] at reached positive inFront
    rw [otherVerified] at otherLevel
    apply plain id other
    refine ⟨outstanding, opened, idle, ?_⟩
    rcases rejects_or_answers positive with rejects | answers <;>
      rcases rejects_or_answers (otherLevel ▸ otherPositive : 0 < _) with
        otherRejects | otherAnswers
    · rw [verifyResponse_of_rejects rejects] at inFront
      rw [verifyResponse_of_rejects otherRejects] at otherLevel
      have service := rejects.service.symm.trans otherRejects.service
      exact .inl ⟨⟨_, expected, otherExpected⟩, Option.some.inj service, rejects.accepted,
        otherRejects.accepted, inFront otherLevel⟩
    · exact (otherAnswers.positive rejects.identifier).elim
    · exact (answers.positive otherRejects.identifier).elim
    · rw [verifyResponse_of_answers answers] at reached inFront
      rw [verifyResponse_of_answers otherAnswers] at otherLevel
      refine .inr ⟨otherAnswers.answerable length, answers.answeredWith otherAnswers (by omega),
        _, expected, otherExpected, ?_⟩
      intro third sent thirdExpected part count
      have thirdLevel := level_of_answers sent.1 thirdExpected (part.answers otherAnswers)
      by_cases same : third = id
      · subst same
        exact inFront (by omega)
      · have lower := above third same sent
        rw [OutgoingRun.level, OutgoingRun.level, thirdLevel, verified,
          verifyResponse_of_answers answers] at lower
        omega

/-- Where responses are dispatched to the requests they belong to, no request is hidden. -/
theorem plain_of_neverAmbiguous {run : OutgoingRun} (invariant : run.Invariant)
    (never : run.NeverAmbiguous) (id other : Nat) : ¬run.Hides id other := by
  rintro ⟨outstanding, opened, _, hides⟩
  -- some outstanding request expects the message, and the search has found it
  have dispatched (message : ReceivedMessage) (length : message.payload.length < 2 ^ 16)
      (positive : 0 < run.level message id) : ∃ best level, run.Expects message best ∧
        Found run.manager message run.manager.releasedOutgoingDiagConnections
          (level, some best) := by
    obtain ⟨level, found⟩ := found_getExpectingConnection run.manager message
    rcases (never message length).unique with nothing | ⟨best, expects⟩
    · have zero := nothing id outstanding
      omega
    · rw [(never message length).dispatched expects] at found
      exact ⟨best, level, expects, found⟩
  rcases hides with
    ⟨⟨address, expected, otherExpected⟩, service, accepted, otherAccepted, inFront⟩ |
    ⟨answerable, part, address, expected, otherExpected, inFront⟩
  · have level := level_negativeResponse outstanding.1 expected accepted service
    have otherLevel := level_negativeResponse opened otherExpected otherAccepted rfl
    obtain ⟨best, highest, ⟨_, _, strict⟩, found⟩ :=
      dispatched (negativeResponse _ address) (by decide : 3 < 2 ^ 16)
        (by rw [OutgoingRun.level, level]; decide)
    obtain ⟨_, _, bestLevel⟩ := found.some rfl
    obtain rfl : id = best := by
      by_contra distinct
      have lower := strict id distinct outstanding
      rw [OutgoingRun.level, level] at lower
      exact lower.not_ge (isExpectedResponse_le.2 rfl)
    have places := place_le invariant found opened (by omega)
    omega
  · have answers := answerable.answers address
    have level := level_of_answers outstanding.1 expected (part.answers answers)
    have otherLevel := level_of_answers opened otherExpected answers
    have length := answerable.length address
    obtain ⟨best, highest, ⟨sent, positive, _⟩, found⟩ :=
      dispatched (positiveResponse _ address) (by rw [length]; exact answerable.short)
        (by rw [OutgoingRun.level, level]; exact Nat.succ_pos _)
    obtain ⟨_, _, bestLevel⟩ := found.some rfl
    have lower : _ ≤ highest := found.highest other (invariant.released opened)
    have upper : run.level _ best ≤ _ := length ▸ isExpectedResponse_le.1
    rw [OutgoingRun.level] at positive upper
    obtain ⟨bestExpected, verified⟩ := expected_of_matched positive
    rw [verified] at positive bestLevel upper
    rcases rejects_or_answers positive with rejects | bestAnswers
    · exact answers.positive rejects.identifier
    · rw [verifyResponse_of_answers bestAnswers] at bestLevel upper
      have behind := inFront best sent bestExpected
        (bestAnswers.answeredWith answers (by omega)) (by omega)
      have places := place_le invariant found opened (by omega)
      omega

/-- Of the outstanding requests that expect a message at a positive level, one has the
highest level. -/
theorem exists_highest {run : OutgoingRun} (message : ReceivedMessage)
    (invariant : run.Invariant) {id : Nat} (sent : run.Outstanding id) :
    ∃ highest, run.Outstanding highest ∧
      ∀ other, run.Outstanding other → run.level message other ≤ run.level message highest := by
  classical
  let candidates := run.manager.releasedOutgoingDiagConnections.toFinset.filter run.Outstanding
  have candidate {other : Nat} (outstanding : run.Outstanding other) : other ∈ candidates := by
    simp only [candidates, Finset.mem_filter, List.mem_toFinset]
    exact ⟨invariant.released outstanding.1, outstanding⟩
  obtain ⟨highest, member, above⟩ :=
    candidates.exists_max_image (run.level message) ⟨id, candidate sent⟩
  simp only [candidates, Finset.mem_filter] at member
  exact ⟨highest, member.2, fun other outstanding => above other (candidate outstanding)⟩

/-- Responses are unambiguous in a reachable state exactly where the conflict test has
overlooked no pair of the outstanding requests and no other connection hides one of them. -/
theorem responses_unambiguous {run : OutgoingRun} (reached : system.Reachable run) :
    run.NeverAmbiguous ↔
      (∀ id other, id ≠ other → run.Outstanding id → run.Outstanding other →
        ¬(run.manager.connections id).Overlooked (run.manager.connections other)
          (run.rewritten id || run.rewritten other)) ∧
      ∀ id other, ¬run.Hides id other := by
  have invariant := invariant_inductive.of_reachable reached
  constructor
  · intro never
    refine ⟨?_, plain_of_neverAmbiguous invariant never⟩
    intro id other distinct sent otherSent overlooked
    obtain ⟨message, length, positive, same, above⟩ :=
      matched_of_overlooked overlooked sent.1 otherSent.1 (invariant.inside sent)
    rcases (never message length).unique with nothing | ⟨best, outstanding, _, strict⟩
    · have zero : (run.manager.connections id).isExpectedResponse message = 0 :=
        nothing id sent
      omega
    · have upper : run.level message best ≤ run.level message id := above _
      have equal : run.level message id = run.level message other := same
      by_cases isBest : id = best
      · have lower := strict other (fun otherIs => distinct (isBest.trans otherIs.symm))
          otherSent
        rw [← isBest] at lower
        omega
      · have lower := strict id isBest sent
        omega
  · rintro ⟨apart, plain⟩ message length
    refine ⟨?_, run.dispatched invariant length plain⟩
    by_cases nothing : ∀ id, run.Outstanding id → run.level message id = 0
    · exact .inl nothing
    · right
      push Not at nothing
      obtain ⟨id, sent, matched⟩ := nothing
      obtain ⟨highest, outstanding, above⟩ := exists_highest message invariant sent
      have positive : 0 < run.level message highest := by
        have lower := above id sent
        omega
      refine ⟨highest, outstanding, positive, ?_⟩
      intro other distinct otherSent
      apply lt_of_le_of_ne (above other otherSent)
      intro same
      -- an equal level makes the pair an overlooked one
      apply apart highest other distinct.symm outstanding otherSent
      apply overlooked_of_matched (invariant.sender outstanding) _ _ positive same.symm
      · rw [invariant.source outstanding.1, invariant.source otherSent.1]
      · intro kept
        rw [Bool.or_eq_false_iff] at kept
        exact invariant.apart distinct.symm outstanding otherSent kept.1 kept.2

/-! ## Two requests to one control unit -/

def sampleStart : OutgoingRun where
  manager :=
    { DiagAddress := 0xF1
      connections := fun _ => {}
      outgoingDiagConnections := [0, 1]
      releasedOutgoingDiagConnections := [] }

def sampleMessage (id : Nat) : TransportMessage := ⟨id, List.replicate 8 0, 0, 0, 0, 0⟩

/-- Hand out a connection to `0x10` and send on it a request of two bytes, of which the
second is to be seen in the response. -/
def sampleRequest (id : Nat) (serviceId identifier : UInt8) : List OutgoingEvent :=
  [.requestOutgoingConnection 0x10 none (some (sampleMessage id)),
    .writeRequestBuffer id 0 [serviceId, identifier],
    .sendDiagRequest id { length := 2, sender := 0, matchingResponseBytes := 1 } true]

def sampleRun (firstService secondService : UInt8) : OutgoingRun :=
  (System.play perform sampleStart
    (sampleRequest 0 firstService 1 ++ sampleRequest 1 secondService 2)).getD sampleStart

theorem sampleRun_reachable {firstService secondService : UInt8}
    (played : (System.play perform sampleStart (sampleRequest 0 firstService 1 ++
      sampleRequest 1 secondService 2)).isSome = true) :
    system.Reachable (sampleRun firstService secondService) := by
  obtain ⟨run, result⟩ := Option.isSome_iff_exists.mp played
  have start : system.Reachable sampleStart := .initial ⟨fun _ => rfl⟩
  rw [sampleRun, result]
  exact start.play (fun performed => performed) result

/-- Requests for different services do not get in each other's way. -/
theorem responses_unambiguous_sample : (sampleRun 0x22 0x19).NeverAmbiguous := by
  have reached : system.Reachable (sampleRun 0x22 0x19) := sampleRun_reachable (by decide)
  have invariant := invariant_inductive.of_reachable reached
  have ids : (sampleRun 0x22 0x19).manager.releasedOutgoingDiagConnections = [0, 1] := rfl
  have member {id : Nat}
      (opened : ((sampleRun 0x22 0x19).manager.connections id).isOpen = true) :
      id = 0 ∨ id = 1 := by
    simpa [ids] using invariant.released opened
  refine (responses_unambiguous reached).mpr ⟨?_, ?_⟩
  · rintro id other distinct sent otherSent ⟨_, service, _⟩
    rcases member sent.1 with rfl | rfl <;> rcases member otherSent.1 with rfl | rfl
    · exact distinct rfl
    · exact (by decide : ¬((sampleRun 0x22 0x19).manager.connections 0).serviceId =
        ((sampleRun 0x22 0x19).manager.connections 1).serviceId) service
    · exact (by decide : ¬((sampleRun 0x22 0x19).manager.connections 1).serviceId =
        ((sampleRun 0x22 0x19).manager.connections 0).serviceId) service
    · exact distinct rfl
  · rintro _ other ⟨_, opened, idle, _⟩
    rcases member opened with rfl | rfl <;> exact idle (by decide)

/-- Two requests for one service of one control unit, sent one behind the other, that both
accept the negative response to the service. -/
theorem not_responses_unambiguous :
    system.Reachable (sampleRun 0x22 0x22) ∧
      (sampleRun 0x22 0x22).Outstanding 0 ∧ (sampleRun 0x22 0x22).Outstanding 1 ∧
      ¬(sampleRun 0x22 0x22).Unambiguous ⟨0x10, [0x7F, 0x22, 0x31]⟩ := by
  refine ⟨sampleRun_reachable (by decide), by decide, by decide, ?_⟩
  intro unambiguous
  have first : (sampleRun 0x22 0x22).level ⟨0x10, [0x7F, 0x22, 0x31]⟩ 0 = 1 := by decide
  have second : (sampleRun 0x22 0x22).level ⟨0x10, [0x7F, 0x22, 0x31]⟩ 1 = 1 := by decide
  have sent : (sampleRun 0x22 0x22).Outstanding 0 ∧ (sampleRun 0x22 0x22).Outstanding 1 := by
    decide
  rcases unambiguous.unique with nothing | ⟨best, outstanding, _, strict⟩
  · rw [nothing 0 sent.1] at first
    contradiction
  · have upper : (sampleRun 0x22 0x22).level ⟨0x10, [0x7F, 0x22, 0x31]⟩ best ≤ 1 :=
      isExpectedResponse_le.2 rfl
    by_cases isFirst : best = 0
    · have lower := strict 1 (by omega) sent.2
      omega
    · have lower := strict 0 (fun same => isFirst same.symm) sent.1
      omega

end OutgoingRun

end OpenBsw.Uds
