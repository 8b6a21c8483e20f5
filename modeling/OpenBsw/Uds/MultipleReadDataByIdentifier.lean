import OpenBsw.Uds.NestedDiagRequest

/-!
# Reading several identifiers

Reading one identifier after the other is described over lists: `readAll` carries the answers
so far and offers each job the space that neither these nor the identifiers still to be read
occupy.  The message of a nested request represents such a state, and a round of the loop is
a step of `readAll` over the identifiers stored in the message.
-/

namespace OpenBsw.Uds

open Bytes DiagReturnCode List

/-! ## One by one -/

/-- What reading one identifier comes to. -/
inductive Served
  | next
  | answer (data : List UInt8)
  | stop (code : UInt8)
  deriving DecidableEq

def Served.ofCode (code : NegativeCode) : Served :=
  if code.val = NOT_RESPONSIBLE ∨ code.val = ISO_REQUEST_OUT_OF_RANGE then .next
  else .stop code.val

/-- The bytes a job puts into its response. -/
def DidJob.data (appended : Option (List PositiveResponse.Append)) : List UInt8 :=
  ((appended.getD []).map PositiveResponse.Append.bytes).flatten

/-- What an executed job comes to once its declared length is accepted. -/
def DidJob.replied (appended : Option (List PositiveResponse.Append)) (space : Nat) :
    Reply → Served
  | .negative code _ => .ofCode code
  | .positive =>
    if space < (DidJob.data appended).length then .stop ISO_RESPONSE_TOO_LONG
    else .answer (DidJob.data appended)

/-- The job passes the test of its declared length. -/
def DidJob.accepted (accepts : Nat → Nat → Bool) (space : Nat) (responseLength : Option Nat) :
    Bool :=
  !responseLength.any fun length => !accepts space length

/-- What a job comes to that has so much space, where `accepts` tests a declared length. -/
def DidJob.served (accepts : Nat → Nat → Bool) (space : Nat) : DidJob → Served
  | .returned code => .ofCode code
  | .executed responseLength appended reply =>
    if DidJob.accepted accepts space responseLength then DidJob.replied appended space reply
    else .stop ISO_RESPONSE_TOO_LONG

/-- A declared length that fits into the space. -/
def fitsSpace (space length : Nat) : Bool := decide (length ≤ space)

/-- A declared length that passes the test against `getMaximumResponseLength`, which is one
less than the space, in 16 bits. -/
def fitsMaximum (space length : Nat) : Bool := decide (length ≤ (space + 0xFFFF) % 0x10000)

/-- The maximum length and the size of the window, where the job takes its response. -/
def DidJob.recorded (space : Nat) : DidJob → List (Nat × Nat)
  | .executed responseLength (some _) _ =>
    if DidJob.accepted fitsMaximum space responseLength then
      [((space + 0xFFFF) % 0x10000, space)]
    else []
  | _ => []

/-- The identifiers that were read, each with its index and the space for its data, and the
response. -/
structure ReadResult where
  reads : List (Nat × DataIdentifier × Nat)
  response : List UInt8
  deriving DecidableEq

def ReadResult.behind (read : Nat × DataIdentifier × Nat) (result : ReadResult) : ReadResult :=
  { result with reads := read :: result.reads }

def negativeResponseTo (code : UInt8) : List UInt8 :=
  [NEGATIVE_RESPONSE_IDENTIFIER, NestedDiagRequest.READ_DATA_BY_IDENTIFIER, code]

/-- Space for the data of the next identifier when `left` identifiers follow it. -/
def dataSpace (size : Nat) (answers : List UInt8) (left : Nat) : Nat :=
  size - (answers.length + 2 + 2 * left)

/-- Read identifier after identifier in a response of `size` bytes behind the service. -/
def readAll (size : Nat) (serve : Nat → DataIdentifier → Nat → Served) :
    Nat → List UInt8 → Bool → List DataIdentifier → ReadResult
  | _, answers, answered, [] =>
    ⟨[], if answered then 0x62 :: answers else negativeResponseTo ISO_REQUEST_OUT_OF_RANGE⟩
  | index, answers, answered, identifier :: rest =>
    let space := dataSpace size answers rest.length
    match serve index identifier space with
    | .next =>
      (readAll size serve (index + 1) answers answered rest).behind (index, identifier, space)
    | .answer data =>
      (readAll size serve (index + 1) (answers ++ identifier.bytes ++ data) true rest).behind
        (index, identifier, space)
    | .stop code => ⟨[(index, identifier, space)], negativeResponseTo code⟩

def storedBytes (identifiers : List DataIdentifier) : List UInt8 :=
  (identifiers.map DataIdentifier.bytes).flatten

theorem length_storedBytes (identifiers : List DataIdentifier) :
    (storedBytes identifiers).length = 2 * identifiers.length := by
  induction identifiers with
  | nil => rfl
  | cons identifier rest ih =>
    simp only [storedBytes, map_cons, flatten_cons, List.length_append,
      length_cons] at ih ⊢
    rw [ih]
    simp only [DataIdentifier.bytes, length_cons, length_nil]
    omega

/-! ## The message as such a state -/

namespace NestedDiagRequest

/-- Behind the prefix the message holds the answers, and at its end the identifiers that
remain. -/
structure Represents (size : Nat) (nested : NestedDiagRequest) (answers : List UInt8)
    (answered : Bool) (remaining : List DataIdentifier) : Prop where
  message : nested.message.length = size + 1
  code : nested.responseCode = OK
  combined : nested.fCombinedResponseCode =
    if answered then OK else ISO_REQUEST_OUT_OF_RANGE
  buffer : nested.messageBuffer = 1 + answers.length
  length : nested.responseLength = answers.length
  stored : nested.storedRequestLength = 2 * remaining.length
  room : answers.length + 2 * remaining.length ≤ size
  front : slice nested.message 1 answers.length = answers
  tail : slice nested.message (size + 1 - 2 * remaining.length) (2 * remaining.length) =
    storedBytes remaining

variable {size : Nat} {nested : NestedDiagRequest} {answers : List UInt8} {answered : Bool}
  {remaining rest : List DataIdentifier} {identifier : DataIdentifier}

/-- Only the message, the buffer and the codes matter. -/
theorem Represents.of_eq {other : NestedDiagRequest}
    (represents : Represents size nested answers answered remaining)
    (message : other.message = nested.message) (code : other.responseCode = nested.responseCode)
    (combined : other.fCombinedResponseCode = nested.fCombinedResponseCode)
    (buffer : other.messageBuffer = nested.messageBuffer)
    (length : other.responseLength = nested.responseLength)
    (stored : other.storedRequestLength = nested.storedRequestLength) :
    Represents size other answers answered remaining where
  message := message ▸ represents.message
  code := code ▸ represents.code
  combined := combined ▸ represents.combined
  buffer := buffer ▸ represents.buffer
  length := length ▸ represents.length
  stored := stored ▸ represents.stored
  room := represents.room
  front := message ▸ represents.front
  tail := message ▸ represents.tail

/-- Bytes between the answers and the stored identifiers may change. -/
theorem Represents.write (represents : Represents size nested answers answered remaining)
    {message : List UInt8} (length : message.length = nested.message.length)
    (kept : ∀ i, i < 1 + answers.length ∨ size + 1 - 2 * remaining.length ≤ i →
      message[i]? = nested.message[i]?) :
    Represents size { nested with message } answers answered remaining where
  message := length.trans represents.message
  code := represents.code
  combined := represents.combined
  buffer := represents.buffer
  length := represents.length
  stored := represents.stored
  room := represents.room
  front := by
    exact (slice_congr fun i _ upper => kept i (.inl upper)).trans represents.front
  tail := by
    exact (slice_congr fun i lower _ => kept i (.inr lower)).trans represents.tail

/-- Preparing a request takes the first of the stored identifiers. -/
theorem Represents.prepare (represents : Represents size nested answers answered
    (identifier :: rest)) :
    Represents size nested.prepareNextRequest answers answered rest ∧
      nested.prepareNextRequest.nestedRequest =
        [READ_DATA_BY_IDENTIFIER, identifier.1, identifier.2] := by
  have room := represents.room
  have stored := represents.stored
  have length := represents.message
  have tail := represents.tail
  simp only [length_cons] at room stored tail
  have two : 2 ≤ nested.storedRequestLength := by omega
  have prepared : nested.prepareNextRequest =
      { nested with
        storedRequestLength := nested.storedRequestLength - 2
        nestedRequest := READ_DATA_BY_IDENTIFIER ::
          slice nested.message (nested.message.length - nested.storedRequestLength) 2 } := by
    rw [prepareNextRequest, if_pos represents.code, prepareNestedRequest, if_pos two]
  have place : nested.message.length - nested.storedRequestLength =
      size + 1 - 2 * (rest.length + 1) := by
    omega
  have whole : storedBytes (identifier :: rest) = identifier.bytes ++ storedBytes rest := rfl
  rw [whole] at tail
  have first : slice nested.message (size + 1 - 2 * (rest.length + 1)) 2 = identifier.bytes := by
    have taken := congrArg (List.take 2) tail
    rw [slice, take_take, Nat.min_eq_left (by omega)] at taken
    rw [slice, taken]
    rfl
  have behind : slice nested.message (size + 1 - 2 * rest.length) (2 * rest.length) =
      storedBytes rest := by
    have dropped := congrArg (List.drop 2) tail
    have same : size + 1 - 2 * (rest.length + 1) + 2 = size + 1 - 2 * rest.length := by omega
    have fewer : 2 * (rest.length + 1) - 2 = 2 * rest.length := by omega
    rw [slice, drop_take, drop_drop, same, fewer] at dropped
    rw [slice, dropped]
    rfl
  rw [prepared]
  constructor
  · exact {
      message := length
      code := represents.code
      combined := represents.combined
      buffer := represents.buffer
      length := represents.length
      stored := by
        simp only
        omega
      room := by omega
      front := represents.front
      tail := behind }
  · simp only [place, first]
    rfl

/-- Without stored identifiers there is nothing to prepare, and the combined code decides. -/
theorem Represents.prepare_nil (represents : Represents size nested answers answered []) :
    nested.prepareNextRequest =
      { nested with
        responseCode := if answered then OK else ISO_REQUEST_OUT_OF_RANGE
        nestedRequest := [] } := by
  have stored := represents.stored
  rw [prepareNextRequest, if_pos represents.code, prepareNestedRequest, if_neg,
    ← represents.combined]
  rw [stored]
  decide

/-- A code goes on to the next identifier or stops. -/
theorem handleNestedResponseCode_cases (nested : NestedDiagRequest) (code : NegativeCode) :
    match Served.ofCode code with
    | .next => nested.handleNestedResponseCode code = nested
    | .answer _ => False
    | .stop stopping => (nested.handleNestedResponseCode code).responseCode = stopping ∧
        stopping ≠ OK := by
  rw [Served.ofCode]
  by_cases skips : code.val = NOT_RESPONSIBLE ∨ code.val = ISO_REQUEST_OUT_OF_RANGE
  · rw [if_pos skips]
    simp only [handleNestedResponseCode, if_pos skips]
  · rw [if_neg skips]
    simp only [handleNestedResponseCode, if_neg skips, if_neg code.property]
    exact ⟨trivial, code.property⟩

/-- The window of the job: its identifier stands in front of it and it ends where the stored
identifiers begin. -/
theorem Represents.getResponseBuffer (represents : Represents size nested answers answered rest)
    (room : answers.length + 2 * (rest.length + 1) ≤ size)
    (request : nested.nestedRequest =
      [READ_DATA_BY_IDENTIFIER, identifier.1, identifier.2])
    (identifiers : nested.numIdentifiers = 3) :
    let taken := nested.getResponseBuffer
    Represents size taken.1 answers answered rest ∧ taken.1.numPrefixIdentifiers = 2 ∧
      slice taken.1.message (1 + answers.length) 2 = identifier.bytes ∧
      taken.2 = PositiveResponse.init (1 + answers.length + 2)
        (dataSpace size answers rest.length) := by
  have buffer := represents.buffer
  have message := represents.message
  have stored := represents.stored
  have copied : slice nested.nestedRequest prefixLength 2 = identifier.bytes := by
    rw [request]
    rfl
  have length : identifier.bytes.length = 2 := rfl
  have bufferSize : nested.bufferSize = size - answers.length := by
    rw [NestedDiagRequest.bufferSize, message, buffer]
    omega
  have taken : nested.getResponseBuffer =
      ({ nested with
        numPrefixIdentifiers := 2
        message := overwrite nested.message nested.messageBuffer identifier.bytes },
        PositiveResponse.init (nested.messageBuffer + 2)
          (nested.bufferSize - nested.storedRequestLength - 2)) := by
    simp only [NestedDiagRequest.getResponseBuffer, identifiers, prefixLength]
    rw [if_pos (by omega)]
    have two : 3 - 1 = 2 := rfl
    simp only [two]
    rw [show slice nested.nestedRequest 1 2 = identifier.bytes from copied, length,
      if_neg (by omega)]
    simp only [NestedDiagRequest.bufferSize]
    rw [length_overwrite (by rw [length]; omega)]
  have fits : nested.messageBuffer + identifier.bytes.length ≤ nested.message.length := by
    rw [length]
    omega
  rw [taken]
  refine ⟨?_, rfl, ?_, ?_⟩
  · have written := represents.write (length_overwrite fits) (by
      intro i away
      rw [getElem?_overwrite fits, if_neg (by rw [length]; omega)])
    exact written.of_eq rfl rfl rfl rfl rfl rfl
  · simp only [buffer] at fits ⊢
    have same := slice_overwrite_self fits
    rw [length] at same
    exact same
  · simp only [bufferSize, buffer, stored, dataSpace]
    congr 1
    omega

/-- Whatever the job appends, the message represents the same state, and behind the identifier
stands what was taken of it. -/
theorem Represents.append (represents : Represents size nested answers answered rest)
    (room : answers.length + 2 * (rest.length + 1) ≤ size)
    (appended : List PositiveResponse.Append) :
    let window := PositiveResponse.init (1 + answers.length + 2)
      (dataSpace size answers rest.length)
    let written := appended.foldl PositiveResponse.append (nested.message, window)
    Represents size { nested with message := written.1 } answers answered rest ∧
      slice written.1 (1 + answers.length) 2 = slice nested.message (1 + answers.length) 2 ∧
      written.2.length ≤ dataSpace size answers rest.length ∧
      (written.2.isOverflow = true ↔
        dataSpace size answers rest.length < (DidJob.data (some appended)).length) ∧
      (written.2.isOverflow = false →
        written.2.length = (DidJob.data (some appended)).length ∧
        slice written.1 (1 + answers.length + 2) (DidJob.data (some appended)).length =
          DidJob.data (some appended)) := by
  intro window written
  have message := represents.message
  have holds : PositiveResponse.Holds (nested.message, window) [] := by
    constructor
    · simp only [window, PositiveResponse.init, dataSpace]
      omega
    · rfl
    · exact Nat.zero_le _
    · exact take_zero
  have folded : written = (appended.map PositiveResponse.Append.bytes).foldl
      PositiveResponse.appendData (nested.message, window) := by
    rw [foldl_map]
    rfl
  obtain ⟨within, after, overflow⟩ := PositiveResponse.foldl_appendData_spec
    (appended.map PositiveResponse.Append.bytes) holds
  rw [← folded] at within after overflow
  simp only [nil_append, length_nil, Nat.sub_zero] at after overflow
  have data : written.2.data = 1 + answers.length + 2 := within.data
  have overflown : written.2.isOverflow = true ↔
      dataSpace size answers rest.length < (DidJob.data (some appended)).length := by
    rw [overflow]
    simp only [window, PositiveResponse.init, Bool.false_eq_true, false_or]
    rfl
  refine ⟨?_, ?_, ?_, overflown, ?_⟩
  · apply represents.write within.length
    intro i away
    apply within.outside
    simp only [window, PositiveResponse.init, dataSpace]
    omega
  · apply slice_congr
    intro i _ upper
    apply within.outside
    simp only [window, PositiveResponse.init]
    omega
  · rw [after.length]
    exact after.fits.trans (le_of_eq within.maximumLength)
  · intro fitting
    have fits : (appended.map PositiveResponse.Append.bytes).flatten.length ≤
        window.maximumLength := by
      by_contra tooLong
      have isOver := overflown.mpr (by
        simp only [DidJob.data, Option.getD_some]
        simp only [window, PositiveResponse.init] at tooLong
        omega)
      rw [fitting] at isOver
      contradiction
    rw [PositiveResponse.taken_of_fits fits] at after
    have bytes := after.bytes
    rw [data] at bytes
    exact ⟨after.length, bytes⟩

/-- The answer joins the answers so far. -/
theorem Represents.setNestedResponseLength
    (represents : Represents size nested answers answered rest) (small : size < 0xFFFF)
    (numPrefix : nested.numPrefixIdentifiers = 2)
    (identifiers : slice nested.message (1 + answers.length) 2 = identifier.bytes)
    {data : List UInt8}
    (room : answers.length + 2 + data.length + 2 * rest.length ≤ size)
    (written : slice nested.message (1 + answers.length + 2) data.length = data) :
    Represents size (nested.setNestedResponseLength data.length)
      (answers ++ identifier.bytes ++ data) true rest := by
  have length : (answers ++ identifier.bytes ++ data).length =
      answers.length + 2 + data.length := by
    simp only [List.length_append]
    rfl
  have moved : (data.length + nested.numPrefixIdentifiers) % 0x10000 = data.length + 2 := by
    rw [numPrefix, Nat.mod_eq_of_lt (by omega)]
  have unfolded : nested.setNestedResponseLength data.length =
      { nested with
        messageBuffer := nested.messageBuffer + (data.length + 2)
        responseLength := (nested.responseLength + (data.length + 2)) % 0x10000
        fCombinedResponseCode := OK } := by
    simp only [NestedDiagRequest.setNestedResponseLength, moved, handleNestedResponseCode]
    rw [if_neg (by decide), if_true]
  have buffer := represents.buffer
  have responseLength := represents.length
  rw [unfolded]
  exact {
    message := represents.message
    code := represents.code
    combined := rfl
    buffer := by
      simp only
      omega
    length := by
      simp only
      rw [Nat.mod_eq_of_lt (by omega)]
      omega
    stored := represents.stored
    room := by omega
    front := by
      rw [length]
      apply ext_getElem?
      intro i
      have front := congrArg (fun block => block[i]?) represents.front
      have middle := congrArg (fun block => block[i - answers.length]?) identifiers
      have back := congrArg (fun block => block[i - answers.length - 2]?) written
      simp only [getElem?_slice] at front middle back ⊢
      have two : identifier.bytes.length = 2 := rfl
      by_cases inFront : i < answers.length
      · rw [if_pos inFront] at front
        rw [if_pos (by omega), front, append_assoc, List.getElem?_append_left inFront]
      · by_cases inMiddle : i < answers.length + 2
        · rw [if_pos (by omega)] at middle
          rw [if_pos (by omega), append_assoc,
            List.getElem?_append_right (by omega),
            List.getElem?_append_left (by omega), ← middle]
          congr 1
          omega
        · by_cases inBack : i < answers.length + 2 + data.length
          · rw [if_pos (by omega)] at back
            rw [if_pos (by omega), append_assoc, List.getElem?_append_right (by omega),
              List.getElem?_append_right (by omega), two, ← back]
            congr 1
            omega
          · rw [if_neg (by omega), List.getElem?_eq_none (by omega)]
    tail := represents.tail }

/-! ## A round -/

/-- A round has served its identifier: the message represents the state behind it, or the
loop stops with the code. -/
def Follows (size : Nat) (nested : NestedDiagRequest) (answers : List UInt8) (answered : Bool)
    (identifier : DataIdentifier) (rest : List DataIdentifier) : Served → Prop
  | .next => Represents size nested answers answered rest
  | .answer data => Represents size nested (answers ++ identifier.bytes ++ data) true rest
  | .stop code => nested.responseCode = code ∧ code ≠ OK

theorem Represents.follows_handleCode
    (represents : Represents size nested answers answered rest) (code : NegativeCode) :
    Follows size (nested.handleNestedResponseCode code) answers answered identifier rest
      (.ofCode code) := by
  have cases := handleNestedResponseCode_cases nested code
  cases served : Served.ofCode code with
  | next =>
    rw [served] at cases
    rw [Follows, cases]
    exact represents
  | answer data =>
    rw [served] at cases
    exact cases.elim
  | stop stopping =>
    rw [served] at cases
    exact cases

/-- The maximum length is the space less one, in 16 bits. -/
theorem Represents.getMaxNestedResponseLength
    (represents : Represents size nested answers answered rest) (small : size < 0xFFFF)
    (room : answers.length + 2 * (rest.length + 1) ≤ size)
    (identifiers : nested.numIdentifiers = 3) :
    nested.getMaxNestedResponseLength =
      (dataSpace size answers rest.length + 0xFFFF) % 0x10000 := by
  have message := represents.message
  have buffer := represents.buffer
  have stored := represents.stored
  simp only [NestedDiagRequest.getMaxNestedResponseLength, bufferSize, dataSpace]
  omega

/-- The response of a job that has taken it and answers positively. -/
theorem Represents.follows_sendPositiveResponse {reading : Reading}
    (represents : Represents size reading.nested answers answered rest) (small : size < 0xFFFF)
    (room : answers.length + 2 * (rest.length + 1) ≤ size)
    (numPrefix : reading.nested.numPrefixIdentifiers = 2)
    (identifiers : slice reading.nested.message (1 + answers.length) 2 = identifier.bytes)
    {response : PositiveResponse} {appended : Option (List PositiveResponse.Append)}
    (overflow : response.isOverflow = true ↔
      dataSpace size answers rest.length < (DidJob.data appended).length)
    (fitting : response.isOverflow = false →
      response.length = (DidJob.data appended).length ∧
      slice reading.nested.message (1 + answers.length + 2) (DidJob.data appended).length =
        DidJob.data appended) :
    Follows size (sendPositiveResponse reading response).nested answers answered identifier rest
      (DidJob.replied appended (dataSpace size answers rest.length) .positive) := by
  cases overflown : response.isOverflow with
  | true =>
    rw [DidJob.replied, if_pos (overflow.mp overflown), sendPositiveResponse]
    simp only [overflown, if_true]
    exact ⟨rfl, by decide⟩
  | false =>
    obtain ⟨length, written⟩ := fitting overflown
    have fits : ¬dataSpace size answers rest.length < (DidJob.data appended).length := by
      intro tooLong
      rw [overflow.mpr tooLong] at overflown
      contradiction
    rw [DidJob.replied, if_neg fits, sendPositiveResponse]
    simp only [overflown, Bool.false_eq_true, if_false, length]
    apply represents.setNestedResponseLength small numPrefix identifiers _ written
    rw [dataSpace] at fits
    omega

/-- What a job does to the message is what it comes to in the space it has. -/
theorem processNextRequest_spec {reading : Reading}
    (represents : Represents size reading.nested answers answered rest) (small : size < 0xFFFF)
    (room : answers.length + 2 * (rest.length + 1) ≤ size)
    (request : reading.nested.nestedRequest =
      [READ_DATA_BY_IDENTIFIER, identifier.1, identifier.2]) (job : DidJob) :
    Follows size (processNextRequest job reading).nested answers answered identifier rest
        (job.served fitsMaximum (dataSpace size answers rest.length)) ∧
      (processNextRequest job reading).executed = reading.executed ∧
      (processNextRequest job reading).lengths =
        reading.lengths ++ job.recorded (dataSpace size answers rest.length) := by
  have prepared (numIdentifiers : Nat) : Represents size
      { reading.nested with numIdentifiers, numPrefixIdentifiers := 0 } answers answered rest :=
    represents.of_eq rfl rfl rfl rfl rfl rfl
  cases job with
  | returned code =>
    refine ⟨(prepared 1).follows_handleCode code, rfl, ?_⟩
    simp only [processNextRequest, handleCode, DidJob.recorded, append_nil]
  | executed responseLength appended reply =>
    have maximum := (prepared 3).getMaxNestedResponseLength small room rfl
    obtain ⟨taken, numPrefix, identifiers, window⟩ :=
      (prepared 3).getResponseBuffer room request rfl
    have test : (responseLength.any fun length => decide
        ({ reading.nested with
          numIdentifiers := 3, numPrefixIdentifiers := 0 }.getMaxNestedResponseLength <
            length)) = !DidJob.accepted fitsMaximum (dataSpace size answers rest.length)
              responseLength := by
      rw [maximum, DidJob.accepted, Bool.not_not]
      congr 1
      funext length
      simp only [fitsMaximum, ← Nat.not_le, decide_not]
    simp only [processNextRequest, test, DidJob.served]
    cases accepted : DidJob.accepted fitsMaximum (dataSpace size answers rest.length)
        responseLength with
    | false =>
      simp only [Bool.not_false, if_true, Bool.false_eq_true, if_false]
      refine ⟨⟨rfl, by decide⟩, rfl, ?_⟩
      cases appended <;> simp [handleCode, DidJob.recorded, accepted]
    | true =>
      simp only [Bool.not_true, Bool.false_eq_true, if_false, if_true]
      cases appended with
      | some appended =>
        obtain ⟨written, kept, _, overflow, fitting⟩ := taken.append room appended
        rw [← window] at written kept overflow fitting
        rw [identifiers] at kept
        have lengths : (takeResponse
            { reading with
              nested :=
                { reading.nested with numIdentifiers := 3, numPrefixIdentifiers := 0 } }
            appended).1.lengths = reading.lengths ++
              (DidJob.executed responseLength (some appended) reply).recorded
                (dataSpace size answers rest.length) := by
          simp only [takeResponse, window, maximum, DidJob.recorded, accepted, if_true]
          rfl
        cases reply with
        | positive =>
          refine ⟨?_, rfl, lengths⟩
          exact written.follows_sendPositiveResponse small room numPrefix kept overflow
            fitting
        | negative code sent =>
          refine ⟨?_, rfl, lengths⟩
          exact written.follows_handleCode code
      | none =>
        have lengths : reading.lengths = reading.lengths ++
            (DidJob.executed responseLength none reply).recorded
              (dataSpace size answers rest.length) := by
          simp only [DidJob.recorded, append_nil]
        cases reply with
        | positive =>
          refine ⟨?_, rfl, lengths⟩
          apply taken.follows_sendPositiveResponse small room numPrefix identifiers
          · rw [window]
            simp [PositiveResponse.init, DidJob.data]
          · intro _
            rw [window]
            exact ⟨rfl, take_zero⟩
        | negative code sent =>
          cases sent with
          | true =>
            refine ⟨?_, rfl, lengths⟩
            exact taken.follows_handleCode code
          | false =>
            refine ⟨?_, rfl, lengths⟩
            exact (prepared 3).follows_handleCode code

/-! ## The loop -/

/-- The loop reads the stored identifiers one by one, with the jobs' declared lengths tested
against the maximum length. -/
theorem triggerNextNestedRequest_spec (jobs : Nat → DataIdentifier → DidJob)
    (small : size < 0xFFFF) {rounds : Nat} {reading : Reading}
    (represents : Represents size reading.nested answers answered remaining)
    (enough : remaining.length < rounds) :
    ∃ final, triggerNextNestedRequest jobs rounds reading = some final ∧
      let result := readAll size (fun index identifier space =>
        (jobs index identifier).served fitsMaximum space) reading.executed.length answers answered
        remaining
      final.executed = reading.executed ++ result.reads.map (fun read => read.2.1) ∧
      endNestedRequest final.nested = result.response ∧
      final.lengths = reading.lengths ++
        result.reads.flatMap fun read => (jobs read.1 read.2.1).recorded read.2.2 := by
  induction remaining generalizing rounds reading answers answered with
  | nil =>
    obtain ⟨rounds, rfl⟩ : ∃ fewer, rounds = fewer + 1 := ⟨rounds - 1, by
      simp only [length_nil] at enough
      omega⟩
    have prepared := represents.prepare_nil
    refine ⟨{ reading with nested := reading.nested.prepareNextRequest }, ?_, ?_⟩
    · rw [triggerNextNestedRequest, if_neg (not_not.mpr represents.code)]
      simp [prepared]
    · simp only [readAll, map_nil, append_nil, flatMap_nil, true_and, and_true]
      rw [prepared]
      cases answered with
      | false =>
        simp only [endNestedRequest, Bool.false_eq_true, if_false]
        rw [if_neg (by decide)]
        rfl
      | true =>
        have length := represents.length
        have message := represents.message
        have room := represents.room
        simp only [endNestedRequest, if_true]
        rw [length, prefixLength, ← represents.front, slice]
        have front : reading.nested.message.take 1 ++ reading.nested.message.drop 1 =
            reading.nested.message := take_append_drop _ _
        simp only [overwrite, take_zero, nil_append, length_cons,
          length_nil, Nat.zero_add, singleton_append]
        rw [length_take, length_drop, Nat.min_eq_left (by omega), Nat.add_comm,
          take_succ_cons]
        rfl
  | cons identifier rest ih =>
    obtain ⟨rounds, rfl⟩ : ∃ fewer, rounds = fewer + 1 := ⟨rounds - 1, by omega⟩
    obtain ⟨prepared, request⟩ := represents.prepare
    have room := represents.room
    simp only [length_cons] at room enough
    have unfolded : triggerNextNestedRequest jobs (rounds + 1) reading =
        triggerNextNestedRequest jobs rounds
          (processNextRequest (jobs reading.executed.length identifier)
            { reading with
              nested := reading.nested.prepareNextRequest
              executed := reading.executed ++ [identifier] }) := by
      rw [triggerNextNestedRequest, if_neg (not_not.mpr represents.code)]
      simp [request, prepared.code]
    have round (next : Reading) (same : next.nested = reading.nested.prepareNextRequest) :=
      processNextRequest_spec (same ▸ prepared) small (by omega) (same ▸ request)
        (jobs reading.executed.length identifier)
    obtain ⟨follows, executed, lengths⟩ := round
      { reading with
        nested := reading.nested.prepareNextRequest
        executed := reading.executed ++ [identifier] } rfl
    simp only at executed lengths
    have index : (processNextRequest (jobs reading.executed.length identifier)
        { reading with
          nested := reading.nested.prepareNextRequest
          executed := reading.executed ++ [identifier] }).executed.length =
        reading.executed.length + 1 := by
      rw [executed, List.length_append]
      rfl
    have enoughLeft : rest.length < rounds := by omega
    rw [unfolded, readAll]
    cases served : (jobs reading.executed.length identifier).served fitsMaximum
        (dataSpace size answers rest.length) with
    | next =>
      rw [served] at follows
      have behind : Represents size _ answers answered rest := follows
      obtain ⟨final, returned, finalExecuted, response, finalLengths⟩ :=
        ih behind enoughLeft
      rw [index] at finalExecuted response finalLengths
      refine ⟨final, returned, ?_, response, ?_⟩
      · rw [finalExecuted, executed, append_assoc]
        rfl
      · rw [finalLengths, lengths, append_assoc]
        rfl
    | answer data =>
      rw [served] at follows
      have behind : Represents size _ (answers ++ identifier.bytes ++ data) true rest := follows
      obtain ⟨final, returned, finalExecuted, response, finalLengths⟩ :=
        ih behind enoughLeft
      rw [index] at finalExecuted response finalLengths
      refine ⟨final, returned, ?_, response, ?_⟩
      · rw [finalExecuted, executed, append_assoc]
        rfl
      · rw [finalLengths, lengths, append_assoc]
        rfl
    | stop code =>
      rw [served] at follows
      obtain ⟨stopped, negative⟩ := follows
      obtain ⟨rounds, rfl⟩ : ∃ fewer, rounds = fewer + 1 := ⟨rounds - 1, by omega⟩
      have returned (last : Reading) (code : last.nested.responseCode ≠ OK) :
          triggerNextNestedRequest jobs (rounds + 1) last = some last := by
        rw [triggerNextNestedRequest, if_pos code]
      refine ⟨_, returned _ (by rw [stopped]; exact negative), ?_, ?_, ?_⟩
      · rw [executed]
        rfl
      · rw [endNestedRequest, if_neg (by rw [stopped]; exact negative), stopped]
        rfl
      · rw [lengths]
        simp only [flatMap_cons, flatMap_nil, append_nil]

end NestedDiagRequest

end OpenBsw.Uds
