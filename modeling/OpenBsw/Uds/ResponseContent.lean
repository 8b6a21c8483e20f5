import OpenBsw.Uds.IncomingDiagConnection

/-!
# The content of a response

Request and response share one buffer.  A negative response stands over the first three bytes
of what a job has written so far; the bytes under it are kept aside and come back when the
positive response is built.
-/

namespace OpenBsw.Bytes

universe u

variable {α : Type u}

/-- A block written over one of the same size is all that is left. -/
theorem overwrite_overwrite {buffer first second : List α} {offset : Nat}
    (fits : offset + first.length ≤ buffer.length) (same : second.length = first.length) :
    overwrite (overwrite buffer offset first) offset second =
      overwrite buffer offset second := by
  apply List.ext_getElem?
  intro i
  rw [getElem?_overwrite (by rw [length_overwrite fits]; omega), getElem?_overwrite fits,
    getElem?_overwrite (by omega)]
  by_cases inside : offset ≤ i ∧ i < offset + second.length
  · rw [if_pos inside, if_pos inside]
  · rw [if_neg inside, if_neg inside, if_neg (by omega)]

/-- A block written over itself. -/
theorem overwrite_self {buffer : List α} {size : Nat} :
    overwrite buffer 0 (buffer.take size) = buffer := by
  rw [overwrite, List.take_zero, List.nil_append, Nat.zero_add, List.length_take]
  by_cases inside : size ≤ buffer.length
  · rw [Nat.min_eq_left inside, List.take_append_drop]
  · rw [Nat.min_eq_right (by omega), List.take_of_length_le (by omega), List.drop_length,
      List.append_nil]

/-- Blocks that lie apart are written in any order. -/
theorem overwrite_comm {buffer first second : List α} {start offset : Nat}
    (firstFits : start + first.length ≤ buffer.length)
    (secondFits : offset + second.length ≤ buffer.length)
    (apart : start + first.length ≤ offset) :
    overwrite (overwrite buffer offset second) start first =
      overwrite (overwrite buffer start first) offset second := by
  apply List.ext_getElem?
  intro i
  rw [getElem?_overwrite (by rw [length_overwrite secondFits]; exact firstFits),
    getElem?_overwrite secondFits,
    getElem?_overwrite (by rw [length_overwrite firstFits]; exact secondFits),
    getElem?_overwrite firstFits]
  by_cases inFirst : start ≤ i ∧ i < start + first.length
  · rw [if_pos inFirst, if_pos inFirst, if_neg (by omega)]
  · rw [if_neg inFirst, if_neg inFirst]

theorem slice_eq_drop_take (buffer : List α) (offset size : Nat) :
    slice buffer offset size = (buffer.take (offset + size)).drop offset := by
  rw [slice, List.drop_take, Nat.add_sub_cancel_left]

/-- A block written behind a part of the buffer extends that part. -/
theorem slice_overwrite_append {buffer block : List α} {offset size : Nat}
    (fits : offset + size + block.length ≤ buffer.length) :
    slice (overwrite buffer (offset + size) block) offset (size + block.length) =
      slice buffer offset size ++ block := by
  rw [slice_eq_drop_take, ← Nat.add_assoc, take_overwrite buffer block (by omega),
    List.drop_append_of_le_length (by rw [List.length_take]; omega), ← slice_eq_drop_take]

end OpenBsw.Bytes

namespace OpenBsw.Transport.TransportMessage

open Bytes

/-- Bytes appended one by one. -/
theorem foldl_append {message : TransportMessage} {bytes : List UInt8}
    (fits : message.validBytes + bytes.length ≤ message.maxPayloadLength) :
    bytes.foldl (fun message byte => message.append [byte]) message =
      { message with
        buffer := overwrite message.buffer message.validBytes bytes
        validBytes := message.validBytes + bytes.length } := by
  induction bytes generalizing message with
  | nil => simp
  | cons byte rest ih =>
    have bufferLe : message.maxPayloadLength ≤ message.buffer.length := Nat.mod_le _ _
    rw [List.length_cons] at fits
    have first : message.validBytes + [byte].length ≤ message.maxPayloadLength := by
      rw [List.length_singleton]
      omega
    have restFits : (message.append [byte]).validBytes + rest.length ≤
        (message.append [byte]).maxPayloadLength := by
      rw [validBytes_append first, maxPayloadLength_append, List.length_singleton]
      omega
    rw [List.foldl_cons, ih restFits, append_of_le first]
    simp only [List.length_cons, List.length_nil, TransportMessage.mk.injEq, true_and]
    refine ⟨?_, by omega⟩
    have joined : overwrite (overwrite message.buffer message.validBytes [byte])
        (message.validBytes + [byte].length) rest =
        overwrite message.buffer message.validBytes ([byte] ++ rest) :=
      overwrite_append (by rw [List.length_append, List.length_singleton]; omega)
    exact joined

end OpenBsw.Transport.TransportMessage

namespace OpenBsw.Uds.ResponseContent

open Bytes DiagReturnCode IncomingDiagConnection Transport List

variable {connection after : IncomingDiagConnection}

/-- A buffer without a negative response over its first bytes. -/
def uncover (buffer kept : List UInt8) : List UInt8 :=
  if buffer.getD 0 0 == NEGATIVE_RESPONSE_IDENTIFIER then overwrite buffer 0 kept else buffer

theorem length_uncover {buffer kept : List UInt8} (fits : kept.length ≤ buffer.length) :
    (uncover buffer kept).length = buffer.length := by
  unfold uncover
  split
  · exact length_overwrite (by omega)
  · rfl

/-- A block behind the negative response, or behind the service id where there is none. -/
theorem uncover_overwrite {buffer kept block : List UInt8} {position : Nat}
    (behind : 0 < position) (fits : position + block.length ≤ buffer.length)
    (keptFits : kept.length ≤ buffer.length)
    (apart : buffer.getD 0 0 = NEGATIVE_RESPONSE_IDENTIFIER →
      block = [] ∨ kept.length ≤ position) :
    uncover (overwrite buffer position block) kept =
      overwrite (uncover buffer kept) position block := by
  have front : (overwrite buffer position block).getD 0 0 = buffer.getD 0 0 := by
    rw [getD_eq_getElem?_getD, getElem?_overwrite fits, if_neg (by omega),
      ← getD_eq_getElem?_getD]
  rw [uncover, uncover, front]
  split
  next negative =>
    rcases apart (by simpa using negative) with rfl | apart
    · rw [overwrite_nil, overwrite_nil]
    · exact overwrite_comm (by omega) fits (by omega)
  next => rfl

/-- The bytes under a negative response are kept aside once. -/
theorem uncover_negative {buffer kept negative : List UInt8} (fits : 3 ≤ buffer.length)
    (negativeLength : negative.length = 3) (keptLength : kept.length = 3)
    (identifier : negative.getD 0 0 = NEGATIVE_RESPONSE_IDENTIFIER) :
    uncover (overwrite buffer 0 negative)
        (if buffer.getD 0 0 == NEGATIVE_RESPONSE_IDENTIFIER then kept else buffer.take 3) =
      uncover buffer kept := by
  have negativeFits : 0 + negative.length ≤ buffer.length := by omega
  have front : (overwrite buffer 0 negative).getD 0 0 = NEGATIVE_RESPONSE_IDENTIFIER := by
    rw [getD_eq_getElem?_getD, getElem?_overwrite negativeFits, if_pos (by omega),
      ← getD_eq_getElem?_getD]
    exact identifier
  rw [uncover, front, uncover]
  simp only [beq_self_eq_true, if_true]
  split
  · exact overwrite_overwrite negativeFits (by omega)
  · rw [overwrite_overwrite negativeFits (by rw [length_take]; omega)]
    exact overwrite_self

/-- The message without a negative response over it. -/
def written (connection : IncomingDiagConnection) : List UInt8 :=
  uncover connection.message.buffer connection.negativeResponseTempBuffer

/-- A response that is being written: the identifiers are the front of the request, and behind
them stands what was appended, unless something was appended into the first three bytes behind
a negative response. -/
structure Draft (connection : IncomingDiagConnection) : Prop where
  size : 3 ≤ connection.message.buffer.length ∧ connection.message.buffer.length < 65536
  serviceId : connection.serviceId = connection.log.request.getD 0 0
  identified : connection.log.identified = connection.identifiers.length
  silent : connection.log.silent = connection.suppressPositiveResponse
  request : connection.log.request.length = connection.message.buffer.length
  service : connection.log.request.getD 0 0 ≠ NEGATIVE_RESPONSE_IDENTIFIER
  identifiers : connection.identifiers = connection.log.request.take connection.identifiers.length
  few : connection.identifiers.length ≤ connection.message.buffer.length
  backup : connection.negativeResponseTempBuffer.length = 3
  untaken : connection.isResponseActive = false →
    connection.hasResponse = false ∧ connection.message.buffer = connection.log.request ∧
      connection.log.appended = []
  taken : connection.isResponseActive = true → connection.hasResponse = true ∧
    connection.positiveResponse.data = connection.identifiers.length ∧
    connection.positiveResponse.maximumLength =
      connection.message.buffer.length - connection.identifiers.length ∧
    connection.positiveResponse.length = connection.log.appended.length ∧
    connection.log.appended.length ≤ connection.positiveResponse.maximumLength
  content : connection.isResponseActive = true → connection.identifiers ≠ [] →
    connection.log.late = false →
    slice (written connection) connection.identifiers.length connection.log.appended.length =
      connection.log.appended

theorem length_written (draft : Draft connection) :
    (written connection).length = connection.message.buffer.length :=
  length_uncover (by rw [draft.backup]; exact draft.size.1)

/-- What the content of a response depends on. -/
structure Kept (before after : IncomingDiagConnection) : Prop where
  message : after.message = before.message
  hasResponse : after.hasResponse = before.hasResponse
  identifiers : after.identifiers = before.identifiers
  isResponseActive : after.isResponseActive = before.isResponseActive
  positiveResponse : after.positiveResponse = before.positiveResponse
  negativeResponseTempBuffer :
    after.negativeResponseTempBuffer = before.negativeResponseTempBuffer
  serviceId : after.serviceId = before.serviceId
  sourceAddress : after.sourceAddress = before.sourceAddress
  targetAddress : after.targetAddress = before.targetAddress
  responseSourceAddress : after.responseSourceAddress = before.responseSourceAddress
  suppress : after.suppressPositiveResponse = before.suppressPositiveResponse
  request : after.log.request = before.log.request
  identified : after.log.identified = before.log.identified
  silent : after.log.silent = before.log.silent
  appended : after.log.appended = before.log.appended
  late : after.log.late = before.log.late

theorem Draft.of_kept (draft : Draft connection) (kept : Kept connection after) : Draft after := by
  obtain ⟨message, hasResponse, identifiers, active, positive, backup, serviceId, _, _, _,
    suppress, request, identified, silent, appended, late⟩ := kept
  have same : written after = written connection := by
    rw [written, written, message, backup]
  constructor
  · rw [message]
    exact draft.size
  · rw [serviceId, request]
    exact draft.serviceId
  · rw [identified, identifiers]
    exact draft.identified
  · rw [silent, suppress]
    exact draft.silent
  · rw [message, request]
    exact draft.request
  · rw [request]
    exact draft.service
  · rw [identifiers, request]
    exact draft.identifiers
  · rw [identifiers, message]
    exact draft.few
  · rw [backup]
    exact draft.backup
  · rw [active, hasResponse, message, request, appended]
    exact draft.untaken
  · rw [active, hasResponse, positive, identifiers, message, appended]
    exact draft.taken
  · rw [active, identifiers, late, same, appended]
    exact draft.content

/-! ## What jobs do -/

theorem draft_opened {request : TransportMessage}
    (size : 3 ≤ request.buffer.length ∧ request.buffer.length < 65536)
    (service : request.buffer.getD 0 0 ≠ NEGATIVE_RESPONSE_IDENTIFIER)
    (responseSourceAddress : Nat) (activatePending : Bool) :
    Draft (opened request responseSourceAddress activatePending) where
  size := size
  serviceId := rfl
  identified := rfl
  silent := rfl
  request := rfl
  service := service
  identifiers := rfl
  few := Nat.zero_le _
  backup := rfl
  untaken := fun _ => ⟨rfl, rfl, rfl⟩
  taken := fun active => Bool.noConfusion active
  content := fun active => Bool.noConfusion active

theorem Draft.addIdentifier (draft : Draft connection) (direct : connection.nestedRequest = none) :
    Draft (connection.note .addIdentifier).addIdentifier := by
  by_cases room : connection.isResponseActive = false ∧
      connection.identifiers.length < MAXIMUM_NUMBER_OF_IDENTIFIERS ∧
      connection.identifiers.length < connection.message.buffer.length
  · obtain ⟨notActive, few⟩ := room
    have added : (connection.note .addIdentifier).addIdentifier =
        { connection with
          identifiers := connection.identifiers ++
            [connection.message.buffer.getD connection.identifiers.length 0]
          log.identified := connection.log.identified + 1 } := by
      rw [note, noted, draft.identified, draft.request, if_pos ⟨notActive, few⟩,
        IncomingDiagConnection.addIdentifier, if_neg (by simp [notActive, direct]), if_pos few]
    have found : connection.log.request[connection.identifiers.length]? =
        some (connection.message.buffer.getD connection.identifiers.length 0) := by
      rw [← (draft.untaken notActive).2.1, getD_eq_getElem?_getD, List.getElem?_eq_getElem few.2]
      rfl
    rw [added]
    exact
      { draft with
        identified := by
          simp only [List.length_append, length_singleton, draft.identified]
        identifiers := by
          simp only
          rw [List.length_append, length_singleton, take_add_one,
            ← draft.identifiers, found]
          rfl
        few := by
          simp only
          rw [List.length_append, length_singleton]
          omega
        taken := fun active => by
          rw [notActive] at active
          exact Bool.noConfusion active
        content := fun active => by
          rw [notActive] at active
          exact Bool.noConfusion active }
  · have unchanged : connection.note .addIdentifier = connection := by
      rw [note, noted, draft.identified, draft.request, if_neg room]
    rw [unchanged, IncomingDiagConnection.addIdentifier, direct]
    split
    · exact draft
    next inactive =>
      rw [if_neg fun few => room ⟨by simpa using inactive, few⟩]
      exact draft

/-- A byte behind the front does not show in it. -/
theorem take_modify_of_le {bytes : List UInt8} (change : UInt8 → UInt8) {size position : Nat}
    (behind : size ≤ position) : (bytes.modify position change).take size = bytes.take size := by
  apply ext_getElem?
  intro i
  rw [List.getElem?_take, List.getElem?_take]
  split
  · exact List.getElem?_modify_ne _ _ (by omega)
  · rfl

theorem Draft.checkSuppressPositiveResponseBit (draft : Draft connection)
    (direct : connection.nestedRequest = none) :
    Draft (connection.note .suppressPositiveResponse).checkSuppressPositiveResponseBit := by
  by_cases looks : connection.isResponseActive = false ∧ connection.identifiers.length ≠ 0
  · obtain ⟨notActive, some⟩ := looks
    have notEmpty : connection.identifiers.isEmpty = false := by
      rw [← Bool.not_eq_true, List.isEmpty_iff, ← length_eq_zero_iff]
      exact some
    have found : (connection.note .suppressPositiveResponse).checkSuppressPositiveResponseBit =
        { connection with
          suppressPositiveResponse := true
          message.buffer :=
            connection.message.buffer.modify connection.identifiers.length (· &&& 0x7F)
          log.silent := true
          log.request :=
            connection.log.request.modify connection.identifiers.length (· &&& 0x7F) } := by
      rw [note, noted, draft.identified, if_pos ⟨notActive, some⟩,
        IncomingDiagConnection.checkSuppressPositiveResponseBit,
        if_neg (by simp [notActive, notEmpty]), if_neg (by simp [direct])]
    have front : (connection.log.request.modify connection.identifiers.length (· &&& 0x7F)).getD
        0 0 = connection.log.request.getD 0 0 := by
      rw [getD_eq_getElem?_getD, List.getElem?_modify_ne _ _ (by omega),
        ← getD_eq_getElem?_getD]
    rw [found]
    exact
      { draft with
        size := by
          simp only [length_modify]
          exact draft.size
        serviceId := by
          simp only [front]
          exact draft.serviceId
        silent := rfl
        request := by
          simp only [length_modify]
          exact draft.request
        service := by
          simp only [front]
          exact draft.service
        identifiers := by
          simp only
          rw [take_modify_of_le _ (Nat.le_refl _)]
          exact draft.identifiers
        few := by
          simp only [length_modify]
          exact draft.few
        untaken := fun inactive =>
          ⟨(draft.untaken inactive).1, by simp only [(draft.untaken inactive).2.1],
            (draft.untaken inactive).2.2⟩
        taken := fun active => by
          rw [notActive] at active
          exact Bool.noConfusion active
        content := fun active => by
          rw [notActive] at active
          exact Bool.noConfusion active }
  · have unchanged : connection.note .suppressPositiveResponse = connection := by
      rw [note, noted, draft.identified, if_neg looks]
    rw [unchanged, IncomingDiagConnection.checkSuppressPositiveResponseBit]
    split
    · exact draft
    next guard =>
      rw [Bool.or_eq_true, not_or, Bool.not_eq_true, List.isEmpty_iff,
        ← length_eq_zero_iff] at guard
      exact absurd guard looks

theorem maxPayloadLength_of_lt {message : TransportMessage}
    (small : message.buffer.length < 65536) : message.maxPayloadLength = message.buffer.length :=
  Nat.mod_eq_of_lt small

theorem Draft.releaseRequestGetResponse (draft : Draft connection)
    (direct : connection.nestedRequest = none) :
    Draft (connection.note .releaseRequestGetResponse).releaseRequestGetResponse := by
  have released : (connection.note .releaseRequestGetResponse).releaseRequestGetResponse =
      { connection with
        message := connection.releaseRequestGetResponse.message
        hasResponse := true
        isResponseActive := true
        positiveResponse := PositiveResponse.init connection.identifiers.length
          (connection.message.buffer.length - connection.identifiers.length)
        log.appended := [] } ∧
      connection.releaseRequestGetResponse.message.buffer = connection.message.buffer := by
    unfold IncomingDiagConnection.releaseRequestGetResponse
    simp only [note, noted, direct]
    have max := maxPayloadLength_of_lt draft.size.2
    split
    · rw [max]
      exact ⟨rfl, rfl⟩
    · refine ⟨?_, rfl⟩
      rw [show TransportMessage.maxPayloadLength { connection.message with
        payloadLength := 0, validBytes := 0 } = connection.message.buffer.length from max]
  rw [released.1]
  exact
    { size := by
        simp only [released.2]
        exact draft.size
      request := by
        simp only [released.2]
        exact draft.request
      serviceId := draft.serviceId
      identified := draft.identified
      silent := draft.silent
      service := draft.service
      identifiers := draft.identifiers
      few := by
        simp only [released.2]
        exact draft.few
      backup := draft.backup
      untaken := fun inactive => Bool.noConfusion inactive
      taken := fun _ => ⟨rfl, rfl, by simp only [released.2]; rfl, rfl, Nat.zero_le _⟩
      content := fun _ _ _ => rfl }

/-- A response that is taken without being asked for is empty already. -/
theorem Draft.takeResponse (draft : Draft connection) (direct : connection.nestedRequest = none) :
    Draft connection.takeResponse ∧ connection.takeResponse.isResponseActive = true := by
  unfold IncomingDiagConnection.takeResponse
  split
  next active => exact ⟨draft, active⟩
  next inactive =>
    have empty := (draft.untaken (Bool.eq_false_of_not_eq_true inactive)).2.2
    have noted : connection.note .releaseRequestGetResponse = connection := by
      rw [note, IncomingDiagConnection.noted, ← empty]
    have released := draft.releaseRequestGetResponse direct
    rw [noted] at released
    refine ⟨released, ?_⟩
    unfold IncomingDiagConnection.releaseRequestGetResponse
    rw [direct]

/-- Taking the response looks at nothing that the observer writes down. -/
theorem takeResponse_note (action : Action) : (connection.note action).takeResponse =
    { connection.takeResponse with log := connection.noted action } := by
  unfold IncomingDiagConnection.takeResponse
  by_cases active : connection.isResponseActive = true
  · rw [if_pos active, if_pos (show (connection.note action).isResponseActive = true from active)]
    rfl
  · rw [if_neg active,
      if_neg (show ¬(connection.note action).isResponseActive = true from active)]
    unfold IncomingDiagConnection.releaseRequestGetResponse
    simp only [note]
    split <;> rfl

theorem log_addIdentifier (connection : IncomingDiagConnection) :
    connection.addIdentifier.log = connection.log := by
  unfold IncomingDiagConnection.addIdentifier
  split
  · rfl
  · split <;> rfl

theorem log_checkSuppressPositiveResponseBit (connection : IncomingDiagConnection) :
    connection.checkSuppressPositiveResponseBit.log = connection.log := by
  unfold IncomingDiagConnection.checkSuppressPositiveResponseBit
  split
  · rfl
  · split <;> rfl

theorem log_releaseRequestGetResponse (connection : IncomingDiagConnection) :
    connection.releaseRequestGetResponse.log = connection.log := by
  unfold IncomingDiagConnection.releaseRequestGetResponse
  split <;> rfl

theorem log_takeResponse (connection : IncomingDiagConnection) :
    connection.takeResponse.log = connection.log := by
  unfold IncomingDiagConnection.takeResponse
  split
  · rfl
  · exact log_releaseRequestGetResponse connection

theorem noted_takeResponse (call : PositiveResponse.Append) :
    connection.takeResponse.noted (.append call) = connection.noted (.append call) := by
  unfold IncomingDiagConnection.takeResponse IncomingDiagConnection.releaseRequestGetResponse
  split
  · rfl
  · split
    · rfl
    · simp only [noted, IncomingDiagConnection.isNegative]
      cases connection.hasResponse <;> rfl

/-- One more piece of the response. -/
theorem Draft.append (draft : Draft connection) (active : connection.isResponseActive = true)
    (call : PositiveResponse.Append) :
    Draft { connection.append call with log := connection.noted (.append call) } := by
  obtain ⟨response, data, maximum, length, inside⟩ := draft.taken active
  have few := draft.few
  unfold IncomingDiagConnection.append
  simp only [PositiveResponse.append, PositiveResponse.appendData, noted, draft.identified,
    draft.request]
  by_cases short : connection.positiveResponse.getAvailableDataLength < call.bytes.length
  · have refused : ¬connection.identifiers.length + connection.log.appended.length +
        call.bytes.length ≤ connection.message.buffer.length := by
      rw [PositiveResponse.getAvailableDataLength, length] at short
      omega
    simp only [if_pos short, if_neg refused]
    exact { draft with taken := fun _ => ⟨response, data, maximum, length, inside⟩ }
  · have room : connection.log.appended.length + call.bytes.length ≤
        connection.positiveResponse.maximumLength := by
      rw [PositiveResponse.getAvailableDataLength, length] at short
      omega
    have fits : connection.positiveResponse.data + connection.positiveResponse.length +
        call.bytes.length ≤ connection.message.buffer.length := by
      rw [data, length]
      omega
    have accepted : connection.identifiers.length + connection.log.appended.length +
        call.bytes.length ≤ connection.message.buffer.length := by
      rw [data, length] at fits
      exact fits
    simp only [if_neg short, if_pos accepted]
    exact
      { draft with
        size := by
          simp only [length_overwrite fits]
          exact draft.size
        identified := rfl
        request := by
          simp only [length_overwrite fits]
          exact draft.request
        few := by
          simp only [length_overwrite fits]
          exact draft.few
        untaken := fun inactive => by
          rw [active] at inactive
          exact Bool.noConfusion inactive
        taken := fun _ => by
          simp only [length_overwrite fits, List.length_append]
          exact ⟨response, data, maximum, by rw [length], room⟩
        content := by
          intro _ some onTime
          simp only [Bool.or_eq_false_iff] at onTime
          have front : 0 < connection.identifiers.length := length_pos_iff.mpr some
          have sizes := draft.size
          have backup := draft.backup
          have apart : connection.message.buffer.getD 0 0 = NEGATIVE_RESPONSE_IDENTIFIER →
              call.bytes = [] ∨ connection.negativeResponseTempBuffer.length ≤
                connection.positiveResponse.data + connection.positiveResponse.length := by
            intro negative
            have isNegative : connection.isNegative = true := by
              rw [IncomingDiagConnection.isNegative, negative]
              rfl
            have late := onTime.2
            rw [isNegative, Bool.true_and, Bool.and_eq_false_iff, Bool.not_eq_false',
              List.isEmpty_iff, decide_eq_false_iff_not] at late
            rw [backup, data, length]
            exact late.imp_right Nat.le_of_not_lt
          have extended := uncover_overwrite (by omega) fits (by omega) apart
          have writtenFits : connection.identifiers.length + connection.log.appended.length +
              call.bytes.length ≤ (written connection).length := by
            rw [length_written draft]
            omega
          have joined := slice_overwrite_append writtenFits
          rw [draft.content active some onTime.1] at joined
          simp only [written, List.length_append]
          rw [extended, data, length]
          exact joined }

/-! ## What is built -/

/-- A negative response over the first three bytes. -/
theorem buildNegativeResponse_eq (code : UInt8)
    (size : 3 ≤ connection.message.buffer.length ∧ connection.message.buffer.length < 65536) :
    connection.buildNegativeResponse code =
      { connection.message with
        buffer := overwrite connection.message.buffer 0
          [NEGATIVE_RESPONSE_IDENTIFIER, connection.serviceId, code]
        payloadLength := 3
        validBytes := 3
        sourceAddress := connection.responseSourceAddress
        targetAddress := connection.sourceAddress } := by
  have max := maxPayloadLength_of_lt size.2
  have fits : ({ connection.message with
      payloadLength := 3
      sourceAddress := connection.responseSourceAddress
      targetAddress := connection.sourceAddress
      validBytes := 0 } : TransportMessage).validBytes +
        [NEGATIVE_RESPONSE_IDENTIFIER, connection.serviceId, code].length ≤
      connection.message.maxPayloadLength := by
    rw [max]
    exact size.1
  exact TransportMessage.foldl_append fits

theorem payload_buildNegativeResponse (code : UInt8)
    (size : 3 ≤ connection.message.buffer.length ∧ connection.message.buffer.length < 65536) :
    (connection.buildNegativeResponse code).payload =
      [NEGATIVE_RESPONSE_IDENTIFIER, connection.serviceId, code] := by
  have taken := take_overwrite connection.message.buffer
    [NEGATIVE_RESPONSE_IDENTIFIER, connection.serviceId, code] (Nat.zero_le _)
  rw [buildNegativeResponse_eq code size]
  exact taken

/-- A ResponsePending of the job goes over the response it is writing. -/
theorem Draft.buildNegativeResponse (draft : Draft connection)
    (active : connection.isResponseActive = true) (code : UInt8) (sender : Option JobId) :
    Draft { connection with
      message := connection.buildNegativeResponse code
      negativeResponseTempBuffer := connection.backup
      sender } := by
  have fits : 0 + [NEGATIVE_RESPONSE_IDENTIFIER, connection.serviceId, code].length ≤
      connection.message.buffer.length := by
    rw [Nat.zero_add]
    exact draft.size.1
  have backup : connection.backup.length = 3 := by
    unfold IncomingDiagConnection.backup
    split
    · exact draft.backup
    · rw [length_take]
      exact Nat.min_eq_left draft.size.1
  have same : uncover (overwrite connection.message.buffer 0
      [NEGATIVE_RESPONSE_IDENTIFIER, connection.serviceId, code]) connection.backup =
      written connection :=
    uncover_negative draft.size.1 rfl draft.backup rfl
  rw [buildNegativeResponse_eq code draft.size]
  exact
    { draft with
      size := by
        simp only [length_overwrite fits]
        exact draft.size
      request := by
        simp only [length_overwrite fits]
        exact draft.request
      few := by
        simp only [length_overwrite fits]
        exact draft.few
      backup := backup
      untaken := fun inactive => by
        simp only at inactive
        rw [active] at inactive
        exact Bool.noConfusion inactive
      taken := by
        simp only [length_overwrite fits]
        exact draft.taken
      content := by
        intro isActive some onTime
        simp only [written, same]
        exact draft.content isActive some onTime }

/-- The positive response to the request: the service id with its offset, the request bytes of
the other identifiers and what was appended. -/
def positivePayload (log : Log) : List UInt8 :=
  (log.request.getD 0 0 + UInt8.ofNat POSITIVE_RESPONSE_OFFSET) ::
    ((log.request.take log.identified).drop 1 ++ log.appended)

/-- A front written over the buffer, with its first byte replaced, and what follows. -/
theorem take_set_overwrite {buffer front : List UInt8} (first : UInt8) (size : Nat)
    (some : front ≠ []) :
    ((overwrite buffer 0 front).set 0 first).take (front.length + size) =
      first :: (front.drop 1 ++ slice buffer front.length size) := by
  obtain ⟨byte, rest, rfl⟩ := exists_cons_of_ne_nil some
  rw [overwrite, take_zero, nil_append, Nat.zero_add, cons_append,
    set_cons_zero, length_cons, Nat.add_right_comm, take_succ_cons,
    List.take_append, take_of_length_le (by omega), Nat.add_sub_cancel_left]
  rfl

/-- What was written becomes the payload. -/
theorem payload_buildPositiveResponse (draft : Draft connection)
    (active : connection.isResponseActive = true) (some : connection.identifiers ≠ [])
    (onTime : connection.log.late = false) :
    (connection.buildPositiveResponse connection.log.appended.length).payload =
        positivePayload connection.log ∧
      (connection.buildPositiveResponse connection.log.appended.length).payloadLength =
        (positivePayload connection.log).length ∧
      (connection.buildPositiveResponse connection.log.appended.length).sourceAddress =
        connection.responseSourceAddress ∧
      (connection.buildPositiveResponse connection.log.appended.length).targetAddress =
        connection.sourceAddress := by
  obtain ⟨_, _, maximum, _, inside⟩ := draft.taken active
  have few := draft.few
  have front : 0 < connection.identifiers.length := length_pos_iff.mpr some
  have identifiersLength : (connection.log.request.take connection.identifiers.length).length =
      connection.identifiers.length := congrArg List.length draft.identifiers.symm
  have uncovered : connection.restoredMessage.resetValidBytes.buffer = written connection := rfl
  have nothing : connection.restoredMessage.resetValidBytes.validBytes = 0 := rfl
  have max : connection.restoredMessage.resetValidBytes.maxPayloadLength =
      connection.message.buffer.length := by
    rw [maxPayloadLength_of_lt] <;> rw [uncovered, length_written draft]
    exact draft.size.2
  have fits : connection.restoredMessage.resetValidBytes.validBytes +
      connection.identifiers.length ≤
        connection.restoredMessage.resetValidBytes.maxPayloadLength := by
    rw [max, nothing]
    omega
  have overwritten : (overwrite (written connection) 0 connection.identifiers).length =
      connection.message.buffer.length := by
    rw [length_overwrite (by rw [length_written draft]; omega), length_written draft]
  refine ⟨?_, ?_, ?_, ?_⟩
  · rw [buildPositiveResponse, TransportMessage.foldl_append fits]
    simp only [TransportMessage.payload, TransportMessage.maxPayloadLength, uncovered, nothing,
      overwritten, Nat.zero_add]
    have small : connection.message.buffer.length % 2 ^ 16 = connection.message.buffer.length :=
      Nat.mod_eq_of_lt draft.size.2
    rw [small, Nat.max_eq_right (by omega), Nat.min_eq_left (by omega),
      take_set_overwrite _ _ some, draft.content active some onTime, positivePayload,
      draft.identified, ← draft.identifiers, draft.serviceId]
  · rw [buildPositiveResponse, TransportMessage.foldl_append fits, positivePayload,
      draft.identified, ← draft.identifiers]
    simp only [length_cons, List.length_append, length_drop]
    omega
  · rw [buildPositiveResponse, TransportMessage.foldl_append fits]
    rfl
  · rw [buildPositiveResponse, TransportMessage.foldl_append fits]
    rfl

end OpenBsw.Uds.ResponseContent
