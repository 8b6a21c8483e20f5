import OpenBsw.Transport.TransportMessage
import OpenBsw.Uds.DiagCodes
import OpenBsw.Uds.PositiveResponse

/-!
# Incoming diagnostic connections

An `IncomingDiagConnection` belongs to one request.  Its job answers in the message the
request came in, with as many ResponsePending in between as it likes, and may start a nested
request whose parts are answered by further jobs.  Everything that is sent goes through a
closure executed later, of which there is one of each kind, and is confirmed later still.
-/

namespace OpenBsw.Uds

open DiagReturnCode Transport

/-- The jobs a connection is given to, one after the other; the first answers the request. -/
abbrev JobId := Nat

/-- What a job does.  It uses the connection only while it works: after a ResponsePending and
after its answer it waits for `responseSent`. -/
inductive Phase
  | working
  | pendingAsked
  | answered
  | nesting
  | done
  deriving DecidableEq, Repr

inductive Message
  | pendingMessage
  | responseMessage
  deriving DecidableEq, Repr

/-- The stored closures of a connection with the arguments they are stored with, and the
delegate for the next part of a nested request. -/
inductive Closure
  | sendPositiveResponse (length : Nat) (sender : JobId)
  | sendNegativeResponse (responseCode : UInt8) (sender : JobId)
  | transportMessageProcessed (message : Message)
  | triggerNextNestedRequest
  deriving DecidableEq, Repr

namespace Closure

/-- Both are the same object in the connection. -/
def isSame : Closure → Closure → Bool
  | sendPositiveResponse _ _, sendPositiveResponse _ _ => true
  | sendNegativeResponse _ _, sendNegativeResponse _ _ => true
  | transportMessageProcessed _, transportMessageProcessed _ => true
  | triggerNextNestedRequest, triggerNextNestedRequest => true
  | _, _ => false

/-- A closure for a message; the delegate has no arguments that could be lost. -/
def isResponse : Closure → Bool
  | triggerNextNestedRequest => false
  | _ => true

end Closure

/-- A code that ends a request. -/
abbrev FinalCode := { code : UInt8 // code ≠ ISO_RESPONSE_PENDING }

theorem ok_final : OK ≠ ISO_RESPONSE_PENDING := by decide

/-- What the connection reads of a nested request.  Its part of the message and its lengths
are the request's own: here it says where the answer to a part goes and how long all answers
are. -/
structure NestedRequest where
  senderJob : JobId
  pendingResponseSender : Option JobId := none
  isPendingSent : Bool := false
  responseCode : FinalCode := ⟨OK, ok_final⟩
  responseLength : Nat := 0
  responseBuffer : Nat × Nat := (0, 0)
  deriving DecidableEq

/-- How the nested request goes on: a job takes its next part, no part is left, or a part is
refused with the code that the request keeps. -/
inductive NextRequest
  | processed (message : List UInt8) (responseBuffer : Nat × Nat)
  | exhausted (responseLength : Nat) (responseCode : FinalCode)
  | refused (responseCode : FinalCode) (next : NextRequest)
  deriving DecidableEq

/-- What a working job does with its connection.  `returned` is the code a job leaves to its
caller, which sends it and terminates the connection. -/
inductive Action
  | addIdentifier
  | suppressPositiveResponse
  | releaseRequestGetResponse
  | append (call : PositiveResponse.Append)
  | sendPositiveResponse
  | sendNegativeResponse (responseCode : UInt8)
  | returned (responseCode : FinalCode)
  | disableResponseTimeout
  | disableGlobalTimeout
  | startNestedRequest (prefixLength : Nat) (next : NextRequest)
  deriving DecidableEq

/-- What the surroundings of a connection answer while a closure is executed: whether each
message is taken for sending, what a nested request makes of the answer to a part and how it
goes on, and what jobs do in `responseSent`. -/
structure Surroundings where
  responseTaken : Bool := true
  pendingTaken : Bool := true
  handled : FinalCode := ⟨OK, ok_final⟩
  responseLength : Nat := 0
  next : NextRequest := .exhausted 0 ⟨OK, ok_final⟩
  reaction : List (JobId × Action) := []
  deriving DecidableEq

/-- A message handed to the message sender. -/
structure Sent where
  final : Bool
  taken : Bool
  message : TransportMessage
  deriving DecidableEq

/-- The answer of the first job. -/
inductive Answer
  | positive
  | negative (responseCode : UInt8)
  deriving DecidableEq

/-- What an observer of a connection writes down: what was sent, the terminations, a closure
stored over one that waits, and a counter that wraps; and of the calls that its job makes the
request as the job sees it, how many identifiers it has added, whether it has found the suppress
bit, what it has appended, an append into the first three bytes behind a negative response, and
the answer that it gives. -/
structure Log where
  sent : List Sent := []
  terminations : Nat := 0
  overwritten : Bool := false
  wrapped : Bool := false
  request : List UInt8
  identified : Nat := 0
  silent : Bool := false
  appended : List UInt8 := []
  late : Bool := false
  answer : Option Answer := none
  deriving DecidableEq

/-- A ResponsePending was sent. -/
def Log.pendingSent (log : Log) : Bool :=
  log.sent.any fun sent => sent.taken && !sent.final

/-- An incoming connection.  The response message is initialised with the buffer of the
request, so `message` is both; `hasResponse` says that the former exists.  The timeouts are
set or not. -/
structure IncomingDiagConnection where
  isOpen : Bool := true
  sourceAddress : Nat
  targetAddress : Nat
  responseSourceAddress : Nat
  serviceId : UInt8
  message : TransportMessage
  hasResponse : Bool := false
  identifiers : List UInt8 := []
  isResponseActive : Bool := false
  positiveResponse : PositiveResponse := {}
  negativeResponseTempBuffer : List UInt8 := [0, 0, 0]
  sender : Option JobId := none
  numPendingMessageProcessedCallbacks : Nat := 0
  connectionTerminationIsPending : Bool := false
  suppressPositiveResponse : Bool := false
  pendingActivated : Bool
  responsePendingIsPending : Bool := false
  responsePendingSent : Bool := false
  responsePendingIsBeingSent : Bool := false
  responsePendingTimeout : Bool
  globalPendingTimeout : Bool
  nestedRequest : Option NestedRequest := none
  scheduled : List Closure := []
  unconfirmed : List Message := []
  jobs : List Phase := [.working]
  log : Log
  deriving DecidableEq

namespace IncomingDiagConnection

def MAXIMUM_NUMBER_OF_IDENTIFIERS : Nat := 6

def PENDING_MESSAGE_PAYLOAD_LENGTH : Nat := 3

/-- `open` for the request in a message, with the response sent back from
`responseSourceAddress`. -/
def opened (request : TransportMessage) (responseSourceAddress : Nat)
    (activatePending : Bool) : IncomingDiagConnection where
  sourceAddress := request.sourceAddress
  targetAddress := request.targetAddress
  responseSourceAddress
  serviceId := request.buffer.getD 0 0
  message := request
  pendingActivated := activatePending
  responsePendingTimeout := activatePending
  globalPendingTimeout := activatePending
  log := { request := request.buffer }

/-! ## Counting and scheduling -/

/-- The counter has eight bits. -/
def increment (connection : IncomingDiagConnection) : IncomingDiagConnection :=
  { connection with
    numPendingMessageProcessedCallbacks :=
      (connection.numPendingMessageProcessedCallbacks + 1) % 256
    log.wrapped :=
      connection.log.wrapped || connection.numPendingMessageProcessedCallbacks == 255 }

def decrement (connection : IncomingDiagConnection) : IncomingDiagConnection :=
  { connection with
    numPendingMessageProcessedCallbacks :=
      (connection.numPendingMessageProcessedCallbacks + 255) % 256
    log.wrapped :=
      connection.log.wrapped || connection.numPendingMessageProcessedCallbacks == 0 }

/-- `async::execute`: an object that waits already keeps its place, with the arguments stored
last. -/
def execute (connection : IncomingDiagConnection) (closure : Closure) :
    IncomingDiagConnection :=
  if connection.scheduled.any closure.isSame then
    { connection with
      scheduled := connection.scheduled.map fun waiting =>
        if closure.isSame waiting then closure else waiting
      log.overwritten := connection.log.overwritten || closure.isResponse }
  else { connection with scheduled := connection.scheduled ++ [closure] }

def setPhase (connection : IncomingDiagConnection) (job : JobId) (phase : Phase) :
    IncomingDiagConnection :=
  { connection with jobs := connection.jobs.set job phase }

/-- What the nested request remembers. -/
def withNested (connection : IncomingDiagConnection) (nested : NestedRequest) :
    IncomingDiagConnection :=
  { connection with nestedRequest := some nested }

def restartPendingTimeout (connection : IncomingDiagConnection) : IncomingDiagConnection :=
  { connection with responsePendingTimeout := connection.pendingActivated }

/-! ## The response in the buffer of the request -/

/-- `addIdentifier`, before a response is taken and for bytes inside the message. -/
def addIdentifier (connection : IncomingDiagConnection) : IncomingDiagConnection :=
  if connection.isResponseActive || connection.nestedRequest.isSome then connection
  else if connection.identifiers.length < MAXIMUM_NUMBER_OF_IDENTIFIERS ∧
      connection.identifiers.length < connection.message.buffer.length then
    { connection with
      identifiers := connection.identifiers ++
        [connection.message.buffer.getD connection.identifiers.length 0] }
  else connection

/-- `checkSuppressPositiveResponseBit` of a job that finds the bit in the byte behind its
identifiers, the first of which is the service id: it removes the bit. -/
def checkSuppressPositiveResponseBit (connection : IncomingDiagConnection) :
    IncomingDiagConnection :=
  if connection.isResponseActive || connection.identifiers.isEmpty then connection
  else if connection.nestedRequest.isSome then
    { connection with suppressPositiveResponse := true }
  else
    { connection with
      suppressPositiveResponse := true
      message.buffer :=
        connection.message.buffer.modify connection.identifiers.length (· &&& 0x7F) }

def releaseRequestGetResponse (connection : IncomingDiagConnection) : IncomingDiagConnection :=
  match connection.nestedRequest with
  | some nested =>
    { connection with
      isResponseActive := true
      positiveResponse :=
        PositiveResponse.init nested.responseBuffer.1 nested.responseBuffer.2 }
  | none =>
    let message :=
      if connection.hasResponse then connection.message
      else { connection.message with payloadLength := 0, validBytes := 0 }
    { connection with
      message
      hasResponse := true
      isResponseActive := true
      positiveResponse := PositiveResponse.init connection.identifiers.length
        (message.maxPayloadLength - connection.identifiers.length) }

/-- The response of a job that has not taken one yet is taken first. -/
def takeResponse (connection : IncomingDiagConnection) : IncomingDiagConnection :=
  if connection.isResponseActive then connection else connection.releaseRequestGetResponse

/-- A negative response is in the message. -/
def isNegative (connection : IncomingDiagConnection) : Bool :=
  connection.message.buffer.getD 0 0 == NEGATIVE_RESPONSE_IDENTIFIER

/-- One of the append calls; what does not fit is refused. -/
def append (connection : IncomingDiagConnection) (call : PositiveResponse.Append) :
    IncomingDiagConnection :=
  let written :=
    PositiveResponse.append (connection.message.buffer, connection.positiveResponse) call
  { connection with
    message.buffer := written.1
    positiveResponse := written.2 }

/-! ## Requests to send -/

/-- `sendPositiveResponseInternal`, which refuses while another response is sent. -/
def sendPositiveResponseInternal (connection : IncomingDiagConnection) (length : Nat)
    (sender : JobId) : IncomingDiagConnection :=
  if connection.isOpen = false ∨ connection.sender.isSome ∨ connection.hasResponse = false then
    connection
  else
    (connection.increment.execute (.sendPositiveResponse length sender)).setPhase sender
      .answered

def sendPositiveResponse (connection : IncomingDiagConnection) (sender : JobId) :
    IncomingDiagConnection :=
  let connection := connection.takeResponse
  connection.sendPositiveResponseInternal connection.positiveResponse.length sender

def sendNegativeResponse (connection : IncomingDiagConnection) (responseCode : UInt8)
    (sender : JobId) : IncomingDiagConnection :=
  if connection.isOpen = false then connection
  else
    let connection := connection.takeResponse
    if connection.hasResponse = false then connection
    else
      (connection.increment.execute (.sendNegativeResponse responseCode sender)).setPhase sender
        (if responseCode = ISO_RESPONSE_PENDING then .pendingAsked else .answered)

/-! ## Nested requests and termination -/

/-- The first job is answered for by the connection. -/
def endNestedRequest (connection : IncomingDiagConnection) (nested : NestedRequest) :
    IncomingDiagConnection :=
  let connection := { connection with nestedRequest := none }
  if nested.responseCode.1 = OK then
    connection.sendPositiveResponseInternal nested.responseLength nested.senderJob
  else connection.sendNegativeResponse nested.responseCode.1 nested.senderJob

/-- The loop of `triggerNextNestedRequest` with the nested request it goes through. -/
def triggerNextNestedRequest (connection : IncomingDiagConnection) (nested : NestedRequest) :
    NextRequest → IncomingDiagConnection
  | .processed message responseBuffer =>
    if nested.responseCode.1 = OK then
      { connection with
        isResponseActive := false
        message.buffer := message
        nestedRequest := some { nested with responseBuffer }
        jobs := connection.jobs ++ [.working] }
    else connection.endNestedRequest nested
  | .exhausted responseLength responseCode =>
    if nested.responseCode.1 = OK then
      connection.endNestedRequest { nested with responseLength, responseCode }
    else connection.endNestedRequest nested
  | .refused responseCode next =>
    if nested.responseCode.1 = OK then
      triggerNextNestedRequest { connection with isResponseActive := false }
        { nested with responseCode } next
    else connection.endNestedRequest nested

/-- `terminate` with `terminateNestedRequest` at its front. -/
def terminate (connection : IncomingDiagConnection) : IncomingDiagConnection :=
  match connection.nestedRequest with
  | some nested =>
    if nested.responseCode.1 = OK then connection.execute .triggerNextNestedRequest
    else connection.endNestedRequest nested
  | none =>
    if connection.isOpen = false then connection
    else if connection.numPendingMessageProcessedCallbacks ≠ 0 then
      { connection with connectionTerminationIsPending := true }
    else
      { connection with
        isOpen := false
        responsePendingTimeout := false
        globalPendingTimeout := false
        connectionTerminationIsPending := false
        sender := none
        log.terminations := connection.log.terminations + 1 }

/-- No nested request runs already, and its prefix fits into the identifiers. -/
def startNestedRequest (connection : IncomingDiagConnection) (sender : JobId)
    (prefixLength : Nat) (next : NextRequest) : IncomingDiagConnection :=
  if connection.nestedRequest.isSome ∨ MAXIMUM_NUMBER_OF_IDENTIFIERS < prefixLength then
    connection
  else
    let connection := connection.releaseRequestGetResponse.setPhase sender .nesting
    let nested : NestedRequest := { senderJob := sender }
    triggerNextNestedRequest
      { connection with
        identifiers := connection.identifiers.take prefixLength ++
          List.replicate (prefixLength - connection.identifiers.length) 0
        nestedRequest := some nested } nested next

/-! ## Jobs -/

/-- The call of a job. -/
def perform (connection : IncomingDiagConnection) (job : JobId) :
    Action → IncomingDiagConnection
  | .addIdentifier => connection.addIdentifier
  | .suppressPositiveResponse => connection.checkSuppressPositiveResponseBit
  | .releaseRequestGetResponse => connection.releaseRequestGetResponse
  | .append call => connection.takeResponse.append call
  | .sendPositiveResponse => connection.sendPositiveResponse job
  | .sendNegativeResponse responseCode => connection.sendNegativeResponse responseCode job
  | .returned responseCode =>
    if connection.nestedRequest.isSome then connection
    else (connection.sendNegativeResponse responseCode.1 job).terminate
  | .disableResponseTimeout => { connection with responsePendingTimeout := false }
  | .disableGlobalTimeout => { connection with globalPendingTimeout := false }
  | .startNestedRequest prefixLength next =>
    connection.startNestedRequest job prefixLength next

/-- What the observer writes down before a call.  Identifiers are added and the bit is looked
for before a response is taken; what does not fit behind the identifiers is not appended. -/
def noted (connection : IncomingDiagConnection) : Action → Log
  | .addIdentifier =>
    if connection.isResponseActive = false ∧
        connection.log.identified < MAXIMUM_NUMBER_OF_IDENTIFIERS ∧
        connection.log.identified < connection.log.request.length then
      { connection.log with identified := connection.log.identified + 1 }
    else connection.log
  | .suppressPositiveResponse =>
    if connection.isResponseActive = false ∧ connection.log.identified ≠ 0 then
      { connection.log with
        silent := true
        request := connection.log.request.modify connection.log.identified (· &&& 0x7F) }
    else connection.log
  | .releaseRequestGetResponse => { connection.log with appended := [] }
  | .append call =>
    let position := connection.log.identified + connection.log.appended.length
    if position + call.bytes.length ≤ connection.log.request.length then
      { connection.log with
        appended := connection.log.appended ++ call.bytes
        late := connection.log.late || (connection.isNegative && !call.bytes.isEmpty &&
          decide (position < DiagCodes.NEGATIVE_RESPONSE_MESSAGE_LENGTH)) }
    else connection.log
  | .sendPositiveResponse => { connection.log with answer := some .positive }
  | .sendNegativeResponse responseCode =>
    if responseCode = ISO_RESPONSE_PENDING then connection.log
    else { connection.log with answer := some (.negative responseCode) }
  | .returned responseCode => { connection.log with answer := some (.negative responseCode.1) }
  | _ => connection.log

def note (connection : IncomingDiagConnection) (action : Action) : IncomingDiagConnection :=
  { connection with log := connection.noted action }

/-- A job that works calls its connection. -/
def act (connection : IncomingDiagConnection) (job : JobId) (action : Action) :
    IncomingDiagConnection :=
  if connection.jobs[job]? ≠ some .working ∨ connection.isOpen = false then connection
  else (connection.note action).perform job action

def react (connection : IncomingDiagConnection) (reaction : List (JobId × Action)) :
    IncomingDiagConnection :=
  reaction.foldl (fun connection call => connection.act call.1 call.2) connection

/-- The callback to a job: after a ResponsePending it works on, after its answer it terminates
the connection. -/
def responseSent (connection : IncomingDiagConnection) (job : JobId)
    (reaction : List (JobId × Action)) : IncomingDiagConnection :=
  if connection.jobs[job]? = some .pendingAsked then
    (connection.setPhase job .working).react reaction
  else (connection.setPhase job .done).terminate

/-- The callback to `_sender`, where there is one. -/
def senderResponseSent (connection : IncomingDiagConnection)
    (reaction : List (JobId × Action)) : IncomingDiagConnection :=
  match connection.sender with
  | some sender => { connection with sender := none }.responseSent sender reaction
  | none => connection

/-! ## Sending -/

/-- `buildResponsePendingTransportMessage`. -/
def buildResponsePendingTransportMessage (connection : IncomingDiagConnection) :
    TransportMessage where
  id := 1
  buffer := [NEGATIVE_RESPONSE_IDENTIFIER, connection.serviceId, ISO_RESPONSE_PENDING]
  sourceAddress := connection.responseSourceAddress
  targetAddress := connection.sourceAddress
  payloadLength := PENDING_MESSAGE_PAYLOAD_LENGTH
  validBytes := 3

/-- A message goes to the message sender, which takes it or not. -/
def handOver (connection : IncomingDiagConnection) (sent : Sent) : IncomingDiagConnection :=
  { connection with log.sent := connection.log.sent ++ [sent] }

/-- `sendResponsePending` where it is guarded by the connection being open. -/
def sendResponsePending (connection : IncomingDiagConnection) (taken : Bool) :
    IncomingDiagConnection :=
  if connection.isOpen = false then connection
  else
    let connection := connection.handOver
      { final := false, taken, message := connection.buildResponsePendingTransportMessage }
    if taken then
      { connection.increment with
        responsePendingSent := true
        responsePendingIsBeingSent := true
        unconfirmed := connection.unconfirmed ++ [.pendingMessage] }
    else connection

def sendResponse (connection : IncomingDiagConnection) (around : Surroundings) :
    IncomingDiagConnection :=
  if connection.hasResponse = false then connection
  else
    let final := connection.sender.any fun sender => connection.jobs[sender]? == some .answered
    let connection := connection.handOver
      { final, taken := around.responseTaken, message := connection.message }
    if around.responseTaken then
      { connection with unconfirmed := connection.unconfirmed ++ [.responseMessage] }
    else
      let connection := connection.decrement.senderResponseSent around.reaction
      if connection.connectionTerminationIsPending ∧
          connection.numPendingMessageProcessedCallbacks = 0 then
        connection.terminate
      else connection

/-- The response message with its addresses, and without the negative response that may have
been sent in it before. -/
def restoredMessage (connection : IncomingDiagConnection) : TransportMessage :=
  { connection.message with
    sourceAddress := connection.responseSourceAddress
    targetAddress := connection.sourceAddress
    buffer :=
      if connection.isNegative then
        Bytes.overwrite connection.message.buffer 0 connection.negativeResponseTempBuffer
      else connection.message.buffer }

/-- The payload of a positive response: the identifiers are written in front and the service id
over the first of them. -/
def buildPositiveResponse (connection : IncomingDiagConnection) (length : Nat) :
    TransportMessage :=
  let message := connection.identifiers.foldl (fun message identifier =>
    message.append [identifier]) connection.restoredMessage.resetValidBytes
  let validBytes := max 1 message.validBytes
  { message with
    buffer := message.buffer.set 0 (connection.serviceId + UInt8.ofNat POSITIVE_RESPONSE_OFFSET)
    validBytes := min (validBytes + length) message.maxPayloadLength
    payloadLength := connection.identifiers.length + length }

/-- The payload of a negative response. -/
def buildNegativeResponse (connection : IncomingDiagConnection) (responseCode : UInt8) :
    TransportMessage :=
  let message : TransportMessage :=
    { connection.message with
      payloadLength := DiagCodes.NEGATIVE_RESPONSE_MESSAGE_LENGTH
      sourceAddress := connection.responseSourceAddress
      targetAddress := connection.sourceAddress }
  ((message.resetValidBytes.append [NEGATIVE_RESPONSE_IDENTIFIER]).append
    [connection.serviceId]).append [responseCode]

/-- The backup of the payload is made by the first negative response only. -/
def backup (connection : IncomingDiagConnection) : List UInt8 :=
  if connection.isNegative then connection.negativeResponseTempBuffer
  else connection.message.buffer.take DiagCodes.NEGATIVE_RESPONSE_MESSAGE_LENGTH

/-- The codes with which a functional request is not answered. -/
def isSuppressed (responseCode : UInt8) : Bool :=
  responseCode == ISO_SERVICE_NOT_SUPPORTED || responseCode == ISO_SUBFUNCTION_NOT_SUPPORTED ||
    responseCode == ISO_REQUEST_OUT_OF_RANGE ||
    responseCode == ISO_SUBFUNCTION_NOT_SUPPORTED_IN_ACTIVE_SESSION ||
    responseCode == ISO_SERVICE_NOT_SUPPORTED_IN_ACTIVE_SESSION

/-- The response is sent now, or after the ResponsePending that is being sent. -/
def sendOrDelay (connection : IncomingDiagConnection) (around : Surroundings) :
    IncomingDiagConnection :=
  if connection.responsePendingIsBeingSent then connection else connection.sendResponse around

/-- A response that is suppressed counts as sent. -/
def ignoreResponse (connection : IncomingDiagConnection) (around : Surroundings) :
    IncomingDiagConnection :=
  connection.decrement.senderResponseSent around.reaction

def asyncSendPositiveResponse (connection : IncomingDiagConnection) (length : Nat)
    (sender : JobId) (around : Surroundings) : IncomingDiagConnection :=
  match connection.nestedRequest with
  | some nested =>
    (connection.decrement.withNested
      { nested with
        responseCode := around.handled
        responseLength := around.responseLength }).responseSent sender around.reaction
  | none =>
    let sends := !connection.suppressPositiveResponse || connection.responsePendingSent
    let connection :=
      { connection with
        message := connection.buildPositiveResponse length
        sender := some sender }
    if sends then connection.sendOrDelay around else connection.ignoreResponse around

/-- The nested part of `asyncSendNegativeResponse`. -/
def asyncSendNestedNegativeResponse (connection : IncomingDiagConnection)
    (nested : NestedRequest) (responseCode : UInt8) (sender : JobId) (around : Surroundings) :
    IncomingDiagConnection :=
  let connection := connection.decrement
  if responseCode ≠ ISO_RESPONSE_PENDING then
    (connection.withNested { nested with responseCode := around.handled }).responseSent sender
      around.reaction
  else if nested.isPendingSent = false then
    let connection :=
      { connection.withNested { nested with pendingResponseSender := some sender } with
        responsePendingIsPending := connection.numPendingMessageProcessedCallbacks ≠ 0 }
    (if connection.responsePendingIsPending then connection
      else connection.sendResponsePending around.pendingTaken).restartPendingTimeout
  else connection.responseSent sender around.reaction

def asyncSendNegativeResponse (connection : IncomingDiagConnection) (responseCode : UInt8)
    (sender : JobId) (around : Surroundings) : IncomingDiagConnection :=
  match connection.nestedRequest with
  | some nested => connection.asyncSendNestedNegativeResponse nested responseCode sender around
  | none =>
    let sends := !(TransportConfiguration.isFunctionalAddress connection.targetAddress &&
      isSuppressed responseCode)
    let isPending := responseCode == ISO_RESPONSE_PENDING
    let connection :=
      { connection with
        message := connection.buildNegativeResponse responseCode
        negativeResponseTempBuffer := connection.backup
        sender := some sender }
    if sends then
      if connection.responsePendingIsBeingSent = false ∧ isPending then
        connection.restartPendingTimeout.sendOrDelay around
      else connection.sendOrDelay around
    else connection.ignoreResponse around

/-! ## Confirmations and timeouts -/

/-- What follows when all responses have been sent. -/
def allSent (connection : IncomingDiagConnection) (pendingTaken : Bool) :
    IncomingDiagConnection :=
  if connection.numPendingMessageProcessedCallbacks ≠ 0 then connection
  else if connection.connectionTerminationIsPending then connection.terminate
  else if connection.responsePendingIsPending then
    { connection with responsePendingIsPending := false }.sendResponsePending pendingTaken
  else connection

/-- The part of `asyncTransportMessageProcessed` for a ResponsePending. -/
def pendingMessageProcessed (connection : IncomingDiagConnection) (around : Surroundings) :
    IncomingDiagConnection :=
  match connection.nestedRequest with
  | some nested =>
    let connection := connection.withNested
      { nested with isPendingSent := true, pendingResponseSender := none }
    match nested.pendingResponseSender with
    | some sender => connection.responseSent sender around.reaction
    | none => connection
  | none =>
    -- a response that waited for the ResponsePending is sent now
    (if connection.sender.isSome then connection.sendResponse around
      else connection).allSent around.pendingTaken

def asyncTransportMessageProcessed (connection : IncomingDiagConnection) (message : Message)
    (around : Surroundings) : IncomingDiagConnection :=
  let connection := connection.decrement
  match message with
  | .pendingMessage =>
    { connection with responsePendingIsBeingSent := false }.pendingMessageProcessed around
  | .responseMessage =>
    (connection.senderResponseSent around.reaction).allSent around.pendingTaken

/-- `expired` for the timeout of ResponsePending. -/
def responsePendingExpired (connection : IncomingDiagConnection) (pendingTaken : Bool) :
    IncomingDiagConnection :=
  let connection :=
    { connection with
      responsePendingIsPending := connection.numPendingMessageProcessedCallbacks ≠ 0 }
  (if connection.responsePendingIsPending then connection
    else connection.sendResponsePending pendingTaken).restartPendingTimeout

/-- The timeout of the whole request is over, and no ResponsePending is sent any more. -/
def cancelTimeouts (connection : IncomingDiagConnection) : IncomingDiagConnection :=
  { connection with globalPendingTimeout := false, responsePendingTimeout := false }

/-- `expired` for the timeout of the whole request. -/
def globalPendingExpired (connection : IncomingDiagConnection) : IncomingDiagConnection :=
  connection.cancelTimeouts.terminate

/-- A closure that was scheduled is executed. -/
def run (connection : IncomingDiagConnection) (closure : Closure) (around : Surroundings) :
    IncomingDiagConnection :=
  match closure with
  | .sendPositiveResponse length sender =>
    connection.asyncSendPositiveResponse length sender around
  | .sendNegativeResponse responseCode sender =>
    connection.asyncSendNegativeResponse responseCode sender around
  | .transportMessageProcessed message =>
    connection.asyncTransportMessageProcessed message around
  | .triggerNextNestedRequest =>
    match connection.nestedRequest with
    | some nested => connection.triggerNextNestedRequest nested around.next
    | none => connection

/-! ## Runs -/

/-- A job calls the connection, the first scheduled closure is executed, a message that was
taken is confirmed, or a timeout expires. -/
inductive Event
  | act (job : JobId) (action : Action)
  | execute (around : Surroundings)
  | confirm (message : Message)
  | responsePendingExpired (pendingTaken : Bool)
  | globalPendingExpired
  deriving DecidableEq

/-- One event.  What cannot happen changes nothing; a connection that is closed is given
back. -/
def step (connection : IncomingDiagConnection) (event : Event) : IncomingDiagConnection :=
  if connection.isOpen = false then connection
  else
    match event with
    | .act job action => connection.act job action
    | .execute around =>
      match connection.scheduled with
      | closure :: rest => { connection with scheduled := rest }.run closure around
      | [] => connection
    | .confirm message =>
      if message ∈ connection.unconfirmed then
        { connection with
          unconfirmed := connection.unconfirmed.erase message }.execute
            (.transportMessageProcessed message)
      else connection
    | .responsePendingExpired pendingTaken =>
      if connection.responsePendingTimeout then
        connection.responsePendingExpired pendingTaken
      else connection
    | .globalPendingExpired =>
      if connection.globalPendingTimeout then connection.globalPendingExpired
      else connection

end IncomingDiagConnection

end OpenBsw.Uds
