import OpenBsw.Data.ForwardCopy
import OpenBsw.Uds.DiagCodes
import OpenBsw.Uds.PositiveResponse

/-!
# Nested requests

`MultipleReadDataByIdentifier` answers a request for several identifiers inside the message
the request came in.  The identifiers are stored at the end of the message; each of them is
turned into a request of its own, and the answers grow from the front.
-/

namespace OpenBsw.Uds

open Bytes DiagReturnCode

/-- An identifier as the two bytes of a request. -/
abbrev DataIdentifier := UInt8 × UInt8

def DataIdentifier.bytes (identifier : DataIdentifier) : List UInt8 :=
  [identifier.1, identifier.2]

/-- Any code but the one that says the job will answer. -/
abbrev NegativeCode := { code : UInt8 // code ≠ OK }

/-- The answer of a job; a negative one is sent or just returned. -/
inductive Reply
  | positive
  | negative (code : NegativeCode) (sent : Bool)
  deriving DecidableEq

/-- What becomes of one identifier: a code is returned before a job for it is executed, or a
job is executed, with the response length it declares and what it appends to the response if
it takes it. -/
inductive DidJob
  | returned (code : NegativeCode)
  | executed (responseLength : Option Nat) (appended : Option (List PositiveResponse.Append))
      (reply : Reply)
  deriving DecidableEq

/-- The nested request over the message it is answered in.  The buffer begins at
`messageBuffer` and ends with the message. -/
structure NestedDiagRequest where
  message : List UInt8
  messageBuffer : Nat
  storedRequestLength : Nat
  responseLength : Nat := 0
  numIdentifiers : Nat := 0
  numPrefixIdentifiers : Nat := 0
  responseCode : UInt8 := OK
  nestedRequest : List UInt8 := []
  fCombinedResponseCode : UInt8 := ISO_REQUEST_OUT_OF_RANGE
  deriving DecidableEq

namespace NestedDiagRequest

def prefixLength : Nat := 1

def READ_DATA_BY_IDENTIFIER : UInt8 := 0x22

def bufferSize (nested : NestedDiagRequest) : Nat :=
  nested.message.length - nested.messageBuffer

/-- `etl::copy` between two parts of one message: nothing to do where they are the same. -/
def copyInside (message : List UInt8) (source target size : Nat) : List UInt8 :=
  if source = target then message else copyForward message source target size

/-- `init`, for a request of `requestLength` bytes that stands behind the prefix. -/
def init (message : List UInt8) (requestLength : Nat) : NestedDiagRequest where
  message :=
    if 0 < requestLength then
      copyInside message prefixLength (message.length - requestLength) requestLength
    else message
  messageBuffer := prefixLength
  storedRequestLength := requestLength

/-! ## Preparing the request for the next identifier -/

/-- `defaultCheckResponse` in `handleNestedResponseCode`. -/
def handleNestedResponseCode (nested : NestedDiagRequest) (code : UInt8) : NestedDiagRequest :=
  if code = NOT_RESPONSIBLE ∨ code = ISO_REQUEST_OUT_OF_RANGE then nested
  else if code = OK then { nested with fCombinedResponseCode := code }
  else { nested with fCombinedResponseCode := code, responseCode := code }

def prepareNestedRequest (nested : NestedDiagRequest) : NestedDiagRequest :=
  if 2 ≤ nested.storedRequestLength then
    { nested with
      storedRequestLength := nested.storedRequestLength - 2
      nestedRequest :=
        READ_DATA_BY_IDENTIFIER ::
          slice nested.message (nested.message.length - nested.storedRequestLength) 2 }
  else { nested with responseCode := nested.fCombinedResponseCode, nestedRequest := [] }

def prepareNextRequest (nested : NestedDiagRequest) : NestedDiagRequest :=
  if nested.responseCode = OK then nested.prepareNestedRequest else nested

/-! ## Answering one identifier -/

/-- `static_cast<uint16_t>` of a difference of 16-bit numbers. -/
def getMaxNestedResponseLength (nested : NestedDiagRequest) : Nat :=
  (nested.bufferSize % 0x10000 + 0x20000 - nested.storedRequestLength - nested.numIdentifiers)
    % 0x10000

/-- The identifiers behind the prefix are copied to the front of the buffer; the rest of it in
front of the stored request is the window of the job. -/
def getResponseBuffer (nested : NestedDiagRequest) : NestedDiagRequest × PositiveResponse :=
  let nested :=
    if prefixLength ≤ nested.numIdentifiers then
      let numPrefixIdentifiers := nested.numIdentifiers - prefixLength
      let identifiers := slice nested.nestedRequest prefixLength numPrefixIdentifiers
      { nested with
        numPrefixIdentifiers
        message :=
          if nested.bufferSize < identifiers.length then nested.message
          else overwrite nested.message nested.messageBuffer identifiers }
    else nested
  (nested, PositiveResponse.init (nested.messageBuffer + nested.numPrefixIdentifiers)
    (nested.bufferSize - nested.storedRequestLength - nested.numPrefixIdentifiers))

def setNestedResponseLength (nested : NestedDiagRequest) (responseLength : Nat) :
    NestedDiagRequest :=
  let length := (responseLength + nested.numPrefixIdentifiers) % 0x10000
  { nested with
    messageBuffer := nested.messageBuffer + length
    responseLength := (nested.responseLength + length) % 0x10000 }.handleNestedResponseCode OK

def handleOverflow (nested : NestedDiagRequest) : NestedDiagRequest :=
  { nested with responseCode := ISO_RESPONSE_TOO_LONG }

/-- The nested request with what a reader is told of it: the identifiers for which jobs were
executed, and for each response that was taken the maximum length the job could ask for and
the size of the window it got. -/
structure Reading where
  nested : NestedDiagRequest
  executed : List DataIdentifier := []
  lengths : List (Nat × Nat) := []
  deriving DecidableEq

/-- The job takes the response and appends to it. -/
def takeResponse (reading : Reading) (appended : List PositiveResponse.Append) :
    Reading × PositiveResponse :=
  let nested := reading.nested.getResponseBuffer.1
  let window := reading.nested.getResponseBuffer.2
  let written := appended.foldl PositiveResponse.append (nested.message, window)
  ({ reading with
    nested := { nested with message := written.1 }
    lengths := reading.lengths ++
      [(reading.nested.getMaxNestedResponseLength, window.maximumLength)] }, written.2)

def handleCode (reading : Reading) (code : UInt8) : Reading :=
  { reading with nested := reading.nested.handleNestedResponseCode code }

/-- `asyncSendPositiveResponse` of a nested request. -/
def sendPositiveResponse (reading : Reading) (response : PositiveResponse) : Reading :=
  let nested := reading.nested.setNestedResponseLength response.length
  { reading with nested := if response.isOverflow then nested.handleOverflow else nested }

/-- `execute` up to the response.  The service adds one identifier and the job two. -/
def processNextRequest (job : DidJob) (reading : Reading) : Reading :=
  match job with
  | .returned code =>
    handleCode
      { reading with
        nested := { reading.nested with numIdentifiers := 1, numPrefixIdentifiers := 0 } } code
  | .executed responseLength appended reply =>
    let reading :=
      { reading with
        nested := { reading.nested with numIdentifiers := 3, numPrefixIdentifiers := 0 } }
    if responseLength.any fun length =>
        decide (reading.nested.getMaxNestedResponseLength < length) then
      handleCode reading ISO_RESPONSE_TOO_LONG
    else
      match appended, reply with
      | some appended, .positive =>
        sendPositiveResponse (takeResponse reading appended).1
          (takeResponse reading appended).2
      | some appended, .negative code _ => handleCode (takeResponse reading appended).1 code
      -- sending takes a response that the job has not taken itself
      | none, .positive =>
        sendPositiveResponse { reading with nested := reading.nested.getResponseBuffer.1 }
          reading.nested.getResponseBuffer.2
      | none, .negative code true =>
        handleCode { reading with nested := reading.nested.getResponseBuffer.1 } code
      | none, .negative code false => handleCode reading code

/-! ## All identifiers -/

/-- The loop of `triggerNextNestedRequest`, also where a job answers later and the loop is
entered again.  Each round is told which job is executed. -/
def triggerNextNestedRequest (jobs : Nat → DataIdentifier → DidJob) :
    Nat → Reading → Option Reading
  | 0, _ => none
  | rounds + 1, reading =>
    if reading.nested.responseCode ≠ OK then some reading
    else
      let nested := reading.nested.prepareNextRequest
      if nested.responseCode = OK ∧ 0 < nested.nestedRequest.length then
        let identifier := (nested.nestedRequest.getD 1 0, nested.nestedRequest.getD 2 0)
        triggerNextNestedRequest jobs rounds
          (processNextRequest (jobs reading.executed.length identifier)
            { reading with nested, executed := reading.executed ++ [identifier] })
      else some { reading with nested }

/-- The message that `endNestedRequest` leads to. -/
def endNestedRequest (nested : NestedDiagRequest) : List UInt8 :=
  if nested.responseCode = OK then
    (overwrite nested.message 0
      [UInt8.ofNat (READ_DATA_BY_IDENTIFIER.toNat + POSITIVE_RESPONSE_OFFSET)]).take
      (prefixLength + nested.responseLength)
  else [NEGATIVE_RESPONSE_IDENTIFIER, READ_DATA_BY_IDENTIFIER, nested.responseCode]

end NestedDiagRequest

end OpenBsw.Uds
