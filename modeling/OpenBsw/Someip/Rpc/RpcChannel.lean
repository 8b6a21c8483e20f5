import OpenBsw.Transition.System

/-!
# Remote calls

A channel holds the closure of its pending call, the handler a list of the
channels that wait, and the asynchronous layer a timeout for each channel.
Closures are numbered by the calls they belong to.  For every call the model
records what `callMethod` returned, whether a response object was supplied, and
how often and why its closure was invoked.
-/

namespace OpenBsw.Someip

inductive ServiceResultCode
  | RPC_POSITIVE_RESPONSE
  | COULD_NOT_DELIVER
  | BUSY_ERROR
  | OUT_OF_MEMORY
  | RPC_SENT_SUCCESSFULLY
  | RPC_SENT_SUCCESSFULLY_NO_RESPONSE_EXPECTED
  | RPC_ERROR_NO_CHANNEL
  | RPC_TIMEOUT
  | RPC_UNDEFINED_ERROR
  | RPC_SERVICE_NOT_AVAILABLE
  | RPC_METHOD_NOT_AVAILABLE
  | RPC_WRONG_PROTOCOL_VERSION
  | RPC_WRONG_INTERFACE_VERSION
  | RPC_INVALID_PAYLOAD
  | UNDEFINED_RESULT
  deriving DecidableEq, Repr

/-- The result for the return code of a message. -/
def getRpcErrorCode (returnCode : UInt8) : ServiceResultCode :=
  if returnCode = 0x00 then .RPC_POSITIVE_RESPONSE
  else if returnCode = 0x01 then .RPC_UNDEFINED_ERROR
  else if returnCode = 0x02 then .RPC_SERVICE_NOT_AVAILABLE
  else if returnCode = 0x03 then .RPC_METHOD_NOT_AVAILABLE
  else if returnCode = 0x07 then .RPC_WRONG_PROTOCOL_VERSION
  else if returnCode = 0x08 then .RPC_WRONG_INTERFACE_VERSION
  else if returnCode = 0x09 then .RPC_INVALID_PAYLOAD
  else .RPC_UNDEFINED_ERROR

structure RpcChannel (IPEndpoint : Type) where
  serviceId : UInt16
  clientId : UInt16
  sessionId : UInt16
  /-- The channel has a network channel. -/
  isOpen : Bool
  remoteIp : IPEndpoint
  localPort : Option UInt16
  /-- A response object is set. -/
  pendingResponse : Bool
  /-- The call whose closure is set. -/
  pendingCallback : Option Nat
  /-- The call for which the timeout is scheduled. -/
  timeout : Option Nat

/-- A response or an error message, with the call that it answers. -/
structure RpcReply (IPEndpoint : Type) where
  serviceId : UInt16
  clientId : UInt16
  sessionId : UInt16
  sourceAddress : IPEndpoint
  localPort : UInt16
  returnCode : UInt8
  /-- The payload can be parsed. -/
  decodes : Bool
  answers : Nat

/-- A call of `callMethod`, with what the layers below make of it. -/
structure CallAttempt where
  channel : Nat
  /-- A response object is supplied. -/
  hasResponse : Bool
  hasNetworkChannel : Bool
  headerFits : Bool
  payloadFits : Bool
  sent : Bool

/-- Why a closure was invoked. -/
inductive Cause (IPEndpoint : Type)
  | response (message : RpcReply IPEndpoint)
  | error (message : RpcReply IPEndpoint)
  | timeout (scheduledFor : Nat)

structure Completion (IPEndpoint : Type) where
  result : ServiceResultCode
  cause : Cause IPEndpoint

/-- The calls that the closure of a call makes when it is invoked. -/
abbrev Reactions := Nat → ServiceResultCode → List CallAttempt

structure RpcSystem (IPEndpoint : Type) where
  channels : Nat → RpcChannel IPEndpoint
  rpcChannelList : List Nat
  calls : Nat
  /-- What `callMethod` returned. -/
  returned : Nat → Option ServiceResultCode
  /-- A response object was supplied. -/
  supplied : Nat → Bool
  /-- The invocations of the closure. -/
  completions : Nat → List (Completion IPEndpoint)

namespace RpcSystem

variable {IPEndpoint : Type}

def setChannel (system : RpcSystem IPEndpoint) (channel : Nat) (value : RpcChannel IPEndpoint) :
    RpcSystem IPEndpoint :=
  { system with channels := Function.update system.channels channel value }

/-! ## The handler's list -/

def registerChannel (channel : Nat) (system : RpcSystem IPEndpoint) : RpcSystem IPEndpoint :=
  if channel ∈ system.rpcChannelList then system
  else { system with rpcChannelList := channel :: system.rpcChannelList }

def unregisterChannel (channel : Nat) (system : RpcSystem IPEndpoint) : RpcSystem IPEndpoint :=
  { system with rpcChannelList := system.rpcChannelList.filter (· ≠ channel) }

def findChannel [DecidableEq IPEndpoint] (system : RpcSystem IPEndpoint)
    (message : RpcReply IPEndpoint) : Option Nat :=
  system.rpcChannelList.find? fun channel =>
    let candidate := system.channels channel
    candidate.serviceId = message.serviceId ∧ candidate.clientId = message.clientId ∧
      candidate.remoteIp = message.sourceAddress ∧ candidate.sessionId = message.sessionId

/-! ## Timeouts -/

/-- The timeout is scheduled for the pending call. -/
def setTimeout (channel : Nat) (system : RpcSystem IPEndpoint) : RpcSystem IPEndpoint :=
  system.setChannel channel
    { system.channels channel with timeout := (system.channels channel).pendingCallback }

def cancelTimeout (channel : Nat) (system : RpcSystem IPEndpoint) : RpcSystem IPEndpoint :=
  system.setChannel channel { system.channels channel with timeout := none }

/-! ## Calls -/

def sendRequest (attempt : CallAttempt) (system : RpcSystem IPEndpoint) :
    ServiceResultCode × RpcSystem IPEndpoint :=
  if (system.channels attempt.channel).localPort = none then (.COULD_NOT_DELIVER, system)
  else if attempt.hasNetworkChannel = false then (.COULD_NOT_DELIVER, system)
  else if attempt.headerFits = false then (.COULD_NOT_DELIVER, system)
  else if attempt.payloadFits = false then (.COULD_NOT_DELIVER, system)
  else
    let system := (system.registerChannel attempt.channel).setTimeout attempt.channel
    if attempt.sent = false then
      (.COULD_NOT_DELIVER,
        (system.unregisterChannel attempt.channel).cancelTimeout attempt.channel)
    else (.RPC_SENT_SUCCESSFULLY, system)

/-- The number of the next call is taken, with what the call returns. -/
def returnCode (attempt : CallAttempt) (code : ServiceResultCode)
    (system : RpcSystem IPEndpoint) : RpcSystem IPEndpoint :=
  { system with
    calls := system.calls + 1
    returned := Function.update system.returned system.calls (some code)
    supplied := Function.update system.supplied system.calls attempt.hasResponse }

def callMethod (attempt : CallAttempt) (system : RpcSystem IPEndpoint) : RpcSystem IPEndpoint :=
  let channel := system.channels attempt.channel
  if channel.isOpen = false then system.returnCode attempt .COULD_NOT_DELIVER
  else if channel.pendingCallback ≠ none then system.returnCode attempt .BUSY_ERROR
  else
    let waiting := system.setChannel attempt.channel
      { channel with
        pendingResponse := attempt.hasResponse, pendingCallback := some system.calls }
    match waiting.sendRequest attempt with
    | (.RPC_SENT_SUCCESSFULLY, sent) => sent.returnCode attempt .RPC_SENT_SUCCESSFULLY
    | (code, failed) =>
      (failed.setChannel attempt.channel
        { failed.channels attempt.channel with pendingCallback := none }).returnCode attempt code

def callMethods (attempts : List CallAttempt) (system : RpcSystem IPEndpoint) :
    RpcSystem IPEndpoint :=
  attempts.foldl (fun system attempt => system.callMethod attempt) system

/-! ## Completions -/

/-- Invoke the closure of a call, which may make further calls. -/
def invoke (call : Nat) (completion : Completion IPEndpoint) (reactions : Reactions)
    (system : RpcSystem IPEndpoint) : RpcSystem IPEndpoint :=
  callMethods (reactions call completion.result)
    { system with
      completions :=
        Function.update system.completions call (system.completions call ++ [completion]) }

def responseReceived (channel : Nat) (completion : Completion IPEndpoint) (reactions : Reactions)
    (system : RpcSystem IPEndpoint) : RpcSystem IPEndpoint :=
  match (system.channels channel).pendingCallback with
  | none => system
  | some call =>
    (system.setChannel channel
      { system.channels channel with pendingCallback := none }).invoke call completion reactions

/-- A response object is set and a call is pending. -/
def getResponse (channel : Nat) (system : RpcSystem IPEndpoint) : Bool :=
  (system.channels channel).pendingCallback.isSome && (system.channels channel).pendingResponse

variable [DecidableEq IPEndpoint]

def handleResponse (message : RpcReply IPEndpoint) (reactions : Reactions)
    (system : RpcSystem IPEndpoint) : RpcSystem IPEndpoint :=
  match system.findChannel message with
  | none => system
  | some channel =>
    if (system.channels channel).localPort ≠ some message.localPort then system
    else
      let system := (system.unregisterChannel channel).cancelTimeout channel
      let system :=
        if system.getResponse channel = true ∧ message.decodes = false then
          system.responseReceived channel ⟨.RPC_INVALID_PAYLOAD, .response message⟩ reactions
        else system
      system.responseReceived channel
        ⟨getRpcErrorCode message.returnCode, .response message⟩ reactions

def handleError (message : RpcReply IPEndpoint) (reactions : Reactions)
    (system : RpcSystem IPEndpoint) : RpcSystem IPEndpoint :=
  match system.findChannel message with
  | none => system
  | some channel =>
    ((system.unregisterChannel channel).cancelTimeout channel).responseReceived channel
      ⟨getRpcErrorCode message.returnCode, .error message⟩ reactions

omit [DecidableEq IPEndpoint] in
/-- The timeout of a channel has run out. -/
def timeoutExpired (channel scheduledFor : Nat) (reactions : Reactions)
    (system : RpcSystem IPEndpoint) : RpcSystem IPEndpoint :=
  let system := system.cancelTimeout channel
  match (system.channels channel).pendingCallback with
  | none => system
  | some call =>
    let system := system.unregisterChannel channel
    (system.setChannel channel
      { system.channels channel with pendingCallback := none }).invoke call
        ⟨.RPC_TIMEOUT, .timeout scheduledFor⟩ reactions

end RpcSystem

/-! ## Runs -/

/-- What happens, with the calls that closures make. -/
inductive RpcEvent (IPEndpoint : Type)
  | callMethod (attempt : CallAttempt)
  | response (message : RpcReply IPEndpoint) (reactions : Reactions)
  | error (message : RpcReply IPEndpoint) (reactions : Reactions)
  | timeoutExpired (channel : Nat) (reactions : Reactions)
  /-- The channel is opened, closed or given other identifiers. -/
  | configure (channel : Nat) (serviceId clientId sessionId : UInt16) (isOpen : Bool)
      (remoteIp : IPEndpoint) (localPort : Option UInt16)

namespace RpcSystem

variable {IPEndpoint : Type} [DecidableEq IPEndpoint]

/-- The effect of an event.  Only a scheduled timeout can run out. -/
def perform (system : RpcSystem IPEndpoint) : RpcEvent IPEndpoint → Option (RpcSystem IPEndpoint)
  | .callMethod attempt => some (system.callMethod attempt)
  | .response message reactions => some (system.handleResponse message reactions)
  | .error message reactions => some (system.handleError message reactions)
  | .timeoutExpired channel reactions =>
    (system.channels channel).timeout.map fun scheduledFor =>
      system.timeoutExpired channel scheduledFor reactions
  | .configure channel serviceId clientId sessionId isOpen remoteIp localPort =>
    some (system.setChannel channel { system.channels channel with
      serviceId, clientId, sessionId, isOpen, remoteIp, localPort })

omit [DecidableEq IPEndpoint] in
/-- No call has been made. -/
def Initial (system : RpcSystem IPEndpoint) : Prop :=
  system.rpcChannelList = [] ∧ system.calls = 0 ∧ (∀ call, system.completions call = []) ∧
    ∀ channel, (system.channels channel).pendingCallback = none ∧
      (system.channels channel).timeout = none

/-- All runs. -/
def runs : Transition.System (RpcSystem IPEndpoint) (RpcEvent IPEndpoint) where
  Initial := Initial
  Step source event target := source.perform event = some target

end RpcSystem

end OpenBsw.Someip
