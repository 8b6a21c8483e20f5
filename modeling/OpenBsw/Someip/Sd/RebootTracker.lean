import OpenBsw.Data.FlatMap
import OpenBsw.Someip.SomeIpMessage

/-!
# Session numbers and reboot tracking

A sender numbers its service discovery messages per destination, and flags those
before the first wrap of the numbers.  A receiver keeps the latest number and flag of
every remote address, once for multicast and once for unicast.
-/

namespace OpenBsw.Someip

/-! ## Sender -/

structure SessionEntry where
  sessionId : UInt16
  rebootFlag : Bool
  deriving DecidableEq, Repr

namespace SessionEntry

def INITIAL_SESSION_ID : UInt16 := 1
def MAX_SESSION_ID : UInt16 := 0xFFFF

def initial : SessionEntry :=
  { sessionId := INITIAL_SESSION_ID, rebootFlag := true }

def increment (entry : SessionEntry) : SessionEntry :=
  if entry.sessionId = MAX_SESSION_ID then
    { sessionId := INITIAL_SESSION_ID, rebootFlag := false }
  else { entry with sessionId := entry.sessionId + 1 }

end SessionEntry

structure SessionManager (IPAddress : Type) where
  endpoints : FlatMap IPAddress SessionEntry
  multicast : SessionEntry := SessionEntry.initial

namespace SessionManager

variable {IPAddress : Type} [DecidableEq IPAddress]

def init (manager : SessionManager IPAddress) : SessionManager IPAddress :=
  { endpoints := manager.endpoints.clear, multicast := SessionEntry.initial }

/-- The number and flag of the next message, and the manager after it. -/
def getSessionInfoForNextMulticastMessage (manager : SessionManager IPAddress) :
    SessionEntry × SessionManager IPAddress :=
  (manager.multicast, { manager with multicast := manager.multicast.increment })

/-- The manager with an entry for the address, where there is room for it. -/
def addEndpoint (manager : SessionManager IPAddress) (ipAddress : IPAddress) :
    SessionManager IPAddress :=
  if (manager.endpoints.find? ipAddress).isSome then manager
  else if manager.endpoints.isFull then manager
  else { manager with endpoints := manager.endpoints.insert ipAddress SessionEntry.initial }

def getSessionInfoForNextUnicastMessage (manager : SessionManager IPAddress)
    (ipAddress : IPAddress) : SessionEntry × SessionManager IPAddress :=
  let manager := manager.addEndpoint ipAddress
  match manager.endpoints.find? ipAddress with
  | none => ({ sessionId := 0, rebootFlag := false }, manager)
  | some entry =>
    (entry, { manager with endpoints := manager.endpoints.modify ipAddress .increment })

end SessionManager

/-! ## Receiver -/

structure SessionInfo (IPAddress : Type) where
  remoteIp : IPAddress
  isMulticast : Bool
  sessionId : UInt16
  rebootFlag : Bool

structure RebootTrackerEndpoint where
  latestUnicastSessionId : UInt16 := 0
  latestMulticastSessionId : UInt16 := 0
  latestUnicastRebootFlag : Bool := false
  latestMulticastRebootFlag : Bool := false

namespace RebootTrackerEndpoint

def setUnicast (endpoint : RebootTrackerEndpoint) (sessionId : UInt16) (rebootFlag : Bool) :
    RebootTrackerEndpoint :=
  { endpoint with latestUnicastSessionId := sessionId, latestUnicastRebootFlag := rebootFlag }

def setMulticast (endpoint : RebootTrackerEndpoint) (sessionId : UInt16) (rebootFlag : Bool) :
    RebootTrackerEndpoint :=
  { endpoint with latestMulticastSessionId := sessionId, latestMulticastRebootFlag := rebootFlag }

/-- A flagged message after one without the flag, or with a number that is not new. -/
def rebootValue (latestSessionId : UInt16) (latestRebootFlag : Bool) (sessionId : UInt16)
    (rebootFlag : Bool) : Bool :=
  if rebootFlag = false then false
  else if latestRebootFlag = false then true
  else latestSessionId ≥ sessionId

def getMulticastRebootValue (endpoint : RebootTrackerEndpoint) (sessionId : UInt16)
    (rebootFlag : Bool) : Bool :=
  rebootValue endpoint.latestMulticastSessionId endpoint.latestMulticastRebootFlag sessionId
    rebootFlag

def getUnicastRebootValue (endpoint : RebootTrackerEndpoint) (sessionId : UInt16)
    (rebootFlag : Bool) : Bool :=
  rebootValue endpoint.latestUnicastSessionId endpoint.latestUnicastRebootFlag sessionId
    rebootFlag

/-- The flags avoid the detection of a reboot on startup. -/
def initActiveReboot : RebootTrackerEndpoint where
  latestUnicastRebootFlag := true
  latestMulticastRebootFlag := true

end RebootTrackerEndpoint

structure RebootTracker (IPAddress : Type) where
  endpoints : FlatMap IPAddress RebootTrackerEndpoint

namespace RebootTracker

variable {IPAddress : Type} [DecidableEq IPAddress]

/-- Whether a message tells of a reboot of its sender. -/
def evaluate (tracker : RebootTracker IPAddress) (session : SessionInfo IPAddress) : Bool :=
  match tracker.endpoints.find? session.remoteIp with
  | some endpoint =>
    if session.isMulticast then
      endpoint.getMulticastRebootValue session.sessionId session.rebootFlag
    else endpoint.getUnicastRebootValue session.sessionId session.rebootFlag
  | none => if session.rebootFlag = false then false else (0 : UInt16) ≥ session.sessionId

def addEndpoint (tracker : RebootTracker IPAddress) (remoteIp : IPAddress) :
    RebootTracker IPAddress :=
  if (tracker.endpoints.find? remoteIp).isSome then tracker
  else if tracker.endpoints.isFull then tracker
  else { endpoints := tracker.endpoints.insert remoteIp .initActiveReboot }

/-- The latest number and flag are stored, unless the sender has rebooted: then all that
is known about it is dropped. -/
def apply (tracker : RebootTracker IPAddress) (session : SessionInfo IPAddress) :
    RebootTracker IPAddress :=
  let tracker := tracker.addEndpoint session.remoteIp
  match tracker.endpoints.find? session.remoteIp with
  | none => tracker
  | some endpoint =>
    let reboot :=
      if session.isMulticast then
        endpoint.getMulticastRebootValue session.sessionId session.rebootFlag
      else endpoint.getUnicastRebootValue session.sessionId session.rebootFlag
    let endpoints := tracker.endpoints.modify session.remoteIp fun endpoint =>
      if session.isMulticast then endpoint.setMulticast session.sessionId session.rebootFlag
      else endpoint.setUnicast session.sessionId session.rebootFlag
    { endpoints := if reboot then endpoints.erase session.remoteIp else endpoints }

end RebootTracker

/-! ## Messages -/

namespace SdMessageParser

def PROTOCOL_VERSION : UInt8 := 1
def INTERFACE_VERSION : UInt8 := 1
def NOTIFICATION : UInt8 := 2
def SD_FLAG_REBOOT : UInt8 := 0x80
def SD_FLAG_UNICAST : UInt8 := 0x40
def SD_MESSAGE_ID : UInt32 := 0xFFFF8100

variable {IPAddress : Type} [DecidableEq IPAddress]

/-- Whether the registry is told of a reboot, and the tracker after the message.  The
outcome of `parseMessage`, which does not look at the session, is `parsed`. -/
def handleMessage (tracker : RebootTracker IPAddress) (message : SomeIpMessage)
    (sourceAddress : IPAddress) (isMulticast : Bool) (parsed : Bool) :
    Bool × RebootTracker IPAddress :=
  if message.header.protocolVersion ≠ PROTOCOL_VERSION then (false, tracker)
  else if message.header.interfaceVersion ≠ INTERFACE_VERSION then (false, tracker)
  else if message.header.rawMessageType ≠ NOTIFICATION then (false, tracker)
  else if message.header.clientId ≠ 0 then (false, tracker)
  else
    let session : SessionInfo IPAddress :=
      { remoteIp := sourceAddress
        isMulticast
        sessionId := message.header.sessionId
        rebootFlag := message.payload.headD 0 &&& SD_FLAG_REBOOT ≠ 0 }
    (tracker.evaluate session, if parsed then tracker.apply session else tracker)

/-- A message that `finishMessage` completes; the rest of the payload are its entries
and options. -/
def finishMessage (session : SessionEntry) (content : List UInt8) : SomeIpMessage :=
  { header :=
      { messageId := SD_MESSAGE_ID
        sessionId := session.sessionId
        protocolVersion := PROTOCOL_VERSION
        interfaceVersion := INTERFACE_VERSION
        rawMessageType := NOTIFICATION }
    payload :=
      (if session.rebootFlag then SD_FLAG_UNICAST ||| SD_FLAG_REBOOT else SD_FLAG_UNICAST) ::
        content }

/-- The receiver reads the number and the flag that the sender wrote. -/
theorem handleMessage_finishMessage (tracker : RebootTracker IPAddress) (entry : SessionEntry)
    (content : List UInt8) (sourceAddress : IPAddress) (isMulticast parsed : Bool) :
    handleMessage tracker (finishMessage entry content) sourceAddress isMulticast parsed =
      let session : SessionInfo IPAddress :=
        { remoteIp := sourceAddress
          isMulticast
          sessionId := entry.sessionId
          rebootFlag := entry.rebootFlag }
      (tracker.evaluate session, if parsed then tracker.apply session else tracker) := by
  have flag : decide ((finishMessage entry content).payload.headD 0 &&& SD_FLAG_REBOOT ≠ 0) =
      entry.rebootFlag := by
    rw [finishMessage, List.headD_cons]
    cases entry.rebootFlag <;> decide
  have fields : (finishMessage entry content).header.protocolVersion = PROTOCOL_VERSION ∧
      (finishMessage entry content).header.interfaceVersion = INTERFACE_VERSION ∧
      (finishMessage entry content).header.rawMessageType = NOTIFICATION ∧
      (finishMessage entry content).header.clientId = 0 := ⟨rfl, rfl, rfl, rfl⟩
  simp only [handleMessage, flag, fields, ne_eq, not_true_eq_false, if_false]
  rfl

end SdMessageParser

end OpenBsw.Someip
