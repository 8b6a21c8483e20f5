import OpenBsw.Someip.Sd.RebootTracker
import OpenBsw.Transition.System

/-!
# Detection of reboots

A sender numbers its messages and may restart at any time.  A receiver is handed the
multicast messages and the unicast messages that are addressed to it, and messages of
other senders.  A channel is the way a message came, multicast or unicast.  A restart
can be seen on a channel that had messages before, and the first such message should
be the only one that reports it.
-/

namespace OpenBsw.Someip

open OpenBsw.Transition Option
open SdMessageParser (handleMessage finishMessage)

variable {IPAddress : Type}

inductive RebootEvent (IPAddress : Type)
  | multicast (content : List UInt8) (parsed : Bool)
  | unicast (destination : IPAddress) (content : List UInt8) (parsed : Bool)
  | foreign (source : IPAddress) (message : SomeIpMessage) (isMulticast : Bool) (parsed : Bool)
  | restart

/-- Sender and receiver, and for each channel whether messages came before the last
restart, whether some came since, and whether the receiver has stored one since it
dropped the sender; `calls` counts the detected reboots since the last restart. -/
structure RebootRun (IPAddress : Type) where
  sender : SessionManager IPAddress
  tracker : RebootTracker IPAddress
  before : Bool → Bool := fun _ => false
  since : Bool → Bool := fun _ => false
  stored : Bool → Bool := fun _ => false
  calls : Nat := 0

namespace RebootRun

/-- A channel has shown the last restart. -/
def shown (run : RebootRun IPAddress) : Bool :=
  (run.before true && run.since true) || (run.before false && run.since false)

/-- The next message on the channel is the first one that shows the restart. -/
def expected (run : RebootRun IPAddress) (isMulticast : Bool) : Bool :=
  run.before isMulticast && !run.shown

variable [DecidableEq IPAddress] (senderIp receiverIp : IPAddress)

/-- The tracker can store what it learns about the sender. -/
def hasRoom (run : RebootRun IPAddress) : Bool :=
  (run.tracker.endpoints.find? senderIp).isSome || !run.tracker.endpoints.isFull

/-- The sender can number messages to the receiver. -/
def isNumbered (run : RebootRun IPAddress) : Bool :=
  (run.sender.endpoints.find? receiverIp).isSome || !run.sender.endpoints.isFull

/-- The receiver handles a message of the sender. -/
def receive (run : RebootRun IPAddress) (session : SessionEntry) (content : List UInt8)
    (isMulticast parsed : Bool) : RebootRun IPAddress :=
  let result := handleMessage run.tracker (finishMessage session content) senderIp isMulticast
    parsed
  { run with
    tracker := result.2
    since := fun channel => channel = isMulticast || run.since channel
    stored := fun channel =>
      !run.expected isMulticast &&
        ((channel = isMulticast && parsed && run.hasRoom senderIp) || run.stored channel)
    calls := if result.1 then run.calls + 1 else run.calls }

def perform (run : RebootRun IPAddress) : RebootEvent IPAddress → Option (RebootRun IPAddress)
  | .multicast content parsed =>
    let numbered := run.sender.getSessionInfoForNextMulticastMessage
    some { run.receive senderIp numbered.1 content true parsed with sender := numbered.2 }
  | .unicast destination content parsed =>
    let numbered := run.sender.getSessionInfoForNextUnicastMessage destination
    if destination = receiverIp then
      some { run.receive senderIp numbered.1 content false parsed with sender := numbered.2 }
    else some { run with sender := numbered.2 }
  | .foreign source message isMulticast parsed =>
    if source = senderIp then none
    else
      some { run with tracker := (handleMessage run.tracker message source isMulticast parsed).2 }
  | .restart =>
    some
      { run with
        sender := run.sender.init
        before := fun channel => run.before channel || run.since channel
        since := fun _ => false
        calls := 0 }

/-- Neither side knows anything about the other one. -/
def Initial (run : RebootRun IPAddress) : Prop :=
  run = { sender := run.sender.init, tracker := { endpoints := run.tracker.endpoints.clear } }

def system : System (RebootRun IPAddress) (RebootEvent IPAddress) where
  Initial := Initial
  Step source event target := perform senderIp receiverIp source event = some target

/-- A message that should show a restart is relevant, it has a number, and the receiver
has stored an earlier message of the channel. -/
def Detectable (run : RebootRun IPAddress) : RebootEvent IPAddress → Prop
  | .multicast _ parsed => run.expected true = true → parsed = true ∧ run.stored true = true
  | .unicast destination _ parsed =>
    destination = receiverIp → run.expected false = true →
      parsed = true ∧ run.stored false = true ∧ run.isNumbered receiverIp = true
  | .foreign .. => True
  | .restart => True

instance (run : RebootRun IPAddress) (event : RebootEvent IPAddress) :
    Decidable (Detectable receiverIp run event) := by
  cases event <;> unfold Detectable <;> infer_instance

/-- The reboot has been reported once since the last restart if a channel has shown it,
and not at all otherwise. -/
def ReportsOnce (run : RebootRun IPAddress) : Prop :=
  run.calls = if run.shown then 1 else 0

end RebootRun

/-! ## Numbers of messages -/

namespace SessionEntry

/-- The number and flag of a message after `count` others. -/
def numbered (count : Nat) : SessionEntry :=
  { sessionId := UInt16.ofNat (1 + count % 65535), rebootFlag := count < 65535 }

theorem toNat_numbered (count : Nat) :
    (numbered count).sessionId.toNat = 1 + count % 65535 := by
  rw [numbered, UInt16.toNat_ofNat']
  omega

theorem increment_numbered (count : Nat) : (numbered count).increment = numbered (count + 1) := by
  have value := toNat_numbered count
  rw [increment]
  by_cases wraps : (numbered count).sessionId = MAX_SESSION_ID
  · have last : 1 + count % 65535 = 65535 := by
      rw [← value, wraps]
      rfl
    rw [if_pos wraps, numbered, mk.injEq]
    constructor
    · rw [show (count + 1) % 65535 = 0 by omega]
      rfl
    · rw [eq_comm, decide_eq_false_iff_not]
      omega
  · have notLast : 1 + count % 65535 ≠ 65535 := by
      intro last
      apply wraps
      apply UInt16.toNat_inj.mp
      rw [value, last]
      rfl
    rw [if_neg wraps, numbered, numbered, mk.injEq]
    constructor
    · apply UInt16.toNat_inj.mp
      rw [UInt16.toNat_add, UInt16.toNat_ofNat', UInt16.toNat_ofNat']
      change ((1 + count % 65535) % 2 ^ 16 + 1) % 2 ^ 16 = _
      omega
    · rw [decide_eq_decide]
      omega

end SessionEntry

namespace RebootTrackerEndpoint

/-- What is stored for a channel. -/
def latest (endpoint : RebootTrackerEndpoint) (isMulticast : Bool) : SessionEntry :=
  if isMulticast then
    { sessionId := endpoint.latestMulticastSessionId
      rebootFlag := endpoint.latestMulticastRebootFlag }
  else
    { sessionId := endpoint.latestUnicastSessionId
      rebootFlag := endpoint.latestUnicastRebootFlag }

/-- The entry after a message of a channel. -/
def set (endpoint : RebootTrackerEndpoint) (isMulticast : Bool) (session : SessionEntry) :
    RebootTrackerEndpoint :=
  if isMulticast then endpoint.setMulticast session.sessionId session.rebootFlag
  else endpoint.setUnicast session.sessionId session.rebootFlag

theorem latest_set (endpoint : RebootTrackerEndpoint) (isMulticast channel : Bool)
    (session : SessionEntry) :
    (endpoint.set isMulticast session).latest channel =
      if channel = isMulticast then session else endpoint.latest channel := by
  cases isMulticast <;> cases channel <;> rfl

/-- A message that does not follow on what is stored. -/
def reboots (latest session : SessionEntry) : Bool :=
  rebootValue latest.sessionId latest.rebootFlag session.sessionId session.rebootFlag

/-- Two messages of one numbering, in their order, are no reboot. -/
theorem reboots_numbered {earlier later : Nat} (ordered : earlier < later) :
    reboots (.numbered earlier) (.numbered later) = false := by
  rw [reboots, rebootValue]
  by_cases flagged : later < 65535
  · rw [if_neg (by simp [SessionEntry.numbered, flagged]),
      if_neg (by simp [SessionEntry.numbered]; omega), decide_eq_false_iff_not, ge_iff_le,
      UInt16.le_iff_toNat_le, SessionEntry.toNat_numbered, SessionEntry.toNat_numbered]
    omega
  · rw [if_pos (by simp [SessionEntry.numbered]; omega)]

/-- Nothing is a reboot before a message was stored. -/
theorem reboots_nothing {session : SessionEntry}
    (valid : session.rebootFlag = true → 1 ≤ session.sessionId) :
    reboots { sessionId := 0, rebootFlag := true } session = false := by
  rw [reboots, rebootValue]
  split
  · rfl
  · rename_i flagged
    have positive := valid (by simpa using flagged)
    rw [if_neg (by decide), decide_eq_false_iff_not, ge_iff_le]
    rw [UInt16.le_iff_toNat_le] at positive ⊢
    change 1 ≤ session.sessionId.toNat at positive
    change ¬session.sessionId.toNat ≤ 0
    omega

/-- The first message of a numbering is a reboot after any stored message. -/
theorem reboots_initial {latest : SessionEntry}
    (stored : latest.rebootFlag = false ∨ 1 ≤ latest.sessionId) :
    reboots latest SessionEntry.initial = true := by
  rw [reboots, rebootValue, if_neg (by decide)]
  split
  · rfl
  · rename_i flagged
    rw [decide_eq_true_eq]
    exact stored.resolve_left flagged

end RebootTrackerEndpoint

/-! ## The tracker and one sender -/

namespace RebootTracker

open RebootTrackerEndpoint (reboots)

variable [DecidableEq IPAddress] {tracker : RebootTracker IPAddress} {senderIp : IPAddress}

/-- The session of a message of a sender. -/
def sessionOf (senderIp : IPAddress) (isMulticast : Bool) (session : SessionEntry) :
    SessionInfo IPAddress :=
  { remoteIp := senderIp
    isMulticast
    sessionId := session.sessionId
    rebootFlag := session.rebootFlag }

theorem evaluate_of_some {endpoint : RebootTrackerEndpoint}
    (found : tracker.endpoints.find? senderIp = some endpoint) (isMulticast : Bool)
    (session : SessionEntry) :
    tracker.evaluate (sessionOf senderIp isMulticast session) =
      reboots (endpoint.latest isMulticast) session := by
  rw [evaluate, sessionOf, found]
  cases isMulticast <;> rfl

/-- Nothing is detected about a sender that the tracker does not know. -/
theorem evaluate_of_none (unknown : tracker.endpoints.find? senderIp = none)
    {isMulticast : Bool} {session : SessionEntry}
    (valid : session.rebootFlag = true → 1 ≤ session.sessionId) :
    tracker.evaluate (sessionOf senderIp isMulticast session) = false := by
  rw [evaluate, sessionOf, unknown]
  by_cases flagged : session.rebootFlag = true
  · have positive := valid flagged
    simp only [flagged, Bool.true_eq_false, if_false, decide_eq_false_iff_not, ge_iff_le]
    rw [UInt16.le_iff_toNat_le] at positive ⊢
    have one : (1 : UInt16).toNat = 1 := rfl
    have zero : (0 : UInt16).toNat = 0 := rfl
    omega
  · rw [Bool.not_eq_true] at flagged
    simp only [flagged, if_true]

/-- What the tracker knows about the sender of a message once the message is applied. -/
theorem find?_apply (isMulticast : Bool) (session : SessionEntry) :
    (tracker.apply (sessionOf senderIp isMulticast session)).endpoints.find? senderIp =
      if (tracker.endpoints.find? senderIp).isSome || !tracker.endpoints.isFull then
        if reboots (((tracker.endpoints.find? senderIp).getD .initActiveReboot).latest
            isMulticast) session then none
        else
          some (((tracker.endpoints.find? senderIp).getD .initActiveReboot).set isMulticast
            session)
      else none := by
  have known : ∀ (other : RebootTracker IPAddress) (endpoint : RebootTrackerEndpoint),
      other.endpoints.find? senderIp = some endpoint →
      tracker.addEndpoint senderIp = other →
      (tracker.apply (sessionOf senderIp isMulticast session)).endpoints.find? senderIp =
        if reboots (endpoint.latest isMulticast) session then none
        else some (endpoint.set isMulticast session) := by
    intro other endpoint found added
    simp only [apply, sessionOf, added, found]
    cases isMulticast with
    | true =>
      change FlatMap.find? (if reboots (endpoint.latest true) session = true then _ else _)
        senderIp = _
      split
      · exact FlatMap.find?_erase_self
      · rw [FlatMap.find?_modify_self, found]
        rfl
    | false =>
      change FlatMap.find? (if reboots (endpoint.latest false) session = true then _ else _)
        senderIp = _
      split
      · exact FlatMap.find?_erase_self
      · rw [FlatMap.find?_modify_self, found]
        rfl
  cases found : tracker.endpoints.find? senderIp with
  | some endpoint =>
    have added : tracker.addEndpoint senderIp = tracker := by
      rw [addEndpoint, found]
      rfl
    rw [known tracker endpoint found added]
    rfl
  | none =>
    by_cases full : tracker.endpoints.isFull = true
    · have added : tracker.addEndpoint senderIp = tracker := by
        rw [addEndpoint, found, full]
        rfl
      simp only [apply, sessionOf, added, found, full]
      rfl
    · rw [Bool.not_eq_true] at full
      have added : tracker.addEndpoint senderIp =
          { endpoints := tracker.endpoints.insert senderIp .initActiveReboot } := by
        rw [addEndpoint, found, full]
        rfl
      rw [known _ _ FlatMap.find?_insert_self added, full]
      rfl

/-- Messages of other senders leave alone what is known about a sender. -/
theorem find?_apply_of_ne {session : SessionInfo IPAddress}
    (different : senderIp ≠ session.remoteIp) :
    (tracker.apply session).endpoints.find? senderIp = tracker.endpoints.find? senderIp := by
  have added : (tracker.addEndpoint session.remoteIp).endpoints.find? senderIp =
      tracker.endpoints.find? senderIp := by
    rw [addEndpoint]
    split
    · rfl
    · split
      · rfl
      · exact FlatMap.find?_insert_of_ne different
  have either : ∀ (reboot : Bool) (change : RebootTrackerEndpoint → RebootTrackerEndpoint),
      (if reboot then
          ((tracker.addEndpoint session.remoteIp).endpoints.modify session.remoteIp change).erase
            session.remoteIp
        else
          (tracker.addEndpoint session.remoteIp).endpoints.modify session.remoteIp
            change).find? senderIp =
        tracker.endpoints.find? senderIp := by
    intro reboot change
    split
    · rw [FlatMap.find?_erase_of_ne different, FlatMap.find?_modify_of_ne different, added]
    · rw [FlatMap.find?_modify_of_ne different, added]
  rw [apply]
  split
  · exact added
  · exact either _ _

theorem find?_handleMessage_of_ne (tracker : RebootTracker IPAddress) {source : IPAddress}
    (different : senderIp ≠ source) (message : SomeIpMessage) (isMulticast parsed : Bool) :
    (handleMessage tracker message source isMulticast parsed).2.endpoints.find? senderIp =
      tracker.endpoints.find? senderIp := by
  rw [handleMessage]
  split
  · rfl
  · split
    · rfl
    · split
      · rfl
      · split
        · rfl
        · cases parsed with
          | false => rfl
          | true => exact find?_apply_of_ne different

end RebootTracker

/-! ## The sender -/

namespace SessionManager

variable [DecidableEq IPAddress]

/-- The entry of the messages to a receiver on a channel. -/
def position (manager : SessionManager IPAddress) (receiverIp : IPAddress)
    (isMulticast : Bool) : Option SessionEntry :=
  if isMulticast then some manager.multicast else manager.endpoints.find? receiverIp

/-- What taking a number for a message on a channel does. -/
structure Takes (receiverIp : IPAddress) (isMulticast : Bool)
    (source : SessionManager IPAddress) (session : SessionEntry)
    (target : SessionManager IPAddress) : Prop where
  others : ∀ channel ≠ isMulticast,
    target.position receiverIp channel = source.position receiverIp channel
  full : source.endpoints.isFull = true → target.endpoints.isFull = true
  taken :
    (∃ entry, (source.position receiverIp isMulticast).getD .initial = entry ∧
      session = entry ∧ target.position receiverIp isMulticast = some entry.increment ∧
      (source.position receiverIp isMulticast = none → source.endpoints.isFull = false)) ∨
    (source.position receiverIp isMulticast = none ∧ source.endpoints.isFull = true ∧
      session = { sessionId := 0, rebootFlag := false } ∧
      target.position receiverIp isMulticast = none)

theorem takes_multicast (manager : SessionManager IPAddress) (receiverIp : IPAddress) :
    Takes receiverIp true manager manager.getSessionInfoForNextMulticastMessage.1
      manager.getSessionInfoForNextMulticastMessage.2 where
  others := by
    intro channel different
    rw [Bool.eq_false_iff.mpr different]
    rfl
  full := id
  taken := by
    left
    exact ⟨manager.multicast, rfl, rfl, rfl, fun none => absurd none (some_ne_none _)⟩

/-- The map of a manager with an entry for the address, where there is room. -/
theorem addEndpoint_cases (manager : SessionManager IPAddress) (ipAddress : IPAddress) :
    (∃ entry, manager.endpoints.find? ipAddress = some entry ∧
      manager.addEndpoint ipAddress = manager) ∨
    (manager.endpoints.find? ipAddress = none ∧ manager.endpoints.isFull = true ∧
      manager.addEndpoint ipAddress = manager) ∨
    (manager.endpoints.find? ipAddress = none ∧ manager.endpoints.isFull = false ∧
      manager.addEndpoint ipAddress =
        { manager with endpoints := manager.endpoints.insert ipAddress .initial }) := by
  cases found : manager.endpoints.find? ipAddress with
  | some entry =>
    left
    refine ⟨entry, rfl, ?_⟩
    rw [addEndpoint, found]
    rfl
  | none =>
    right
    cases full : manager.endpoints.isFull with
    | true =>
      left
      refine ⟨rfl, rfl, ?_⟩
      rw [addEndpoint, found, full]
      rfl
    | false =>
      right
      refine ⟨rfl, rfl, ?_⟩
      rw [addEndpoint, found, full]
      rfl

theorem takes_unicast (manager : SessionManager IPAddress) (receiverIp : IPAddress) :
    Takes receiverIp false manager (manager.getSessionInfoForNextUnicastMessage receiverIp).1
      (manager.getSessionInfoForNextUnicastMessage receiverIp).2 := by
  rcases manager.addEndpoint_cases receiverIp with
    ⟨entry, found, added⟩ | ⟨found, full, added⟩ | ⟨found, room, added⟩
  · have step : manager.getSessionInfoForNextUnicastMessage receiverIp =
        (entry, { manager with endpoints := manager.endpoints.modify receiverIp .increment }) := by
      simp only [getSessionInfoForNextUnicastMessage, added, found]
    rw [step]
    constructor
    · intro channel different
      rw [Bool.eq_true_of_not_eq_false different]
      rfl
    · intro full
      rw [FlatMap.isFull_modify]
      exact full
    · left
      refine ⟨entry, ?_, rfl, ?_, ?_⟩
      · rw [position, if_neg Bool.false_ne_true, found]
        rfl
      · rw [position, if_neg Bool.false_ne_true, FlatMap.find?_modify_self, found]
        rfl
      · rw [position, if_neg Bool.false_ne_true, found]
        exact fun none => absurd none (some_ne_none _)
  · have step : manager.getSessionInfoForNextUnicastMessage receiverIp =
        ({ sessionId := 0, rebootFlag := false }, manager) := by
      simp only [getSessionInfoForNextUnicastMessage, added, found]
    rw [step]
    refine ⟨fun _ _ => rfl, id, Or.inr ?_⟩
    exact ⟨found, full, rfl, found⟩
  · have step : manager.getSessionInfoForNextUnicastMessage receiverIp =
        (.initial,
          { manager with
            endpoints := (manager.endpoints.insert receiverIp .initial).modify receiverIp
              .increment }) := by
      simp only [getSessionInfoForNextUnicastMessage, added, FlatMap.find?_insert_self]
    rw [step]
    constructor
    · intro channel different
      rw [Bool.eq_true_of_not_eq_false different]
      rfl
    · intro full
      rw [room] at full
      contradiction
    · left
      refine ⟨.initial, ?_, rfl, ?_, fun _ => room⟩
      · rw [position, if_neg Bool.false_ne_true, found]
        rfl
      · rw [position, if_neg Bool.false_ne_true, FlatMap.find?_modify_self,
          FlatMap.find?_insert_self]
        rfl

/-- Messages to others leave the numbers for a receiver alone. -/
theorem unicast_other (manager : SessionManager IPAddress) {receiverIp destination : IPAddress}
    (different : receiverIp ≠ destination) :
    (∀ channel, (manager.getSessionInfoForNextUnicastMessage destination).2.position receiverIp
        channel = manager.position receiverIp channel) ∧
      (manager.endpoints.isFull = true →
        (manager.getSessionInfoForNextUnicastMessage destination).2.endpoints.isFull = true) := by
  rcases manager.addEndpoint_cases destination with
    ⟨entry, found, added⟩ | ⟨found, full, added⟩ | ⟨found, room, added⟩
  · have step : (manager.getSessionInfoForNextUnicastMessage destination).2 =
        { manager with endpoints := manager.endpoints.modify destination .increment } := by
      simp only [getSessionInfoForNextUnicastMessage, added, found]
    rw [step]
    constructor
    · intro channel
      simp only [position, FlatMap.find?_modify_of_ne different]
    · intro full
      rw [FlatMap.isFull_modify]
      exact full
  · have step : (manager.getSessionInfoForNextUnicastMessage destination).2 = manager := by
      simp only [getSessionInfoForNextUnicastMessage, added, found]
    rw [step]
    exact ⟨fun _ => rfl, id⟩
  · have step : (manager.getSessionInfoForNextUnicastMessage destination).2 =
        { manager with
          endpoints := (manager.endpoints.insert destination .initial).modify destination
            .increment } := by
      simp only [getSessionInfoForNextUnicastMessage, added, FlatMap.find?_insert_self]
    rw [step]
    constructor
    · intro channel
      simp only [position, FlatMap.find?_modify_of_ne different,
        FlatMap.find?_insert_of_ne different]
    · intro full
      rw [room] at full
      contradiction

end SessionManager

/-! ## Runs whose restarts are detectable -/

variable {content : List UInt8} {target : SessionManager IPAddress} {parsed : Bool}
  {sender : SessionManager IPAddress}

namespace RebootRun

open RebootTrackerEndpoint (reboots)

variable [DecidableEq IPAddress] {senderIp receiverIp : IPAddress}

/-- The number of the next message of a channel, of which `since` tells whether there
were some in this numbering. -/
inductive Next (run : RebootRun IPAddress) (receiverIp : IPAddress) (isMulticast : Bool) : Prop
  | counted (count : Nat)
      (at_count : (run.sender.position receiverIp isMulticast).getD .initial = .numbered count)
      (absent : run.sender.position receiverIp isMulticast = none → count = 0)
      (some_since : run.since isMulticast = decide (0 < count))
  | unnumbered (absent : run.sender.position receiverIp isMulticast = none)
      (full : run.sender.endpoints.isFull = true)

/-- What the receiver has stored for a channel. -/
inductive Latest (run : RebootRun IPAddress) (receiverIp : IPAddress) (isMulticast : Bool) :
    SessionEntry → Prop
  | nothing (none : run.stored isMulticast = false) :
      Latest run receiverIp isMulticast { sessionId := 0, rebootFlag := true }
  | current (earlier count : Nat) (ordered : earlier < count)
      (at_count : run.sender.position receiverIp isMulticast = some (.numbered count))
      (since : run.since isMulticast = true) :
      Latest run receiverIp isMulticast (.numbered earlier)
  | unnumbered (absent : run.sender.position receiverIp isMulticast = none)
      (full : run.sender.endpoints.isFull = true) (since : run.since isMulticast = true) :
      Latest run receiverIp isMulticast { sessionId := 0, rebootFlag := false }
  | old (latest : SessionEntry) (valid : latest.rebootFlag = false ∨ 1 ≤ latest.sessionId)
      (before : run.before isMulticast = true) (unseen : run.shown = false) :
      Latest run receiverIp isMulticast latest

structure Invariant (senderIp receiverIp : IPAddress) (run : RebootRun IPAddress) : Prop where
  reports : run.ReportsOnce
  next : ∀ channel, run.Next receiverIp channel
  unknown : run.tracker.endpoints.find? senderIp = none →
    ∀ channel, run.stored channel = false
  known : ∀ endpoint, run.tracker.endpoints.find? senderIp = some endpoint →
    ∀ channel, run.Latest receiverIp channel (endpoint.latest channel)

variable {run : RebootRun IPAddress} {isMulticast : Bool}

omit [DecidableEq IPAddress] in
theorem expected_iff : run.expected isMulticast = true ↔
    run.before isMulticast = true ∧ run.shown = false := by
  rw [expected, Bool.and_eq_true, Bool.not_eq_true']

omit [DecidableEq IPAddress] in
/-- While no channel has shown the restart, none of those that had messages before has
had one since. -/
theorem since_of_not_shown (unseen : run.shown = false)
    (before : run.before isMulticast = true) : run.since isMulticast = false := by
  simp only [shown, Bool.or_eq_false_iff, Bool.and_eq_false_iff] at unseen
  cases isMulticast with
  | true => exact unseen.1.resolve_left (by simp [before])
  | false => exact unseen.2.resolve_left (by simp [before])

/-- The number of a message that is sent on a channel. -/
theorem Next.session {source : RebootRun IPAddress} {session : SessionEntry}
    (next : source.Next receiverIp isMulticast)
    (takes : SessionManager.Takes receiverIp isMulticast source.sender session target) :
    (∃ count, session = .numbered count ∧
      source.since isMulticast = decide (0 < count) ∧
      target.position receiverIp isMulticast = some (.numbered (count + 1)) ∧
      (source.sender.position receiverIp isMulticast = none → count = 0) ∧
      (source.sender.position receiverIp isMulticast).getD .initial = .numbered count) ∨
    (session = { sessionId := 0, rebootFlag := false } ∧
      source.sender.position receiverIp isMulticast = none ∧
      source.sender.endpoints.isFull = true ∧
      target.position receiverIp isMulticast = none) := by
  rcases takes.taken with ⟨entry, at_entry, rfl, after, room⟩ | ⟨absent, full, rfl, after⟩
  · left
    cases next with
    | counted count at_count absent some_since =>
      rw [at_entry] at at_count
      subst at_count
      rw [SessionEntry.increment_numbered] at after
      exact ⟨count, rfl, some_since, after, absent, at_entry⟩
    | unnumbered absent full =>
      rw [room absent] at full
      contradiction
  · exact Or.inr ⟨rfl, absent, full, after⟩

/-- A flagged message has a number. -/
theorem Next.valid {session : SessionEntry} (next : run.Next receiverIp isMulticast)
    (takes : SessionManager.Takes receiverIp isMulticast run.sender session target)
    (flagged : session.rebootFlag = true) : 1 ≤ session.sessionId := by
  rcases next.session takes with ⟨count, rfl, -⟩ | ⟨rfl, -⟩
  · rw [UInt16.le_iff_toNat_le, SessionEntry.toNat_numbered]
    exact Nat.le_add_right ..
  · contradiction

/-- A message is reported exactly if it should be. -/
theorem Invariant.evaluate {session : SessionEntry}
    (invariant : Invariant senderIp receiverIp run)
    (takes : SessionManager.Takes receiverIp isMulticast run.sender session target)
    (detectable : run.expected isMulticast = true → parsed = true ∧
      run.stored isMulticast = true ∧ session ≠ { sessionId := 0, rebootFlag := false }) :
    run.tracker.evaluate (RebootTracker.sessionOf senderIp isMulticast session) =
      run.expected isMulticast := by
  have sent := (invariant.next isMulticast).session takes
  cases found : run.tracker.endpoints.find? senderIp with
  | none =>
    have unexpected : run.expected isMulticast = false := by
      rw [← Bool.not_eq_true]
      intro should
      have some := (detectable should).2.1
      rw [invariant.unknown found] at some
      contradiction
    rw [unexpected]
    exact RebootTracker.evaluate_of_none found ((invariant.next isMulticast).valid takes)
  | some endpoint =>
    rw [RebootTracker.evaluate_of_some found]
    have latest := invariant.known endpoint found isMulticast
    generalize endpoint.latest isMulticast = stored at latest
    by_cases should : run.expected isMulticast = true
    · rw [should]
      obtain ⟨-, some, numbered⟩ := detectable should
      obtain ⟨before, unseen⟩ := expected_iff.mp should
      have none_since := since_of_not_shown unseen before
      have first : session = .initial := by
        rcases sent with ⟨count, rfl, since, -⟩ | ⟨unnumbered, -⟩
        · rw [none_since, eq_comm, decide_eq_false_iff_not] at since
          rw [show count = 0 by omega]
          rfl
        · exact absurd unnumbered numbered
      rw [first]
      cases latest with
      | nothing none =>
        rw [none] at some
        contradiction
      | current earlier count ordered at_count since =>
        rw [since] at none_since
        contradiction
      | unnumbered absent full since =>
        rw [since] at none_since
        contradiction
      | old stored valid _ _ => exact RebootTrackerEndpoint.reboots_initial valid
    · rw [Bool.not_eq_true] at should
      rw [should]
      cases latest with
      | nothing none =>
        exact RebootTrackerEndpoint.reboots_nothing
          ((invariant.next isMulticast).valid takes)
      | current earlier count ordered at_count since =>
        rcases sent with ⟨other, rfl, -, -, -, same⟩ | ⟨rfl, -⟩
        · rw [at_count, getD_some] at same
          rw [← same]
          exact RebootTrackerEndpoint.reboots_numbered ordered
        · rfl
      | unnumbered absent full since =>
        rcases sent with ⟨count, rfl, counted, -, zero, -⟩ | ⟨rfl, -⟩
        · rw [zero absent, since] at counted
          contradiction
        · rfl
      | old stored valid before unseen =>
        rw [expected_iff.mpr ⟨before, unseen⟩] at should
        contradiction

/-! ## Steps -/

variable {target : RebootRun IPAddress} {channel : Bool}

/-- A step that leaves the numbers of a channel alone. -/
theorem Next.unchanged (next : run.Next receiverIp channel)
    (position : target.sender.position receiverIp channel =
      run.sender.position receiverIp channel)
    (full : run.sender.endpoints.isFull = true → target.sender.endpoints.isFull = true)
    (since : target.since channel = run.since channel) : target.Next receiverIp channel := by
  cases next with
  | counted count at_count absent some_since =>
    apply Next.counted count
    · rw [position]
      exact at_count
    · rw [position]
      exact absent
    · rw [since]
      exact some_since
  | unnumbered absent isFull => exact .unnumbered (position.trans absent) (full isFull)

theorem Latest.unchanged {latest : SessionEntry} (holds : run.Latest receiverIp channel latest)
    (position : target.sender.position receiverIp channel =
      run.sender.position receiverIp channel)
    (full : run.sender.endpoints.isFull = true → target.sender.endpoints.isFull = true)
    (since : target.since channel = run.since channel)
    (before : target.before = run.before) (unseen : run.shown = false → target.shown = false)
    (stored : target.stored channel = run.stored channel) :
    target.Latest receiverIp channel latest := by
  cases holds with
  | nothing none => exact .nothing (stored.trans none)
  | current earlier count ordered at_count isSince =>
    exact .current earlier count ordered (position.trans at_count) (since.trans isSince)
  | unnumbered absent isFull isSince =>
    exact .unnumbered (position.trans absent) (full isFull) (since.trans isSince)
  | old _ valid isBefore isUnseen =>
    exact .old _ valid (by rw [before]; exact isBefore) (unseen isUnseen)

/-- The run after a message was sent and handled. -/
def handled (run : RebootRun IPAddress) (senderIp : IPAddress) (session : SessionEntry)
    (content : List UInt8) (isMulticast parsed : Bool) (sender : SessionManager IPAddress) :
    RebootRun IPAddress :=
  { run.receive senderIp session content isMulticast parsed with sender }

theorem shown_handled {session : SessionEntry} :
    (run.handled senderIp session content isMulticast parsed sender).shown =
      (run.shown || run.before isMulticast) := by
  change ((run.before true && (decide (true = isMulticast) || run.since true)) ||
    (run.before false && (decide (false = isMulticast) || run.since false))) = _
  rw [shown]
  cases isMulticast <;> cases run.before true <;> cases run.before false <;>
    cases run.since true <;> cases run.since false <;> rfl

/-- What was stored for a channel before an unexpected message on another or the same
channel still holds. -/
theorem Latest.handled {latest session : SessionEntry}
    (holds : run.Latest receiverIp channel latest)
    (takes : SessionManager.Takes receiverIp isMulticast run.sender session sender)
    (unexpected : run.expected isMulticast = false)
    (stored : (run.handled senderIp session content isMulticast parsed sender).stored channel =
      run.stored channel) :
    (run.handled senderIp session content isMulticast parsed sender).Latest receiverIp channel
      latest := by
  have unseen : run.shown = false →
      (run.handled senderIp session content isMulticast parsed sender).shown = false := by
    intro unseen
    rw [shown_handled, unseen, Bool.false_or, ← Bool.not_eq_true]
    intro before
    rw [expected_iff.mpr ⟨before, unseen⟩] at unexpected
    contradiction
  by_cases same : channel = isMulticast
  · subst same
    have sinceNow : (run.handled senderIp session content channel parsed sender).since channel =
        true := by
      change (decide (channel = channel) || run.since channel) = true
      rw [decide_eq_true rfl, Bool.true_or]
    cases holds with
    | nothing none => exact .nothing (stored.trans none)
    | current earlier count ordered at_count since =>
      rcases takes.taken with ⟨entry, at_entry, -, after, -⟩ | ⟨absent, -⟩
      · rw [at_count, getD_some] at at_entry
        subst at_entry
        rw [SessionEntry.increment_numbered] at after
        exact .current earlier (count + 1) (Nat.lt_succ_of_lt ordered) after sinceNow
      · rw [absent] at at_count
        contradiction
    | unnumbered absent full since =>
      rcases takes.taken with ⟨entry, -, -, -, room⟩ | ⟨-, -, -, after⟩
      · rw [room absent] at full
        contradiction
      · exact .unnumbered after (takes.full full) sinceNow
    | old _ valid before isUnseen => exact .old _ valid before (unseen isUnseen)
  · have since : (run.handled senderIp session content isMulticast parsed sender).since
        channel = run.since channel := by
      change (decide (channel = isMulticast) || run.since channel) = run.since channel
      rw [decide_eq_false same, Bool.false_or]
    exact holds.unchanged (takes.others channel same) takes.full since rfl unseen stored

/-- What is stored for the channel of a message. -/
theorem Latest.stored {session : SessionEntry} (next : run.Next receiverIp isMulticast)
    (takes : SessionManager.Takes receiverIp isMulticast run.sender session sender) :
    (run.handled senderIp session content isMulticast parsed sender).Latest receiverIp
      isMulticast session := by
  have sinceNow : (run.handled senderIp session content isMulticast parsed sender).since
      isMulticast = true := by
    change (decide (isMulticast = isMulticast) || run.since isMulticast) = true
    rw [decide_eq_true rfl, Bool.true_or]
  rcases next.session takes with ⟨count, rfl, -, after, -⟩ | ⟨rfl, -, full, after⟩
  · exact .current count (count + 1) (Nat.lt_succ_self count) after sinceNow
  · exact .unnumbered after (takes.full full) sinceNow

theorem Invariant.handled {session : SessionEntry} (invariant : Invariant senderIp receiverIp run)
    (takes : SessionManager.Takes receiverIp isMulticast run.sender session sender)
    (detectable : run.expected isMulticast = true → parsed = true ∧
      run.stored isMulticast = true ∧ session ≠ { sessionId := 0, rebootFlag := false }) :
    Invariant senderIp receiverIp
      (run.handled senderIp session content isMulticast parsed sender) := by
  have reported := invariant.evaluate takes detectable
  have calls : (run.handled senderIp session content isMulticast parsed sender).calls =
      if run.expected isMulticast = true then run.calls + 1 else run.calls := by
    rw [← reported]
    change (if (handleMessage _ _ _ _ _).1 = true then _ else _) = _
    rw [SdMessageParser.handleMessage_finishMessage]
    rfl
  have tracker : (run.handled senderIp session content isMulticast parsed sender).tracker =
      if parsed = true then
        run.tracker.apply (RebootTracker.sessionOf senderIp isMulticast session)
      else run.tracker := by
    change (handleMessage _ _ _ _ _).2 = _
    rw [SdMessageParser.handleMessage_finishMessage]
    rfl
  -- the tracker judges the message as `evaluate` did, also where it inserts the sender first
  have judged : reboots (((run.tracker.endpoints.find? senderIp).getD
      .initActiveReboot).latest isMulticast) session = run.expected isMulticast := by
    cases found : run.tracker.endpoints.find? senderIp with
    | some endpoint => rw [← reported, RebootTracker.evaluate_of_some found, getD_some]
    | none =>
      have unexpected : run.expected isMulticast = false := by
        rw [← reported]
        exact RebootTracker.evaluate_of_none found ((invariant.next isMulticast).valid takes)
      have nothing : RebootTrackerEndpoint.initActiveReboot.latest isMulticast =
          { sessionId := 0, rebootFlag := true } := by
        cases isMulticast <;> rfl
      rw [unexpected, getD_none, nothing]
      exact RebootTrackerEndpoint.reboots_nothing ((invariant.next isMulticast).valid takes)
  have stored : ∀ channel,
      (run.handled senderIp session content isMulticast parsed sender).stored channel =
        (!run.expected isMulticast &&
          ((channel = isMulticast && parsed && run.hasRoom senderIp) || run.stored channel)) :=
    fun _ => rfl
  refine ⟨?_, ?_, ?_, ?_⟩
  · rw [ReportsOnce, calls, shown_handled]
    have once := invariant.reports
    rw [ReportsOnce] at once
    rw [expected, once]
    cases run.shown <;> cases run.before isMulticast <;> rfl
  · intro channel
    by_cases same : channel = isMulticast
    · subst same
      have sinceNow : (run.handled senderIp session content channel parsed sender).since
          channel = true := by
        change (decide (channel = channel) || run.since channel) = true
        rw [decide_eq_true rfl, Bool.true_or]
      rcases (invariant.next channel).session takes with ⟨count, -, -, after, -⟩ |
        ⟨-, -, full, after⟩
      · refine .counted (count + 1) ?_ ?_ ?_
        · change (sender.position receiverIp channel).getD .initial = _
          rw [after]
          rfl
        · intro absent
          change sender.position receiverIp channel = none at absent
          rw [after] at absent
          contradiction
        · rw [sinceNow, eq_comm, decide_eq_true_eq]
          exact Nat.succ_pos count
      · exact .unnumbered after (takes.full full)
    · have since : (run.handled senderIp session content isMulticast parsed sender).since
          channel = run.since channel := by
        change (decide (channel = isMulticast) || run.since channel) = run.since channel
        rw [decide_eq_false same, Bool.false_or]
      exact (invariant.next channel).unchanged (takes.others channel same) takes.full since
  · intro unknown channel
    rw [stored]
    by_cases should : run.expected isMulticast = true
    · rw [should]
      rfl
    · rw [Bool.not_eq_true] at should
      rw [tracker] at unknown
      cases parsed with
      | false =>
        rw [invariant.unknown unknown channel, Bool.and_false, Bool.false_and, Bool.false_or,
          Bool.and_false]
      | true =>
        rw [if_pos rfl, RebootTracker.find?_apply, judged, should,
          if_neg Bool.false_ne_true] at unknown
        rw [hasRoom]
        split at unknown
        · contradiction
        · rename_i noRoom
          rw [Bool.not_eq_true] at noRoom
          have absent : run.tracker.endpoints.find? senderIp = none := by
            rw [Bool.or_eq_false_iff, isSome_eq_false_iff,
              isNone_iff_eq_none] at noRoom
            exact noRoom.1
          rw [noRoom, invariant.unknown absent channel, Bool.and_false, Bool.false_or,
            Bool.and_false]
  · intro endpoint known channel
    rw [tracker] at known
    cases parsed with
    | false =>
      have unexpected : run.expected isMulticast = false := by
        rw [← Bool.not_eq_true]
        intro should
        exact absurd (detectable should).1 Bool.false_ne_true
      apply (invariant.known endpoint known channel).handled takes unexpected
      rw [stored, unexpected, Bool.and_false, Bool.false_and, Bool.false_or, Bool.not_false,
        Bool.true_and]
    | true =>
      rw [if_pos rfl, RebootTracker.find?_apply, judged] at known
      split at known
      · split at known
        · contradiction
        · rename_i should
          rw [Bool.not_eq_true] at should
          cases known
          rw [RebootTrackerEndpoint.latest_set]
          by_cases same : channel = isMulticast
          · subst same
            rw [if_pos rfl]
            exact .stored (invariant.next channel) takes
          · have keeps : (run.handled senderIp session content isMulticast true
                sender).stored channel = run.stored channel := by
              rw [stored, should, decide_eq_false same, Bool.false_and, Bool.false_and,
                Bool.false_or, Bool.not_false, Bool.true_and]
            rw [if_neg same]
            cases found : run.tracker.endpoints.find? senderIp with
            | some endpoint =>
              exact (invariant.known endpoint found channel).handled takes should keeps
            | none =>
              have nothing : RebootTrackerEndpoint.initActiveReboot.latest channel =
                  { sessionId := 0, rebootFlag := true } := by
                cases channel <;> rfl
              rw [getD_none, nothing]
              exact .nothing (keeps.trans (invariant.unknown found channel))
      · contradiction

theorem Invariant.initial (start : Initial run) : Invariant senderIp receiverIp run := by
  rw [start]
  refine ⟨rfl, ?_, fun _ _ => rfl, ?_⟩
  · intro channel
    apply Next.counted 0
    · cases channel <;> rfl
    · exact fun _ => rfl
    · rfl
  · intro endpoint known
    contradiction

/-- A restart makes whatever is stored old. -/
theorem Invariant.restart (invariant : Invariant senderIp receiverIp run) :
    Invariant senderIp receiverIp
      { run with
        sender := run.sender.init
        before := fun channel => run.before channel || run.since channel
        since := fun _ => false
        calls := 0 } := by
  have unseen : shown
      { run with
        sender := run.sender.init
        before := fun channel => run.before channel || run.since channel
        since := fun _ => false
        calls := 0 } = false := by
    simp only [shown, Bool.and_false, Bool.or_false]
  refine ⟨?_, ?_, invariant.unknown, ?_⟩
  · rw [ReportsOnce, unseen]
    rfl
  · intro channel
    apply Next.counted 0
    · cases channel <;> rfl
    · exact fun _ => rfl
    · rfl
  · intro endpoint known channel
    have latest := invariant.known endpoint known channel
    generalize endpoint.latest channel = stored at latest ⊢
    cases latest with
    | nothing none => exact .nothing none
    | current earlier count ordered at_count since =>
      refine .old _ (Or.inr ?_) (by simp only [since, Bool.or_true]) unseen
      rw [UInt16.le_iff_toNat_le, SessionEntry.toNat_numbered]
      exact Nat.le_add_right ..
    | unnumbered absent full since =>
      exact .old _ (Or.inl rfl) (by simp only [since, Bool.or_true]) unseen
    | old stored valid before _ =>
      exact .old _ valid (by simp only [before, Bool.true_or]) unseen

theorem invariant_inductive :
    ((system senderIp receiverIp).restrict (Detectable receiverIp)).Inductive
      (Invariant senderIp receiverIp) where
  initial := Invariant.initial
  step := by
    rintro source event target invariant ⟨performed, detectable⟩
    cases event with
    | multicast content parsed =>
      cases performed
      apply invariant.handled (source.sender.takes_multicast receiverIp)
      intro should
      obtain ⟨relevant, stored⟩ := detectable should
      refine ⟨relevant, stored, ?_⟩
      intro unnumbered
      rcases (invariant.next true).session (source.sender.takes_multicast receiverIp) with
        ⟨count, numbered, -⟩ | ⟨-, absent, -⟩
      · rw [unnumbered] at numbered
        have value := SessionEntry.toNat_numbered count
        rw [← numbered] at value
        change 0 = 1 + count % 65535 at value
        omega
      · exact absurd absent (some_ne_none _)
    | unicast destination content parsed =>
      by_cases addressed : destination = receiverIp
      · subst addressed
        change (if destination = destination then _ else _) = some target at performed
        rw [if_pos rfl] at performed
        cases performed
        apply invariant.handled (source.sender.takes_unicast destination)
        intro should
        obtain ⟨relevant, stored, room⟩ := detectable rfl should
        refine ⟨relevant, stored, ?_⟩
        intro unnumbered
        rcases (invariant.next false).session (source.sender.takes_unicast destination) with
          ⟨count, numbered, -⟩ | ⟨-, absent, full, -⟩
        · rw [unnumbered] at numbered
          have value := SessionEntry.toNat_numbered count
          rw [← numbered] at value
          change 0 = 1 + count % 65535 at value
          omega
        · change source.sender.endpoints.find? destination = none at absent
          rw [isNumbered, absent, full] at room
          contradiction
      · have positions := source.sender.unicast_other (Ne.symm addressed)
        change (if destination = receiverIp then _ else _) = some target at performed
        rw [if_neg addressed] at performed
        cases performed
        refine ⟨invariant.reports, ?_, invariant.unknown, ?_⟩
        · intro channel
          exact (invariant.next channel).unchanged (positions.1 channel) positions.2 rfl
        · intro endpoint known channel
          exact (invariant.known endpoint known channel).unchanged (positions.1 channel)
            positions.2 rfl rfl id rfl
    | foreign source' message isMulticast parsed =>
      change (if source' = senderIp then none else _) = some target at performed
      split at performed
      · contradiction
      · rename_i different
        cases performed
        have same := RebootTracker.find?_handleMessage_of_ne source.tracker
          (Ne.symm different) message isMulticast parsed
        refine ⟨invariant.reports, ?_, ?_, ?_⟩
        · intro channel
          exact (invariant.next channel).unchanged rfl id rfl
        · intro unknown channel
          exact invariant.unknown (same.symm.trans unknown) channel
        · intro endpoint known channel
          exact (invariant.known endpoint (same.symm.trans known) channel).unchanged rfl id rfl
            rfl id rfl
    | restart =>
      cases performed
      exact invariant.restart

/-- Where every restart is detectable it is reported exactly once, by the first message of
a channel that had messages before, and nothing else is reported. -/
theorem reboot_reported_once {run : RebootRun IPAddress}
    (reached : ((system senderIp receiverIp).restrict (Detectable receiverIp)).Reachable run) :
    run.ReportsOnce :=
  (invariant_inductive.of_reachable reached).reports

/-- Both sides have room for two addresses. -/
def sample : RebootRun Nat :=
  { sender := { endpoints := { capacity := 2 } }, tracker := { endpoints := { capacity := 2 } } }

theorem sample_initial : Initial sample :=
  rfl

/-- What follows the flags of a message without entries. -/
def emptyContent : List UInt8 :=
  [0, 0, 0, 0, 0, 0, 0, 0, 0, 0, 0]

/-- An entry that looks for a service the receiver is interested in. -/
def findContent : List UInt8 :=
  [0, 0, 0, 0, 0, 0, 16, 0, 0, 0, 0, 0x12, 0x34, 0xFF, 0xFF, 0xFF, 0, 0, 3, 0xFF, 0xFF, 0xFF,
    0xFF, 0, 0, 0, 0]

/-- One message, a restart that an irrelevant message on a new channel does not show,
and two messages that do. -/
def sampleEvents : List (RebootEvent Nat) :=
  [.multicast findContent true, .restart, .unicast 2 emptyContent false,
    .multicast findContent true, .multicast findContent true]

def sampleRun : RebootRun Nat :=
  (System.play (System.performIf (perform 1 2) (Detectable 2)) sample sampleEvents).get (by decide)

theorem reboot_reported_once_sample : sampleRun.ReportsOnce ∧ sampleRun.calls = 1 := by
  refine ⟨?_, by decide⟩
  have played : System.play (System.performIf (perform 1 2) (Detectable 2)) sample sampleEvents =
      some sampleRun := (some_get _).symm
  exact reboot_reported_once (System.Reachable.play_performIf id (.initial sample_initial) played)

/-- After the first detection the receiver has dropped the sender, together with the
message that showed the restart. -/
def restartAgain : List (RebootEvent Nat) :=
  [.multicast findContent true, .restart, .multicast findContent true, .restart,
    .multicast findContent true]

theorem not_reported_again :
    ¬∀ run : RebootRun Nat, (system 1 2).Reachable run → run.ReportsOnce := by
  intro always
  have played : System.play (perform 1 2) sample restartAgain =
      some ((System.play (perform 1 2) sample restartAgain).get (by decide)) :=
    (some_get _).symm
  have once := always _ (System.Reachable.play id (.initial sample_initial) played)
  exact absurd once (by rw [ReportsOnce]; decide)

end RebootRun

end OpenBsw.Someip
