import OpenBsw.Docan.Datalink.FrameCodec
import OpenBsw.Transition.System

/-!
# The physical CAN transceiver

`DoCanPhysicalCanTransceiver` passes one data frame at a time to a CAN
transceiver and reports its confirmation to the sender.  The CAN transceiver
is the environment: it decides the result of a write and confirms each frame
it accepted exactly once, in the order of the writes.
-/

namespace OpenBsw.Docan

open OpenBsw.Bytes

/-! ## Sending data frames -/

/-- `DoCanJobHandle<uint16_t, uint16_t>` -/
structure JobHandle where
  counter : UInt16 := 0
  userData : UInt16 := 0
  deriving DecidableEq, Repr

inductive SendResult where
  | queued
  | queuedFull
  | full
  | invalid
  | failed
  deriving DecidableEq, Repr

/-- The error codes of a CAN transceiver. -/
inductive CanErrorCode where
  | ok
  | txFail
  | txHwQueueFull
  | txOffline
  | illegalState
  | noMoreListenersPossible
  | unsupportedBaudrate
  | initFailed
  deriving DecidableEq, Repr

/-- A frame handed to the CAN transceiver. -/
structure CanFrame where
  id : Nat
  payload : List UInt8
  deriving DecidableEq, Repr

/-- The part of an addressing class that senders use: the CAN identifier of an
address and the payload with its address extension. -/
structure Addressing (Address : Type) where
  encodeTransmissionAddress : Address → List UInt8 → Nat × List UInt8

/-- `DoCanNormalAddressing`: the address is the CAN identifier. -/
def Addressing.normal : Addressing Nat where
  encodeTransmissionAddress transmissionAddress payload := (transmissionAddress, payload)

/-- The arguments of `startSendDataFrames`.  The last frame index is left out:
the implementation ignores it. -/
structure SendRequest (Callback Address : Type) where
  layer : DataLinkLayer
  config : FrameCodecConfig
  mapper : FrameSizeMapper
  callback : Callback
  jobHandle : JobHandle
  transmissionAddress : Address
  firstFrameIndex : Nat
  consecutiveFrameDataSize : Nat
  data : List UInt8

/-- The members that sending uses.  `buffer` is the payload array of the frame
member, which every frame is encoded into. -/
structure PhysicalCanTransceiver (Callback : Type) where
  buffer : List UInt8
  sendCallback : Option Callback := none
  sendJobHandle : JobHandle := {}
  sendDataSize : Nat := 0
  sendPending : Bool := false

namespace PhysicalCanTransceiver

variable {Callback Address : Type}

section Operations

variable (addressing : Addressing Address)

def encode (transceiver : PhysicalCanTransceiver Callback)
    (request : SendRequest Callback Address) : Except CodecResult (List UInt8 × Nat) :=
  encodeDataFrame request.layer request.config request.mapper transceiver.buffer request.data
    request.firstFrameIndex request.consecutiveFrameDataSize

/-- Encode a frame and write it.  `writeResult` is what the CAN transceiver
answers; the frame is returned when it was accepted. -/
def startSendDataFrames (transceiver : PhysicalCanTransceiver Callback)
    (request : SendRequest Callback Address) (writeResult : CanErrorCode) :
    PhysicalCanTransceiver Callback × SendResult × Option CanFrame :=
  if transceiver.sendPending then (transceiver, .full, none)
  else
    match transceiver.encode request with
    | .error _ => (transceiver, .invalid, none)
    | .ok (payload, sendDataSize) =>
      let (id, payload) := addressing.encodeTransmissionAddress request.transmissionAddress payload
      let encoded :=
        { transceiver with buffer := overwrite transceiver.buffer 0 payload, sendDataSize }
      if writeResult = .ok then
        ({ encoded with
            sendPending := true
            sendCallback := some request.callback
            sendJobHandle := request.jobHandle },
          .queuedFull, some { id, payload })
      else if writeResult ≠ .txHwQueueFull then (encoded, .failed, none)
      else (encoded, .full, none)

def cancelSendDataFrames [DecidableEq Callback]
    (transceiver : PhysicalCanTransceiver Callback) (callback : Callback)
    (jobHandle : JobHandle) : PhysicalCanTransceiver Callback :=
  if transceiver.sendPending ∧ transceiver.sendCallback = some callback ∧
      transceiver.sendJobHandle = jobHandle then
    { transceiver with sendPending := false, sendCallback := none }
  else transceiver

/-- The call of `dataFramesSent` a confirmation leads to. -/
structure DataFramesSent (Callback : Type) where
  callback : Callback
  jobHandle : JobHandle
  frameCount : Nat
  dataSize : Nat
  deriving DecidableEq

def canFrameSent (transceiver : PhysicalCanTransceiver Callback) :
    PhysicalCanTransceiver Callback × Option (DataFramesSent Callback) :=
  if transceiver.sendPending then
    ({ transceiver with sendPending := false },
      transceiver.sendCallback.map fun callback =>
        { callback
          jobHandle := transceiver.sendJobHandle
          frameCount := 1
          dataSize := transceiver.sendDataSize })
  else (transceiver, none)

end Operations

/-! ## The transceiver on a CAN bus -/

/-- A frame the CAN transceiver has accepted and not confirmed, with the job it
was written for. -/
structure WrittenFrame (Callback : Type) where
  frame : CanFrame
  callback : Callback
  jobHandle : JobHandle
  dataSize : Nat
  cancelled : Bool := false

/-- A callback, with the frame whose confirmation caused it. -/
structure Report (Callback : Type) where
  call : DataFramesSent Callback
  confirmed : WrittenFrame Callback

structure Bus (Callback : Type) where
  transceiver : PhysicalCanTransceiver Callback
  unconfirmed : List (WrittenFrame Callback) := []
  reports : List (Report Callback) := []

inductive BusEvent (Callback Address : Type) where
  | startSendDataFrames (request : SendRequest Callback Address) (writeResult : CanErrorCode)
  | cancelSendDataFrames (callback : Callback) (jobHandle : JobHandle)
  | canFrameSent

/-- Record in the written frames that a job has been cancelled. -/
def WrittenFrame.cancel [DecidableEq Callback] (callback : Callback) (jobHandle : JobHandle)
    (written : WrittenFrame Callback) : WrittenFrame Callback :=
  if written.callback = callback ∧ written.jobHandle = jobHandle then
    { written with cancelled := true }
  else written

/-- One operation of the bus; a confirmation needs a frame to confirm. -/
def Bus.next [DecidableEq Callback] (addressing : Addressing Address) (bus : Bus Callback) :
    BusEvent Callback Address → Option (Bus Callback)
  | .startSendDataFrames request writeResult =>
    let (transceiver, _, frame) :=
      bus.transceiver.startSendDataFrames addressing request writeResult
    let written := frame.map fun frame =>
      { frame
        callback := request.callback
        jobHandle := request.jobHandle
        dataSize := transceiver.sendDataSize : WrittenFrame Callback }
    some { bus with transceiver, unconfirmed := bus.unconfirmed ++ written.toList }
  | .cancelSendDataFrames callback jobHandle =>
    some
      { bus with
        transceiver := bus.transceiver.cancelSendDataFrames callback jobHandle
        unconfirmed := bus.unconfirmed.map (WrittenFrame.cancel callback jobHandle) }
  | .canFrameSent =>
    match bus.unconfirmed with
    | [] => none
    | confirmed :: unconfirmed =>
      let (transceiver, call) := bus.transceiver.canFrameSent
      let report := call.map fun call => { call, confirmed : Report Callback }
      some { transceiver, unconfirmed, reports := bus.reports ++ report.toList }

def system [DecidableEq Callback] (addressing : Addressing Address) :
    Transition.System (Bus Callback) (BusEvent Callback Address) where
  Initial bus := ∃ buffer, bus = { transceiver := { buffer } }
  Step source event target := source.next addressing event = some target

/-- The callback names the job of the confirmed frame, which is not cancelled. -/
structure Report.Attributed (report : Report Callback) : Prop where
  callback : report.call.callback = report.confirmed.callback
  jobHandle : report.call.jobHandle = report.confirmed.jobHandle
  frameCount : report.call.frameCount = 1
  dataSize : report.call.dataSize = report.confirmed.dataSize
  active : report.confirmed.cancelled = false

/-- A frame is written only when no earlier one is unconfirmed. -/
def WritesInTurn (bus : Bus Callback) : BusEvent Callback Address → Prop
  | .startSendDataFrames request writeResult =>
    bus.transceiver.sendPending = false →
    (bus.transceiver.encode request).isOk →
    writeResult = .ok → bus.unconfirmed = []
  | _ => True

/-! ## Confirmations are attributed to the right job -/

section Attribution

variable {addressing : Addressing Address} {transceiver : PhysicalCanTransceiver Callback}

/-- A start either changes nothing that a confirmation reads, or writes a frame
for its job. -/
theorem startSendDataFrames_cases (addressing : Addressing Address)
    (transceiver : PhysicalCanTransceiver Callback)
    (request : SendRequest Callback Address) (writeResult : CanErrorCode) :
    (∃ unchanged result,
      transceiver.startSendDataFrames addressing request writeResult = (unchanged, result, none) ∧
      unchanged.sendPending = transceiver.sendPending ∧
      (transceiver.sendPending = true → unchanged = transceiver)) ∨
    (transceiver.sendPending = false ∧ (transceiver.encode request).isOk ∧ writeResult = .ok ∧
      ∃ sending result frame,
        transceiver.startSendDataFrames addressing request writeResult =
          (sending, result, some frame) ∧
        sending.sendPending = true ∧ sending.sendCallback = some request.callback ∧
        sending.sendJobHandle = request.jobHandle) := by
  unfold startSendDataFrames
  split
  · exact .inl ⟨_, _, rfl, rfl, fun _ => rfl⟩
  rename_i idle
  simp only [Bool.not_eq_true] at idle
  split
  · exact .inl ⟨_, _, rfl, rfl, fun _ => rfl⟩
  rename_i payload sendDataSize encoded
  dsimp only
  split
  · rename_i accepted
    exact .inr ⟨idle, by rw [encoded]; rfl, accepted, _, _, _, rfl, rfl, rfl, rfl⟩
  · split
    · exact .inl ⟨_, _, rfl, rfl, fun pending => by simp [idle] at pending⟩
    · exact .inl ⟨_, _, rfl, rfl, fun pending => by simp [idle] at pending⟩

/-- At most one frame is unconfirmed; it is the one the transceiver waits for
unless its job has been cancelled. -/
inductive InTurn (transceiver : PhysicalCanTransceiver Callback) :
    List (WrittenFrame Callback) → Prop
  | idle (notPending : transceiver.sendPending = false) : InTurn transceiver []
  | cancelled {written : WrittenFrame Callback} (notPending : transceiver.sendPending = false)
      (cancelled : written.cancelled = true) : InTurn transceiver [written]
  | pending {written : WrittenFrame Callback} (pending : transceiver.sendPending = true)
      (callback : transceiver.sendCallback = some written.callback)
      (jobHandle : transceiver.sendJobHandle = written.jobHandle)
      (dataSize : transceiver.sendDataSize = written.dataSize)
      (active : written.cancelled = false) : InTurn transceiver [written]

structure Bus.Attributed (bus : Bus Callback) : Prop where
  inTurn : InTurn bus.transceiver bus.unconfirmed
  reports : ∀ report ∈ bus.reports, report.Attributed

theorem InTurn.of_idle {unchanged : PhysicalCanTransceiver Callback}
    {unconfirmed : List (WrittenFrame Callback)} (inTurn : InTurn transceiver unconfirmed)
    (pendingEq : unchanged.sendPending = transceiver.sendPending)
    (kept : transceiver.sendPending = true → unchanged = transceiver) :
    InTurn unchanged unconfirmed := by
  cases inTurn with
  | idle notPending => exact .idle (pendingEq.trans notPending)
  | cancelled notPending cancelled => exact .cancelled (pendingEq.trans notPending) cancelled
  | pending pending callback jobHandle dataSize active =>
    rw [kept pending]
    exact .pending pending callback jobHandle dataSize active

/-- A confirmation of the only unconfirmed frame is reported for its job, or
not at all if the job has been cancelled. -/
theorem InTurn.canFrameSent {confirmed : WrittenFrame Callback}
    {unconfirmed : List (WrittenFrame Callback)}
    (inTurn : InTurn transceiver (confirmed :: unconfirmed)) :
    InTurn transceiver.canFrameSent.1 unconfirmed ∧
      ∀ call ∈ transceiver.canFrameSent.2, Report.Attributed { call, confirmed } := by
  unfold PhysicalCanTransceiver.canFrameSent
  cases inTurn with
  | cancelled notPending cancelled =>
    rw [if_neg (by simp [notPending])]
    exact ⟨.idle notPending, by simp⟩
  | pending pending callback jobHandle dataSize active =>
    rw [if_pos pending, callback]
    refine ⟨.idle rfl, ?_⟩
    rintro call named
    cases named
    exact ⟨rfl, jobHandle, rfl, dataSize, active⟩

variable [DecidableEq Callback]

theorem InTurn.cancelSendDataFrames {unconfirmed : List (WrittenFrame Callback)}
    (inTurn : InTurn transceiver unconfirmed) (callback : Callback) (jobHandle : JobHandle) :
    InTurn (transceiver.cancelSendDataFrames callback jobHandle)
      (unconfirmed.map (WrittenFrame.cancel callback jobHandle)) := by
  cases inTurn with
  | idle notPending =>
    rw [PhysicalCanTransceiver.cancelSendDataFrames, if_neg (by simp [notPending])]
    exact .idle notPending
  | @cancelled written notPending cancelled =>
    rw [PhysicalCanTransceiver.cancelSendDataFrames, if_neg (by simp [notPending])]
    refine .cancelled notPending ?_
    unfold WrittenFrame.cancel
    split
    · rfl
    · exact cancelled
  | @pending written pending callbackEq jobHandleEq dataSize active =>
    by_cases same : written.callback = callback ∧ written.jobHandle = jobHandle
    · obtain ⟨rfl, rfl⟩ := same
      rw [PhysicalCanTransceiver.cancelSendDataFrames,
        if_pos ⟨pending, callbackEq, jobHandleEq⟩]
      exact .cancelled rfl (by simp [WrittenFrame.cancel])
    · have other : ¬(transceiver.sendPending = true ∧
          transceiver.sendCallback = some callback ∧
          transceiver.sendJobHandle = jobHandle) := by
        rintro ⟨-, sameCallback, sameJobHandle⟩
        rw [callbackEq, Option.some.injEq] at sameCallback
        exact same ⟨sameCallback, jobHandleEq ▸ sameJobHandle⟩
      have kept : written.cancel callback jobHandle = written := if_neg same
      rw [PhysicalCanTransceiver.cancelSendDataFrames, if_neg other, List.map_singleton, kept]
      exact .pending pending callbackEq jobHandleEq dataSize active

theorem attributed_inductive (addressing : Addressing Address) :
    ((system addressing).restrict WritesInTurn).Inductive
      (Bus.Attributed : Bus Callback → Prop) where
  initial := by
    rintro _ ⟨buffer, rfl⟩
    exact ⟨.idle rfl, by simp⟩
  step := by
    rintro source event target attributed ⟨stepped, writesInTurn⟩
    cases event with
    | startSendDataFrames request writeResult =>
      rcases startSendDataFrames_cases addressing source.transceiver request
        writeResult with
        ⟨unchanged, result, started, pendingEq, kept⟩ |
        ⟨idle, encodes, accepted, sending, result, frame, started, pending, callback, jobHandle⟩
      · simp only [system, Bus.next, started, Option.map_none, Option.toList_none,
          List.append_nil, Option.some.injEq] at stepped
        subst stepped
        exact ⟨attributed.inTurn.of_idle pendingEq kept, attributed.reports⟩
      · have unconfirmedEq := writesInTurn idle encodes accepted
        simp only [system, Bus.next, started, Option.map_some, Option.toList_some,
          unconfirmedEq, List.nil_append, Option.some.injEq] at stepped
        subst stepped
        exact ⟨.pending pending callback jobHandle rfl rfl, attributed.reports⟩
    | cancelSendDataFrames callback jobHandle =>
      cases stepped
      exact ⟨attributed.inTurn.cancelSendDataFrames callback jobHandle, attributed.reports⟩
    | canFrameSent =>
      have inTurn := attributed.inTurn
      simp only [system, Bus.next] at stepped
      split at stepped
      · contradiction
      rename_i confirmed unconfirmed unconfirmedEq
      rw [unconfirmedEq] at inTurn
      obtain ⟨later, attributedCall⟩ := inTurn.canFrameSent
      cases stepped
      refine ⟨later, ?_⟩
      intro report member
      rw [List.mem_append, Option.mem_toList] at member
      rcases member with earlier | last
      · exact attributed.reports report earlier
      · obtain ⟨call, called, rfl⟩ := Option.map_eq_some_iff.mp last
        exact attributedCall call called

/-- As long as no frame is written while an earlier one is unconfirmed, every
callback reports the frame whose confirmation caused it.

The transceiver stores one job and ignores which frame is confirmed, so it is
the order of the writes that has to keep the two together. -/
theorem attributed_of_writesInTurn {addressing : Addressing Address} {bus : Bus Callback}
    (reached : ((system addressing).restrict WritesInTurn).Reachable bus) :
    ∀ report ∈ bus.reports, report.Attributed :=
  ((attributed_inductive addressing).of_reachable reached).reports

theorem reachable_next {addressing : Addressing Address} {bus : Bus Callback}
    {Condition : Bus Callback → BusEvent Callback Address → Prop}
    (reached : ((system addressing).restrict Condition).Reachable bus)
    (event : BusEvent Callback Address) (met : Condition bus event)
    (possible : (bus.next addressing event).isSome) :
    ((system addressing).restrict Condition).Reachable
      ((bus.next addressing event).get possible) :=
  reached.step
    (⟨(Option.some_get possible).symm, met⟩ :
      ((system addressing).restrict Condition).Step bus event _)

/-- A request to send a message in a single classic frame. -/
def singleFrameRequest (counter : UInt16) (data : List UInt8) : SendRequest Nat Nat where
  layer := .standard
  config := .paddedClassic
  mapper := .default
  callback := 0
  jobHandle := { counter }
  transmissionAddress := 0x600
  firstFrameIndex := 0
  consecutiveFrameDataSize := 0
  data

/-- A frame that is written and confirmed is reported for its job. -/
theorem attributed_of_writesInTurn_singleFrame :
    ∃ bus : Bus Nat, ((system .normal).restrict WritesInTurn).Reachable bus ∧
      bus.reports.length = 1 ∧ ∀ report ∈ bus.reports, report.Attributed := by
  have start : ((system .normal).restrict WritesInTurn).Reachable
      { transceiver := { buffer := List.replicate 8 0 } : Bus Nat } :=
    .initial ⟨_, rfl⟩
  have written := reachable_next start
    (.startSendDataFrames (singleFrameRequest 1 [1, 2]) .ok) (fun _ _ _ => rfl) rfl
  have confirmed := reachable_next written .canFrameSent trivial rfl
  exact ⟨_, confirmed, rfl, attributed_of_writesInTurn confirmed⟩

/-- The confirmation of a frame whose job has been cancelled is reported for
the job that was started after it. -/
theorem not_attributed_afterCancel :
    ∃ bus : Bus Nat, (system .normal).Reachable bus ∧
      ∃ report ∈ bus.reports, ¬report.Attributed ∧
        report.confirmed.jobHandle = { counter := 1 } ∧
        report.call.jobHandle = { counter := 2 } := by
  have start : ((system .normal).restrict fun _ _ => True).Reachable
      { transceiver := { buffer := List.replicate 8 0 } : Bus Nat } :=
    .initial ⟨_, rfl⟩
  have first := reachable_next start
    (.startSendDataFrames (singleFrameRequest 1 [1, 2]) .ok) trivial rfl
  have cancelled := reachable_next first (.cancelSendDataFrames 0 { counter := 1 }) trivial rfl
  have second := reachable_next cancelled
    (.startSendDataFrames (singleFrameRequest 2 [3]) .ok) trivial rfl
  have confirmed := reachable_next second .canFrameSent trivial rfl
  exact ⟨_, confirmed.of_restrict, _, List.mem_singleton_self _,
    by rintro ⟨-, -, -, -, active⟩; contradiction, rfl, rfl⟩

end Attribution

end PhysicalCanTransceiver

end OpenBsw.Docan
