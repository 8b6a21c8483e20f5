import OpenBsw.Docan.Receiver.Operations

/-!
# Runs of the receiver

Every operation brings the receiver back to its state between operations and
consists of actions, unless an assertion fails or the environment breaks its
contract.  So do runs from the start.
-/

namespace OpenBsw.Docan

open OpenBsw.Transition
open OpenBsw.Transport

namespace Receiver

open MessageReceiver

variable {Address : Type} [DecidableEq Address]
  {Takes : MessageReceiver Address → UInt8 → List UInt8 → Prop}
  {Starts : FirstDataFrame Address → Prop} {always : Prop} {config : ReceiverConfig Address}
  {source : Receiver Address}

/-! ## Conditions on the environment -/

/-- The message receiver a consecutive frame is for, when it is expected and
long enough. -/
def TakesAt (Takes : MessageReceiver Address → UInt8 → List UInt8 → Prop)
    (source : Receiver Address) (receptionAddress : Address) (sequenceNumber : UInt8)
    (data : List UInt8) : Prop :=
  ∀ position receiver message,
    source.findMessageReceiver receptionAddress = some position →
    source.messageReceivers[position]? = some receiver → receiver.message = some message →
    receiver.expectedConsecutiveFrameDataSize message.validBytes ≤ data.length →
    Takes receiver sequenceNumber data

/-- The condition on an operation under which its actions meet the conditions
on frames. -/
def Meets (Takes : MessageReceiver Address → UInt8 → List UInt8 → Prop)
    (Starts : FirstDataFrame Address → Prop) (source : Receiver Address) :
    ReceiverOperation Address → Prop
  | .firstDataFrameReceived frame => Starts frame
  | .consecutiveDataFrameReceived receptionAddress sequenceNumber data =>
    TakesAt Takes source receptionAddress sequenceNumber data
  | _ => True

theorem meets_true (source : Receiver Address) (operation : ReceiverOperation Address) :
    Meets (fun _ _ _ => True) (fun _ => True) source operation := by
  cases operation with
  | firstDataFrameReceived => trivial
  | consecutiveDataFrameReceived => exact fun _ _ _ _ _ _ _ => trivial
  | _ => trivial

/-! ## Operations -/

/-- What the operations establish: the receiver is idle again, and it has only
taken actions. -/
def Completes (Takes : MessageReceiver Address → UInt8 → List UInt8 → Prop)
    (Starts : FirstDataFrame Address → Prop) (always : Prop) (config : ReceiverConfig Address)
    (source target : Receiver Address) : Prop :=
  target.Idle always config ∧ Actions Takes Starts source target

theorem completes_self (idle : source.Idle always config) :
    Completes Takes Starts always config source source :=
  ⟨idle, .refl⟩

theorem guarded_completes {operation : Receiver Address → Except Halt (Receiver Address)}
    (idle : source.Idle always config)
    (worked : Outcome (operation { source with removeLockCount := 1 })
      (Worked Takes Starts (AtRest always) { source with removeLockCount := 1 }) Halt.Excused) :
    Outcome (source.guarded operation) (Completes Takes Starts always config source)
      Halt.Excused :=
  (guarded_outcome idle (fun _ atRest => atRest) worked).mono fun _ ended => ⟨ended.1, ended.2.1⟩

section

variable (environment : ReceiverEnvironment)
  (sends : always → ∀ calls, environment.sendFlowControl calls = true)

include sends

theorem firstDataFrameReceived_completes {frame : FirstDataFrame Address}
    (idle : source.Idle always config) (starts : Starts frame) :
    Outcome (source.firstDataFrameReceived config environment frame)
      (Completes Takes Starts always config source) Halt.Excused := by
  unfold firstDataFrameReceived
  split
  · exact completes_self idle
  split
  · exact completes_self idle
  rename_i nonempty
  refine guarded_completes idle ?_
  split
  swap
  · have sweep : Sweep Takes Starts (AtRest always) { source with removeLockCount := 1 } 0 _ :=
      Sweep.start (Nat.zero_le _) idle.rests (by simp)
    exact sweep.atRest idle.rests
  split
  · rename_i poolEq
    simp [show source.pool = [] from poolEq] at nonempty
  · rename_i block pool poolEq
    have pending := handlePendingMessageReceivers_worked Takes Starts
      { source with removeLockCount := 1, pool } environment sends idle.rests
      frame.connection.dataLinkAddressPair.receptionAddress
    refine pending.bind ?_
    rintro ⟨state, blocked⟩ worked
    exact insert_worked Takes { source with removeLockCount := 1 } environment sends poolEq starts
      worked

theorem consecutiveDataFrameReceived_completes {receptionAddress : Address}
    {sequenceNumber : UInt8} {data : List UInt8} (idle : source.Idle always config)
    (takes : TakesAt Takes source receptionAddress sequenceNumber data) :
    Outcome (source.consecutiveDataFrameReceived environment receptionAddress sequenceNumber data)
      (Completes Takes Starts always config source) Halt.Excused := by
  unfold consecutiveDataFrameReceived
  cases found : source.findMessageReceiver receptionAddress with
  | none => exact completes_self idle
  | some position =>
    have inside : position < source.messageReceivers.length :=
      (List.findIdx?_eq_some_iff_getElem.mp found).1
    have entry := List.getElem?_eq_getElem inside
    simp only [receiverAt, entry, ok_bind]
    cases messageEq : (source.messageReceivers[position]).message with
    | none => exact completes_self idle
    | some message =>
      by_cases short : data.length <
          (source.messageReceivers[position]).expectedConsecutiveFrameDataSize
            message.validBytes
      · simp only [if_pos short]
        exact completes_self idle
      · have long := Nat.le_of_not_lt short
        simp only [if_neg short]
        refine guarded_completes idle ?_
        exact handleConsecutiveFrame_worked Takes Starts
          { source with removeLockCount := 1 } environment sends inside idle.rests
          (takes position _ message found entry messageEq long) messageEq long

theorem shutdown_completes (idle : source.Idle always config) :
    Outcome (source.shutdown environment) (Completes Takes Starts always config source)
      Halt.Excused :=
  guarded_completes idle
    (shutdown_worked Takes Starts { source with removeLockCount := 1 } environment sends idle.rests)

theorem processMessageReceivers_completes (idle : source.Idle always config) :
    Outcome (source.processMessageReceivers environment)
      (Completes Takes Starts always config source) Halt.Excused :=
  guarded_completes idle
    (processMessageReceivers_worked Takes Starts { source with removeLockCount := 1 } environment
      sends idle.rests)

/-- Sorting the list changes neither what it holds nor its blocks. -/
theorem cyclicTask_outcome {Visited : MessageReceiver Address → Prop} {nowUs : UInt32}
    (idle : source.Idle always config) (unblockable : Unblockable Visited)
    (settled : ∀ receiver : MessageReceiver Address, Visited receiver → receiver.AtRest always)
    (visits : ∀ receiver ∈ source.messageReceivers, ∀ settled : MessageReceiver Address,
      settled.AtRest always → settled.handler.patience ≤ receiver.handler.expired.1.patience →
      Visited settled)
    (others : (∃ receiver ∈ source.messageReceivers,
      (receiver.isTimerSet && receiver.timerExpired nowUs) = false) →
      ∀ receiver ∈ source.messageReceivers, Visited receiver) :
    Outcome (source.cyclicTask environment nowUs) (fun target =>
      Completes Takes Starts always config source target ∧
        ∀ receiver ∈ target.messageReceivers, Visited receiver) Halt.Excused := by
  have worked := cyclicTask_worked Takes Starts { source with removeLockCount := 1 } environment
    sends idle.rests unblockable visits others
  have ended : Outcome (source.guarded fun receiver =>
      iterate (expireAt environment nowUs) 0 receiver.messageReceivers.length receiver) _ _ :=
    guarded_outcome idle settled worked
  refine ended.bind ?_
  rintro target ⟨targetIdle, actions, visited⟩
  split
  swap
  · exact ⟨⟨targetIdle, actions⟩, visited⟩
  have sorted : (MergeSort.sort MessageReceiver.less target.messageReceivers).Perm
      target.messageReceivers := MergeSort.sort_perm _
  refine ⟨⟨⟨targetIdle.lock_eq, targetIdle.released_eq, ?_, ?_⟩, ?_⟩, ?_⟩
  · exact fun receiver member => targetIdle.rests receiver (sorted.mem_iff.mp member)
  · exact ((sorted.map block).append_right _).trans targetIdle.blocks
  · exact (actions.tail (.permute sorted)).tail (.bookkeeping _ _ _ false)
  · exact fun receiver member => visited receiver (sorted.mem_iff.mp member)

theorem cyclicTask_completes {nowUs : UInt32} (idle : source.Idle always config) :
    Outcome (source.cyclicTask environment nowUs) (Completes Takes Starts always config source)
      Halt.Excused :=
  (cyclicTask_outcome environment sends idle (unblockable_atRest always) (fun _ atRest => atRest)
    (fun _ _ _ atRest _ => atRest)
    (fun _ receiver member => .inl (idle.rests receiver member))).mono fun _ ended => ended.1

end

/-! ## Runs -/

/-- An operation completes, or it halts for a reason that is not the
receiver's. -/
theorem step_completes {event : ReceiverEvent Address}
    (sends : always → ∀ calls, event.environment.sendFlowControl calls = true)
    (idle : source.Idle always config) (meets : Meets Takes Starts source event.operation) :
    Outcome (source.step config event) (Completes Takes Starts always config source)
      Halt.Excused := by
  obtain ⟨environment, operation⟩ := event
  cases operation with
  | firstDataFrameReceived frame =>
    exact firstDataFrameReceived_completes environment sends idle meets
  | consecutiveDataFrameReceived receptionAddress sequenceNumber data =>
    exact consecutiveDataFrameReceived_completes environment sends idle meets
  | cyclicTask nowUs => exact cyclicTask_completes environment sends idle
  | transportMessageProcessed message =>
    exact ⟨⟨idle.lock_eq, idle.released_eq, idle.rests, idle.blocks⟩, .single (.call trivial)⟩
  | processMessageReceivers => exact processMessageReceivers_completes environment sends idle
  | shutdown => exact shutdown_completes environment sends idle

omit [DecidableEq Address] in
theorem idle_new : (new config).Idle always config where
  lock_eq := rfl
  released_eq := rfl
  rests _ member := absurd member List.not_mem_nil
  blocks := .refl _

/-- Between the operations of a run the receiver is idle, and it has only taken
actions since the start. -/
theorem completes_of_reachable {Condition : Receiver Address → ReceiverEvent Address → Prop}
    (sends : ∀ {source event}, Condition source event → always →
      ∀ calls, event.environment.sendFlowControl calls = true)
    (meets : ∀ {source : Receiver Address} {event}, source.Idle always config →
      Condition source event → Meets Takes Starts source event.operation)
    {receiver : Receiver Address}
    (reached : ((system config).restrict Condition).Reachable receiver) :
    Completes Takes Starts always config (new config) receiver := by
  have invariant : ((system config).restrict Condition).Inductive
      (Completes Takes Starts always config (new config)) :=
    { initial := by
        intro state start
        rw [show state = new config from start]
        exact completes_self idle_new
      step := by
        rintro source event target ⟨idle, actions⟩ ⟨stepped, condition⟩
        have completed := step_completes (sends condition) idle (meets idle condition)
        obtain ⟨targetIdle, further⟩ := completed.of_eq_ok stepped
        exact ⟨targetIdle, actions.trans further⟩ }
  exact invariant.of_reachable reached

/-! ## A concrete setting -/

def sampleConfig : ReceiverConfig Nat where
  invalidAddress := 0
  maxFirstFrameDataSize := 64
  poolSize := 2

/-- An environment in which everything succeeds, but for flow control frames. -/
def sampleEnvironment (sendsFlowControl : Bool) : ReceiverEnvironment where
  getTransportMessage calls :=
    { error := .ok
      message := some
        { id := calls
          buffer := List.replicate 16 0
          sourceAddress := 0
          targetAddress := 0
          payloadLength := 0
          validBytes := 0 } }
  sendFlowControl _ := sendsFlowControl
  messageReceived _ := true
  nowUs _ := 0
  waitAllocateTimeout := 1
  waitRxTimeout := 1
  maxAllocateRetryCount := 1
  maxBlockSize := 0
  encodedMinSeparationTime := 0

/-- The first frame of a message of ten bytes. -/
def sampleFrame : FirstDataFrame Nat where
  connection :=
    { config := .paddedClassic
      dataLinkAddressPair := { receptionAddress := 1, transmissionAddress := 2 }
      transportAddressPair := { sourceId := 3, targetId := 4 } }
  messageSize := 10
  frameCount := 2
  consecutiveFrameDataSize := 7
  data := [1, 2, 3, 4, 5, 6]

/-- The consecutive frame that completes it. -/
def sampleConsecutive : ReceiverOperation Nat :=
  .consecutiveDataFrameReceived 1 1 [7, 8, 9, 10, 0xCC, 0xCC, 0xCC]

/-- The receiver behind some events, or the new one when an operation halts. -/
def sampleRun (events : List (ReceiverEvent Nat)) : Receiver Nat :=
  (events.foldlM (step sampleConfig) (new sampleConfig)).toOption.getD (new sampleConfig)

/-- The events are played as long as the operations return. -/
theorem reachable_play {receiver : Receiver Nat} {events : List (ReceiverEvent Nat)}
    (played : System.play (fun source event => (step sampleConfig source event).toOption)
      (new sampleConfig) events = some receiver) : (system sampleConfig).Reachable receiver := by
  refine System.Reachable.play ?_ (.initial rfl) played
  intro source event target returned
  cases result : step sampleConfig source event with
  | ok next =>
    rw [result] at returned
    exact result.trans (congrArg Except.ok (Option.some.inj returned))
  | error halt =>
    rw [result] at returned
    cases returned

end Receiver

end OpenBsw.Docan
