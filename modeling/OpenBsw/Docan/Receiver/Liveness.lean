import OpenBsw.Docan.Receiver.Runs

/-!
# Receptions that cannot get stuck

As long as every flow control frame can be sent, the message receivers in the
list wait with a running timer, and each expiry brings them closer to their
end.  A flow control frame that cannot be sent leaves its message receiver
without a timeout, and no timer is ever set again for it.
-/

namespace OpenBsw.Docan

open OpenBsw.Transition

namespace Receiver

open MessageReceiver

variable {Address : Type}

/-! ## Waiting -/

/-- The message receiver waits for an event that ends or advances it. -/
def Waits (receiver : MessageReceiver Address) : Prop :=
  receiver.handler.state = .wait ∧
    (receiver.handler.timeout = .rx ∨ receiver.handler.timeout = .allocate) ∧
    receiver.isTimerSet = true

/-- All flow control frames are sent during the operation. -/
def SendsFlowControl (_ : Receiver Address) (event : ReceiverEvent Address) : Prop :=
  ∀ calls, event.environment.sendFlowControl calls = true

/-- The message receiver is at rest, and its timer expires no more often than
the bound. -/
def Bounded (bound : Nat) (receiver : MessageReceiver Address) : Prop :=
  receiver.AtRest True ∧ receiver.handler.patience ≤ bound

theorem waits_of_rests {receiver : MessageReceiver Address} (rests : receiver.Rests True) :
    Waits receiver := by
  rcases rests.waits with ⟨state, waits, timer⟩ | ⟨never, _⟩
  · exact ⟨state, waits.imp_right And.left, timer⟩
  · exact absurd trivial never

theorem patience_pos_of_rests {receiver : MessageReceiver Address} (rests : receiver.Rests True) :
    0 < receiver.handler.patience := by
  have counted := receiver.handler.allocateRetryCount.toNat_lt
  rw [MessageReceiveProtocolHandler.patience, (waits_of_rests rests).1]
  simp only
  split <;> omega

theorem patience_le (handler : MessageReceiveProtocolHandler) : handler.patience ≤ 257 := by
  unfold MessageReceiveProtocolHandler.patience
  repeat' split
  all_goals omega

theorem unblockable_bounded (bound : Nat) :
    Unblockable (Bounded bound : MessageReceiver Address → Prop) := by
  intro receiver other forgetEq bounded
  rw [eq_of_forget_eq forgetEq]
  exact bounded

/-! ## Draining -/

variable [DecidableEq Address] {config : ReceiverConfig Address}

variable (config) in
/-- Cyclic tasks behind each other, each at a time when all timers have
expired. -/
inductive PastTimeouts (source : Receiver Address) : Nat → Receiver Address → Prop
  | refl : PastTimeouts source 0 source
  | step {count : Nat} {receiver target : Receiver Address} {environment : ReceiverEnvironment}
      {nowUs : UInt32} (past : PastTimeouts source count receiver)
      (sends : ∀ calls, environment.sendFlowControl calls = true)
      (expired : ∀ messageReceiver ∈ receiver.messageReceivers,
        (messageReceiver.isTimerSet && messageReceiver.timerExpired nowUs) = true)
      (stepped : receiver.step config ⟨environment, .cyclicTask nowUs⟩ = .ok target) :
      PastTimeouts source (count + 1) target

/-- A cyclic task past the timeouts uses up patience. -/
theorem cyclicTask_bounded {source : Receiver Address} {environment : ReceiverEnvironment}
    {nowUs : UInt32} {bound : Nat} (idle : source.Idle True config)
    (sends : ∀ calls, environment.sendFlowControl calls = true)
    (expired : ∀ receiver ∈ source.messageReceivers,
      (receiver.isTimerSet && receiver.timerExpired nowUs) = true)
    (bounded : ∀ receiver ∈ source.messageReceivers, receiver.handler.patience ≤ bound) :
    Outcome (source.cyclicTask environment nowUs) (fun target => target.Idle True config ∧
      ∀ receiver ∈ target.messageReceivers, receiver.handler.patience ≤ bound - 1)
      Halt.Excused := by
  have outcome : Outcome (source.cyclicTask environment nowUs) (fun target =>
      Completes (fun _ _ _ => True) (fun _ => True) True config source target ∧
        ∀ receiver ∈ target.messageReceivers, Bounded (bound - 1) receiver) Halt.Excused := by
    refine cyclicTask_outcome environment (fun _ => sends) idle (unblockable_bounded _)
      (fun _ bounded => bounded.1) ?_ ?_
    · intro receiver member settled atRest patienceLe
      have decreased := (begins_expired (idle.rests receiver member)).2.2 trivial
      have before := bounded receiver member
      exact ⟨atRest, by omega⟩
    · rintro ⟨receiver, member, running⟩
      rw [expired receiver member] at running
      cases running
  exact outcome.mono fun target ⟨completes, bounded⟩ =>
    ⟨completes.1, fun receiver member => (bounded receiver member).2⟩

theorem bounded_of_pastTimeouts {source target : Receiver Address} {count : Nat}
    (idle : source.Idle True config) (past : PastTimeouts config source count target) :
    target.Idle True config ∧
      ∀ receiver ∈ target.messageReceivers, receiver.handler.patience ≤ 257 - count := by
  induction past with
  | refl => exact ⟨idle, fun receiver _ => patience_le receiver.handler⟩
  | @step count receiver target environment nowUs _ sends expired stepped ih =>
    obtain ⟨targetIdle, bounded⟩ :=
      (cyclicTask_bounded ih.1 sends expired ih.2).of_eq_ok stepped
    exact ⟨targetIdle, fun receiver member => by
      have := bounded receiver member
      omega⟩

/-- In runs in which every flow control frame is sent, every message receiver
waits for an event, and cyclic tasks past the timeouts empty the list and the
pool gets its blocks back.  A cyclic task returns, unless an assertion fails or
the provider breaks its contract. -/
theorem drains_of_reachable {receiver : Receiver Address}
    (reached : ((system config).restrict SendsFlowControl).Reachable receiver) :
    (∀ messageReceiver ∈ receiver.messageReceivers, Waits messageReceiver) ∧
      (∀ count target, PastTimeouts config receiver count target → 257 ≤ count →
        target.messageReceivers = [] ∧ target.pool.Perm (List.range config.poolSize)) ∧
      ∀ event, SendsFlowControl receiver event →
        Outcome (receiver.step config event) (fun _ => True) Halt.Excused := by
  have completes : Completes (fun _ _ _ => True) (fun _ => True) True config (new config)
      receiver :=
    completes_of_reachable (fun sends _ => sends) (fun _ _ => meets_true _ _) reached
  refine ⟨fun messageReceiver member => waits_of_rests (completes.1.rests messageReceiver member),
    fun count target past enough => ?_, fun event sends => ?_⟩
  · obtain ⟨idle, bounded⟩ := bounded_of_pastTimeouts completes.1 past
    have empty : target.messageReceivers = [] := by
      refine List.eq_nil_iff_forall_not_mem.mpr fun messageReceiver member => ?_
      have left := patience_pos_of_rests (idle.rests messageReceiver member)
      have used := bounded messageReceiver member
      omega
    have blocks := idle.blocks
    rw [empty] at blocks
    exact ⟨empty, blocks⟩
  · exact (step_completes (fun _ => sends) completes.1 (meets_true _ _)).mono fun _ _ => trivial

theorem drains_after_sampleFrame :
    ∃ receiver, (new sampleConfig).step sampleConfig
        ⟨sampleEnvironment true, .firstDataFrameReceived sampleFrame⟩ = .ok receiver ∧
      ∀ messageReceiver ∈ receiver.messageReceivers, Waits messageReceiver := by
  obtain ⟨receiver, returned⟩ : ∃ receiver, (new sampleConfig).step sampleConfig
      ⟨sampleEnvironment true, .firstDataFrameReceived sampleFrame⟩ = .ok receiver := ⟨_, rfl⟩
  have stepped : ((system sampleConfig).restrict SendsFlowControl).Step (new sampleConfig) _
      receiver := ⟨returned, fun _ => rfl⟩
  exact ⟨receiver, returned, (drains_of_reachable (.step (.initial rfl) stepped)).1⟩

/-! ## A flow control frame that cannot be sent -/

/-- The list behind a first frame whose flow control frame is not sent, and a
cyclic task. -/
def stuckRun : Except Halt (Receiver Nat) := do
  let receiver ← (new sampleConfig).step sampleConfig
    ⟨sampleEnvironment false, .firstDataFrameReceived sampleFrame⟩
  receiver.step sampleConfig ⟨sampleEnvironment true, .cyclicTask 5⟩

/-- The message receiver neither waits for an event nor does any further cyclic
task change it. -/
theorem stuck_after_sampleFrame :
    ∃ receiver, (system sampleConfig).Reachable receiver ∧
      (∃ messageReceiver ∈ receiver.messageReceivers,
        messageReceiver.isDone = false ∧ ¬Waits messageReceiver) ∧
      ∀ nowUs, receiver.step sampleConfig ⟨sampleEnvironment true, .cyclicTask nowUs⟩ =
        .ok receiver := by
  refine ⟨(stuckRun.toOption).getD (new sampleConfig), ?_, ?_, fun nowUs => rfl⟩
  · obtain ⟨middle, first⟩ : ∃ middle, (new sampleConfig).step sampleConfig
        ⟨sampleEnvironment false, .firstDataFrameReceived sampleFrame⟩ = .ok middle := ⟨_, rfl⟩
    have second : middle.step sampleConfig ⟨sampleEnvironment true, .cyclicTask 5⟩ =
        .ok (stuckRun.toOption.getD (new sampleConfig)) := by
      rw [stuckRun, first]
      cases first
      rfl
    have firstStep : (system sampleConfig).Step (new sampleConfig) _ middle := first
    have secondStep : (system sampleConfig).Step middle _ _ := second
    exact .step (.step (.initial rfl) firstStep) secondStep
  · refine ⟨_, List.mem_cons_self, rfl, fun waits => ?_⟩
    exact absurd waits.1 (by decide)

end Receiver

end OpenBsw.Docan
