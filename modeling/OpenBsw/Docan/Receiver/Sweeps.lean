import OpenBsw.Docan.Receiver.Settling

/-!
# Sweeps over the list of message receivers

The loops of the operations visit the positions of the list in turn.  A
visited message receiver rests or is finished and counted, the others differ
from the start of the loop in their blocked flags only.  The finished ones are
removed when the remove lock is released.
-/

namespace OpenBsw.Docan

open OpenBsw.Transport List

namespace MessageReceiver

variable {Address : Type}

/-- The message receiver rests between operations. -/
def Rests (always : Prop) (receiver : MessageReceiver Address) : Prop :=
  receiver.handler.Resting always receiver.message receiver.isTimerSet

/-- A property that does not depend on the blocked flag. -/
def Unblockable (Property : MessageReceiver Address → Prop) : Prop :=
  ∀ {receiver other}, receiver.forget = other.forget → Property receiver → Property other

theorem eq_of_forget_eq {receiver other : MessageReceiver Address}
    (forgetEq : receiver.forget = other.forget) :
    other = receiver.setBlocked other.blocked := by
  cases receiver
  cases other
  simp only [forget, setBlocked, mk.injEq] at forgetEq ⊢
  simp [forgetEq]

theorem unblockable_rests (always : Prop) :
    Unblockable (Rests always : MessageReceiver Address → Prop) := by
  intro receiver other forgetEq rests
  rw [eq_of_forget_eq forgetEq]
  exact rests

theorem unblockable_atRest (always : Prop) :
    Unblockable (AtRest always : MessageReceiver Address → Prop) := by
  intro receiver other forgetEq atRest
  rw [eq_of_forget_eq forgetEq]
  exact atRest

/-- Lists that agree up to blocked flags share such properties of their
members. -/
theorem forall_mem_of_map_forget_eq {Property : MessageReceiver Address → Prop}
    (unblockable : Unblockable Property) {left right : List (MessageReceiver Address)}
    (mapEq : left.map forget = right.map forget) (holds : ∀ receiver ∈ left, Property receiver) :
    ∀ receiver ∈ right, Property receiver := by
  intro receiver member
  have image : receiver.forget ∈ left.map forget := by
    rw [mapEq]
    exact mem_map_of_mem member
  obtain ⟨other, otherMember, forgetEq⟩ := mem_map.mp image
  exact unblockable forgetEq (holds other otherMember)

theorem countP_isDone_of_map_forget_eq {left right : List (MessageReceiver Address)}
    (mapEq : left.map forget = right.map forget) :
    left.countP isDone = right.countP isDone := by
  have erased : ∀ list : List (MessageReceiver Address),
      list.countP isDone = (list.map forget).countP isDone := fun list => by
    rw [countP_map]
    rfl
  rw [erased, mapEq, ← erased]

theorem map_block_of_map_forget_eq {left right : List (MessageReceiver Address)}
    (mapEq : left.map forget = right.map forget) : left.map block = right.map block := by
  have erased : ∀ list : List (MessageReceiver Address),
      list.map block = (list.map forget).map block := fun list => by
    rw [map_map]
    rfl
  rw [erased, mapEq, ← erased]

theorem Rests.isDone_eq_false {always : Prop} {receiver : MessageReceiver Address}
    (rests : receiver.Rests always) : receiver.isDone = false :=
  decide_eq_false rests.state_ne_done

end MessageReceiver

namespace Receiver

open MessageReceiver

variable {Address : Type} [DecidableEq Address]
  {Takes : MessageReceiver Address → UInt8 → List UInt8 → Prop}
  {Starts : FirstDataFrame Address → Prop}

/-! ## The loop of transitions -/

/-- What the loop of `handleTransitions` may start from. -/
def Begins (always : Prop) (receiver : MessageReceiver Address) (result : ReceiveResult) : Prop :=
  result.transition = true ∧ receiver.handler.Ready receiver.message ∨
    result.transition = false ∧ receiver.Rests always

variable (Takes Starts) in
theorem handleTransitions_outcome {always : Prop} (environment : ReceiverEnvironment)
    (sends : always → ∀ calls, environment.sendFlowControl calls = true)
    {source : Receiver Address} {before after : List (MessageReceiver Address)}
    {receiver : MessageReceiver Address} {result : ReceiveResult} {patience : Nat}
    (begins : Begins always receiver result)
    (patience_le : receiver.handler.patience ≤ patience) :
    Outcome
      ((source.place before receiver after).handleTransitions environment before.length result)
      (fun target => ∃ settled,
        Settles Takes Starts always source before receiver after patience target settled)
      Halt.Excused := by
  rw [handleTransitions]
  rcases begins with ⟨transition, ready⟩ | ⟨stays, rests⟩
  · exact handleTransitionsFor_outcome environment sends transition ready
      receiver.handler.rounds_le_three patience_le
  · rw [handleTransitionsFor_of_rests _ _ _ _ stays]
    exact ⟨receiver, settles_self rests patience_le⟩

/-! ## Sweeps -/

section

variable (Takes Starts)

/-- The positions before the given one have been visited. -/
structure Sweep (Visited : MessageReceiver Address → Prop) (source : Receiver Address)
    (position : Nat) (state : Receiver Address) : Prop where
  split : ∃ before after, state.messageReceivers = before ++ after ∧
    before.length = position ∧ (∀ receiver ∈ before, Visited receiver) ∧
    after.map forget = (source.messageReceivers.drop position).map forget
  blocks_eq : state.messageReceivers.map block = source.messageReceivers.map block
  keeps : Keeps source state (state.messageReceivers.countP isDone)
  actions : Actions Takes Starts source state

/-- The sweep has come to the message receiver between `before` and `after`. -/
structure Stands (Visited : MessageReceiver Address → Prop) (source : Receiver Address)
    (before : List (MessageReceiver Address)) (receiver : MessageReceiver Address)
    (after : List (MessageReceiver Address)) (state : Receiver Address) : Prop where
  sweep : Sweep Takes Starts Visited source before.length (state.place before receiver after)
  visited : ∀ receiver ∈ before, Visited receiver
  current : ∃ other ∈ source.messageReceivers, other.forget = receiver.forget
  after_eq : after.map forget = (source.messageReceivers.drop (before.length + 1)).map forget

/-- Message receivers have been worked on and may be finished, those are
counted. -/
structure Worked (Visited : MessageReceiver Address → Prop) (source state : Receiver Address) :
    Prop where
  visited : ∀ receiver ∈ state.messageReceivers, Visited receiver
  blocks : (state.messageReceivers.map block ++ state.pool).Perm
    (source.messageReceivers.map block ++ source.pool)
  lock_eq : state.removeLockCount = source.removeLockCount
  released_eq : state.releasedReceiverCount =
    source.releasedReceiverCount + state.messageReceivers.countP isDone
  actions : Actions Takes Starts source state

end

variable {Visited : MessageReceiver Address → Prop} {always : Prop} {source : Receiver Address}

omit [DecidableEq Address] in
theorem countP_isDone_of_rests {messageReceivers : List (MessageReceiver Address)}
    (rests : ∀ receiver ∈ messageReceivers, receiver.Rests always) :
    messageReceivers.countP isDone = 0 := by
  rw [countP_eq_zero]
  intro receiver member
  rw [(rests receiver member).isDone_eq_false]
  decide

theorem Sweep.start {position : Nat} (inside : position ≤ source.messageReceivers.length)
    (rests : ∀ receiver ∈ source.messageReceivers, receiver.Rests always)
    (visited : ∀ receiver ∈ source.messageReceivers.take position, Visited receiver) :
    Sweep Takes Starts Visited source position source where
  split := ⟨source.messageReceivers.take position, source.messageReceivers.drop position,
    (take_append_drop _ _).symm, length_take_of_le inside, visited, rfl⟩
  blocks_eq := rfl
  keeps := by
    rw [countP_isDone_of_rests rests]
    exact ⟨rfl, rfl, rfl⟩
  actions := .refl

/-- The message receiver at the position of a sweep is the one of the start, up
to its blocked flag. -/
theorem Sweep.stands {position : Nat} {state : Receiver Address}
    (sweep : Sweep Takes Starts Visited source position state)
    (inside : position < source.messageReceivers.length) :
    ∃ before receiver after, before.length = position ∧
      state.place before receiver after = state ∧
      Stands Takes Starts Visited source before receiver after state := by
  obtain ⟨before, after, listEq, rfl, visited, afterEq⟩ := sweep.split
  rw [drop_eq_getElem_cons inside, map_cons] at afterEq
  obtain ⟨receiver, rest, rfl, receiverEq, restEq⟩ := map_eq_cons_iff.mp afterEq
  have placed := state.place_self _ _ _ listEq
  refine ⟨before, receiver, rest, rfl, placed, ⟨?_, visited, ?_, restEq⟩⟩
  · rw [placed]
    exact sweep
  · exact ⟨_, getElem_mem inside, receiverEq.symm⟩

variable {before after : List (MessageReceiver Address)} {receiver : MessageReceiver Address}
  {state : Receiver Address}

theorem Stands.rests (stands : Stands Takes Starts Visited source before receiver after state)
    (rests : ∀ receiver ∈ source.messageReceivers, receiver.Rests always) :
    receiver.Rests always := by
  obtain ⟨other, member, forgetEq⟩ := stands.current
  exact unblockable_rests always forgetEq (rests other member)

/-- A message receiver that has settled is visited. -/
theorem Stands.next {patience : Nat} {target : Receiver Address}
    {settled : MessageReceiver Address}
    (stands : Stands Takes Starts Visited source before receiver after state)
    (rests : ∀ receiver ∈ source.messageReceivers, receiver.Rests always)
    (unblockable : Unblockable Visited)
    (settles : Settles Takes Starts always state before receiver after patience target settled)
    (settledVisited : Visited settled) :
    Sweep Takes Starts Visited source (before.length + 1) target := by
  have afterCount : after.countP isDone = 0 := by
    rw [countP_isDone_of_map_forget_eq stands.after_eq]
    have laterRests : ∀ receiver ∈ source.messageReceivers.drop (before.length + 1),
        receiver.Rests always :=
      fun receiver member => rests receiver (mem_of_mem_drop member)
    exact countP_isDone_of_rests laterRests
  have forgetEq := settles.forget_eq
  rw [map_append, map_cons] at forgetEq
  obtain ⟨targetBefore, targetRest, listEq, beforeEq, restEq⟩ := map_eq_append_iff.mp forgetEq
  obtain ⟨targetSettled, targetAfter, rfl, settledEq, targetAfterEq⟩ :=
    map_eq_cons_iff.mp restEq
  refine ⟨⟨targetBefore ++ [targetSettled], targetAfter, ?_, ?_, ?_, ?_⟩, ?_, ?_, ?_⟩
  · rw [listEq, append_assoc, singleton_append]
  · have sameLength := congrArg List.length beforeEq
    simp only [length_map] at sameLength
    simp [sameLength]
  · intro other member
    rcases mem_append.mp member with old | new
    · exact forall_mem_of_map_forget_eq unblockable beforeEq.symm stands.visited other old
    · rw [mem_singleton.mp new]
      exact unblockable settledEq.symm settledVisited
  · rw [targetAfterEq, stands.after_eq]
  · rw [map_block_of_map_forget_eq settles.forget_eq, ← stands.sweep.blocks_eq]
    simp [place, settles.block_eq]
  · have keeps := stands.sweep.keeps
    have counted : (state.place before receiver after).messageReceivers.countP isDone =
        before.countP isDone := by
      simp [place, afterCount, (stands.rests rests).isDone_eq_false]
    rw [counted] at keeps
    have targetCounted : target.messageReceivers.countP isDone =
        before.countP isDone + if settled.isDone then 1 else 0 := by
      rw [countP_isDone_of_map_forget_eq settles.forget_eq]
      simp [countP_cons, afterCount]
    rw [targetCounted]
    exact
      { lock_eq := settles.keeps.lock_eq.trans keeps.lock_eq
        pool_eq := settles.keeps.pool_eq.trans keeps.pool_eq
        released_eq := by
          rw [settles.keeps.released_eq, ← Nat.add_assoc, ← keeps.released_eq]
          rfl }
  · exact stands.sweep.actions.trans settles.actions

/-- The visit of a message receiver: it changes, and its transitions are
handled. -/
theorem Stands.handleTransitions {patience : Nat} {next : Receiver Address}
    {changed : MessageReceiver Address} {result : ReceiveResult}
    (stands : Stands Takes Starts Visited source before receiver after state)
    (environment : ReceiverEnvironment)
    (sends : always → ∀ calls, environment.sendFlowControl calls = true)
    (rests : ∀ receiver ∈ source.messageReceivers, receiver.Rests always)
    (unblockable : Unblockable Visited)
    (visits : ∀ settled : MessageReceiver Address, settled.AtRest always →
      settled.handler.patience ≤ patience → Visited settled)
    (keeps : Keeps state next 0)
    (changing : Actions Takes Starts (state.place before receiver after)
      (next.place before changed after))
    (block_eq : changed.block = receiver.block) (begins : Begins always changed result)
    (patience_le : changed.handler.patience ≤ patience) :
    Outcome
      ((next.place before changed after).handleTransitions environment before.length result)
      (Sweep Takes Starts Visited source (before.length + 1)) Halt.Excused := by
  refine (handleTransitions_outcome Takes Starts environment sends begins patience_le).mono ?_
  rintro target ⟨settled, settles⟩
  exact stands.next rests unblockable (settles.precede keeps changing block_eq)
    (visits settled settles.atRest settles.patience_le)

/-- A visit that changes no more than the state of the message receiver. -/
theorem Stands.handleWith {patience : Nat} {changed : MessageReceiver Address}
    {outcome : MessageReceiveProtocolHandler × ReceiveResult}
    (stands : Stands Takes Starts Visited source before receiver after state)
    (environment : ReceiverEnvironment)
    (sends : always → ∀ calls, environment.sendFlowControl calls = true)
    (rests : ∀ receiver ∈ source.messageReceivers, receiver.Rests always)
    (unblockable : Unblockable Visited)
    (visits : ∀ settled : MessageReceiver Address, settled.AtRest always →
      settled.handler.patience ≤ patience → Visited settled)
    (steady : receiver.Steady { changed with handler := outcome.1 })
    (begins : Begins always { changed with handler := outcome.1 } outcome.2)
    (patience_le : outcome.1.patience ≤ patience) :
    Outcome
      ((state.place before receiver after).handleWith environment before.length changed outcome)
      (Sweep Takes Starts Visited source (before.length + 1)) Halt.Excused := by
  rw [Receiver.handleWith, setReceiver_place]
  exact stands.handleTransitions environment sends rests unblockable visits ⟨rfl, rfl, rfl⟩
    (.single (.touch steady)) steady.block_eq begins patience_le

/-- A sweep may be left when all others need not be visited. -/
theorem Sweep.worked {position : Nat} (sweep : Sweep Takes Starts Visited source position state)
    (unblockable : Unblockable Visited)
    (others : ∀ receiver ∈ source.messageReceivers.drop position, Visited receiver) :
    Worked Takes Starts Visited source state where
  visited := by
    obtain ⟨before, after, listEq, _, visited, afterEq⟩ := sweep.split
    rw [listEq]
    intro receiver member
    rcases mem_append.mp member with inBefore | inAfter
    · exact visited receiver inBefore
    · exact forall_mem_of_map_forget_eq unblockable afterEq.symm others receiver inAfter
  blocks := by rw [sweep.blocks_eq, sweep.keeps.pool_eq]
  lock_eq := sweep.keeps.lock_eq
  released_eq := sweep.keeps.released_eq
  actions := sweep.actions

end Receiver

end OpenBsw.Docan
