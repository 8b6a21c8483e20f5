import OpenBsw.Docan.Receiver.Runs

/-!
# Ownership of transport messages

The calls of a receiver say which messages it owns: it gets them from the
provider, and hands them over to the listener or gives them back.  A message
that is disposed of without being owned, or obtained while it is, would be a
violation.  In every run the messages owned are exactly those held by message
receivers in the list.
-/

namespace OpenBsw.Docan

open OpenBsw.Transition List
open OpenBsw.Transport

namespace Receiver

open MessageReceiver

variable {Address : Type}

/-! ## Custody -/

/-- The messages owned behind a call, with the blocks of the message receivers
they were obtained for; `none` when the call does not fit.  An accepted message
is handed over, and a released one is given back. -/
def custodyAfter (owned : List (Nat × Nat)) : ReceiverCall Address → Option (List (Nat × Nat))
  | .getTransportMessage receiver _ _ _ answer =>
    match answer.message with
    | none => some owned
    | some message =>
      if message.id ∈ owned.map Prod.snd then none
      else some ((receiver.block, message.id) :: owned)
  | .messageReceived receiver message answer =>
    if (receiver.block, message.id) ∈ owned then
      some (if answer then owned.filter (·.2 ≠ message.id) else owned)
    else none
  | .releaseTransportMessage message =>
    if message.id ∈ owned.map Prod.snd then some (owned.filter (·.2 ≠ message.id)) else none
  | _ => some owned

def custody (calls : List (ReceiverCall Address)) : Option (List (Nat × Nat)) :=
  calls.foldlM custodyAfter []

/-- The messages held by message receivers, with the blocks of these. -/
def holdings (messageReceivers : List (MessageReceiver Address)) : List (Nat × Nat) :=
  messageReceivers.filterMap fun receiver =>
    receiver.message.map fun message => (receiver.block, message.id)

theorem custody_append {calls further : List (ReceiverCall Address)} {owned : List (Nat × Nat)}
    (custodyEq : custody calls = some owned) :
    custody (calls ++ further) = further.foldlM custodyAfter owned := by
  rw [custody, foldlM_append, show calls.foldlM custodyAfter [] = some owned from custodyEq]
  rfl

theorem map_snd_holdings (messageReceivers : List (MessageReceiver Address)) :
    (holdings messageReceivers).map Prod.snd = heldMessages messageReceivers := by
  rw [holdings, heldMessages, map_filterMap]
  congr 1
  funext receiver
  cases receiver.message <;> rfl

theorem custodyAfter_of_neutral {call : ReceiverCall Address} (neutral : call.Neutral)
    (owned : List (Nat × Nat)) : custodyAfter owned call = some owned := by
  cases call with
  | getTransportMessage receiver transportAddressPair messageSize peek answer =>
    rw [custodyAfter, show answer.message = none from neutral]
  | messageReceived receiver message answer => exact neutral.elim
  | releaseTransportMessage message => exact neutral.elim
  | _ => rfl

theorem holdings_append (left right : List (MessageReceiver Address)) :
    holdings (left ++ right) = holdings left ++ holdings right :=
  filterMap_append

theorem holdings_cons_of_none {receiver : MessageReceiver Address}
    (none : receiver.message = none) (rest : List (MessageReceiver Address)) :
    holdings (receiver :: rest) = holdings rest :=
  filterMap_cons_none (by rw [none]; rfl)

theorem holdings_cons_of_some {receiver : MessageReceiver Address} {message : TransportMessage}
    (messageEq : receiver.message = some message) (rest : List (MessageReceiver Address)) :
    holdings (receiver :: rest) = (receiver.block, message.id) :: holdings rest :=
  filterMap_cons_some (by rw [messageEq]; rfl)

theorem holdings_cons_congr {receiver other : MessageReceiver Address}
    (block_eq : other.block = receiver.block)
    (id_eq : other.message.map (·.id) = receiver.message.map (·.id))
    (rest : List (MessageReceiver Address)) :
    holdings (other :: rest) = holdings (receiver :: rest) := by
  have paired : ∀ receiver : MessageReceiver Address,
      (receiver.message.map fun message => (receiver.block, message.id)) =
        (receiver.message.map (·.id)).map (Prod.mk receiver.block) := fun receiver => by
    rw [Option.map_map]
    rfl
  rw [holdings, holdings, filterMap_cons, filterMap_cons, paired, paired, id_eq, block_eq]

/-- Data appended to a message leave its identity. -/
theorem holdings_consecutiveFrameReceived {receiver : MessageReceiver Address}
    {message : TransportMessage} (messageEq : receiver.message = some message)
    (sequenceNumber : UInt8) (expectedSize : Nat) (data : List UInt8)
    (rest : List (MessageReceiver Address)) :
    holdings ((receiver.consecutiveFrameReceived message sequenceNumber expectedSize data).1 ::
      rest) = holdings (receiver :: rest) := by
  apply holdings_cons_congr
  · simp only [consecutiveFrameReceived]
    split <;> rfl
  · simp only [consecutiveFrameReceived, messageEq]
    split <;> simp

theorem holdings_of_map_forget_eq {left right : List (MessageReceiver Address)}
    (mapEq : left.map forget = right.map forget) : holdings left = holdings right := by
  have erased : ∀ list : List (MessageReceiver Address),
      holdings list = holdings (list.map forget) := fun list => by
    rw [holdings, holdings, filterMap_map]
    rfl
  rw [erased, mapEq, ← erased]

/-! ## Linearity -/

/-- The messages owned are those held, and no two message receivers hold the
same one. -/
structure Linear (calls : List (ReceiverCall Address)) (held : List (Nat × Nat)) : Prop where
  custody : ∃ owned, custody calls = some owned ∧ owned.Perm held
  nodup : (held.map Prod.snd).Nodup

section

variable {calls : List (ReceiverCall Address)} {held before after : List (Nat × Nat)}
  {block : Nat} {message : TransportMessage}

theorem Linear.perm (linear : Linear calls held) {permuted : List (Nat × Nat)}
    (perm : permuted.Perm held) : Linear calls permuted := by
  obtain ⟨⟨owned, custodyEq, ownedPerm⟩, nodup⟩ := linear
  exact ⟨⟨owned, custodyEq, ownedPerm.trans perm.symm⟩, (perm.map Prod.snd).nodup_iff.mpr nodup⟩

theorem Linear.call (linear : Linear calls held) {call : ReceiverCall Address}
    (unmoved : ∀ owned, custodyAfter owned call = some owned) :
    Linear (calls ++ [call]) held := by
  obtain ⟨⟨owned, custodyEq, perm⟩, nodup⟩ := linear
  refine ⟨⟨owned, ?_, perm⟩, nodup⟩
  rw [custody_append custodyEq, foldlM_cons, unmoved]
  rfl

theorem Linear.obtain (linear : Linear calls (before ++ after)) {call : ReceiverCall Address}
    (obtains : ∀ owned : List (Nat × Nat), message.id ∉ owned.map Prod.snd →
      custodyAfter owned call = some ((block, message.id) :: owned))
    (fresh : message.id ∉ (before ++ after).map Prod.snd) :
    Linear (calls ++ [call]) (before ++ (block, message.id) :: after) := by
  obtain ⟨⟨owned, custodyEq, perm⟩, nodup⟩ := linear
  have freshOwned : message.id ∉ owned.map Prod.snd :=
    fun member => fresh ((perm.map Prod.snd).mem_iff.mp member)
  refine ⟨⟨(block, message.id) :: owned, ?_, ?_⟩, ?_⟩
  · rw [custody_append custodyEq, foldlM_cons, obtains owned freshOwned]
    rfl
  · exact (perm.cons _).trans perm_middle.symm
  · have middle : ((before ++ (block, message.id) :: after).map Prod.snd).Perm
        (message.id :: (before ++ after).map Prod.snd) := perm_middle.map Prod.snd
    exact middle.nodup_iff.mpr (nodup_cons.mpr ⟨fresh, nodup⟩)

/-- A message held once leaves when all entries of it are removed. -/
theorem filter_held (nodup : ((before ++ (block, message.id) :: after).map Prod.snd).Nodup) :
    (before ++ (block, message.id) :: after).filter (·.2 ≠ message.id) = before ++ after := by
  have middle : ((before ++ (block, message.id) :: after).map Prod.snd).Perm
      (message.id :: (before ++ after).map Prod.snd) := perm_middle.map Prod.snd
  have fresh := (nodup_cons.mp (middle.nodup_iff.mp nodup)).1
  have others : ∀ entry ∈ before ++ after, entry.2 ≠ message.id := fun entry member equal =>
    fresh (equal ▸ mem_map_of_mem member)
  rw [filter_append, filter_cons_of_neg (by simp), ← filter_append]
  exact filter_eq_self.mpr fun entry member => decide_eq_true (others entry member)

theorem Linear.dispose (linear : Linear calls (before ++ (block, message.id) :: after))
    {call : ReceiverCall Address}
    (disposes : ∀ owned : List (Nat × Nat), (block, message.id) ∈ owned →
      custodyAfter owned call = some (owned.filter (·.2 ≠ message.id))) :
    Linear (calls ++ [call]) (before ++ after) := by
  obtain ⟨⟨owned, custodyEq, perm⟩, nodup⟩ := linear
  have member : (block, message.id) ∈ owned := perm.mem_iff.mpr (by simp)
  have filtered := perm.filter (·.2 ≠ message.id)
  rw [filter_held nodup] at filtered
  refine ⟨⟨_, ?_, filtered⟩, ?_⟩
  · rw [custody_append custodyEq, foldlM_cons, disposes owned member]
    rfl
  · have middle : ((before ++ (block, message.id) :: after).map Prod.snd).Perm
        (message.id :: (before ++ after).map Prod.snd) := perm_middle.map Prod.snd
    exact (nodup_cons.mp (middle.nodup_iff.mp nodup)).2

theorem Linear.release (linear : Linear calls (before ++ (block, message.id) :: after)) :
    Linear (calls ++ [.releaseTransportMessage message]) (before ++ after) :=
  linear.dispose fun _ member => if_pos (mem_map_of_mem member)

/-- A message offered to the listener is handed over or given back. -/
theorem Linear.offer {receiver : MessageReceiver Address}
    (linear : Linear calls (before ++ (receiver.block, message.id) :: after)) (success : Bool) :
    Linear (calls ++ offerCalls receiver message success) (before ++ after) := by
  cases success with
  | true => exact linear.dispose fun _ member => if_pos member
  | false =>
    obtain ⟨⟨owned, custodyEq, perm⟩, nodup⟩ := linear
    have member : (receiver.block, message.id) ∈ owned := perm.mem_iff.mpr (by simp)
    have offered : Linear (calls ++ [.messageReceived receiver message false])
        (before ++ (receiver.block, message.id) :: after) := by
      refine ⟨⟨owned, ?_, perm⟩, nodup⟩
      rw [custody_append custodyEq, foldlM_cons, custodyAfter, if_pos member]
      rfl
    have released := offered.release
    rwa [append_assoc] at released

end

variable [DecidableEq Address] {Takes : MessageReceiver Address → UInt8 → List UInt8 → Prop}
  {Starts : FirstDataFrame Address → Prop}

/-- Every action keeps the messages owned equal to those held. -/
theorem linear_of_action {source target : Receiver Address}
    (action : Action Takes Starts source target)
    (linear : Linear source.calls (holdings source.messageReceivers)) :
    Linear target.calls (holdings target.messageReceivers) := by
  cases action with
  | bookkeeping => exact linear
  | permute permuted => exact linear.perm (permuted.filterMap _)
  | unblock receptionAddress =>
    rwa [holdings_of_map_forget_eq (map_forget_unblock receptionAddress source.messageReceivers)]
  | call neutral => exact linear.call (custodyAfter_of_neutral neutral)
  | @touch source before after receiver target steady =>
    have kept := holdings_cons_congr steady.block_eq (congrArg _ steady.message_eq) after
    simp only [place, holdings_append, kept] at linear ⊢
    exact linear
  | @obtain source before after receiver target message _ _ _ allocation messageEq fresh obtained =>
    obtain ⟨prepared, idEq, _, _, targetMessage⟩ := obtained.message_eq
    have targetEq := holdings_cons_of_some targetMessage after
    rw [TransportMessage.id_append, idEq, obtained.block_eq] at targetEq
    simp only [place, holdings_append, targetEq,
      holdings_cons_of_none obtained.message_eq_none] at linear ⊢
    refine linear.obtain (fun owned freshOwned => ?_) ?_
    · rw [custodyAfter, messageEq]
      exact if_neg freshOwned
    · rwa [← map_snd_holdings, holdings_append,
        holdings_cons_of_none obtained.message_eq_none] at fresh
  | @offer source before after receiver target message success messageEq _ detached =>
    simp only [place, holdings_append, holdings_cons_of_some messageEq,
      holdings_cons_of_none detached.message_eq_none] at linear ⊢
    exact linear.offer success
  | @release source before after receiver target detached =>
    cases messageEq : receiver.message with
    | none =>
      simp only [place, holdings_append, holdings_cons_of_none messageEq,
        holdings_cons_of_none detached.message_eq_none] at linear ⊢
      simpa [releaseCalls] using linear
    | some message =>
      simp only [place, holdings_append, holdings_cons_of_some messageEq,
        holdings_cons_of_none detached.message_eq_none] at linear ⊢
      exact linear.release
  | @frame source before after receiver message sequenceNumber data _ messageEq _ =>
    have kept := holdings_consecutiveFrameReceived messageEq sequenceNumber
      (receiver.expectedConsecutiveFrameDataSize message.validBytes) data after
    simp only [place, record, holdings_append, kept] at linear ⊢
    exact linear.call fun _ => rfl
  | insert =>
    have none : holdings [newMessageReceiver ‹_› ‹_› ‹_› ‹_›] = [] :=
      holdings_cons_of_none rfl []
    simp only [holdings_append]
    rw [none, append_nil]
    exact linear
  | @remove source before after receiver _ messageEqNone =>
    simp only [place, holdings_append, holdings_cons_of_none messageEqNone] at linear ⊢
    exact linear

/-! ## Runs -/

/-- What holds between any two operations about messages, blocks and finished
message receivers. -/
structure Owns (config : ReceiverConfig Address) (receiver : Receiver Address) : Prop where
  custody : ∃ owned, custody receiver.calls = some owned ∧
    owned.Perm (holdings receiver.messageReceivers)
  nodup : (heldMessages receiver.messageReceivers).Nodup
  blocks : (receiver.messageReceivers.map block ++ receiver.pool).Perm
    (List.range config.poolSize)
  released_eq : receiver.releasedReceiverCount = 0
  unfinished : ∀ messageReceiver ∈ receiver.messageReceivers, messageReceiver.isDone = false

theorem owns_of_completes {always : Prop} {config : ReceiverConfig Address}
    {receiver : Receiver Address}
    (completes : Completes Takes Starts always config (new config) receiver) :
    Owns config receiver := by
  obtain ⟨idle, actions⟩ := completes
  have linear : Linear receiver.calls (holdings receiver.messageReceivers) := by
    clear idle
    induction actions with
    | refl => exact ⟨⟨[], rfl, .refl _⟩, nodup_nil⟩
    | tail _ action ih => exact linear_of_action action ih
  exact
    { custody := linear.custody
      nodup := map_snd_holdings receiver.messageReceivers ▸ linear.nodup
      blocks := idle.blocks
      released_eq := idle.released_eq
      unfinished := fun messageReceiver member =>
        (idle.rests messageReceiver member).isDone_eq_false }

/-- Whatever the environment answers and in whichever order things happen, the
receiver owns exactly the messages its message receivers hold.  Each operation
returns, unless an assertion fails or the provider breaks its contract. -/
theorem owns_of_reachable {config : ReceiverConfig Address} {receiver : Receiver Address}
    (reached : (system config).Reachable receiver) :
    Owns config receiver ∧
      ∀ event, Outcome (receiver.step config event) (Owns config) Halt.Excused := by
  rw [← (system config).restrict_true] at reached
  have completes : Completes (fun _ _ _ => True) (fun _ => True) False config (new config)
      receiver :=
    completes_of_reachable (fun _ never => never.elim) (fun _ _ => meets_true _ _) reached
  refine ⟨owns_of_completes completes, fun event => ?_⟩
  refine (step_completes (fun never => never.elim) completes.1 (meets_true _ _)).mono ?_
  exact fun target further => owns_of_completes ⟨further.1, completes.2.trans further.2⟩

/-- The message that a call disposes of, and whether it is handed over. -/
def disposed : ReceiverCall Address → Option (Nat × Bool)
  | .messageReceived _ message true => some (message.id, true)
  | .releaseTransportMessage message => some (message.id, false)
  | _ => none

/-- Two receptions, of which the listener refuses the second one. -/
def sampleReceptions : List (ReceiverEvent Nat) :=
  [⟨sampleEnvironment true, .firstDataFrameReceived sampleFrame⟩,
    ⟨sampleEnvironment true, sampleConsecutive⟩,
    ⟨sampleEnvironment true, .firstDataFrameReceived sampleFrame⟩,
    ⟨{ sampleEnvironment true with messageReceived := fun _ => false }, sampleConsecutive⟩]

/-- One message is handed over and the other one given back. -/
theorem owns_after_sampleReceptions :
    ∃ receiver, System.play (fun source event => (step sampleConfig source event).toOption)
        (new sampleConfig) sampleReceptions = some receiver ∧
      receiver.calls.filterMap disposed = [(0, true), (8, false)] ∧
      Owns sampleConfig receiver := by
  obtain ⟨receiver, played, calls⟩ : ∃ receiver,
      System.play (fun source event => (step sampleConfig source event).toOption)
        (new sampleConfig) sampleReceptions = some receiver ∧
      receiver.calls.filterMap disposed = [(0, true), (8, false)] := ⟨_, rfl, by decide⟩
  exact ⟨receiver, played, calls, (owns_of_reachable (reachable_play played)).1⟩

end Receiver

end OpenBsw.Docan
