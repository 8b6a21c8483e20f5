import OpenBsw.Runtime.Account

/-!
# The stacks of the monitor

The links of a stack of entries lead through the open contexts, and in the same
way through the open functions of a context.  The suspended time of an open
function is spread over its own entry and those above it, up to a credit that
was not added yet.
-/

namespace OpenBsw.Runtime

open Function

universe u

/-- The entries from the top of a stack to its end. -/
def Linked {E : Type u} (entries : E → RuntimeStackEntry E) : Option E → List E → Prop
  | top, [] => top = none
  | top, entry :: rest =>
    top = some entry ∧ ∃ previous, (entries entry).prevEntry = some previous ∧
      Linked entries previous rest

namespace Linked

variable {E : Type u} {entries changed : E → RuntimeStackEntry E} {top : Option E} {list : List E}

/-- Only the links of the entries in the stack matter. -/
theorem congr (linked : Linked entries top list)
    (same : ∀ entry ∈ list, (changed entry).prevEntry = (entries entry).prevEntry) :
    Linked changed top list := by
  induction list generalizing top with
  | nil => exact linked
  | cons entry rest ih =>
    obtain ⟨isTop, previous, link, linked⟩ := linked
    refine ⟨isTop, previous, ?_, ih linked fun other member => same other (.tail _ member)⟩
    rw [same entry (.head _)]
    exact link

theorem top_eq (linked : Linked entries top list) : top = list.head? := by
  cases list with
  | nil => exact linked
  | cons entry rest => exact linked.1

end Linked

/-- The stack of a context holds its open functions, with a suspended time that was not added to
their entries yet. -/
def Held {F : Type u} (functions : FunctionEntries F) :
    Option F → List (OpenFunction F) → BitVec 32 → Prop
  | top, [], _ => top = none
  | top, entry :: rest, credit =>
    top = some entry.function ∧
      (functions entry.function).startTimestamp = (entry.entered : BitVec 32) ∧
      (entry.suspended : BitVec 32) = credit + (functions entry.function).suspendedTime ∧
      ∃ previous, (functions entry.function).prevEntry = some previous ∧
        Held functions previous rest (credit + (functions entry.function).suspendedTime)

namespace Held

variable {F : Type u} {functions changed : FunctionEntries F} {top : Option F}
  {list : List (OpenFunction F)} {credit : BitVec 32}

theorem congr (held : Held functions top list credit)
    (same : ∀ entry ∈ list, changed entry.function = functions entry.function) :
    Held changed top list credit := by
  induction list generalizing top credit with
  | nil => exact held
  | cons entry rest ih =>
    obtain ⟨isTop, start, suspended, previous, link, held⟩ := held
    have here := same entry (.head _)
    have below := ih held fun other member => same other (.tail _ member)
    refine ⟨isTop, ?_, ?_, previous, ?_, ?_⟩
    · rw [here]
      exact start
    · rw [here]
      exact suspended
    · rw [here]
      exact link
    · rw [here]
      exact below

theorem top_eq (held : Held functions top list credit) :
    top = list.head?.map OpenFunction.function := by
  cases list with
  | nil => exact held
  | cons entry rest => exact held.1

/-- While the functions wait, the time is not added to any entry. -/
theorem wait (held : Held functions top list credit) (elapsed : Nat) :
    Held functions top (list.map (Account.OpenFunction.wait elapsed))
      (credit + (elapsed : BitVec 32)) := by
  induction list generalizing top credit with
  | nil => exact held
  | cons entry rest ih =>
    obtain ⟨isTop, start, suspended, previous, link, held⟩ := held
    refine ⟨isTop, start, ?_, previous, link, ?_⟩
    · change ((entry.suspended + elapsed : Nat) : BitVec 32) = _
      change _ = credit + (elapsed : BitVec 32) + (functions entry.function).suspendedTime
      push_cast
      rw [suspended]
      ring
    · have below := ih held
      change Held functions previous _
        (credit + (elapsed : BitVec 32) + (functions entry.function).suspendedTime)
      rw [add_right_comm]
      exact below

variable [DecidableEq F]

/-- A credit is added to the topmost entry alone. -/
theorem addSuspendedTime {time : BitVec 32} (held : Held functions top list (credit + time))
    (nodup : (list.map OpenFunction.function).Nodup) :
    Held (functions.addSuspendedTime top time) top list credit := by
  cases list with
  | nil => exact held
  | cons entry rest =>
    obtain ⟨isTop, start, suspended, previous, link, held⟩ := held
    obtain ⟨apart, _⟩ := List.nodup_cons.mp nodup
    subst isTop
    have changed : (functions.addSuspendedTime (some entry.function) time) entry.function =
        (functions entry.function).addSuspendedTime time := update_self _ _ _
    have sum : credit + ((functions entry.function).suspendedTime + time) =
        credit + time + (functions entry.function).suspendedTime := by ring
    refine ⟨rfl, ?_, ?_, previous, ?_, ?_⟩
    · rw [changed]
      exact start
    · rw [changed]
      change _ = credit + ((functions entry.function).suspendedTime + time)
      rw [sum]
      exact suspended
    · rw [changed]
      exact link
    · rw [changed]
      change Held _ _ _ (credit + ((functions entry.function).suspendedTime + time))
      rw [sum]
      apply held.congr
      intro other member
      apply update_of_ne
      rintro same
      exact apart (same ▸ List.mem_map_of_mem member)

/-- A function that is pushed has no suspended time. -/
theorem push (held : Held functions top list 0) {function : F} {now : Nat}
    (closed : function ∉ list.map OpenFunction.function)
    (unused : (functions function).prevEntry = none) :
    Held (update functions function ((functions function).push now top)) (some function)
      ({ function := function, entered := now } :: list) 0 := by
  have pushed : (functions function).push now top =
      { prevEntry := some top, startTimestamp := now, suspendedTime := 0 } := by
    rw [RuntimeStackEntry.push, if_neg]
    rw [RuntimeStackEntry.isUsed, unused]
    exact Bool.false_ne_true
  have changed : (update functions function ((functions function).push now top))
      function = { prevEntry := some top, startTimestamp := now, suspendedTime := 0 } := by
    rw [update_self, pushed]
  refine ⟨rfl, ?_, ?_, top, ?_, ?_⟩
  · change (update functions function _ function).startTimestamp = _
    rw [changed]
  · change ((0 : Nat) : BitVec 32) = 0 + (update functions function _ function).suspendedTime
    rw [changed]
    rfl
  · change (update functions function _ function).prevEntry = _
    rw [changed]
  · change Held _ _ _ (0 + (update functions function _ function).suspendedTime)
    rw [changed]
    change Held _ _ _ (0 + 0)
    rw [zero_add]
    apply held.congr
    intro other member
    apply update_of_ne
    rintro same
    exact closed (same ▸ List.mem_map_of_mem member)

/-- A function that is popped reports its runtime, and hands its suspended time down. -/
theorem pop {entry : OpenFunction F} {rest : List (OpenFunction F)}
    (held : Held functions top (entry :: rest) 0)
    (nodup : ((entry :: rest).map OpenFunction.function).Nodup) (now : Nat) :
    let current := functions entry.function
    let previous := current.prevEntry.getD none
    let handed := functions.addSuspendedTime previous (current.handedDown false now)
    (current.startTimestamp = (entry.entered : BitVec 32) ∧
      current.thisRuntime now =
        (now : BitVec 32) - (entry.entered : BitVec 32) - (entry.suspended : BitVec 32) ∧
      current.suspendedTime = (entry.suspended : BitVec 32)) ∧
    Held (update handed entry.function (handed entry.function).release) previous rest 0 := by
  intro current previous handed
  obtain ⟨_, start, suspended, below, link, held⟩ := held
  obtain ⟨apart, nodup⟩ := List.nodup_cons.mp nodup
  rw [zero_add] at suspended held
  have previousEq : previous = below := by
    change current.prevEntry.getD none = below
    rw [show current.prevEntry = some below from link]
    rfl
  refine ⟨⟨start, ?_, suspended.symm⟩, ?_⟩
  · rw [RuntimeStackEntry.thisRuntime, show current.startTimestamp = _ from start, suspended]
  · have down : current.handedDown false now = (functions entry.function).suspendedTime :=
      add_zero _
    have resumed : Held handed previous rest 0 := by
      change Held (functions.addSuspendedTime previous (current.handedDown false now)) previous _ _
      rw [down, previousEq]
      apply Held.addSuspendedTime _ nodup
      rw [zero_add]
      exact held
    apply resumed.congr
    intro other member
    apply update_of_ne
    intro same
    exact apart (same ▸ List.mem_map_of_mem member)

end Held

end OpenBsw.Runtime
