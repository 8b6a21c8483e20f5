import Mathlib

/-!
# Outcomes of fallible computations

A computation that may fail is specified by what holds of the values it
returns and of the failures it stops with.  The rules follow its text: a
sequence is specified by an intermediate condition, a loop over positions by
an invariant.
-/

namespace OpenBsw

universe u v

variable {Failure : Type u} {α β State : Type v}

/-- Returned values satisfy the one condition, failures the other. -/
def Outcome (computation : Except Failure α) (Returns : α → Prop) (Fails : Failure → Prop) :
    Prop :=
  match computation with
  | .ok value => Returns value
  | .error failure => Fails failure

/-- A computation that has returned hands its value on. -/
@[simp]
theorem ok_bind (value : α) (next : α → Except Failure β) :
    (Except.ok value >>= next) = next value :=
  rfl

variable {computation : Except Failure α} {Fails : Failure → Prop}

namespace Outcome

theorem of_eq_ok {Returns : α → Prop} (outcome : Outcome computation Returns Fails) {value : α}
    (returned : computation = .ok value) : Returns value := by
  subst returned
  exact outcome

theorem mono {Returns Weaker : α → Prop} (outcome : Outcome computation Returns Fails)
    (weaken : ∀ value, Returns value → Weaker value) : Outcome computation Weaker Fails := by
  cases computation with
  | ok value => exact weaken value outcome
  | error failure => exact outcome

theorem bind {next : α → Except Failure β} {Between : α → Prop} {Returns : β → Prop}
    (first : Outcome computation Between Fails)
    (second : ∀ value, Between value → Outcome (next value) Returns Fails) :
    Outcome (computation >>= next) Returns Fails := by
  cases computation with
  | ok value => exact second value first
  | error failure => exact first

end Outcome

/-- Run the body at `count` positions from `position` on, until it asks to
stop. -/
def iterate (body : Nat → State → Except Failure (State × Bool)) :
    Nat → Nat → State → Except Failure State
  | _, 0, state => pure state
  | position, count + 1, state => do
    let (state, continues) ← body position state
    if continues then iterate body (position + 1) count state else pure state

/-- An invariant of the body holds behind the loop. -/
theorem Outcome.iterate {body : Nat → State → Except Failure (State × Bool)}
    (Invariant : Nat → State → Prop) {Returns : State → Prop} {last : Nat}
    (preserved : ∀ position state, position < last → Invariant position state →
      Outcome (body position state) (fun result =>
        if result.2 then Invariant (position + 1) result.1 else Returns result.1) Fails)
    (finished : ∀ state, Invariant last state → Returns state) {position count : Nat}
    {state : State} (lastEq : position + count = last) (invariant : Invariant position state) :
    Outcome (iterate body position count state) Returns Fails := by
  induction count generalizing position state with
  | zero =>
    rw [Nat.add_zero] at lastEq
    subst lastEq
    exact finished state invariant
  | succ count ih =>
    refine (preserved position state (by omega) invariant).bind ?_
    rintro ⟨next, continues⟩ nextInvariant
    cases continues with
    | true => exact ih (by omega) nextInvariant
    | false => exact nextInvariant

end OpenBsw
