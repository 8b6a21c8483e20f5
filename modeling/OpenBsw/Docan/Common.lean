import OpenBsw.Data.Outcome

/-!
# What receiver and transmitter share

The reasons an operation may halt for, and the comparison of timer values.
-/

namespace OpenBsw.Docan

/-- Why an operation does not return: an assertion of the source fails, the
environment breaks its contract, the source has undefined behaviour there (a
null pointer, the end of a list), or a loop does not end. -/
inductive Halt where
  | assertion
  | contract
  | undefined
  | endless
  deriving DecidableEq, Repr

/-- The halts that are not the component's fault: an assertion, or an
environment that breaks its contract. -/
def Halt.Excused (halt : Halt) : Prop :=
  halt = .assertion ∨ halt = .contract

/-- `timermanagement::less`: whether the first time lies before the second one,
by at most half the range of the clock. -/
def timerLess (firstTime secondTime : UInt32) : Bool :=
  decide (0x7FFFFFFF < firstTime - secondTime)

end OpenBsw.Docan
