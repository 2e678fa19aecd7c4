import Narrowing.Assertion
import Narrowing.Error
/-!
# Assertions about values

A value is asserted to belong to a descriptor. What is refused is reported with the
beginning of its literal, which for an object may be the work of code: so a refusal is a
run, and may fail in other ways than it is meant to.
-/

namespace Narrowing

/-- A value that does not belong to a descriptor. -/
abbrev TypeFailure := CheckFailure TypeDescriptor Value

namespace Run

/-- How many characters of the text of a value the report of a check shows. -/
def checkExcerptLength : Nat := 40

/-- **The report of a failed check.** -/
def failureText (f : TypeFailure) : Run String := do
  let expected ← writable (typeText? f.expected)
  let shown ← excerpt checkExcerptLength f.value
  return "TypeCheck[" ++ expected ++ "]: got " ++ (← read).typeName f.value ++ " " ++ shown

/-- The failure of a check that has no answer. -/
def checkFailure : Decider.CheckFault Spelling PredicateFailure → Failure
  | .undecided .endless => .tooDeep
  | .undecided (.untestable missing) => .untestable missing
  | .undecided _ => .badValue
  | .failed e => e.failure

/-- **Checks whether a value belongs to a descriptor**: nothing if it does, else the
failure. -/
def checkType (o : TypeDecider) (expected : TypeDescriptor) (value : Value) :
    Run (Option TypeFailure) := do
  let belongs ← question fun σ =>
    (o.check (σ.isInstance value) (σ.holds value) expected).mapError checkFailure
  return if belongs then none else some { value, expected }

/-- **Refuses a value** after so many recoveries. The error is made with its message, so it is
not made where the literal of the value fails, nor where what was expected cannot be
written. -/
def refuse (expected : TypeDescriptor) (value : Value) (attempts : Nat) : Run Value := do
  let shown ← excerpt LibraryError.excerptLength value
  let _ ← writable (typeText? expected)
  throw (.refused value expected attempts shown)

end Run

/-- **Asserts that a value belongs to a descriptor**, recovering at most so many times, if
there is a callback. A callback may be anything beside which code can run. -/
def assertType {m : Type → Type} [Monad m] [MonadLiftT Run m] (o : TypeDecider)
    (expected : TypeDescriptor) (recover : Option (TypeFailure → m Value)) (limit : Int)
    (value : Value) : m Value :=
  recoverWith expected (fun v => liftM (Run.checkType o expected v)) recover
    (fun v attempts => liftM (Run.refuse expected v attempts)) limit value

end Narrowing
