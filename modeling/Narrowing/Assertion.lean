/-!
# Recovery loops

A value is checked, and a failed check may be recovered from: a callback is asked for a
replacement, which is checked in its turn. After a given number of replacements, or at
once if there is no callback, the last value is refused.

The loop is stated over any check, any callback and any way to refuse, and in any monad,
so that what it does can be told apart from what a check is.
-/

namespace Narrowing

/-- **A check that failed**, of values `ν` against what `δ` may be expected. -/
structure CheckFailure (δ ν : Type) where
  /-- The value that was checked. -/
  value : ν
  /-- What it does not belong to. -/
  expected : δ
  /-- The number of the recovery that the failure is handed to, from one on. -/
  attempt : Nat := 0

section Loop

variable {δ ν : Type} {m : Type → Type} [Monad m]

/-- **The recovery loop** after so many recoveries, of which there may be as many as the
limit says. -/
def recoverFrom (expected : δ) (check : ν → m (Option (CheckFailure δ ν)))
    (recover : CheckFailure δ ν → m ν) (refuse : ν → Nat → m ν) (limit : Int) (made : Nat)
    (value : ν) : m ν := do
  match ← check value with
  | none => return value
  | some failure =>
    if (made : Int) ≥ limit then refuse failure.value made
    else
      let replacement ← recover ⟨failure.value, expected, made + 1⟩
      recoverFrom expected check recover refuse limit (made + 1) replacement
termination_by (limit - made).toNat

/-- **Checks a value and recovers** at most so many times, if there is a callback. -/
def recoverWith (expected : δ) (check : ν → m (Option (CheckFailure δ ν)))
    (recover : Option (CheckFailure δ ν → m ν)) (refuse : ν → Nat → m ν) (limit : Int)
    (value : ν) : m ν :=
  match recover with
  | none => recoverFrom expected check (fun f => return f.value) refuse 0 0 value
  | some recover => recoverFrom expected check recover refuse limit 0 value

end Loop

end Narrowing
