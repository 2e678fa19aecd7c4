import Narrowing.Decimal.Layout
import Narrowing.Number
import Narrowing.Value.Failure
/-!
# Reporting durations

Durations in nanoseconds are written in the greatest unit that they reach, and
two of them are compared by their ratio. Integers are divided exactly before
they are rounded to a double, and what is written is that double rounded half to
even.
-/

namespace Narrowing

open Decimal

/-- A unit of time: it serves the durations below a limit. -/
structure TimeUnit where
  /-- Nanoseconds in the unit. -/
  size : Nat
  /-- Decimal places that are written. -/
  places : Nat
  /-- The symbol. -/
  symbol : String

namespace TimeUnit

/-- Nanoseconds. -/
def nano : TimeUnit := ⟨1, 0, "ns"⟩

/-- Microseconds. -/
def micro : TimeUnit := ⟨1000, 1, "µs"⟩

/-- Milliseconds. -/
def milli : TimeUnit := ⟨1000000, 2, "ms"⟩

/-- Seconds. -/
def second : TimeUnit := ⟨1000000000, 3, "s"⟩

end TimeUnit

namespace Number

/-- Whether a real number is less than an integer; what is no number is not. -/
def isBelow (n : Number) (i : Int) : Bool := n.order (int i) == some .lt

/-- **The quotient of two real numbers** as a double, the divisor being
positive. -/
def ratio (a b : Number) : Except Failure Float :=
  let quotient : Option Float :=
    match a, b with
    | int i, int j => nearest i j.toNat
    | a, b => do return (← a.toFloat?) / (← b.toFloat?)
  match quotient with
  | some x => .ok x
  | none => .error .tooLarge

/-- The number of a report; only a real one can be reported. -/
def reportable : Option Number → Except Failure Number
  | some n => if n.isReal then .ok n else .error .wrongType
  | none => .error .wrongType

/-- The unit in which a duration is written. -/
def unit (n : Number) : TimeUnit :=
  if n.isBelow TimeUnit.micro.size then .nano
  else if n.isBelow TimeUnit.milli.size then .micro
  else if n.isBelow TimeUnit.second.size then .milli
  else .second

/-- **The text of a duration** in nanoseconds. -/
def durationText (n : Number) : Except Failure String := do
  let u := n.unit
  let x ← n.ratio (.int u.size)
  return fixed u.places x ++ " " ++ u.symbol

/-- The duration before a speed-up. Only a real one can be compared, after a
division that the duration after it may be too large for. -/
def compared (before : Option Number) (after : Number) : Except Failure Number :=
  match reportable before with
  | .ok n => .ok n
  | .error f => if before.isSome && after.toFloat?.isNone then .error .tooLarge else .error f

/-- **The text of a speed-up** from one duration to another: without a positive
duration after it, it is infinite. -/
def speedupText (before : Option Number) (after : Number) : Except Failure String := do
  if after.order (.int 0) == some .lt || after.isZero then return "∞x"
  let ratio ← (← compared before after).ratio after
  if ratio >= 1.0 then return fixed 2 ratio ++ "x faster"
  if ratio == 0.0 then throw .divisionByZero
  return fixed 2 (1.0 / ratio) ++ "x slower"

end Number

end Narrowing
