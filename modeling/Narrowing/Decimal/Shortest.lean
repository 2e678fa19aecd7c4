import Narrowing.Decimal.Binary
/-!
# Shortest decimals

Of the decimals that read back as a given double, the one with the fewest
digits, and of several with that many the one nearest to the double; an exact
tie goes to the even last digit. A decimal reads back when it lies in the
interval of numbers that round to the double; its ends belong to it when the
significand is even.

For each number of digits, from one on, the two neighbours of the value on the
grid of that many digits are tested in exact arithmetic. If any point of a grid
lies in the interval one of these neighbours does, so the first grid with a hit
is the coarsest one.
-/

namespace Narrowing.Decimal

/-- A decimal `digits * 10 ^ exponent`. -/
structure Digits where
  /-- The digits as one number. -/
  digits : Nat
  /-- The power of ten. -/
  exponent : Int
deriving DecidableEq

/-- The interval of the numbers that round to `significand * 2 ^ exponent`, in
units of `2 ^ (exponent - 2)`, ends included if the significand is even. -/
structure RoundingInterval where
  /-- The lower end. -/
  low : Nat
  /-- The value itself. -/
  value : Nat
  /-- The upper end. -/
  high : Nat
  /-- The exponent of the unit. -/
  exponent : Int
  /-- Whether the ends belong to the interval. -/
  closed : Bool

/-- The rounding interval of a positive double: the gap below a power of two is
half as wide. -/
def RoundingInterval.of (significand : Nat) (exponent : Int) : RoundingInterval :=
  let below := if significand = Nat.pow 2 52 && exponent > -1074 then 1 else 2
  { low := 4 * significand - below
    value := 4 * significand
    high := 4 * significand + 2
    exponent := exponent - 2
    closed := significand % 2 = 0 }

/-- The two numbers to compare for a decimal against `n` units: the decimal and
the units, brought over a common denominator. -/
def crossed (d : Digits) (n : Nat) (unit : Int) : Nat × Nat :=
  let left := d.digits * Nat.pow 10 d.exponent.toNat * Nat.pow 2 (-unit).toNat
  let right := n * Nat.pow 2 unit.toNat * Nat.pow 10 (-d.exponent).toNat
  (left, right)

/-- Whether a decimal lies in a rounding interval. -/
def RoundingInterval.contains (i : RoundingInterval) (d : Digits) : Bool :=
  let (x, low) := crossed d i.low i.exponent
  let (y, high) := crossed d i.high i.exponent
  if i.closed then low ≤ x && y ≤ high else low < x && y < high

/-- Twice the distance of the value from the middle of two neighbours decides
between them; a tie goes to the even one. -/
def nearerNeighbour (i : RoundingInterval) (lower : Digits) : Digits :=
  let upper : Digits := { lower with digits := lower.digits + 1 }
  let middle : Digits := { lower with digits := 2 * lower.digits + 1 }
  let (m, v) := crossed middle (2 * i.value) i.exponent
  if v < m then lower
  else if m < v then upper
  else if lower.digits % 2 = 0 then lower else upper

/-- The best hit among the two neighbours of the value on one grid. -/
def gridHit (i : RoundingInterval) (num den : Nat) (exponent : Int) : Option Digits :=
  let floor := num * Nat.pow 10 (-exponent).toNat / (den * Nat.pow 10 exponent.toNat)
  let lower : Digits := ⟨floor, exponent⟩
  let upper : Digits := ⟨floor + 1, exponent⟩
  let lowerHit := floor > 0 && i.contains lower
  let upperHit := i.contains upper
  if lowerHit && upperHit then some (nearerNeighbour i lower)
  else if lowerHit then some lower
  else if upperHit then some upper
  else none

/-- The exponent of the first digit of a positive quotient of at least one. -/
def wholeExponent (num den : Nat) : Int :=
  ((Nat.toDigits 10 (num / den)).length : Int) - 1

/-- The exponent of the first digit of a positive quotient: a quotient below one
is multiplied by ten until it is not. -/
def leadingExponent : Nat → Nat → Nat → Int
  | 0, _, _ => 0
  | steps + 1, num, den =>
    if den ≤ num then wholeExponent num den else leadingExponent steps (num * 10) den - 1

/-- Tries grids from coarse to fine. -/
def searchGrids (i : RoundingInterval) (num den : Nat) (leading : Int) : Nat → Nat → Digits
  | 0, count => ⟨num * Nat.pow 10 (count - leading).toNat / den, leading - count⟩
  | tries + 1, count =>
    match gridHit i num den (leading - count) with
    | some d => d
    | none => searchGrids i num den leading tries (count + 1)

/-- Drops trailing zeros. -/
def Digits.trim : Nat → Digits → Digits
  | 0, d => d
  | steps + 1, d =>
    if d.digits ≠ 0 && d.digits % 10 = 0 then Digits.trim steps ⟨d.digits / 10, d.exponent + 1⟩
    else d

/-- **The shortest decimal** that reads back as `significand * 2 ^ exponent`. -/
def shortest (significand : Nat) (exponent : Int) : Digits :=
  if significand = 0 then ⟨0, 0⟩
  else
    let (num, den) := Binary.scaledFraction significand exponent
    let leading := leadingExponent 330 num den
    (searchGrids (.of significand exponent) num den leading 17 0).trim 20

end Narrowing.Decimal
