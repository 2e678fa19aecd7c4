/-!
# Binary fractions

A finite double is a sign and a natural number times a power of two. This module
reads a double as such a pair, exactly, and rounds a quotient of integers to the
nearest double, a tie going to the one with the even significand.
-/

namespace Narrowing.Decimal

/-- **A double, taken apart.** -/
inductive Binary where
  /-- Not a number. -/
  | nan
  /-- An infinity. -/
  | infinity (negative : Bool)
  /-- `significand * 2 ^ exponent`, with a sign that zero carries too. -/
  | finite (negative : Bool) (significand : Nat) (exponent : Int)
deriving DecidableEq

namespace Binary

/-- **Takes the bits of a double apart.** -/
def ofBits (bits : UInt64) : Binary :=
  let n := bits.toNat
  let negative := n / Nat.pow 2 63 = 1
  let biased : Nat := n / Nat.pow 2 52 % Nat.pow 2 11
  let fraction := n % Nat.pow 2 52
  if biased = 2047 then
    if fraction = 0 then infinity negative else nan
  else if biased = 0 then finite negative fraction (-1074)
  else finite negative (Nat.pow 2 52 + fraction) ((biased : Int) - 1075)

/-- A double as a binary fraction. -/
def ofFloat (x : Float) : Binary := ofBits x.toBits

/-- The quotient of a natural number and a power of two, or their product. -/
def scaledFraction (significand : Nat) (exponent : Int) : Nat × Nat :=
  match exponent with
  | .ofNat e => (significand * Nat.pow 2 e, 1)
  | .negSucc e => (significand, Nat.pow 2 (e + 1))

end Binary

/-- **The quotient of two natural numbers rounded to the nearest one**, a tie
going to the even one. -/
def roundDiv (num den : Nat) : Nat :=
  let q := num / den
  let r := num % den
  if 2 * r < den || (2 * r = den && q % 2 = 0) then q else q + 1

/-- The exponent at which a positive quotient has a significand of 53 bits, or
the least exponent there is. -/
def quotientExponent (num den : Nat) : Int :=
  let estimate : Int := (num.log2 : Int) - den.log2 - 52
  let (n, d) := if estimate ≥ 0 then (num, den * Nat.pow 2 estimate.toNat)
    else (num * Nat.pow 2 (-estimate).toNat, den)
  let exact := if n / d < Nat.pow 2 52 then estimate - 1 else estimate
  max exact (-1074)

/-- **The double nearest to a positive quotient**, or nothing where it is beyond
the greatest finite one. -/
def nearestPositive (num den : Nat) : Option Float :=
  let e := quotientExponent num den
  let significand :=
    if e ≥ 0 then roundDiv num (den * Nat.pow 2 e.toNat) else roundDiv (num * Nat.pow 2 (-e).toNat) den
  let (significand, e) :=
    if significand = Nat.pow 2 53 then (Nat.pow 2 52, e + 1) else (significand, e)
  if e > 971 then none
  else
    let bits :=
      if significand < Nat.pow 2 52 then significand
      else ((e + 1075).toNat) * Nat.pow 2 52 + (significand - Nat.pow 2 52)
    some (Float.ofBits (UInt64.ofNat bits))

/-- **The double nearest to a quotient of integers** with a positive divisor. -/
def nearest (num : Int) (den : Nat) : Option Float :=
  match num with
  | .ofNat 0 => some 0.0
  | .ofNat n => nearestPositive n den
  | .negSucc n => (nearestPositive (n + 1) den).map fun x => -x

end Narrowing.Decimal
