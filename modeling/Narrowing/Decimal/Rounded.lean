import Narrowing.Decimal.Layout
/-!
# Decimals of a given precision

The exact value of a double rounded half to even, to a number of places behind the
point, to a number of places behind the first digit, or to a number of digits in
whichever of the two forms is shorter.
-/

namespace Narrowing.Decimal

/-- The exponent of the first digit of a positive quotient. -/
def firstExponent (num den : Nat) : Int :=
  let estimate : Int := ((digitsOf num).length : Int) - (digitsOf den).length
  let reached : Bool :=
    if estimate ≥ 0 then den * Nat.pow 10 estimate.toNat ≤ num
    else den ≤ num * Nat.pow 10 (-estimate).toNat
  if reached then estimate else estimate - 1

/-- A positive quotient rounded to so many places behind the first digit: its digits
and the exponent of the first. -/
def significant (places num den : Nat) : Nat × Int :=
  let e := firstExponent num den
  let shift : Int := places - e
  let digits :=
    if shift ≥ 0 then roundDiv (num * Nat.pow 10 shift.toNat) den
    else roundDiv num (den * Nat.pow 10 (-shift).toNat)
  if digits = Nat.pow 10 (places + 1) then (Nat.pow 10 places, e + 1) else (digits, e)

/-- Digits with a point after the first. -/
def leadPointed : List Char → List Char
  | c :: cs@(_ :: _) => c :: '.' :: cs
  | cs => cs

/-- A nonnegative quotient with so many places behind the first digit and an
exponent. -/
def exponentialPlaces (places num den : Nat) : List Char :=
  if num = 0 then leadPointed (List.replicate (places + 1) '0') ++ exponentPart 0
  else
    let (digits, e) := significant places num den
    leadPointed (padded (places + 1) (digitsOf digits)) ++ exponentPart e

/-- Drops zeros at the end of what stands behind a point, and the point with them. -/
def withoutZeros (cs : List Char) : List Char :=
  if cs.contains '.' then
    let kept := cs.reverse.dropWhile (· = '0')
    (match kept with
      | '.' :: rest => rest
      | kept => kept).reverse
  else cs

end Narrowing.Decimal
