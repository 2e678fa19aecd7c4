import Narrowing.Decimal.Rounded
/-!
# Styles of writing a double

A double is written with a number of places, with an exponent, with a number of digits
in whichever of these forms fits, or by its shortest decimal. Each style may always show
the point, and keep the zeros that it has room for; the last two may keep one place of a
whole number.
-/

namespace Narrowing.Decimal

/-- **How a double is written.** -/
inductive Style where
  | fixed | exponential | general | shortest
deriving DecidableEq

/-- Digits before an exponent changed in a way. -/
def beforeExponent (f : List Char → List Char) (cs : List Char) : List Char :=
  f (cs.takeWhile (· ≠ 'e')) ++ cs.dropWhile (· ≠ 'e')

/-- Digits with a point, if they have none. -/
def withPoint (cs : List Char) : List Char := if cs.contains '.' then cs else cs ++ ['.']

/-- Digits with a place, if they have no point. -/
def withPlace (cs : List Char) : List Char := if cs.contains '.' then cs else cs ++ ['.', '0']

/-- A nonnegative quotient with so many digits, where a whole number of just as many is
written with an exponent if it is to keep a place. -/
def general (isMarked keepsPlace : Bool) (precision num den : Nat) : List Char :=
  let precision := max 1 precision
  let e := if num = 0 then 0 else (significant (precision - 1) num den).2
  let limit : Int := if keepsPlace then (precision : Int) - 1 else precision
  let trimmed (cs : List Char) : List Char := if isMarked then cs else withoutZeros cs
  if -4 ≤ e && e < limit then
    let cs := trimmed (fixedPlaces ((precision : Int) - 1 - e).toNat num den)
    if keepsPlace then withPlace cs else cs
  else beforeExponent trimmed (exponentialPlaces (precision - 1) num den)

/-- How a shortest decimal is laid out: with an exponent from ten to the sixteenth on, and
below a ten-thousandth. -/
def shortestLayout (keepsPlace : Bool) : Layout := ⟨-4, 15, keepsPlace⟩

/-- **The magnitude of a double in a style.** -/
def styled (style : Style) (isMarked keepsPlace : Bool) (precision : Nat) (x : Float) : List Char :=
  match Binary.ofFloat x with
  | .nan => "nan".toList
  | .infinity _ => "inf".toList
  | .finite _ significand exponent =>
    let (num, den) := Binary.scaledFraction significand exponent
    let cs :=
      match style with
      | .fixed => fixedPlaces precision num den
      | .exponential => exponentialPlaces precision num den
      | .general => general isMarked keepsPlace precision num den
      | .shortest => (shortestLayout keepsPlace).digits (Decimal.shortest significand exponent)
    if isMarked then beforeExponent withPoint cs else cs

end Narrowing.Decimal
