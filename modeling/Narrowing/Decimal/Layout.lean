import Narrowing.Decimal.Shortest
/-!
# The text of a double

Two ways to write a double down. `Layout.render` writes its shortest decimal,
positionally or with an exponent, as a layout decides. `fixed` writes a fixed
number of decimal places of its exact value, rounding half to even.
-/

namespace Narrowing.Decimal

/-- **How a shortest decimal is laid out.** -/
structure Layout where
  /-- The least exponent of the first digit that is written positionally. -/
  least : Int
  /-- The greatest exponent of the first digit that is written positionally. -/
  greatest : Int
  /-- Whether a whole number written positionally keeps one decimal place. -/
  keepsPlace : Bool

/-- The decimal digits of a number. -/
def digitsOf (n : Nat) : List Char := Nat.toDigits 10 n

/-- Pads with zeros on the left. -/
def padded (width : Nat) (cs : List Char) : List Char :=
  List.replicate (width - cs.length) '0' ++ cs

/-- Digits with a point after the first `whole` of them. -/
def pointed (keepsPlace : Bool) (ds : List Char) (whole : Int) : List Char :=
  if whole ≤ 0 then '0' :: '.' :: (List.replicate (-whole).toNat '0' ++ ds)
  else
    let front := ds.take whole.toNat
    let back := ds.drop whole.toNat
    let front := front ++ List.replicate (whole.toNat - ds.length) '0'
    if back.isEmpty then (if keepsPlace then front ++ ['.', '0'] else front)
    else front ++ '.' :: back

/-- An exponent with its sign and at least two digits. -/
def exponentPart (e : Int) : List Char :=
  'e' :: (if e < 0 then '-' else '+') :: padded 2 (digitsOf e.natAbs)

/-- A decimal as a layout has it. -/
def Layout.digits (l : Layout) (d : Digits) : List Char :=
  let ds := digitsOf d.digits
  let whole : Int := ds.length + d.exponent
  if d.digits = 0 then pointed l.keepsPlace ['0'] 1
  else if l.least ≤ whole - 1 && whole - 1 ≤ l.greatest then pointed l.keepsPlace ds whole
  else
    match ds with
    | first :: rest@(_ :: _) => first :: '.' :: rest ++ exponentPart (whole - 1)
    | ds => ds ++ exponentPart (whole - 1)

/-- The text of a magnitude with its sign. -/
def signed (negative : Bool) (cs : List Char) : String :=
  String.ofList (if negative then '-' :: cs else cs)

/-- **The shortest text of a double** in a layout. -/
def Layout.render (l : Layout) (x : Float) : String :=
  match Binary.ofFloat x with
  | .nan => "nan"
  | .infinity negative => if negative then "-inf" else "inf"
  | .finite negative significand exponent =>
    signed negative (l.digits (shortest significand exponent))

/-- A nonnegative quotient with a fixed number of decimal places. -/
def fixedPlaces (places num den : Nat) : List Char :=
  let ds := padded (places + 1) (digitsOf (roundDiv (num * Nat.pow 10 places) den))
  let front := ds.take (ds.length - places)
  if places = 0 then front else front ++ '.' :: ds.drop (ds.length - places)

/-- **A double with a fixed number of decimal places**, its exact value rounded
half to even. -/
def fixed (places : Nat) (x : Float) : String :=
  match Binary.ofFloat x with
  | .nan => "nan"
  | .infinity negative => if negative then "-inf" else "inf"
  | .finite negative significand exponent =>
    let (num, den) := Binary.scaledFraction significand exponent
    signed negative (fixedPlaces places num den)

end Narrowing.Decimal
