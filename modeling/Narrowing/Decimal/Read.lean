import Narrowing.Decimal.Binary
/-!
# Reading decimals

The double nearest to a written decimal: an optional sign, digits with an
optional point, and an optional exponent of ten, or one of the words for what is
not finite.
-/

namespace Narrowing.Decimal

/-- The number written by decimal digits. -/
def digitsValue (cs : List Char) : Nat :=
  cs.foldl (fun n c => 10 * n + (c.toNat - '0'.toNat)) 0

/-- The infinite double. -/
def infinity : Float := 1.0 / 0.0

/-- The double that is not a number. -/
def notANumber : Float := 0.0 / 0.0

/-- The double nearest to `digits * 10 ^ exponent`; beyond the finite ones it is
infinite. -/
def ofScientific (digits : Nat) (exponent : Int) : Float :=
  if digits = 0 then 0.0
  else
    let size := ((Nat.toDigits 10 digits).length : Int) + exponent
    if size > 400 then infinity
    else if size < -400 then 0.0
    else
      let nearest :=
        if exponent ≥ 0 then nearestPositive (digits * Nat.pow 10 exponent.toNat) 1
        else nearestPositive digits (Nat.pow 10 (-exponent).toNat)
      nearest.getD infinity

/-- The value of an exponent part without its letter. -/
def exponentValue (cs : List Char) : Option Int :=
  let (negative, ds) :=
    match cs with
    | '-' :: ds => (true, ds)
    | '+' :: ds => (false, ds)
    | ds => (false, ds)
  if ds.isEmpty || !ds.all Char.isDigit then none
  else some (if negative then -(digitsValue ds : Int) else digitsValue ds)

/-- **The double written by an unsigned decimal.** -/
def readUnsigned (cs : List Char) : Option Float :=
  let (whole, rest) := cs.span Char.isDigit
  let (places, rest) :=
    match rest with
    | '.' :: rest => rest.span Char.isDigit
    | rest => ([], rest)
  if whole.isEmpty && places.isEmpty then none
  else
    let digits := digitsValue (whole ++ places)
    match rest with
    | [] => some (ofScientific digits (-(places.length : Int)))
    | c :: rest =>
      if c = 'e' || c = 'E' then
        (exponentValue rest).map fun e => ofScientific digits (e - places.length)
      else none

/-- **The double of a text.** -/
def read (s : String) : Option Float :=
  let unsigned : List Char → Option Float
    | ['i', 'n', 'f'] => some infinity
    | ['n', 'a', 'n'] => some notANumber
    | cs => readUnsigned cs
  match s.toList with
  | '-' :: cs => (unsigned cs).map fun x => -x
  | '+' :: cs => unsigned cs
  | cs => unsigned cs

end Narrowing.Decimal
