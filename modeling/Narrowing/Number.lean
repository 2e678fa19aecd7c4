import Narrowing.Decimal.Binary
/-!
# Numbers

Integers of any size, doubles and complex numbers. An operation works in the
widest kind of its operands. Going from an integer to a double rounds to the
nearest one and fails beyond the greatest; comparing the two does not round.
-/

namespace Narrowing

/-- **A number.** -/
inductive Number where
  | int (i : Int)
  | float (x : Float)
  | complex (re im : Float)

namespace Number

/-- The double nearest to a real number, if there is one. -/
def toFloat? : Number → Option Float
  | int i => Decimal.nearest i 1
  | float x => some x
  | complex .. => none

/-- The parts of a number as a complex one. -/
def toComplex? : Number → Option (Float × Float)
  | complex re im => some (re, im)
  | n => n.toFloat?.map fun x => (x, 0.0)

/-! ## Arithmetic -/

/-- **An operation in the widest kind of its operands**, or nothing if an integer
is too large for it. -/
def widest (ints : Int → Int → Int) (floats : Float → Float → Float)
    (pairs : Float × Float → Float × Float → Float × Float) (a b : Number) : Option Number :=
  match a, b with
  | int i, int j => some (int (ints i j))
  | complex .., _ | _, complex .. => do
    let (re, im) := pairs (← a.toComplex?) (← b.toComplex?)
    return complex re im
  | _, _ => return float (floats (← a.toFloat?) (← b.toFloat?))

/-- The sum. -/
def add : Number → Number → Option Number :=
  widest (· + ·) (· + ·) fun (a, b) (c, d) => (a + c, b + d)

/-- The difference. -/
def sub : Number → Number → Option Number :=
  widest (· - ·) (· - ·) fun (a, b) (c, d) => (a - c, b - d)

/-- The product. -/
def mul : Number → Number → Option Number :=
  widest (· * ·) (· * ·) fun (a, b) (c, d) => (a * c - b * d, a * d + b * c)

/-- The length of a vector with these coordinates, scaled so that squares stay
in range. -/
def length (x y : Float) : Float :=
  if x.isInf || y.isInf then 1.0 / 0.0
  else
    let scale := max x.abs y.abs
    if scale == 0.0 || scale.isNaN then x.abs + y.abs
    else if 1e-100 < scale && scale < 1e100 then (x * x + y * y).sqrt
    else scale * ((x / scale) * (x / scale) + (y / scale) * (y / scale)).sqrt

/-- The absolute value, or nothing if it is beyond the doubles. -/
def abs : Number → Option Number
  | int i => some (int i.natAbs)
  | float x => some (float x.abs)
  | complex re im =>
    let r := length re im
    if r.isInf && !re.isInf && !im.isInf then none else some (float r)

/-! ## Comparison -/

/-- An integer against a double, exactly. -/
def compareExactly (i : Int) (x : Float) : Option Ordering :=
  match Decimal.Binary.ofFloat x with
  | .nan => none
  | .infinity negative => some (if negative then .gt else .lt)
  | .finite negative significand exponent =>
    let (num, den) := Decimal.Binary.scaledFraction significand exponent
    some (compare (i * den) (if negative then -(num : Int) else num))

/-- **The order of two real numbers**; there is none if one of them is no
number. -/
def order : Number → Number → Option Ordering
  | int i, int j => some (compare i j)
  | int i, float x => compareExactly i x
  | float x, int i => (compareExactly i x).map Ordering.swap
  | float x, float y =>
    if x < y then some .lt else if x == y then some .eq else if x > y then some .gt else none
  | _, _ => none

/-- Whether a number is real. -/
def isReal : Number → Bool
  | complex .. => false
  | _ => true

/-- **Whether two numbers are equal.** -/
def equal : Number → Number → Bool
  | complex a b, complex c d => a == c && b == d
  | complex re im, n => im == 0.0 && (order (float re) n == some .eq)
  | n, complex re im => im == 0.0 && (order (float re) n == some .eq)
  | a, b => order a b == some .eq

/-- Whether a number is zero. -/
def isZero : Number → Bool
  | int i => i == 0
  | float x => x == 0.0
  | complex re im => re == 0.0 && im == 0.0

end Number

end Narrowing
