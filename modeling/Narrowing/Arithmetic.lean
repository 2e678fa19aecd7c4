import Narrowing.Bits
import Narrowing.Number
import Narrowing.Value.Failure
/-!
# Arithmetic of numbers

The operations on numbers besides sums and products. Quotients of integers are rounded
once; whole quotients go down, and a remainder has the sign of the divisor. Powers leave
the integers for a negative exponent, and the doubles for a root of a negative number.
Bits belong to integers alone.
-/

namespace Narrowing

open Code

/-! ## Doubles -/

/-- A double as a fraction, if it is finite. -/
def Decimal.fraction? (x : Float) : Option (Int × Nat) :=
  match Decimal.Binary.ofFloat x with
  | .finite negative significand exponent =>
    let (num, den) := Decimal.Binary.scaledFraction significand exponent
    some (if negative then -(num : Int) else num, den)
  | _ => none

/-- The double nearest to a fraction that is known to be within reach. -/
def Decimal.nearby (num : Int) (den : Nat) : Float := (Decimal.nearest num den).getD 0.0

/-- Whether a double carries a sign, which zero may do too. -/
def isNegative (x : Float) : Bool := x.toBits.toNat / Nat.pow 2 63 = 1

/-- A double with the sign of another. -/
def withSignOf (x sign : Float) : Float := if isNegative sign then -x.abs else x.abs

/-- The remainder of a division that goes toward zero, which is exact. -/
def truncatedRemainder (x y : Float) : Float :=
  match Decimal.fraction? x, Decimal.fraction? y with
  | some (a, b), some (c, d) =>
    let r := (a.natAbs * d) % (c.natAbs * b)
    withSignOf (Decimal.nearby r (b * d)) x
  | some _, none => if y.isInf then x else y
  | none, _ => 0.0 / 0.0

/-- **The whole quotient and the remainder of two doubles**, the divisor not being
zero. -/
def divideDown (x y : Float) : Float × Float :=
  let r := truncatedRemainder x y
  let q := (x - r) / y
  let (q, r) :=
    if r == 0.0 then (q, withSignOf 0.0 y)
    else if (y < 0.0) != (r < 0.0) then (q - 1.0, r + y)
    else (q, r)
  if q == 0.0 then (withSignOf 0.0 (x / y), r)
  else
    let whole := q.floor
    (if q - whole > 0.5 then whole + 1.0 else whole, r)

/-- Whether a double is an odd whole number. -/
def isOdd (x : Float) : Bool :=
  match Decimal.fraction? x with
  | some (num, den) => num % den == 0 && (num / den) % 2 != 0
  | none => false

/-! ## Complex numbers -/

namespace ComplexNumber

/-- The product. -/
def mul (p q : Float × Float) : Float × Float :=
  (p.1 * q.1 - p.2 * q.2, p.1 * q.2 + p.2 * q.1)

/-- **The quotient**, which is scaled by the greater part of the divisor; there is none
by zero. -/
def div? (p q : Float × Float) : Option (Float × Float) :=
  let (a, b) := p
  let (c, d) := q
  if c.abs >= d.abs then
    if c.abs == 0.0 then none
    else
      let ratio := d / c
      let den := c + d * ratio
      some ((a + b * ratio) / den, (b - a * ratio) / den)
  else if d.abs >= c.abs then
    let ratio := c / d
    let den := c * ratio + d
    some ((a * ratio + b) / den, (b * ratio - a) / den)
  else some (0.0 / 0.0, 0.0 / 0.0)

/-- A power by repeated squares, from the least bit of the exponent on. -/
def squares : Nat → Nat → Float × Float → Float × Float → Float × Float
  | 0, _, _, r => r
  | steps + 1, n, p, r =>
    if n = 0 then r
    else squares steps (n / 2) (mul p p) (if n % 2 = 1 then mul r p else r)

/-- A power with a whole exponent. -/
def wholePower? (p : Float × Float) (n : Int) : Option (Float × Float) :=
  let r := squares 64 n.natAbs p (1.0, 0.0)
  if n > 0 then some r
  else if n = 0 then some (1.0, 0.0)
  else div? (1.0, 0.0) r

/-- A power by the length and the angle of the base. -/
def polarPower? (p q : Float × Float) : Option (Float × Float) :=
  let (a, b) := p
  let (c, d) := q
  if c == 0.0 && d == 0.0 then some (1.0, 0.0)
  else if a == 0.0 && b == 0.0 then
    if d != 0.0 || c < 0.0 then none else some (0.0, 0.0)
  else
    let base := Number.length a b
    let angle := Float.atan2 b a
    let size := base.pow c
    let phase := angle * c
    let (size, phase) :=
      if d != 0.0 then (size / (angle * d).exp, phase + d * base.log) else (size, phase)
    if phase.isInf then none else some (size * phase.cos, size * phase.sin)

/-- **A power**: there is none of zero with a negative or complex exponent. -/
def power (p q : Float × Float) : Except Failure Number :=
  let small : Option Int :=
    if q.2 == 0.0 && q.1 == q.1.floor && q.1.abs <= 100.0 then
      (Decimal.fraction? q.1).map fun (num, den) => num / den
    else none
  let result :=
    match small with
    | some n => wholePower? p n
    | none => polarPower? p q
  match result with
  | none => .error .divisionByZero
  | some (re, im) => if re.isInf || im.isInf then .error .tooLarge else .ok (.complex re im)

end ComplexNumber

/-! ## Powers -/

/-- **A power of doubles**; a root of a negative number is complex. -/
def floatPower (x y : Float) : Except Failure Number :=
  if y == 0.0 then .ok (.float 1.0)
  else if x.isNaN then .ok (.float x)
  else if y.isNaN then .ok (.float (if x == 1.0 then 1.0 else y))
  else if y.isInf then
    let x := x.abs
    .ok (.float (if x == 1.0 then 1.0 else if (y > 0.0) == (x > 1.0) then y.abs else 0.0))
  else if x.isInf then
    if y > 0.0 then .ok (.float (if isOdd y then x else x.abs))
    else .ok (.float (if isOdd y then withSignOf 0.0 x else 0.0))
  else if x == 0.0 then
    if y < 0.0 then .error .divisionByZero else .ok (.float (if isOdd y then x else 0.0))
  else if x < 0.0 && y != y.floor then ComplexNumber.power (x, 0.0) (y, 0.0)
  else
    let turns := x < 0.0 && isOdd y
    let x := x.abs
    let r := if x == 1.0 then 1.0 else x.pow y
    if r.isInf then .error .tooLarge else .ok (.float (if turns then -r else r))

/-- How many bits a number may have that an operation makes. -/
def greatestBits : Nat := 100000000

/-- **A power of integers**; a negative exponent makes it a double. -/
def intPower (i j : Int) : Except Failure Number :=
  match j with
  | .ofNat n =>
    if i.natAbs > 1 && i.natAbs.log2 * n > greatestBits then .error .outOfRoom
    else if i.natAbs ≤ 1 then
      .ok (.int (if n = 0 then 1 else if i < 0 && n % 2 = 0 then -i else i))
    else .ok (.int (Int.pow i n))
  | .negSucc _ =>
    match (Number.int i).toFloat?, (Number.int j).toFloat? with
    | some x, some y => if i = 0 then .error .divisionByZero else floatPower x y
    | _, _ => .error .tooLarge

/-! ## Operators -/

namespace Number

/-- The number of an operation that may be too large. -/
def orTooLarge : Option Number → Except Failure Number
  | some n => .ok n
  | none => .error .tooLarge

/-- Two real numbers as doubles. -/
def floats (m n : Number) : Except Failure (Float × Float) :=
  match m.toFloat?, n.toFloat? with
  | some x, some y => .ok (x, y)
  | _, _ => .error .tooLarge

/-- **The quotient.** -/
def div (m n : Number) : Except Failure Number :=
  match m, n with
  | int _, int 0 => .error .divisionByZero
  | int 0, int j => .ok (.float (if j < 0 then -0.0 else 0.0))
  | int i, int j =>
    let (i, j) := if j < 0 then (-i, -j) else (i, j)
    match Decimal.nearest i j.toNat with
    | some x => .ok (float x)
    | none => .error .tooLarge
  | complex .., _ | _, complex .. =>
    match m.toComplex?, n.toComplex? with
    | some p, some q =>
      match ComplexNumber.div? p q with
      | some (re, im) => .ok (complex re im)
      | none => .error .divisionByZero
    | _, _ => .error .tooLarge
  | m, n => do
    let (x, y) ← floats m n
    if y == 0.0 then throw .divisionByZero
    return float (x / y)

/-- **The whole quotient and the remainder** of real numbers. -/
def divMod (m n : Number) : Except Failure (Number × Number) :=
  match m, n with
  | int _, int 0 => .error .divisionByZero
  | int i, int j => .ok (int (i.fdiv j), int (i.fmod j))
  | complex .., _ | _, complex .. => .error .wrongType
  | m, n => do
    let (x, y) ← floats m n
    if y == 0.0 then throw .divisionByZero
    let (q, r) := divideDown x y
    return (float q, float r)

/-- **The power.** -/
def pow (m n : Number) : Except Failure Number :=
  match m, n with
  | int i, int j => intPower i j
  | complex .., _ | _, complex .. =>
    match m.toComplex?, n.toComplex? with
    | some p, some q => ComplexNumber.power p q
    | _, _ => .error .tooLarge
  | m, n => do
    let (x, y) ← floats m n
    floatPower x y

/-- An integer shifted to the left. -/
def shiftLeft (i j : Int) : Except Failure Int :=
  if j < 0 then .error .badValue
  else if i = 0 then .ok 0
  else if j > 30 * Word.count 61 then .error .tooLarge
  else if j > greatestBits then .error .outOfRoom
  else .ok (i * Nat.pow 2 j.toNat)

/-- An integer shifted to the right. -/
def shiftRight (i j : Int) : Except Failure Int :=
  if j < 0 then .error .badValue
  else if j > i.natAbs.log2 + 1 then .ok (if i < 0 then -1 else 0)
  else .ok (i.fdiv (Nat.pow 2 j.toNat))

/-- **Two integers under an operator on bits.** -/
def bits (op : BinaryOp) (i j : Int) : Except Failure Int :=
  match op with
  | .bitAnd => .ok (Bits.and i j)
  | .bitOr => .ok (Bits.or i j)
  | .bitXor => .ok (Bits.xor i j)
  | .lShift => shiftLeft i j
  | .rShift => shiftRight i j
  | _ => .error .wrongType

/-- **Two numbers under an operator.** -/
def operate (op : BinaryOp) (m n : Number) : Except Failure Number :=
  match op with
  | .add => orTooLarge (add m n)
  | .sub => orTooLarge (sub m n)
  | .mult => orTooLarge (mul m n)
  | .div => div m n
  | .floorDiv => (divMod m n).map Prod.fst
  | .mod => (divMod m n).map Prod.snd
  | .pow => pow m n
  | .matMult => .error .wrongType
  | op =>
    match m, n with
    | int i, int j => (bits op i j).map int
    | _, _ => .error .wrongType

end Number

/-! ## Rounding -/

/-- A fraction rounded to the nearest integer, a tie going to the even one. -/
def roundedFraction (num : Int) (den : Nat) : Int :=
  let n : Int := Decimal.roundDiv num.natAbs den
  if num < 0 then -n else n

/-- The integer that a double is without its places, if it is finite. -/
def truncated? (x : Float) : Option Int :=
  (Decimal.fraction? x).map fun (num, den) => num.tdiv den

/-- **A double rounded to some decimal places**, of which there may be less than
none. -/
def roundedPlaces (x : Float) (places : Int) : Except Failure Float :=
  match Decimal.fraction? x with
  | none => .ok x
  | some (num, den) =>
    if places > 400 then .ok x
    else if places < -400 then .ok (withSignOf 0.0 x)
    else
      let scale := Nat.pow 10 places.natAbs
      let rounded :=
        if places ≥ 0 then Decimal.nearest (roundedFraction (num * scale) den) scale
        else Decimal.nearest (roundedFraction num (den * scale) * scale) 1
      match rounded with
      | some r => .ok (withSignOf r x)
      | none => .error .tooLarge

/-- An integer rounded to a power of ten, a tie going to the even one. -/
def roundedInt (i : Int) (places : Int) : Int :=
  if places ≥ 0 then i
  else if places.natAbs > i.natAbs.log2 + 1 then 0
  else
    let scale := Nat.pow 10 places.natAbs
    roundedFraction i scale * scale

end Narrowing
