import Narrowing.Arithmetic
import Narrowing.Text.Numeral
/-!
# Doubles in hexadecimal

A double is written exactly as a hexadecimal fraction with a power of two behind the mark
`p`: one digit before the point and thirteen after it. Such a text is read back with any
number of digits, with or without the marks, and rounded to the nearest double.
-/

namespace Narrowing.Hexadecimal

/-- **A double as a hexadecimal fraction.** -/
def ofDouble (x : Float) : String :=
  let sign := if isNegative x then "-" else ""
  let bits := x.toBits.toNat
  let fraction := bits % Nat.pow 2 52
  let exponent := bits / Nat.pow 2 52 % 2048
  let digits (n : Nat) : String :=
    let ds := Nat.toDigits 16 n
    String.ofList (List.replicate (13 - ds.length) '0' ++ ds)
  let power (e : Int) : String := (if e < 0 then "p-" else "p+") ++ toString e.natAbs
  if x.isNaN then "nan"
  else if exponent = 2047 then sign ++ "inf"
  else if exponent = 0 && fraction = 0 then sign ++ "0x0.0p+0"
  else if exponent = 0 then sign ++ "0x0." ++ digits fraction ++ power (-1022)
  else sign ++ "0x1." ++ digits fraction ++ power ((exponent : Int) - 1023)

/-- The value of a hexadecimal digit. -/
def digit? (c : Char) : Option Nat := (Text.alphanumericValue? c).filter (· < 16)

/-- What a text without sign and blanks is: the number of its digits, and the power of two
that it is to be multiplied by. -/
def parts? (cs : List Char) : Option (Nat × Int) := do
  let cs :=
    match cs with
    | '0' :: 'x' :: rest | '0' :: 'X' :: rest => rest
    | cs => cs
  let isDigit (c : Char) : Bool := (digit? c).isSome
  let whole := cs.takeWhile isDigit
  let (places, cs) :=
    match cs.dropWhile isDigit with
    | '.' :: rest => (rest.takeWhile isDigit, rest.dropWhile isDigit)
    | rest => ([], rest)
  if whole.isEmpty && places.isEmpty then none
  let exponent ←
    match cs with
    | [] => some 0
    | c :: rest =>
      if c = 'p' || c = 'P' then
        let (isNegative, ds) := Text.signedPart rest
        if ds.isEmpty || !ds.all Char.isDigit then none
        else
          let n : Int := Decimal.digitsValue ds
          some (if isNegative then -n else n)
      else none
  let value := (whole ++ places).foldl (fun n c => 16 * n + (digit? c).getD 0) 0
  return (value, exponent - 4 * (places.length : Int))

/-- What reading a hexadecimal fraction gives. -/
inductive Reading where
  | double (x : Float)
  | tooLarge
  | malformed

/-- The double nearest to a number times a power of two; what is far out of range is not
worked out. -/
def scaled (value : Nat) (exponent : Int) : Reading :=
  let top : Int := exponent + value.log2
  if value = 0 then .double 0.0
  else if top > 1100 then .tooLarge
  else if top < -1200 then .double 0.0
  else
    let nearest :=
      if exponent ≥ 0 then Decimal.nearest (value * Nat.pow 2 exponent.toNat : Nat) 1
      else Decimal.nearest (value : Int) (Nat.pow 2 (-exponent).toNat)
    match nearest with
    | some x => if x.isInf then .tooLarge else .double x
    | none => .tooLarge

/-- **The double that a text is as a hexadecimal fraction.** -/
def read (s : String) : Reading :=
  let (isNegative, cs) := Text.signedPart (Text.strippedOf Text.isPlainBlank s.toList)
  let signed (x : Float) : Reading := .double (if isNegative then -x else x)
  let word := String.ofList (cs.map Char.toLower)
  if word = "inf" || word = "infinity" then signed Decimal.infinity
  else if word = "nan" then signed Decimal.notANumber
  else
    match parts? cs with
    | none => .malformed
    | some (value, exponent) =>
      match scaled value exponent with
      | .double x => signed x
      | r => r

end Narrowing.Hexadecimal
