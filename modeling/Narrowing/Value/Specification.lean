import Narrowing.Decimal.Limit
import Narrowing.Decimal.Styled
import Narrowing.Arithmetic
import Narrowing.Text.Numeral
/-!
# Format specifications

A short text that says how a value is written: the character that fills it up and on
which side, the sign of a number, whether the mark of its base or its point is always
shown, a width, what sets groups of digits apart, a precision, and the letter of a
presentation. The parts come in this order and each may be left out.

What is written of a number has parts of its own: what stands before its digits, the
digits that are grouped, and what follows them. Filling up with zeros between the sign and
the digits groups the zeros too.
-/

namespace Narrowing

/-- The side on which a value is filled up: on the right of it, on the left, on both, or
between the sign and the digits. -/
inductive Alignment where
  | left | right | centre | inside
deriving DecidableEq

/-- When a sign is shown in front of what is not negative, and which. -/
inductive SignRule where
  | negativeOnly | plus | blank
deriving DecidableEq

/-- **A format specification.** -/
structure Specification where
  fill : Char := ' '
  alignment : Alignment
  /-- How signs are shown, if the specification says so. -/
  sign : Option SignRule := none
  /-- Whether what rounds to zero loses its sign. -/
  dropsZeroSign : Bool := false
  isMarked : Bool := false
  width : Option Nat := none
  /-- What sets groups of digits apart. -/
  separator : Option Char := none
  precision : Option Nat := none
  /-- The letter of the presentation. -/
  presentation : Option Char := none

namespace Specification

/-- The alignment of a mark. -/
def alignment? : Char → Option Alignment
  | '<' => some .left
  | '>' => some .right
  | '^' => some .centre
  | '=' => some .inside
  | _ => none

/-- The rule of a sign. -/
def sign? : Char → Option SignRule
  | '-' => some .negativeOnly
  | '+' => some .plus
  | ' ' => some .blank
  | _ => none

/-- Takes a number off the front, which is a word. -/
def amount (cs : List Char) : Option (Option Nat × List Char) :=
  let isDigit (c : Char) : Bool := (Text.digitValue? c).isSome
  let ds := cs.takeWhile isDigit
  if ds.isEmpty then some (none, cs)
  else
    let n := Decimal.digitsValue (ds.map Text.plainForm)
    if Word.fits 63 n then some (some n, cs.dropWhile isDigit) else none

/-- Takes the fill and the alignment off the front. -/
def aligned (s : Specification) (cs : List Char) : Specification × Bool × Bool × List Char :=
  match cs with
  | c :: d :: rest =>
    match alignment? d, alignment? c with
    | some a, _ => ({ s with fill := c, alignment := a }, true, true, rest)
    | none, some a => ({ s with alignment := a }, false, true, d :: rest)
    | none, none => (s, false, false, cs)
  | [c] =>
    match alignment? c with
    | some a => ({ s with alignment := a }, false, true, [])
    | none => (s, false, false, cs)
  | [] => (s, false, false, [])

/-- Takes a mark off the front, if it stands there. -/
def mark (c : Char) (cs : List Char) : Bool × List Char :=
  match cs with
  | d :: rest => if d = c then (true, rest) else (false, cs)
  | [] => (false, [])

/-- Takes the separator of groups off the front; there is only one. -/
def separatorOf (cs : List Char) : Option (Option Char × List Char) :=
  match cs with
  | ',' :: '_' :: _ | '_' :: ',' :: _ => none
  | ',' :: rest => some (some ',', rest)
  | '_' :: rest => some (some '_', rest)
  | cs => some (none, cs)

/-- Takes the precision off the front, which has to follow its point. -/
def precisionOf (cs : List Char) : Option (Option Nat × List Char) :=
  match cs with
  | '.' :: rest => do
    let (n, rest) ← amount rest
    if n.isNone then none else return (n, rest)
  | cs => some (none, cs)

/-- Whether a presentation goes with a separator of groups. -/
def takesSeparator (separator : Char) (presentation : Option Char) : Bool :=
  match presentation with
  | none => true
  | some c => "defgEGF%".toList.contains c || (separator = '_' && "boxX".toList.contains c)

/-- **Reads a specification** for values that are aligned in some way of their own and have
some presentation. -/
def read? (alignment : Alignment) (presentation : Option Char) (cs : List Char) :
    Option Specification := do
  let (s, hasFill, hasAlignment, cs) := aligned { alignment } cs
  let (sign, cs) :=
    match cs with
    | c :: rest =>
      match sign? c with
      | some r => (some r, rest)
      | none => (none, cs)
    | [] => (none, [])
  let (dropsZeroSign, cs) := mark 'z' cs
  let (isMarked, cs) := mark '#' cs
  let (hasZero, cs) := if hasFill then (false, cs) else mark '0' cs
  let s :=
    if hasZero then
      { s with
        fill := '0'
        alignment := if !hasAlignment && alignment = .right then .inside else s.alignment }
    else s
  let (width, cs) ← amount cs
  let (separator, cs) ← separatorOf cs
  let (precision, cs) ← precisionOf cs
  let given ←
    match cs with
    | [] => some presentation
    | [c] => some (some c)
    | _ => none
  if separator.any fun c => !takesSeparator c given then none
  return { s with
    sign, dropsZeroSign, isMarked, width, separator, precision, presentation := given }

/-- Characters filled up on the sides that a specification says. -/
def filledUp (s : Specification) (cs : List Char) : List Char :=
  let missing := s.width.getD 0 - cs.length
  let fill (n : Nat) : List Char := List.replicate n s.fill
  match s.alignment with
  | .right => fill missing ++ cs
  | .centre => fill (missing / 2) ++ cs ++ fill (missing - missing / 2)
  | .left | .inside => cs ++ fill missing

end Specification

/-! ## Numbers -/

/-- **What is written of a number.** -/
structure NumberParts where
  isNegative : Bool
  /-- The mark of the base. -/
  mark : List Char := []
  /-- The digits that may be grouped. -/
  digits : List Char
  /-- What follows them. -/
  rest : List Char := []

namespace NumberParts

/-- A number whose digits go up to a point or anything else. -/
def ofText (isNegative : Bool) (cs : List Char) : NumberParts :=
  { isNegative, digits := cs.takeWhile Char.isDigit, rest := cs.dropWhile Char.isDigit }

/-- Digits from the last on in groups of a size, with zeros behind them up to a width. -/
def groupedBack (separator : Char) (size : Nat) : Nat → List Char → Int → List Char
  | 0, ds, _ => ds
  | steps + 1, ds, width =>
    let count := min size (max 1 (max ds.length width.toNat))
    let group := ds.take count ++ List.replicate (count - ds.length) '0'
    let left := ds.drop count
    let width := width - count
    if left.isEmpty && width ≤ 0 then group
    else group ++ separator :: groupedBack separator size steps left (width - 1)

/-- **Digits in groups**, with zeros in front up to a width. -/
def grouped (separator : Option Char) (size : Nat) (ds : List Char) (width : Int) : List Char :=
  match separator with
  | none => List.replicate (width.toNat - ds.length) '0' ++ ds
  | some c => (groupedBack c size (ds.length + width.toNat + 1) ds.reverse width).reverse

/-- The sign of a number. -/
def signText (n : NumberParts) (rule : Option SignRule) : List Char :=
  if n.isNegative then ['-']
  else
    match rule with
    | some .plus => ['+']
    | some .blank => [' ']
    | _ => []

/-- **A number as a specification says**, with digits in groups of a size. -/
def write (n : NumberParts) (s : Specification) (size : Nat) : List Char :=
  let front := n.signText s.sign ++ n.mark
  let isZeroFilled := s.fill = '0' && s.alignment = .inside
  let least : Int :=
    if isZeroFilled then (s.width.getD 0 : Int) - front.length - n.rest.length else 0
  let digits := if n.digits.isEmpty then [] else grouped s.separator size n.digits least
  let body := digits ++ n.rest
  if s.alignment = .inside then
    front ++ List.replicate (s.width.getD 0 - front.length - body.length) s.fill ++ body
  else s.filledUp (front ++ body)

end NumberParts

namespace Specification

/-- **A text as a specification says**; much of what a specification can say is said of
numbers alone. -/
def text? (s : Specification) (cs : List Char) : Option (List Char) :=
  if s.presentation ≠ some 's' || s.sign.isSome || s.dropsZeroSign || s.isMarked ||
      s.alignment = .inside then none
  else some (s.filledUp (cs.take (s.precision.getD cs.length)))

/-- The base of a presentation of integers, with its mark. -/
def base? : Char → Option (Nat × String)
  | 'b' => some (2, "0b")
  | 'o' => some (8, "0o")
  | 'x' => some (16, "0x")
  | 'X' => some (16, "0X")
  | 'd' | 'n' => some (10, "")
  | _ => none

/-- **An integer as a specification says**, or why there is none. -/
def integer (s : Specification) (presentation : Char) (i : Int) : Except Failure (List Char) := do
  if s.precision.isSome || s.dropsZeroSign then throw .badValue
  if presentation = 'c' then
    if s.sign.isSome || s.isMarked then throw .badValue
    if i < 0 || i ≥ 0x110000 then throw .tooLarge
    return NumberParts.write { isNegative := false, digits := [], rest := [Char.ofNat i.toNat] } s 3
  match base? presentation with
  | none => throw .badValue
  | some (base, baseMark) =>
    if base = 10 && !Decimal.isWritable i then throw .badValue
    let ds := Nat.toDigits base i.natAbs
    return NumberParts.write
      { isNegative := i < 0, mark := if s.isMarked then baseMark.toList else []
        digits := if presentation = 'X' then ds.map Char.toUpper else ds }
      s (if base = 10 then 3 else 4)

/-- The style of a presentation of doubles. -/
def style? : Char → Option Decimal.Style
  | 'e' | 'E' => some .exponential
  | 'f' | 'F' | '%' => some .fixed
  | 'g' | 'G' | 'n' => some .general
  | _ => none

/-- The digits of a double in the style of a presentation; without one they are the
shortest, or those of a precision. -/
def doubleText? (s : Specification) (keepsPlace : Bool) (x : Float) : Option (List Char) :=
  match s.presentation with
  | none =>
    some <| match s.precision with
      | none => Decimal.styled .shortest s.isMarked keepsPlace 0 x
      | some n => Decimal.styled .general s.isMarked keepsPlace n x
  | some c =>
    (style? c).map fun style =>
      let cs := Decimal.styled style s.isMarked false (s.precision.getD 6) x
      if c.isUpper then cs.map Char.toUpper else cs

/-- The parts of a double with its sign, which zero may lose. -/
def doubleParts (s : Specification) (isBelow : Bool) (cs : List Char) : NumberParts :=
  let isZero := cs.any Char.isDigit &&
    (cs.takeWhile fun c => c ≠ 'e' && c ≠ 'E').all fun c => c = '0' || !c.isDigit
  .ofText (isBelow && !(s.dropsZeroSign && isZero)) cs

/-- Whether a precision is too great to be worked with. -/
def isTooPrecise (s : Specification) : Bool := s.precision.any fun n => !Word.fits 31 n

/-- **A double as a specification says**, if it has such a presentation. -/
def double? (s : Specification) (x : Float) : Option (List Char) := do
  if s.isTooPrecise then none
  let isPercent := s.presentation = some '%'
  let x := if isPercent then x * 100.0 else x
  let cs ← s.doubleText? true x
  let parts := s.doubleParts (isNegative x && !x.isNaN) cs
  return (if isPercent then { parts with rest := parts.rest ++ ['%'] } else parts).write s 3

/-- **A complex number as a specification says**: its parts in a row, in brackets where the
presentation is left out and there is a real part. -/
def complex? (s : Specification) (re im : Float) : Option (List Char) := do
  if s.isTooPrecise || s.fill = '0' || s.alignment = .inside || s.presentation = some '%' then none
  let isPlain := s.presentation.isNone
  let isImaginary := isPlain && re == 0.0 && !isNegative re
  let bare : Specification :=
    { s with fill := ' ', alignment := .left, width := none }
  let part (rule : Option SignRule) (x : Float) : Option (List Char) := do
    let cs ← s.doubleText? false x
    return (s.doubleParts (isNegative x && !x.isNaN) cs).write { bare with sign := rule } 3
  let front ← if isImaginary then some [] else part s.sign re
  let back ← part (if isImaginary then s.sign else some .plus) im
  let whole := front ++ back ++ ['j']
  return s.filledUp (if isPlain && !isImaginary then '(' :: whole ++ [')'] else whole)

end Specification

end Narrowing
