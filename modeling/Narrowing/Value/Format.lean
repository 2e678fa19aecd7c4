import Narrowing.Decimal.Styled
import Narrowing.Value.Convert
/-!
# Texts with directives

A text may hold **directives**, places for values that say how these are written. A
directive opens with `%`, may name a key of a mapping in brackets, and gives flags, a
width and a precision, each of which may come from a value of its own, before the letter
of its conversion. Integers are written in decimal or in a base of bits, doubles with
places or digits of a given number, and all else as a text or a literal.

The directives take their values in order, and all values have to be taken, unless they
come from a mapping.
-/

namespace Narrowing

/-! ## Directives -/

/-- A number in a directive. -/
inductive Amount where
  | given (n : Nat)
  /-- The next value. -/
  | argument

/-- **A directive.** -/
structure Directive where
  key : Option (List Char) := none
  isLeft : Bool := false
  hasSign : Bool := false
  hasBlank : Bool := false
  hasZeros : Bool := false
  isMarked : Bool := false
  width : Option Amount := none
  precision : Option Amount := none
  conversion : Char := '%'

/-- A piece of a text with directives. -/
inductive Piece where
  | plain (c : Char)
  | directive (d : Directive)
  /-- A directive that the text breaks off. -/
  | incomplete

namespace Directive

/-- Takes the flags off the characters of a directive. -/
def flags (d : Directive) : List Char → Directive × List Char
  | '-' :: cs => flags { d with isLeft := true } cs
  | '+' :: cs => flags { d with hasSign := true } cs
  | ' ' :: cs => flags { d with hasBlank := true } cs
  | '0' :: cs => flags { d with hasZeros := true } cs
  | '#' :: cs => flags { d with isMarked := true } cs
  | cs => (d, cs)

/-- Takes a number off the characters of a directive. -/
def amount (cs : List Char) : Option Amount × List Char :=
  match cs with
  | '*' :: cs => (some .argument, cs)
  | cs =>
    let digits := cs.takeWhile Char.isDigit
    (if digits.isEmpty then none else some (.given (Decimal.digitsValue digits)),
      cs.dropWhile Char.isDigit)

/-- The key in front of a closing bracket, and what follows that; brackets may nest. -/
def keyPart : Nat → List Char → Option (List Char × List Char)
  | _, [] => none
  | depth, c :: cs =>
    if c = ')' && depth = 0 then some ([], cs)
    else
      let depth := if c = '(' then depth + 1 else if c = ')' then depth - 1 else depth
      (keyPart depth cs).map fun (key, rest) => (c :: key, rest)

/-- **Reads a directive**, the mark that opens it being taken off. -/
def read (cs : List Char) : Option (Directive × List Char) := do
  let (key, cs) ←
    match cs with
    | '(' :: cs => (keyPart 0 cs).map fun (key, rest) => (some key, rest)
    | cs => some (none, cs)
  let (d, cs) := flags { key } cs
  let (width, cs) := amount cs
  let (precision, cs) :=
    match cs with
    | '.' :: cs => let (p, cs) := amount cs; (some (p.getD (.given 0)), cs)
    | cs => (none, cs)
  match cs with
  | [] => none
  | c :: cs =>
    let (c, cs) :=
      match cs with
      | d :: rest => if c = 'h' || c = 'l' || c = 'L' then (d, rest) else (c, cs)
      | [] => (c, cs)
    return ({ d with width, precision, conversion := c }, cs)

end Directive

/-- **The pieces of a text with directives**, at most so many. -/
def piecesOf : Nat → List Char → List Piece
  | 0, _ => []
  | _, [] => []
  | n + 1, '%' :: cs =>
    match Directive.read cs with
    | some (d, rest) => .directive d :: piecesOf n rest
    | none => [.incomplete]
  | n + 1, c :: cs => .plain c :: piecesOf n cs

/-! ## Numbers in directives -/

/-- A number to be filled in: its sign, the mark of its base, and what follows them. -/
structure WrittenNumber where
  isNegative : Bool
  mark : List Char := []
  body : List Char

namespace Directive

/-- Digits with zeros in front, up to so many. -/
def withZeros (count : Nat) (cs : List Char) : List Char :=
  List.replicate (count - cs.length) '0' ++ cs

/-- An integer in a base, with at least so many digits. -/
def integerDigits (d : Directive) (base : Nat) (mark : List Char) (precision : Nat) (i : Int) :
    WrittenNumber :=
  { isNegative := i < 0, mark := if d.isMarked then mark else []
    body := withZeros precision (Nat.toDigits base i.natAbs) }

/-- A double by the letter of its conversion, with places or digits of a number. -/
def doubleDigits (d : Directive) (precision : Nat) (x : Float) : WrittenNumber :=
  let isUpper := d.conversion.isUpper
  let style : Decimal.Style :=
    match d.conversion.toLower with
    | 'f' => .fixed
    | 'e' => .exponential
    | _ => .general
  let body := Decimal.styled style d.isMarked false precision x
  { isNegative := isNegative x && !x.isNaN, body := if isUpper then body.map Char.toUpper else body }

/-- What stands for the sign of a number. -/
def signOf (d : Directive) (n : WrittenNumber) : List Char :=
  if n.isNegative then ['-']
  else if d.hasSign then ['+']
  else if d.hasBlank then [' ']
  else []

/-- Characters filled up with blanks to a width. -/
def padded (d : Directive) (width : Nat) (cs : List Char) : List Char :=
  let blanks := List.replicate (width - cs.length) ' '
  if d.isLeft then cs ++ blanks else blanks ++ cs

/-- **A number filled up to a width**, with zeros behind the sign and the mark of its base
if the directive says so. -/
def filled (d : Directive) (width : Nat) (n : WrittenNumber) : List Char :=
  let front := d.signOf n ++ n.mark
  if d.hasZeros && !d.isLeft then front ++ withZeros (width - front.length) n.body
  else d.padded width (front ++ n.body)

end Directive

/-! ## Filling in values -/

/-- **What directives take their values from.** -/
structure Supply where
  /-- The values that are left. -/
  values : List Value
  /-- The mapping that keys are looked up in. -/
  mapping : Option Value

namespace Run

/-- The next value. -/
def nextValue (s : Supply) : Run (Value × Supply) :=
  match s.values with
  | v :: vs => return (v, { s with values := vs })
  | [] => throw .wrongType

/-- A number of a directive; a value for it has to be an integer. -/
def amountOf (a : Option Amount) (s : Supply) : Run (Option Int × Supply) := do
  match a with
  | none => return (none, s)
  | some (.given n) =>
    if Word.fits 31 n then return (some n, s) else throw .badValue
  | some .argument => do
    let (v, s) ← nextValue s
    match (← read).wholeNumber? v with
    | some i => if Word.fits 31 i then return (some i, s) else throw .tooLarge
    | none => throw .wrongType

/-- The integer that a decimal conversion writes. -/
def decimalOf (v : Value) : Run Int := do
  let σ ← read
  if (σ.spelledInMemory? v).isSome then throw .wrongType else toInteger v

/-- The text of a literal in which other than plain characters are escaped. -/
def plainLiteral (v : Value) : Run (List Char) := do
  let s ← literal v
  return s.toList.flatMap fun c => if c.toNat < 128 then [c] else Text.numericEscape c.toNat

/-- The character that a value is, as a text of one character, or by its number. -/
def characterOf (isBytes : Bool) (v : Value) : Run (List Char) := do
  let σ ← read
  let single : Option (List Char) :=
    if isBytes then (σ.bytes? v).map fun bs => bs.map Char.ofNat else (σ.text? v).map String.toList
  match single with
  | some [c] => return [c]
  | some _ => throw .wrongType
  | none => do
    let i ← index v
    if 0 ≤ i && i < (if isBytes then 256 else 0x110000) then return [Char.ofNat i.toNat]
    else throw .tooLarge

/-- What a value is written as where it is not written as a number: bytes in bytes, and
its plain text elsewhere. -/
def wordOf (isBytes : Bool) (v : Value) : Run (List Char) := do
  if isBytes then
    match ← callSpecial? v "__bytes__" [] with
    | some w =>
      match (← read).bytes? w with
      | some bs => return bs.map Char.ofNat
      | none => throw .wrongType
    | none =>
      match (← read).memory? v with
      | some bs => return bs.map Char.ofNat
      | none => throw .wrongType
  else return (← plainText v).toList

/-- **What a directive writes for a value**, with its width and precision. -/
def conversion (isBytes : Bool) (d : Directive) (width : Nat) (precision : Option Nat) (v : Value) :
    Run (List Char) := do
  let cut (cs : List Char) : List Char :=
    match precision with
    | some n => cs.take n
    | none => cs
  let whole (base : Nat) (mark : String) (isUpper : Bool) (i : Int) : List Char :=
    let n := d.integerDigits base mark.toList (precision.getD 1) i
    d.filled width (if isUpper then { n with body := n.body.map Char.toUpper } else n)
  match d.conversion with
  | 's' => return d.padded width (cut (← wordOf isBytes v))
  | 'b' => if isBytes then return d.padded width (cut (← wordOf isBytes v)) else throw .badValue
  | 'r' =>
    if isBytes then return d.padded width (cut (← plainLiteral v))
    else return d.padded width (cut (← literal v).toList)
  | 'a' => return d.padded width (cut (← plainLiteral v))
  | 'c' => return d.padded width (← characterOf isBytes v)
  | 'd' | 'i' | 'u' =>
    let i ← decimalOf v
    if Decimal.isWritable i then return whole 10 "" false i else throw .badValue
  | 'o' => return whole 8 "0o" false (← index v)
  | 'x' => return whole 16 "0x" false (← index v)
  | 'X' => return whole 16 "0X" true (← index v)
  | 'e' | 'E' | 'f' | 'F' | 'g' | 'G' =>
    match ← numberToDouble? v with
    | some x => return d.filled width (d.doubleDigits (precision.getD 6) x)
    | none => throw .wrongType
  | _ => throw .badValue

/-- **Fills a value into a directive.** Values are looked up by key in a given way. -/
def fillIn (lookUp : Value → List Char → Run Value) (isBytes : Bool) (d : Directive) (s : Supply) :
    Run (List Char × Supply) := do
  let s ←
    match d.key, s.mapping with
    | none, _ => pure s
    | some key, some m => do pure { s with values := [← lookUp m key] }
    | some _, none => throw .wrongType
  let (width, s) ← amountOf d.width s
  let d := if width.any (· < 0) then { d with isLeft := true } else d
  let (precision, s) ← amountOf d.precision s
  if d.conversion = '%' then return (['%'], s)
  let (v, s) ← nextValue s
  let cs ← conversion isBytes d (width.getD 0).natAbs (precision.map Int.toNat) v
  return (cs, s)

/-- Fills values into the pieces of a text. -/
def fillAll (lookUp : Value → List Char → Run Value) (isBytes : Bool) :
    List Piece → Supply → Run (List Char)
  | [], s => if s.values.isEmpty || s.mapping.isSome then return [] else throw .wrongType
  | .plain c :: ps, s => return c :: (← fillAll lookUp isBytes ps s)
  | .incomplete :: _, _ => throw .badValue
  | .directive d :: ps, s => do
    let (cs, s) ← fillIn lookUp isBytes d s
    return cs ++ (← fillAll lookUp isBytes ps s)

/-- Whether a value may be asked for keys in place of giving values in order. -/
def isMapping (σ : Store) (isBytes : Bool) (v : Value) : Bool :=
  match σ.content v with
  | .tuple .. | .str .. => false
  | .bytes .. => !isBytes
  | .range .. | .machineInt .. | .machineFloat .. | .machineBool _ => true
  | c =>
    match σ.cell? c with
    | some (.bytearray _) => !isBytes
    | some (.list _) | some (.dict _) | some (.array ..) | some (.vector ..)
    | some (.userList _) => true
    | _ => (σ.special? v "__getitem__").isSome

/-- **A text with directives, filled in** with the values of a tuple, or with one
value. -/
def filledIn (lookUp : Value → List Char → Run Value) (isBytes : Bool) (cs : List Char)
    (v : Value) : Run (List Char) := do
  let σ ← read
  let values :=
    match σ.content v with
    | .tuple items _ => items
    | _ => [v]
  fillAll lookUp isBytes (piecesOf cs.length cs)
    { values, mapping := if isMapping σ isBytes v then some v else none }

end Run

end Narrowing
