import Narrowing.Code.Printer
import Narrowing.Decimal.Rounded
import Narrowing.Value.Vector
/-!
# The text of an array

An array of machine numbers is written with brackets around each row, and its numbers
are aligned. Doubles have at most eight places, fewer if that says all of them, and stand
with their points below each other; they have exponents if one of them is great or small
or if they are far apart. Lines end where the next number would not fit, and of an array of
very many numbers only the first and the last few of each row are written.
-/

namespace Narrowing

/-! ## Numbers in columns -/

/-- Texts padded on the left to one width. -/
def aligned (texts : List String) : List String :=
  let width := texts.foldl (fun n s => max n s.length) 0
  texts.map fun s => String.ofList (List.replicate (width - s.length) ' ' ++ s.toList)

/-- **A decimal in parts**: its sign and whole digits, its places without zeros at the end, and
its exponent, if it has one. -/
structure DecimalParts where
  whole : List Char
  places : List Char
  exponent : Option Int

namespace DecimalParts

/-- How many places doubles in an array have at most. -/
def greatestPlaces : Nat := 8

/-- Drops the zeros at the end. -/
def trimmed (cs : List Char) : List Char := (cs.reverse.dropWhile (· = '0')).reverse

/-- A magnitude without an exponent, rounded where its shortest decimal has more places. -/
def positional (significand : Nat) (exponent : Int) : DecimalParts :=
  let shortest := Decimal.shortest significand exponent
  let digits :=
    if -shortest.exponent ≤ greatestPlaces then
      Decimal.Layout.digits ⟨-20, 400, false⟩ shortest
    else
      let (num, den) := Decimal.Binary.scaledFraction significand exponent
      Decimal.fixedPlaces greatestPlaces num den
  ⟨digits.takeWhile (· ≠ '.'), trimmed ((digits.dropWhile (· ≠ '.')).drop 1), none⟩

/-- A magnitude with an exponent, rounded where its shortest decimal has more digits. -/
def exponential (significand : Nat) (exponent : Int) : DecimalParts :=
  let shortest := Decimal.shortest significand exponent
  let digits := Decimal.digitsOf shortest.digits
  let (digits, e) :=
    if significand = 0 then (['0'], 0)
    else if digits.length ≤ greatestPlaces + 1 then
      (digits, (digits.length : Int) - 1 + shortest.exponent)
    else
      let (num, den) := Decimal.Binary.scaledFraction significand exponent
      let (n, e) := Decimal.significant greatestPlaces num den
      (Decimal.digitsOf n, e)
  ⟨digits.take 1, trimmed (digits.drop 1), some e⟩

/-- The parts of a double, if it is finite. -/
def ofFloat? (isExponential showsPlus : Bool) (x : Float) : Option DecimalParts :=
  match Decimal.Binary.ofFloat x with
  | .finite isNegative significand exponent =>
    let parts :=
      if isExponential then exponential significand exponent else positional significand exponent
    let sign := if isNegative then ['-'] else if showsPlus then ['+'] else []
    some { parts with whole := sign ++ parts.whole }
  | _ => none

end DecimalParts

/-- **Whether doubles have exponents** where they stand together. -/
def haveExponents (xs : List Float) : Bool :=
  match (xs.filter fun x => x.isFinite && x != 0.0).map Float.abs with
  | [] => false
  | y :: ys =>
    let greatest := ys.foldl (fun a b => if a < b then b else a) y
    let least := ys.foldl (fun a b => if b < a then b else a) y
    greatest >= 1e8 || least < 0.0001 || greatest / least > 1000.0

/-- So many blanks. -/
def blanks (n : Nat) : List Char := List.replicate n ' '

/-- **Doubles in one column**, with a sign in front of all of them if that is wanted. -/
def columnOfFloats (showsPlus : Bool) (xs : List Float) : List String :=
  let isExponential := haveExponents xs
  let parts := xs.map (DecimalParts.ofFloat? isExponential showsPlus)
  let finite := parts.filterMap id
  let longest (size : DecimalParts → Nat) : Nat := finite.foldl (fun n p => max n (size p)) 0
  let exponentDigits (e : Int) : List Char := Decimal.padded 2 (Decimal.digitsOf e.natAbs)
  let places := longest fun p => p.places.length
  let exponentWidth := longest fun p => p.exponent.elim 0 fun e => (exponentDigits e).length
  let right := if isExponential then exponentWidth + 2 + places else places
  let isBelow := showsPlus || xs.any fun x => x.isInf && x < 0.0
  let left := longest fun p => p.whole.length
  let left :=
    if finite.length = xs.length then left
    else max left (max (3 - (right + 1)) (3 + (if isBelow then 1 else 0) - (right + 1)))
  (xs.zip parts).map fun (x, parts) =>
    String.ofList <| match parts with
      | some p =>
        let front := blanks (left - p.whole.length) ++ p.whole ++ '.' :: p.places
        let missing := places - p.places.length
        match p.exponent with
        | none => front ++ blanks missing
        | some e =>
          front ++ List.replicate missing '0' ++
            'e' :: (if e < 0 then '-' else '+') :: Decimal.padded exponentWidth (exponentDigits e)
      | none =>
        let sign := if !x.isNaN && x < 0.0 then "-" else if showsPlus then "+" else ""
        let text := sign ++ if x.isNaN then "nan" else "inf"
        blanks (left + right + 1 - text.length) ++ text.toList

/-- The mark of an imaginary part behind its digits. -/
def withImaginaryMark (s : String) : String :=
  let digits := (s.toList.reverse.dropWhile (· = ' ')).reverse
  String.ofList (digits ++ 'j' :: s.toList.drop digits.length)

/-- **The numbers of an array as texts of one width.** -/
def columnOf (kind : MachineKind) (items : List Value) : List String :=
  match kind with
  | .truth =>
    items.map fun
      | .machineBool true => " True"
      | _ => "False"
  | .whole =>
    aligned (items.map fun
      | .machineInt i _ => toString i
      | _ => "")
  | .real =>
    columnOfFloats false (items.map fun
      | .machineFloat x _ => x
      | _ => 0.0)
  | .complex =>
    let parts (v : Value) : Float × Float :=
      match v with
      | .complex re im _ => (re, im)
      | _ => (0.0, 0.0)
    let pairs := items.map parts
    List.zipWith (fun re im => re ++ withImaginaryMark im) (columnOfFloats false (pairs.map Prod.fst))
      (columnOfFloats true (pairs.map Prod.snd))

/-! ## Rows on lines -/

/-- **How rows are written**: what separates numbers, and whether long rows are cut. -/
structure RowStyle where
  separator : String
  isCut : Bool

/-- How many numbers are written at each end of a row that is cut. -/
def edgeSize : Nat := 3

/-- How many numbers an array may have that is written in full. -/
def greatestWritten : Nat := 1000

/-- How many columns a line has. -/
def lineWidth : Nat := 75

/-- The first and the last few of too many. -/
def edgesOf {α : Type} (isCut : Bool) (rows : List α) : List α :=
  if isCut && rows.length > 2 * edgeSize then
    rows.take edgeSize ++ rows.drop (rows.length - edgeSize)
  else rows

/-- The numbers at the edges of an array along each axis. -/
def edgeItems {α : Type} (isCut : Bool) : List Nat → List α → List α
  | [], items => items
  | n :: inner, items =>
    (edgesOf isCut (pieces (shapeSize inner) n items)).flatMap (edgeItems isCut inner)

/-- Points in place of what is left out between the edges. -/
def withPoints (isCut : Bool) (size : Nat) (texts : List String) : List String :=
  if isCut && size > 2 * edgeSize then texts.take edgeSize ++ "..." :: texts.drop edgeSize else texts

/-- Drops the blanks at the end of a text. -/
def withoutBlanksAtEnd (s : String) : String :=
  String.ofList (s.toList.reverse.dropWhile (· = ' ')).reverse

/-- **Words on lines** of a width: what is complete, and the line that goes on. A word that
would not fit begins another line behind the margin. -/
def onLines (separator : String) (margin width : Nat) : String → String → List String → String
  | complete, line, [] => complete ++ line
  | complete, line, word :: words =>
    let isFull := line.length + word.length > width && line.length > margin
    let complete := if isFull then complete ++ withoutBlanksAtEnd line ++ "\n" else complete
    let line := (if isFull then String.ofList (blanks margin) else line) ++ word
    onLines separator margin width complete (if words.isEmpty then line else line ++ separator) words

/-- **An array in brackets**, row by row behind a margin. -/
def inBrackets (style : RowStyle) : List Nat → Nat → Nat → List String → String
  | [], _, _, texts => (texts[0]?).getD ""
  | [n], margin, width, texts =>
    let words := withPoints style.isCut n texts
    let front := String.ofList (blanks margin)
    "[" ++ ((onLines style.separator margin (width - 1) "" front words).drop margin).toString ++ "]"
  | n :: inner, margin, width, texts =>
    let count := if style.isCut then min n (2 * edgeSize) else n
    let rows := (pieces (texts.length / max 1 count) count texts).map
      (inBrackets style inner (margin + 1) (width - 1))
    let ending := withoutBlanksAtEnd style.separator ++
      String.ofList (List.replicate inner.length '\n' ++ blanks margin)
    "[" ++ ending.intercalate (withPoints style.isCut n rows) ++ "]"

namespace MachineKind

/-- The name of a kind of machine numbers. -/
def name : MachineKind → String
  | truth => "bool"
  | whole => "int64"
  | real => "float64"
  | complex => "complex128"

end MachineKind

namespace MachineArray

/-- The numbers of an array in brackets, behind so many columns and before some more. -/
def bracketed (a : MachineArray) (separator : String) (before after : Nat) : String :=
  if a.items.isEmpty then "[]"
  else
    let isCut := a.items.length > greatestWritten
    inBrackets ⟨separator, isCut⟩ a.shape (before + 1) (lineWidth - after)
      (columnOf a.kind (edgeItems isCut a.shape a.items))

/-- The literal of a shape. -/
def shapeText (shape : List Nat) : String :=
  match shape with
  | [n] => "(" ++ toString n ++ ",)"
  | shape => "(" ++ ", ".intercalate (shape.map fun (n : Nat) => toString n) ++ ")"

/-- **The literal of an array of machine numbers.** What its numbers do not show is said
behind them, on a line of its own if need be. -/
def text (a : MachineArray) : String :=
  let front := "array("
  let body := front ++ a.bracketed ", " front.length 1
  let shape :=
    if a.items.length > greatestWritten || (a.items.isEmpty && a.shape ≠ [0]) then
      ["shape=" ++ shapeText a.shape]
    else []
  let extras := shape ++ if a.items.isEmpty then ["dtype=" ++ a.kind.name] else []
  if extras.isEmpty then body ++ ")"
  else
    let extra := ", ".intercalate extras ++ ")"
    let lastLine := (body.toList.reverse.takeWhile (· ≠ '\n')).length + 1
    let isFull := lastLine + extra.length + 1 > lineWidth
    body ++ "," ++ (if isFull then "\n" ++ String.ofList (blanks front.length) else " ") ++ extra

/-- The plain text of an array of machine numbers. -/
def plainText (a : MachineArray) : String := a.bracketed " " 0 0

end MachineArray

end Narrowing
