import Narrowing.Decimal.Limit
import Narrowing.Decimal.Read
/-!
# Numerals

Numbers that stand in a text by themselves: blanks around them do not count, digits may
be of any script and be set apart by single low lines, and an integer may be written in
any base up to thirty-six, which a mark in front can name.
-/

namespace Narrowing.Text

/-- **Whether a character is blank.** -/
def isBlank (c : Char) : Bool :=
  let n := c.toNat
  (9 ≤ n && n ≤ 13) || (28 ≤ n && n ≤ 32) || n = 0x85 || n = 0xA0 || n = 0x1680 ||
    (0x2000 ≤ n && n ≤ 0x200A) || n = 0x2028 || n = 0x2029 || n = 0x202F || n = 0x205F ||
    n = 0x3000

/-- The zeros of all scripts; the other nine digits follow each. -/
def zeros : List Nat :=
  [0x30, 0x660, 0x6F0, 0x7C0, 0x966, 0x9E6, 0xA66, 0xAE6, 0xB66, 0xBE6, 0xC66, 0xCE6, 0xD66,
    0xDE6, 0xE50, 0xED0, 0xF20, 0x1040, 0x1090, 0x17E0, 0x1810, 0x1946, 0x19D0, 0x1A80, 0x1A90,
    0x1B50, 0x1BB0, 0x1C40, 0x1C50, 0xA620, 0xA8D0, 0xA900, 0xA9D0, 0xA9F0, 0xAA50, 0xABF0,
    0xFF10, 0x104A0, 0x10D30, 0x11066, 0x110F0, 0x11136, 0x111D0, 0x112F0, 0x11450, 0x114D0,
    0x11650, 0x116C0, 0x11730, 0x118E0, 0x11950, 0x11C50, 0x11D50, 0x11DA0, 0x16A60, 0x16AC0,
    0x16B50, 0x1D7CE, 0x1D7D8, 0x1D7E2, 0x1D7EC, 0x1D7F6, 0x1E140, 0x1E2F0, 0x1E950, 0x1FBF0]

/-- **The value of a decimal digit** of any script. -/
def digitValue? (c : Char) : Option Nat :=
  (zeros.find? fun z => z ≤ c.toNat && c.toNat < z + 10).map (c.toNat - ·)

/-- A character, or the plain form of a digit and of a blank. -/
def plainForm (c : Char) : Char :=
  if c.toNat < 128 then c
  else
    match digitValue? c with
    | some n => Char.ofNat (48 + n)
    | none => if isBlank c then ' ' else c

/-- Whether a character is a blank that may stand around a numeral in plain form. -/
def isPlainBlank (c : Char) : Bool := (9 ≤ c.toNat && c.toNat ≤ 13) || c = ' '

/-- Characters without those around them that are dropped. -/
def strippedOf (isDropped : Char → Bool) (cs : List Char) : List Char :=
  ((cs.dropWhile isDropped).reverse.dropWhile isDropped).reverse

/-- Characters without the low lines that stand between two of a kind; there is none
where one stands elsewhere. -/
def joined? (isInner : Char → Bool) : List Char → Option (List Char)
  | [] => some []
  | '_' :: _ => none
  | [c] => some [c]
  | c :: '_' :: d :: cs =>
    if isInner c && isInner d && d ≠ '_' then (joined? isInner (d :: cs)).map (c :: ·) else none
  | c :: cs => (joined? isInner cs).map (c :: ·)

/-- The value of a digit in bases up to thirty-six. -/
def alphanumericValue? (c : Char) : Option Nat :=
  if '0' ≤ c && c ≤ '9' then some (c.toNat - 48)
  else if 'a' ≤ c && c ≤ 'z' then some (c.toNat - 87)
  else if 'A' ≤ c && c ≤ 'Z' then some (c.toNat - 55)
  else none

/-- The number that digits in a base are. -/
def digitsIn? (base : Nat) (cs : List Char) : Option Nat :=
  if cs.isEmpty then none
  else
    cs.foldlM (fun n c =>
      match alphanumericValue? c with
      | some d => if d < base then some (n * base + d) else none
      | none => none) 0

/-- A sign in front, and what follows it. -/
def signedPart : List Char → Bool × List Char
  | '-' :: cs => (true, cs)
  | '+' :: cs => (false, cs)
  | cs => (false, cs)

/-- The base that a mark names. -/
def markedBase? (c : Char) : Option Nat :=
  if c = 'x' || c = 'X' then some 16
  else if c = 'o' || c = 'O' then some 8
  else if c = 'b' || c = 'B' then some 2
  else none

/-- The base and the digits of a numeral whose base is given, or named by its mark if it
is zero. -/
def basePart (base : Nat) (cs : List Char) : Option (Nat × List Char) :=
  match cs with
  | '0' :: c :: rest =>
    match markedBase? c with
    | some b =>
      if base = 0 || base = b then
        some (b, match rest with | '_' :: rest => rest | rest => rest)
      else some (base, cs)
    | none =>
      if base = 0 then
        if cs.all fun c => c = '0' || c = '_' then some (10, cs) else none
      else some (base, cs)
  | cs => some (if base = 0 then 10 else base, cs)

/-- **The integer that a text is** in a base, where zero stands for the base that the text
names. A numeral whose base is no power of two may not have too many digits. -/
def integer? (base : Nat) (s : String) : Option Int := do
  let (isNegative, cs) := signedPart (strippedOf isPlainBlank (s.toList.map plainForm))
  let (base, cs) ← basePart base cs
  let digits ← joined? (fun c => (alphanumericValue? c).isSome) cs
  if !([2, 4, 8, 16, 32].contains base) && digits.length > Decimal.digitLimit then none
  let n ← digitsIn? base digits
  return if isNegative then -(n : Int) else n

/-- **The double that a text is.** -/
def double? (s : String) : Option Float := do
  let cs := (strippedOf isPlainBlank (s.toList.map plainForm)).map Char.toLower
  let cs ← joined? Char.isDigit cs
  let (sign, word) := signedPart cs
  let word := if word = "infinity".toList then "inf".toList else word
  let x ← Decimal.read (String.ofList word)
  if word.head? = some '-' || word.head? = some '+' then none
  return if sign then -x else x

end Narrowing.Text
