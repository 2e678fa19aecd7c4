import Narrowing.Code.Node
import Narrowing.Decimal.Limit
import Narrowing.Decimal.Read
import Narrowing.Text.CharacterName
import Narrowing.Text.Identifier
/-!
# Tokens

The words that code is made of. Lines and indentation are tokens too: a logical
line ends with `Token.newline`, and where its indentation grows or shrinks the
tokens `indent` and `dedent` stand before it, one for each block that opens or
closes. Inside brackets, and after a backslash at the end of a line, a line end
means nothing; blank lines and comments mean nothing anywhere.

Indentation is measured twice, with a tab reaching to the next multiple of eight
columns and with a tab as wide as a blank. Two lines are comparable only when
both measures agree on their order.

A text that cannot be cut into tokens ends with `Token.failure` or
`Token.cutShort`, so what comes before the fault can still be read.
-/

namespace Narrowing.Code

/-- **Why a text is no code.** -/
inductive ParseError where
  /-- A word is malformed or stands where it cannot. -/
  | misplaced
  /-- A line is indented where it may not be, or fails to be where it must. -/
  | indentation
  /-- Two lines cannot be compared because tabs and blanks are mixed. -/
  | mixedTabs
  /-- The text has a null character. -/
  | nullCharacter
deriving DecidableEq, Repr

/-- **The tokens.** -/
inductive Token where
  /-- A name or a word of the language. -/
  | word (s : String)
  /-- A number. -/
  | number (value : Constant)
  /-- A text literal by its code points, with the mark `u` or without. -/
  | text (points : List Nat) (isMarked : Bool)
  /-- A literal of bytes. -/
  | bytes (bs : List Nat)
  /-- An operator or a delimiter. -/
  | sign (s : String)
  /-- The end of a logical line. -/
  | newline
  /-- A block opens. -/
  | indent
  /-- A block closes. -/
  | dedent
  /-- The end of the text. -/
  | finish
  /-- The text ends inside brackets, or no further line follows a backslash. -/
  | cutShort
  /-- The text cannot be cut any further. -/
  | failure (e : ParseError)

namespace Token

/-! ## Characters of names -/

/-- Whether a character may belong to a name that opens with it. Beyond ASCII any
character may, and the name is judged as a whole. -/
def startsWord (c : Char) : Bool :=
  c.isAlpha || c = '_' || c.toNat ≥ 128

/-- Whether a character may belong to a name. -/
def staysInWord (c : Char) : Bool :=
  startsWord c || c.isDigit

/-! ## Numbers -/

/-- The value of a digit in a base, if it is one. -/
def digitIn (base : Nat) (c : Char) : Option Nat :=
  let value :=
    if c.isDigit then c.toNat - '0'.toNat
    else if 'a' ≤ c && c ≤ 'f' then c.toNat - 'a'.toNat + 10
    else if 'A' ≤ c && c ≤ 'F' then c.toNat - 'A'.toNat + 10
    else 99
  if value < base then some value else none

/-- Reads digits of a base, which single underscores may separate; the digits
and what follows them. -/
def digitRun (base : Nat) : List Char → List Char × List Char
  | [] => ([], [])
  | '_' :: c :: cs =>
    if (digitIn base c).isSome then
      let (ds, rest) := digitRun base cs
      (c :: ds, rest)
    else ([], '_' :: c :: cs)
  | c :: cs =>
    if (digitIn base c).isSome then
      let (ds, rest) := digitRun base cs
      (c :: ds, rest)
    else ([], c :: cs)

/-- The number of some digits of a base. -/
def numberOf (base : Nat) (ds : List Char) : Nat :=
  ds.foldl (fun n c => base * n + (digitIn base c).getD 0) 0

/-- A run of digits that may not open with an underscore. -/
def plainRun (cs : List Char) : List Char × List Char :=
  match cs with
  | '_' :: _ => ([], cs)
  | _ => digitRun 10 cs

/-- The sign of an exponent, if it has one, and what follows it. -/
def direction : List Char → List Char × List Char
  | '+' :: rest => (['+'], rest)
  | '-' :: rest => (['-'], rest)
  | rest => ([], rest)

/-- An exponent part, if one follows: its characters and the rest. -/
def exponentRun : List Char → List Char × List Char
  | [] => ([], [])
  | e :: after =>
    if e = 'e' || e = 'E' then
      let (direction, rest) := direction after
      let (ds, rest) := plainRun rest
      if ds.isEmpty then ([], e :: after) else ('e' :: direction ++ ds, rest)
    else ([], e :: after)

/-- What follows an underscore, if there is one. -/
def skipBar : List Char → List Char
  | '_' :: rest => rest
  | rest => rest

/-- A number in a base given by its mark, without the leading zero. -/
def basedNumber (base : Nat) (cs : List Char) : Option (Constant × List Char) :=
  if (skipBar cs).head? = some '_' then none
  else
    let (ds, rest) := digitRun base (skipBar cs)
    if ds.isEmpty then none else some (.int (numberOf base ds), rest)

/-- Whether a point follows, the digits behind it, and the rest. -/
def places : List Char → Bool × List Char × List Char
  | '.' :: rest => (true, plainRun rest)
  | rest => (false, [], rest)

/-- The number of a decimal literal that is not imaginary, by its digits before the point and
its value as a float. -/
def realNumber (whole : List Char) (isFloat : Bool) (value : Float) : Option Constant :=
  if isFloat then some (.float value)
  else if whole.head? = some '0' && whole.any (· ≠ '0') then none
  else if whole.length > Decimal.digitLimit then none
  else some (.int (numberOf 10 whole))

/-- A decimal number: whole, with a point or exponent, or imaginary. -/
def decimalNumber (cs : List Char) : Option (Constant × List Char) :=
  let (whole, rest) := plainRun cs
  let (point, places, rest) := places rest
  let (exponent, rest) := exponentRun rest
  if whole.isEmpty && places.isEmpty then none
  else
    let isFloat := point || !exponent.isEmpty
    let written := whole ++ (if point then '.' :: places else []) ++ exponent
    let value := (Decimal.readUnsigned written).getD 0.0
    if rest.head?.any fun c => c = 'j' || c = 'J' then some (.complex 0.0 value, rest.tail)
    else (realNumber whole isFloat value).map fun n => (n, rest)

/-- The beginnings of the words that may follow a number at once. -/
def wordsAfterNumber : List String := ["and", "else", "for", "if", "in", "is", "or", "not"]

/-- Whether a number may end before this text: no name follows at once, or one
that opens like a word that joins expressions. -/
def endsNumber (cs : List Char) : Bool :=
  !cs.head?.any staysInWord || wordsAfterNumber.any fun w => w.toList.isPrefixOf cs

/-- The number at the head of the text, whatever follows it. -/
def numberAt : List Char → Option (Constant × List Char)
  | '0' :: b :: rest =>
    if b = 'x' || b = 'X' then basedNumber 16 rest
    else if b = 'o' || b = 'O' then basedNumber 8 rest
    else if b = 'b' || b = 'B' then basedNumber 2 rest
    else decimalNumber ('0' :: b :: rest)
  | cs => decimalNumber cs

/-- **A number at the head of the text**, and what follows it. -/
def readNumber (cs : List Char) : Option (Constant × List Char) :=
  (numberAt cs).filter fun read => endsNumber read.2

/-! ## Text literals -/

/-- What follows the closing quote of a literal, if that is at the head of the text. -/
def afterQuote (quote : Char) (triple : Bool) (cs : List Char) : Option (List Char) :=
  let close := List.replicate (if triple then 3 else 1) quote
  if close.isPrefixOf cs then some (cs.drop close.length) else none

/-- The characters up to the closing quote, with escapes as they are written,
and what follows the quote. A literal with a single quote ends with its line. -/
def literalBody (quote : Char) (triple : Bool) : List Char → Option (List Char × List Char)
  | [] => none
  | '\\' :: c :: cs =>
    (literalBody quote triple cs).map fun read => ('\\' :: c :: read.1, read.2)
  | c :: cs =>
    match afterQuote quote triple (c :: cs) with
    | some rest => some ([], rest)
    | none =>
      if c = '\n' && !triple then none
      else (literalBody quote triple cs).map fun read => (c :: read.1, read.2)

/-- Reads exactly so many hexadecimal digits. -/
def hexValue (count : Nat) (cs : List Char) : Option (Nat × List Char) :=
  let ds := cs.take count
  if ds.length = count && ds.all fun c => (digitIn 16 c).isSome then
    some (numberOf 16 ds, cs.drop count)
  else none

/-- The character of a one-letter escape. -/
def simpleEscape : Char → Option Char
  | '\\' => some '\\'
  | '\'' => some '\''
  | '"' => some '"'
  | 'a' => some '\x07'
  | 'b' => some '\x08'
  | 'f' => some '\x0c'
  | 'n' => some '\n'
  | 'r' => some '\r'
  | 't' => some '\t'
  | 'v' => some '\x0b'
  | _ => none

/-- The code point of a numeric escape after its backslash, and what follows. -/
def numericEscapeValue (inBytes : Bool) (c : Char) (cs : List Char) :
    Option (Option (Nat × List Char)) :=
  if c = 'x' then some (hexValue 2 cs)
  else if c = 'u' && !inBytes then some (hexValue 4 cs)
  else if c = 'U' && !inBytes then some ((hexValue 8 cs).filter fun v => v.1 ≤ 0x10ffff)
  else if (digitIn 8 c).isSome then
    let ds := c :: (cs.take 2).takeWhile fun d => (digitIn 8 d).isSome
    some (some (numberOf 8 ds, cs.drop (ds.length - 1)))
  else none

/-- The code point of a named escape after its letter, and what follows. -/
def namedEscapeValue : List Char → Option (Nat × List Char)
  | '\x7b' :: cs =>
    let (name, rest) := cs.span fun c => c ≠ '\x7d'
    match Text.characterNamed? (String.ofList name), rest with
    | some n, _ :: rest => some (n, rest)
    | _, _ => none
  | _ => none

/-- **Replaces the escapes of a literal**, within so many steps; the code points
that it denotes. An unknown escape stays as it is written. -/
def unescape (inBytes : Bool) : Nat → List Char → Option (List Nat)
  | 0, _ => some []
  | _, [] => some []
  | steps + 1, '\\' :: c :: cs =>
    if c = '\n' then unescape inBytes steps cs
    else
      match simpleEscape c with
      | some d => (unescape inBytes steps cs).map (d.toNat :: ·)
      | none =>
        match numericEscapeValue inBytes c cs with
        | some (some (n, rest)) => (unescape inBytes steps rest).map (n :: ·)
        | some none => none
        | none =>
          if c = 'N' && !inBytes then
            match namedEscapeValue cs with
            | some (n, rest) => (unescape inBytes steps rest).map (n :: ·)
            | none => none
          else (unescape inBytes steps cs).map fun r => '\\'.toNat :: c.toNat :: r
  | steps + 1, c :: cs => (unescape inBytes steps cs).map (c.toNat :: ·)

/-- The token of a literal from its marks and its body. -/
def literalToken (marks body : List Char) : Option Token :=
  let has (lower upper : Char) : Bool := marks.any fun c => c = lower || c = upper
  let inBytes := has 'b' 'B'
  let points :=
    if has 'r' 'R' then some (body.map Char.toNat) else unescape inBytes (body.length + 1) body
  if inBytes then
    if body.any fun c => c.toNat ≥ 128 then none
    else points.map fun ps => bytes (ps.map fun p => p % 256)
  else points.map fun ps => text ps (marks = ['u'])

/-- Whether letters may stand before a quote. -/
def areMarks (cs : List Char) : Bool :=
  ["", "r", "b", "u", "br", "rb"].contains (String.ofList cs).toLower

/-- The body of a literal whose opening quote is at the head of the text, with escapes as they
are written, and what follows its closing quote. -/
def quotedBody : List Char → Option (List Char × List Char)
  | [] => none
  | q :: cs =>
    if [q, q].isPrefixOf cs then literalBody q true (cs.drop 2) else literalBody q false cs

/-- A literal whose opening quote is at the head of the text. -/
def readLiteral (marks : List Char) (cs : List Char) : Option (Token × List Char) :=
  (quotedBody cs).bind fun read => (literalToken marks read.1).map fun t => (t, read.2)

/-- **The marks of a literal at the head of the text**, and the text from its opening quote on. -/
def literalHead? (cs : List Char) : Option (List Char × List Char) :=
  let (marks, quoted) := cs.span staysInWord
  if (quoted.head?.any fun q => q = '"' || q = '\'') && areMarks marks then some (marks, quoted)
  else none

/-! ## Signs -/

/-- The operators and delimiters, longer ones first, and the signs that stand
nowhere. -/
def signs : List String :=
  ["**=", "//=", ">>=", "<<=", "...", "**", "//", ">>", "<<", "<=", ">=", "==", "!=", "->", "+=",
    "-=", "*=", "/=", "%=", "&=", "|=", "^=", "@=", ":=", "+", "-", "*", "/", "%", "@", "&", "|",
    "^", "~", "<", ">", "(", ")", "[", "]", "\x7b", "\x7d", ",", ":", ".", ";", "=",
    "!", "$", "?", "\x60"]

/-- The longest sign at the head of the text. -/
def readSign (cs : List Char) : Option (String × List Char) :=
  (signs.find? fun s => s.toList.isPrefixOf cs).map fun s => (s, cs.drop s.length)

/-- The bracket that closes an opening one. -/
def closing : String → Option String
  | "(" => some ")"
  | "[" => some "]"
  | "\x7b" => some "\x7d"
  | _ => none

/-- How many brackets may be open at once. -/
def bracketDepth : Nat := 200

/-- The open brackets after a sign, innermost first, or nothing if it closes
what is not open or opens one too many. -/
def track (open_ : List String) (s : String) : Option (List String) :=
  match closing s with
  | some c => if open_.length < bracketDepth then some (c :: open_) else none
  | none =>
    if s = ")" || s = "]" || s = "\x7d" then
      match open_ with
      | c :: rest => if c = s then some rest else none
      | [] => none
    else some open_

/-! ## Indentation -/

/-- **The two measures of an indentation**: with tabs to multiples of eight, and
with tabs as wide as blanks. -/
structure Margin where
  /-- Columns with tabs to multiples of eight. -/
  wide : Nat
  /-- Columns with tabs as wide as blanks. -/
  narrow : Nat
deriving DecidableEq

/-- Measures the blanks at the head of a line; a form feed starts anew. Where a
backslash splits the blanks over several lines, the first one that is not at the
head of its line settles the margin. -/
def measure (settled : Nat) : Margin → List Char → Margin × List Char
  | m, ' ' :: cs => measure settled ⟨m.wide + 1, m.narrow + 1⟩ cs
  | m, '\t' :: cs => measure settled ⟨(m.wide / 8 + 1) * 8, m.narrow + 1⟩ cs
  | _, '\x0c' :: cs => measure settled ⟨0, 0⟩ cs
  | m, '\\' :: '\n' :: c :: cs => measure (if settled = 0 then m.wide else settled) m (c :: cs)
  | m, cs => (if settled = 0 then m else ⟨settled, settled⟩, cs)

/-- Closes the blocks that a margin ends: how many, and those still open. -/
def closeBlocks (m : Margin) : List Margin → Nat × List Margin
  | [] => (0, [])
  | top :: rest =>
    if m.wide < top.wide then
      let (count, left) := closeBlocks m rest
      (count + 1, left)
    else (0, top :: rest)

/-- How many blocks may be open at once, the whole text included. -/
def blockDepth : Nat := 100

/-- **The tokens a line's margin brings**, and the blocks open afterwards. -/
def indentation (m : Margin) (blocks : List Margin) :
    Except ParseError (List Token × List Margin) :=
  match blocks with
  | [] => .ok ([], [m])
  | top :: _ =>
    if m.wide = top.wide then
      if m.narrow = top.narrow then .ok ([], blocks) else .error .mixedTabs
    else if m.wide > top.wide then
      if blocks.length ≥ blockDepth then .error .indentation
      else if m.narrow > top.narrow then .ok ([indent], m :: blocks) else .error .mixedTabs
    else
      let (count, left) := closeBlocks m blocks
      match left with
      | now :: _ =>
        if now.wide ≠ m.wide then .error .indentation
        else if now.narrow ≠ m.narrow then .error .mixedTabs
        else .ok (List.replicate count dedent, left)
      | [] => .error .indentation

/-! ## Cutting a text -/

/-- Whether a character may stand between tokens. -/
def isSpace (c : Char) : Bool := c = ' ' || c = '\t' || c = '\x0c'

/-- Drops a comment up to the end of its line. -/
def dropComment (cs : List Char) : List Char :=
  if cs.head? = some '#' then cs.dropWhile (· ≠ '\n') else cs

/-- A name at the head of the text, and what follows it. -/
def readName (cs : List Char) : Option (String × List Char) :=
  let (letters, rest) := cs.span staysInWord
  if Text.isName letters then some (String.ofList letters, rest) else none

/-- Whether a number is at the head of the text: a digit, or a point with a digit behind it. -/
def opensNumber (cs : List Char) : Bool :=
  cs.head?.any Char.isDigit || (cs.head? = some '.' && cs.tail.head?.any Char.isDigit)

/-- A name, a number or a sign at the head of the text, and what follows it. -/
def readPlain (cs : List Char) : Option (Token × List Char) :=
  if cs.head?.any startsWord then (readName cs).map fun read => (word read.1, read.2)
  else if opensNumber cs then (readNumber cs).map fun read => (number read.1, read.2)
  else (readSign cs).map fun read => (sign read.1, read.2)

/-- **A literal, a name, a number or a sign** at the head of the text, and what follows it. -/
def readItem (cs : List Char) : Option (Token × List Char) :=
  match literalHead? cs with
  | some (marks, quoted) => readLiteral marks quoted
  | none => readPlain cs

/-- **Where the cutting of a text stands.** -/
structure Cutting where
  /-- Whether the text goes on at the head of a line outside of brackets. -/
  lineStart : Bool
  /-- The margins of the open blocks, innermost first. -/
  blocks : List Margin
  /-- What closes the open brackets, innermost first. -/
  open_ : List String
  /-- What is left of the text. -/
  rest : List Char

namespace Cutting

/-- What is left of the text without the blanks and the comment that it begins with. -/
def ahead (c : Cutting) : List Char :=
  dropComment (c.rest.dropWhile isSpace)

/-- How the cutting goes on with a line of some margin and content, if it does. -/
def lineFrom (c : Cutting) (m : Margin) : List Char → List Token × Option Cutting
  | [] => (List.replicate (c.blocks.length - 1) dedent ++ [finish], none)
  | '\\' :: _ => ([cutShort], none)
  | '\n' :: rest => ([], some { c with rest })
  | rest =>
    match indentation m c.blocks with
    | .error e => ([failure e], none)
    | .ok (opened, blocks) => (opened, some { c with lineStart := false, blocks, rest })

/-- **The tokens that the margin of a line brings**, and how the cutting goes on, if it does. A
line without any tokens does not count. -/
def lineHead (c : Cutting) : List Token × Option Cutting :=
  let (m, rest) := measure 0 ⟨0, 0⟩ c.rest
  c.lineFrom m (dropComment rest)

/-- How the cutting goes on behind a token, if the token may stand there. -/
def behind (c : Cutting) (rest : List Char) : Token → List Token × Option Cutting
  | sign s =>
    match track c.open_ s with
    | some open_ => ([sign s], some { c with open_, rest })
    | none => ([failure .misplaced], none)
  | t => ([t], some { c with rest })

/-- How the cutting goes on with what comes next in a line, if it does. -/
def itemFrom (c : Cutting) : List Char → List Token × Option Cutting
  | [] => ([cutShort], none)
  | '\n' :: rest =>
    if c.open_.isEmpty then ([newline], some { c with lineStart := true, rest })
    else if rest.isEmpty then ([cutShort], none)
    else ([], some { c with rest })
  | '\\' :: '\n' :: d :: rest => ([], some { c with rest := d :: rest })
  | '\\' :: _ => ([cutShort], none)
  | cs =>
    match readItem cs with
    | some (t, rest) => c.behind rest t
    | none => ([failure .misplaced], none)

/-- **The next token of a line**, and how the cutting goes on, if it does. -/
def item (c : Cutting) : List Token × Option Cutting := c.itemFrom c.ahead

/-- **One step of cutting.** -/
def step (c : Cutting) : List Token × Option Cutting :=
  if c.lineStart then c.lineHead else c.item

/-- **Cuts what is left of a text into tokens**, at most so many steps. -/
def run : Nat → Cutting → List Token
  | 0, _ => [failure .misplaced]
  | steps + 1, c =>
    match c.step with
    | (ts, none) => ts
    | (ts, some next) => ts ++ run steps next

end Cutting

/-- One kind of line end: a carriage return, alone or before a line feed, is a
line feed. -/
def unifyLineEnds : List Char → List Char
  | '\r' :: '\n' :: cs => '\n' :: unifyLineEnds cs
  | '\r' :: cs => '\n' :: unifyLineEnds cs
  | c :: cs => c :: unifyLineEnds cs
  | [] => []

/-- Ends the last line of a text if it is not ended. -/
def endLast (cs : List Char) : List Char :=
  if cs.getLast?.any (· ≠ '\n') then cs ++ ['\n'] else cs

/-- The characters of a text with one kind of line end, whose last line is ended. -/
def charactersOf (s : String) : List Char := endLast (unifyLineEnds s.toList)

/-- The cutting of a text begins at the head of its first line. -/
def Cutting.start (s : String) : Cutting := ⟨true, [⟨0, 0⟩], [], charactersOf s⟩

/-- **The tokens of a text.** -/
def ofText (s : String) : List Token :=
  (Cutting.start s).run (2 * (charactersOf s).length + 2)

end Token

end Narrowing.Code
