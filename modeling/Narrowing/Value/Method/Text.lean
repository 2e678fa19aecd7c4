import Narrowing.Text.Case
import Narrowing.Text.Identifier
import Narrowing.Text.Unprintable
import Narrowing.Value.Method.Sequence
/-!
# Methods of texts and byte strings

Texts and byte strings have most methods in common: they look for a part, cut at a
separator, drop characters at the ends, fill up to a width and change case. All of this is
said of lists of characters, where a byte counts as the character of its number. A
byte string knows the case and the class of the first hundred and twenty-eight
characters alone.
-/

namespace Narrowing

/-! ## Lists of characters -/

namespace Text

/-- The first place of a part at or after a position. -/
def placeFrom (s : List Char) : Nat → List Char → Option Nat
  | k, [] => if s.isEmpty then some k else none
  | k, c :: cs => if s.isPrefixOf (c :: cs) then some k else placeFrom s (k + 1) cs

/-- **The first place of a part** between two ends. -/
def place? (s cs : List Char) (low high : Nat) : Option Nat :=
  if low > high then none else placeFrom s low ((cs.take high).drop low)

/-- The last place of a part between two ends. -/
def lastPlace? (s cs : List Char) (low high : Nat) : Option Nat :=
  if low > high then none
  else
    let window := (cs.take high).drop low
    (placeFrom s.reverse 0 window.reverse).map fun k => high - k - s.length

/-- **Cuts at a separator**, at most so many times. -/
def cutAt (separator : List Char) : Nat → Nat → List Char → List (List Char)
  | 0, _, cs => [cs]
  | _, 0, cs => [cs]
  | steps + 1, cuts + 1, cs =>
    match placeFrom separator 0 cs with
    | some k => cs.take k :: cutAt separator steps cuts (cs.drop (k + separator.length))
    | none => [cs]

/-- Cuts at runs of blanks, at most so many times. -/
def cutAtBlanks (isBlank : Char → Bool) : Nat → Nat → List Char → List (List Char)
  | 0, _, _ => []
  | steps + 1, cuts, cs =>
    let cs := cs.dropWhile isBlank
    if cs.isEmpty then []
    else
      match cuts with
      | 0 => [cs]
      | cuts + 1 =>
        cs.takeWhile (!isBlank ·) ::
          cutAtBlanks isBlank steps cuts (cs.dropWhile (!isBlank ·))

/-- A part replaced by another, at most so many times; an empty part stands before each
character and at the end. -/
def replaced (old new : List Char) : Nat → Nat → List Char → List Char
  | 0, _, cs => cs
  | _, 0, cs => cs
  | steps + 1, count + 1, cs =>
    if old.isEmpty then
      match cs with
      | [] => new
      | c :: rest => new ++ c :: replaced old new steps count rest
    else
      match placeFrom old 0 cs with
      | some k => cs.take k ++ new ++ replaced old new steps count (cs.drop (k + old.length))
      | none => cs

/-- Whether a character ends a line. -/
def endsLine (isBytes : Bool) (c : Char) : Bool :=
  c = '\n' || c = '\r' ||
    (!isBytes && (c.toNat = 11 || c.toNat = 12 || (28 ≤ c.toNat && c.toNat ≤ 30) ||
      c.toNat = 0x85 || c.toNat = 0x2028 || c.toNat = 0x2029))

/-- **The lines of a text**, with their ends or without. -/
def lines (isBytes keepsEnds : Bool) : Nat → List Char → List (List Char)
  | 0, _ => []
  | _, [] => []
  | steps + 1, cs =>
    let line := cs.takeWhile fun c => !endsLine isBytes c
    let (ending, rest) : List Char × List Char :=
      match cs.dropWhile fun c => !endsLine isBytes c with
      | '\r' :: '\n' :: rest => (['\r', '\n'], rest)
      | c :: rest => ([c], rest)
      | [] => ([], [])
    (if keepsEnds then line ++ ending else line) :: lines isBytes keepsEnds steps rest

/-- Tabs replaced by blanks up to the next column of a width. -/
def tabsExpanded (width : Nat) : Nat → List Char → List Char
  | _, [] => []
  | column, '\t' :: cs =>
    let n := if width = 0 then 0 else width - column % width
    List.replicate n ' ' ++ tabsExpanded width (column + n) cs
  | column, c :: cs => c :: tabsExpanded width (if c = '\n' || c = '\r' then 0 else column + 1) cs

end Text

/-! ## Texts and byte strings -/

/-- **What a list of characters is written in.** -/
inductive Script where
  | text | bytes | bytearray
deriving DecidableEq

namespace Script

/-- Whether characters stand for bytes. -/
def isBytes (s : Script) : Bool := s ≠ text

/-- Whether a character is blank. -/
def isBlank (s : Script) (c : Char) : Bool :=
  if s = text then Text.isBlank c else Text.isPlainBlank c

/-- The rules of case. -/
def caseRules (s : Script) : Text.CaseRules := if s = text then .standard else .plain

end Script

namespace Run

/-- A value of a list of characters. -/
def written (s : Script) (cs : List Char) : Run Value :=
  match s with
  | .text => return .ofText (String.ofList cs)
  | .bytes => return .ofByteList (cs.map Char.toNat)
  | .bytearray => alloc (.bytearray (cs.map Char.toNat))

/-- The list of characters that a value is. -/
def characters? (s : Script) (v : Value) : Run (Option (List Char)) := do
  let σ ← read
  if s = .text then return (σ.text? v).map String.toList
  else return (σ.memory? v).map fun bs => bs.map Char.ofNat

/-- The list of characters that a value is. -/
def characters (s : Script) (v : Value) : Run (List Char) := do
  match ← characters? s v with
  | some cs => return cs
  | none => throw .wrongType

/-- What to look for: a part, or a byte by its number. -/
def searched (s : Script) (v : Value) : Run (List Char) := do
  match ← characters? s v with
  | some cs => return cs
  | none =>
    if s = .text then throw .wrongType
    else do
      let b ← byteOf v
      return [Char.ofNat b]

/-- A count that may be left out; less than none stands for any number. -/
def countGiven (size : Nat) (v : Option Value) : Run Nat := do
  match v with
  | none => return size
  | some v => do
    let n ← word v
    return if n < 0 then size else n.toNat

/-- Where to look for a part: between two ends, if they are given. The first may lie behind
the last character, where not even an empty part is found. -/
def partRange (size : Nat) (ends : List Value) : Run (Nat × Nat) := do
  let low (i : Option Int) : Nat := (i.elim 0 fun i => if i < 0 then i + size else i).toNat
  match ends with
  | [] => return (0, size)
  | [start] => return (low (← sliceEnd start), size)
  | [start, stop] => do
    let start ← sliceEnd start
    let stop ← sliceEnd stop
    return (low start, boundedEnd size (stop.getD size))
  | _ => throw .wrongType

/-- A list of the values of some lists of characters. -/
def listOf (s : Script) (parts : List (List Char)) : Run Value := do
  alloc (.list (← parts.mapM fun cs => do tellApart (← written s cs)))

/-- A separator, unless it is the null value or left out. -/
def separator? (s : Script) (v : Option Value) : Run (Option (List Char)) := do
  match v with
  | none | some .none => return none
  | some v => do
    let cs ← characters s v
    if cs.isEmpty then throw .badValue else return some cs

/-- **A text cut at a separator**, from the front or from the end. -/
def split (s : Script) (fromEnd : Bool) (cs : List Char) (separator count : Option Value) :
    Run Value := do
  let count ← countGiven (cs.length + 1) count
  let separator ← separator? s separator
  let steps := cs.length + 1
  let turn (xs : List Char) : List Char := if fromEnd then xs.reverse else xs
  let parts :=
    match separator with
    | some sep => Text.cutAt (turn sep) steps count (turn cs)
    | none => Text.cutAtBlanks s.isBlank steps count (turn cs)
  listOf s (if fromEnd then (parts.map List.reverse).reverse else parts)

/-- The three parts of a text at the first or the last place of a separator. -/
def partition (s : Script) (fromEnd : Bool) (self : Value) (cs : List Char) (separator : Value) :
    Run Value := do
  let sep ← characters s separator
  if sep.isEmpty then throw .badValue
  let found := if fromEnd then Text.lastPlace? sep cs 0 cs.length else Text.place? sep cs 0 cs.length
  let nothing ← written s []
  match found with
  | some k => do
    let front ← tellApart (← written s (cs.take k))
    let back ← tellApart (← written s (cs.drop (k + sep.length)))
    return .ofTuple [front, ← tellApart (← written s sep), back]
  | none => return .ofTuple (if fromEnd then [nothing, nothing, self] else [self, nothing, nothing])

/-- The characters to be dropped at an end: those given, or the blanks. -/
def dropped (s : Script) (v : Option Value) : Run (Char → Bool) := do
  match v with
  | none | some .none => return s.isBlank
  | some v => do
    let cs ← characters s v
    return cs.contains

/-- Whether a text begins, or ends, with one of some parts. -/
def hasEnd (s : Script) (atEnd : Bool) (cs : List Char) (v : Value) (ends : List Value) :
    Run Value := do
  let (low, high) ← partRange cs.length ends
  let window := (cs.take high).drop low
  let holds (part : Value) : Run Bool := do
    let part ← characters s part
    return low ≤ high && if atEnd then part.isSuffixOf window else part.isPrefixOf window
  match (← read).content v with
  | .tuple items _ => return .bool (← items.anyM holds)
  | _ => return .bool (← holds v)

/-- The items of a value joined by a text. -/
def join (s : Script) (cs : List Char) (v : Value) : Run Value := do
  let parts ← (← items v).mapM (characters s)
  match s, v, ← items v, parts with
  | .text, _, [w@(.str ..)], _ => return w
  | _, _, _, parts => written s (cs.intercalate parts)

/-- A text filled up to a width with a character. -/
def filledUp (s : Script) (cs : List Char) (width : Value) (fill : Option Value)
    (place : Nat → Nat) : Run Value := do
  let width ← word width
  let fill ←
    match fill with
    | none => pure ' '
    | some v =>
      match ← characters s v with
      | [c] => pure c
      | _ => throw .wrongType
  if width > room then throw .outOfRoom
  let missing := width.toNat - cs.length
  let front := place missing
  written s (List.replicate front fill ++ cs ++ List.replicate (missing - front) fill)

/-- A text filled up with zeros behind its sign. -/
def zeroFilled (s : Script) (cs : List Char) (width : Value) : Run Value := do
  let width ← word width
  if width > room then throw .outOfRoom
  let zeros := List.replicate (width.toNat - cs.length) '0'
  match cs with
  | '-' :: rest => written s ('-' :: (zeros ++ rest))
  | '+' :: rest => written s ('+' :: (zeros ++ rest))
  | cs => written s (zeros ++ cs)

/-- What is asked of all characters of a text that has some. -/
def ofAll (cs : List Char) (p : Char → Bool) : Run Value := return .bool (!cs.isEmpty && cs.all p)

/-- Whether a character is a letter. -/
def isLetter (s : Script) (c : Char) : Bool := if s = .text then Text.isLetter c else c.isAlpha

/-- Whether a character is a digit. -/
def isDigit (s : Script) (c : Char) : Bool := if s = .text then Text.isDigit c else c.isDigit

/-- A question about the characters of a text. -/
def textQuestion (s : Script) (name : String) (cs : List Char) : Run (Option Value) := do
  match name with
  | "isalpha" => some <$> ofAll cs (isLetter s)
  | "isdigit" => some <$> ofAll cs (isDigit s)
  | "isdecimal" => some <$> ofAll cs Text.isDecimal
  | "isnumeric" => some <$> ofAll cs Text.isNumber
  | "isalnum" =>
    some <$> ofAll cs fun c => isLetter s c || isDigit s c || (s = .text && Text.isNumber c)
  | "isspace" => some <$> ofAll cs s.isBlank
  | "isascii" => return some (.bool (cs.all (·.toNat < 128)))
  | "isupper" => return some (.bool (s.caseRules.isGreat cs))
  | "islower" => return some (.bool (s.caseRules.isSmall cs))
  | "istitle" => return some (.bool (s.caseRules.isTitled cs))
  | "isidentifier" => return some (.bool (Text.isName cs))
  | "isprintable" => return some (.bool (cs.all Text.isPrintable))
  | _ => return none

/-- **A method of a text or a byte string** that takes no keywords. -/
def plainTextMethod (s : Script) (self : Value) (cs : List Char) (name : String)
    (args : List Value) : Run Value := do
  let found (k : Option Nat) : Value := .ofInt (k.elim (-1) fun n => n)
  let orMissing (k : Option Nat) : Run Value :=
    match k with
    | some n => return .ofInt n
    | none => throw .badValue
  let within (f : List Char → List Char → Nat → Nat → Option Nat) (v : Value) (ends : List Value) :
      Run (Option Nat) := do
    let (low, high) ← partRange cs.length ends
    return f (← searched s v) cs low high
  match name, args with
  | "find", v :: ends => return found (← within Text.place? v ends)
  | "rfind", v :: ends => return found (← within Text.lastPlace? v ends)
  | "index", v :: ends => do orMissing (← within Text.place? v ends)
  | "rindex", v :: ends => do orMissing (← within Text.lastPlace? v ends)
  | "count", v :: ends => do
    let (low, high) ← partRange cs.length ends
    let part ← searched s v
    if low > high then return .ofInt 0
    else if part.isEmpty then return .ofInt ((high - low : Nat) + 1)
    else
      let window := (cs.take high).drop low
      let pieces := (Text.cutAt part (window.length + 1) (window.length + 1) window).length
      return .ofInt ((pieces : Int) - 1)
  | "startswith", v :: ends => hasEnd s false cs v ends
  | "endswith", v :: ends => hasEnd s true cs v ends
  | "join", [v] => join s cs v
  | "partition", [v] => partition s false self cs v
  | "rpartition", [v] => partition s true self cs v
  | "replace", [old, new] => do
    let old ← characters s old
    written s (Text.replaced old (← characters s new) (cs.length + 2) (cs.length + 2) cs)
  | "replace", [old, new, count] => do
    let old ← characters s old
    let new ← characters s new
    let count ← countGiven (cs.length + 2) (some count)
    written s (Text.replaced old new (cs.length + 2) count cs)
  | "strip", _ | "lstrip", _ | "rstrip", _ => do
    if args.length > 1 then throw .wrongType
    let drops ← dropped s args[0]?
    let front := if name = "rstrip" then cs else cs.dropWhile drops
    let kept := if name = "lstrip" then front else (front.reverse.dropWhile drops).reverse
    if kept.length = cs.length && s ≠ .bytearray then return self else written s kept
  | "removeprefix", [v] => do
    let part ← characters s v
    written s (if part.isPrefixOf cs then cs.drop part.length else cs)
  | "removesuffix", [v] => do
    let part ← characters s v
    written s
      (if part.isSuffixOf cs && !part.isEmpty then cs.take (cs.length - part.length) else cs)
  | "ljust", width :: fill =>
    if fill.length > 1 then throw .wrongType else filledUp s cs width fill[0]? fun _ => 0
  | "rjust", width :: fill =>
    if fill.length > 1 then throw .wrongType else filledUp s cs width fill[0]? id
  | "center", width :: fill => do
    if fill.length > 1 then throw .wrongType
    let odd := (← word width).toNat % 2
    filledUp s cs width fill[0]? fun n => n / 2 + (if n % 2 = 1 && odd = 1 then 1 else 0)
  | "zfill", [width] => zeroFilled s cs width
  | "lower", [] => written s (s.caseRules.small cs)
  | "upper", [] => written s (s.caseRules.great cs)
  | "casefold", [] => written s (cs.flatMap Text.folded)
  | "swapcase", [] => written s (s.caseRules.turned cs)
  | "title", [] => written s (s.caseRules.titled cs)
  | "capitalize", [] => written s (s.caseRules.capitalized cs)
  | "expandtabs", [] => written s (Text.tabsExpanded 8 0 cs)
  | "expandtabs", [v] => do written s (Text.tabsExpanded (← shortWord v).toNat 0 cs)
  | "copy", [] => written s cs
  | name, [] =>
    match ← textQuestion s name cs with
    | some v => return v
    | none => throw .wrongType
  | _, _ => throw .wrongType

/-- **A method of a text or a byte string.** -/
def textMethod (s : Script) (self : Value) (cs : List Char) (name : String) (args : List Value)
    (keywords : List (String × Value)) : Run Value := do
  match name with
  | "split" | "rsplit" =>
    match ← byParameter ["sep", "maxsplit"] args keywords with
    | [separator, count] => split s (name = "rsplit") cs separator count
    | _ => throw .wrongType
  | "splitlines" =>
    match ← byParameter ["keepends"] args keywords with
    | [keeps] => do
      let keeps ←
        match keeps with
        | some v => (· != 0) <$> shortWord v
        | none => pure false
      listOf s (Text.lines s.isBytes keeps (cs.length + 1) cs)
    | _ => throw .wrongType
  | "encode" =>
    match ← byParameter ["encoding", "errors"] args keywords with
    | [encoding, rule] => return .ofByteList (← encoded (String.ofList cs) encoding rule)
    | _ => throw .wrongType
  | "decode" =>
    match ← byParameter ["encoding", "errors"] args keywords with
    | [encoding, rule] => decoded (cs.map Char.toNat) encoding rule
    | _ => throw .wrongType
  | name => if keywords.isEmpty then plainTextMethod s self cs name args else throw .wrongType

end Run

end Narrowing
