import Narrowing.Text.CharacterSet
/-!
# Encodings

How texts are written as bytes. An encoding writes a character as one to four bytes, or
cannot write it; it reads bytes as characters and as **faults**, which are runs of bytes
that cannot belong to a character. A fault in one to four bytes is as long as the longest
beginning of a character that stands there, and at least one byte.
-/

namespace Narrowing

/-- Which byte of a unit comes first. -/
inductive ByteOrder where
  | least | greatest
deriving DecidableEq

/-- **A way to write texts as bytes.** -/
inductive Encoding where
  /-- One to four bytes, behind a mark if there is one. -/
  | bytes (isMarked : Bool)
  /-- Units of so many bytes, which follow a mark of their order if they have none. -/
  | units (size : Nat) (order : Option ByteOrder)
  /-- One byte for each character of a set. -/
  | table (characters : List Char)
  /-- Plain characters, and escapes for all others. -/
  | escapes (isRaw : Bool)

namespace Encoding

/-! ## Names -/

/-- A name in small letters, with one line for whatever is no letter, digit or point. -/
def plainName (name : String) : String :=
  let step : List Char × Bool → Char → List Char × Bool := fun (cs, isGap) c =>
    if c.isAlphanum || c = '.' then
      (c.toLower :: (if isGap && !cs.isEmpty then '_' :: cs else cs), false)
    else if c.toNat < 128 then (cs, true)
    else (cs, isGap)
  String.ofList (name.toList.foldl step ([], false)).1.reverse

/-- The characters with the numbers of single bytes below a limit. -/
def firstCharacters (limit : Nat) : List Char :=
  (List.range 256).map fun n => if n < limit then Char.ofNat n else Text.noCharacter

/-- The set of a name. -/
def tableNamed? (name : String) : Option (List Char) :=
  match Text.upperTables.lookup name, Text.wholeTables.lookup name with
  | some pieces, _ => some ((firstCharacters 128).take 128 ++ (String.join pieces).toList)
  | none, some pieces => some (String.join pieces).toList
  | none, none => none

/-- The encoding of a name in its plain form. -/
def ofPlainName? (name : String) : Option Encoding :=
  match name with
  | "utf_8" => some (bytes false)
  | "utf_8_sig" => some (bytes true)
  | "utf_16" => some (units 2 none)
  | "utf_16_le" => some (units 2 (some .least))
  | "utf_16_be" => some (units 2 (some .greatest))
  | "utf_32" => some (units 4 none)
  | "utf_32_le" => some (units 4 (some .least))
  | "utf_32_be" => some (units 4 (some .greatest))
  | "ascii" => some (table (firstCharacters 128))
  | "latin_1" => some (table (firstCharacters 256))
  | "unicode_escape" => some (escapes false)
  | "raw_unicode_escape" => some (escapes true)
  | name => (tableNamed? name).map table

/-- A name that stands for another one. -/
def resolvedName (name : String) : String :=
  let withoutPoints := String.ofList (name.toList.map fun c => if c = '.' then '_' else c)
  ((Text.encodingAliases.lookup name).or (Text.encodingAliases.lookup withoutPoints)).getD name

/-- **The encoding of a name**, in which case and separators do not count. -/
def ofName? (name : String) : Option Encoding := ofPlainName? (resolvedName (plainName name))

/-- Whether a name is that of an encoding that is not read and written here. -/
def isForeign (name : String) : Bool := Text.otherEncodings.contains (plainName name)

/-! ## Writing -/

/-- Some bytes of a number, from the least on. -/
def leastFirst (n : Nat) : Nat → List Nat
  | 0 => []
  | count + 1 => n % 256 :: leastFirst (n / 256) count

/-- Some bytes of a number in an order. -/
def inOrder (order : ByteOrder) (count n : Nat) : List Nat :=
  match order with
  | .least => leastFirst n count
  | .greatest => (leastFirst n count).reverse

/-- The units of two bytes that a character is. -/
def unitsOf (n : Nat) : List Nat :=
  if n < 0x10000 then [n]
  else [0xd800 + (n - 0x10000) / 1024, 0xdc00 + (n - 0x10000) % 1024]

/-- A number with so many hexadecimal digits. -/
def hexadecimal (width n : Nat) : List Char :=
  let digits := Nat.toDigits 16 n
  List.replicate (width - digits.length) '0' ++ digits

/-- The escape of a character by its number, of two, four or eight digits. -/
def escapeOf (c : Char) : List Char :=
  let n := c.toNat
  if n < 256 then '\\' :: 'x' :: hexadecimal 2 n
  else if n < 0x10000 then '\\' :: 'u' :: hexadecimal 4 n
  else '\\' :: 'U' :: hexadecimal 8 n

/-- How a character is written with escapes. -/
def escaped (isRaw : Bool) (c : Char) : List Char :=
  if isRaw then if c.toNat < 256 then [c] else escapeOf c
  else
    match c with
    | '\\' => ['\\', '\\']
    | '\t' => ['\\', 't']
    | '\n' => ['\\', 'n']
    | '\r' => ['\\', 'r']
    | c => if 32 ≤ c.toNat && c.toNat < 127 then [c] else escapeOf c

/-- The mark in front of what is written. -/
def mark : Encoding → List Nat
  | bytes true => [0xef, 0xbb, 0xbf]
  | units size none => leastFirst 0xfeff size
  | _ => []

/-- **How a character is written**, if it can be. -/
def write? (e : Encoding) (c : Char) : Option (List Nat) :=
  match e with
  | bytes _ => some ((String.singleton c).toUTF8.toList.map UInt8.toNat)
  | units 2 order => some ((unitsOf c.toNat).flatMap (inOrder (order.getD .least) 2))
  | units size order => some (inOrder (order.getD .least) size c.toNat)
  | table cs =>
    if c = Text.noCharacter then none
    else (cs.reverse.findIdx? (· = c)).map fun k => [cs.length - 1 - k]
  | escapes isRaw => some ((escaped isRaw c).map Char.toNat)

/-! ## Reading -/

/-- **What bytes are read as**: characters, and faults with their bytes. -/
abbrev Reading := List (Except (List Nat) Char)

/-- Whether a number is that of a character. -/
def isCharacter (n : Nat) : Bool := n < 0xd800 || (0xe000 ≤ n && n < 0x110000)

/-- How many bytes follow a first one, and between which ends the next one lies. -/
def followers? (b : Nat) : Option (Nat × Nat × Nat) :=
  if b < 0x80 then some (0, 0, 0)
  else if 0xc2 ≤ b && b ≤ 0xdf then some (1, 0x80, 0xbf)
  else if 0xe0 ≤ b && b ≤ 0xef then
    some (2, if b = 0xe0 then 0xa0 else 0x80, if b = 0xed then 0x9f else 0xbf)
  else if 0xf0 ≤ b && b ≤ 0xf4 then
    some (3, if b = 0xf0 then 0x90 else 0x80, if b = 0xf4 then 0x8f else 0xbf)
  else none

/-- The bytes that follow a first one, as far as they can. -/
def followersIn (count low high : Nat) : List Nat → List Nat
  | [] => []
  | b :: bs =>
    match count with
    | 0 => []
    | count + 1 =>
      if low ≤ b && b ≤ high then b :: followersIn count 0x80 0xbf bs else []

/-- Reads characters of one to four bytes, in so many steps. -/
def readBytes : Nat → List Nat → Reading
  | 0, _ | _, [] => []
  | steps + 1, b :: bs =>
    match followers? b with
    | none => .error [b] :: readBytes steps bs
    | some (count, low, high) =>
      let more := followersIn count low high bs
      let rest := readBytes steps (bs.drop more.length)
      if more.length < count then .error (b :: more) :: rest
      else
        let first := if count = 0 then b else b % Nat.pow 2 (6 - count)
        .ok (Char.ofNat (more.foldl (fun n b => 64 * n + b % 64) first)) :: rest

/-- The number of a unit. -/
def unitNumber (order : ByteOrder) (bs : List Nat) : Nat :=
  (match order with
    | .least => bs.reverse
    | .greatest => bs).foldl (fun n b => 256 * n + b) 0

/-- Reads units of two bytes, in so many steps. -/
def readPairs (order : ByteOrder) : Nat → List Nat → Reading
  | 0, _ | _, [] => []
  | steps + 1, bs =>
    let n := unitNumber order (bs.take 2)
    let m := unitNumber order ((bs.drop 2).take 2)
    let fault (size : Nat) : Reading := .error (bs.take size) :: readPairs order steps (bs.drop size)
    if bs.length < 2 then [.error bs]
    else if isCharacter n then .ok (Char.ofNat n) :: readPairs order steps (bs.drop 2)
    else if 0xdc00 ≤ n then fault 2
    else if bs.length < 4 then [.error bs]
    else if 0xdc00 ≤ m && m < 0xe000 then
      .ok (Char.ofNat (0x10000 + (n - 0xd800) * 1024 + (m - 0xdc00))) ::
        readPairs order steps (bs.drop 4)
    else fault 2

/-- Reads units of four bytes, in so many steps. -/
def readQuadruples (order : ByteOrder) : Nat → List Nat → Reading
  | 0, _ | _, [] => []
  | steps + 1, bs =>
    let n := unitNumber order (bs.take 4)
    if bs.length < 4 then [.error bs]
    else
      (if isCharacter n then .ok (Char.ofNat n) else .error (bs.take 4)) ::
        readQuadruples order steps (bs.drop 4)

/-- The order that units follow a mark of, and what is left. -/
def ordered (size : Nat) (order : Option ByteOrder) (bs : List Nat) : ByteOrder × List Nat :=
  match order with
  | some order => (order, bs)
  | none =>
    let front := bs.take size
    if front = leastFirst 0xfeff size then (.least, bs.drop size)
    else if front = (leastFirst 0xfeff size).reverse then (.greatest, bs.drop size)
    else (.least, bs)

/-- **Reads bytes**, unless they are escapes. -/
def read (e : Encoding) (bs : List Nat) : Reading :=
  match e with
  | bytes isMarked =>
    let rest := if isMarked && bs.take 3 = [0xef, 0xbb, 0xbf] then bs.drop 3 else bs
    readBytes rest.length rest
  | units size order =>
    let (order, rest) := ordered size order bs
    if size = 2 then readPairs order rest.length rest else readQuadruples order rest.length rest
  | table cs =>
    let all := cs.toArray
    bs.map fun b =>
      match all[b]? with
      | some c => if c = Text.noCharacter then .error [b] else .ok c
      | none => .error [b]
  | escapes _ => bs.map fun b => .ok (Char.ofNat b)

end Encoding

/-! ## Faults -/

/-- **What is done about a character that cannot be written, or bytes that cannot be
read.** -/
inductive FaultRule where
  | strict | ignore | replace | escape | reference | name | keep | pass
deriving DecidableEq

namespace FaultRule

/-- The rules by their names. -/
def names : List (String × FaultRule) :=
  [("strict", strict), ("ignore", ignore), ("replace", replace), ("backslashreplace", escape),
    ("xmlcharrefreplace", reference), ("namereplace", name), ("surrogateescape", keep),
    ("surrogatepass", pass)]

/-- What is written for a character that cannot be, if something is. -/
def written? (rule : FaultRule) (c : Char) : Option (List Char) :=
  match rule with
  | ignore => some []
  | replace => some ['?']
  | escape => some (Encoding.escapeOf c)
  | reference => some ('&' :: '#' :: Nat.toDigits 10 c.toNat ++ [';'])
  | _ => none

/-- What is read for bytes that are a fault, if something is. -/
def read? (rule : FaultRule) (bs : List Nat) : Option (List Char) :=
  match rule with
  | ignore => some []
  | replace => some [Char.ofNat 0xfffd]
  | escape => some (bs.flatMap fun b => '\\' :: 'x' :: Encoding.hexadecimal 2 b)
  | _ => none

end FaultRule

end Narrowing
