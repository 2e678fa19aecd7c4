import Narrowing.Code.Token
import Narrowing.Text.Encoding
import Narrowing.Text.Numeral
import Narrowing.Value.Text
/-!
# Conversions

A value is converted to a number by a member of its class, by what it is as a number,
or by the numeral that it is as a text. Converting to an integer drops the places; a
double that is no number or is infinite has no integer.

Bytes are made of integers in their range, of a size, or of what others hold in memory;
an encoding relates texts to bytes.
-/

namespace Narrowing

/-! ## Numerals -/

namespace Text

/-- The imaginary part in front of its mark; a sign alone stands for one. -/
def imaginary? : List Char → Option Float
  | [] | ['+'] => some 1.0
  | ['-'] => some (-1.0)
  | cs => double? (String.ofList cs)

/-- Characters cut before the last sign that belongs to no exponent, if that is not the
first. -/
def cutAtSign (cs : List Char) : List Char × List Char :=
  let isCut (k : Nat) : Bool :=
    match cs.drop k with
    | c :: d :: _ => (d = '+' || d = '-') && c ≠ 'e' && c ≠ 'E'
    | _ => false
  match (List.range cs.length).reverse.find? isCut with
  | some k => (cs.take (k + 1), cs.drop (k + 1))
  | none => ([], cs)

/-- **The complex number that a text is**: a real part, an imaginary one with its mark, or
both, which may stand in brackets. -/
def complex? (s : String) : Option (Float × Float) := do
  let outer := strippedOf isPlainBlank (s.toList.map plainForm)
  let cs :=
    match outer.head?, outer.getLast? with
    | some '(', some ')' => strippedOf isPlainBlank (outer.drop 1).dropLast
    | _, _ => outer
  if cs.isEmpty || cs.any isPlainBlank then none
  if cs.getLast? = some 'j' || cs.getLast? = some 'J' then
    let (re, im) := cutAtSign cs.dropLast
    if re.isEmpty then return (0.0, ← imaginary? im)
    else return (← double? (String.ofList re), ← imaginary? im)
  else return (← double? (String.ofList cs), 0.0)

/-- The text of bytes that are all characters of a short alphabet. -/
def ofPlainBytes? (bs : List Nat) : Option String :=
  if bs.all (· < 128) then some (String.ofList (bs.map Char.ofNat)) else none

end Text

/-- The integer that a number is without its places. -/
def Number.truncated : Number → Except Failure Int
  | int i => .ok i
  | float x =>
    match truncated? x with
    | some i => .ok i
    | none => .error (if x.isNaN then .badValue else .tooLarge)
  | complex .. => .error .wrongType

namespace Store

/-- The text that a value is, or that it spells in bytes; those of another value are
given as they are in memory. -/
def spelled? (σ : Store) (v : Value) : Option (Option String) :=
  match σ.text? v with
  | some s => some (some s)
  | none => (σ.bytes? v).map Text.ofPlainBytes?

/-- The text that a value is, or that it spells in memory. -/
def spelledInMemory? (σ : Store) (v : Value) : Option (Option String) :=
  match σ.spelled? v, σ.cell? (σ.content v) with
  | none, some (.array ..) => (σ.memory? v).map Text.ofPlainBytes?
  | s, _ => s

end Store

namespace Run

/-! ## Numbers -/

/-- The number of a numeral, if it is one. -/
def numeral {α : Type} (read : String → Option α) (s : Option String) : Run α :=
  match s.bind read with
  | some a => return a
  | none => throw .badValue

/-- **The integer that a value is converted to.** -/
def toInteger (v : Value) : Run Int := do
  match ← callSpecial? v "__int__" [] with
  | some w =>
    match (← read).wholeNumber? w with
    | some i => return i
    | none => throw .wrongType
  | none =>
    let σ ← read
    match σ.number? v, σ.spelledInMemory? v with
    | some n, _ => ofExcept n.truncated
    | none, some s => numeral (Text.integer? 10) s
    | none, none =>
      match ← index? v with
      | some i => return i
      | none =>
        match ← callSpecial? v "__trunc__" [] with
        | some w => index w
        | none => throw .wrongType

/-- The integer that a text is in a base. -/
def toIntegerIn (v base : Value) : Run Int := do
  let b ← index base
  if b ≠ 0 && (b < 2 || 36 < b) then throw .badValue
  match (← read).spelled? v with
  | none => throw .wrongType
  | some s => numeral (Text.integer? b.toNat) s

/-- The double nearest to a number. -/
def nearestDouble (n : Number) : Run Float :=
  match n.toFloat? with
  | some x => return x
  | none => throw (if n.isReal then .tooLarge else .wrongType)

/-- The double that a value is as a number, if it is one. -/
def numberToDouble? (v : Value) : Run (Option Float) := do
  match ← callSpecial? v "__float__" [] with
  | some w =>
    match (← read).content w with
    | .float x _ => return some x
    | _ => throw .wrongType
  | none =>
    match (← read).number? v with
    | some n => return some (← nearestDouble n)
    | none =>
      match ← index? v with
      | some i => return some (← nearestDouble (.int i))
      | none => return none

/-- **The double that a value is converted to.** -/
def toDouble (v : Value) : Run Float := do
  match ← numberToDouble? v with
  | some x => return x
  | none =>
    match (← read).spelledInMemory? v with
    | some s => numeral Text.double? s
    | none => throw .wrongType

/-- The complex number that a value is as a number. -/
def numberToComplex (v : Value) : Run (Float × Float) := do
  match ← callSpecial? v "__complex__" [] with
  | some w =>
    match (← read).content w with
    | .complex re im _ => return (re, im)
    | _ => throw .wrongType
  | none =>
    match (← read).number? v with
    | some (.complex re im) => return (re, im)
    | _ =>
      match ← numberToDouble? v with
      | some x => return (x, 0.0)
      | none => throw .wrongType

/-- **The complex number that a value is converted to**, with an imaginary part or
without. -/
def toComplex (v : Value) (imaginary : Option Value) : Run (Float × Float) := do
  let σ ← read
  match σ.text? v, imaginary with
  | some s, none => numeral Text.complex? (some s)
  | some _, some _ => throw .wrongType
  | none, none => numberToComplex v
  | none, some w => do
    if (σ.text? w).isSome then throw .wrongType
    let isPair (v : Value) : Bool :=
      match σ.number? v with
      | some (.complex ..) => true
      | _ => false
    let (a, b) ← numberToComplex v
    let (c, d) ← numberToComplex w
    return (if isPair w then a - d else a, if isPair v then c + b else c)

/-! ## Bytes -/

/-- The byte that a value stands for. -/
def byteOf (v : Value) : Run Nat := do
  let i ← index v
  if 0 ≤ i && i < 256 then return i.toNat else throw .badValue

/-- How many items a container has room for. -/
def room : Nat := Word.count 33

/-- **The bytes that a value is converted to.** -/
def toBytes (v : Value) : Run (List Nat) := do
  let σ ← read
  if (σ.text? v).isSome then throw .wrongType
  match ← index? v with
  | some n =>
    if !Word.fits 63 n then throw .tooLarge
    else if n < 0 then throw .badValue
    else if n.toNat > room then throw .outOfRoom
    else return List.replicate n.toNat 0
  | none =>
    match (← read).memory? v with
    | some bs => return bs
    | none => do (← items v).mapM byteOf

/-! ## Encodings -/

/-- The name that a value is in the place of an encoding or a rule. -/
def codeName (v : Value) : Run String := do
  match (← read).text? v with
  | none => throw .wrongType
  | some s => if s.contains (Char.ofNat 0) then throw .badValue else return s

/-- The encoding that a value names. -/
def encodingOf (name : Option String) : Run Encoding := do
  match name with
  | none => return .bytes false
  | some s =>
    match Encoding.ofName? s with
    | some e => return e
    | none => throw (if Encoding.isForeign s then .unsupported else .ofName "LookupError")

/-- The rule for faults of a name, which is looked for at the first fault. -/
def faultRule (name : Option String) : Run FaultRule := do
  match FaultRule.names.lookup (name.getD "strict") with
  | some rule => return rule
  | none => throw (.ofName "LookupError")

/-- The code points of characters with escapes by four or eight digits, in so many
steps. -/
def numericallyUnescaped : Nat → List Char → Option (List Nat)
  | 0, _ | _, [] => some []
  | steps + 1, '\\' :: c :: cs =>
    match if c = 'u' then some 4 else if c = 'U' then some 8 else none with
    | none => (numericallyUnescaped steps cs).map fun r => '\\'.toNat :: c.toNat :: r
    | some digits =>
      (Code.Token.hexValue digits cs).bind fun (n, rest) =>
        if n < 0x110000 then (numericallyUnescaped steps rest).map (n :: ·) else none
  | steps + 1, c :: cs => (numericallyUnescaped steps cs).map (c.toNat :: ·)

/-- The characters that bytes with escapes are. -/
def unescaped (isRaw : Bool) (bs : List Nat) (rule : Option String) : Run String := do
  let cs := bs.map Char.ofNat
  let isOpen := (cs.reverse.takeWhile (· = '\\')).length % 2 = 1
  let found :=
    if isRaw then numericallyUnescaped (cs.length + 1) cs
    else if isOpen then none
    else Code.Token.unescape false (cs.length + 1) cs
  match found with
  | some ns =>
    if ns.all Encoding.isCharacter then return String.ofList (ns.map Char.ofNat)
    else throw .unsupported
  | none =>
    match ← faultRule rule with
    | .strict => throw (.ofName "UnicodeDecodeError")
    | _ => throw .unsupported

/-- What is read for a fault. -/
def readFault (e : Encoding) (rule : Option String) (bs : List Nat) : Run (List Char) := do
  let rule ← faultRule rule
  match rule.read? bs, rule, e with
  | some cs, _, _ => return cs
  | none, .reference, _ | none, .name, _ => throw .wrongType
  | none, .keep, _ =>
    throw (if bs.headD 0 < 128 then .ofName "UnicodeDecodeError" else .unsupported)
  | none, .pass, .bytes _ =>
    throw (if bs = [0xed] then .unsupported else .ofName "UnicodeDecodeError")
  | none, .pass, .units size _ =>
    let isHalf := bs.length = size && (size = 2 || (bs.filter (· = 0)).length ≥ 2)
    throw (if isHalf then .unsupported else .ofName "UnicodeDecodeError")
  | none, _, _ => throw (.ofName "UnicodeDecodeError")

/-- **The text that bytes spell** in an encoding, with a rule for faults. No bytes spell the
empty text in any. -/
def decoded (bs : List Nat) (encoding rule : Option Value) : Run Value := do
  let encoding ← encoding.mapM codeName
  let rule ← rule.mapM codeName
  if bs.isEmpty then return .ofText ""
  match ← encodingOf encoding with
  | .escapes isRaw => return .ofText (← unescaped isRaw bs rule)
  | e => do
    let parts ← (e.read bs).mapM fun
      | .ok c => pure [c]
      | .error bs => readFault e rule bs
    return .ofText (String.ofList parts.flatten)

/-- What is written for a character that cannot be. -/
def writeFault (e : Encoding) (rule : Option String) (c : Char) : Run (List Nat) := do
  let rule ← faultRule rule
  if rule = .name then throw .unsupported
  match (rule.written? c).bind fun cs => cs.mapM e.write? with
  | some parts => return parts.flatten
  | none => throw (.ofName "UnicodeEncodeError")

/-- **The bytes that spell a text** in an encoding, with a rule for faults. -/
def encoded (s : String) (encoding rule : Option Value) : Run (List Nat) := do
  let encoding ← encoding.mapM codeName
  let rule ← rule.mapM codeName
  let e ← encodingOf encoding
  let parts ← s.toList.mapM fun c =>
    match e.write? c with
    | some bs => pure bs
    | none => writeFault e rule c
  return e.mark ++ parts.flatten

end Run

end Narrowing
