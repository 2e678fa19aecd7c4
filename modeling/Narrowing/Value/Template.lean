import Narrowing.Value.Element
import Narrowing.Value.Specification
/-!
# Values in templates

A value is written as a format specification says by its class, or by what it is: a text,
an integer, or another number; any other value takes no specification but the empty one.

A **template** is a text with fields in braces, which are doubled to stand for themselves.
A field names a value by its position or by a key, then attributes and elements of it,
then a conversion, then a specification, which may hold fields itself. Positions are
given for all fields or for none.
-/

namespace Narrowing

namespace Run

/-! ## One value -/

/-- What a specification that is read gives, or its fault. -/
def specified {α : Type} (r : Option α) : Run α :=
  match r with
  | some a => return a
  | none => throw .badValue

/-- What is written by a specification, if there is room for its width. -/
def withRoom (s : Specification) (write : Specification → Run (List Char)) : Run (List Char) := do
  if s.width.any (· > room) then
    let _ ← write { s with width := none }
    throw .outOfRoom
  else write s

/-- The letters of presentations in which an integer is written as a double. -/
def isDoublePresentation (c : Char) : Bool := "eEfFgG%".toList.contains c

/-- **A number as a specification says.** -/
def numberAs (n : Number) (spec : List Char) : Run (List Char) := do
  match n with
  | .int i => do
    let s ← specified (Specification.read? .right (some 'd') spec)
    let c := s.presentation.getD 'd'
    if isDoublePresentation c then
      match n.toFloat? with
      | some x => withRoom s fun s => specified (s.double? x)
      | none => throw .tooLarge
    else withRoom s fun s => ofExcept (s.integer c i)
  | .float x => do
    let s ← specified (Specification.read? .right none spec)
    withRoom s fun s => specified (s.double? x)
  | .complex re im => do
    let s ← specified (Specification.read? .right none spec)
    withRoom s fun s => specified (s.complex? re im)

/-- What a value of the language is as a specification says. -/
def plainlyFormatted (v : Value) (spec : String) : Run String := do
  let σ ← read
  let c := σ.content v
  if spec.isEmpty then plainText v
  else
    match σ.number? c, σ.text? c with
    | some n, _ => return String.ofList (← numberAs n spec.toList)
    | none, some s => do
      let read ← specified (Specification.read? .left (some 's') spec.toList)
      return String.ofList (← withRoom read fun read => specified (read.text? s.toList))
    | none, none => throw .wrongType

/-- **A value as a specification says.** -/
def formattedAs (v : Value) (spec : String) : Run String := do
  match ← callSpecial? v "__format__" [.ofText spec] with
  | none => plainlyFormatted v spec
  | some w =>
    match (← read).text? w with
    | some s => return s
    | none => throw .wrongType

end Run

/-! ## Fields -/

/-- **A field of a template.** -/
structure Field where
  name : List Char
  conversion : Option Char := none
  spec : List Char := []
  /-- Whether the specification holds fields. -/
  isNested : Bool := false

/-- A piece of a template. -/
inductive TemplatePiece where
  | plain (cs : List Char)
  | field (f : Field)

namespace Template

/-- The specification of a field up to its closing brace, and what follows. -/
def specPart : Nat → List Char → Option (List Char × Bool × List Char)
  | _, [] => none
  | depth, c :: cs =>
    if c = '}' && depth = 0 then some ([], false, cs)
    else
      let depth := if c = '{' then depth + 1 else if c = '}' then depth - 1 else depth
      (specPart depth cs).map fun (spec, isNested, rest) => (c :: spec, isNested || c = '{', rest)

/-- The name of a field up to what ends it, with that and what follows; in square brackets
nothing ends it. -/
def namePart : Bool → List Char → Option (List Char × Char × List Char)
  | _, [] => none
  | true, c :: cs =>
    (namePart (c ≠ ']') cs).map fun (name, last, rest) => (c :: name, last, rest)
  | false, c :: cs =>
    if c = '{' then none
    else if c = '}' || c = ':' || c = '!' then some ([], c, cs)
    else (namePart (c = '[') cs).map fun (name, last, rest) => (c :: name, last, rest)

/-- **Reads a field**, its opening brace being taken off. -/
def field? (cs : List Char) : Option (Field × List Char) := do
  let (name, last, cs) ← namePart false cs
  let withSpec (conversion : Option Char) (cs : List Char) : Option (Field × List Char) := do
    let (spec, isNested, rest) ← specPart 0 cs
    return ({ name, conversion, spec, isNested }, rest)
  if last = '}' then return ({ name }, cs)
  else if last = ':' then withSpec none cs
  else
    match cs with
    | c :: '}' :: rest => return ({ name, conversion := some c }, rest)
    | c :: ':' :: rest => withSpec (some c) rest
    | _ => none

/-- **The pieces of a template**, at most so many; the last is missing where the template
is malformed. -/
def pieces : Nat → List Char → List (Option TemplatePiece)
  | 0, _ => []
  | _, [] => []
  | n + 1, '{' :: '{' :: cs => some (.plain ['{']) :: pieces n cs
  | n + 1, '}' :: '}' :: cs => some (.plain ['}']) :: pieces n cs
  | n + 1, '{' :: cs =>
    match field? cs with
    | some (f, rest) => some (.field f) :: pieces n rest
    | none => [none]
  | _ + 1, '}' :: _ => [none]
  | n + 1, c :: cs => some (.plain [c]) :: pieces n cs

/-- A part of the name of a field: an attribute, or an element. -/
inductive Step where
  | attribute (name : List Char)
  | element (key : List Char)

/-- The steps of the name of a field behind its first part; none where it is malformed,
after those before that. -/
def steps : Nat → List Char → List (Option Step)
  | 0, _ => []
  | _, [] => []
  | n + 1, '.' :: cs =>
    let isInner (c : Char) : Bool := c ≠ '.' && c ≠ '['
    let name := cs.takeWhile isInner
    if name.isEmpty then [none] else some (.attribute name) :: steps n (cs.dropWhile isInner)
  | n + 1, '[' :: cs =>
    let key := cs.takeWhile (· ≠ ']')
    match cs.dropWhile (· ≠ ']') with
    | [] => [none]
    | _ :: rest => if key.isEmpty then [none] else some (.element key) :: steps n rest
  | _ + 1, _ => [none]

/-- The number that all of a part is, as a position. -/
def number? (cs : List Char) : Option Nat :=
  if cs.isEmpty || !cs.all fun c => (Text.digitValue? c).isSome then none
  else some (Decimal.digitsValue (cs.map Text.plainForm))

end Template

/-- How the fields of a template have named positions so far. -/
inductive Numbering where
  | open_
  /-- In order, with the next one. -/
  | automatic (next : Nat)
  | manual

/-- **What fields take their values from**: values by position, and a mapping. -/
structure FieldSource where
  positional : Option (List Value)
  keyed : Value

namespace Run

/-- The position that the first part of a field names, if it names one. -/
def fieldPosition (first : List Char) (numbering : Numbering) : Run (Option Nat × Numbering) := do
  match Template.number? first, first.isEmpty, numbering with
  | _, true, .open_ => return (some 0, .automatic 1)
  | _, true, .automatic n => return (some n, .automatic (n + 1))
  | _, true, .manual => throw .badValue
  | some _, false, .automatic _ => throw .badValue
  | some n, false, _ => if Word.fits 63 n then return (some n, .manual) else throw .badValue
  | none, false, numbering => return (none, numbering)

/-- The element of a value that a field names: by position where its key is a number. -/
def fieldElement (v : Value) (key : List Char) : Run Value := do
  match Template.number? key with
  | some n => if Word.fits 63 n then subscript v (.ofInt n) else throw .badValue
  | none => subscript v (.ofText (String.ofList key))

/-- Goes on from a value by the steps of a field. -/
def fieldStep (v : Value) (step : Option Template.Step) : Run Value := do
  match step with
  | none => throw .badValue
  | some (.attribute name) => invoke (.builtin .getattr) [v, .ofText (String.ofList name)]
  | some (.element key) => fieldElement v key

/-- **The value that a field names.** -/
def fieldValue (source : FieldSource) (name : List Char) (numbering : Numbering) :
    Run (Value × Numbering) := do
  let isInner (c : Char) : Bool := c ≠ '.' && c ≠ '['
  let first := name.takeWhile isInner
  let (position, numbering) ← fieldPosition first numbering
  let v ←
    match position, source.positional with
    | some n, some vs =>
      match vs[n]? with
      | some v => pure v
      | none => throw .outOfRange
    | some _, none => throw .badValue
    | none, _ => subscript source.keyed (.ofText (String.ofList first))
  let v ← (Template.steps name.length (name.dropWhile isInner)).foldlM fieldStep v
  return (v, numbering)

/-- A value converted before it is written. -/
def converted (conversion : Option Char) (v : Value) : Run Value := do
  match conversion with
  | none => return v
  | some 'r' => return .ofText (← literal v)
  | some 's' => return .ofText (← plainText v)
  | some 'a' => return .ofText (String.ofList (← plainLiteral v))
  | some _ => throw .badValue

/-- Fills fields whose specifications hold fields at most so deep. -/
def fillFields (source : FieldSource) :
    Nat → List Char → Numbering → Run (List Char × Numbering)
  | 0, _, _ => throw .badValue
  | depth + 1, cs, numbering => do
    (Template.pieces cs.length cs).foldlM (fun (written, numbering) piece => do
      match piece with
      | none => throw .badValue
      | some (.plain cs) => return (written ++ cs, numbering)
      | some (.field f) => do
        let (v, numbering) ← fieldValue source f.name numbering
        let v ← converted f.conversion v
        let (spec, numbering) ←
          if f.isNested then fillFields source depth f.spec numbering else pure (f.spec, numbering)
        let text ← formattedAs v (String.ofList spec)
        return (written ++ text.toList, numbering)) ([], numbering)

/-- **A template with its fields filled in.** -/
def filledTemplate (source : FieldSource) (cs : List Char) : Run Value := do
  return .ofText (String.ofList (← fillFields source 2 cs .open_).1)

end Run

end Narrowing
