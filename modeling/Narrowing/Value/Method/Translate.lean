import Narrowing.Value.Method.Text
import Narrowing.Value.Template
/-!
# Tables and hexadecimal text

A text is **translated** by a table that says for each character by which text, or by the
number of which character, it is replaced, or that it is left out; a character that the
table does not know stays. Byte strings have tables of two hundred and fifty-six bytes.

A template takes its values from the arguments of a call, or from a mapping.

Bytes are also spelled by two hexadecimal digits each, in groups with a separator between
them.
-/

namespace Narrowing.Run

/-! ## Tables -/

/-- The entry of a table of characters for a key and what stands for it. -/
def tableEntry (entry : Value × Value) : Run (Value × Value) := do
  let (k, v) := entry
  match (← read).wholeNumber? k, (← read).text? k with
  | some _, _ => return (k, v)
  | none, some s =>
    match s.toList with
    | [c] => return (.ofInt c.toNat, v)
    | _ => throw .badValue
  | none, none => throw .wrongType

/-- **A table of characters**, from a dictionary, or from two texts of one size and one of
those that are left out. -/
def newTable (args : List Value) : Run Value := do
  let chars (v : Value) : Run (List Value) := do
    return (← characters .text v).map fun c => Value.ofInt c.toNat
  let dict (entries : List (Value × Value)) : Run Value := do
    alloc (.dict (← distinctEntries entries))
  let table (old new : Value) (gone : List Value) : Run Value := do
    let new ← chars new
    let old ← chars old
    if old.length ≠ new.length then throw .badValue
    dict (old.zip new ++ gone.map fun c => (c, .none))
  match args with
  | [v] =>
    match ← cell? v with
    | some (.dict entries) => do dict (← entries.mapM tableEntry)
    | _ => throw .wrongType
  | [old, new] => table old new []
  | [old, new, gone] => do
    let gone ← chars gone
    table old new gone
  | _ => throw .wrongType

/-- What a table says of a character. -/
def translatedCharacter (table : Value) (c : Char) : Run (List Char) := do
  match ← orNone (subscript table (.ofInt c.toNat)) fun f => f.isA "LookupError" with
  | none => return [c]
  | some .none => return []
  | some v =>
    match (← read).wholeNumber? v, (← read).text? v with
    | some i, _ =>
      if i < 0 || 0x110000 ≤ i then throw .badValue
      else if i.toNat.isValidChar then return [Char.ofNat i.toNat]
      else throw .unsupported
    | none, some s => return s.toList
    | none, none => throw .wrongType

/-- **A text translated by a table.** -/
def translated (cs : List Char) (table : Value) : Run (List Char) := do
  return (← cs.mapM (translatedCharacter table)).flatten

/-- **A table of bytes**, from two byte strings of one size. -/
def newByteTable (args : List Value) : Run Value := do
  match args with
  | [old, new] => do
    let old ← characters .bytes old
    let new ← characters .bytes new
    if old.length ≠ new.length then throw .badValue
    let put (table : List Nat) (e : Char × Char) : List Nat := table.set e.1.toNat e.2.toNat
    return .ofByteList ((old.zip new).foldl put (List.range 256))
  | _ => throw .wrongType

/-- **Bytes translated by a table**, without some that are left out. -/
def translatedBytes (cs : List Char) (table : Value) (gone : Option Value) : Run (List Char) := do
  let table ←
    match table with
    | .none => pure none
    | v => some <$> characters .bytes v
  if table.any (·.length ≠ 256) then throw .badValue
  let gone ←
    match gone with
    | some v => characters .bytes v
    | none => pure []
  return (cs.filter (!gone.contains ·)).map fun c => ((table.bind (·[c.toNat]?)).getD c)

/-! ## Hexadecimal text -/

/-- Items in groups of a size; a size below zero counts from the front, another from the
end. -/
def grouped {α : Type} (size : Int) (items : List α) : List (List α) :=
  let n := size.natAbs
  let count := if n = 0 then 0 else (items.length + n - 1) / n
  if size < 0 then pieces n count items
  else ((pieces n count items.reverse).map List.reverse).reverse

/-- The character that separates groups. -/
def groupSeparator (v : Value) : Run Char := do
  let cs ←
    match ← characters? .text v, (← read).content v with
    | some cs, _ => pure cs
    | none, .bytes bs _ => pure (bs.map Char.ofNat)
    | none, _ => do
      if (← length v) = 1 then throw .wrongType else throw .badValue
  match cs with
  | [c] => if c.toNat < 128 then return c else throw .badValue
  | _ => throw .badValue

/-- **Bytes spelled in hexadecimal digits**, in groups if a separator is given. -/
def hexSpelled (cs : List Char) (separator size : Option Value) : Run Value := do
  let size ←
    match size with
    | some v => shortWord v
    | none => pure 1
  let digits := cs.map fun c => Text.hexDigits 2 c.toNat
  match separator with
  | none => return .ofText (String.ofList digits.flatten)
  | some v => do
    let c ← groupSeparator v
    if size = 0 then return .ofText (String.ofList digits.flatten)
    else
      return .ofText (String.ofList ([c].intercalate ((grouped size digits).map List.flatten)))

/-- The bytes that hexadecimal digits spell, two each, where blanks may stand between
them. -/
def hexBytes? : Nat → List Char → Option (List Nat)
  | 0, _ => none
  | steps + 1, cs =>
    match cs.dropWhile Text.isPlainBlank with
    | [] => some []
    | [_] => none
    | c :: d :: cs => do
      let a ← Text.alphanumericValue? c
      let b ← Text.alphanumericValue? d
      if a < 16 && b < 16 then return (16 * a + b) :: (← hexBytes? steps cs) else none

/-- **The bytes that a text spells** in hexadecimal digits. -/
def hexUnspelled (v : Value) : Run (List Nat) := do
  let cs ← characters .text v
  match hexBytes? (cs.length + 1) cs with
  | some bs => return bs
  | none => throw .badValue

/-! ## Methods -/

/-- **A method of a text or a byte string**, with those that go by tables and digits. -/
def spellingMethod (s : Script) (self : Value) (cs : List Char) (name : String) (args : List Value)
    (keywords : List (String × Value)) : Run Value := do
  match name, s, args with
  | "translate", .text, [table] => do
    if !keywords.isEmpty then throw .wrongType
    written s (← translated cs table)
  | "translate", .text, _ => throw .wrongType
  | "translate", _, args =>
    match ← byParameter ["", "delete"] args keywords with
    | [some table, gone] => do written s (← translatedBytes cs table gone)
    | _ => throw .wrongType
  | "format", .text, args => do
    let named := keywords.map fun (k, v) => (Value.ofName k, v)
    filledTemplate ⟨some args, ← alloc (.dict named)⟩ cs
  | "format_map", .text, [mapping] => filledTemplate ⟨none, mapping⟩ cs
  | "hex", .text, _ => throw .wrongType
  | "hex", _, args =>
    match ← byParameter ["sep", "bytes_per_sep"] args keywords with
    | [separator, size] => hexSpelled cs separator size
    | _ => throw .wrongType
  | _, _, args => textMethod s self cs name args keywords

end Narrowing.Run
