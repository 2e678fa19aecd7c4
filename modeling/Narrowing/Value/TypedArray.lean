import Narrowing.Value.Convert
import Narrowing.Value.Element
/-!
# Arrays with a type code

The type code of an array says what its items are: words of some size, doubles of one of two
sizes, or characters. Whatever is put into the array becomes such an item first, and the bytes
of whole items can be read as items again.
-/

namespace Narrowing

/-- The bits of the words that an array of a type code holds, and whether one of
them is a sign. -/
def wordsOfArray (code : String) : Option (Nat × Bool) :=
  [("b", 7, true), ("h", 15, true), ("i", 31, true), ("l", 63, true), ("q", 63, true),
    ("B", 8, false), ("H", 16, false), ("I", 32, false), ("L", 64, false),
    ("Q", 64, false)].lookup code

namespace Run

/-- **What an array of a type code holds for a value**: a word or a double. -/
def arrayItem (code : String) (v : Value) : Run Value := do
  match code, wordsOfArray code with
  | _, some (bits, hasSign) => do
    let i ← index v
    if Word.fits bits i && (hasSign || 0 ≤ i) then return .ofInt i else throw .tooLarge
  | "d", none => do
    match ← numberToDouble? v with
    | some x => return .ofFloat x
    | none => throw .wrongType
  | "f", none => do
    match ← numberToDouble? v with
    | some x => return .ofFloat x.toFloat32.toFloat
    | none => throw .wrongType
  | "u", none =>
    match (← read).text? v with
    | some s => if s.length = 1 then return .ofText s else throw .wrongType
    | none => throw .wrongType
  | _, none => throw .unsupported

/-- The integer of some bytes, the least first. -/
def unsignedOf (bs : List Nat) : Nat := bs.reverse.foldl (fun n b => 256 * n + b) 0

/-- What an array of a type code holds for the bytes of an item. -/
def itemOfBytes (code : String) (bs : List Nat) : Run Value := do
  let n := unsignedOf bs
  match code, wordsOfArray code with
  | _, some (bits, hasSign) =>
    return .ofInt (if hasSign then Word.wrap bits n else n)
  | "d", none => return .ofFloat (Float.ofBits (UInt64.ofNat n))
  | "f", none => return .ofFloat (Float32.ofBits (UInt32.ofNat n)).toFloat
  | "u", none =>
    if n.isValidChar then return .ofText (String.singleton (Char.ofNat n)) else throw .badValue
  | _, none => throw .unsupported

/-- **What an array of a type code holds for bytes**, which have to be those of whole
items. -/
def itemsOfBytes (code : String) (bs : List Nat) : Run (List Value) := do
  let size := Store.itemBytes code
  if bs.length % size ≠ 0 then throw .badValue
  (pieces size (bs.length / size) bs).mapM (itemOfBytes code)

/-- Whether there are arrays of a type code. -/
def isTypeCode (code : String) : Bool := (wordsOfArray code).isSome || ["f", "d", "u"].contains code

/-- **The array of a type code** that holds the given items. -/
def newArray (code : String) (items : List Value) : Run Value := do
  alloc (.array code (← items.mapM (arrayItem code)))

/-- **The array of a call of its class**: with the items of a value, which byte strings give
as they are in memory. -/
def newTypedArray (args : List Value) : Run Value := do
  let σ ← read
  let (code, source) ←
    match args with
    | [code] => pure (σ.text? code, none)
    | [code, source] => pure (σ.text? code, some source)
    | _ => throw .wrongType
  let code ←
    match code with
    | some s => if s.length = 1 then pure s else throw .wrongType
    | none => throw .wrongType
  let all : Run (List Value) :=
    match source with
    | none => return []
    | some v =>
      match σ.content v, σ.cell? (σ.content v) with
      | .str s _, _ => if code = "u" then return Value.ofChars s else throw .wrongType
      | .bytes bs _, _ | _, some (.bytearray bs) => itemsOfBytes code bs
      | _, some (.array "u" vs) => if code = "u" then return vs else throw .wrongType
      | _, _ => items v
  if !isTypeCode code then
    match source with
    | none => throw .badValue
    | some v => do
      if (σ.text? v).isSome then throw .wrongType
      let _ ← iterator v
      throw .badValue
  newArray code (← all)

end Run

end Narrowing
