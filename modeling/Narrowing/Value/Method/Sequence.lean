import Narrowing.Value.Construct
import Narrowing.Value.Sorting
/-!
# Methods of sequences

What sequences do by methods. Those that can change all work on a list of items, which
some of them hold in a form of their own: bytes are integers in their range, and an
array holds what its type code has room for. So each method is said once, of the items
and of a way to put others in their place.
-/

namespace Narrowing

/-- **A sequence that can change.** -/
structure Mutable where
  items : List Value
  /-- Puts other items in place. -/
  replace : List Value → Run Unit
  /-- What the sequence holds for a value. -/
  accept : Value → Run Value

namespace Run

/-- The byte that an item of bytes is. -/
def byteValue : Value → Nat
  | .int i _ => i.toNat
  | _ => 0

/-- **The sequence that a value is**, if it can change. -/
def mutable? (v : Value) : Run (Option Mutable) := do
  let σ ← read
  match σ.content v with
  | .ref r =>
    match σ.shown? r with
    | some (.list items) => return some ⟨items, fun vs => update r (.list vs), pure⟩
    | some (.userList items) => return some ⟨items, fun vs => update r (.userList vs), pure⟩
    | some (.deque items limit) =>
      return some ⟨items, fun vs => update r (.deque (lastOf limit vs) limit), pure⟩
    | some (.array code items) =>
      return some ⟨items, fun vs => update r (.array code vs), arrayItem code⟩
    | some (.bytearray bs) =>
      return some ⟨Value.ofBytes bs, fun vs => update r (.bytearray (vs.map byteValue)),
        fun v => do return .ofInt (← byteOf v)⟩
    | _ => return none
  | _ => return none

/-! ## Looking for items -/

/-- How many of some values are one with or equal to a value. -/
def countOf (v : Value) : List Value → Run Nat
  | [] => return 0
  | w :: ws => do
    let here ← isSame w v
    return (← countOf v ws) + if here then 1 else 0

/-- The position of the first value that is one with or equal to a value. -/
def firstPlace? (v : Value) : List Value → Run (Option Nat)
  | [] => return none
  | w :: ws => do
    if ← isSame w v then return some 0 else return (← firstPlace? v ws).map (· + 1)

/-- An end of a range of positions among so many, where a position from the end may lie
before the start. -/
def boundedEnd (size : Nat) (i : Int) : Nat :=
  let i := if i < 0 then i + size else i
  min (if i < 0 then 0 else i.toNat) size

/-- Where to look for something: between two ends, if they are given. -/
def searchRange (size : Nat) (ends : List Value) : Run (Nat × Nat) := do
  match ends with
  | [] => return (0, size)
  | [start] => return (boundedEnd size (← index start), size)
  | [start, stop] => do
    let start ← index start
    let stop ← index stop
    return (boundedEnd size start, boundedEnd size stop)
  | _ => throw .wrongType

/-- **The position of a value** between two ends. -/
def indexOf (items : List Value) (v : Value) (ends : List Value) : Run Value := do
  let (low, high) ← searchRange items.length ends
  match ← firstPlace? v ((items.take high).drop low) with
  | some k => return .ofInt (low + k)
  | none => throw .badValue

/-! ## Changing a sequence -/

/-- Takes the item at a position out. -/
def popFrom (m : Mutable) (i : Int) : Run Value := do
  let j := if i < 0 then i + m.items.length else i
  match if j < 0 then none else m.items[j.toNat]? with
  | some v => do
    m.replace (m.items.eraseIdx j.toNat)
    return v
  | none => throw .outOfRange

/-- The items that a sequence takes over from a value. -/
def takenOver (m : Mutable) (v : Value) : Run (List Value) := do (← items v).mapM m.accept

/-- A value put in before a position. -/
def insertedAt (items : List Value) (i : Int) (v : Value) : List Value :=
  let k := boundedEnd items.length i
  items.take k ++ v :: items.drop k

/-- Items moved on by so many places, the last ones to the front. -/
def rotated (items : List Value) (n : Int) : List Value :=
  if items.isEmpty then items
  else
    let k := (n % items.length).toNat
    items.drop (items.length - k) ++ items.take (items.length - k)

/-- The key and the direction of an order. -/
def orderOf (keywords : List (String × Value)) : Run (Option Value × Bool) := do
  match ← byParameter ["key", "reverse"] [] keywords with
  | [key, direction] => do
    let isReversed ←
      match direction with
      | some d => (· != 0) <$> index d
      | none => pure false
    return (key.bind fun v => match v with | .none => none | v => some v, isReversed)
  | _ => throw .wrongType

/-- **A method that all sequences have that can change.** -/
def mutableMethod (self : Value) (m : Mutable) (name : String) (args : List Value)
    (keywords : List (String × Value)) : Run Value := do
  match name, args with
  | "append", [v] => do
    m.replace (m.items ++ [← m.accept v])
    return .none
  | "extend", [v] => do
    let new ← takenOver m v
    match ← mutable? self with
    | some m => m.replace (m.items ++ new)
    | none => pure ()
    return .none
  | "insert", [i, v] => do
    let i ← word i
    m.replace (insertedAt m.items i (← m.accept v))
    return .none
  | "remove", [v] => do
    match ← firstPlace? v m.items with
    | some k => do
      m.replace (m.items.eraseIdx k)
      return .none
    | none => throw .badValue
  | "pop", [] => popFrom m (-1)
  | "pop", [i] => do popFrom m (← word i)
  | "clear", [] => do
    m.replace []
    return .none
  | "reverse", [] => do
    m.replace m.items.reverse
    return .none
  | "sort", [] => do
    let (key, isReversed) ← orderOf keywords
    m.replace (← sortedByKey key isReversed m.items)
    return .none
  | "copy", [] => do
    match self, ← cell? ((← read).content self) with
    | _, some (.list items) => alloc (.list items)
    | v, some (.userList items) => rebuilt v items .userList
    | v, some (.deque items limit) => rebuiltQueue v items limit
    | _, some (.bytearray bs) => alloc (.bytearray bs)
    | _, some (.array code items) => alloc (.array code items)
    | _, _ => throw .wrongType
  | "count", [v] => return .ofInt (← countOf v m.items)
  | "index", v :: ends => indexOf m.items v ends
  | _, _ => throw .wrongType

/-- A method of a queue with two ends that other sequences lack. -/
def dequeMethod (m : Mutable) (limit : Option Nat) (name : String) (args : List Value) :
    Run (Option Value) := do
  let firstOf (vs : List Value) : List Value := limit.elim vs vs.take
  match name, args with
  | "appendleft", [v] => do
    m.replace (firstOf (v :: m.items))
    return some .none
  | "extendleft", [v] => do
    m.replace (firstOf ((← items v).reverse ++ m.items))
    return some .none
  | "insert", [_, _] => if limit = some m.items.length then throw .outOfRange else return none
  | "popleft", [] => some <$> popFrom m 0
  | "rotate", [] => do
    m.replace (rotated m.items 1)
    return some .none
  | "rotate", [n] => do
    m.replace (rotated m.items (← word n))
    return some .none
  | "pop", _ :: _ => throw .wrongType
  | _, _ => return none

/-- A method of an array that other sequences lack. -/
def arrayMethod (code : String) (self : Value) (m : Mutable) (name : String) (args : List Value) :
    Run (Option Value) := do
  match name, args with
  | "tolist", [] => do return some (← alloc (.list m.items))
  | "fromlist", [v] => do
    match ← cell? ((← read).content v) with
    | some (.list items) => do
      m.replace (m.items ++ (← items.mapM m.accept))
      return some .none
    | _ => throw .wrongType
  | "tobytes", [] =>
    match (← read).memory? self with
    | some bs => return some (.ofByteList bs)
    | none => throw .wrongType
  | "frombytes", [v] =>
    match (← read).text? v, (← read).memory? v with
    | none, some bs => do
      m.replace (m.items ++ (← itemsOfBytes code bs))
      return some .none
    | _, _ => throw .wrongType
  | "byteswap", [] => do
    match (← read).memory? self with
    | some bs => do
      let size := Store.itemBytes code
      let turned := (pieces size (bs.length / size) bs).flatMap List.reverse
      m.replace (← itemsOfBytes code turned)
      return some .none
    | none => throw .wrongType
  | "tounicode", [] =>
    if code ≠ "u" then throw .badValue
    else do
      let σ ← read
      return some (.ofText (String.join (m.items.map fun v => (σ.text? v).getD "")))
  | "fromunicode", [v] => do
    if code ≠ "u" then throw .badValue
    match (← read).text? v with
    | some s => do
      m.replace (m.items ++ Value.ofChars s)
      return some .none
    | none => throw .wrongType
  | "extend", [v] => do
    match ← cell? ((← read).content v) with
    | some (.array other _) => if other = code then return none else throw .wrongType
    | _ => return none
  | _, _ => return none

/-- **A method of a sequence that can change.** -/
def sequenceMethod (self : Value) (m : Mutable) (name : String) (args : List Value)
    (keywords : List (String × Value)) : Run Value := do
  if !keywords.isEmpty && name ≠ "sort" then throw .wrongType
  let own ←
    match ← cell? ((← read).content self) with
    | some (.deque _ limit) => dequeMethod m limit name args
    | some (.bytearray _) =>
      if name = "remove" && args.length = 1 then args.forM fun v => do let _ ← byteOf v
      pure none
    | some (.array code _) => arrayMethod code self m name args
    | _ => pure none
  match own with
  | some v => return v
  | none => mutableMethod self m name args keywords

/-- The methods of a sequence that never changes. -/
def fixedMethod (items : List Value) (name : String) (args : List Value) : Run Value := do
  match name, args with
  | "count", [v] => return .ofInt (← countOf v items)
  | "index", v :: ends => indexOf items v ends
  | _, _ => throw .wrongType

end Run

end Narrowing
