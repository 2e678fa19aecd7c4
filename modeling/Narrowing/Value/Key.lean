import Narrowing.Value.Hash
/-!
# Keys

A dictionary finds its values and a set its items by keys: values with a hash, which are one
key if they are one value, or if their hashes and they are equal. The first of equal keys
stays. A set gives its items in the order of the slots in which it keeps them, and two sets go
together one item at a time, which settles the order of what they give.
-/

namespace Narrowing

open Code

namespace Run

/-! ## Finding keys -/

/-- **Refuses a value that can be no key**: its class says so, or one of its items is no
key. -/
def checkKey (v : Value) : Run Unit := do
  let _ ← hash v

/-- Whether the class of a value says when it is equal to others. -/
def saysEquality (σ : Store) (v : Value) : Bool := (σ.special? v "__eq__").isSome

/-- **Whether a key is one with another** of a hash. Only where code says what is equal may
equal values have different hashes. -/
def isSameKey (h : Int) (k key : Value) : Run Bool := do
  let σ ← read
  if k.identical key then return true
  else if saysEquality σ k || saysEquality σ key then
    if (← hash k) = h then isSame k key else return false
  else isSame k key

/-- The value of a key of a hash. -/
def entryAt? (h : Int) (key : Value) : List (Value × Value) → Run (Option Value)
  | [] => return none
  | (k, v) :: rest => do if ← isSameKey h k key then return some v else entryAt? h key rest

/-- **The value of a key** in a list of entries. -/
def entry? (key : Value) (entries : List (Value × Value)) : Run (Option Value) := do
  entryAt? (← hash key) key entries

/-- The position of a key of a hash among some. -/
def keyPlace? (h : Int) (key : Value) : List Value → Run (Option Nat)
  | [] => return none
  | k :: ks => do
    if ← isSameKey h k key then return some 0 else return (← keyPlace? h key ks).map (· + 1)

/-- Whether a value is among the keys. -/
def amongKeys (keys : List Value) (v : Value) : Run Bool := do
  return (← keyPlace? (← hash v) v keys).isSome

/-! ## Entries -/

/-- Puts a value at a key of a hash: a key that is there stays as it is. -/
def putEntry (h : Int) (key v : Value) : List (Value × Value) → Run (List (Value × Value))
  | [] => return [(key, v)]
  | (k, w) :: rest => do
    if ← isSameKey h k key then return (k, v) :: rest
    else return (k, w) :: (← putEntry h key v rest)

/-- Adds an entry to a dictionary. -/
def insertEntry (entries : List (Value × Value)) (entry : Value × Value) :
    Run (List (Value × Value)) := do
  putEntry (← hash entry.1) entry.1 entry.2 entries

/-- **The entries of a dictionary** that is made of some. -/
def distinctEntries (entries : List (Value × Value)) : Run (List (Value × Value)) :=
  entries.foldlM insertEntry []

/-! ## Items -/

/-- An item with its hash added to a set, if it is not there. -/
def addHashed (s : Slotted Value) (item : Value × Nat) : Run (Slotted Value) := do
  match ← keyPlace? (Hash.ofWord item.2) item.1 s.items with
  | some _ => return s
  | none => return s.added item.2 item.1

/-- A value added to a set, if it is not there. -/
def addItem (s : Slotted Value) (v : Value) : Run (Slotted Value) := do
  addHashed s (v, Hash.word (← hash v))

/-- An item with its hash taken out of a set, if it is there. -/
def dropHashed (s : Slotted Value) (item : Value × Nat) : Run (Slotted Value) := do
  match ← keyPlace? (Hash.ofWord item.2) item.1 s.items with
  | some n => return s.without n
  | none => return s

/-- **The set of some values.** -/
def slotted (vs : List Value) : Run (Slotted Value) := vs.foldlM addItem {}

/-- A set with all items of another one. -/
def mergedWith (s t : Slotted Value) : Run (Slotted Value) :=
  if t.items.isEmpty then return s
  else if s.slots.used = 0 then return { t.copied with slots := { t.copied.slots with next := s.slots.next } }
  else t.hashed.foldlM addHashed (s.roomier t.items.length)

end Run

/-! ## What goes together with a set -/

/-- **What a set goes together with.** -/
inductive Source where
  | set (s : Slotted Value)
  /-- The keys of a dictionary. -/
  | keys (ks : List Value)
  /-- Anything else that gives items. -/
  | items (vs : List Value)

namespace Source

/-- The items in order. -/
def toList : Source → List Value
  | set s => s.items
  | keys vs | items vs => vs

/-- How many items there are, where it is known beforehand. -/
def size? : Source → Option Nat
  | set s => some s.items.length
  | keys ks => some ks.length
  | items _ => none

end Source

namespace Run

/-- The items of a source with their hashes. -/
def hashedItems (t : Source) : Run (List (Value × Nat)) :=
  match t with
  | .set s => return s.hashed
  | .keys vs | .items vs => vs.mapM fun v => return (v, Hash.word (← hash v))

/-- **A set with all items of a source.** -/
def joinedTo (s : Slotted Value) (t : Source) : Run (Slotted Value) := do
  match t with
  | .set t => mergedWith s t
  | .keys ks => ks.foldlM addItem (s.roomier ks.length)
  | .items vs => vs.foldlM addItem s

/-- A set without the items of a source, one after another. -/
def deprived (s : Slotted Value) (t : Source) : Run (Slotted Value) := do
  return (← (← hashedItems t).foldlM dropHashed s).tidied

/-- The items among some that are in a set, or that are not. -/
def keptItems (isIn : Bool) (items : List (Value × Nat)) (others : List Value) :
    Run (Slotted Value) :=
  items.foldlM (fun s item => do
    let found ← keyPlace? (Hash.ofWord item.2) item.1 others
    if found.isSome = isIn then addHashed s item else return s) {}

/-- **The items that a set and a source have in common**: those of the smaller one, if both
are sets. -/
def commonItems (s : Slotted Value) (t : Source) : Run (Slotted Value) := do
  match t with
  | .set t =>
    if t.items.length > s.items.length then keptItems true s.hashed t.items
    else keptItems true t.hashed s.items
  | t => do keptItems true (← hashedItems t) s.items

/-- **The items of a set that a source lacks.** -/
def otherItems (s : Slotted Value) (t : Source) : Run (Slotted Value) := do
  match t.size? with
  | some n => if s.items.length / 4 > n then deprived s.copied t else keptItems false s.hashed t.toList
  | none => deprived s.copied t

/-- **A set in which the items of a source change sides.** -/
def turnedBy (s : Slotted Value) (t : Source) : Run (Slotted Value) := do
  let items ←
    match t with
    | .items vs => do pure (← slotted vs).hashed
    | t => hashedItems t
  items.foldlM (fun s item => do
    match ← keyPlace? (Hash.ofWord item.2) item.1 s.items with
    | some n => return s.without n
    | none => return s.added item.2 item.1) s

/-- **A set and a source under an operator**, as a new set. -/
def setWith? (op : BinaryOp) (s : Slotted Value) (t : Source) : Option (Run (Slotted Value)) :=
  match op with
  | .bitOr => some (joinedTo s.copied t)
  | .bitAnd => some (commonItems s t)
  | .sub => some (otherItems s t)
  | .bitXor => some (do turnedBy (← joinedTo {} t) (.set s))
  | _ => none

/-- **A set changed by a source under an operator.** -/
def setUpdate? (op : BinaryOp) (s : Slotted Value) (t : Source) : Option (Run (Slotted Value)) :=
  match op with
  | .bitOr => some (joinedTo s t)
  | .bitAnd => some do
    let r ← commonItems s t
    return { r with slots := { r.slots with next := s.slots.next } }
  | .sub => some (deprived s t)
  | .bitXor => some (turnedBy s t)
  | _ => none

end Run

end Narrowing
