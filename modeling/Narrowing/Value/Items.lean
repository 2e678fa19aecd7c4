import Narrowing.Value.Membership
/-!
# Items of values

What the containers of the language hold, in the order in which they are gone through:
characters, bytes, numbers of a range, keys of a dictionary, and the entries of any
container. An iterator over a list of items holds those that it has not given yet.
-/

namespace Narrowing

namespace Value

/-- The characters of a text, as texts. -/
def ofChars (s : String) : List Value := s.toList.map fun c => ofText (String.singleton c)

/-- Bytes as integers. -/
def ofBytes (bs : List Nat) : List Value := bs.map fun (b : Nat) => ofInt b

/-- The numbers of a range. -/
def ofRange (start stop step : Int) : List Value :=
  (List.range (rangeSize start stop step)).map fun (k : Nat) => ofInt (start + step * k)

end Value

namespace Store

/-- What a dictionary shows of its entries. -/
def viewItems (kind : ViewKind) (entries : List (Value × Value)) : List Value :=
  entries.map fun (k, v) =>
    match kind with
    | .keys => k
    | .values => v
    | .items => .ofTuple [k, v]

/-- The entries of a dictionary. -/
def entries? (σ : Store) (v : Value) : Option (List (Value × Value)) :=
  match σ.cell? (σ.content v) with
  | some (.dict entries) => some entries
  | _ => none

/-- **The items of a value in order**, if it is a container of the language, or an
iterator over a list of items. -/
def items? (σ : Store) (v : Value) : Option (List Value) :=
  match σ.content v with
  | .str s _ => some (Value.ofChars s)
  | .bytes bs _ => some (Value.ofBytes bs)
  | .tuple items _ | .frozenset items .. => some items
  | .range start stop step _ => some (Value.ofRange start stop step)
  | .types ds => some (ds.map fun d => .types [d])
  | v =>
    match σ.cell? v with
    | some (.list items) | some (.userList items) | some (.deque items _)
    | some (.array _ items) | some (.vector _ [_] items) | some (.iterator (.items items _)) =>
      some items
    | some (.set s) => some s.items
    | some (.bytearray bs) => some (Value.ofBytes bs)
    | some (.dict entries) => some (viewItems .keys entries)
    | some (.view kind d) => (σ.entries? d).map (viewItems kind)
    | _ => none

/-- The bytes of a byte string. -/
def bytes? (σ : Store) (v : Value) : Option (List Nat) :=
  match σ.content v with
  | .bytes bs _ => some bs
  | v =>
    match σ.cell? v with
    | some (.bytearray bs) => some bs
    | _ => none

/-- The text that a value is. -/
def text? (σ : Store) (v : Value) : Option String :=
  match σ.content v with
  | .str s _ => some s
  | _ => none

end Store

end Narrowing
