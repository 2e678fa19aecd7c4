import Narrowing.Value.Key
/-!
# Iterators

Going through a container makes an **iterator**, which gives one item after another. An
iterator over a container that can change looks at it anew for each item, so it gives
what was added meanwhile, and refuses to go on over one that must keep its size. Once an
iterator has nothing more to give it stays so.

A class made by code says by a member how its objects are gone through, and they may
also be subscripted by one number after another.
-/

namespace Narrowing

open Code

namespace Run

/-- How many rounds anything without a bound of its own may take. -/
def greatestRounds : Nat := 1000000000

/-- The iteration over a container of the language. -/
def iteration? (σ : Store) (v : Value) : Option Iteration :=
  match v with
  | .range start stop step _ => some (.numbers start step (rangeSize start stop step))
  | .str .. | .bytes .. | .tuple .. | .frozenset .. | .types _ =>
    (σ.items? v).map fun items => .items items (σ.iteratorClass v)
  | v =>
    match σ.cell? v with
    | some (.list _) | some (.userList _) | some (.array ..) | some (.bytearray _)
    | some (.vector _ (_ :: _) _) => some (.at_ v 0)
    | some (.deque items _) => some (.entries v .keys 0 items.length)
    | some (.set s) => some (.entries v .keys 0 s.items.length)
    | some (.dict entries) => some (.entries v .keys 0 entries.length)
    | some (.view kind d) => (σ.entries? d).map fun entries => .entries d kind 0 entries.length
    | _ => none

/-- Whether a value is an iterator. -/
def isIterator (v : Value) : Run Bool := do
  match ← cell? v with
  | some (.iterator _) => return true
  | some (.activation f ..) => return !f.isAwaited
  | some (.object ..) => return ((← read).special? v "__next__").isSome
  | _ => return false

/-- **The iterator over a value.** -/
def iterator (v : Value) : Run Value := do
  let σ ← read
  match σ.cell? v with
  | some (.iterator _) => return v
  | some (.activation f _ _) => if f.isAwaited then throw .wrongType else return v
  | _ =>
    match ← callSpecial? v "__iter__" [] with
    | some i => if ← isIterator i then return i else throw .wrongType
    | none =>
      match iteration? σ (σ.content v) with
      | some i => alloc (.iterator i)
      | none =>
        if (σ.special? v "__getitem__").isSome then alloc (.iterator (.subscripts v 0))
        else throw .wrongType

/-- The end of an iterator. -/
def finish (r : Ref) (i : Iteration) : Run (Option Value) := do
  update r (.iterator (.items [] ((← read).iterationClass i)))
  return none

/-- The item of a container at a position. -/
def itemOf (container : Value) (index : Nat) : Run (Option Value) := do
  let σ ← read
  match σ.cell? container, σ.vector? container with
  | some (.bytearray bs), _ => return bs[index]?.map fun (b : Nat) => .ofInt b
  | _, some a => return (← rows container.place? a)[index]?
  | _, none => return (σ.items? container).bind fun items => items[index]?

/-- The entries of a container that must keep its size. -/
def entriesOf (container : Value) (kind : ViewKind) : Run (List Value) := do
  let σ ← read
  match σ.cell? container with
  | some (.dict entries) => return Store.viewItems kind entries
  | _ => return (σ.items? container).getD []

/-- An item of each of several iterators, if all have one. -/
def nextOfEach (next : Value → Run (Option Value)) : List Value → Run (Option (List Value))
  | [] => return some []
  | i :: is => do
    match ← next i with
    | none => return none
    | some v =>
      match ← nextOfEach next is with
      | none => return none
      | some vs => return some (v :: vs)

/-- The next item that a function accepts; the null value accepts what counts as
true. -/
def nextAccepted (next : Value → Run (Option Value)) (function inner : Value) :
    Nat → Run (Option Value)
  | 0 => throw .outOfRoom
  | rounds + 1 => do
    match ← next inner with
    | none => return none
    | some v =>
      let verdict ←
        match function with
        | .none => pure v
        | function => invoke function [v]
      if ← isTrue verdict then return some v else nextAccepted next function inner rounds

/-- The next item of an iterator at a place, by how it goes on; other iterators go on in
a given way. -/
def nextOf (next : Value → Run (Option Value)) (r : Ref) (i : Iteration) : Run (Option Value) := do
  match i with
  | .items [] _ => return none
  | .items (v :: rest) name => do
    update r (.iterator (.items rest name))
    return some v
  | .at_ container index => do
    update r (.iterator (.at_ container (index + 1)))
    itemOf container index
  | .before _ 0 => return none
  | .before container (index + 1) => do
    update r (.iterator (.before container index))
    itemOf container index
  | .entries container kind index size => do
    let now ← entriesOf container kind
    if now.length ≠ size then throw .badState
    update r (.iterator (.entries container kind (index + 1) size))
    return now[index]?
  | .numbers _ _ 0 => return none
  | .numbers n step (left + 1) => do
    update r (.iterator (.numbers (n + step) step left))
    return some (.ofInt n)
  | .subscripts container index => do
    update r (.iterator (.subscripts container (index + 1)))
    match (← read).special? container "__getitem__" with
    | some member =>
      orNone (callMember container member [.ofInt index]) fun f =>
        f.isA "IndexError" || f.isA "StopIteration"
    | none => throw .wrongType
  | .counted inner index => do
    update r (.iterator (.counted inner (index + 1)))
    match ← next inner with
    | some v => return some (.ofTuple [← tellApart (.ofInt index), v])
    | none => return none
  | .together iterators => do
    if iterators.isEmpty then return none
    return (← nextOfEach next iterators).map .ofTuple
  | .mapped function iterators => do
    match ← nextOfEach next iterators with
    | some args => return some (← invoke function args)
    | none => return none
  | .accepted function inner => nextAccepted next function inner greatestRounds
  | .calls function sentinel => do
    match ← orNone (invoke function []) fun f => f.isA "StopIteration" with
    | none => return none
    | some v => if ← isTrue (← compare .eq sentinel v) then return none else return some v

/-- The next item of an iterator that goes on by others at most so deep. -/
def nextWithin : Nat → Value → Run (Option Value)
  | 0, _ => throw .tooDeep
  | depth + 1, v => do
    match v, ← cell? v with
    | .ref r, some (.iterator i) =>
      match ← nextOf (nextWithin depth) r i with
      | some w => return some (← tellApart w)
      | none => finish r i
    | .ref r, some (.activation ..) =>
      orNone (ask (.resume r (.ok .none))) fun f => f.isA "StopIteration"
    | _, some (.object ..) =>
      match (← read).special? v "__next__" with
      | some member => orNone (callMember v member []) fun f => f.isA "StopIteration"
      | none => throw .wrongType
    | _, _ => throw .wrongType

/-- **The next item of an iterator**, if there is one. -/
def next? (v : Value) : Run (Option Value) := nextWithin greatestDepth v

/-- All that an iterator gives, in at most so many rounds, after what it gave. -/
def drain (i : Value) : Nat → List Value → Run (List Value)
  | 0, _ => throw .outOfRoom
  | rounds + 1, given => do
    match ← next? i with
    | none => return given.reverse
    | some v => drain i rounds (v :: given)

/-- **The items of a value**, which uses up an iterator. -/
def items (v : Value) : Run (List Value) := do
  let σ ← read
  if (σ.special? v "__iter__").isSome then drain (← iterator v) greatestRounds []
  else
    match σ.items? v with
    | none => drain (← iterator v) greatestRounds []
    | some items =>
      match v, σ.cell? v with
      | .ref r, some (.iterator i) => update r (.iterator (.items [] (σ.iterationClass i)))
      | _, _ => pure ()
      items.mapM tellApart

/-! ## Being among the items -/

/-- Whether a text stands somewhere in another, both as characters. -/
def occursIn {α : Type} [BEq α] (s : List α) : List α → Bool
  | [] => s.isEmpty
  | c :: cs => s.isPrefixOf (c :: cs) || occursIn s cs

/-- Whether a byte, or a byte string, stands somewhere in a byte string. -/
def amongBytes (bs : List Nat) (v : Value) : Run Bool := do
  match ← index? v with
  | some i => if 0 ≤ i && i < 256 then return bs.contains i.toNat else throw .badValue
  | none =>
    match (← read).memory? v with
    | some cs => return occursIn cs bs
    | none => throw .wrongType

/-- Whether a value is among what an iterator gives, which goes on up to it. -/
def amongGiven (i v : Value) : Nat → Run Bool
  | 0 => throw .outOfRoom
  | rounds + 1 => do
    match ← next? i with
    | none => return false
    | some w => if ← isSame w v then return true else amongGiven i v rounds

/-- A set that is looked for among keys counts as one that never changes. -/
def asKey (v : Value) : Run Value := do
  match ← cell? ((← read).content v) with
  | some (.set s) => return .ofFrozenset s
  | _ => return v

/-- Whether a value is among the numbers of a range. -/
def amongNumbers (start stop step : Int) (v : Value) : Run Bool := do
  match v with
  | .int i _ => return isNumber i
  | .bool b => return isNumber (if b then 1 else 0)
  | v => among v (Value.ofRange start stop step)
where
  /-- Whether an integer is one of the numbers. -/
  isNumber (i : Int) : Bool :=
    (i - start) % step = 0 && (if step > 0 then start ≤ i && i < stop else stop < i && i ≤ start)

/-- **Whether a value is among the items of a container.** -/
def contains (container v : Value) : Run Bool := do
  let σ ← read
  match σ.special? container "__contains__" with
  | some member => isTrue (← callMember container member [v])
  | none =>
    if (σ.special? container "__iter__").isSome then
      amongGiven (← iterator container) v greatestRounds
    else
      match σ.content container with
      | .str s _ =>
        match σ.text? v with
        | some t => return occursIn t.toList s.toList
        | none => throw .wrongType
      | .bytes bs _ => amongBytes bs v
      | .frozenset items .. => amongKeys items (← asKey v)
      | .range start stop step _ => amongNumbers start stop step v
      | c =>
        match σ.cell? c with
        | some (.set s) => amongKeys s.items (← asKey v)
        | some (.dict entries) => amongKeys (entries.map Prod.fst) v
        | some (.view .keys d) => amongKeys (((σ.entries? d).getD []).map Prod.fst) v
        | some (.bytearray bs) => amongBytes bs v
        | some (.vector ..) => do
          let equal ← ofExcept (σ.vectorComparison .eq c v)
          return equal.items.any fun
            | .machineBool b => b
            | _ => false
        | _ => amongGiven (← iterator container) v greatestRounds

end Run

end Narrowing
