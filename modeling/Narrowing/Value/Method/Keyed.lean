import Narrowing.Value.Method.Sequence
/-!
# Methods of dictionaries and sets

What dictionaries and sets do by methods. A dictionary shows its keys, its values and its
entries in views that follow its changes; a set goes together with anything that gives
items. A method that gives a set gives one of the kind of the set that it is asked of.
-/

namespace Narrowing.Run

/-! ## Dictionaries -/

/-- Whether a position is asked for at the end, which is where entries are taken from. -/
def lastAsked (keywords : List (String × Value)) (args : List Value) : Run Bool := do
  match ← byParameter ["last"] args keywords with
  | [some v] => isTrue v
  | _ => return true

/-- A method of a dictionary that keeps an order of its own. -/
def orderedMethod (r : Ref) (entries : List (Value × Value)) (name : String) (args : List Value)
    (keywords : List (String × Value)) : Run (Option Value) := do
  match name, args with
  | "popitem", args => do
    match ← lastAsked keywords args, entries.reverse, entries with
    | true, (k, v) :: front, _ => do
      update r (.dict front.reverse)
      return some (.ofTuple [k, v])
    | false, _, (k, v) :: rest => do
      update r (.dict rest)
      return some (.ofTuple [k, v])
    | _, _, _ => throw .missingKey
  | "move_to_end", key :: rest => do
    match ← removeEntry key entries with
    | none => throw .missingKey
    | some (v, others) => do
      update r (.dict (if ← lastAsked keywords rest then others ++ [(key, v)] else (key, v) :: others))
      return some .none
  | _, _ => return none

/-- **A method of a dictionary.** -/
def dictMethod (self : Value) (r : Ref) (entries : List (Value × Value)) (name : String)
    (args : List Value) (keywords : List (String × Value)) : Run Value := do
  let σ ← read
  if σ.isInstance self (.standard .orderedDict) then
    if let some v ← orderedMethod r entries name args keywords then return v
  if !keywords.isEmpty && name ≠ "update" then throw .wrongType
  match name, args with
  | "get", [key] | "get", [key, _] => do
    checkKey key
    return (← entry? key entries).getD ((args[1]?).getD .none)
  | "keys", [] => alloc (.view .keys (.ref r))
  | "values", [] => alloc (.view .values (.ref r))
  | "items", [] => alloc (.view .items (.ref r))
  | "pop", [key] | "pop", [key, _] => do
    if entries.isEmpty && !isOrdered σ self then
      match args[1]? with
      | some v => return v
      | none => throw .missingKey
    checkKey key
    match ← removeEntry key entries, args[1]? with
    | some (v, rest), _ => do
      update r (.dict rest)
      return v
    | none, some v => return v
    | none, none => throw .missingKey
  | "popitem", [] =>
    match entries.reverse with
    | (k, v) :: front => do
      update r (.dict front.reverse)
      return .ofTuple [k, v]
    | [] => throw .missingKey
  | "setdefault", [key] | "setdefault", [key, _] => do
    checkKey key
    let v := (args[1]?).getD .none
    match ← entry? key entries with
    | some w => return w
    | none => do
      update r (.dict (entries ++ [(key, v)]))
      return v
  | "update", _ => do
    let new ← newEntries args keywords
    update r (.dict (← new.foldlM insertEntry entries))
    return .none
  | "clear", [] => do
    update r (.dict [])
    return .none
  | "copy", [] => if isOrdered σ self then dictLike self entries else alloc (.dict entries)
  | _, _ => throw .wrongType

/-! ## Sets -/

/-- The operator that a method of a set goes by. -/
def setOperator? (name : String) : Option Code.BinaryOp :=
  match name with
  | "union" | "update" => some .bitOr
  | "intersection" | "intersection_update" => some .bitAnd
  | "difference" | "difference_update" => some .sub
  | "symmetric_difference" | "symmetric_difference_update" => some .bitXor
  | _ => none

/-- A set joined with several values in turn, as a new set. -/
def combined (op : Code.BinaryOp) (s : Slotted Value) (args : List Value) :
    Run (Slotted Value) := do
  match args with
  | [] => return s.copied
  | v :: vs => do
    let first ← (setWith? op s (← sourceOf v)).getD (return s)
    vs.foldlM (fun r v => do
      let t ← sourceOf v
      let next := if op = .bitAnd then setWith? op r t else setUpdate? op r t
      next.getD (return r)) first

/-- A set changed by several values in turn. -/
def combinedInPlace (op : Code.BinaryOp) (s : Slotted Value) (args : List Value) :
    Run (Slotted Value) := do
  if op = .bitAnd then
    let r ← combined op s args
    return { r with slots := { r.slots with next := s.slots.next } }
  else args.foldlM (fun r v => do (setUpdate? op r (← sourceOf v)).getD (return r)) s

/-- The items of a value that can all be keys. -/
def keysOf (v : Value) : Run (List Value) := do
  match ← sourceOf v with
  | .set s => return s.items
  | t => return (← slotted t.toList).items

/-- What a method of a set gives that changes nothing. -/
def setQuestion (xs : List Value) (name : String) (args : List Value) :
    Run (Option Value) := do
  match name, args with
  | "issubset", [v] => do
    let ys ← keysOf v
    return some (.bool (← xs.allM (amongKeys ys)))
  | "issuperset", [v] => do return some (.bool (← (← sourceOf v).toList.allM (amongKeys xs)))
  | "isdisjoint", [v] => do return some (.bool !(← (← sourceOf v).toList.anyM (amongKeys xs)))
  | _, _ => return none

/-- Refuses arguments that a method of a set does not take: just one, for a difference of
both sides. -/
def checkCount (op : Code.BinaryOp) (args : List Value) : Run Unit :=
  if op = .bitXor && args.length ≠ 1 then throw .wrongType else return ()

/-- A method of a set that changes nothing. -/
def fixedSetMethod (build : Slotted Value → Run Value) (s : Slotted Value) (name : String)
    (args : List Value) : Run Value := do
  match ← setQuestion s.items name args, setOperator? name with
  | some v, _ => return v
  | none, some op => do
    checkCount op args
    build (← combined op s args)
  | none, none => if name = "copy" && args.isEmpty then build s.copied else throw .wrongType

/-- **A method of a set** that can change. -/
def setMethod (r : Ref) (s : Slotted Value) (name : String) (args : List Value) : Run Value := do
  let put (t : Slotted Value) : Run Value := do
    update r (.set t)
    return .none
  let emptied : Slotted Value := { slots := { next := s.slots.next } }
  match name, args with
  | "add", [v] => do put (← addItem s v)
  | "remove", [v] | "discard", [v] => do
    let v ← asKey v
    match ← keyPlace? (← hash v) v s.items with
    | some n => put (s.without n)
    | none => if name = "remove" then throw .missingKey else return .none
  | "pop", [] =>
    match s.popped with
    | some (v, t) => do
      update r (.set t)
      return v
    | none => throw .missingKey
  | "clear", [] => put emptied
  | name, args =>
    match setOperator? name with
    | some op =>
      if name = "update" || name.endsWith "_update" then do
        checkCount op args
        let isOwn (v : Value) : Bool := v.identical (.ref r)
        if (op = .sub || op = .bitXor) && args.any isOwn then put emptied
        else put (← combinedInPlace op s args)
      else fixedSetMethod (fun t => alloc (.set t)) s name args
    | none => fixedSetMethod (fun t => alloc (.set t)) s name args

end Narrowing.Run
