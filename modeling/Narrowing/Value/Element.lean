import Narrowing.Access.Walk
import Narrowing.Value.Arithmetic
/-!
# Elements of values

`Run.subscript` looks up an element by position or key, where the class of the
container allows it; a range of positions gives a part of a sequence. `Run.element` is
the **generic access**: it subscripts what can be subscripted and walks anything else
that has items, which uses up a one-shot iterator as far as it walks.

An array of machine numbers is subscripted by one component per axis. An integer takes
the row at a position and a range several of them; the null value and a truth value add
an axis, which the false one leaves without numbers; and another array takes the rows
that its integers, or its true values, stand for.
-/

namespace Narrowing

/-! ## Ranges of positions -/

namespace Run

/-- An end of a range of positions as an integer, if it is given. -/
def sliceEnd (v : Value) : Run (Option Int) :=
  match v with
  | .none => return none
  | v => some <$> index v

/-- **The positions that a range stands for** among so many: the first, the step, and
how many there are. -/
def positions (start stop step : Value) (size : Nat) : Run (Int × Int × Nat) := do
  let step := (← sliceEnd step).getD 1
  if step = 0 then throw .badValue
  let bounded (i low high : Int) : Int :=
    let i := if i < 0 then i + size else i
    if i < low then low else if i > high then high else i
  let start ← sliceEnd start
  let stop ← sliceEnd stop
  let (low, high) : Int × Int := if step > 0 then (0, size) else (-1, size - 1)
  let first := (start.map (bounded · low high)).getD (if step > 0 then 0 else size - 1)
  let last := (stop.map (bounded · low high)).getD (if step > 0 then size else -1)
  return (first, step, rangeSize first last step)

/-- The items at some positions. -/
def itemsAt {α : Type} (items : List α) (first step : Int) (count : Nat) : List α :=
  if step = 1 then (items.drop first.toNat).take count
  else
    let all := items.toArray
    (List.range count).filterMap fun (k : Nat) => all[(first + step * k).toNat]?

/-- A part of a list. -/
def part {α : Type} (items : List α) (start stop step : Value) : Run (List α) := do
  let (first, step, count) ← positions start stop step items.length
  return itemsAt items first step count

/-- Whether some positions are all of so many, in order. -/
def isWhole (positions : Int × Int × Nat) (size : Nat) : Bool :=
  positions.2.1 = 1 && positions.2.2 = size

/-! ## Arrays -/

/-- **A component of a subscript** of an array. -/
inductive Component where
  | position (i : Int)
  | positions (start stop step : Value)
  /-- A new axis. -/
  | axis
  /-- As many whole axes as are left. -/
  | rest
  /-- The rows at some positions, which stand in an array of a shape. -/
  | rows (shape : List Nat) (indexes : List Int)
  /-- What is marked as true in an array of a shape, along as many axes. -/
  | marks (shape : List Nat) (marks : List Value)

/-- How many axes a component takes. -/
def Component.axes : Component → Nat
  | position _ | positions .. | rows .. => 1
  | marks shape _ => shape.length
  | axis | rest => 0

/-- The component that an array or a sequence stands for. -/
def arrayComponent (σ : Store) (v : Value) : Except Failure Component :=
  match σ.arrayLike v with
  | .numbers a =>
    match a.kind, a.shape with
    | .whole, shape =>
      .ok (.rows shape (a.items.filterMap fun x =>
        match σ.number? x with
        | some (.int i) => some i
        | _ => none))
    | .truth, shape => .ok (.marks shape a.items)
    | .real, [0] => if (σ.vector? v).isSome then .error .outOfRange else .ok (.rows [0] [])
    | _, _ => .error .outOfRange
  | _ => .error .outOfRange

/-- **The component that a value stands for.** An integer that only a word without a sign can
hold is too large to count. -/
def componentOf (v : Value) : Run Component := do
  match v with
  | .none => return .axis
  | .bool b | .machineBool b => return .marks [] [.bool b]
  | .ellipsis => return .rest
  | .slice start stop step _ => return .positions start stop step
  | v =>
    let σ ← read
    match ← index? v with
    | some i =>
      if Word.fits 64 i && Word.count 63 ≤ i then throw .tooLarge else return .position i
    | none => ofExcept (arrayComponent σ (σ.content v))

/-- The components of a subscript: those of a tuple, or one. -/
def componentsOf (v : Value) : Run (List Component) := do
  match v with
  | .tuple items _ => items.mapM componentOf
  | v => return [← componentOf v]

/-- Components in which all axes are spoken of. -/
def completed (dimensions : Nat) (cs : List Component) : List Component :=
  let left := dimensions - cs.foldl (fun n c => n + c.axes) 0
  let whole := List.replicate left (Component.positions .none .none .none)
  match cs.span fun c => match c with | .rest => false | _ => true with
  | (front, _ :: back) => front ++ whole ++ back
  | (front, []) => front ++ whole

/-- A position among so many rows. -/
def rowAt (size : Nat) (i : Int) : Except Failure Nat :=
  let j := if i < 0 then i + size else i
  if 0 ≤ j && j < size then .ok j.toNat else .error .outOfRange

/-- **What is picked along an axis.** -/
inductive Choice where
  /-- One row, without an axis of its own. -/
  | only (k : Nat)
  /-- Several rows. -/
  | along (ks : List Nat)
  /-- Nothing, along an axis that is new. -/
  | new
  /-- Rows that are picked together with those along other axes, in an array of a shape. -/
  | together (shape ks : List Nat)
  /-- Nothing, so often as an array of a shape has places. -/
  | times (shape : List Nat)

/-- Whether a choice is made together with others. -/
def Choice.isTogether : Choice → Bool
  | only _ | together .. | times _ => true
  | along _ | new => false

/-- Whether a choice picks rows by an array. -/
def Choice.isByArray : Choice → Bool
  | together .. | times _ => true
  | _ => false

/-- The places of what is true in an array of a shape. -/
def truePlaces (shape : List Nat) (marks : List Value) : List (List Nat) :=
  ((MachineArray.places shape).zip marks).filterMap fun (place, m) =>
    match m with
    | .bool true | .machineBool true => some place
    | _ => none

/-- What components pick along the axes of a shape. -/
def choices : List Component → List Nat → Run (List Choice)
  | [], sizes => return sizes.map fun n => .along (List.range n)
  | .rest :: cs, sizes => choices cs sizes
  | .axis :: cs, sizes => do return .new :: (← choices cs sizes)
  | .position i :: cs, size :: sizes => do
    let row ← ofExcept (rowAt size i)
    return .only row :: (← choices cs sizes)
  | .positions start stop step :: cs, size :: sizes => do
    let (first, step, count) ← positions start stop step size
    return .along (itemsAt (List.range size) first step count) :: (← choices cs sizes)
  | .rows shape indexes :: cs, size :: sizes => do
    let ks ← ofExcept (indexes.mapM (rowAt size))
    return .together shape ks :: (← choices cs sizes)
  | .marks shape marks :: cs, sizes => do
    if sizes.take shape.length ≠ shape then throw .outOfRange
    let found := truePlaces shape marks
    let own : List Choice :=
      if shape.isEmpty then [.times [found.length]]
      else (List.range shape.length).map fun k =>
        Choice.together [found.length] (found.map fun place => (place[k]?).getD 0)
    return own ++ (← choices cs (sizes.drop shape.length))
  | _ :: _, [] => throw .outOfRange

/-- The places that choices pick, for one of the places of what is picked together. -/
def placesPicked (shape : List Nat) (cs : List Choice) (k : Nat) : List (List Nat) :=
  match cs with
  | [] => [[]]
  | .only row :: cs => (placesPicked shape cs k).map (row :: ·)
  | .along rows :: cs => rows.flatMap fun row => (placesPicked shape cs k).map (row :: ·)
  | .new :: cs | .times _ :: cs => placesPicked shape cs k
  | .together own ks :: cs =>
    let all := MachineArray.inShape ⟨.whole, own, ks.map fun (i : Nat) => .ofMachineInt i⟩ shape
    (placesPicked shape cs k).map ((((all[k]?).map Value.word).getD 0).toNat :: ·)

/-- **The part of an array that components pick**: its shape, and its numbers. What is picked by
arrays is picked together, and has its axes where the first of them stands, if they follow
each other, and before all others if not. -/
def pick (cs : List Component) (shape : List Nat) (items : List Value) :
    Run (List Nat × List Value) := do
  let cs ← choices cs shape
  let isJoint := cs.any Choice.isByArray
  let together (s : List Nat) (c : Choice) : Option (List Nat) :=
    match c with
    | .together own _ | .times own => commonShape s own
    | _ => some s
  let common ← (cs.foldlM together []).elim (throw .outOfRange) pure
  let (before, rest) := if isJoint then cs.span fun c => !c.isTogether else ([], cs)
  let after := rest.dropWhile Choice.isTogether
  let (before, rest) :=
    if isJoint && after.any Choice.isTogether then ([], cs) else (before, rest)
  let sizes (cs : List Choice) : List Nat := cs.filterMap fun
    | .along ks => some ks.length
    | .new => some 1
    | _ => none
  let found := (placesPicked common before 0).flatMap fun front =>
    (List.range (shapeSize common)).flatMap fun k =>
      (placesPicked common rest k).map (front ++ ·)
  let all := items.toArray
  return (sizes before ++ common ++ sizes rest,
    found.filterMap fun place => all[MachineArray.placeNumber shape place]?)

/-- **An element of an array of machine numbers**, or a part of it. -/
def vectorElement (r : Option Ref) (a : MachineArray) (index : Value) : Run Value := do
  let cs ← componentsOf index
  let isCopied := cs.any fun c => match c with | .rows .. | .marks .. => true | _ => false
  let places := (List.range a.items.length).map fun (k : Nat) => Value.ofMachineInt k
  let (shape, picked) ← pick (completed a.shape.length cs) a.shape places
  let all := a.items.toArray
  let positions := picked.map fun v => v.word.toNat
  match shape, positions.filterMap (all[·]?), if isCopied then none else r with
  | [], [v], _ => return v.withTag .none
  | shape, items, none => alloc (.vector a.kind shape items)
  | shape, _, some r => sharing r a.kind shape positions

end Run

/-! ## Subscripts -/

namespace Store

/-- The members that subscripts work by. -/
def subscriptMember : String := "__getitem__"

/-- **Whether the class of a value has subscripts.** -/
def hasSubscript (σ : Store) (v : Value) : Bool :=
  (σ.special? v subscriptMember).isSome ||
  match σ.content v with
  | .str .. | .bytes .. | .tuple .. | .types _ | .range .. | .machineInt .. | .machineFloat ..
  | .machineBool _ => true
  | v =>
    match σ.cell? v with
    | some (.list _) | some (.userList _) | some (.deque ..) | some (.bytearray _)
    | some (.dict _) | some (.array ..) | some (.vector ..) => true
    | _ => false

/-- **What a walk over a value goes through**, if it is all there. -/
def walk? (σ : Store) (v : Value) : Option (Walk Value) :=
  match σ.special? v "__iter__", σ.cell? v with
  | some _, _ => none
  | none, some (.iterator (.items items _)) => some ⟨items, true⟩
  | none, some (.iterator _) => none
  | none, _ => (σ.items? v).map fun items => ⟨items, false⟩

end Store

namespace Run

/-- The item at a position given as a value. -/
def position (items : List Value) (i : Value) : Run Value := do
  match itemAt? items (← index i) with
  | some v => return v
  | none => throw .outOfRange

/-- The number at a position of a range. -/
def rangeElement (start stop step : Int) (i : Value) : Run Value := do
  let i ← index i
  let size := rangeSize start stop step
  let i := if i < 0 then i + size else i
  if 0 ≤ i && i < size then return .ofInt (start + step * i) else throw .outOfRange

/-- A part of a range. -/
def rangePart (start stop step : Int) (ends : Value × Value × Value) : Run Value := do
  let size := rangeSize start stop step
  let (first, by', count) ← positions ends.1 ends.2.1 ends.2.2 size
  let from' := start + step * first
  return .range from' (from' + step * by' * count) (step * by') .none

/-- A part of a value that never changes: all of it is the value itself. -/
def fixedPart {α : Type} (v : Value) (items : List α) (ends : Value × Value × Value)
    (build : List α → Value) : Run Value := do
  let found ← positions ends.1 ends.2.1 ends.2.2 items.length
  if isWhole found items.length then return v
  else return build (itemsAt items found.1 found.2.1 found.2.2)

/-- **A part of a sequence.** -/
def subsequence (v : Value) (ends : Value × Value × Value) : Run Value := do
  let σ ← read
  let (start, stop, step) := ends
  match σ.content v with
  | .str s tag => fixedPart (.str s tag) s.toList ends fun cs => .ofText (String.ofList cs)
  | .bytes bs tag => fixedPart (.bytes bs tag) bs ends .ofByteList
  | .tuple items tag => fixedPart (.tuple items tag) items ends .ofTuple
  | .range a b c _ => rangePart a b c ends
  | .types ds => return .types (← part ds start stop step)
  | c =>
    match σ.cell? c with
    | some (.list items) => do alloc (.list (← part items start stop step))
    | some (.userList items) => do rebuilt v (← part items start stop step) .userList
    | some (.array code items) => do alloc (.array code (← part items start stop step))
    | some (.bytearray bs) => do alloc (.bytearray (← part bs start stop step))
    | _ => throw .wrongType

/-- The value of a key of a dictionary, whose class may have a say about keys that are
not there. -/
def dictElement (v key : Value) (entries : List (Value × Value)) : Run Value := do
  checkKey key
  match ← entry? key entries with
  | some w => return w
  | none =>
    match ← callSpecial? v "__missing__" [key] with
    | some w => return w
    | none => throw .missingKey

/-- The element of a value of the language by position or key. -/
def plainSubscript (v i : Value) : Run Value := do
  let σ ← read
  match σ.content v, i with
  | .machineInt n _, i => vectorElement none ⟨.whole, [], [.ofMachineInt n]⟩ i
  | .machineFloat x _, i => vectorElement none ⟨.real, [], [.ofMachineFloat x]⟩ i
  | .machineBool b, i => vectorElement none ⟨.truth, [], [.machineBool b]⟩ i
  | c, i =>
    match σ.cell? c, i with
    | some (.vector kind shape items), i => vectorElement v.place? ⟨kind, shape, items⟩ i
    | some (.dict entries), i => dictElement v i entries
    | cell, .slice start stop step _ =>
      match cell with
      | some (.deque ..) => throw .wrongType
      | _ => subsequence v (start, stop, step)
    | cell, i =>
      match c, cell with
      | .str s _, _ => position (Value.ofChars s) i
      | .bytes bs _, _ => position (Value.ofBytes bs) i
      | .tuple items _, _ => position items i
      | .types ds, _ => position (ds.map fun d => .types [d]) i
      | .range start stop step _, _ => rangeElement start stop step i
      | _, some (.list items) | _, some (.userList items) | _, some (.deque items _)
      | _, some (.array _ items) => position items i
      | _, some (.bytearray bs) => position (Value.ofBytes bs) i
      | _, _ => throw .wrongType

/-- Whether reading an element makes a new value. -/
def makesElements (σ : Store) (v : Value) : Bool :=
  match σ.content v with
  | .str .. | .bytes .. | .range .. => true
  | c =>
    match σ.cell? c with
    | some (.array ..) | some (.bytearray _) | some (.vector ..) => true
    | _ => c.isMachine

/-- **The element of a value by position or key.** -/
def subscript (v i : Value) : Run Value := do
  match ← callSpecial? v Store.subscriptMember [i] with
  | some w => return w
  | none => do
    let w ← plainSubscript v i
    if makesElements (← read) v then
      match i with
      | .slice .. => tellApart w
      | _ => tellApart (w.withTag .none)
    else tellApart w

/-! ## The generic access -/

/-- Puts back what a walk has left. -/
def leave (v : Value) (w : Walk Value) : Run Unit :=
  match v with
  | .ref r => do
    match ← cell? v with
    | some (.iterator i) =>
      if w.oneShot then
        update r (.iterator (.items w.items ((← read).iterationClass i)))
    | _ => pure ()
  | _ => pure ()

/-- The failure of a walk. Only an index that is an integer proper is named. -/
def walkFailure (index : Value) : WalkFault → Failure
  | .pastEnd =>
    match index with
    | .int i _ | .machineInt i _ => .pastEnd i
    | _ => .outOfRange
  | .beforeStart => .outOfRange
  | .uncountable => .badValue

/-- Walks to an index that is a whole number. -/
def walkTo (v : Value) (w : Walk Value) (index : Value) (i : Int) : Run Value := do
  let (result, left) := w.elementAt i
  leave v left
  match result with
  | .ok x => return x
  | .error fault => throw (walkFailure index fault)

/-- The item after so many that an iterator gives. -/
def itemAfter (iterator : Value) : Nat → Run (Option Value)
  | 0 => next? iterator
  | count + 1 => do
    match ← next? iterator with
    | some _ => itemAfter iterator count
    | none => return none

/-- Walks along what an iterator gives. Counting from the end takes the items first; an
index that is no whole number is no count. -/
def walkAlong (v i : Value) : Run Value := do
  if ← isTrue (← compare .lt i (.ofInt 0)) then
    let all ← items v
    position all i
  else
    match ← orNone (index i) fun _ => true with
    | none => throw .badValue
    | some n => do
      if n < 0 || n > Walk.greatestIndex then throw .badValue
      match ← itemAfter (← iterator v) n.toNat with
      | some w => return w
      | none => throw (walkFailure i .pastEnd)

/-- **The generic access** to an element. -/
def element (v i : Value) : Run Value := do
  let σ ← read
  if σ.hasSubscript v then subscript v i
  else
    match plainIndex? σ i, σ.walk? v with
    | some n, some w => walkTo v w i n
    | _, _ => walkAlong v i

/-! ## Putting elements in place -/

/-- An item put in place of that at a position. -/
def replaceAt {α : Type} (items : List α) (i : Int) (v : α) : Run (List α) := do
  let j := if i < 0 then i + items.length else i
  if 0 ≤ j && j < items.length then return items.set j.toNat v else throw .outOfRange

/-- Items put in place of a part of a list. -/
def replacePart {α : Type} (items : List α) (start stop step : Value) (new : List α) :
    Run (List α) := do
  let (first, by', count) ← positions start stop step items.length
  if by' = 1 then return items.take first.toNat ++ new ++ items.drop (first.toNat + count)
  else if new.length ≠ count then throw .badValue
  else
    return (new.zip (List.range count)).foldl
      (fun items (v, k) => items.set (first + by' * (k : Int)).toNat v) items

/-- A list without the items at some positions. -/
def removePart {α : Type} (items : List α) (start stop step : Value) : Run (List α) := do
  let (first, by', count) ← positions start stop step items.length
  let gone := (List.range count).map fun (k : Nat) => (first + by' * k).toNat
  return (items.zip (List.range items.length)).filterMap fun (v, k) =>
    if gone.contains k then none else some v

/-- The item at a position taken out. -/
def removeAt {α : Type} (items : List α) (i : Int) : Run (List α) := do
  let j := if i < 0 then i + items.length else i
  if 0 ≤ j && j < items.length then return items.eraseIdx j.toNat else throw .outOfRange

/-- Takes the entry of a key out of some entries. -/
def removeEntry (key : Value) (entries : List (Value × Value)) :
    Run (Option (Value × List (Value × Value))) := do
  match entries with
  | [] => return none
  | (k, v) :: rest =>
    if ← isSame k key then return some (v, rest)
    else return (← removeEntry key rest).map fun (w, rest) => (w, (k, v) :: rest)

end Run

end Narrowing
