import Narrowing.Value.Machine
/-!
# Arrays of machine numbers

An array has a shape, how many numbers there are along each axis, and its numbers with
those of the last axis together. Operators work number by number. Two shapes go
together if they agree from the last axis on, where an axis of one number goes with any
other; the numbers along it are taken again and again.

Many other values stand for arrays: numbers, and lists and other sequences of what
stands for arrays of one shape. Texts stand for arrays with which no arithmetic is
possible, and so does everything else.
-/

namespace Narrowing

open Code

/-- An array of machine numbers. -/
structure MachineArray where
  kind : MachineKind
  shape : List Nat
  items : List Value

/-- The word that a number of an array is, for words and truth values. -/
def Value.word : Value → Int
  | .machineInt i _ => i
  | .machineBool b => if b then 1 else 0
  | _ => 0

/-- The number of a kind that is zero. -/
def MachineKind.zero : MachineKind → Value
  | truth => .machineBool false
  | whole => .ofMachineInt 0
  | real => .ofMachineFloat 0.0
  | complex => .ofComplex 0.0 0.0

/-- **What a value stands for as an array.** -/
inductive ArrayLike where
  | numbers (a : MachineArray)
  /-- Texts. -/
  | texts
  /-- Anything else. -/
  | objects
  /-- Sequences of different shapes. -/
  | uneven

/-- How many numbers an array of a shape has. -/
def shapeSize (shape : List Nat) : Nat := shape.foldl (· * ·) 1

namespace MachineArray

/-- The places of an array, each by how far it is along each axis. -/
def places : List Nat → List (List Nat)
  | [] => [[]]
  | n :: shape => (List.range n).flatMap fun k => (places shape).map (k :: ·)

/-- The number of a place among all in order. -/
def placeNumber : List Nat → List Nat → Nat
  | _ :: shape, k :: ks => k * shapeSize shape + placeNumber shape ks
  | _, _ => 0

end MachineArray

/-- A list cut into so many pieces of a size. -/
def pieces {α : Type} (size : Nat) : Nat → List α → List (List α)
  | 0, _ => []
  | count + 1, items => items.take size :: pieces size count (items.drop size)

namespace ArrayLike

/-- One more sequence in an array of sequences. -/
def join : ArrayLike → ArrayLike → ArrayLike
  | numbers a, numbers b =>
    if a.shape = b.shape then numbers ⟨a.kind.join b.kind, a.shape, a.items ++ b.items⟩ else uneven
  | uneven, _ | _, uneven => uneven
  | objects, _ | _, objects => objects
  | texts, _ | _, texts => texts

/-- **The array of several of one shape.** -/
def ofList (items : List ArrayLike) : ArrayLike :=
  match items with
  | [] => numbers ⟨.real, [0], []⟩
  | a :: as =>
    match as.foldl join a with
    | numbers b => numbers { b with shape := items.length :: b.shape }
    | b => b

end ArrayLike

namespace Store

/-- The items of a value that stands for an array of them. -/
def elements? (σ : Store) (v : Value) : Option (List Value) :=
  match v with
  | .tuple .. | .range .. => σ.items? v
  | v =>
    match σ.cell? v with
    | some (.list items) | some (.userList items) | some (.deque items _) | some (.array _ items) =>
      some items
    | some (.bytearray bs) => some (Value.ofBytes bs)
    | _ => none

/-- What a value stands for as an array, cut off at a depth. -/
def arrayWithin (σ : Store) : Nat → Value → ArrayLike
  | 0, _ => .uneven
  | fuel + 1, v =>
    let v := σ.content v
    match MachineKind.ofValue? v with
    | some kind => .numbers ⟨kind, [], [v]⟩
    | none =>
      match v, σ.cell? v with
      | .str .., _ | .bytes .., _ => .texts
      | _, some (.vector kind shape items) => .numbers ⟨kind, shape, items⟩
      | v, _ =>
        match σ.elements? v with
        | some items => .ofList (items.map (σ.arrayWithin fuel))
        | none => .objects

/-- **What a value stands for as an array**; sequences may nest a few dozen times. -/
def arrayLike (σ : Store) (v : Value) : ArrayLike := σ.arrayWithin 64 v

/-- The array that a value is. -/
def vector? (σ : Store) (v : Value) : Option MachineArray :=
  match σ.cell? v with
  | some (.vector kind shape items) => some ⟨kind, shape, items⟩
  | _ => none

/-- Whether an operation on a value works number by number. -/
def isMachine (σ : Store) (v : Value) : Bool := v.isMachine || (σ.vector? v).isSome

end Store

/-! ## Shapes -/

/-- The shape that two go together in, both from the last axis on. -/
def commonShapeBack : List Nat → List Nat → Option (List Nat)
  | [], ys => some ys
  | xs, [] => some xs
  | x :: xs, y :: ys => do
    let rest ← commonShapeBack xs ys
    if x = y || y = 1 then return x :: rest
    else if x = 1 then return y :: rest
    else none

/-- **The shape that two go together in**, if they do. -/
def commonShape (xs ys : List Nat) : Option (List Nat) :=
  (commonShapeBack xs.reverse ys.reverse).map List.reverse

/-- The numbers of an array taken again along axes of one number, from a shape with as
many axes to another. -/
def spread : List Nat → List Nat → List Value → List Value
  | n :: inner, m :: wanted, items =>
    let rows := (pieces (shapeSize inner) n items).map (spread inner wanted)
    if n = m then rows.flatten
    else (List.replicate m (rows.headD [])).flatten
  | _, _, items => items

/-- An array in a shape that goes together with its own. -/
def MachineArray.inShape (a : MachineArray) (shape : List Nat) : List Value :=
  spread (List.replicate (shape.length - a.shape.length) 1 ++ a.shape) shape a.items

/-! ## Operators -/

/-- Two arrays number by number. -/
def pointwise (f : Number → Number → Except Failure Value) (number : Value → Option Number) :
    List Value → List Value → Except Failure (List Value)
  | v :: vs, w :: ws =>
    match number v, number w with
    | some m, some n => do return (← f m n) :: (← pointwise f number vs ws)
    | _, _ => .error .wrongType
  | _, _ => .ok []

/-- The kind of the numbers that an operator gives for two kinds. -/
def resultKind (op : BinaryOp) (kind : MachineKind) : MachineKind :=
  match op, kind with
  | .floorDiv, .truth | .mod, .truth | .pow, .truth | .lShift, .truth | .rShift, .truth => .whole
  | op, kind => operationKind op kind

/-- Whether an operator is defined on a kind at all. -/
def isDefined (op : BinaryOp) (kind : MachineKind) : Bool :=
  match op, kind with
  | .sub, .truth => false
  | .bitAnd, .real | .bitOr, .real | .bitXor, .real | .lShift, .real | .rShift, .real => false
  | .bitAnd, .complex | .bitOr, .complex | .bitXor, .complex | .lShift, .complex
  | .rShift, .complex | .floorDiv, .complex | .mod, .complex => false
  | .matMult, _ => false
  | _, _ => true

/-- **Two arrays under an operator.** -/
def MachineArray.operate (σ : Store) (op : BinaryOp) (a b : MachineArray) :
    Except Failure MachineArray := do
  let kind := a.kind.join b.kind
  if !isDefined op kind then throw .wrongType
  match commonShape a.shape b.shape with
  | none => throw .badValue
  | some shape =>
    let items ← pointwise (machineOperation op kind) σ.number? (a.inShape shape) (b.inShape shape)
    return ⟨resultKind op kind, shape, items⟩

/-- **Two arrays under a comparison.** -/
def MachineArray.compare (σ : Store) (op : CompareOp) (a b : MachineArray) :
    Except Failure MachineArray := do
  match commonShape a.shape b.shape with
  | none => throw .badValue
  | some shape =>
    let items ← pointwise (fun m n => .ok (.machineBool (machineComparison op m n))) σ.number?
      (a.inShape shape) (b.inShape shape)
    return ⟨.truth, shape, items⟩

/-- An array in which every number is one truth value. -/
def MachineArray.constant (shape : List Nat) (b : Bool) : MachineArray :=
  ⟨.truth, shape, List.replicate (shapeSize shape) (.machineBool b)⟩

/-- The shape of what a value stands for. -/
def ArrayLike.shape : ArrayLike → List Nat
  | numbers a => a.shape
  | _ => []

/-- **Two values under an operator, of which one is a machine number or an array.** -/
def Store.vectorOperation (σ : Store) (op : BinaryOp) (v w : Value) :
    Except Failure MachineArray :=
  match σ.arrayLike v, σ.arrayLike w with
  | .numbers a, .numbers b => a.operate σ op b
  | .uneven, _ | _, .uneven => .error .badValue
  | .objects, _ | _, .objects => .error .wrongType
  | _, _ => .error .noLoop

/-- **Two values under a comparison, of which one is a machine number or an array.**
What is no array of numbers differs from every number. -/
def Store.vectorComparison (σ : Store) (op : CompareOp) (v w : Value) :
    Except Failure MachineArray :=
  match σ.arrayLike v, σ.arrayLike w with
  | .numbers a, .numbers b => a.compare σ op b
  | .uneven, _ | _, .uneven => .error .badValue
  | a, b =>
    match op with
    | .eq | .notEq =>
      match commonShape a.shape b.shape with
      | some shape => .ok (.constant shape (op = .notEq))
      | none => .error .badValue
    | _ =>
      match a, b with
      | .objects, _ | _, .objects => .error .wrongType
      | _, _ => .error .noLoop

namespace Run

/-- **The value of an array**: a machine number, if it has no axis. -/
def ofArray (a : MachineArray) : Run Value :=
  match a.shape, a.items with
  | [], [v] => return v
  | shape, items => alloc (.vector a.kind shape items)

/-- **An array that shares numbers** with the array at a place: those at some of its
positions. -/
def sharing (r : Ref) (kind : MachineKind) (shape positions : List Nat) : Run Value := do
  match (← read).get? r with
  | some (.window _ _ d own) =>
    let own := own.toArray
    alloc (.window kind shape d (positions.filterMap (own[·]?)))
  | _ => alloc (.window kind shape r positions)

/-- **An array with its numbers arranged anew**, which it shares with the array at a place, if
there is one. -/
def rearranged (r : Option Ref) (a : MachineArray) (f : MachineArray → MachineArray) : Run Value :=
  match r with
  | none => ofArray (f a)
  | some r =>
    let places := (List.range a.items.length).map fun (k : Nat) => Value.ofMachineInt k
    let b := f ⟨.whole, a.shape, places⟩
    sharing r a.kind b.shape (b.items.map fun v => v.word.toNat)

/-- The rows of an array of machine numbers, which share its numbers if it is found at a
place. -/
def rows (r : Option Ref) (a : MachineArray) : Run (List Value) :=
  match a.shape with
  | [] => throw .wrongType
  | [_] => return a.items
  | count :: shape =>
    (List.range count).mapM fun k =>
      rearranged r a fun b =>
        ⟨b.kind, shape, (b.items.drop (k * shapeSize shape)).take (shapeSize shape)⟩

/-- An array with an operation applied to every number. -/
def mapArray (a : MachineArray) (f : Value → Except Failure Value) : Run Value := do
  let sample ← ofExcept (f a.kind.zero)
  let items ← ofExcept (a.items.mapM f)
  let kind := (MachineKind.ofValue? sample).getD a.kind
  ofArray ⟨kind, a.shape, items⟩

end Run

end Narrowing
