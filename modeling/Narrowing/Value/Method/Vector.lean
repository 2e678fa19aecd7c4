import Narrowing.Value.Kind
import Narrowing.Value.Method.Sequence
import Narrowing.Value.Reduction
/-!
# Attributes and methods of arrays

An array of machine numbers knows its shape and its kind. It can be reduced along an axis,
put in order, put into another shape, and changed in place. A single machine number has the
same methods as the array without axes that it stands for, and an array without axes that a
method gives is a single number.
-/

namespace Narrowing

open Code

/-- The failure of an axis that an array lacks. -/
def Failure.missingAxis : Failure :=
  .raised "AxisError" ("ValueError" :: "IndexError" :: ErrorClass.inherited "IndexError") .none

namespace Run

/-! ## Arguments -/

/-- An axis by its number among so many, where a number below zero counts from the last. -/
def axisAt (dimensions : Nat) (v : Value) : Run Nat := do
  let i ← index v
  let k := if i < 0 then i + dimensions else i
  if 0 ≤ k && k < dimensions then return k.toNat else throw .missingAxis

/-- The axis to work along, or none for all numbers. -/
def axisGiven (dimensions : Nat) (v : Option Value) : Run (Option Nat) := do
  match v with
  | none | some .none => return none
  | some (.tuple [v] _) => some <$> axisAt dimensions v
  | some (.tuple [] _) | some (.tuple ..) => throw .unsupported
  | some v => some <$> axisAt dimensions v

/-- Refuses an argument that can be left out and is given. -/
def leftOut (args : List Value) : Run Unit :=
  if args.all fun
    | .none => true
    | _ => false
  then return () else throw .unsupported

/-- The array that an argument stands for. -/
def arrayArgument (v : Value) : Run MachineArray := do
  let σ ← read
  match σ.arrayLike v with
  | .numbers a => do
    let items ← ofExcept (a.items.mapM fun x =>
      match σ.number? x with
      | some n => n.machineValue a.kind
      | none => .error .wrongType)
    return { a with items }
  | .uneven => throw .badValue
  | .texts | .objects => throw .unsupported

/-- An array as long and as wide as a shape says. -/
def spreadTo (shape : List Nat) (a : MachineArray) : Run (List Value) := do
  let own := a.shape.drop (a.shape.length - shape.length)
  let isFitting := (a.shape.take (a.shape.length - shape.length)).all (· = 1) &&
    commonShape own shape = some shape
  if isFitting then return MachineArray.inShape { a with shape := own } shape
  else throw .badValue

/-- A number for an array of a kind: what it is converted to, or the number of a text. -/
def numberFor (kind : MachineKind) (v : Value) : Run Value := do
  let σ ← read
  match kind, v with
  | .truth, v => return .machineBool (← isTrue v)
  | .real, .none => return .ofMachineFloat (0.0 / 0.0)
  | kind, v =>
    if (σ.items? v).isSome && (σ.text? v).isNone && (σ.bytes? v).isNone then throw .badValue
    match kind with
    | .whole => do
      let i ← toInteger v
      ofExcept ((Number.int i).machineValue .whole)
    | .real => return .ofMachineFloat (← toDouble v)
    | _ => do
      let (re, im) ← toComplex v none
      return .ofComplex re im

/-- **What an array of a kind holds for a value** in so many places. -/
def numbersFor (kind : MachineKind) (shape : List Nat) (v : Value) : Run (List Value) := do
  let σ ← read
  if (σ.vector? v).isSome || (σ.elements? v).isSome then
    let a ← arrayArgument v
    spreadTo shape (a.cast kind)
  else return List.replicate (shapeSize shape) (← numberFor kind v)

/-! ## Shapes -/

/-- **The shape that some sizes say** for so many numbers, where one less than none stands for
as many as are left. -/
def shapeGiven (count : Nat) (sizes : List Int) : Run (List Nat) := do
  let known := sizes.filter (· ≥ 0)
  let product := shapeSize (known.map Int.toNat)
  if sizes.length > known.length + 1 || sizes.any (· < -1) then throw .badValue
  let shape ←
    if sizes.length = known.length then pure (sizes.map Int.toNat)
    else if product = 0 || count % product ≠ 0 then throw .badValue
    else pure (sizes.map fun i => if i < 0 then count / product else i.toNat)
  if shapeSize shape = count then return shape else throw .badValue

/-- The sizes that arguments say: one by one, or as a sequence. -/
def sizesGiven (args : List Value) : Run (List Int) := do
  match args with
  | [v] =>
    match (← read).elements? v with
    | some vs => vs.mapM index
    | none => return [← index v]
  | args => args.mapM index

/-! ## Rounding -/

/-- A double rounded to some decimal places: multiplied by a power of ten, rounded to the
nearest whole number, a tie to the even one, and divided again. -/
def roundedByScale (x : Float) (places : Int) : Float :=
  let whole (y : Float) : Float :=
    match Decimal.fraction? y with
    | some (num, den) => withSignOf (Decimal.nearby (roundedFraction num den) 1) y
    | none => y
  let scale := Decimal.nearby (Nat.pow 10 (min places.natAbs 400)) 1
  let scale := if places.natAbs > 308 then 1.0 / 0.0 else scale
  if places = 0 then whole x
  else if places > 0 then whole (x * scale) / scale
  else whole (x / scale) * scale

/-- **A machine number rounded** to some decimal places. -/
def roundedMachine (v : Value) (places : Int) : Except Failure Value :=
  match v with
  | .machineInt i _ =>
    if places ≥ 0 then .ok (.ofMachineInt i)
    else .ok (.ofMachineInt (wordOfDouble (roundedByScale v.double places)))
  | .machineFloat x _ => .ok (.ofMachineFloat (roundedByScale x places))
  | .complex re im _ => .ok (.ofComplex (roundedByScale re places) (roundedByScale im places))
  | _ => .error .unsupported

/-! ## Attributes -/

/-- How far apart the numbers along each axis are in memory. -/
def strides (bytes : Nat) : List Nat → List Nat
  | [] => []
  | _ :: shape => bytes * shapeSize shape :: strides bytes shape

/-- An array with its axes from the last to the first. -/
def transposed (a : MachineArray) : MachineArray :=
  a.withAxes (List.range a.shape.length).reverse

/-- **An attribute of an array**, for those that are no methods. -/
def arrayAttribute (r : Option Ref) (a : MachineArray) (name : String) : Run (Option Value) := do
  let sizes (ns : List Nat) : Value := .ofTuple (ns.map fun (n : Nat) => .ofInt n)
  match name with
  | "shape" => return some (sizes a.shape)
  | "size" => return some (.ofInt a.items.length)
  | "ndim" => return some (.ofInt a.shape.length)
  | "T" => some <$> rearranged r a transposed
  | "mT" =>
    match a.shape.length with
    | 0 | 1 => throw .badValue
    | n => some <$> rearranged r a fun b => b.withAxes (List.range (n - 2) ++ [n - 1, n - 2])
  | "itemsize" => return some (.ofInt a.kind.record.bytes)
  | "nbytes" => return some (.ofInt (a.kind.record.bytes * a.items.length : Nat))
  | "strides" => return some (sizes (strides a.kind.record.bytes a.shape))
  | "dtype" => return some (.kind a.kind)
  | "device" => return some (.ofName "cpu")
  | "flat" => some <$> alloc (.iterator (.items a.items "numpy.flatiter"))
  | "real" =>
    if a.kind = .complex then some <$> ofArray (a.cast .real)
    else some <$> (r.elim (ofArray a) fun r => return .ref r)
  | "imag" =>
    match a.kind with
    | .complex =>
      some <$> ofArray ⟨.real, a.shape, a.items.map fun v => .ofMachineFloat v.pair.2⟩
    | kind =>
      let zero := (.ofMachineInt 0 : Value).cast kind
      some <$> ofArray ⟨kind, a.shape, a.items.map fun _ => zero⟩
  | "base" =>
    match r.bind (← read).get? with
    | some (.window _ _ d _) => return some (.ref d)
    | _ => return some .none
  | "data" | "flags" | "ctypes" => throw .unsupported
  | _ => return none

/-! ## Methods -/

/-- The bytes of the numbers of an array. -/
def arrayBytes (a : MachineArray) : List Nat :=
  a.items.flatMap fun
    | .complex re im _ => Store.numberBytes 8 (.ofFloat re) ++ Store.numberBytes 8 (.ofFloat im)
    | v => Store.numberBytes 8 v

/-- A machine number with its bytes in the other order. -/
def bytesTurned (v : Value) : Value :=
  let turned (v : Value) : Nat := (Store.numberBytes 8 v).foldl (fun n b => 256 * n + b) 0
  let double (x : Float) : Float := Float.ofBits (UInt64.ofNat (turned (.ofFloat x)))
  match v with
  | .machineInt i _ => wrapped (turned (.ofInt i))
  | .machineFloat x _ => .ofMachineFloat (double x)
  | .complex re im _ => .ofComplex (double re) (double im)
  | v => v

/-- An array as a list of its rows. -/
def nestedList : List Nat → List Value → Run Value
  | _ :: rest@(_ :: _), items => do
    let count := items.length / max 1 (shapeSize rest)
    alloc (.list (← (pieces (shapeSize rest) count items).mapM (nestedList rest)))
  | [], items => return (items[0]?).getD .none
  | _, items => alloc (.list items)

/-- The number of the language that a machine number is. -/
def plainNumber (v : Value) : Value :=
  match v with
  | .machineInt i _ => .ofInt i
  | .machineFloat x _ => .ofFloat x
  | .machineBool b => .bool b
  | v => v

/-- The place of a number that is asked for by one position or by one for each axis. -/
def placeGiven (a : MachineArray) (args : List Value) : Run Nat := do
  let args :=
    match args with
    | [.tuple items _] => items
    | args => args
  match args with
  | [] => if a.items.length = 1 then return 0 else throw .badValue
  | [i] => do ofExcept (rowAt a.items.length (← index i))
  | is =>
    if is.length ≠ a.shape.length then throw .badValue
    else do
      let ks ← (is.zip a.shape).mapM fun (i, n) => do ofExcept (rowAt n (← index i))
      return MachineArray.placeNumber a.shape ks

/-- The kind of numbers to work with, if one is named. -/
def kindGiven (v : Option Value) : Run (Option MachineKind) := do
  match v with
  | none | some .none => return none
  | some v => some <$> ofExcept (MachineKind.described (← read) v)

/-- **A reduction of an array** by name, along an axis or of all of its numbers. -/
def arrayReduction? (a : MachineArray) (name : String) (args : List Value) :
    Run (Option Value) := do
  let axis := args[0]?
  let wanted ←
    if ["sum", "prod", "mean", "var", "std"].contains name then kindGiven args[1]? else pure none
  let a := wanted.elim a a.cast
  let summed := wanted.getD (a.kind.join .whole)
  let averaged := a.kind.join .real
  let reduction (kind : MachineKind) (f : List Value → Value) : Run (Option Value) := do
    leftOut (args.drop (if wanted.isSome then 2 else 1))
    let axis ← axisGiven a.shape.length axis
    some <$> ofArray (a.reduced axis kind f)
  let nonempty (kind : MachineKind) (f : List Value → Option Value) : Run (Option Value) := do
    leftOut (args.drop 1)
    let axis ← axisGiven a.shape.length axis
    let size := axis.elim a.items.length fun k => (a.shape[k]?).getD 1
    if size = 0 then throw .badValue
    some <$> ofArray (a.reduced axis kind fun vs => (f vs).getD .none)
  let deviation (f : Float → Float) : Run (Option Value) := do
    leftOut ((args.drop 2).take 1)
    let less ←
      match args[3]? with
      | some d => toDouble d
      | none => pure 0.0
    leftOut (args.drop 4)
    let axis ← axisGiven a.shape.length axis
    some <$> ofArray (a.reduced axis .real fun vs =>
      .ofMachineFloat (f (Lane.variance a.kind less vs)))
  match name with
  | "sum" => reduction summed (Lane.sum a.kind)
  | "prod" => reduction summed (Lane.product a.kind)
  | "mean" => reduction averaged (Lane.mean a.kind)
  | "any" => reduction .truth fun vs => .machineBool (vs.any Value.isNonzero)
  | "all" => reduction .truth fun vs => .machineBool (vs.all Value.isNonzero)
  | "min" => nonempty a.kind (Lane.extreme? true)
  | "max" => nonempty a.kind (Lane.extreme? false)
  | "argmin" => nonempty .whole fun vs => (Lane.extremePlace? true vs).map fun k => .ofMachineInt k
  | "argmax" => nonempty .whole fun vs => (Lane.extremePlace? false vs).map fun k => .ofMachineInt k
  | "var" => deviation id
  | "std" => deviation Float.sqrt
  | _ => return none

/-- An array that is all along one axis, if no axis is named to work along. -/
def alongAxis (a : MachineArray) (v : Option Value) (kind : MachineKind)
    (f : List Value → List Value) : Run Value := do
  match ← axisGiven a.shape.length v with
  | none => do
    let items := f a.items
    alloc (.vector kind [items.length] items)
  | some k => ofArray (a.replaced k kind f)

/-- The axis to put numbers in order along: the last one, unless another is named. -/
def orderAxis (a : MachineArray) (v : Option Value) : Run (Option Nat) := do
  match v with
  | none => some <$> axisAt a.shape.length (.ofInt (-1))
  | v => axisGiven a.shape.length v

/-- How far a number could be put into an ordered lane: before those that are equal to it, or
behind them. -/
def insertionPlace (isBehind : Bool) (items : List Value) (v : Value) : Nat :=
  let isLess (v w : Value) : Bool := (w.isNoNumber && !v.isNoNumber) || Lane.isBefore true v w
  (items.takeWhile fun w => if isBehind then !isLess v w else isLess w v).length

/-- The rows of an array at some positions along an axis, where numbers out of range are
refused. -/
def takenAlong (a : MachineArray) (axis : Option Nat) (positions : MachineArray) : Run Value := do
  let indexes := positions.items.map Value.word
  match axis with
  | none => do
    let all := a.items.toArray
    let ks ← ofExcept (indexes.mapM (rowAt all.size))
    ofArray ⟨a.kind, positions.shape, ks.filterMap (all[·]?)⟩
  | some k => do
    let size := (a.shape[k]?).getD 1
    let ks ← ofExcept (indexes.mapM (rowAt size))
    let r := a.replaced k a.kind fun vs => ks.filterMap fun i => vs[i]?
    ofArray { r with shape := a.shape.take k ++ positions.shape ++ a.shape.drop (k + 1) }

/-- How often each of so many numbers is to be repeated. -/
def repetitions (count : Nat) (v : Value) : Run (List Nat) := do
  let a ← arrayArgument v
  if a.kind.rank > MachineKind.whole.rank then throw .wrongType
  if a.items.any fun v => v.word < 0 then throw .badValue
  let ns := a.items.map fun v => v.word.toNat
  match ns with
  | [n] => return List.replicate count n
  | ns => if ns.length = count then return ns else throw .badValue

/-- **The sum of products** of numbers in pairs. -/
def pairedSum (kind : MachineKind) (vs ws : List Value) : Value :=
  match kind with
  | .truth => .machineBool ((vs.zip ws).any fun (v, w) => v.isNonzero && w.isNonzero)
  | .whole => wrapped ((vs.zip ws).foldl (fun s (v, w) => s + v.word * w.word) 0)
  | .real => .ofMachineFloat ((vs.zip ws).foldl (fun s (v, w) => s + v.double * w.double) 0.0)
  | .complex =>
    let (re, im) := (vs.zip ws).foldl (fun (a, b) (v, w) =>
      let (c, d) := ComplexNumber.mul v.pair w.pair
      (a + c, b + d)) (0.0, 0.0)
    .ofComplex re im

/-- **The inner product of two arrays**: along the last axis of the one and the last but one of
the other. -/
def innerProduct (a b : MachineArray) : Run Value := do
  let kind := a.kind.join b.kind
  match a.shape.reverse, b.shape.reverse with
  | n :: front, m :: back => do
    let axis := if back.isEmpty then 0 else b.shape.length - 2
    let size := (b.shape[axis]?).getD m
    if n ≠ size then throw .badValue
    let rows := lanes a.shape (a.shape.length - 1) a.items
    let columns := lanes b.shape axis b.items
    ofArray ⟨kind, front.reverse ++ b.shape.eraseIdx axis,
      rows.flatMap fun row => columns.map (pairedSum kind row)⟩
  | _, _ => throw .badValue

/-- The positions of the numbers of an array at a place where they are kept. -/
def positionsAt (σ : Store) (r : Ref) (a : MachineArray) : List Nat :=
  match σ.get? r with
  | some (.window _ _ _ positions) => positions
  | _ => List.range a.items.length

/-- Whether positions follow each other. -/
def isRun (positions : List Nat) : Bool :=
  (positions.zip (positions.drop 1)).all fun (i, j) => j = i + 1

/-- Whether along each axis of a shape the positions are evenly apart. -/
def isEvenly (shape positions : List Nat) : Bool :=
  let all := positions.toArray
  let at_ (place : List Nat) : Int := (((all[MachineArray.placeNumber shape place]?).getD 0 : Nat) : Int)
  let origin := shape.map fun _ => 0
  let steps := (List.range shape.length).map fun k =>
    if (shape[k]?).getD 1 ≤ 1 then 0 else at_ (origin.set k 1) - at_ origin
  (MachineArray.places shape).all fun place =>
    at_ place = (place.zip steps).foldl (fun s (i, d) => s + i * d) (at_ origin)

/-- A method that gives an array of another shape, or other numbers by their places. -/
def arrayShaping? (r : Option Ref) (a : MachineArray) (name : String) (args : List Value) :
    Run (Option Value) := do
  let dimensions := a.shape.length
  let σ ← read
  match name, args with
  | "flatten", rest => do
    leftOut rest
    some <$> alloc (.vector a.kind [a.items.length] a.items)
  | "ravel", rest => do
    leftOut rest
    let isDense := r.all fun r => isRun (positionsAt σ r a)
    some <$> if isDense then rearranged r a fun b => { b with shape := [b.items.length] }
      else alloc (.vector a.kind [a.items.length] a.items)
  | "reshape", [] => throw .wrongType
  | "reshape", args => do
    let shape ← shapeGiven a.items.length (← sizesGiven args)
    let isEven := r.all fun r => isEvenly shape (positionsAt σ r a)
    some <$> rearranged (if isEven then r else none) a fun b => { b with shape }
  | "squeeze", [] => some <$> rearranged r a fun b => { b with shape := b.shape.filter (· ≠ 1) }
  | "squeeze", [v] => do
    match ← axisGiven dimensions (some v) with
    | none => some <$> rearranged r a fun b => { b with shape := b.shape.filter (· ≠ 1) }
    | some k =>
      if a.shape[k]? = some 1 then
        some <$> rearranged r a fun b => { b with shape := b.shape.eraseIdx k }
      else throw .badValue
  | "transpose", [] | "transpose", [.none] => some <$> rearranged r a transposed
  | "transpose", args => do
    let order ← (← sizesGiven args).mapM fun i => axisAt dimensions (.ofInt i)
    if order.length ≠ dimensions || !order.Nodup then throw .badValue
    some <$> rearranged r a fun b => b.withAxes order
  | "swapaxes", [i, j] => do
    let i ← axisAt dimensions i
    let j ← axisAt dimensions j
    some <$> rearranged r a fun b => b.withAxes ((List.range dimensions).map fun k =>
      if k = i then j else if k = j then i else k)
  | "repeat", v :: axis => do
    match ← axisGiven dimensions axis[0]? with
    | none => do
      let ns ← repetitions a.items.length v
      let items := (a.items.zip ns).flatMap fun (v, n) => List.replicate n v
      some <$> alloc (.vector a.kind [items.length] items)
    | some k => do
      let ns ← repetitions ((a.shape[k]?).getD 1) v
      some <$> ofArray (a.replaced k a.kind fun vs =>
        (vs.zip ns).flatMap fun (v, n) => List.replicate n v)
  | "take", v :: rest => do
    leftOut (rest.drop 1)
    let axis ← axisGiven dimensions rest[0]?
    let positions ← arrayArgument v
    if positions.kind = .real && positions.items.isEmpty then
      some <$> takenAlong a axis positions
    else if positions.kind.rank > MachineKind.whole.rank then throw .wrongType
    else if a.items.isEmpty && !positions.items.isEmpty then throw .outOfRange
    else some <$> takenAlong a axis positions
  | "choose", [v] => do
    if a.kind.rank > MachineKind.whole.rank then throw .wrongType
    let choices ← (← items v).mapM arrayArgument
    let kind := (choices.map MachineArray.kind).foldl MachineKind.join .truth
    match choices.foldlM (fun s c => commonShape s c.shape) a.shape with
    | none => throw .badValue
    | some shape =>
      let columns := (choices.map fun c => ((c.cast kind).inShape shape).toArray).toArray
      let ks := a.inShape shape
      if ks.any fun k => k.word < 0 || columns.size ≤ k.word then throw .badValue
      some <$> ofArray ⟨kind, shape, (ks.zip (List.range ks.length)).filterMap fun (k, i) =>
        (columns[k.word.toNat]?).bind fun column => column[i]?⟩
  | "compress", v :: rest => do
    let marks ← arrayArgument v
    if marks.shape.length ≠ 1 then throw .badValue
    let found := (marks.items.zip (List.range marks.items.length)).filterMap fun (m, k) =>
      if m.isNonzero then some (.ofMachineInt k) else none
    some <$> takenAlong a (← axisGiven dimensions rest[0]?) ⟨.whole, [found.length], found⟩
  | "nonzero", [] => do
    if dimensions = 0 then throw .badValue
    let found : List (List Nat) := ((MachineArray.places a.shape).zip a.items).filterMap fun (place, v) =>
      if v.isNonzero then some place else none
    let axes ← (List.range dimensions).mapM fun k =>
      alloc (.vector .whole [found.length] (found.map fun place => .ofMachineInt (((place[k]?).getD 0 : Nat) : Int)))
    return some (.ofTuple axes)
  | "diagonal", [] =>
    match a.shape with
    | [m, n] =>
      let all := a.items.toArray
      let found := (List.range (min m n)).filterMap fun k => all[k * n + k]?
      some <$> alloc (.vector a.kind [found.length] found)
    | _ => if dimensions < 2 then throw .badValue else throw .unsupported
  | "trace", [] =>
    match a.shape with
    | [m, n] =>
      let all := a.items.toArray
      return some (Lane.sum a.kind ((List.range (min m n)).filterMap fun k => all[k * n + k]?))
    | _ => if dimensions < 2 then throw .badValue else throw .unsupported
  | _, _ => return none

/-- A method that computes other numbers from those of an array. -/
def arrayComputation? (r : Option Ref) (a : MachineArray) (name : String) (args : List Value) :
    Run (Option Value) := do
  let σ ← read
  let wanted ←
    if ["cumsum", "cumprod"].contains name then kindGiven args[1]? else pure none
  let a := wanted.elim a a.cast
  let summed := wanted.getD (a.kind.join .whole)
  match name, args with
  | "cumsum", args => do
    leftOut (args.drop 2)
    some <$> alongAxis a args[0]? summed (fun vs => Lane.soFar Lane.plus (vs.map (Value.cast summed)))
  | "cumprod", args => do
    leftOut (args.drop 2)
    some <$> alongAxis a args[0]? summed (fun vs =>
      Lane.soFar (fun v w => Lane.product summed [v, w]) (vs.map (Value.cast summed)))
  | "conj", [] | "conjugate", [] =>
    if a.kind ≠ .complex then return some (← r.elim (ofArray a) fun r => return .ref r)
    some <$> ofArray { a with items := a.items.map fun
      | .complex re im _ => .ofComplex re (-im)
      | v => v }
  | "round", args => do
    leftOut (args.drop 1)
    let places ←
      match args[0]? with
      | none => pure 0
      | some p => index p
    let items ← ofExcept (a.items.mapM fun v => roundedMachine v places)
    some <$> ofArray { a with items }
  | "clip", args => do
    leftOut (args.drop 2)
    let bound (v : Option Value) : Run (Option MachineArray) := do
      match v with
      | none | some .none => return none
      | some v => some <$> arrayArgument v
    let low ← bound args[0]?
    let high ← bound args[1]?
    let kind := [low, high].foldl (fun k b => b.elim k fun b => k.join b.kind) a.kind
    let bounded (isLeast : Bool) (b : Option MachineArray) (c : MachineArray) :
        Run MachineArray := do
      match b with
      | none => return c
      | some b =>
        match commonShape b.shape c.shape with
        | none => throw .badValue
        | some shape =>
          return ⟨kind, shape, List.zipWith (Lane.better isLeast) (c.inShape shape)
            ((b.cast kind).inShape shape)⟩
    some <$> (do ofArray (← bounded true high (← bounded false low (a.cast kind))))
  | "argsort", args => do
    leftOut (args.drop 1)
    match ← orderAxis a args[0]? with
    | none => some <$> alongAxis a none .whole fun vs => (Lane.inOrder vs).map fun p => .ofMachineInt p.2
    | some k => some <$> ofArray (a.replaced k .whole fun vs =>
        (Lane.inOrder vs).map fun p => .ofMachineInt p.2)
  | "searchsorted", v :: rest => do
    leftOut (rest.drop 1)
    let isBehind ←
      match rest[0]? with
      | none => pure false
      | some side =>
        match σ.text? side with
        | some "left" => pure false
        | some "right" => pure true
        | some _ => throw .badValue
        | none => throw .wrongType
    if a.shape.length ≠ 1 then throw .badValue
    let sought ← arrayArgument v
    let kind := a.kind.join sought.kind
    let items := a.items.map (Value.cast kind)
    some <$> ofArray ⟨.whole, sought.shape, sought.items.map fun v =>
      .ofMachineInt (insertionPlace isBehind items (v.cast kind))⟩
  | "dot", [v] => do
    let b ← arrayArgument v
    if a.shape.isEmpty || b.shape.isEmpty then
      some <$> (do ofArray (← ofExcept (a.operate (← read) .mult b)))
    else some <$> innerProduct a b
  | "astype", kind :: rest => do
    if !rest.isEmpty then throw .unsupported
    some <$> ofArray (a.cast (← ofExcept (MachineKind.described σ kind)))
  | "byteswap", [] => some <$> ofArray { a with items := a.items.map bytesTurned }
  | "tobytes", [] => return some (.ofByteList (arrayBytes a))
  | "copy", rest => do
    leftOut rest
    some <$> ofArray a
  | "view", [] => some <$> rearranged r a id
  | "tolist", [] => some <$> nestedList a.shape (a.items.map plainNumber)
  | "item", args => do
    match a.items[← placeGiven a args]? with
    | some v => return some (plainNumber v)
    | none => throw .outOfRange
  | "to_device", [v] => if σ.text? v = some "cpu" then return some (← ofArray a) else throw .badValue
  | _, _ => return none

/-- **A method that changes an array in place.** -/
def arrayChange? (r : Option Ref) (a : MachineArray) (name : String) (args : List Value) :
    Run (Option Value) := do
  let put (a : MachineArray) : Run (Option Value) := do
    match r with
    | some r => update r (.vector a.kind a.shape a.items)
    | none => pure ()
    return some .none
  match name, args with
  | "fill", [v] => do
    let σ ← read
    match σ.arrayLike v with
    | .numbers b =>
      if b.items.length ≠ 1 then throw .badValue
      else
        let items ← numbersFor a.kind a.shape v
        put { a with items }
    | _ => do
      let n ← numberFor a.kind v
      put { a with items := a.items.map fun _ => n }
  | "sort", args => do
    leftOut (args.drop 1)
    match ← orderAxis a args[0]? with
    | none => throw .wrongType
    | some k => put (a.replaced k a.kind fun vs => (Lane.inOrder vs).map Prod.fst)
  | "put", [places, v] => do
    let positions ← arrayArgument places
    if positions.kind.rank > MachineKind.whole.rank && !positions.items.isEmpty then throw .wrongType
    let ks ← ofExcept (positions.items.mapM fun p => rowAt a.items.length p.word)
    let new ← arrayArgument v
    let new := (new.cast a.kind).items
    if new.isEmpty then return some .none
    let items := (ks.zip (List.range ks.length)).foldl (fun items (k, j) =>
      items.set k ((new[j % new.length]?).getD .none)) a.items
    put { a with items }
  | "resize", args => do
    let sizes ← sizesGiven args
    if sizes.any (· < 0) || shapeSize (sizes.map Int.toNat) ≠ a.items.length then throw .badValue
    else put { a with shape := sizes.map Int.toNat }
  | "setflags", _ | "setfield", _ | "partition", _ => throw .unsupported
  | _, _ => return none

/-- **A method of an array**, or of a single machine number. -/
def vectorMethod (r : Option Ref) (a : MachineArray) (name : String) (args : List Value) :
    Run Value := do
  let ways : List (Run (Option Value)) :=
    [arrayReduction? a name args, arrayShaping? r a name args,
      arrayComputation? r a name args, arrayChange? r a name args]
  match ← firstAnswer ways with
  | some v => return v.withTag .none
  | none =>
    if ["argpartition", "choose", "dump", "dumps", "getfield", "tofile", "view", "byteswap",
        "tobytes", "diagonal", "trace", "dot"].contains name then throw .unsupported
    else throw .wrongType
where
  /-- The first answer of some ways to find one. -/
  firstAnswer : List (Run (Option Value)) → Run (Option Value)
    | [] => return none
    | way :: ways => do
      match ← way with
      | some v => return some v
      | none => firstAnswer ways

/-! ## Putting numbers in place -/

/-- **Gives an attribute of an array a value**, for the few that can be given one: its shape, and
all of its numbers. -/
def writeArrayAttribute (r : Ref) (a : MachineArray) (name : String) (v : Value) : Run Unit := do
  match name with
  | "shape" => do
    let shape ← shapeGiven a.items.length (← sizesGiven [v])
    update r (.vector a.kind shape a.items)
  | "flat" => do
    let new := (← arrayArgument v).cast a.kind
    if new.items.isEmpty && !a.items.isEmpty then throw .badValue
    let all := new.items.toArray
    update r (.vector a.kind a.shape
      ((List.range a.items.length).filterMap fun k => all[k % all.size]?))
  | "real" => do
    if a.kind = .complex then throw .unsupported
    update r (.vector a.kind a.shape (← numbersFor a.kind a.shape v))
  | "imag" => throw (if a.kind = .complex then .unsupported else .wrongType)
  | "dtype" | "strides" => throw .unsupported
  | _ => throw .missingAttribute

/-- **Puts numbers in place** at what a subscript of an array picks. -/
def putNumbers (r : Ref) (a : MachineArray) (subscript v : Value) : Run Unit := do
  let places := (List.range a.items.length).map fun (k : Nat) => Value.ofMachineInt k
  let cs ← componentsOf subscript
  let (shape, found) ← pick (completed a.shape.length cs) a.shape places
  let new ← numbersFor a.kind shape v
  let items := (found.zip new).foldl (fun items (p, v) => items.set p.word.toNat v) a.items
  update r (.vector a.kind a.shape items)

end Run

end Narrowing
