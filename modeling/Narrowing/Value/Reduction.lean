import Narrowing.Value.Vector
/-!
# Arrays along an axis

The numbers of an array along one axis, for each place on the other axes, are its **lanes**
along that axis. A lane is reduced to one number, a sum or an extreme, or to another
lane, the sums so far or the numbers in order.

Doubles are added **by halves**: a short lane one after the other, one of middle length in
eight strands, and a long one as the sum of its halves. So the error of a sum grows with the
depth of the halves and not with the length.
-/

namespace Narrowing

/-! ## Lanes -/

/-- **The lanes along an axis.** -/
def lanes {α : Type} (shape : List Nat) (axis : Nat) (items : List α) : List (List α) :=
  let size := (shape[axis]?).getD 1
  let inner := shapeSize (shape.drop (axis + 1))
  (pieces (size * inner) (shapeSize (shape.take axis)) items).flatMap fun block =>
    let rows := pieces inner size block
    (List.range inner).map fun k => rows.filterMap (·[k]?)

/-- The numbers of an array with given lanes along an axis, where those along the last axis
stand together. -/
def ofLanes {α : Type} (shape : List Nat) (axis : Nat) (found : List (List α)) : List α :=
  let size := (found.head?.map List.length).getD 0
  let inner := shapeSize (shape.drop (axis + 1))
  (pieces inner (shapeSize (shape.take axis)) found).flatMap fun block =>
    (List.range size).flatMap fun k => block.filterMap (·[k]?)

/-! ## Sums -/

/-- One strand of a sum: every so many numbers, from one on. -/
def strand (xs : List Float) : Nat → Float
  | k => ((pieces 8 (xs.length / 8) xs).drop 1).foldl (fun s row => s + (row[k]?).getD 0.0)
    ((xs[k]?).getD 0.0)

/-- The sum of doubles in eight strands, and what is left one after the other. -/
def strandSum (xs : List Float) : Float :=
  let s (k : Nat) : Float := strand xs k
  (xs.drop (8 * (xs.length / 8))).foldl (· + ·)
    (((s 0 + s 1) + (s 2 + s 3)) + ((s 4 + s 5) + (s 6 + s 7)))

/-- The sum of doubles by halves, which are halved in turn at most so often. -/
def halvedSum : Nat → List Float → Float
  | 0, xs => xs.foldl (· + ·) (-0.0)
  | depth + 1, xs =>
    if xs.length < 8 then xs.foldl (· + ·) (-0.0)
    else if xs.length ≤ 128 then strandSum xs
    else
      let half := xs.length / 2 - xs.length / 2 % 8
      halvedSum depth (xs.take half) + halvedSum depth (xs.drop half)

/-- **The sum of doubles.** -/
def sumOfFloats (xs : List Float) : Float := 0.0 + halvedSum 64 xs

/-- The sum of pairs of doubles in four strands of pairs, by halves. -/
def halvedPairSum : Nat → List (Float × Float) → Float × Float
  | 0, ps => ps.foldl (fun (a, b) (c, d) => (a + c, b + d)) (-0.0, -0.0)
  | depth + 1, ps =>
    let add (p q : Float × Float) : Float × Float := (p.1 + q.1, p.2 + q.2)
    if ps.length < 4 then ps.foldl add (-0.0, -0.0)
    else if ps.length ≤ 64 then
      let rows := pieces 4 (ps.length / 4) ps
      let s (k : Nat) : Float × Float :=
        (rows.drop 1).foldl (fun p row => add p ((row[k]?).getD (0.0, 0.0)))
          ((ps[k]?).getD (0.0, 0.0))
      (ps.drop (4 * (ps.length / 4))).foldl add (add (add (s 0) (s 1)) (add (s 2) (s 3)))
    else
      let half := ps.length / 2 - ps.length / 2 % 4
      add (halvedPairSum depth (ps.take half)) (halvedPairSum depth (ps.drop half))

/-- The double that a number of an array is. -/
def Value.double : Value → Float
  | .machineFloat x _ => x
  | .machineInt i _ => ((Number.int i).toFloat?).getD 0.0
  | .machineBool b => if b then 1.0 else 0.0
  | .complex re _ _ => re
  | _ => 0.0

/-- The pair of doubles that a number of an array is. -/
def Value.pair : Value → Float × Float
  | .complex re im _ => (re, im)
  | v => (v.double, 0.0)

/-- Whether a number of an array is not zero. -/
def Value.isNonzero : Value → Bool
  | .machineFloat x _ => x != 0.0
  | .complex re im _ => re != 0.0 || im != 0.0
  | v => v.word != 0

/-- Whether a number of an array is none. -/
def Value.isNoNumber : Value → Bool
  | .machineFloat x _ => x.isNaN
  | .complex re im _ => re.isNaN || im.isNaN
  | _ => false

namespace Lane

/-- **The sum of a lane.** Truth values are counted. -/
def sum (kind : MachineKind) (items : List Value) : Value :=
  match kind with
  | .truth | .whole => wrapped (items.foldl (fun s v => s + v.word) 0)
  | .real => .ofMachineFloat (sumOfFloats (items.map Value.double))
  | .complex =>
    let (re, im) := halvedPairSum 64 (items.map Value.pair)
    .ofComplex (0.0 + re) (0.0 + im)

/-- The sum of two numbers of one kind. -/
def plus (v w : Value) : Value :=
  match v, w with
  | .machineFloat x _, .machineFloat y _ => .ofMachineFloat (x + y)
  | .complex a b _, .complex c d _ => .ofComplex (a + c) (b + d)
  | v, w => wrapped (v.word + w.word)

/-- **The product of a lane.** -/
def product (kind : MachineKind) (items : List Value) : Value :=
  match kind with
  | .truth | .whole =>
    .ofMachineInt (items.foldl (fun p v => Word.wrap 63 (p * v.word)) 1)
  | .real => .ofMachineFloat (items.foldl (fun p v => p * v.double) 1.0)
  | .complex =>
    let (re, im) := items.foldl (fun p v => ComplexNumber.mul p v.pair) (1.0, 0.0)
    .ofComplex re im

/-- The sums so far, or the products so far. -/
def soFar (join : Value → Value → Value) : List Value → List Value
  | [] => []
  | v :: vs => go v vs
where
  /-- The results so far from one on. -/
  go (v : Value) : List Value → List Value
    | [] => [v]
    | w :: ws => v :: go (join v w) ws

/-- Whether one number goes before another in an order from the least on, or from the
greatest on. -/
def isBefore (isLeast : Bool) (v w : Value) : Bool :=
  match v, w with
  | .machineFloat x _, .machineFloat y _ => if isLeast then x < y else y < x
  | .complex a b _, .complex c d _ =>
    if isLeast then a < c || (a == c && b < d) else c < a || (a == c && d < b)
  | v, w => if isLeast then v.word < w.word else w.word < v.word

/-- The better of two numbers: one that is none, if there is one, and of two equal ones the
second. -/
def better (isLeast : Bool) (v w : Value) : Value :=
  if v.isNoNumber || isBefore isLeast v w then v else w

/-- **The least or the greatest number of a lane.** -/
def extreme? (isLeast : Bool) : List Value → Option Value
  | [] => none
  | v :: vs => some (vs.foldl (better isLeast) v)

/-- The place of the first extreme of a lane, where one that is no number counts as
such. -/
def extremePlace? (isLeast : Bool) (items : List Value) : Option Nat :=
  match items with
  | [] => none
  | v :: vs =>
    let step : Value × Nat × Nat → Value → Value × Nat × Nat := fun (best, at', k) w =>
      if !best.isNoNumber && (w.isNoNumber || isBefore isLeast w best) then (w, k, k + 1)
      else (best, at', k + 1)
    some (vs.foldl step (v, 0, 1)).2.1

/-- **The mean of a lane**, a double unless the numbers are pairs. -/
def mean (kind : MachineKind) (items : List Value) : Value :=
  let n : Float := items.length.toFloat
  match kind with
  | .complex =>
    let (re, im) := halvedPairSum 64 (items.map Value.pair)
    .ofComplex ((0.0 + re) / n) ((0.0 + im) / n)
  | _ => .ofMachineFloat (sumOfFloats (items.map Value.double) / n)

/-- **The variance of a lane**: the mean square of the distances from the mean, where the
number of squares is less by some. -/
def variance (kind : MachineKind) (less : Float) (items : List Value) : Float :=
  let n : Float := items.length.toFloat
  let left := if n - less < 0.0 then 0.0 else n - less
  match kind, mean kind items with
  | .complex, m =>
    let (a, b) := m.pair
    let squares := items.map fun v =>
      let (c, d) := v.pair
      (c - a) * (c - a) + (d - b) * (d - b)
    sumOfFloats squares / left
  | _, m =>
    let squares := items.map fun v => (v.double - m.double) * (v.double - m.double)
    sumOfFloats squares / left

/-- The numbers of a lane in order with their places, those that are none last. -/
def inOrder (items : List Value) : List (Value × Nat) :=
  let isNotAfter (v w : Value × Nat) : Bool :=
    w.1.isNoNumber || (!v.1.isNoNumber && !isBefore true w.1 v.1)
  (items.zip (List.range items.length)).mergeSort isNotAfter

end Lane

namespace MachineArray

/-- **An array with every lane along an axis reduced to a number**, or all of its numbers. -/
def reduced (a : MachineArray) (axis : Option Nat) (kind : MachineKind)
    (f : List Value → Value) : MachineArray :=
  match axis with
  | none => ⟨kind, [], [f a.items]⟩
  | some k => ⟨kind, a.shape.eraseIdx k, (lanes a.shape k a.items).map f⟩

/-- An array with every lane along an axis replaced by one of a length. -/
def replaced (a : MachineArray) (axis : Nat) (kind : MachineKind)
    (f : List Value → List Value) : MachineArray :=
  let found := (lanes a.shape axis a.items).map f
  let size := (found.head?.map List.length).getD ((a.shape[axis]?).getD 0)
  ⟨kind, a.shape.set axis size, ofLanes a.shape axis found⟩

/-- **An array with its axes in another order.** -/
def withAxes (a : MachineArray) (order : List Nat) : MachineArray :=
  let shape := order.map fun k => (a.shape[k]?).getD 1
  let all := a.items.toArray
  let inverse := (List.range order.length).map fun k => order.findIdx (· = k)
  let items := (places shape).filterMap fun place =>
    all[placeNumber a.shape (inverse.map fun k => (place[k]?).getD 0)]?
  ⟨a.kind, shape, items⟩

end MachineArray

/-! ## Changes of kind -/

/-- What a double is as a word: without its places, and the least word if it is none. -/
def wordOfDouble (x : Float) : Int :=
  match truncated? x with
  | some i => if Word.fits 63 i then i else -(Word.count 63 : Int)
  | none => -(Word.count 63 : Int)

/-- **A number of an array as one of another kind**, whatever is lost. -/
def Value.cast (kind : MachineKind) (v : Value) : Value :=
  match kind with
  | .truth => .machineBool v.isNonzero
  | .whole =>
    match v with
    | .machineFloat x _ => .ofMachineInt (wordOfDouble x)
    | .complex re _ _ => .ofMachineInt (wordOfDouble re)
    | v => .ofMachineInt v.word
  | .real => .ofMachineFloat v.double
  | .complex =>
    let (re, im) := v.pair
    .ofComplex re im

/-- An array with its numbers as those of another kind. -/
def MachineArray.cast (a : MachineArray) (kind : MachineKind) : MachineArray :=
  ⟨kind, a.shape, a.items.map (Value.cast kind)⟩

end Narrowing
