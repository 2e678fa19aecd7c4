import Narrowing.Value.Iterator
/-!
# Sorting values

Values are put in order by asking of two of them at a time whether one comes before the
other. Equal values keep their order. What is asked is what an insertion sort asks that
looks for the place of each value by halves, after the run that the values begin with;
so values that have no order among themselves come out as they would there.
-/

namespace Narrowing.Run

/-- **Whether a value comes before another.** -/
abbrev Before := Value → Value → Run Bool

/-- How many values follow the first without coming before their forerunner, or, for a
falling run, while they do. -/
def runLength (less : Before) (isFalling : Bool) : Value → List Value → Run Nat
  | _, [] => return 0
  | v, w :: ws => do
    if (← less w v) = isFalling then return (← runLength less isFalling w ws) + 1 else return 0

/-- The place of a value among the sorted values from `low` to before `high`, by at most
so many halvings. -/
def placeAmong (less : Before) (sorted : Array Value) (v : Value) : Nat → Nat → Nat → Run Nat
  | 0, low, _ => return low
  | steps + 1, low, high => do
    if low < high then
      let middle := low + (high - low) / 2
      match sorted[middle]? with
      | none => return low
      | some w =>
        if ← less v w then placeAmong less sorted v steps low middle
        else placeAmong less sorted v steps (middle + 1) high
    else return low

/-- Puts values one by one in their places among sorted ones. -/
def insertAll (less : Before) (sorted : Array Value) : List Value → Run (Array Value)
  | [] => return sorted
  | v :: vs => do
    let place ← placeAmong less sorted v (sorted.size + 1) 0 sorted.size
    insertAll less (sorted.extract 0 place ++ #[v] ++ sorted.extract place sorted.size) vs

/-- **Values in order.** -/
def sortedBy (less : Before) (vs : List Value) : Run (List Value) := do
  match vs with
  | v :: w :: rest => do
    let isFalling ← less w v
    let more ← runLength less isFalling w rest
    let first := (v :: w :: rest).take (more + 2)
    let sorted ← insertAll less (if isFalling then first.reverse else first).toArray
      (rest.drop more)
    return sorted.toList
  | vs => return vs

/-- **Values in the order of their keys**, or in the opposite order. -/
def sortedByKey (key : Option Value) (isReversed : Bool) (vs : List Value) : Run (List Value) := do
  match key with
  | none => do
    let sorted ← sortedBy isLess (if isReversed then vs.reverse else vs)
    return if isReversed then sorted.reverse else sorted
  | some f => do
    let pairs ← vs.mapM fun v => return (.ofTuple [← invoke f [v], v] : Value)
    let less : Before := fun v w =>
      match v, w with
      | .tuple (k :: _) _, .tuple (l :: _) _ => isLess k l
      | _, _ => throw .wrongType
    let sorted ← sortedBy less (if isReversed then pairs.reverse else pairs)
    let sorted := if isReversed then sorted.reverse else sorted
    return sorted.filterMap fun v =>
      match v with
      | .tuple [_, w] _ => some w
      | _ => none

end Narrowing.Run
