import Narrowing.Value.TypedArray
/-!
# Arrays of machine numbers of given items

An array of machine numbers is made of the items that it is to hold, each of which becomes a
number of the kind that all of them go together in.
-/

namespace Narrowing.Run

/-- **The array of machine numbers** that holds the given items. -/
def newVector (items : List Value) : Run Value := do
  let σ ← read
  match ArrayLike.ofList (items.map σ.arrayLike) with
  | .numbers a => do
    let number (v : Value) : Except Failure Value :=
      match σ.number? v with
      | some n => n.machineValue a.kind
      | none => .error .wrongType
    alloc (.vector a.kind a.shape (← ofExcept (a.items.mapM number)))
  | .uneven => throw .badValue
  | .texts | .objects => throw .unsupported

end Narrowing.Run
