import Narrowing.Value.ErrorValue
/-!
# Methods of calls that run by halves

A call that runs by halves can be sent the value that its interruption is to have, or made
to go on with a failure there. To close it makes it go on with a failure of its own, at which
it has to end.
-/

namespace Narrowing.Run

/-- The failure that closing a call makes it go on with. -/
def closing : Failure := .ofName "GeneratorExit"

/-- **Closes a call.** What has not begun, or is over, needs not go on for that. -/
def closeActivation (r : Ref) : Run Value := do
  match ← cell? (.ref r) with
  | some (.activation f bindings .fresh) => do
    update r (.activation f bindings .over)
    return .none
  | some (.activation _ _ .over) => return .none
  | _ => do
    let ended ← orNone (do let _ ← ask (.resume r (.error closing))) fun f =>
      f.isA "GeneratorExit" || f.isA "StopIteration"
    if ended.isSome then throw .badState else return .none

/-- The failure that arguments name: an error, or a class of them with what an error of it is
made of. -/
def failureGiven (args : List Value) : Run Failure := do
  match args with
  | [v] | [v, .none] | [v, .none, .none] => raised v
  | [.cls t, v] | [.cls t, v, .none] => do
    let σ ← read
    if (σ.errorBase? t).isNone then return .wrongType
    if σ.derives (σ.typeOf v) t then raised v
    else
      match v with
      | .tuple items _ => do raised (← ask (.call (.cls t) items []))
      | v => do raised (← invoke (.cls t) [v])
  | [_, _] | [_, _, _] => return .wrongType
  | _ => throw .wrongType

/-- **A method of a call that runs by halves.** -/
def activationMethod (r : Ref) (name : String) (args : List Value) : Run Value := do
  match name, args with
  | "send", [v] => ask (.resume r (.ok v))
  | "throw", args =>
    match ← failureGiven args with
    | .wrongType => throw .wrongType
    | f => ask (.resume r (.error f))
  | "close", [] => closeActivation r
  | _, _ => throw .wrongType

end Narrowing.Run
