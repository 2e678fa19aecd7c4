import Narrowing.Value.ErrorValue
/-!
# Methods of errors

An error takes notes, which it keeps in a list, and is told where it came from; that can
only be taken from it here.
-/

namespace Narrowing.Run

/-- Adds a note to an error. -/
def addNote (r : Ref) (error : ErrorParts) (note : Value) : Run Value := do
  if ((← read).text? note).isNone then throw .wrongType
  match error.attributes.lookup "__notes__" with
  | some (.ref place) =>
    match ← cell? (.ref place) with
    | some (.list items) => do
      update place (.list (items ++ [note]))
      return .none
    | _ => throw .wrongType
  | some _ => throw .wrongType
  | none => do
    let notes ← alloc (.list [note])
    update r (.exception error.name error.args (bindName "__notes__" notes error.attributes))
    return .none

/-- **A method of an error.** -/
def errorMethod (self : Value) (r : Ref) (error : ErrorParts) (name : String) (args : List Value) :
    Run Value := do
  match name, args with
  | "add_note", [note] => addNote r error note
  | "with_traceback", [.none] => return self
  | "derive", [errors] =>
    newError "ExceptionGroup" [(error.attributes.lookup "message").getD .none, errors]
  | "split", [_] | "subgroup", [_] => throw .unsupported
  | _, _ => throw .wrongType

end Narrowing.Run
