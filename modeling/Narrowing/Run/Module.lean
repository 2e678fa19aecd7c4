import Narrowing.Run.Calls
/-!
# Modules

A module is a body of statements run once in a frame of its own, in which some
names may have a value beforehand. Its functions are then reached by name.
-/

namespace Narrowing

open Code

namespace Run

/-- What every module has under certain names. -/
def moduleFacts (name : String) (doc : Value) : List (String × Value) :=
  [("__name__", .ofName name), ("__doc__", doc), ("__package__", .none), ("__loader__", .none),
    ("__spec__", .none)]

/-- Code that stands in a new text. -/
def inNewText (c : Site) : Run Site :=
  ⟨fun σ => .done { c with textUnit := σ.textUnits } { σ with textUnits := σ.textUnits + 1 },
    fun _ => .of_cells rfl⟩

/-- **Runs a module**; code that runs later stands where the result says. -/
def loadModule (name : String) (predefined : List (String × Value)) (body : List Node) :
    Run Site := do
  let globals ← newPlace (.frame {})
  let c ← inNewText { module := name, globals }
  let doc ← documentationOf c body
  rebindIn globals fun _ => moduleFacts name doc ++ predefined
  let _ ← inOrder c (Node.meaningsOfAll body)
  return c

/-- The value of a path of names, the first of which is looked up in the
module. -/
def lookUp (c : Site) : List String → Run Value
  | [] => throw .unboundName
  | name :: attrs => do attrs.foldlM readAttribute (← readGlobal c name)

/-- The value of a name of the module alone. -/
def moduleName? (c : Site) (name : String) : Run (Option Value) :=
  return (← read).binding? c.globals name

/-- The names of the module. -/
def moduleNames (c : Site) : Run (List String) :=
  return (((← read).frame? c.globals).elim [] Frame.bindings).map Prod.fst

end Run

end Narrowing
