import Narrowing.Code.Node
/-!
# Declarations of a body

A name may be declared global, or as one of an enclosing function, only once in
a scope. Before a body is copied, its declarations are therefore taken out: each
statement that declares names becomes one that does nothing, and the names are
collected, each once, in the order they are met. Nested functions, function
expressions and classes keep their own.
-/

namespace Narrowing.Code

/-- **The names declared in a body.** -/
structure Declared where
  /-- The names declared global. -/
  globals : List String := []
  /-- The names declared to belong to an enclosing function. -/
  nonlocals : List String := []
deriving DecidableEq

namespace Declared

/-- Adds the names that are not there yet. -/
def addNew (known : List String) (names : List String) : List String :=
  names.foldl (fun known n => if known.contains n then known else known ++ [n]) known

/-- **The statements that declare these names.** -/
def statements (d : Declared) : List Node :=
  (if d.globals.isEmpty then [] else [.globalStmt d.globals]) ++
    (if d.nonlocals.isEmpty then [] else [.nonlocalStmt d.nonlocals])

end Declared

/-- Whether a node keeps the declarations below it. -/
def Kind.keepsDeclarations : Kind → Bool
  | .functionDef .. | .classDef _ | .lambda => true
  | _ => false

mutual

/-- **Takes the declarations out of a tree**, adding them to those known. -/
def hoist (d : Declared) : Node → Node × Declared
  | .mk (.globalStmt names) _ => (.pass, { d with globals := Declared.addNew d.globals names })
  | .mk (.nonlocalStmt names) _ =>
    (.pass, { d with nonlocals := Declared.addNew d.nonlocals names })
  | .mk k slots =>
    if k.keepsDeclarations then (.mk k slots, d)
    else
      let (slots, d) := hoistSlots d slots
      (.mk k slots, d)

/-- Takes the declarations out of the trees of some slots. -/
def hoistSlots (d : Declared) : List (List Node) → List (List Node) × Declared
  | [] => ([], d)
  | s :: ss =>
    let (s, d) := hoistList d s
    let (ss, d) := hoistSlots d ss
    (s :: ss, d)

/-- **Takes the declarations out of a body**, statement by statement. -/
def hoistList (d : Declared) : List Node → List Node × Declared
  | [] => ([], d)
  | n :: ns =>
    let (n, d) := hoist d n
    let (ns, d) := hoistList d ns
    (n :: ns, d)

end

end Narrowing.Code
