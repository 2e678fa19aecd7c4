import Narrowing.Code.Node
/-!
# The schema of trees

The names under which trees are exchanged: each kind has a label, each of its
slots a field, and what the kind carries besides child nodes is given as named
traits. `Kind.describe` and `Kind.ofDescription` go from a kind to its label and
traits and back.
-/

namespace Narrowing.Code

/-- **What a kind carries besides child nodes**, as exchanged. -/
inductive Trait where
  | text (s : String)
  | texts (ss : List String)
  | number (n : Nat)
  | constant (c : Constant)

namespace Trait

/-- The text of a trait, empty if it is none. -/
def asText : Trait → String
  | text s => s
  | _ => ""

/-- The texts of a trait, none if it is something else. -/
def asTexts : Trait → List String
  | texts ss => ss
  | _ => []

/-- The number of a trait, zero if it is something else. -/
def asNumber : Trait → Nat
  | number n => n
  | _ => 0

end Trait

/-! ## Labels of operators -/

/-- The labels of the binary operators. -/
def BinaryOp.labels : List (String × BinaryOp) :=
  [("Add", .add), ("Sub", .sub), ("Mult", .mult), ("MatMult", .matMult), ("Div", .div),
    ("Mod", .mod), ("Pow", .pow), ("LShift", .lShift), ("RShift", .rShift), ("BitOr", .bitOr),
    ("BitXor", .bitXor), ("BitAnd", .bitAnd), ("FloorDiv", .floorDiv)]

/-- The labels of the unary operators. -/
def UnaryOp.labels : List (String × UnaryOp) :=
  [("Invert", .invert), ("Not", .not), ("UAdd", .uAdd), ("USub", .uSub)]

/-- The labels of the operators that may skip operands. -/
def BoolOp.labels : List (String × BoolOp) := [("And", .and), ("Or", .or)]

/-- The labels of the comparisons. -/
def CompareOp.labels : List (String × CompareOp) :=
  [("Eq", .eq), ("NotEq", .notEq), ("Lt", .lt), ("LtE", .ltE), ("Gt", .gt), ("GtE", .gtE),
    ("Is", .is), ("IsNot", .isNot), ("In", .isIn), ("NotIn", .notIn)]

/-- The labels of the contexts. -/
def Context.labels : List (String × Context) :=
  [("Load", .load), ("Store", .store), ("Del", .del)]

/-- The label of a value in a table. -/
def labelIn {α : Type} [DecidableEq α] (labels : List (String × α)) (a : α) : String :=
  match labels.find? fun (_, b) => a = b with
  | some (s, _) => s
  | none => ""

/-- The value of a label in a table, or another value. -/
def labelled {α : Type} (labels : List (String × α)) (other : α) (label : String) : α :=
  (labels.lookup label).getD other

/-! ## Labels, fields and traits of kinds -/

/-- **The fields of the slots of a kind**, in their order. -/
def Kind.fields : Kind → List String
  | .functionDef .. => ["args", "body", "decorator_list", "returns"]
  | .classDef _ => ["bases", "keywords", "body", "decorator_list"]
  | .returnStmt | .yield | .exprStmt | .await | .yieldFrom | .member .. | .starred _
  | .keyword _ => ["value"]
  | .delete => ["targets"]
  | .assign => ["targets", "value"]
  | .augAssign _ | .namedExpr => ["target", "value"]
  | .annAssign => ["target", "annotation", "value"]
  | .forStmt _ => ["target", "iter", "body", "orelse"]
  | .whileStmt | .ifStmt | .ifExp => ["test", "body", "orelse"]
  | .withStmt _ => ["items", "body"]
  | .raise => ["exc", "cause"]
  | .tryStmt => ["body", "handlers", "orelse", "finalbody"]
  | .assertStmt => ["test", "msg"]
  | .importStmt | .importFrom .. => ["names"]
  | .boolOp _ => ["values"]
  | .binOp _ => ["left", "right"]
  | .unaryOp _ => ["operand"]
  | .lambda => ["args", "body"]
  | .dict => ["keys", "values"]
  | .set | .list _ | .tuple _ => ["elts"]
  | .listComp | .setComp | .generatorExp => ["elt", "generators"]
  | .dictComp => ["key", "value", "generators"]
  | .compare _ => ["left", "comparators"]
  | .call => ["func", "args", "keywords"]
  | .subscript _ => ["value", "slice"]
  | .slice => ["lower", "upper", "step"]
  | .comprehension _ => ["target", "iter", "ifs"]
  | .exceptHandler _ => ["type", "body"]
  | .arguments => ["posonlyargs", "args", "vararg", "kwonlyargs", "kw_defaults", "kwarg", "defaults"]
  | .arg _ => ["annotation"]
  | .withItem => ["context_expr", "optional_vars"]
  | .globalStmt _ | .nonlocalStmt _ | .pass | .breakStmt | .continueStmt | .constant _ | .name ..
  | .importedName .. | .absent => []

/-- The trait of a context; reading needs none. -/
def Context.traits (c : Context) : List (String × Trait) :=
  if c = .load then [] else [("ctx", .text (labelIn Context.labels c))]

/-- The trait of a text that may be missing. -/
def optionalTrait (name : String) (s : Option String) : List (String × Trait) :=
  s.toList.map fun s => (name, .text s)

/-- The trait of a number; zero needs none. -/
def numberTrait (name : String) (n : Nat) : List (String × Trait) :=
  if n = 0 then [] else [(name, .number n)]

/-- **The label of a kind and its traits.** -/
def Kind.describe : Kind → String × List (String × Trait)
  | .functionDef s isAsync =>
    (if isAsync then "AsyncFunctionDef" else "FunctionDef", [("name", .text s)])
  | .classDef s => ("ClassDef", [("name", .text s)])
  | .returnStmt => ("Return", [])
  | .delete => ("Delete", [])
  | .assign => ("Assign", [])
  | .augAssign op => ("AugAssign", [("op", .text (labelIn BinaryOp.labels op))])
  | .annAssign => ("AnnAssign", [])
  | .forStmt isAsync => (if isAsync then "AsyncFor" else "For", [])
  | .whileStmt => ("While", [])
  | .ifStmt => ("If", [])
  | .withStmt isAsync => (if isAsync then "AsyncWith" else "With", [])
  | .raise => ("Raise", [])
  | .tryStmt => ("Try", [])
  | .assertStmt => ("Assert", [])
  | .importStmt => ("Import", [])
  | .importFrom module level =>
    ("ImportFrom", optionalTrait "module" module ++ numberTrait "level" level)
  | .globalStmt names => ("Global", [("names", .texts names)])
  | .nonlocalStmt names => ("Nonlocal", [("names", .texts names)])
  | .exprStmt => ("Expr", [])
  | .pass => ("Pass", [])
  | .breakStmt => ("Break", [])
  | .continueStmt => ("Continue", [])
  | .boolOp op => ("BoolOp", [("op", .text (labelIn BoolOp.labels op))])
  | .namedExpr => ("NamedExpr", [])
  | .binOp op => ("BinOp", [("op", .text (labelIn BinaryOp.labels op))])
  | .unaryOp op => ("UnaryOp", [("op", .text (labelIn UnaryOp.labels op))])
  | .lambda => ("Lambda", [])
  | .ifExp => ("IfExp", [])
  | .dict => ("Dict", [])
  | .set => ("Set", [])
  | .listComp => ("ListComp", [])
  | .setComp => ("SetComp", [])
  | .dictComp => ("DictComp", [])
  | .generatorExp => ("GeneratorExp", [])
  | .await => ("Await", [])
  | .yield => ("Yield", [])
  | .yieldFrom => ("YieldFrom", [])
  | .compare ops => ("Compare", [("ops", .texts (ops.map (labelIn CompareOp.labels)))])
  | .call => ("Call", [])
  | .constant c => ("Constant", [("value", .constant c)])
  | .member attr ctx => ("Attribute", ("attr", .text attr) :: ctx.traits)
  | .subscript ctx => ("Subscript", ctx.traits)
  | .starred ctx => ("Starred", ctx.traits)
  | .name id ctx => ("Name", ("id", .text id) :: ctx.traits)
  | .list ctx => ("List", ctx.traits)
  | .tuple ctx => ("Tuple", ctx.traits)
  | .slice => ("Slice", [])
  | .comprehension isAsync => ("comprehension", numberTrait "is_async" isAsync.toNat)
  | .exceptHandler s => ("ExceptHandler", optionalTrait "name" s)
  | .arguments => ("arguments", [])
  | .arg s => ("arg", [("arg", .text s)])
  | .keyword s => ("keyword", optionalTrait "arg" s)
  | .importedName s asname => ("alias", ("name", .text s) :: optionalTrait "asname" asname)
  | .withItem => ("withitem", [])
  | .absent => ("", [])

/-- **The kind of a label and traits**, which are looked up by name. -/
def Kind.ofDescription (label : String) (trait? : String → Option Trait) : Kind :=
  let text? (s : String) : Option String := (trait? s).map Trait.asText
  let text (s : String) : String := (text? s).getD ""
  let texts (s : String) : List String := ((trait? s).map Trait.asTexts).getD []
  let number (s : String) : Nat := ((trait? s).map Trait.asNumber).getD 0
  let ctx := labelled Context.labels .load (text "ctx")
  let binary := labelled BinaryOp.labels .add (text "op")
  match label with
  | "FunctionDef" => .functionDef (text "name") false
  | "AsyncFunctionDef" => .functionDef (text "name") true
  | "ClassDef" => .classDef (text "name")
  | "Return" => .returnStmt
  | "Delete" => .delete
  | "Assign" => .assign
  | "AugAssign" => .augAssign binary
  | "AnnAssign" => .annAssign
  | "For" => .forStmt false
  | "AsyncFor" => .forStmt true
  | "While" => .whileStmt
  | "If" => .ifStmt
  | "With" => .withStmt false
  | "AsyncWith" => .withStmt true
  | "Raise" => .raise
  | "Try" => .tryStmt
  | "Assert" => .assertStmt
  | "Import" => .importStmt
  | "ImportFrom" => .importFrom (text? "module") (number "level")
  | "Global" => .globalStmt (texts "names")
  | "Nonlocal" => .nonlocalStmt (texts "names")
  | "Expr" => .exprStmt
  | "Pass" => .pass
  | "Break" => .breakStmt
  | "Continue" => .continueStmt
  | "BoolOp" => .boolOp (labelled BoolOp.labels .and (text "op"))
  | "NamedExpr" => .namedExpr
  | "BinOp" => .binOp binary
  | "UnaryOp" => .unaryOp (labelled UnaryOp.labels .not (text "op"))
  | "Lambda" => .lambda
  | "IfExp" => .ifExp
  | "Dict" => .dict
  | "Set" => .set
  | "ListComp" => .listComp
  | "SetComp" => .setComp
  | "DictComp" => .dictComp
  | "GeneratorExp" => .generatorExp
  | "Await" => .await
  | "Yield" => .yield
  | "YieldFrom" => .yieldFrom
  | "Compare" => .compare ((texts "ops").map (labelled CompareOp.labels .eq))
  | "Call" => .call
  | "Constant" =>
    match trait? "value" with
    | some (.constant c) => .constant c
    | _ => .constant .none
  | "Attribute" => .member (text "attr") ctx
  | "Subscript" => .subscript ctx
  | "Starred" => .starred ctx
  | "Name" => .name (text "id") ctx
  | "List" => .list ctx
  | "Tuple" => .tuple ctx
  | "Slice" => .slice
  | "comprehension" => .comprehension (number "is_async" ≠ 0)
  | "ExceptHandler" => .exceptHandler (text? "name")
  | "arguments" => .arguments
  | "arg" => .arg (text "arg")
  | "keyword" => .keyword (text? "arg")
  | "alias" => .importedName (text "name") (text? "asname")
  | "withitem" => .withItem
  | _ => .absent

/-- Whether a slot of a kind holds the parameters of a function, which are there
even if nothing is written. -/
def Kind.takesParameters : Kind → Bool
  | .functionDef .. | .lambda => true
  | _ => false

end Narrowing.Code
