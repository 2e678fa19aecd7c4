/-!
# Code as trees

Dispatches are made from code, so code is data here. A **node** has a kind and
slots: the kind carries what is not itself code (names, operators, constants)
and each slot holds the child nodes of one field, in source order. A field that
may be missing is a slot with no node or one, and a missing entry inside a list
is the node `Node.absent`.

All kinds share one shape because most of what is done to code treats them
alike: looking for a binding, rewriting element accesses and moving declarations
each say something about a few kinds and go through all the others unchanged.
Where kinds do matter, in printing, parsing and running code, each is written
through a pattern of its own (`Node.call`, `Node.ifStmt`, …), which fixes how
many slots it has and what they hold.
-/

namespace Narrowing.Code

/-! ## Kinds -/

/-- Operators between two operands. -/
inductive BinaryOp where
  | add | sub | mult | matMult | div | mod | pow | lShift | rShift | bitOr | bitXor | bitAnd
  | floorDiv
deriving DecidableEq, Repr

/-- Operators on one operand. -/
inductive UnaryOp where
  | invert | not | uAdd | uSub
deriving DecidableEq, Repr

/-- Operators that may skip operands. -/
inductive BoolOp where
  | and | or
deriving DecidableEq, Repr

/-- Comparisons. -/
inductive CompareOp where
  | eq | notEq | lt | ltE | gt | gtE | is | isNot | isIn | notIn
deriving DecidableEq, Repr

/-- What is done to the place an expression denotes. -/
inductive Context where
  | load | store | del
deriving DecidableEq, Repr

/-- The values that code can spell directly. -/
inductive Constant where
  | none
  | bool (b : Bool)
  | int (i : Int)
  | float (x : Float)
  | complex (re im : Float)
  | str (s : String)
  /-- A text whose literal carries the mark `u`. -/
  | marked (s : String)
  /-- A text with code points that are no characters. -/
  | points (ps : List Nat)
  | bytes (bs : List Nat)
  | ellipsis
  /-- A value that no literal denotes: its text, and a form that only its origin
  can read. -/
  | foreign (text form : String)

/-- The text that a constant is, if all of it is characters. -/
def Constant.text? : Constant → Option String
  | .str s | .marked s => some s
  | _ => Option.none

/-- Whether a constant is a text. -/
def Constant.isText : Constant → Bool
  | .str _ | .marked _ | .points _ => true
  | _ => false

/-- **The constant of a text** by its code points. -/
def Constant.ofPoints (ps : List Nat) (isMarked : Bool) : Constant :=
  if ps.all fun p => p.isValidChar then
    let s := String.ofList (ps.map Char.ofNat)
    if isMarked then .marked s else .str s
  else .points ps

/-- **The kinds of nodes**: statements, expressions and the parts of both. -/
inductive Kind where
  -- statements
  | functionDef (name : String) (isAsync : Bool)
  | classDef (name : String)
  | returnStmt
  | delete
  | assign
  | augAssign (op : BinaryOp)
  | annAssign
  | forStmt (isAsync : Bool)
  | whileStmt
  | ifStmt
  | withStmt (isAsync : Bool)
  | raise
  | tryStmt
  | assertStmt
  | importStmt
  | importFrom (module : Option String) (level : Nat)
  | globalStmt (names : List String)
  | nonlocalStmt (names : List String)
  | exprStmt
  | pass
  | breakStmt
  | continueStmt
  -- expressions
  | boolOp (op : BoolOp)
  | namedExpr
  | binOp (op : BinaryOp)
  | unaryOp (op : UnaryOp)
  | lambda
  | ifExp
  | dict
  | set
  | listComp
  | setComp
  | dictComp
  | generatorExp
  | await
  | yield
  | yieldFrom
  | compare (ops : List CompareOp)
  | call
  | constant (value : Constant)
  | member (attr : String) (ctx : Context)
  | subscript (ctx : Context)
  | starred (ctx : Context)
  | name (id : String) (ctx : Context)
  | list (ctx : Context)
  | tuple (ctx : Context)
  | slice
  -- parts
  | comprehension (isAsync : Bool)
  | exceptHandler (name : Option String)
  | arguments
  | arg (name : String)
  | keyword (name : Option String)
  | importedName (name : String) (asname : Option String)
  | withItem
  | absent

/-- **A node**: its kind and, per slot, its children. -/
inductive Node where
  | mk (kind : Kind) (slots : List (List Node))

/-- How many nodes a slot holds. -/
inductive Arity where
  | one | optional | many
deriving DecidableEq

/-- **The slots of each kind**, in source order. -/
def Kind.arities : Kind → List Arity
  | .functionDef .. => [.one, .many, .many, .optional]
  | .classDef _ => [.many, .many, .many, .many]
  | .returnStmt | .yield => [.optional]
  | .delete | .importStmt | .importFrom .. | .boolOp _ | .set | .list _ | .tuple _ => [.many]
  | .assign => [.many, .one]
  | .augAssign _ | .namedExpr | .binOp _ | .subscript _ => [.one, .one]
  | .annAssign => [.one, .one, .optional]
  | .forStmt _ => [.one, .one, .many, .many]
  | .whileStmt | .ifStmt => [.one, .many, .many]
  | .withStmt _ => [.many, .many]
  | .raise => [.optional, .optional]
  | .tryStmt => [.many, .many, .many, .many]
  | .assertStmt => [.one, .optional]
  | .exprStmt | .unaryOp _ | .await | .yieldFrom | .member .. | .starred _ | .keyword _ =>
    [.one]
  | .globalStmt _ | .nonlocalStmt _ | .pass | .breakStmt | .continueStmt | .constant _
  | .name .. | .importedName .. | .absent => []
  | .lambda => [.one, .one]
  | .ifExp => [.one, .one, .one]
  | .dict => [.many, .many]
  | .listComp | .setComp | .generatorExp => [.one, .many]
  | .dictComp => [.one, .one, .many]
  | .compare _ => [.one, .many]
  | .call => [.one, .many, .many]
  | .slice => [.optional, .optional, .optional]
  | .comprehension _ => [.one, .one, .many]
  | .exceptHandler _ => [.optional, .many]
  | .arguments => [.many, .many, .optional, .many, .many, .optional, .many]
  | .arg _ => [.optional]
  | .withItem => [.one, .optional]

namespace Node

/-! ## The shape of each kind -/

/-- A function with its parameters, body, decorators and result annotation. -/
@[match_pattern] abbrev functionDef (name : String) (isAsync : Bool) (parameters : Node)
    (body decorators returns : List Node) : Node :=
  mk (.functionDef name isAsync) [[parameters], body, decorators, returns]

/-- A class with its bases, keywords, body and decorators. -/
@[match_pattern] abbrev classDef (name : String) (bases keywords body decorators : List Node) :
    Node :=
  mk (.classDef name) [bases, keywords, body, decorators]

/-- Returning a value, or the null value. -/
@[match_pattern] abbrev returnStmt (value : List Node) : Node := mk .returnStmt [value]

/-- Deleting some targets. -/
@[match_pattern] abbrev delete (targets : List Node) : Node := mk .delete [targets]

/-- Assigning one value to several targets. -/
@[match_pattern] abbrev assign (targets : List Node) (value : Node) : Node :=
  mk .assign [targets, [value]]

/-- Updating a target by an operator. -/
@[match_pattern] abbrev augAssign (target : Node) (op : BinaryOp) (value : Node) : Node :=
  mk (.augAssign op) [[target], [value]]

/-- An annotated target, with a value or without. -/
@[match_pattern] abbrev annAssign (target hint : Node) (value : List Node) : Node :=
  mk .annAssign [[target], [hint], value]

/-- A loop over the items of a value. -/
@[match_pattern] abbrev forStmt (isAsync : Bool) (target iter : Node) (body orelse : List Node) :
    Node :=
  mk (.forStmt isAsync) [[target], [iter], body, orelse]

/-- A loop under a condition. -/
@[match_pattern] abbrev whileStmt (test : Node) (body orelse : List Node) : Node :=
  mk .whileStmt [[test], body, orelse]

/-- A choice between two blocks. -/
@[match_pattern] abbrev ifStmt (test : Node) (body orelse : List Node) : Node :=
  mk .ifStmt [[test], body, orelse]

/-- A block under context managers. -/
@[match_pattern] abbrev withStmt (isAsync : Bool) (items body : List Node) : Node :=
  mk (.withStmt isAsync) [items, body]

/-- Raising an exception, with a cause or without. -/
@[match_pattern] abbrev raise (exception cause : List Node) : Node :=
  mk .raise [exception, cause]

/-- A guarded block with its handlers and its two closing blocks. -/
@[match_pattern] abbrev tryStmt (body handlers orelse finalbody : List Node) : Node :=
  mk .tryStmt [body, handlers, orelse, finalbody]

/-- A check with a message or without. -/
@[match_pattern] abbrev assertStmt (test : Node) (message : List Node) : Node :=
  mk .assertStmt [[test], message]

/-- Importing modules. -/
@[match_pattern] abbrev importStmt (aliases : List Node) : Node := mk .importStmt [aliases]

/-- Importing from a module. -/
@[match_pattern] abbrev importFrom (module : Option String) (level : Nat) (aliases : List Node) :
    Node :=
  mk (.importFrom module level) [aliases]

/-- Declaring names global. -/
@[match_pattern] abbrev globalStmt (names : List String) : Node := mk (.globalStmt names) []

/-- Declaring names to belong to an enclosing function. -/
@[match_pattern] abbrev nonlocalStmt (names : List String) : Node := mk (.nonlocalStmt names) []

/-- An expression run for its effect. -/
@[match_pattern] abbrev exprStmt (value : Node) : Node := mk .exprStmt [[value]]

/-- Doing nothing. -/
@[match_pattern] abbrev pass : Node := mk .pass []

/-- Leaving a loop. -/
@[match_pattern] abbrev breakStmt : Node := mk .breakStmt []

/-- Going on with the next round of a loop. -/
@[match_pattern] abbrev continueStmt : Node := mk .continueStmt []

/-- A conjunction or disjunction. -/
@[match_pattern] abbrev boolOp (op : BoolOp) (values : List Node) : Node := mk (.boolOp op) [values]

/-- An assignment inside an expression. -/
@[match_pattern] abbrev namedExpr (target value : Node) : Node := mk .namedExpr [[target], [value]]

/-- An operation on two operands. -/
@[match_pattern] abbrev binOp (left : Node) (op : BinaryOp) (right : Node) : Node :=
  mk (.binOp op) [[left], [right]]

/-- An operation on one operand. -/
@[match_pattern] abbrev unaryOp (op : UnaryOp) (operand : Node) : Node :=
  mk (.unaryOp op) [[operand]]

/-- A function expression. -/
@[match_pattern] abbrev lambda (parameters body : Node) : Node := mk .lambda [[parameters], [body]]

/-- A choice between two expressions. -/
@[match_pattern] abbrev ifExp (test body orelse : Node) : Node :=
  mk .ifExp [[test], [body], [orelse]]

/-- A dictionary display; an absent key spreads the value. -/
@[match_pattern] abbrev dict (keys values : List Node) : Node := mk .dict [keys, values]

/-- A set display. -/
@[match_pattern] abbrev set (elements : List Node) : Node := mk .set [elements]

/-- A list comprehension. -/
@[match_pattern] abbrev listComp (element : Node) (generators : List Node) : Node :=
  mk .listComp [[element], generators]

/-- A set comprehension. -/
@[match_pattern] abbrev setComp (element : Node) (generators : List Node) : Node :=
  mk .setComp [[element], generators]

/-- A dictionary comprehension. -/
@[match_pattern] abbrev dictComp (key value : Node) (generators : List Node) : Node :=
  mk .dictComp [[key], [value], generators]

/-- A generator expression. -/
@[match_pattern] abbrev generatorExp (element : Node) (generators : List Node) : Node :=
  mk .generatorExp [[element], generators]

/-- Waiting for a value. -/
@[match_pattern] abbrev await (value : Node) : Node := mk .await [[value]]

/-- Yielding a value, or the null value. -/
@[match_pattern] abbrev yield (value : List Node) : Node := mk .yield [value]

/-- Yielding the items of a value. -/
@[match_pattern] abbrev yieldFrom (value : Node) : Node := mk .yieldFrom [[value]]

/-- A chain of comparisons. -/
@[match_pattern] abbrev compare (left : Node) (ops : List CompareOp) (comparators : List Node) :
    Node :=
  mk (.compare ops) [[left], comparators]

/-- A call with positional and keyword arguments. -/
@[match_pattern] abbrev call (func : Node) (args keywords : List Node) : Node :=
  mk .call [[func], args, keywords]

/-- A constant. -/
@[match_pattern] abbrev constant (value : Constant) : Node := mk (.constant value) []

/-- An attribute of a value. -/
@[match_pattern] abbrev member (value : Node) (attr : String) (ctx : Context) : Node :=
  mk (.member attr ctx) [[value]]

/-- An element of a value. -/
@[match_pattern] abbrev subscript (value index : Node) (ctx : Context) : Node :=
  mk (.subscript ctx) [[value], [index]]

/-- The items of a value in place of the value. -/
@[match_pattern] abbrev starred (value : Node) (ctx : Context) : Node :=
  mk (.starred ctx) [[value]]

/-- A name. -/
@[match_pattern] abbrev name (id : String) (ctx : Context) : Node := mk (.name id ctx) []

/-- A list display. -/
@[match_pattern] abbrev list (elements : List Node) (ctx : Context) : Node :=
  mk (.list ctx) [elements]

/-- A tuple display. -/
@[match_pattern] abbrev tuple (elements : List Node) (ctx : Context) : Node :=
  mk (.tuple ctx) [elements]

/-- A range of indexes. -/
@[match_pattern] abbrev slice (lower upper step : List Node) : Node :=
  mk .slice [lower, upper, step]

/-- One loop of a comprehension with its conditions. -/
@[match_pattern] abbrev comprehension (isAsync : Bool) (target iter : Node) (ifs : List Node) :
    Node :=
  mk (.comprehension isAsync) [[target], [iter], ifs]

/-- A handler of exceptions. -/
@[match_pattern] abbrev exceptHandler (type : List Node) (name : Option String)
    (body : List Node) : Node :=
  mk (.exceptHandler name) [type, body]

/-- The parameters of a function: positional only, ordinary, rest, keyword only
with their defaults, keyword rest, and the defaults of the last positional
ones. -/
@[match_pattern] abbrev arguments (posonly args vararg kwonly kwDefaults kwarg defaults :
    List Node) : Node :=
  mk .arguments [posonly, args, vararg, kwonly, kwDefaults, kwarg, defaults]

/-- One parameter with its annotation. -/
@[match_pattern] abbrev arg (name : String) (hint : List Node) : Node :=
  mk (.arg name) [hint]

/-- A keyword argument; without a name it spreads a mapping. -/
@[match_pattern] abbrev keyword (name : Option String) (value : Node) : Node :=
  mk (.keyword name) [[value]]

/-- An imported name, under another name or its own. -/
@[match_pattern] abbrev importedName (name : String) (asname : Option String) : Node :=
  mk (.importedName name asname) []

/-- A context manager with the target it is bound to. -/
@[match_pattern] abbrev withItem (context : Node) (target : List Node) : Node :=
  mk .withItem [[context], target]

/-- A missing entry of a list. -/
@[match_pattern] abbrev absent : Node := mk .absent []

/-! ## Views and traversals -/

/-- The kind of a node. -/
def kind : Node → Kind
  | mk k _ => k

/-- The slots of a node. -/
def slots : Node → List (List Node)
  | mk _ ss => ss

/-- The nodes directly below, in source order. -/
def children (n : Node) : List Node := n.slots.flatten

/-- Whether a node stands for the items of another. -/
def isStarred (n : Node) : Bool :=
  match n.kind with
  | .starred _ => true
  | _ => false

/-- Whether a node is a constant. -/
def isConstant (n : Node) : Bool :=
  match n.kind with
  | .constant _ => true
  | _ => false

/-- A name that is read. -/
abbrev load (id : String) : Node := name id .load

/-- Parameters without any. -/
abbrev noArguments : Node := arguments [] [] [] [] [] [] []

mutual

/-- Whether some node of the tree, the root included, has a kind with the
property. -/
def anyKind (p : Kind → Bool) : Node → Bool
  | mk k slots => p k || anyKindSlots p slots

/-- Whether some node below some slot has a kind with the property. -/
def anyKindSlots (p : Kind → Bool) : List (List Node) → Bool
  | [] => false
  | s :: ss => anyKindList p s || anyKindSlots p ss

/-- Whether some node of a list of trees has a kind with the property. -/
def anyKindList (p : Kind → Bool) : List Node → Bool
  | [] => false
  | n :: ns => anyKind p n || anyKindList p ns

end

mutual

/-- The number of nodes on the longest way down, the root included. -/
def depth : Node → Nat
  | mk _ slots => depthSlots slots + 1

/-- The greatest depth below some slots. -/
def depthSlots : List (List Node) → Nat
  | [] => 0
  | s :: ss => max (depthList s) (depthSlots ss)

/-- The greatest depth in a list of trees. -/
def depthList : List Node → Nat
  | [] => 0
  | n :: ns => max (depth n) (depthList ns)

end

end Node

end Narrowing.Code
