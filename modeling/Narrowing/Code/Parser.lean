import Narrowing.Code.Grammar
import Narrowing.Code.Margin
/-!
# Reading code

The statements of the language and the reader of whole texts. Each layer of
grammar (`Grammar.layer`) reads its nested expressions and blocks with the layer
below it; going one layer down always passes over a token, so a text with `n`
tokens needs no more than `n + 1` layers.

When reading stops, the fault is that of the token it stops at: a line that opens
or closes a block where it may not, a point where the text cannot be cut, or a
misplaced token. A missing block gives way to a malformed word further down.
-/

namespace Narrowing.Code

open Reader

namespace Grammar

variable (g : Grammar)

/-! ## Simple statements -/

/-- The operators that update a target. -/
def updates : List (String × BinaryOp) :=
  [("+=", .add), ("-=", .sub), ("*=", .mult), ("/=", .div), ("//=", .floorDiv), ("%=", .mod),
    ("@=", .matMult), ("&=", .bitAnd), ("|=", .bitOr), ("^=", .bitXor), ("<<=", .lShift),
    (">>=", .rShift), ("**=", .pow)]

/-- A place that a single value is stored to. -/
def requireSingle (n : Node) : Reader Node :=
  match n with
  | .mk (.name ..) _ | .mk (.member ..) _ | .mk (.subscript _) _ => requireTarget .store n
  | _ => stop

/-- **An assignment of any form, or an expression.** -/
def assignment : Reader Node := do
  let first ← yieldOrExpressions g
  if ← accept ":" then
    let target ← requireSingle first
    let hint ← g.expression
    if ← accept "=" then return .annAssign target hint [← yieldOrExpressions g]
    else return .annAssign target hint []
  else
    match ← operatorAmong updates with
    | some op =>
      let target ← requireSingle first
      return .augAssign target op (← yieldOrExpressions g)
    | none =>
      let rest ← many do
        if ← accept "=" then return some (← yieldOrExpressions g) else return none
      match (first :: rest).reverse with
      | value :: before@(_ :: _) =>
        match asTargets .store before.reverse with
        | some targets => return .assign targets value
        | none => stop
      | _ => return .exprStmt first

/-- A name of modules separated by points. -/
def dottedName : Reader String := do
  let first ← identifier
  let rest ← many do
    if ← accept "." then return some (← identifier) else return none
  return ".".intercalate (first :: rest)

/-- The name a module or member is bound to, if it is given. -/
def asName : Reader (Option String) := do
  if ← accept "as" then return some (← identifier) else return none

/-- What is imported from a module. -/
def importedNames : Reader (List Node) := do
  let one : Reader Node := do
    let name ← identifier
    return .importedName name (← asName)
  if ← accept "*" then return [.importedName "*" none]
  else if ← accept "(" then
    let first ← one
    let (rest, _) ← afterCommas (sees ")") one
    expect ")"
    return first :: rest
  else
    let first ← one
    let (rest, trailing) ← afterCommas (return false) one
    if trailing then stop else return first :: rest

/-- The leading points of a relative module. -/
def leadingPoints : Reader Nat := do
  let points ← many do
    if ← accept "." then return some 1
    else if ← accept "..." then return some 3
    else return none
  return points.foldl (fun n k => n + k) 0

/-- Names separated by commas. -/
def nameList : Reader (List String) := do
  let first ← identifier
  let rest ← many do
    if ← accept "," then return some (← identifier) else return none
  return first :: rest

/-- **A simple statement.** -/
def simpleStatement : Reader Node := do
  if ← accept "return" then
    if (← listEnds) then return .returnStmt [] else return .returnStmt [← starExpressions g]
  else if ← accept "pass" then return .pass
  else if ← accept "break" then return .breakStmt
  else if ← accept "continue" then return .continueStmt
  else if ← accept "global" then return .globalStmt (← nameList)
  else if ← accept "nonlocal" then return .nonlocalStmt (← nameList)
  else if ← accept "raise" then
    if ← listEnds then return .raise [] []
    else
      let exception ← g.expression
      if ← accept "from" then return .raise [exception] [← g.expression]
      else return .raise [exception] []
  else if ← accept "assert" then
    let test ← g.expression
    if ← accept "," then return .assertStmt test [← g.expression] else return .assertStmt test []
  else if ← accept "del" then
    let first ← g.primary
    let (rest, _) ← afterCommas listEnds g.primary
    match asTargets .del (first :: rest) with
    | some ts => return .delete ts
    | none => stop
  else if ← accept "import" then
    let one : Reader Node := do
      let name ← dottedName
      return .importedName name (← asName)
    let first ← one
    let rest ← many do
      if ← accept "," then return some (← one) else return none
    return .importStmt (first :: rest)
  else if ← accept "from" then
    let level ← leadingPoints
    let module ← if level > 0 && (← sees "import") then pure none else do pure (some (← dottedName))
    expect "import"
    return .importFrom module level (← importedNames)
  else assignment g

/-- The end of a line of statements. -/
def lineEnd : Reader Unit := do
  match ← peek with
  | .newline => advance
  | _ => stop

/-- **Simple statements on one line.** -/
def simpleLine : Reader (List Node) := do
  let first ← simpleStatement g
  let rest ← many do
    if ← accept ";" then
      match ← peek with
      | .newline => return none
      | _ => return some (← simpleStatement g)
    else return none
  lineEnd
  return first :: rest

/-! ## Blocks -/

/-- Statements up to the end of a block. -/
def blockBody : Reader (List Node) := do
  let groups ← many do
    match ← peek with
    | .dedent | .finish => return none
    | _ => return some (← g.statement)
  return groups.flatten

/-- **A block after its colon**: the rest of the line, or indented lines. -/
def block : Reader (List Node) := do
  expect ":"
  match ← peek with
  | .newline =>
    advance
    match ← peek with
    | .indent =>
      advance
      let body ← blockBody g
      match ← peek with
      | .dedent =>
        advance
        return body
      | _ => stop
    | .failure _ | .cutShort => stop
    | _ => fun _ => .error .blockExpected
  | _ => simpleLine g

/-- A block under a word, or none. -/
def blockAfter (word : String) : Reader (List Node) := do
  if ← accept word then block g else return []

/-- The branches of a choice after its first word, at most so many. -/
def choice : Nat → Reader Node
  | 0 => stop
  | n + 1 => do
    let test ← named g
    let body ← block g
    if ← accept "elif" then return .ifStmt test body [← choice n]
    else return .ifStmt test body (← blockAfter g "else")

/-- A loop over items, after its word. -/
def loop (isAsync : Bool) : Reader Node := do
  let t ← targets g
  expect "in"
  let iter ← starExpressions g
  let body ← block g
  return .forStmt isAsync t iter body (← blockAfter g "else")

/-- A context manager with its target. -/
def withItem : Reader Node := do
  let context ← g.expression
  if ← accept "as" then
    let t ← target g
    return .withItem context [← requireTarget .store t]
  else return .withItem context []

/-- Context managers in brackets, up to the colon. -/
def bracketedItems : Reader (List Node) := do
  expect "("
  let first ← withItem g
  let (rest, _) ← afterCommas (sees ")") (withItem g)
  expect ")"
  if ← sees ":" then return first :: rest else stop

/-- A block under context managers, after its word. -/
def withBlock (isAsync : Bool) : Reader Node := do
  let items ←
    match ← attempt (bracketedItems g) with
    | some items => pure items
    | none => do
      let first ← withItem g
      let rest ← many do
        if ← accept "," then return some (← withItem g) else return none
      pure (first :: rest)
  return .withStmt isAsync items (← block g)

/-- A handler of exceptions. -/
def handler : Reader (Option Node) := do
  if ← accept "except" then
    if ← sees ":" then return some (.exceptHandler [] none (← block g))
    else
      let type ← g.expression
      let name ← asName
      return some (.exceptHandler [type] name (← block g))
  else return none

/-- A guarded block, after its word. -/
def tryBlock : Reader Node := do
  let body ← block g
  let handlers ← many (handler g)
  let orelse ← if handlers.isEmpty then pure [] else blockAfter g "else"
  let finalbody ← blockAfter g "finally"
  if handlers.isEmpty && finalbody.isEmpty then missing
  else return .tryStmt body handlers orelse finalbody

/-- A function, after its word. -/
def function (isAsync : Bool) (decorators : List Node) : Reader Node := do
  let name ← identifier
  expect "("
  let ps ← parameters g true ")"
  expect ")"
  let returns ← if ← accept "->" then do pure [← g.expression] else pure []
  return .functionDef name isAsync ps (← block g) decorators returns

/-- A class, after its word. -/
def classBlock (decorators : List Node) : Reader Node := do
  let name ← identifier
  let (bases, keywords) ← if ← accept "(" then arguments g false else pure ([], [])
  return .classDef name bases keywords (← block g) decorators

/-- The decorators before a function or class. -/
def decorators : Reader (List Node) :=
  many do
    if ← accept "@" then
      let d ← named g
      lineEnd
      return some d
    else return none

/-- **A statement, or several on one line.** -/
def statementRule : Reader (List Node) := do
  let ds ← decorators g
  if ← accept "def" then return [← function g false ds]
  else if ← accept "class" then return [← classBlock g ds]
  else if (← sees "async") && spelling (← peekSecond) = some "def" then
    advance
    advance
    return [← function g true ds]
  else if !ds.isEmpty then stop
  else if ← accept "if" then return [← choice g (← get).length]
  else if ← accept "while" then
    let test ← named g
    let body ← block g
    return [.whileStmt test body (← blockAfter g "else")]
  else if ← accept "for" then return [← loop g false]
  else if ← accept "with" then return [← withBlock g false]
  else if ← accept "try" then return [← tryBlock g]
  else if ← accept "async" then
    if ← accept "for" then return [← loop g true]
    else
      expect "with"
      return [← withBlock g true]
  else simpleLine g

/-! ## The knot -/

/-- The grammar that reads nothing. -/
def nothing : Grammar := ⟨stop, stop, stop, stop, stop⟩

/-- **So many layers of grammar** on top of nothing. -/
def layer : Nat → Grammar
  | 0 => nothing
  | n + 1 =>
    { expression := fun ts => expressionRule (layer n) ts
      factor := fun ts => factorRule (layer n) ts
      inversion := fun ts => inversionRule (layer n) ts
      primary := fun ts => primaryRule (layer n) ts
      statement := fun ts => statementRule (layer n) ts }

end Grammar

/-! ## Texts -/

/-- All statements of a text. -/
def readAll (g : Grammar) : Reader (List Node) := do
  let body ← Grammar.blockBody g
  match ← peek with
  | .finish => return body
  | _ => stop

/-- **The fault of a text whose reading stopped.** A missing block is reported
only if the rest of the text has no malformed word. -/
def Stop.fault (tokens : List Token) : Stop → ParseError
  | .wordMissing => .misplaced
  | .unexpected .indent | .unexpected .dedent => .indentation
  | .unexpected (.failure e) => e
  | .unexpected _ => .misplaced
  | .blockExpected => if tokens.any isMalformed then .misplaced else .indentation
where
  /-- Whether the text cannot be cut here because a word is malformed. -/
  isMalformed : Token → Bool
    | .failure .misplaced => true
    | _ => false

/-- **The statements of a text.** -/
def parse (s : String) : Except ParseError (List Node) :=
  if s.toList.contains '\x00' then .error .nullCharacter
  else
    let tokens := Token.ofText s
    match readAll (.layer (tokens.length + 1)) tokens with
    | .ok (body, _) => .ok body
    | .error e => .error (e.fault tokens)

/-- **The statements of a text after its common margin is removed.** -/
def parseBody (s : String) : Except ParseError (List Node) :=
  parse (Margin.remove s)

end Narrowing.Code
