import Narrowing.Code.Token
import Narrowing.Text.NormalForm
/-!
# Reading expressions

The expressions of the language, read from tokens. What encloses an expression
is read by a function of its own; where expressions nest, such a function calls
the grammar it is given instead of itself, and `Narrowing.Code.Parser` ties the
knot with one layer of grammar per level of nesting. So no function here
recurses except along a list of tokens or a precedence level.
-/

namespace Narrowing.Code

/-- **Why reading stopped.** -/
inductive Stop where
  /-- A token stands where it cannot. -/
  | unexpected (t : Token)
  /-- A word that has to follow is missing. -/
  | wordMissing
  /-- A block should open here. -/
  | blockExpected

/-- A reader of tokens. -/
abbrev Reader := StateT (List Token) (Except Stop)

/-- One layer of grammar: what nests inside expressions and statements. -/
structure Grammar where
  /-- An expression without a top-level assignment, tuple or star. -/
  expression : Reader Node
  /-- An operand of a sign. -/
  factor : Reader Node
  /-- An operand of a negation. -/
  inversion : Reader Node
  /-- An atom with attribute accesses, calls and subscripts. -/
  primary : Reader Node
  /-- A statement, or several on one line. -/
  statement : Reader (List Node)

namespace Reader

/-! ## Single tokens -/

/-- The words that are not names. -/
def keywords : List String :=
  ["False", "None", "True", "and", "as", "assert", "async", "await", "break", "class", "continue",
    "def", "del", "elif", "else", "except", "finally", "for", "from", "global", "if", "import",
    "in", "is", "lambda", "nonlocal", "not", "or", "pass", "raise", "return", "try", "while",
    "with", "yield"]

/-- How a sign or a keyword is spelled. -/
def spelling : Token → Option String
  | .sign s => some s
  | .word s => if keywords.contains s then some s else none
  | _ => none

/-- The next token. -/
def peek : Reader Token := fun ts => .ok (ts.head?.getD .finish, ts)

/-- The token after the next one. -/
def peekSecond : Reader Token := fun ts => .ok ((ts.drop 1).head?.getD .finish, ts)

/-- Passes over the next token. -/
def advance : Reader Unit := fun ts => .ok ((), ts.drop 1)

/-- Stops at the next token. -/
def stop {α : Type} : Reader α := fun ts => .error (.unexpected (ts.head?.getD .finish))

/-- Stops because a word that has to follow is missing. -/
def missing {α : Type} : Reader α := fun ts =>
  match ts with
  | .failure e :: _ => .error (.unexpected (.failure e))
  | _ => .error .wordMissing

/-- Whether a sign or keyword comes next. -/
def sees (s : String) : Reader Bool := do
  return spelling (← peek) = some s

/-- Whether one of some signs or keywords comes next. -/
def seesAny (ss : List String) : Reader Bool := do
  return (spelling (← peek)).any ss.contains

/-- Passes over a sign or keyword if it comes next. -/
def accept (s : String) : Reader Bool := do
  if ← sees s then
    advance
    return true
  else return false

/-- Passes over a sign or keyword if it may stand here and comes next. -/
def acceptIf (allowed : Bool) (s : String) : Reader Bool :=
  if allowed then accept s else return false

/-- Passes over a sign or keyword, which must come next. -/
def expect (s : String) : Reader Unit := do
  if ← accept s then return () else stop

/-- A name, in its normal form. -/
def identifier : Reader String := do
  match ← peek with
  | .word s =>
    if keywords.contains s then stop
    else
      advance
      return Text.normalForm s
  | _ => stop

/-! ## Repetition -/

/-- Reads items as long as there are some, at most so many. -/
def manyWithin {α : Type} (item : Reader (Option α)) : Nat → Reader (List α)
  | 0 => return []
  | n + 1 => do
    match ← item with
    | some a => return a :: (← manyWithin item n)
    | none => return []

/-- **Reads items as long as there are some.** Each must pass over a token. -/
def many {α : Type} (item : Reader (Option α)) : Reader (List α) := fun ts =>
  manyWithin item ts.length ts

/-- Goes on from a left operand as long as the step finds more. -/
def extendWithin (step : Node → Reader (Option Node)) : Nat → Node → Reader Node
  | 0, left => return left
  | n + 1, left => do
    match ← step left with
    | some longer => extendWithin step n longer
    | none => return left

/-- **Extends a node to the right** as long as the step finds more. -/
def extend (step : Node → Reader (Option Node)) (left : Node) : Reader Node := fun ts =>
  extendWithin step ts.length left ts

/-- Items after commas up to a token that ends the list; a comma may stand
before the end. The flag tells whether one does. -/
def afterCommas {α : Type} (ends : Reader Bool) (item : Reader α) : Reader (List α × Bool) := do
  let items ← many do
    if ← sees "," then
      let ts ← get
      advance
      if ← ends then
        set ts
        return none
      else return some (← item)
    else return none
  return (items, ← accept ",")

/-- Tries a reader, undoing it if it stops. -/
def attempt {α : Type} (p : Reader α) : Reader (Option α) := fun ts =>
  match p ts with
  | .ok (a, ts) => .ok (some a, ts)
  | .error _ => .ok (none, ts)

end Reader

open Reader

/-! ## Targets -/

mutual

/-- **The expression as a place to store to or delete**, if it is one. -/
def asTarget (ctx : Context) : Node → Option Node
  | .mk (.name id _) ss => some (.mk (.name id ctx) ss)
  | .mk (.member attr _) ss => some (.mk (.member attr ctx) ss)
  | .mk (.subscript _) ss => some (.mk (.subscript ctx) ss)
  | .mk (.starred _) [[value]] =>
    if ctx = .store then (asTarget ctx value).map fun v => .starred v ctx else none
  | .mk (.tuple _) [elements] => (asTargets ctx elements).map fun es => .tuple es ctx
  | .mk (.list _) [elements] => (asTargets ctx elements).map fun es => .list es ctx
  | _ => none

/-- The expressions of a list as places. -/
def asTargets (ctx : Context) : List Node → Option (List Node)
  | [] => some []
  | n :: ns =>
    match asTarget ctx n, asTargets ctx ns with
    | some n, some ns => some (n :: ns)
    | _, _ => none

end

/-- Continues with a place, or stops. -/
def requireTarget (ctx : Context) (n : Node) : Reader Node :=
  match asTarget ctx n with
  | some t => return t
  | none => stop

namespace Grammar

variable (g : Grammar)

/-! ## Operators -/

/-- The binary operators of a precedence level, loosest first. -/
def operatorsAt : Nat → List (String × BinaryOp)
  | 6 => [("|", .bitOr)]
  | 5 => [("^", .bitXor)]
  | 4 => [("&", .bitAnd)]
  | 3 => [("<<", .lShift), (">>", .rShift)]
  | 2 => [("+", .add), ("-", .sub)]
  | 1 => [("*", .mult), ("/", .div), ("//", .floorDiv), ("%", .mod), ("@", .matMult)]
  | _ => []

/-- The operator of the next token among some. -/
def operatorAmong {α : Type} (table : List (String × α)) : Reader (Option α) := do
  match spelling (← peek) with
  | some s =>
    match table.lookup s with
    | some op =>
      advance
      return some op
    | none => return none
  | none => return none

/-- Whether a name that gets a value comes next. -/
def seesNaming : Reader Bool := do
  match ← peek, ← peekSecond with
  | .word s, .sign ":=" => return !keywords.contains s
  | _, _ => return false

/-- An assignment inside an expression, or an expression. -/
def named : Reader Node := do
  if ← seesNaming then
    let name ← identifier
    expect ":="
    return .namedExpr (.name name .store) (← g.expression)
  else g.expression

/-- Comparisons that one word or sign spells. -/
def comparisons : List (String × CompareOp) :=
  [("==", .eq), ("!=", .notEq), ("<", .lt), ("<=", .ltE), (">", .gt), (">=", .gtE), ("in", .isIn)]

/-- The next comparison operator. -/
def comparison? : Reader (Option CompareOp) := do
  match ← operatorAmong comparisons with
  | some op => return some op
  | none =>
    if ← sees "is" then
      advance
      if ← accept "not" then return some .isNot else return some .is
    else if spelling (← peek) = some "not" && spelling (← peekSecond) = some "in" then
      advance
      advance
      return some .notIn
    else return none

/-! ## Parts of displays and calls -/

/-- Whether a loop of a comprehension comes next. -/
def seesLoop : Reader Bool := do
  if ← sees "for" then return true
  else return (← sees "async") && spelling (← peekSecond) = some "for"

end Grammar

/-- A text or bytes literal with those that follow it at once. -/
def literals : Reader Node := do
  let texts ← many do
    match ← peek with
    | .text points isMarked =>
      advance
      return some (points, isMarked)
    | _ => return none
  if texts.isEmpty then
    let parts ← many do
      match ← peek with
      | .bytes bs =>
        advance
        return some bs
      | _ => return none
    match ← peek with
    | .text .. => stop
    | _ => return .constant (.bytes parts.flatten)
  else
    match ← peek with
    | .bytes _ => stop
    | _ =>
      return .constant
        (.ofPoints (texts.flatMap Prod.fst) ((texts.map Prod.snd).head?.getD false))

/-- One argument of a call. -/
inductive Argument where
  /-- A positional argument. -/
  | positional (value : Node)
  /-- The items of a value as positional arguments. -/
  | spread (value : Node)
  /-- A keyword argument. -/
  | keyword (name : String) (value : Node)
  /-- The entries of a mapping as keyword arguments. -/
  | spreadKeywords (value : Node)
  /-- A generator expression without brackets of its own. -/
  | generator (value : Node)

namespace Argument

/-- Whether an argument names or spreads keywords. -/
def isKeyword : Argument → Bool
  | keyword .. | spreadKeywords _ => true
  | _ => false

/-- Whether an argument spreads keywords. -/
def isSpreadKeywords : Argument → Bool
  | spreadKeywords _ => true
  | _ => false

/-- Whether arguments may stand in this order: a plain one before all keywords,
a spread one before all spread keywords, and a bare generator alone. -/
def wellOrdered : List Argument → Bool
  | [] => true
  | generator _ :: rest => rest.isEmpty
  | a :: rest =>
    wellOrdered rest &&
      (rest.all fun b =>
        match b with
        | positional _ => !a.isKeyword
        | spread _ => !a.isSpreadKeywords
        | generator _ => false
        | _ => true)

/-- The positional arguments as nodes. -/
def positionals (items : List Argument) : List Node :=
  items.filterMap fun
    | positional v | generator v => some v
    | spread v => some (.starred v .load)
    | _ => none

/-- The keyword arguments as nodes. -/
def keywords (items : List Argument) : List Node :=
  items.filterMap fun
    | keyword n v => some (.keyword (some n) v)
    | spreadKeywords v => some (.keyword none v)
    | _ => none

end Argument

/-- One entry of a parameter list. -/
inductive Parameter where
  /-- A parameter with its default. -/
  | plain (arg : Node) (default : Option Node)
  /-- What stands before is positional only. -/
  | slash
  /-- What follows is keyword only; a parameter may take the rest. -/
  | star (arg : Option Node)
  /-- A parameter that takes the remaining keywords. -/
  | doubleStar (arg : Node)

namespace Parameter

/-- What is collected of a parameter list. -/
structure Collected where
  /-- The positional-only parameters. -/
  posonly : List Node := []
  /-- The ordinary parameters. -/
  args : List Node := []
  /-- The defaults of the positional parameters. -/
  defaults : List Node := []
  /-- Whether a slash was seen. -/
  slashSeen : Bool := false
  /-- Whether a star was seen. -/
  starSeen : Bool := false
  /-- The parameter of the rest. -/
  vararg : List Node := []
  /-- The keyword-only parameters. -/
  kwonly : List Node := []
  /-- Their defaults, absent where there is none. -/
  kwDefaults : List Node := []
  /-- The parameter of the remaining keywords. -/
  kwarg : List Node := []

/-- Adds an entry, if it may stand there. -/
def add (c : Collected) : Parameter → Option Collected
  | plain arg default =>
    if !c.kwarg.isEmpty then none
    else if c.starSeen then
      some { c with kwonly := c.kwonly ++ [arg], kwDefaults := c.kwDefaults ++ [default.getD .absent] }
    else
      match default with
      | some d => some { c with args := c.args ++ [arg], defaults := c.defaults ++ [d] }
      | none => if c.defaults.isEmpty then some { c with args := c.args ++ [arg] } else none
  | slash =>
    if c.slashSeen || c.starSeen || c.args.isEmpty || !c.kwarg.isEmpty then none
    else some { c with posonly := c.args, args := [], slashSeen := true }
  | star arg =>
    if c.starSeen || !c.kwarg.isEmpty then none
    else some { c with starSeen := true, vararg := arg.toList }
  | doubleStar arg => if c.kwarg.isEmpty then some { c with kwarg := [arg] } else none

/-- **The parameters of a list of entries**, if they may stand in this order. -/
def collect (items : List Parameter) : Option Node :=
  match items.foldlM add ({} : Collected) with
  | some c =>
    if c.starSeen && c.vararg.isEmpty && c.kwonly.isEmpty then none
    else some (.arguments c.posonly c.args c.vararg c.kwonly c.kwDefaults c.kwarg c.defaults)
  | none => none

end Parameter

namespace Grammar

variable (g : Grammar)

/-! ## Operands -/

/-- Operands joined by the operators of a level and those that bind tighter. -/
def operation : Nat → Reader Node
  | 0 => g.factor
  | level + 1 => do
    let left ← operation level
    extend (fun left => do
      match ← operatorAmong (operatorsAt (level + 1)) with
      | some op => return some (.binOp left op (← operation level))
      | none => return none) left

/-- An operand of a comparison. -/
def operand : Reader Node := operation g 6

/-- An expression of a list without brackets, or the items of one. -/
def starExpression : Reader Node := do
  if ← accept "*" then return .starred (← operand g) .load else g.expression

/-! ## Parameters -/

/-- One entry of a parameter list, annotated or not. -/
def parameter (annotated : Bool) : Reader Parameter := do
  let one : Reader Node := do
    let name ← identifier
    if annotated then
      if ← accept ":" then return .arg name [← g.expression]
    return .arg name []
  if ← accept "/" then return .slash
  else if ← accept "**" then return .doubleStar (← one)
  else if ← accept "*" then
    if ← seesAny [",", ")", ":"] then return .star none
    else
      let name ← identifier
      if annotated then
        if ← accept ":" then return .star (some (.arg name [← starExpression g]))
      return .star (some (.arg name []))
  else
    let arg ← one
    if ← accept "=" then return .plain arg (some (← g.expression)) else return .plain arg none

/-- **A parameter list** up to its closing sign, which is left. -/
def parameters (annotated : Bool) (closing : String) : Reader Node := do
  if ← sees closing then return .noArguments
  else
    let first ← parameter g annotated
    let (rest, _) ← afterCommas (sees closing) (parameter g annotated)
    match Parameter.collect (first :: rest) with
    | some ps => return ps
    | none => stop

/-! ## Expressions -/

/-- A chain of comparisons, or an operand. -/
def comparisonChain : Reader Node := do
  let left ← operand g
  let rest ← many do
    match ← comparison? with
    | some op => return some (op, ← operand g)
    | none => return none
  if rest.isEmpty then return left
  else return .compare left (rest.map Prod.fst) (rest.map Prod.snd)

/-- A comparison, negated or not. -/
def inversionRule : Reader Node := do
  if ← accept "not" then return .unaryOp .not (← g.inversion) else comparisonChain g

/-- Operands joined by one word. -/
def junction (word : String) (op : BoolOp) (part : Reader Node) : Reader Node := do
  let first ← part
  let rest ← many do
    if ← accept word then return some (← part) else return none
  if rest.isEmpty then return first else return .boolOp op (first :: rest)

/-- A disjunction. -/
def disjunction : Reader Node :=
  junction "or" .or (junction "and" .and (inversionRule g))

/-- **An expression**: a function expression, a choice or a disjunction. -/
def expressionRule : Reader Node := do
  if ← accept "lambda" then
    let ps ← parameters g false ":"
    expect ":"
    return .lambda ps (← g.expression)
  else
    let first ← disjunction g
    if ← accept "if" then
      let test ← disjunction g
      expect "else"
      return .ifExp test first (← g.expression)
    else return first

/-- An element of a display: an expression, or the items of one. -/
def element : Reader Node := do
  if ← accept "*" then return .starred (← operand g) .load else named g

/-- Whether a list of expressions without brackets ends here. -/
def listEnds : Reader Bool := do
  match ← peek with
  | .newline | .finish => return true
  | _ => seesAny [")", "]", "\x7d", "=", ":", ";", "in", "+=", "-=", "*=", "/=", "//=", "%=", "@=",
      "&=", "|=", "^=", ">>=", "<<=", "**="]

/-- **Expressions separated by commas**: one by itself, or a tuple. -/
def starExpressions : Reader Node := do
  let first ← starExpression g
  if ← sees "," then
    let (rest, _) ← afterCommas listEnds (starExpression g)
    return .tuple (first :: rest) .load
  else return first

/-- A yielded value. -/
def yieldExpression : Reader Node := do
  expect "yield"
  if ← accept "from" then return .yieldFrom (← g.expression)
  else if ← listEnds then return .yield []
  else return .yield [← starExpressions g]

/-- A yielded value, or expressions separated by commas. -/
def yieldOrExpressions : Reader Node := do
  if ← sees "yield" then yieldExpression g else starExpressions g

/-! ## Atoms -/

/-- One target, starred or not. -/
def target : Reader Node := do
  if ← accept "*" then return .starred (← g.primary) .load else g.primary

/-- Targets separated by commas, stored to. -/
def targets : Reader Node := do
  let first ← target g
  let whole ←
    if ← sees "," then do
      let (rest, _) ← afterCommas listEnds (target g)
      pure (.tuple (first :: rest) .load)
    else pure first
  requireTarget .store whole

/-- The loops of a comprehension. -/
def loops : Reader (List Node) :=
  many do
    if ← seesLoop then
      let isAsync ← accept "async"
      expect "for"
      let t ← targets g
      expect "in"
      let iter ← disjunction g
      let ifs ← many do
        if ← accept "if" then return some (← disjunction g) else return none
      return some (.comprehension isAsync t iter ifs)
    else return none

/-- One argument of a call. -/
def argument : Reader Argument := do
  if ← accept "*" then return .spread (← g.expression)
  else if ← accept "**" then return .spreadKeywords (← g.expression)
  else
    match ← peek, ← peekSecond with
    | .word s, .sign "=" =>
      if keywords.contains s then stop
      else
        advance
        advance
        return .keyword (Text.normalForm s) (← g.expression)
    | _, _ =>
      let value ← named g
      if ← seesLoop then return .generator (.generatorExp value (← loops g))
      else return .positional value

/-- The arguments of a call or a class, after their opening bracket. Only a call
takes a generator without brackets of its own, and nothing may follow it. -/
def arguments (takesGenerator : Bool) : Reader (List Node × List Node) := do
  if ← accept ")" then return ([], [])
  else
    let first ← argument g
    let (rest, trailing) ← afterCommas (sees ")") (argument g)
    let items := first :: rest
    let misplaced := match items with
      | [.generator _] => trailing || !takesGenerator
      | _ => false
    if misplaced || !Argument.wellOrdered items then stop
    else
      expect ")"
      return (Argument.positionals items, Argument.keywords items)

/-- One index of a subscript. -/
def index : Reader Node := do
  let bound : Reader (List Node) := do
    if ← seesAny [":", ",", "]"] then return [] else return [← g.expression]
  if ← accept "*" then return .starred (← operand g) .load
  else
    let bounded := !(← seesNaming)
    let lower : List Node ← if ← sees ":" then pure [] else do pure [← named g]
    if ← acceptIf bounded ":" then
      let upper ← bound
      if ← accept ":" then return .slice lower upper (← bound)
      else return .slice lower upper []
    else
      match lower with
      | [value] => return value
      | _ => stop

/-- The index of a subscript: several make a tuple. -/
def indexes : Reader Node := do
  let first ← index g
  if ← sees "," then
    let (rest, _) ← afterCommas (sees "]") (index g)
    return .tuple (first :: rest) .load
  else
    if first.isStarred then return .tuple [first] .load else return first

/-- What stands in round brackets, after the opening one. -/
def bracketed : Reader Node := do
  if ← accept ")" then return .tuple [] .load
  else if ← sees "yield" then
    let value ← yieldExpression g
    expect ")"
    return value
  else
    let first ← element g
    if ← sees "," then
      let (rest, _) ← afterCommas (sees ")") (element g)
      expect ")"
      return .tuple (first :: rest) .load
    else
      if first.isStarred then stop
      else if ← seesLoop then
        let generators ← loops g
        expect ")"
        return .generatorExp first generators
      else
        expect ")"
        return first

/-- A list display or comprehension, after the opening bracket. -/
def listDisplay : Reader Node := do
  if ← accept "]" then return .list [] .load
  else
    let first ← element g
    if !first.isStarred && (← seesLoop) then
      let generators ← loops g
      expect "]"
      return .listComp first generators
    else
      let (rest, _) ← afterCommas (sees "]") (element g)
      expect "]"
      return .list (first :: rest) .load

/-- An entry of a dictionary display: its key, absent for a spread one, and its
value. -/
def entry : Reader (Node × Node) := do
  if ← accept "**" then return (.absent, ← operand g)
  else
    let key ← g.expression
    expect ":"
    return (key, ← g.expression)

/-- A dictionary or set, by display or comprehension, after the opening brace. -/
def braceDisplay : Reader Node := do
  if ← accept "\x7d" then return .dict [] []
  else if ← sees "**" then dictionary (← entry g)
  else
    let keyed := !(← seesNaming)
    let first ← element g
    if ← acceptIf (keyed && !first.isStarred) ":" then
      let value ← g.expression
      if ← seesLoop then
        let generators ← loops g
        expect "\x7d"
        return .dictComp first value generators
      else dictionary (first, value)
    else if !first.isStarred && (← seesLoop) then
      let generators ← loops g
      expect "\x7d"
      return .setComp first generators
    else
      let (rest, _) ← afterCommas (sees "\x7d") (element g)
      expect "\x7d"
      return .set (first :: rest)
where
  /-- The other entries of a dictionary display. -/
  dictionary (first : Node × Node) : Reader Node := do
    let (rest, _) ← afterCommas (sees "\x7d") (entry g)
    expect "\x7d"
    let entries := first :: rest
    return .dict (entries.map Prod.fst) (entries.map Prod.snd)

/-- **An atom.** -/
def atom : Reader Node := do
  match ← peek with
  | .number value =>
    advance
    return .constant value
  | .text .. | .bytes _ => literals
  | .word s =>
    if s = "None" then
      advance
      return .constant .none
    else if s = "True" then
      advance
      return .constant (.bool true)
    else if s = "False" then
      advance
      return .constant (.bool false)
    else return .load (← identifier)
  | .sign s =>
    if s = "(" then
      advance
      bracketed g
    else if s = "[" then
      advance
      listDisplay g
    else if s = "\x7b" then
      advance
      braceDisplay g
    else if s = "..." then
      advance
      return .constant .ellipsis
    else stop
  | _ => stop

/-- **An atom with attribute accesses, calls and subscripts.** -/
def primaryRule : Reader Node := do
  let first ← atom g
  extend (fun left => do
    if ← accept "." then return some (.member left (← identifier) .load)
    else if ← accept "(" then
      let (args, keywords) ← arguments g true
      return some (.call left args keywords)
    else if ← accept "[" then
      let i ← indexes g
      expect "]"
      return some (.subscript left i .load)
    else return none) first

/-- A power, of an atom or of an awaited one. -/
def power : Reader Node := do
  let awaits ← accept "await"
  let base ← primaryRule g
  let base := if awaits then .await base else base
  if ← accept "**" then return .binOp base .pow (← g.factor) else return base

/-- **An operand with its signs.** -/
def factorRule : Reader Node := do
  match ← operatorAmong [("+", UnaryOp.uAdd), ("-", .uSub), ("~", .invert)] with
  | some op => return .unaryOp op (← g.factor)
  | none => power g

end Grammar

end Narrowing.Code
