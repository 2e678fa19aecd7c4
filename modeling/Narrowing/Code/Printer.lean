import Narrowing.Code.Node
import Narrowing.Decimal.Layout
import Narrowing.Decimal.Limit
import Narrowing.Text.Quoted
/-!
# Writing code

The canonical text of a tree: four blanks per level, one statement a line, an
empty line before a function or class, single blanks around operators, and
brackets only where a looser operator stands under a tighter one. What surrounds
an expression asks for a least precedence, and an expression below that gets
brackets.

Reading the text back gives the tree again, up to what the text cannot tell: a
negative constant reads as a sign before a positive one, for instance.
-/

namespace Narrowing.Code

/-! ## Constants -/

/-- Doubles keep a decimal place and have an exponent from `1e16` on and below
`1e-4`. -/
def floatLayout : Decimal.Layout := ⟨-4, 15, true⟩

/-- The parts of a complex number are written like doubles, without the decimal
place of a whole number. -/
def complexLayout : Decimal.Layout := ⟨-4, 15, false⟩

/-- The literal of a double. -/
def floatText (x : Float) : String := floatLayout.render x

/-- A text with a sign in front even if it is positive. -/
def withSign (s : String) : String :=
  if s.toList.head? = some '-' then s else "+" ++ s

/-- **The literal of a complex number**: the imaginary part alone when the real
one is a positive zero, both in brackets otherwise. -/
def complexText (re im : Float) : String :=
  if re.toBits = 0 then complexLayout.render im ++ "j"
  else "(" ++ complexLayout.render re ++ withSign (complexLayout.render im) ++ "j)"

/-- Replaces what no literal can spell: infinity by a literal that is too great,
and what is not a number by a difference of two infinities. -/
def spellable (s : String) : String :=
  (s.replace "inf" "1e309").replace "nan" "(1e309-1e309)"

/-- **The literal of a constant.** -/
def Constant.text : Constant → String
  | .none => "None"
  | .bool b => if b then "True" else "False"
  | .int i => toString i
  | .float x => spellable (floatText x)
  | .complex re im => spellable (complexText re im)
  | .str s => Text.quoted s
  | .marked s => "u" ++ Text.quoted s
  | .points ps => Text.quotedPoints ps
  | .bytes bs => Text.quotedBytes bs
  | .ellipsis => "..."
  | .foreign text _ => text

/-- Whether a constant is written as a whole number or a truth value. -/
def Constant.isWhole : Constant → Bool
  | .bool _ | .int _ => true
  | _ => false

/-- The spelling of a binary operator. -/
def BinaryOp.text : BinaryOp → String
  | .add => "+"
  | .sub => "-"
  | .mult => "*"
  | .matMult => "@"
  | .div => "/"
  | .mod => "%"
  | .pow => "**"
  | .lShift => "<<"
  | .rShift => ">>"
  | .bitOr => "|"
  | .bitXor => "^"
  | .bitAnd => "&"
  | .floorDiv => "//"

/-- The spelling of a comparison. -/
def CompareOp.text : CompareOp → String
  | .eq => "=="
  | .notEq => "!="
  | .lt => "<"
  | .ltE => "<="
  | .gt => ">"
  | .gtE => ">="
  | .is => "is"
  | .isNot => "is not"
  | .isIn => "in"
  | .notIn => "not in"

/-! ## Literals of documentation -/

/-- A character of a literal that may span lines. -/
def openEscaped (c : Char) : List Char :=
  if c = '\n' || c = '\t' then [c]
  else if c = '\\' then ['\\', '\\']
  else if c = '\r' then ['\\', 'r']
  else if Text.isPrintable c then [c]
  else Text.numericEscape c.toNat

/-- Whether a list of characters has three of the quote in a row. -/
def hasTriple (q : Char) : List Char → Bool
  | a :: rest@(b :: c :: _) => (a = q && b = q && c = q) || hasTriple q rest
  | _ => false

/-- A code point of a literal that may span lines. -/
def openEscapedPoint (p : Nat) : List Char :=
  if p.isValidChar then openEscaped (Char.ofNat p) else Text.numericEscape p

/-- **The literal of a documentation text**, given by its code points: between three
quotes, lines kept as they are. -/
def documentation (ps : List Nat) : String :=
  let body := ps.flatMap openEscapedPoint
  let last := body.getLast?
  let free := ['"', '\''].filter fun q => !hasTriple q body
  let triple (q : Char) (body : List Char) : String :=
    String.ofList (q :: q :: q :: body ++ [q, q, q])
  match (free.filter fun q => last ≠ some q) ++ (free.filter fun q => last = some q) with
  | q :: _ =>
    if last = some q then triple q (body.dropLast ++ ['\\', q]) else triple q body
  | [] =>
    let literal := (Text.quotedPoints ps).toList
    let q := literal.head?.getD '\''
    triple q ((literal.drop 1).dropLast)

/-! ## Precedence -/

/-- The levels of precedence, loosest first. -/
inductive Precedence where
  | named | tuple | yield | test | or | and | not | comparison | bitOr | bitXor | bitAnd | shift
  | arith | term | factor | power | await | atom
deriving DecidableEq

namespace Precedence

/-- The number of a level. -/
def toNat : Precedence → Nat
  | named => 1
  | tuple => 2
  | yield => 3
  | test => 4
  | or => 5
  | and => 6
  | not => 7
  | comparison => 8
  | bitOr => 9
  | bitXor => 10
  | bitAnd => 11
  | shift => 12
  | arith => 13
  | term => 14
  | factor => 15
  | power => 16
  | await => 17
  | atom => 18

/-- The level of an operator. -/
def ofBinary : BinaryOp → Precedence
  | .bitOr => bitOr
  | .bitXor => bitXor
  | .bitAnd => bitAnd
  | .lShift | .rShift => shift
  | .add | .sub => arith
  | .pow => power
  | _ => term

/-- A text in brackets if what surrounds it asks for more than its level. -/
def enclose (level : Precedence) (asked : Nat) (s : String) : String :=
  if asked > level.toNat then "(" ++ s ++ ")" else s

end Precedence

/-- Texts separated by commas; a single one keeps a comma of its own. -/
def tupleItems (texts : List String) : String :=
  match texts with
  | [s] => s ++ ","
  | texts => String.intercalate ", " texts

/-- The literals of documentation stand first in the body of a function or class;
their mark is kept. -/
def documentation? : List Node → Option (String × List Node)
  | .exprStmt (.constant (.str s)) :: rest =>
    some (documentation (s.toList.map Char.toNat), rest)
  | .exprStmt (.constant (.marked s)) :: rest =>
    some ("u" ++ documentation (s.toList.map Char.toNat), rest)
  | .exprStmt (.constant (.points ps)) :: rest => some (documentation ps, rest)
  | _ => none

/-! ## Expressions -/

/-- **The text of an expression or of a part of one**, under what asks for the
given least level; the first argument bounds the depth. -/
def expressionText : Nat → Nat → Node → String
  | 0, _, _ => ""
  | fuel + 1, asked, node =>
    let at_ (p : Precedence) (n : Node) : String := expressionText fuel p.toNat n
    let next (p : Precedence) (n : Node) : String := expressionText fuel (p.toNat + 1) n
    let plain (n : Node) : String := expressionText fuel Precedence.test.toNat n
    let commas (ns : List Node) : String := String.intercalate ", " (ns.map plain)
    let all (ns : List Node) : String := String.join (ns.map plain)
    match node with
    | .namedExpr target value =>
      Precedence.enclose .named asked (at_ .atom target ++ " := " ++ at_ .atom value)
    | .boolOp op values =>
      let (level, word) := match op with
        | .or => (Precedence.or, " or ")
        | .and => (Precedence.and, " and ")
      Precedence.enclose level asked (String.intercalate word
        (values.mapIdx fun i v => expressionText fuel (min 18 (level.toNat + 1 + i)) v))
    | .binOp left op right =>
      let level := Precedence.ofBinary op
      let sides := if op = .pow then next level left ++ " ** " ++ at_ level right
        else at_ level left ++ " " ++ op.text ++ " " ++ next level right
      Precedence.enclose level asked sides
    | .unaryOp op operand =>
      match op with
      | .not => Precedence.enclose .not asked ("not " ++ at_ .not operand)
      | .invert => Precedence.enclose .factor asked ("~" ++ at_ .factor operand)
      | .uAdd => Precedence.enclose .factor asked ("+" ++ at_ .factor operand)
      | .uSub => Precedence.enclose .factor asked ("-" ++ at_ .factor operand)
    | .lambda parameters body =>
      let ps := plain parameters
      let ps := if ps.isEmpty then ps else " " ++ ps
      Precedence.enclose .test asked ("lambda" ++ ps ++ ": " ++ at_ .test body)
    | .ifExp test body orelse =>
      Precedence.enclose .test asked
        (next .test body ++ " if " ++ next .test test ++ " else " ++ at_ .test orelse)
    | .dict keys values =>
      let entry : Node → Node → String
        | .absent, v => "**" ++ at_ .bitOr v
        | k, v => plain k ++ ": " ++ plain v
      "\x7b" ++ String.intercalate ", " (List.zipWith entry keys values) ++ "\x7d"
    | .set elements =>
      if elements.isEmpty then "\x7b*()\x7d" else "\x7b" ++ commas elements ++ "\x7d"
    | .listComp element generators => "[" ++ plain element ++ all generators ++ "]"
    | .setComp element generators => "\x7b" ++ plain element ++ all generators ++ "\x7d"
    | .generatorExp element generators => "(" ++ plain element ++ all generators ++ ")"
    | .dictComp key value generators =>
      "\x7b" ++ plain key ++ ": " ++ plain value ++ all generators ++ "\x7d"
    | .comprehension isAsync target iter ifs =>
      (if isAsync then " async for " else " for ") ++ at_ .tuple target ++ " in " ++
        next .test iter ++ String.join (ifs.map fun c => " if " ++ next .test c)
    | .await value => Precedence.enclose .await asked ("await " ++ at_ .atom value)
    | .yield [] => Precedence.enclose .yield asked "yield"
    | .yield [value] => Precedence.enclose .yield asked ("yield " ++ at_ .atom value)
    | .yieldFrom value => Precedence.enclose .yield asked ("yield from " ++ at_ .atom value)
    | .compare left ops comparators =>
      let tail := List.zipWith (fun (op : CompareOp) c => " " ++ op.text ++ " " ++ next .comparison c)
        ops comparators
      Precedence.enclose .comparison asked (next .comparison left ++ String.join tail)
    | .call func args keywords => at_ .atom func ++ "(" ++ commas (args ++ keywords) ++ ")"
    | .keyword none value => "**" ++ plain value
    | .keyword (some name) value => name ++ "=" ++ plain value
    | .constant value => value.text
    | .member value attr _ =>
      let gap := match value with
        | .constant c => if c.isWhole then " " else ""
        | _ => ""
      at_ .atom value ++ gap ++ "." ++ attr
    | .subscript value index _ =>
      let inner := match index with
        | .tuple (e :: es) _ => tupleItems ((e :: es).map plain)
        | i => plain i
      at_ .atom value ++ "[" ++ inner ++ "]"
    | .starred value _ => "*" ++ at_ .bitOr value
    | .name id _ => id
    | .list elements _ => "[" ++ commas elements ++ "]"
    | .tuple elements _ =>
      let items := tupleItems (elements.map plain)
      if elements.isEmpty then "(" ++ items ++ ")" else Precedence.enclose .tuple asked items
    | .slice lower upper step =>
      let third := if step.isEmpty then "" else ":" ++ all step
      all lower ++ ":" ++ all upper ++ third
    | .arguments posonly args vararg kwonly kwDefaults kwarg defaults =>
      let positional := posonly ++ args
      let missing := positional.length - defaults.length
      let withDefault (a d : Node) : String :=
        match d with
        | .absent => plain a
        | d => plain a ++ "=" ++ plain d
      let shown := List.zipWith withDefault positional
        (List.replicate missing .absent ++ defaults)
      let shown := shown.take posonly.length ++ (if posonly.isEmpty then [] else ["/"]) ++
        shown.drop posonly.length
      let star := if vararg.isEmpty && kwonly.isEmpty then [] else ["*" ++ all vararg]
      let named := List.zipWith withDefault kwonly kwDefaults
      let rest := kwarg.map fun a => "**" ++ plain a
      String.intercalate ", " (shown ++ star ++ named ++ rest)
    | .arg name [] => name
    | .arg name [hint] => name ++ ": " ++ plain hint
    | .importedName name none => name
    | .importedName name (some asname) => name ++ " as " ++ asname
    | .withItem context [] => plain context
    | .withItem context [target] => plain context ++ " as " ++ plain target
    | _ => ""

/-! ## Statements -/

/-- Indents a line; an empty line stays empty. -/
def indented (line : String) : String :=
  if line.isEmpty then line else "    " ++ line

/-- **The lines of a statement**, without the margin of its block; the first
argument bounds the depth. A literal that spans lines is one line here. -/
def statementLines : Nat → Node → List String
  | 0, _ => []
  | fuel + 1, node =>
    let expr (n : Node) : String := expressionText fuel Precedence.test.toNat n
    let at_ (p : Precedence) (n : Node) : String := expressionText fuel p.toNat n
    let commas (ns : List Node) : String := String.intercalate ", " (ns.map expr)
    let first (ns : List Node) : String := String.join (ns.map expr)
    let lead (word : String) (ns : List Node) : String :=
      if ns.isEmpty then "" else word ++ first ns
    let body (ns : List Node) : List String := (ns.flatMap (statementLines fuel)).map indented
    let documented (ns : List Node) : List String :=
      match documentation? ns with
      | some (literal, rest) => indented literal :: body rest
      | none => body ns
    let closing (word : String) (ns : List Node) : List String :=
      if ns.isEmpty then [] else word :: body ns
    let marks (ds : List Node) : List String := "" :: ds.map fun d => "@" ++ expr d
    match node with
    | .functionDef name isAsync parameters ns decorators returns =>
      let word := if isAsync then "async def " else "def "
      marks decorators ++
        (word ++ name ++ "(" ++ expr parameters ++ ")" ++ lead " -> " returns ++ ":") ::
          documented ns
    | .classDef name bases keywords ns decorators =>
      let inherited := bases ++ keywords
      let brackets := if inherited.isEmpty then "" else "(" ++ commas inherited ++ ")"
      marks decorators ++ ("class " ++ name ++ brackets ++ ":") :: documented ns
    | .returnStmt value => ["return" ++ lead " " value]
    | .delete targets => ["del " ++ commas targets]
    | .assign targets value =>
      [String.join (targets.map fun t => at_ .tuple t ++ " = ") ++ expr value]
    | .augAssign target op value => [expr target ++ " " ++ op.text ++ "= " ++ expr value]
    | .annAssign target hint value =>
      [expr target ++ ": " ++ expr hint ++ lead " = " value]
    | .forStmt isAsync target iter ns orelse =>
      let word := if isAsync then "async for " else "for "
      (word ++ at_ .tuple target ++ " in " ++ expr iter ++ ":") :: body ns ++
        closing "else:" orelse
    | .whileStmt test ns orelse => ("while " ++ expr test ++ ":") :: body ns ++ closing "else:" orelse
    | .ifStmt test ns orelse =>
      let tail := match orelse with
        | [.ifStmt test ns orelse] =>
          match statementLines fuel (.ifStmt test ns orelse) with
          | line :: lines => ("el" ++ line) :: lines
          | [] => []
        | orelse => closing "else:" orelse
      ("if " ++ expr test ++ ":") :: body ns ++ tail
    | .withStmt isAsync items ns =>
      let word := if isAsync then "async with " else "with "
      (word ++ commas items ++ ":") :: body ns
    | .raise exception cause => ["raise" ++ lead " " exception ++ lead " from " cause]
    | .tryStmt ns handlers orelse finalbody =>
      "try:" :: body ns ++ handlers.flatMap (statementLines fuel) ++ closing "else:" orelse ++
        closing "finally:" finalbody
    | .exceptHandler type name ns =>
      let named := match name with
        | some x => " as " ++ x
        | none => ""
      ("except" ++ lead " " type ++ named ++ ":") :: body ns
    | .assertStmt test message => ["assert " ++ expr test ++ lead ", " message]
    | .importStmt aliases => ["import " ++ commas aliases]
    | .importFrom module level aliases =>
      ["from " ++ String.ofList (List.replicate level '.') ++ module.getD "" ++ " import " ++
        commas aliases]
    | .globalStmt names => ["global " ++ String.intercalate ", " names]
    | .nonlocalStmt names => ["nonlocal " ++ String.intercalate ", " names]
    | .exprStmt value => [at_ .yield value]
    | .pass => ["pass"]
    | .breakStmt => ["break"]
    | .continueStmt => ["continue"]
    | _ => []

/-! ## What can be written -/

/-- Whether a node can be written, apart from what is below it: an integer has not too
many digits, and an exception with a cause is named. -/
def Kind.isWritable (k : Kind) (slots : List (List Node)) : Bool :=
  match k, slots with
  | .constant (.int i), _ => Decimal.isWritable i
  | .raise, [[], _ :: _] => false
  | _, _ => true

namespace Node

mutual

/-- **Whether a tree can be written.** -/
def isWritable : Node → Bool
  | .mk k slots => k.isWritable slots && areSlotsWritable slots

/-- Whether the trees of some slots can be written. -/
def areSlotsWritable : List (List Node) → Bool
  | [] => true
  | s :: ss => areWritable s && areSlotsWritable ss

/-- Whether the trees of a list can be written. -/
def areWritable : List Node → Bool
  | [] => true
  | n :: ns => isWritable n && areWritable ns

end

/-- The lines of a statement. -/
def lines (n : Node) : List String :=
  statementLines (n.depth + 1) n

/-- The text of one statement, whether it can be written or not. -/
def rendering (n : Node) : String :=
  "\n".intercalate (n.lines.dropWhile String.isEmpty)

/-- **The text of one statement**, if it can be written. -/
def text? (n : Node) : Option String := if n.isWritable then some n.rendering else none

end Node

/-- The lines of a list of statements, documentation first if there is any. -/
def bodyLines (body : List Node) : List String :=
  match documentation? body with
  | some (literal, rest) => literal :: rest.flatMap Node.lines
  | none => body.flatMap Node.lines

/-- **The text of a module**, if it can be written. -/
def moduleText? (body : List Node) : Option String :=
  if Node.areWritable body then
    some ("\n".intercalate ((bodyLines body).dropWhile String.isEmpty))
  else none

end Narrowing.Code
