import Narrowing.Code.Parser
import Narrowing.Code.Rules
/-!
# Valid code

Texts that are read together with the rules that go beyond the grammar: a whole
program, and a single expression, which may spread over several of its own separated
by commas and may be followed by empty lines only.
-/

namespace Narrowing.Code

open Reader

/-- Expressions separated by commas that spread nothing: one by itself, or a
tuple. -/
def plainExpressions (g : Grammar) : Reader Node := do
  let first ← g.expression
  if ← sees "," then
    let (rest, _) ← afterCommas Grammar.listEnds g.expression
    return .tuple (first :: rest) .load
  else return first

/-- Expressions that are all of a text. -/
def readWhole (g : Grammar) : Reader Node := do
  let e ← plainExpressions g
  let _ ← Reader.many do
    match ← peek with
    | .newline => do
      advance
      return some ()
    | _ => return none
  match ← peek with
  | .finish => return e
  | _ => stop

/-- The result of a reader on a text, where what it reads has to be valid. -/
def readValid {α : Type} (reader : Grammar → Reader α) (statements : α → List Node) (s : String) :
    Except ParseError α :=
  if s.toList.contains '\x00' then .error .nullCharacter
  else
    let tokens := Token.ofText s
    match reader (.layer (tokens.length + 1)) tokens with
    | .ok (a, _) => if obeysRules (statements a) then .ok a else .error .misplaced
    | .error e => .error (e.fault tokens)

/-- **The expression that a text is.** -/
def readExpression (s : String) : Except ParseError Node :=
  readValid readWhole (fun e => [.exprStmt e]) s

/-- **The statements of a valid program.** -/
def readProgram (s : String) : Except ParseError (List Node) :=
  readValid readAll id s

end Narrowing.Code
