import Narrowing.Code.Printer
import Narrowing.Decimal.Limit
import Narrowing.Value.ErrorValue
import Narrowing.Value.Iterator
import Narrowing.Value.Kind
/-!
# The text of a value

The literal form of a value, as messages show it. Most of it is the form in which code
would spell the value; an object shows the name of its class, unless its class says
otherwise, and an array of machine numbers aligns its items. What holds itself shows
three points in place of what is inside.

The plain text of a value is its literal, but for texts, which are their own, and for
machine numbers, whose literal names their class.
-/

namespace Narrowing

open Code

/-- Texts separated by commas. -/
def commaSeparated (texts : List String) : String := String.intercalate ", " texts

/-- The literal of a list. -/
def listText (texts : List String) : String := "[" ++ commaSeparated texts ++ "]"

/-- The literal of a tuple: one item keeps a comma. -/
def tupleText : List String → String
  | [x] => "(" ++ x ++ ",)"
  | xs => "(" ++ commaSeparated xs ++ ")"

/-- Texts in braces. -/
def braced (texts : List String) : String := "\x7b" ++ commaSeparated texts ++ "\x7d"

/-- The literal of a set: none spells the empty one. -/
def setText (texts : List String) : String := if texts.isEmpty then "set()" else braced texts

/-- The name of a builtin operation. -/
def Builtin.name : Builtin → String
  | elt => "elt"
  | assertType => "assert_type"
  | abs => "abs"
  | all => "all"
  | any => "any"
  | ascii => "ascii"
  | bin => "bin"
  | callable => "callable"
  | chr => "chr"
  | delattr => "delattr"
  | divmod => "divmod"
  | format => "format"
  | getattr => "getattr"
  | hasattr => "hasattr"
  | hash => "hash"
  | hex => "hex"
  | id => "id"
  | isinstance => "isinstance"
  | issubclass => "issubclass"
  | iter => "iter"
  | len => "len"
  | max => "max"
  | min => "min"
  | next => "next"
  | oct => "oct"
  | ord => "ord"
  | pow => "pow"
  | print => "print"
  | repr => "repr"
  | round => "round"
  | setattr => "setattr"
  | sorted => "sorted"
  | sum => "sum"
  | vars => "vars"
  | operationOf _ n | foreign n => n

namespace Run

/-- What is there if something can be written. -/
def writable {β : Type} : Option β → Run β
  | some b => return b
  | none => throw .badValue

/-- The text of an integer, which may not have too many digits. -/
def integerText (i : Int) : Run String := writable (Decimal.text? i)

/-- The literal of a range, without a step of one. -/
def rangeText (start stop step : Int) : Run String := do
  let ends ← ([start, stop] ++ if step = 1 then [] else [step]).mapM integerText
  return "range(" ++ commaSeparated ends ++ ")"

/-- The literal of the types of a dispatch. -/
def typesText (ds : List TypeDescriptor) : Run String := do
  return tupleText (← ds.mapM fun d => writable d.literal?)

/-- The text of a value that nothing is inside of. -/
def atomText (v : Value) : Run (Option String) := do
  match v with
  | .none => return some "None"
  | .ellipsis => return some "Ellipsis"
  | .notImplemented => return some "NotImplemented"
  | .bool b => return some (if b then "True" else "False")
  | .int i _ => return some (← integerText i)
  | .float x _ => return some (floatText x)
  | .complex re im _ => return some (complexText re im)
  | .str s _ => return some (Text.quoted s)
  | .bytes bs _ => return some (Text.quotedBytes bs)
  | .range start stop step _ => return some (← rangeText start stop step)
  | .machineInt i _ => return some ("np.int64(" ++ toString i ++ ")")
  | .machineFloat x _ => return some ("np.float64(" ++ floatText x ++ ")")
  | .machineBool b => return some (if b then "np.True_" else "np.False_")
  | .kind k => return some k.literal
  | .cls t => return some ((← read).classText t)
  | .anyOf ts =>
    let σ ← read
    return some (" | ".intercalate (ts.map fun t =>
      match t with
      | .named (.standard .noneType) => "None"
      | t => let (module, qualname) := σ.pathOf t
             if module = "builtins" then qualname else module ++ "." ++ qualname))
  | .builtin .elt => return some "<function elt>"
  | .builtin .assertType => return some "<function assert_type>"
  | .builtin (.operationOf c n) =>
    return some ("<method '" ++ n ++ "' of '" ++ (← read).nameOf c ++ "' objects>")
  | .builtin b => return some ("<built-in function " ++ b.name ++ ">")
  | .types ds => return some (← typesText ds)
  | .test _ => return some "<function>"
  | .unmatched => return some "<class 'typecase.errors.UnmatchedTypeError'>"
  | .library => return some "<module 'typecase'>"
  | _ => return none

/-- What is written in place of what stands inside itself, with the name of its class. -/
def pointsFor (className : String) : Option Cell → String
  | some (.dict _) => braced ["..."]
  | some (.set _) => className ++ "(...)"
  | some (.list _) | some (.deque ..) | some (.vector ..) | some (.userList _) => "[...]"
  | none => "(...)"
  | _ => "..."

/-- The name of the function that a value is. -/
def functionName (v : Value) : Run String := do
  match v, ← cell? v with
  | _, some (.function f) => return f.qualname
  | .builtin b, _ => return b.name
  | v, _ => return (← read).typeName v

/-- How many items a queue may hold, as its literal says it. -/
def limitText (limit : Option Nat) : String :=
  limit.elim "" fun n => ", maxlen=" ++ toString n

/-- The literal of what a store holds, where what is inside is written in a given
way. -/
def cellText (literal : Value → Run String) (v : Value) (c : Cell) : Run String := do
  let σ ← read
  let all (items : List Value) : Run (List String) := items.mapM literal
  match c with
  | .list items | .userList items => return listText (← all items)
  | .deque items limit => return "deque(" ++ listText (← all items) ++ limitText limit ++ ")"
  | .set s => return setText (← all s.items)
  | .bytearray bs => return Text.quotedByteArray bs
  | .dict entries => do
    return braced (← entries.mapM fun (k, v) => return (← literal k) ++ ": " ++ (← literal v))
  | .view kind d => do
    let items := ((σ.entries? d).map (Store.viewItems kind)).getD []
    return σ.typeName v ++ "(" ++ listText (← all items) ++ ")"
  | .array code [] => return "array(" ++ Text.quoted code ++ ")"
  | .array code items => return "array(" ++ Text.quoted code ++ ", " ++ listText (← all items) ++ ")"
  | .vector kind shape items => return MachineArray.text ⟨kind, shape, items⟩
  | .function f => return "<function " ++ f.qualname ++ ">"
  | .classObject c => return "<class '" ++ c.module ++ "." ++ c.qualname ++ "'>"
  | .staticMethod f => return "<staticmethod(" ++ (← literal f) ++ ")>"
  | .classMethod f => return "<classmethod(" ++ (← literal f) ++ ")>"
  | .bound f self => return "<bound method " ++ (← functionName f) ++ " of " ++ (← literal self) ++ ">"
  | .method name self => return "<built-in method " ++ name ++ " of " ++ σ.typeName self ++ " object>"
  | .exception name args _ => return name ++ "(" ++ commaSeparated (← all args) ++ ")"
  | .unmatchedError _ ds excerpt =>
    return "UnmatchedTypeError(" ++ excerpt ++ (← typesText ds) ++ ")"
  | _ => return "<" ++ σ.typeName v ++ " object>"

/-- The literal of an object that works as an instance of a standard class. -/
def contentText (literal : Value → Run String) (className : String) (content : Value) :
    Run String := do
  match content, ← cell? content with
  | .frozenset items .., _ | _, some (.set ⟨items, _⟩) => do
    let texts ← items.mapM literal
    return className ++ "(" ++ (if texts.isEmpty then "" else braced texts) ++ ")"
  | _, some (.deque items limit) =>
    return className ++ "(" ++ listText (← items.mapM literal) ++ limitText limit ++ ")"
  | _, some (.bytearray bs) =>
    return className ++ ((Text.quotedByteArray bs).drop "bytearray".length).toString
  | _, some (.exception _ args _) =>
    return className ++ "(" ++ commaSeparated (← args.mapM literal) ++ ")"
  | content, _ => literal content

/-- The literal of a value inside of others, where values nest at most so deep. -/
def literalWithin : Nat → List Value → Value → Run String
  | 0, _, _ => throw .tooDeep
  | depth + 1, outer, v => do
    let literal (outer : List Value) := literalWithin depth outer
    let isInside := outer.any fun w => w.identical v
    match ← atomText v with
    | some text => return text
    | none =>
      match v, ← cell? v with
      | .tuple items _, _ =>
        if isInside && !items.isEmpty then return pointsFor "tuple" none
        else return tupleText (← items.mapM (literal (v :: outer)))
      | .frozenset [] .., _ => return "frozenset()"
      | .frozenset items .., _ => return "frozenset(" ++ braced (← items.mapM (literal outer)) ++ ")"
      | .slice start stop step _, _ =>
        return "slice(" ++ commaSeparated (← [start, stop, step].mapM (literal outer)) ++ ")"
      | .ref _, some (.object t _ content) =>
        match ← callSpecial? v "__repr__" [] with
        | some (.str s _) => return s
        | some w =>
          match (← read).text? w with
          | some s => return s
          | none => throw .wrongType
        | none =>
          let σ ← read
          match t, content with
          | .named (.declared c), _ => return "<" ++ c.name ++ ">"
          | t, some content =>
            if isInside then return pointsFor (σ.nameOf t) (σ.cell? content)
            else contentText (literal (v :: outer)) (σ.nameOf t) content
          | t, none =>
            let (module, qualname) := σ.pathOf t
            return "<" ++ module ++ "." ++ qualname ++ " object>"
      | .ref _, some c =>
        if isInside then return pointsFor ((← read).typeName v) (some c)
        else cellText (literal (v :: outer)) v c
      | _, _ => return "<object>"

/-- **The literal of a value.** -/
def literal (v : Value) : Run String := literalWithin greatestDepth [] v

/-- The beginning of the literal of a value, as long as a message shows it. -/
def excerpt (length : Nat) (v : Value) : Run String := do
  return String.ofList ((← literal v).toList.take length)

/-- The plain text of a value, where errors nest at most so deep. -/
def plainTextWithin : Nat → Value → Run String
  | 0, _ => throw .tooDeep
  | depth + 1, v => do
    match ← callSpecial? v "__str__" [] with
    | some w =>
      match (← read).text? w with
      | some s => return s
      | none => throw .wrongType
    | none =>
      let σ ← read
      match v, σ.cell? v, σ.cell? (σ.content v) with
      | .str s _, _, _ => return s
      | .machineInt i _, _, _ => return toString i
      | .machineFloat x _, _, _ => return floatText x
      | .machineBool b, _, _ => return if b then "True" else "False"
      | .kind k, _, _ => return k.name
      | _, some (.vector kind shape items), _ => return MachineArray.plainText ⟨kind, shape, items⟩
      | _, some (.object _ _ (some (.str s _))), _ => return s
      | _, _, some (.exception name args attributes) =>
        errorText (plainTextWithin depth) literal name args attributes
      | v, _, _ => literal v

/-- **The plain text of a value.** -/
def plainText (v : Value) : Run String := plainTextWithin greatestDepth v

end Run

end Narrowing
