import Narrowing.Code.Declarations
import Narrowing.Code.Printer
import Narrowing.Dispatch.Umbrella
import Narrowing.Error
import Narrowing.Run.Module
/-!
# Specializing functions

A function is specialized on one of its parameters: its body becomes a dispatch
on the parameter over a branch list, with its declarations moved in front, and
the result is made a function of the same module. What the chain refers to
reaches the new function as the variables of a function around it, so nothing is
added to the module.

The code is taken from the text of the definition. Defaults and annotations are
not evaluated again; they are those of the function that is specialized. A
function that depends on variables of the functions around it is refused, since
the new one stands elsewhere.
-/

namespace Narrowing

open Code

/-- **Why a function cannot be specialized.** -/
inductive SpecializeFault where
  /-- The value is no function; its text. -/
  | notAFunction (text : String)
  /-- It depends on variables of the functions around it. -/
  | closure (function : String) (names : List String)
  /-- It has no such parameter. -/
  | noParameter (function var : String)
  /-- There is no text of its definition. -/
  | noSource (function : String)
  /-- The text of its definition is no code. -/
  | unreadable (e : ParseError)
  /-- The text of its definition holds no definition of that name. -/
  | unlocated (function : String)
  /-- There is nothing in it besides documentation. -/
  | emptyBody (function : String)
  /-- The dispatch cannot be generated. -/
  | dispatch (f : DispatchFault Spelling)
  /-- The result is no valid code. -/
  | invalid (function : String) (f : WaitFault)
  /-- The result has a constant for a name. -/
  | misnamed
  /-- The value to be decorated has no qualified name. -/
  | nameless

/-- **The problem of a function that cannot be specialized.** -/
def SpecializeFault.problem : SpecializeFault → Problem
  | notAFunction text => .library (.specialization ("expected a Python function, got " ++ text))
  | closure function names =>
    .library (.specialization
      ("cannot specialize " ++ function ++ ": it closes over " ++ commaSeparated names))
  | noParameter function var =>
    .library (.specialization (function ++ " has no parameter named " ++ Text.quoted var))
  | noSource function => .library (.specialization ("source of " ++ function ++ " is unavailable"))
  | unreadable e => .unreadable e
  | unlocated function =>
    .library (.specialization ("cannot locate the definition of " ++ function))
  | emptyBody function => .library (.specialization (function ++ " has an empty body"))
  | dispatch f => .ofDispatchFault f
  | invalid function f =>
    .library (.specialization
      ("dispatching variant of " ++ function ++ " does not compile: " ++ f.text))
  | misnamed => .failure .badValue
  | nameless => .failure .missingAttribute

/-! ## The function to be specialized -/

/-- **The variables of functions around it that a function depends on**, in
order. -/
def Store.closedOver (σ : Store) (f : Function) : List String :=
  let ms := f.site.mangledMentions f.definition.functionMentions
  let names := (Mention.scope (.function false) ms).free
  (names.eraseDups.filter fun name => σ.place name f.site.inner ≠ .module).mergeSort

/-- The text of a statement that is so many levels deep in its text. -/
def marginalText (margin : Nat) (n : Node) : String :=
  let blanks := String.ofList (List.replicate (4 * margin) ' ')
  let lines := (n.lines.dropWhile String.isEmpty).map fun line =>
    if line.isEmpty then line else blanks ++ line
  "\n".intercalate lines

/-- **The text of the definition of a function**, as it stands in the text of its
module; it begins with the line that the function starts on. The head of a block is no
text by itself. -/
def Function.sourceText (f : Function) : Except ParseError String :=
  match f.line with
  | .own => .ok (marginalText (f.site.margin - 1) f.definition)
  | .statement n => .ok (marginalText (f.site.margin - 1) n)
  | .head isContinuation => .error (if isContinuation then .misplaced else .indentation)

/-- The definition of a name in a list of statements: its parameters, its body
and whether it is asynchronous. -/
def definitionOf? (name : String) : List Node → Option Node
  | [] => none
  | .functionDef n isAsync parameters body decorators returns :: rest =>
    if n = name then some (.functionDef n isAsync parameters body decorators returns)
    else definitionOf? name rest
  | _ :: rest => definitionOf? name rest

/-- **The definition of a function, read from its text.** -/
def Function.readDefinition (f : Function) : Except SpecializeFault Node :=
  match f.sourceText.bind parseBody with
  | .error e => .error (.unreadable e)
  | .ok statements =>
    match definitionOf? f.name statements with
    | some n => .ok n
    | none => .error (.unlocated f.qualname)

/-- Splits the documentation off a body. -/
def splitDocumentation : List Node → List Node × List Node
  | .exprStmt (.constant c) :: rest =>
    if c.isText then ([.exprStmt (.constant c)], rest) else ([], .exprStmt (.constant c) :: rest)
  | body => ([], body)

/-- A function with what is needed to specialize it: its definition, its
documentation, and its body with the declarations taken out. -/
structure Subject where
  function : Function
  definition : Node
  documentation : List Node
  declared : Declared
  body : List Node

/-- **Reads a function that is to be specialized on a parameter.** -/
def Store.subject (σ : Store) (hasSource : Bool) (f : Function) (var : String) :
    Except SpecializeFault Subject := do
  let names := σ.closedOver f
  if !names.isEmpty then throw (.closure f.qualname names)
  if !((Signature.ofFunction f.definition).names.map f.site.mangled).contains var then
    throw (.noParameter f.qualname var)
  if !hasSource then throw (.noSource f.qualname)
  match ← f.readDefinition with
  | .functionDef name isAsync parameters body _ returns =>
    let (documentation, body) := splitDocumentation body
    if body.isEmpty then throw (.emptyBody f.qualname)
    let (body, declared) := hoistList {} body
    return ⟨f, .functionDef name isAsync parameters body [] returns, documentation, declared, body⟩
  | _ => throw (.unlocated f.qualname)

/-- **Reads a value that is to be specialized on a parameter**, if it is a function. -/
def Run.subject (hasSource : Bool) (v : Value) (var : String) :
    Run (Except SpecializeFault Subject) := do
  match ← cell? v with
  | some (.function f) => return (← read).subject hasSource f var
  | _ => return .error (.notAFunction (← literal v))

/-! ## The dispatching variant -/

/-- The dispatching variant of a function. -/
structure Variant where
  subject : Subject
  dispatch : Dispatch Spelling Class Predicate

/-- Replaces the body of a definition. -/
def withBody (body : List Node) : Node → Node
  | .functionDef name isAsync parameters _ decorators returns =>
    .functionDef name isAsync parameters body decorators returns
  | n => n

/-- **The definition of a variant.** -/
def Variant.definition (v : Variant) : Node :=
  withBody (v.subject.documentation ++ v.subject.declared.statements ++ [v.dispatch.node])
    v.subject.definition

/-- **The text of a variant**, if it can be written. -/
def Variant.text? (v : Variant) : Option String := moduleText? [v.definition]

/-- **Generates the dispatching variant of a function.** -/
def Generator.variant (g : Generator Spelling Class Predicate) (counters : Counters)
    (hasSource : Bool) (v : Value) (var : String) (types : List TypeDescriptor) :
    Run (Logged (Note Spelling) SpecializeFault Variant × Counters) := do
  match ← Run.subject hasSource v var with
  | .error f => return (.ofExcept (.error f), counters)
  | .ok s =>
    let (dispatch, counters) := g.generate counters var types s.body
    return (⟨dispatch.notes, (dispatch.result.mapError .dispatch).map fun d => ⟨s, d⟩⟩, counters)

/-! ## The specialized function -/

/-- A parameter without its annotation. -/
def withoutHint : Node → Node
  | .arg name _ => .arg name []
  | n => n

/-- Parameters without defaults and annotations. -/
def bareParameters : Node → Node
  | .arguments posonly args vararg kwonly _ kwarg _ =>
    .arguments (posonly.map withoutHint) (args.map withoutHint) (vararg.map withoutHint)
      (kwonly.map withoutHint) (kwonly.map fun _ => .absent) (kwarg.map withoutHint) []
  | n => n

/-- A definition without what is evaluated where it stands. -/
def bareDefinition : Node → Node
  | .functionDef name isAsync parameters body _ _ =>
    .functionDef name isAsync (bareParameters parameters) body [] []
  | n => n

/-- The name of the function around a specialized one. -/
def factoryName : String := "__typecase_factory__"

/-- **The function around a specialized one**: it takes what the chain refers to
and returns the function. -/
def Variant.factory (v : Variant) : Node :=
  let parameters := v.dispatch.bindings.map fun (name, _) => Node.arg name []
  .functionDef factoryName false (.arguments [] parameters [] [] [] [] [])
    [bareDefinition v.definition, .returnStmt [.load v.subject.function.name]] [] []

/-- **The value of what a chain refers to.** -/
def Binding.value : Binding Spelling Class Predicate → Value
  | .types ds => .types ds
  | .unmatched => .unmatched
  | .test (.instanceOf c) => .cls (.named c)
  | .test (.instanceOfAny cs) => .ofTuple (cs.map fun c => .cls (.named c))
  | .test t => .test t

/-- **Makes the specialized function**: runs the function around it, which is code of a text
of its own at the top of the module of the function that is specialized, and gives the
result what it takes over from that. -/
def Run.install (c : Site) (original : Value) (v : Variant) : Run Value := do
  let f := v.subject.function
  let c ← inNewText { module := f.site.module, globals := f.site.globals, textUnit := c.textUnit }
  let factory ← newFunction c v.factory { name := factoryName, qualname := factoryName }
  let specialized ← invoke factory (v.dispatch.bindings.map fun (_, b) => b.value)
  match specialized, (← read).cell? specialized with
  | .ref r, some (.function new) =>
    update r (.function { new with
      defaults := f.defaults, kwDefaults := f.kwDefaults, annotations := f.annotations
      doc := f.doc, qualname := f.qualname, module := f.module
      attributes :=
        [("__typecase_original__", original),
          ("__typecase_branches__", .types v.dispatch.types)] })
  | _, _ => pure ()
  return specialized

/-- The fault of a variant that waits where it cannot. -/
def Variant.waitFault? (v : Variant) : Option WaitFault :=
  Mention.firstWaitFault? .classBody v.factory.mentions

/-- Whether a node is named like a constant. -/
def isMisnamed : Kind → Bool
  | .name id _ => ["None", "True", "False"].contains id
  | _ => false

/-- **What keeps a variant from being code.** -/
def Variant.fault? (v : Variant) : Option SpecializeFault :=
  if v.factory.anyKind isMisnamed then some .misnamed
  else v.waitFault?.map (.invalid v.subject.function.qualname)

/-- **Specializes a function on a parameter.** -/
def Generator.specialize (g : Generator Spelling Class Predicate) (counters : Counters)
    (c : Site) (hasSource : Bool) (v : Value) (var : String) (types : List TypeDescriptor) :
    Run (Logged (Note Spelling) SpecializeFault Value × Counters) := do
  let (variant, counters) ← g.variant counters hasSource v var types
  match variant.result with
  | .error f => return (⟨variant.notes, .error f⟩, counters)
  | .ok w =>
    match w.fault? with
    | some f => return (⟨variant.notes, .error f⟩, counters)
    | none => return (⟨variant.notes, .ok (← Run.install c v w)⟩, counters)

/-- The text of the qualified name of a value, if it has one. -/
def Run.qualifiedName? (v : Value) : Run (Option String) := do
  match ← orNone (readAttribute v "__qualname__") fun f => f.isA "AttributeError" with
  | some name => return some (← plainText name)
  | none => return none

/-- **Decorates a function**: notes which one it is and specializes it. -/
def Generator.decorate (g : Generator Spelling Class Predicate) (counters : Counters)
    (c : Site) (hasSource : Bool) (v : Value) (var : String) (types : List TypeDescriptor) :
    Run (Logged (Note Spelling) SpecializeFault Value × Counters) := do
  match ← Run.qualifiedName? v with
  | none => return (.ofExcept (.error .nameless), counters)
  | some qualname =>
    let (result, counters) ← g.specialize counters c hasSource v var types
    return (⟨.dispatching qualname var :: result.notes, result.result⟩, counters)

end Narrowing
