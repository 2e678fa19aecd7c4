import Narrowing.Code.Binding
import Narrowing.Code.Signature
import Narrowing.Run.Constant
import Narrowing.Value.Builtin
/-!
# Functions and classes that code makes

A definition makes a function, which keeps where it was made: the frames that it sees,
the class that its private names belong to, and what its qualified name begins with. A
class statement runs its body in a frame of its own and then makes a class of what the
frame holds. Functions in the body do not see that frame, but reach the class by a name
in a frame around it.
-/

namespace Narrowing

open Code

/-- **Where the body of a function runs**, in the frame of a call. -/
def Function.siteIn (f : Function) (frame : Ref) : Site :=
  { f.site.enter frame with own := [frame], cells := f.cells, outer := f.outer }

namespace Run

/-! ## Functions -/

/-- What a function has besides its code. -/
structure Making where
  name : String
  qualname : String
  doc : Value := .none
  line : SourceLine := .own
  isSuspending : Bool := false
  defaults : List Value := []
  kwDefaults : List (String × Value) := []
  annotations : List (String × Value) := []

/-- A list, or nothing in place of one without items. -/
def unlessEmpty {α : Type} : List α → Option (List α)
  | [] => none
  | a :: as => some (a :: as)

/-- **The function that code makes** at a site. -/
def functionOf (σ : Store) (c : Site) (definition : Node) (m : Making) : Function :=
  let ms := c.mangledMentions definition.functionMentions
  let parameters := (Signature.ofFunction definition).variableNames.map c.mangled
  let locals := (parameters ++ Mention.locals ms).eraseDups
  let reached := Mention.freeOfAll ms
  { definition
    name := m.name, qualname := m.qualname, doc := m.doc, line := m.line
    module := .orNull (σ.binding? c.globals "__name__")
    site :=
      { c with
        chain := [], own := [], inside := m.qualname ++ ".<locals>.", margin := c.margin + 1
        line := .own }
    locals
    globals := (Mention.globals ms).eraseDups
    cells := locals.filter fun name => reached.contains name && !parameters.contains name
    outer := (Mention.scope (.function false) ms).free.eraseDups.filter fun name =>
      σ.place name c.inner ≠ .module
    isSuspending := m.isSuspending
    isPrivate := definition.isSelfContained
    defaults := unlessEmpty m.defaults, kwDefaults := unlessEmpty m.kwDefaults
    annotations := m.annotations }

/-- **Makes a function of code.** -/
def newFunction (c : Site) (definition : Node) (m : Making) : Run Value := do
  alloc (.function (functionOf (← read) c definition m))

/-- **The bindings that a call of a function starts with.** -/
def arguments (f : Function) (args : List Value) (keywords : List (String × Value)) :
    Run (List (String × Value)) := do
  let s := (Signature.ofFunction f.definition).rename f.site.mangled
  match s.bind? (f.defaults.getD []) (f.kwDefaults.getD []) args keywords with
  | none => throw .wrongType
  | some call =>
    let rest ← s.rest.toList.mapM fun name => return (name, ← tellApart (.ofTuple call.rest))
    match s.keywordRest with
    | none => return call.named ++ rest
    | some name => return call.named ++ rest ++ [(name, ← namesDict call.keywords)]

/-- **A frame for a call of a function** with the values of its parameters, and where the
body of the function runs in it. -/
def enter (f : Function) (bindings : List (String × Value)) : Run Site := do
  let s := (Signature.ofFunction f.definition).rename f.site.mangled
  let frame ← newPlace (.frame {
    locals := f.locals, globals := f.globals, instance? := s.positional.head?
    isPrivate := f.isPrivate, bindings })
  return f.siteIn frame

/-- **A frame for the loops of a comprehension** with the iterator of the first one, and where they
run in it. A comprehension runs as a function, which nothing keeps if it runs at once. -/
def enterLoops (c : Site) (name : String) (definition : Node) (i : Value) : Run Site := do
  let f := functionOf (← read) c definition { name, qualname := c.inside ++ name }
  let loops ← enter f [(Signature.iteratorName, i)]
  return { loops with own := loops.own ++ c.own }

/-- What comes after the class of a method: the class is reached by its name, and the
instance is the first argument of the call. -/
def aboveHere (c : Site) : Run Value := do
  let σ ← read
  let self := do
    let f ← c.chain.head?.bind σ.frame?
    f.bindings.lookup (← f.instance?)
  let own :=
    match σ.place Mention.className c.chain with
    | .frame r => σ.binding? r Mention.className
    | .module => none
  match self, own with
  | some self, some (.cls t) => construct (.other "super") [.cls t, self] []
  | _, _ => throw .badState

/-! ## Classes -/

/-- Classes that may be bases, of those that descriptors cannot name; so may those of
errors. -/
def extensibleClasses : List String :=
  ["ABCMeta", "classmethod", "enumerate", "filter", "map", "property", "reversed", "staticmethod",
    "super", "type", "zip"]

/-- Whether a class may be a base. -/
def mayBeBase : TypeObject → Bool
  | .named c => c.mayBeBase
  | .other name => ErrorClass.isClass name || extensibleClasses.contains name
  | .defined _ => true

/-- The class that a base is. -/
def baseClass (v : Value) : Run TypeObject :=
  match v with
  | .cls t => if mayBeBase t then return t else throw .wrongType
  | _ => throw .wrongType

/-- **The lineage of a new class** after itself, if there is a class with such bases. -/
def inheritedFrom (σ : Store) (bases : List TypeObject) : Except Failure (List TypeObject) :=
  match commonLayout (bases.map fun t => layoutOf (σ.standardLineage t)),
    inheritedLineage bases (bases.map σ.lineage) with
  | some _, some inherited => .ok inherited
  | _, _ => .error .wrongType

/-- What stands in a class for a name of its body: a function that makes its objects takes
no instance, and one that is called for the class takes the class. -/
def memberFor (name : String) (v : Value) : Run Value := do
  match name, ← cell? v with
  | "__new__", some (.function _) => alloc (.staticMethod v)
  | "__init_subclass__", some (.function _) | "__class_getitem__", some (.function _) =>
    alloc (.classMethod v)
  | _, _ => return v

/-- The members of a class from the names of its body. What is compared by code of its own
and says nothing of keys is no key. -/
def membersOf (bindings : List (String × Value)) : Run (List (String × Value)) := do
  let members ← (bindings.filter fun (n, _) => n ≠ "__qualname__").mapM fun (n, v) =>
    return (n, ← memberFor n v)
  if (members.lookup "__eq__").isSome && (members.lookup "__hash__").isNone then
    return members ++ [("__hash__", .none)]
  else return members

/-- The text under a name, or another one if the name has no value. -/
def textUnder (bindings : List (String × Value)) (name fallback : String) : Run String := do
  match bindings.lookup name with
  | none => return fallback
  | some v =>
    match (← read).text? v with
    | some s => return s
    | none => throw .wrongType

/-- Tells the members of a new class their names, and the classes above it that there is a
new one. -/
def announce (t : TypeObject) (members keywords : List (String × Value)) : Run Unit := do
  let _ ← members.mapM fun (n, v) => callSpecial? v "__set_name__" [.cls t, .ofName n]
  let σ ← read
  let hook := ((σ.lineage t).drop 1).findSome? fun
    | .defined r => (σ.class? r).bind fun c => c.members.lookup "__init_subclass__"
    | _ => none
  match ← cell? (.orNull hook) with
  | some (.classMethod f) => do
    let _ ← ask (.call f [.cls t] keywords)
  | _ => if keywords.isEmpty then return () else throw .wrongType

/-- The keywords of a class statement without the kind of class, which has to be the usual
one. -/
def withoutKind (keywords : List (String × Value)) : Run (List (String × Value)) :=
  match keywords.lookup "metaclass" with
  | none => return keywords
  | some (.cls (.other "type")) => return keywords.filter fun (n, _) => n ≠ "metaclass"
  | some _ => throw .unsupported

/-- **The names that the objects of a new class can be given**, if its body says which. A name
is said once, and a class whose objects are fixed when they are made takes none. -/
def slotsOf (className : String) (bases : List TypeObject) (members : List (String × Value)) :
    Run (Option (List String)) := do
  match members.lookup "__slots__" with
  | none => return none
  | some v => do
    let σ ← read
    let given ←
      match σ.text? v with
      | some _ => pure [v]
      | none => items v
    let names ← given.mapM fun v => do
      match (← read).text? v with
      | some s => if Text.isName s.toList then return privateName className s else throw Failure.wrongType
      | none => throw .wrongType
    let isFixed := bases.any fun t => (σ.standardLineage t).any fun c =>
      [StandardClass.int, .tuple, .bytes].contains c
    if isFixed && !names.isEmpty then throw .wrongType
    if names.any fun name => (members.lookup name).isSome then throw .badValue
    return some names

/-- **Makes a class** of what the names of its body have become. -/
def classOf (module name qualname : String) (bases : List Value)
    (bindings keywords : List (String × Value)) (known : TypeObject → Run Unit) : Run Value := do
  let bases ← bases.mapM baseClass
  let bases := if bases.isEmpty then [.standard .object] else bases
  let inherited ← question fun σ => inheritedFrom σ bases
  let qualname ← textUnder bindings "__qualname__" qualname
  let module ← textUnder bindings "__module__" module
  let members ← membersOf bindings
  let slots ← slotsOf name bases members
  let r ← newPlace (.classObject { module, name, qualname, bases, inherited, members, slots })
  known (.defined r)
  announce (.defined r) members keywords
  return .cls (.defined r)

/-- **Makes a class without a body**, of a name, its bases and its members. -/
def classByCall (c : Site) (name bases members : Value) (keywords : List (String × Value)) :
    Run Value := do
  let σ ← read
  match σ.text? name, σ.content bases, σ.entries? members with
  | some name, .tuple bases _, some entries => do
    let bindings ← entries.mapM fun (k, v) =>
      match σ.text? k with
      | some s => return (s, v)
      | none => throw .unsupported
    let module ← orNone (readGlobal c "__name__") fun e => e.isA "NameError"
    let bindings :=
      if (bindings.lookup "__module__").isSome then bindings
      else bindings ++ (module.toList.map fun m => ("__module__", m))
    classOf c.module name name bases bindings keywords fun _ => return ()
  | _, _, _ => throw .wrongType

/-- **Makes a class** by running its body in a frame of its own. -/
def newClass (c : Site) (name : String) (body : List Node) (run : Site → Run Unit)
    (bases : List Value) (keywords : List (String × Value)) : Run Value := do
  let keywords ← withoutKind keywords
  let ms := Mention.allInClass name (Node.mentionsOfAll body)
  let qualname := (← read).qualify c name
  let module ← readGlobal c "__name__"
  let doc ← documentationOf c body
  let given := [("__module__", module), ("__qualname__", .ofName qualname)] ++
    match doc with
    | .none => []
    | doc => [("__doc__", doc)]
  let reach ← newPlace (.frame { locals := [Mention.className] })
  let frame ← newPlace (.frame {
    locals := (Mention.locals ms).eraseDups, globals := (Mention.globals ms).eraseDups
    isClassBody := true, bindings := given })
  run { c with
    chain := frame :: c.inner, inner := reach :: c.inner, own := [], inside := qualname ++ "."
    margin := c.margin + 1, owner := some name, line := .own }
  let bindings := (((← read).frame? frame).map Frame.bindings).getD []
  classOf c.module name qualname bases bindings keywords fun t =>
    bindIn reach Mention.className (.cls t)

end Run

end Narrowing
