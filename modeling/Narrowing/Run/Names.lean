import Narrowing.Code.Scope
import Narrowing.Value.Attribute
/-!
# Names of running code

Running code has a frame of its own and sees those of the functions around it. A
name is looked up in the first of these frames that it belongs to, and in the
module if it belongs to none or the first that mentions it declares it global.
What the module does not bind may be a name of the language itself.
-/

namespace Narrowing

open Code

namespace Site

/-- One level deeper in the text, on a line of its own. -/
def deeper (c : Site) : Site := { c with margin := c.margin + 1, line := .own }

/-- On the line of a statement. -/
def at_ (c : Site) (line : SourceLine) : Site := { c with line }

/-- In a frame of a function, which sees others. -/
def enter (c : Site) (frame : Ref) : Site :=
  { c with chain := frame :: c.inner, inner := frame :: c.inner }

/-- **What a name stands for here.** -/
def mangled (c : Site) (name : String) : String :=
  match c.owner with
  | some owner => privateName owner name
  | none => name

/-- Mentions by what the names stand for here. -/
def mangledMentions (c : Site) (ms : List Mention) : List Mention :=
  match c.owner with
  | some owner => Mention.allInClass owner ms
  | none => ms

end Site

/-- Where a name belongs. -/
inductive Place where
  | frame (r : Ref)
  | module
deriving DecidableEq

namespace Frame

/-- **Whether a name belongs to a frame.** A class body has what it is given, too. -/
def has (f : Frame) (name : String) : Bool :=
  f.locals.contains name || f.isClassBody && (f.bindings.lookup name).isSome

end Frame

namespace Store

/-- **Where a name belongs**, seen from a chain of frames. -/
def place (σ : Store) (name : String) : List Ref → Place
  | [] => .module
  | r :: rs =>
    match σ.frame? r with
    | none => σ.place name rs
    | some f =>
      if f.globals.contains name then .module
      else if f.has name then .frame r
      else σ.place name rs

/-- The value of a name in a frame. -/
def binding? (σ : Store) (r : Ref) (name : String) : Option Value :=
  (σ.frame? r).bind fun f => f.bindings.lookup name

/-- The qualified name of something defined under a name at a site; a name that is declared
global there stands alone. -/
def qualify (σ : Store) (c : Site) (name : String) : String :=
  let isGlobal := (c.chain.head?.bind σ.frame?).any fun f => f.globals.contains (c.mangled name)
  if isGlobal then name else c.inside ++ name

end Store

/-! ## The language -/

/-- The operations of the language that can be run here. -/
def languageOperations : List Builtin :=
  [.abs, .all, .any, .ascii, .bin, .callable, .chr, .delattr, .divmod, .format, .getattr,
    .hasattr, .hash, .hex, .id, .isinstance, .issubclass, .iter, .len, .max, .min, .next, .oct,
    .ord, .pow, .print, .repr, .round, .setattr, .sorted, .sum, .vars]

/-- The names of its other operations. -/
def foreignOperations : List String :=
  ["__build_class__", "__import__", "aiter", "anext", "breakpoint", "compile", "dir", "eval",
    "exec", "globals", "input", "locals", "open"]

/-- The names of the classes of the language that descriptors cannot name, errors apart. -/
def languageClasses : List String :=
  ["classmethod", "enumerate", "filter", "map", "memoryview", "property", "reversed", "slice",
    "staticmethod", "super", "type", "zip"]

/-- The class of the language of a name. -/
def languageClass? (name : String) : Option TypeObject :=
  match StandardClass.all.find? fun c => c.path = ("builtins", name) && c ≠ .noneType with
  | some c => some (.standard c)
  | none =>
    let own := (ErrorClass.otherNames.lookup name).getD name
    if languageClasses.contains name || ErrorClass.isClass own then some (.other own) else none

/-- **The names of the language itself.** -/
def languageName? (name : String) : Option Value :=
  match name with
  | "None" => some .none
  | "True" | "__debug__" => some (.bool true)
  | "False" => some (.bool false)
  | "Ellipsis" => some .ellipsis
  | "NotImplemented" => some .notImplemented
  | name =>
    match languageOperations.find? fun b => b.name = name, languageClass? name with
    | some b, _ => some (.builtin b)
    | none, some t => some (.cls t)
    | none, none => if foreignOperations.contains name then some (.builtin (.foreign name)) else none

namespace Store

/-- A store where a frame with names of one call alone holds what it does in another. -/
def withPrivate (σ τ : Store) (r : Ref) : Store :=
  match σ.frame? r with
  | some f => if f.isPrivate then τ.rebind r fun _ => f.bindings else τ
  | none => τ

theorem Grows.withPrivate (σ τ : Store) (r : Ref) : τ.Grows (σ.withPrivate τ r) := by
  unfold Store.withPrivate
  split
  · split
    · exact .rebind τ _ _
    · exact .refl τ
  · exact .refl τ

/-- A store where the names that the call at a site has for itself are what they are in another. -/
def withOwn (τ : Store) (c : Site) (σ : Store) : Store := c.own.foldl σ.withPrivate τ

theorem Grows.withOwn (τ : Store) (c : Site) (σ : Store) : τ.Grows (τ.withOwn c σ) := by
  unfold Store.withOwn
  induction c.own generalizing τ with
  | nil => exact .refl τ
  | cons r rs ih => exact (Grows.withPrivate σ τ r).trans (ih _)

end Store

namespace Run

/-- Gives the names that the call has for itself the values again that they had in a store. -/
def restoreOwn (c : Site) (σ : Store) : Run Unit :=
  ⟨fun τ => .done () (τ.withOwn c σ), fun τ => .withOwn τ c σ⟩

/-- **What happens aside** from the code at a site, such as the work of an operation and all code
that it calls. If the call that runs here has its names for itself, they stay what they are. -/
def aside {α : Type} (c : Site) (x : Run α) : Run α := do
  let σ ← read
  let a ← x
  restoreOwn c σ
  return a

/-! ## Reading and writing -/

/-- The value of a name of the module, or of the language. -/
def readGlobal (c : Site) (name : String) : Run Value := do
  match ((← read).binding? c.globals name).or (languageName? name) with
  | some v => return v
  | none => throw .unboundName

/-- The failure of a name without a value that belongs to a frame. -/
def unbound (c : Site) (r : Ref) : Failure :=
  if c.chain.head? = some r then .unboundLocal else .unboundName

/-- **The value of a name.** -/
def readName (c : Site) (name : String) : Run Value := do
  let σ ← read
  match σ.place name c.chain with
  | .module => readGlobal c name
  | .frame r =>
    match σ.frame? r with
    | none => throw .unboundName
    | some f =>
      match f.bindings.lookup name with
      | some v => return v
      | none => if f.isClassBody then readGlobal c name else throw (unbound c r)

/-- Gives a name a value in a frame. -/
def bindIn (r : Ref) (name : String) (v : Value) : Run Unit := rebindIn r (bindName name v)

/-- The frame that a name belongs to, seen from here. -/
def placeOf (c : Site) (name : String) : Run Ref := do
  match (← read).place name c.chain with
  | .module => return c.globals
  | .frame r => return r

/-- **Gives a name a value** where it belongs. -/
def writeName (c : Site) (name : String) (v : Value) : Run Unit := do bindIn (← placeOf c name) name v

/-- The names of a list in order, each with its value in a frame, if it has one. -/
def boundIn (r : Ref) (names : List String) : Run (List (String × Value)) := do
  let σ ← read
  return names.filterMap fun name => (σ.binding? r name).map fun v => (name, v)

/-- **The names that have a value here**: those of the module, of a class body, or of the call
of a function with those that it reaches in frames around it. -/
def namesHere (c : Site) : Run (List (String × Value)) := do
  let σ ← read
  let r := c.chain.head?.getD c.globals
  match σ.frame? r with
  | none => return []
  | some f =>
    if c.chain.isEmpty || f.isClassBody then return f.bindings
    else do
      let own := (f.locals.filter fun name => !c.cells.contains name) ++ c.cells.mergeSort
      let around := c.outer.mergeSort.filterMap fun name =>
        match σ.place name c.chain with
        | .frame s => (σ.binding? s name).map fun v => (name, v)
        | .module => none
      return (← boundIn r own) ++ around

/-- **Takes the value of a name away** where it belongs. -/
def deleteName (c : Site) (name : String) : Run Unit := do
  let r ← placeOf c name
  let σ ← read
  match σ.binding? r name with
  | some _ => rebindIn r fun bs => bs.filter fun (n, _) => n ≠ name
  | none =>
    let isClassBody := (σ.frame? r).any Frame.isClassBody
    throw (if isClassBody then .unboundName else unbound c r)

end Run

end Narrowing
