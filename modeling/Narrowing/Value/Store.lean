import Narrowing.Code.Node
import Narrowing.Oracle.Classes
import Narrowing.Value.Slots
/-!
# Values

What code computes with. Values that never change carry their content; all
others are references into a **store**, so that two names for one list see the
same items. What a store holds at a place is a `Cell`: a container, an iterator, an
object of a class, a class, a function with the frames it was defined in, or a frame,
which holds the names that one call binds.

Two values of one content may still be told apart. A **tag** does that where it
matters: every computed number, text or tuple that is not one of the few shared ones
gets a tag of its own.

Besides the scalars of the language there are those of a machine-number array,
which keep their own kind in arithmetic.

The last values are what a dispatch chain refers to by its names: the branch types, a
test and the error of unmatched values.
-/

namespace Narrowing

open Code

/-- A place in a store. -/
structure Ref where
  index : Nat
deriving DecidableEq

/-- What tells values of one content apart: those with the tag `0` or `1` are one. -/
abbrev Tag := Nat

/-- The tag of what was computed and not told apart. -/
def Tag.none : Tag := 0

/-- The tag of a text that is one wherever it is spelled. -/
def Tag.shared : Tag := 1

/-- **A class of values.** -/
inductive TypeObject where
  /-- A class that descriptors can name. -/
  | named (c : Class)
  /-- A class of the language that they cannot name. -/
  | other (name : String)
  /-- A class made by a class statement. -/
  | defined (r : Ref)
deriving DecidableEq

/-- Operations that are not written in code and are no classes. -/
inductive Builtin where
  | elt | assertType | abs | all | any | ascii | bin | callable | chr | delattr | divmod | format | getattr
  | hasattr | hash | hex | id | isinstance | issubclass | iter | len | max | min | next | oct
  | ord | pow | print | repr | round | setattr | sorted | sum | vars
  /-- An operation of the values of a class, which takes the value first. -/
  | operationOf (c : TypeObject) (name : String)
  /-- One that cannot be run here. -/
  | foreign (name : String)
deriving DecidableEq

/-- The kinds of numbers in an array of machine numbers. -/
inductive MachineKind where
  | truth | whole | real | complex
deriving DecidableEq

/-- **A value.** -/
inductive Value where
  | none
  | ellipsis
  /-- What an operation gives that is not defined on its operands. -/
  | notImplemented
  | bool (b : Bool)
  | int (i : Int) (tag : Tag)
  | float (x : Float) (tag : Tag)
  | complex (re im : Float) (tag : Tag)
  | str (s : String) (tag : Tag)
  | bytes (bs : List Nat) (tag : Tag)
  | tuple (items : List Value) (tag : Tag)
  /-- A set that never changes, with the slots that its items are kept in. -/
  | frozenset (items : List Value) (slots : Slots) (tag : Tag)
  | range (start stop step : Int) (tag : Tag)
  /-- A range of positions. -/
  | slice (start stop step : Value) (tag : Tag)
  /-- An integer out of an array of machine numbers. -/
  | machineInt (i : Int) (tag : Tag)
  /-- A double out of an array of machine numbers. -/
  | machineFloat (x : Float) (tag : Tag)
  /-- A truth value from comparing machine numbers. -/
  | machineBool (b : Bool)
  /-- A kind of machine numbers. -/
  | kind (k : MachineKind)
  | cls (t : TypeObject)
  /-- Any of some classes. -/
  | anyOf (ts : List TypeObject)
  | builtin (b : Builtin)
  /-- A list of descriptors. -/
  | types (ds : List TypeDescriptor)
  /-- A runtime test. -/
  | test (t : TypeTest)
  /-- The error of unmatched values. -/
  | unmatched
  /-- The module that holds the generic access. -/
  | library
  /-- A place in the store. -/
  | ref (r : Ref)

namespace Value

/-- A computed integer. -/
abbrev ofInt (i : Int) : Value := int i .none

/-- A computed double. -/
abbrev ofFloat (x : Float) : Value := float x .none

/-- A computed complex number. -/
abbrev ofComplex (re im : Float) : Value := complex re im .none

/-- A computed text. -/
abbrev ofText (s : String) : Value := str s .none

/-- A text that is one wherever it is spelled. -/
abbrev ofName (s : String) : Value := str s .shared

/-- A computed byte string. -/
abbrev ofByteList (bs : List Nat) : Value := bytes bs .none

/-- A computed tuple. -/
abbrev ofTuple (items : List Value) : Value := tuple items .none

/-- A computed frozen set. -/
abbrev ofFrozenset (s : Slotted Value) : Value := frozenset s.items s.slots .none

/-- A computed machine integer. -/
abbrev ofMachineInt (i : Int) : Value := machineInt i .none

/-- A computed machine double. -/
abbrev ofMachineFloat (x : Float) : Value := machineFloat x .none

/-- A standard class. -/
abbrev standard (c : StandardClass) : Value := cls (.named (.standard c))

end Value

/-! ## Code that runs -/

/-- **The names of one call**, of a class body or of a module. -/
structure Frame where
  /-- The names that belong to the frame, whether they have a value or not. -/
  locals : List String := []
  /-- The names declared global. -/
  globals : List String := []
  /-- Whether a local name without a value is looked up in the module. -/
  isClassBody : Bool := false
  /-- The parameter that a call takes its instance by. -/
  instance? : Option String := none
  /-- Whether the names are those of one call alone, which makes nothing that could reach them. -/
  isPrivate : Bool := false
  /-- The values of names. -/
  bindings : List (String × Value) := []

/-- **The line of a text that a function starts on.** -/
inductive SourceLine where
  /-- That of its own definition. -/
  | own
  /-- That of a statement. -/
  | statement (n : Node)
  /-- The head of a block, which opens with a word of its own or continues another. -/
  | head (isContinuation : Bool)

/-- **Where code stands** while it runs. -/
structure Site where
  /-- The name of the module. -/
  module : String
  /-- The frame of the module. -/
  globals : Ref
  /-- The frames that a name is looked up in, innermost first. -/
  chain : List Ref := []
  /-- The frames that functions defined here see. -/
  inner : List Ref := []
  /-- The frames of the call that runs, and of the comprehensions in it. -/
  own : List Ref := []
  /-- What the qualified names of functions and classes defined here begin
  with. -/
  inside : String := ""
  /-- How many levels the code is indented in its text. -/
  margin : Nat := 0
  /-- The class that private names belong to. -/
  owner : Option String := none
  /-- The text that the code is from; each is one unit. -/
  textUnit : Nat := 0
  /-- The line that runs. -/
  line : SourceLine := .own
  /-- The names besides parameters that functions inside the one that runs reach. -/
  cells : List String := []
  /-- The names that it reaches in frames around it. -/
  outer : List String := []

/-- **A function.** -/
structure Function where
  /-- Its name. -/
  name : String
  /-- Its name with the names of what encloses it. -/
  qualname : String
  /-- The module of its definition. -/
  module : Value
  /-- Its documentation, or the null value. -/
  doc : Value
  /-- The code: a definition or a function expression. -/
  definition : Node
  /-- The line that it starts on. -/
  line : SourceLine
  /-- Where its body runs, but for the frame of the call. -/
  site : Site
  /-- The names that belong to its frame. -/
  locals : List String
  /-- The names that it declares global. -/
  globals : List String
  /-- The names besides parameters that functions inside it reach. -/
  cells : List String
  /-- The names that it reaches in frames around it. -/
  outer : List String
  /-- Whether a call only prepares its run. -/
  isSuspending : Bool
  /-- Whether its code makes no function, class or generator, so that a call has its names for
  itself. -/
  isPrivate : Bool
  /-- The defaults of its last positional parameters. -/
  defaults : Option (List Value)
  /-- The defaults of keyword parameters. -/
  kwDefaults : Option (List (String × Value))
  /-- The values of its annotations, by parameter. -/
  annotations : List (String × Value)
  /-- What else is known of it by name. -/
  attributes : List (String × Value) := []

/-- Whether calls of a function are to be awaited. -/
def Function.isAwaited (f : Function) : Bool :=
  match f.definition with
  | .functionDef _ true .. => true
  | _ => false

/-- **A class made by a class statement.** -/
structure ClassObject where
  /-- The module of the statement. -/
  module : String
  name : String
  qualname : String
  bases : List TypeObject
  /-- What it inherits from, without itself. -/
  inherited : List TypeObject
  members : List (String × Value)
  /-- The names that its objects can be given, if it says which. -/
  slots : Option (List String) := none

/-- **How far a call has come** that runs by halves. -/
inductive Progress where
  | fresh | paused | running | over
deriving DecidableEq

/-! ## Cells -/

/-- What a view of a dictionary shows of each entry. -/
inductive ViewKind where
  | keys | values | items
deriving DecidableEq

/-- **How an iterator goes on.** -/
inductive Iteration where
  /-- With the values of a list, as an iterator of a class. -/
  | items (rest : List Value) (className : String := "list_iterator")
  /-- With the item of a container at a position. -/
  | at_ (container : Value) (index : Nat)
  /-- With the item of a container before a position. -/
  | before (container : Value) (index : Nat)
  /-- With an entry of a container that must keep its size. -/
  | entries (container : Value) (kind : ViewKind) (index size : Nat)
  /-- With so many numbers in even steps. -/
  | numbers (next step : Int) (left : Nat)
  /-- With what a subscript gives for an index. -/
  | subscripts (container : Value) (index : Int)
  /-- With the items of an iterator, counted. -/
  | counted (iterator : Value) (index : Int)
  /-- With an item of each of several iterators. -/
  | together (iterators : List Value)
  /-- With what a function gives for an item of each of several iterators. -/
  | mapped (function : Value) (iterators : List Value)
  /-- With the items of an iterator that a function accepts. -/
  | accepted (function : Value) (iterator : Value)
  /-- With what a function gives until it gives a certain value. -/
  | calls (function sentinel : Value)

/-- **What a store holds at a place.** -/
inductive Cell where
  | list (items : List Value)
  /-- A list in an object. -/
  | userList (items : List Value)
  /-- A list in an object that the list at a place is. -/
  | listAt (place : Ref)
  /-- A queue with two ends, which may hold so many items at most. -/
  | deque (items : List Value) (limit : Option Nat)
  | set (s : Slotted Value)
  | bytearray (bytes : List Nat)
  | dict (entries : List (Value × Value))
  /-- What a dictionary shows of its entries. -/
  | view (kind : ViewKind) (dict : Value)
  /-- An array with its type code. -/
  | array (code : String) (items : List Value)
  /-- An array of machine numbers: their kind, how many there are along each axis, and
  the numbers along the last axis first. -/
  | vector (kind : MachineKind) (shape : List Nat) (items : List Value)
  /-- An array whose numbers are those of the array at a place, at some positions. -/
  | window (kind : MachineKind) (shape : List Nat) (place : Ref) (positions : List Nat)
  /-- An iterator. -/
  | iterator (i : Iteration)
  /-- An object of a class, with its attributes and what it is as an instance of a
  standard class. -/
  | object (c : TypeObject) (attributes : List (String × Value)) (content : Option Value)
  /-- An object whose attributes are the entries of the dictionary at a place. -/
  | objectAt (c : TypeObject) (place : Ref) (content : Option Value)
  | function (f : Function)
  | classObject (c : ClassObject)
  /-- A function that takes no instance when it is looked up in a class. -/
  | staticMethod (function : Value)
  /-- A function that takes the class when it is looked up in it. -/
  | classMethod (function : Value)
  /-- An attribute that is computed, given a value and deleted by functions, and what is said
  of it if it is not what the first of them says of itself. -/
  | property (getter setter deleter : Value) (doc : Option Value)
  /-- A function with its first argument. -/
  | bound (function self : Value)
  /-- An operation of a value that is not written in code. -/
  | method (name : String) (self : Value)
  /-- What a value is from the classes that come after one of its own on. -/
  | above (c : TypeObject) (self : Value)
  /-- A call that runs by halves, with the values of its parameters. -/
  | activation (f : Function) (bindings : List (String × Value)) (progress : Progress)
  /-- An error of the language with its arguments and attributes. -/
  | exception (name : String) (args : List Value) (attributes : List (String × Value))
  /-- The error of an unmatched value, whose literal begins like this. -/
  | unmatchedError (value : Value) (types : List TypeDescriptor) (excerpt : String)
  | frame (f : Frame)

/-- The last of some items, as many as a queue may hold. -/
def lastOf {α : Type} (limit : Option Nat) (items : List α) : List α :=
  limit.elim items fun n => items.drop (items.length - n)

/-- **A store**: what it holds by place, the tags in use, and the constants of the
texts whose code has run. -/
structure Store where
  cells : Array Cell := #[]
  /-- The least tag that is not in use. -/
  nextTag : Tag := 2
  /-- The constants met so far by text, with their tags. -/
  constants : List (Nat × Constant × Tag) := []
  /-- How many texts have been run. -/
  textUnits : Nat := 0

namespace Store

/-- What a store holds at a place. -/
def get? (σ : Store) (r : Ref) : Option Cell := σ.cells[r.index]?

/-- Puts something at a place that is in use. -/
def set (σ : Store) (r : Ref) (c : Cell) : Store :=
  { σ with cells := σ.cells.setIfInBounds r.index c }

/-- Puts something at a new place. -/
def alloc (σ : Store) (c : Cell) : Ref × Store :=
  (⟨σ.cells.size⟩, { σ with cells := σ.cells.push c })

@[simp] theorem get?_alloc_self (σ : Store) (c : Cell) :
    (σ.alloc c).2.get? (σ.alloc c).1 = some c := by
  simp [alloc, get?]

theorem get?_alloc_of_some {σ : Store} {r : Ref} {d : Cell} (h : σ.get? r = some d) (c : Cell) :
    (σ.alloc c).2.get? r = some d := by
  simp only [get?, alloc] at h ⊢
  obtain ⟨hlt, rfl⟩ := Array.getElem?_eq_some_iff.1 h
  rw [Array.getElem?_push_lt hlt]

theorem get?_set_self {σ : Store} {r : Ref} (h : r.index < σ.cells.size) (c : Cell) :
    (σ.set r c).get? r = some c := by
  simp [set, get?, h]

theorem get?_set_of_ne (σ : Store) {r s : Ref} (h : r ≠ s) (c : Cell) :
    (σ.set r c).get? s = σ.get? s := by
  have : r.index ≠ s.index := fun e => h (by cases r; cases s; simp_all)
  simp [set, get?, this]

/-- The entries of a dictionary with names as keys. -/
def named (entries : List (Value × Value)) : List (String × Value) :=
  entries.filterMap fun (k, v) =>
    match k with
    | .str name _ => some (name, v)
    | _ => Option.none

/-- Names with values as entries of a dictionary, in place of those it has. -/
def renamed (entries : List (Value × Value)) (attributes : List (String × Value)) :
    List (Value × Value) :=
  let others := entries.filter fun (k, _) =>
    match k with
    | .str .. => false
    | _ => true
  (attributes.map fun (name, v) => (.ofName name, v)) ++ others

/-- What a cell shows that shares what another place holds. -/
def shared? (σ : Store) : Cell → Option Cell
  | .listAt d =>
    match σ.get? d with
    | some (.list items) => some (.userList items)
    | _ => Option.none
  | .window kind shape d positions =>
    match σ.get? d with
    | some (.vector _ _ items) =>
      let all := items.toArray
      some (.vector kind shape (positions.filterMap (all[·]?)))
    | _ => Option.none
  | .objectAt c d content =>
    match σ.get? d with
    | some (.dict entries) => some (.object c (named entries) content)
    | _ => Option.none
  | _ => Option.none

/-- **What a store shows at a place**: what it holds there, where what is shared with another
place is taken from it. -/
def shown? (σ : Store) (r : Ref) : Option Cell :=
  (σ.get? r).map fun c => (σ.shared? c).getD c

/-- Puts numbers at some positions of others. -/
def scattered (items : List Value) (positions : List Nat) (new : List Value) : List Value :=
  ((positions.zip new).foldl (fun (all : Array Value) (k, v) => all.setIfInBounds k v)
    items.toArray).toList

/-- **Puts something in place of what a store shows**, also at the place that it is shared
with. -/
def put (σ : Store) (r : Ref) (c : Cell) : Store :=
  match σ.get? r, c with
  | some (.listAt d), .userList items =>
    match σ.get? d with
    | some (.list _) => σ.set d (.list items)
    | _ => σ
  | some (.window kind _ d positions), .vector _ shape new =>
    match σ.get? d with
    | some (.vector k s items) =>
      (σ.set d (.vector k s (scattered items positions new))).set r (.window kind shape d positions)
    | _ => σ
  | some (.objectAt _ d _), .object t attributes content =>
    match σ.get? d with
    | some (.dict entries) =>
      (σ.set d (.dict (renamed entries attributes))).set r (.objectAt t d content)
    | _ => σ
  | _, c => σ.set r c

/-- What a value refers to. -/
def cell? (σ : Store) : Value → Option Cell
  | .ref r => σ.shown? r
  | _ => Option.none

/-- An object stands for what it is as an instance of a standard class; any other value
stands for itself. -/
def content (σ : Store) (v : Value) : Value :=
  match σ.cell? v with
  | some (.object _ _ (some content)) => content
  | _ => v

/-- The frame at a place. -/
def frame? (σ : Store) (r : Ref) : Option Frame :=
  match σ.get? r with
  | some (.frame f) => some f
  | _ => none

/-- The class at a place. -/
def class? (σ : Store) (r : Ref) : Option ClassObject :=
  match σ.get? r with
  | some (.classObject c) => some c
  | _ => none

end Store

/-! ## What stays -/

/-- The containers that stay what they are. -/
inductive ContainerKind where
  | list | deque | bytearray | dict | array | vector
deriving DecidableEq

namespace Cell

/-- The kind of container that a cell is. -/
def containerKind? : Cell → Option ContainerKind
  | list _ => some .list
  | deque .. => some .deque
  | bytearray _ => some .bytearray
  | dict _ => some .dict
  | array .. => some .array
  | vector .. => some .vector
  | _ => none

/-- Whether a cell may be replaced by another one. Frames are only given other values for their
names. -/
def admits (c d : Cell) : Bool :=
  match c with
  | frame _ => false
  | c => c.containerKind?.isNone || d.containerKind? = c.containerKind?

/-- **What a place may hold later** that holds a cell: a container stays one of its kind, and a
frame one for the same names. -/
structure Becomes (c d : Cell) : Prop where
  container : ∀ kind, c.containerKind? = some kind → d.containerKind? = some kind
  frame : ∀ f, c = .frame f → ∃ bindings, d = .frame { f with bindings }

theorem Becomes.refl (c : Cell) : c.Becomes c where
  container _ h := h
  frame f h := ⟨f.bindings, h⟩

theorem Becomes.trans {c d e : Cell} (h : c.Becomes d) (h' : d.Becomes e) : c.Becomes e where
  container kind hkind := h'.container kind (h.container kind hkind)
  frame f hf := by
    obtain ⟨bindings, hd⟩ := h.frame f hf
    obtain ⟨bindings', he⟩ := h'.frame _ hd
    exact ⟨bindings', he⟩

theorem Becomes.of_admits {c d : Cell} (h : c.admits d) : c.Becomes d := by
  have hkind : c.containerKind?.isNone ∨ d.containerKind? = c.containerKind? := by
    unfold admits at h
    split at h
    · cases h
    · simpa using h
  refine ⟨fun kind hc => ?_, fun f hf => ?_⟩
  · rcases hkind with hnone | hsame
    · rw [hc] at hnone
      cases hnone
    · rw [hsame, hc]
  · rw [hf] at h
    cases h

end Cell

namespace Store

/-- **A store that has grown**: what is in use stays in use, and stays what it is as far as code
counts on it. -/
def Grows (σ τ : Store) : Prop := ∀ r c, σ.get? r = some c → ∃ d, τ.get? r = some d ∧ c.Becomes d

namespace Grows

variable {σ τ υ : Store}

theorem refl (σ : Store) : σ.Grows σ := fun _ c h => ⟨c, h, .refl c⟩

theorem trans (h : σ.Grows τ) (h' : τ.Grows υ) : σ.Grows υ := fun r c hc =>
  have ⟨d, hd, hcd⟩ := h r c hc
  have ⟨e, he, hde⟩ := h' r d hd
  ⟨e, he, hcd.trans hde⟩

/-- Only what is held by place counts. -/
theorem of_cells (h : τ.cells = σ.cells) : σ.Grows τ := fun r c hc =>
  ⟨c, by rwa [get?, h], .refl c⟩

theorem alloc (σ : Store) (c : Cell) : σ.Grows (σ.alloc c).2 := fun _ d h =>
  ⟨d, get?_alloc_of_some h c, .refl d⟩

theorem set {r : Ref} {d : Cell} (h : ∀ c, σ.get? r = some c → c.Becomes d) :
    σ.Grows (σ.set r d) := by
  intro s c hc
  by_cases hs : r = s
  · subst hs
    exact ⟨d, get?_set_self (Array.getElem?_eq_some_iff.1 hc).1 d, h c hc⟩
  · exact ⟨c, by rwa [get?_set_of_ne σ hs], .refl c⟩

end Grows

/-- Gives other values to the names of a frame. -/
def rebind (σ : Store) (r : Ref) (g : List (String × Value) → List (String × Value)) : Store :=
  match σ.frame? r with
  | some f => σ.set r (.frame { f with bindings := g f.bindings })
  | none => σ

theorem Grows.rebind (σ : Store) (r : Ref) (g : List (String × Value) → List (String × Value)) :
    σ.Grows (σ.rebind r g) := by
  unfold Store.rebind frame?
  split
  · next f hf =>
    refine .set fun c hc => ?_
    rw [hc] at hf
    split at hf
    · next h =>
      obtain rfl := Option.some.inj h
      obtain rfl := Option.some.inj hf
      exact ⟨nofun, fun f' hf' => Cell.frame.inj hf' ▸ ⟨_, rfl⟩⟩
    · cases hf
  · exact .refl σ

/-- Puts something in place of what a store shows, if it may stand there. -/
def replace (σ : Store) (r : Ref) (c : Cell) : Store :=
  if (σ.get? r).all fun d => d.admits c then σ.put r c else σ

/-- A container goes where one of its kind is, and nothing is counted on where it is shared. -/
theorem Grows.set_shared {σ : Store} {r d : Ref} {e e' f f' : Cell} (he : σ.get? r = some e)
    (hf : σ.get? d = some f) (hnone : e.containerKind? = none) (hframe : ∀ g, e ≠ .frame g)
    (hkind : f.containerKind? ≠ none) (hsame : f'.containerKind? = f.containerKind?) :
    σ.Grows ((σ.set d f').set r e') := by
  have hdr : d ≠ r := by
    rintro rfl
    rw [he] at hf
    obtain rfl := Option.some.inj hf
    exact hkind hnone
  have hframe' : ∀ g, f ≠ .frame g := by
    rintro g rfl
    exact hkind rfl
  refine Grows.trans (.set fun g hg => ?_) (.set fun g hg => ?_)
  · rw [hf] at hg
    obtain rfl := Option.some.inj hg
    exact ⟨fun kind h => by rw [hsame, h], fun g hg => absurd hg (hframe' g)⟩
  · rw [get?_set_of_ne σ hdr, he] at hg
    obtain rfl := Option.some.inj hg
    exact ⟨fun kind h => absurd (hnone.symm.trans h) nofun, fun g hg => absurd hg (hframe g)⟩

theorem Grows.replace (σ : Store) (r : Ref) (c : Cell) : σ.Grows (σ.replace r c) := by
  unfold Store.replace
  split
  · next hadmits =>
    have hown : ∀ d, σ.get? r = some d → d.Becomes c := fun d hd =>
      .of_admits (by simpa [hd] using hadmits)
    unfold put
    split
    · split
      · next hd =>
        refine .set fun c hc => ?_
        rw [hd] at hc
        obtain rfl := Option.some.inj hc
        exact ⟨fun _ h => h, nofun⟩
      · exact .refl σ
    · next hr =>
      split
      · next hd => exact .set_shared hr hd rfl nofun nofun rfl
      · exact .refl σ
    · next hr =>
      split
      · next hd => exact .set_shared hr hd rfl nofun nofun rfl
      · exact .refl σ
    · exact .set hown
  · exact .refl σ

end Store

/-! ## Bindings -/

/-- Gives a name a value, in place of the one it has. -/
def bindName (name : String) (v : Value) : List (String × Value) → List (String × Value)
  | [] => [(name, v)]
  | (n, w) :: rest => if n = name then (name, v) :: rest else (n, w) :: bindName name v rest

theorem lookup_bindName_self (name : String) (v : Value) (bs : List (String × Value)) :
    (bindName name v bs).lookup name = some v := by
  induction bs with
  | nil => exact List.lookup_cons_self
  | cons b bs ih =>
    obtain ⟨n, w⟩ := b
    by_cases h : n = name
    · rw [bindName, if_pos h]
      exact List.lookup_cons_self
    · have hne : (name == n) = false := by simpa using fun e : name = n => h e.symm
      rw [bindName, if_neg h, List.lookup_cons, hne]
      exact ih

theorem lookup_bindName_of_ne {name other : String} (h : other ≠ name) (v : Value)
    (bs : List (String × Value)) : (bindName name v bs).lookup other = bs.lookup other := by
  have hne : (other == name) = false := by simpa using h
  induction bs with
  | nil =>
    rw [bindName, List.lookup_cons, hne]
  | cons b bs ih =>
    obtain ⟨n, w⟩ := b
    by_cases hn : n = name
    · subst hn
      rw [bindName, if_pos rfl, List.lookup_cons, List.lookup_cons, hne]
    · rw [bindName, if_neg hn, List.lookup_cons, List.lookup_cons, ih]

/-! ## Telling values apart -/

namespace Value

/-- The place that a value refers to. -/
def place? : Value → Option Ref
  | ref r => some r
  | _ => Option.none

/-- Whether a value is the null value. -/
def isNull : Value → Bool
  | none => true
  | _ => false

/-- The tag of a value, for those that carry one. -/
def tag? : Value → Option Tag
  | int _ t | float _ t | complex _ _ t | str _ t | bytes _ t | tuple _ t | frozenset _ _ t
  | range _ _ _ t | slice _ _ _ t | machineInt _ t | machineFloat _ t => some t
  | _ => Option.none

/-- **Whether all values of one content are one**: small integers, texts of at most one
character of the first two hundred and fifty-six, single bytes, and the empty tuple. -/
def isShared : Value → Bool
  | int i _ => -5 ≤ i && i ≤ 256
  | str s _ =>
    match s.toList with
    | [] => true
    | [c] => c.toNat < 256
    | _ => false
  | bytes bs _ => bs.length ≤ 1
  | tuple items _ => items.isEmpty
  | _ => false

/-- The value with a tag. -/
def withTag (tag : Tag) : Value → Value
  | int i _ => int i tag
  | float x _ => float x tag
  | complex re im _ => complex re im tag
  | str s _ => str s tag
  | bytes bs _ => bytes bs tag
  | tuple items _ => tuple items tag
  | frozenset items slots _ => frozenset items slots tag
  | range start stop step _ => range start stop step tag
  | slice start stop step _ => slice start stop step tag
  | machineInt i _ => machineInt i tag
  | machineFloat x _ => machineFloat x tag
  | v => v

end Value

/-- **A value told apart from all others**, if it was computed and is not a shared
one. -/
def Store.tellApart (σ : Store) (v : Value) : Value × Store :=
  if v.tag? = some .none && !v.isShared then
    (v.withTag σ.nextTag, { σ with nextTag := σ.nextTag + 1 })
  else (v, σ)

theorem Store.Grows.tellApart (σ : Store) (v : Value) : σ.Grows (σ.tellApart v).2 := by
  unfold Store.tellApart
  split
  · exact .of_cells rfl
  · exact .refl σ

/-- Whether two numbers are one content. -/
def sameBits (x y : Float) : Bool := x.toBits == y.toBits

/-- **Whether two values are one.** -/
def Value.identical (v w : Value) : Bool :=
  let oneTag : Bool := v.tag? == w.tag? && (v.tag?.any (· ≥ 2) || v.isShared || w.isShared ||
    v.tag? == some Tag.shared)
  match v, w with
  | none, none | ellipsis, ellipsis | notImplemented, notImplemented => true
  | bool b, bool c | machineBool b, machineBool c => b == c
  | int i _, int j _ => i == j && (oneTag || v.isShared)
  | float x _, float y _ => oneTag && sameBits x y
  | complex a b _, complex c d _ => oneTag && sameBits a c && sameBits b d
  | str s _, str t _ => s == t && (oneTag || v.isShared)
  | bytes bs _, bytes cs _ => bs == cs && (oneTag || v.isShared)
  | tuple xs _, tuple ys _ => oneTag || (xs.isEmpty && ys.isEmpty)
  | frozenset .., frozenset .. | range .., range .. | slice .., slice .. => oneTag
  | machineInt i _, machineInt j _ => oneTag && i == j
  | machineFloat x _, machineFloat y _ => oneTag && sameBits x y
  | cls c, cls d => c == d
  | kind k, kind l => k == l
  | anyOf cs, anyOf ds => cs == ds
  | builtin b, builtin c => b == c
  | unmatched, unmatched | library, library => true
  | types _, types _ => true
  | ref r, ref s => r == s
  | _, _ => false

end Narrowing
