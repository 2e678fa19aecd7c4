/-!
# Classes

The classes that descriptors, values and runtime tests speak of. A **standard
class** is one of a fixed list, with its place in the subclass relation given by
a table. The table is not the closure of a tree: an abstract class may claim a
class that inherits from nothing of it, and being hashable is lost by a subclass
that turns hashing off, so the relation is not even transitive.

A **declared class** names its bases and says in its body which special members it has
or takes away. What it is a subclass of is worked out when it is declared, from the bases
known at that point. That is all that its bases are subclasses of, but for the few abstract
classes that ask for members: the class is below one of these if it has the members, whatever
its bases are, and may lose the place of its bases there with a member. Its name identifies it.

What a class inherits is another matter. It is settled by the **lineage** of the
class: the classes it is built from, each before its bases and bases in the order
in which they are given. Not every list of bases has a lineage, and those whose
instances are laid out differently cannot be joined at all.
-/

namespace Narrowing

/-- **The members that abstract classes ask for.** -/
inductive SpecialMember where
  | hash | iter | len | contains | reversed
deriving DecidableEq, Repr

namespace SpecialMember

/-- Every special member. -/
def all : List SpecialMember := [hash, iter, len, contains, reversed]

/-- The name of a special member. -/
def name : SpecialMember → String
  | hash => "__hash__"
  | iter => "__iter__"
  | len => "__len__"
  | contains => "__contains__"
  | reversed => "__reversed__"

end SpecialMember

/-- **The standard classes.** -/
inductive StandardClass where
  | object | int | bool | float | complex | str | bytes | bytearray | list | tuple | dict | set
  | frozenset | range | noneType
  | sequence | mutableSequence | mapping | abstractSet | iterable | sized | container
  | collection | reversible | hashable
  | number | complexNumber | realNumber | rationalNumber | integralNumber
  | array | ndarray | deque | userList | orderedDict
deriving DecidableEq, Repr

namespace StandardClass

/-- Every standard class. -/
def all : List StandardClass :=
  [object, int, bool, float, complex, str, bytes, bytearray, list, tuple, dict, set, frozenset,
    range, noneType, sequence, mutableSequence, mapping, abstractSet, iterable, sized, container,
    collection, reversible, hashable, number, complexNumber, realNumber, rationalNumber,
    integralNumber, array, ndarray, deque, userList, orderedDict]

/-- The module a class belongs to and its name in that module. -/
def path : StandardClass → String × String
  | object => ("builtins", "object")
  | int => ("builtins", "int")
  | bool => ("builtins", "bool")
  | float => ("builtins", "float")
  | complex => ("builtins", "complex")
  | str => ("builtins", "str")
  | bytes => ("builtins", "bytes")
  | bytearray => ("builtins", "bytearray")
  | list => ("builtins", "list")
  | tuple => ("builtins", "tuple")
  | dict => ("builtins", "dict")
  | set => ("builtins", "set")
  | frozenset => ("builtins", "frozenset")
  | range => ("builtins", "range")
  | noneType => ("builtins", "NoneType")
  | sequence => ("collections.abc", "Sequence")
  | mutableSequence => ("collections.abc", "MutableSequence")
  | mapping => ("collections.abc", "Mapping")
  | abstractSet => ("collections.abc", "Set")
  | iterable => ("collections.abc", "Iterable")
  | sized => ("collections.abc", "Sized")
  | container => ("collections.abc", "Container")
  | collection => ("collections.abc", "Collection")
  | reversible => ("collections.abc", "Reversible")
  | hashable => ("collections.abc", "Hashable")
  | number => ("numbers", "Number")
  | complexNumber => ("numbers", "Complex")
  | realNumber => ("numbers", "Real")
  | rationalNumber => ("numbers", "Rational")
  | integralNumber => ("numbers", "Integral")
  | array => ("array", "array")
  | ndarray => ("numpy", "ndarray")
  | deque => ("collections", "deque")
  | userList => ("collections", "UserList")
  | orderedDict => ("collections", "OrderedDict")

/-- The abstract classes of every sequence that keeps its order. -/
def sequenceClasses : List StandardClass :=
  [sequence, iterable, sized, container, collection, reversible]

/-- The abstract classes of every mutable sequence. -/
def mutableSequenceClasses : List StandardClass :=
  mutableSequence :: sequenceClasses

/-- **The classes a class is a subclass of**, besides itself and `object`. -/
def above : StandardClass → List StandardClass
  | object => [hashable]
  | int => [hashable, number, complexNumber, realNumber, rationalNumber, integralNumber]
  | bool => [int, hashable, number, complexNumber, realNumber, rationalNumber, integralNumber]
  | float => [hashable, number, complexNumber, realNumber]
  | complex => [hashable, number, complexNumber]
  | str | bytes | tuple | range => hashable :: sequenceClasses
  | bytearray | list | array | deque | userList => mutableSequenceClasses
  | dict => [mapping, iterable, sized, container, collection, reversible]
  | set => [abstractSet, iterable, sized, container, collection]
  | frozenset => [abstractSet, iterable, sized, container, collection, hashable]
  | noneType => [hashable]
  | sequence => [iterable, sized, container, collection, reversible, hashable]
  | mutableSequence => hashable :: sequenceClasses
  | mapping | abstractSet => [iterable, sized, container, collection]
  | iterable | sized | container => [hashable]
  | collection => [iterable, sized, container, hashable]
  | reversible => [iterable, hashable]
  | hashable | number => []
  | complexNumber => [number]
  | realNumber => [number, complexNumber]
  | rationalNumber => [number, complexNumber, realNumber]
  | integralNumber => [number, complexNumber, realNumber, rationalNumber]
  | ndarray => [iterable, sized, container, collection]
  | orderedDict => [dict, mapping, iterable, sized, container, collection, reversible]

/-- **The subclass relation** between standard classes. -/
def isSubclass (c d : StandardClass) : Bool :=
  c = d || d = object || (above c).contains d

/-- The name under which a class is looked up: its bare name for a builtin, the
dotted path otherwise. -/
def name (c : StandardClass) : String :=
  let (module, base) := c.path
  if module = "builtins" then base else module ++ "." ++ base

/-- The standard class of a name. -/
def ofName? (s : String) : Option StandardClass :=
  all.find? fun c => c.name = s

/-! ## Inheritance -/

/-- What a sequence inherits from, after itself. -/
def sequenceLineage : List StandardClass :=
  [reversible, collection, sized, iterable, container, object]

/-- **The lineage of a class**, itself first. -/
def lineage : StandardClass → List StandardClass
  | object => [object]
  | bool => [bool, int, object]
  | orderedDict => [orderedDict, dict, object]
  | sequence => sequence :: sequenceLineage
  | mutableSequence => mutableSequence :: sequence :: sequenceLineage
  | userList => userList :: mutableSequence :: sequence :: sequenceLineage
  | mapping => [mapping, collection, sized, iterable, container, object]
  | abstractSet => [abstractSet, collection, sized, iterable, container, object]
  | collection => [collection, sized, iterable, container, object]
  | reversible => [reversible, iterable, object]
  | complexNumber => [complexNumber, number, object]
  | realNumber => [realNumber, complexNumber, number, object]
  | rationalNumber => [rationalNumber, realNumber, complexNumber, number, object]
  | integralNumber => [integralNumber, rationalNumber, realNumber, complexNumber, number, object]
  | c => [c, object]

/-- **The special members of a class itself**, and those that it takes away. -/
def members : StandardClass → List (SpecialMember × Bool)
  | object | int | float | complex | hashable => [(.hash, true)]
  | str | bytes | tuple | frozenset =>
    [(.hash, true), (.iter, true), (.len, true), (.contains, true)]
  | range => [(.hash, true), (.iter, true), (.len, true), (.contains, true), (.reversed, true)]
  | list | dict | deque =>
    [(.hash, false), (.iter, true), (.len, true), (.contains, true), (.reversed, true)]
  | bytearray | set | array | ndarray =>
    [(.hash, false), (.iter, true), (.len, true), (.contains, true)]
  | userList => [(.hash, false), (.len, true), (.contains, true)]
  | orderedDict => [(.hash, false), (.iter, true), (.reversed, true)]
  | sequence => [(.iter, true), (.contains, true), (.reversed, true)]
  | mapping => [(.hash, false), (.contains, true), (.reversed, false)]
  | abstractSet | number | complexNumber => [(.hash, false)]
  | iterable => [(.iter, true)]
  | sized => [(.len, true)]
  | container => [(.contains, true)]
  | reversible => [(.reversed, true)]
  | bool | noneType | mutableSequence | collection | realNumber | rationalNumber
  | integralNumber => []

/-- **The members that an abstract class asks for**: what has them is below it. -/
def asks : StandardClass → List SpecialMember
  | hashable => [.hash]
  | iterable => [.iter]
  | sized => [.len]
  | container => [.contains]
  | collection => [.len, .iter, .contains]
  | reversible => [.reversed, .iter]
  | _ => []

/-- Whether a class asks for members. -/
def isAsking (c : StandardClass) : Bool := !c.asks.isEmpty

/-- **Whether what is below a class is below an asking one**, whatever its members are: if the
class itself, or one that it is registered for, is built from the asking one. -/
def secures (c s : StandardClass) : Bool :=
  c = s || (c :: c.above).any fun d => !d.isAsking && d.lineage.contains s

/-- **Whether a class is below one that asks for members**, by what is said of members in its
lineage and by the standard classes in that. -/
def meets (tells : SpecialMember → Option Bool) (lineage : List StandardClass)
    (s : StandardClass) : Bool :=
  (s.asks.all fun m => tells m == some true) || lineage.any fun c => c.secures s

/-- **The classes that a class is below**, from what is said of members in its lineage, the
standard classes in that, and all that its bases are below. -/
def settled (tells : SpecialMember → Option Bool) (lineage above : List StandardClass) :
    List StandardClass :=
  above.filter (!·.isAsking) ++ (all.filter isAsking).filter (meets tells lineage)

/-- Whether a class is an abstract one, whose subclasses have its own kind of
class. -/
def isAbstract (c : StandardClass) : Bool :=
  let module := c.path.1
  module = "collections.abc" || module = "numbers"

/-- Whether a class may be a base. -/
def mayBeBase : StandardClass → Bool
  | bool | range | noneType => false
  | _ => true

/-- Whether the instances of a class are laid out in a way of their own. -/
def hasLayout (c : StandardClass) : Bool :=
  c ≠ object && c ≠ userList && !c.isAbstract

/-- Whether the subclasses of a class can be subscripted. -/
def isSubscriptable : StandardClass → Bool
  | list | tuple | dict | set | frozenset | iterable | container | ndarray | deque => true
  | _ => false

/-- **What an abstract class says of methods**: those that a subclass has to
define, and those that it defines itself. -/
def methods : StandardClass → List String × List String
  | sized => (["__len__"], [])
  | iterable => (["__iter__"], [])
  | container => (["__contains__"], [])
  | hashable => (["__hash__"], [])
  | reversible => (["__reversed__"], [])
  | sequence => (["__getitem__"], ["__iter__", "__contains__", "__reversed__"])
  | mutableSequence => (["__setitem__", "__delitem__", "insert"], [])
  | mapping => (["__getitem__"], ["__contains__", "__reversed__"])
  | userList =>
    ([], ["__len__", "__getitem__", "__setitem__", "__delitem__", "__contains__", "insert"])
  | complexNumber | realNumber | rationalNumber | integralNumber => (["__add__"], [])
  | _ => ([], [])

end StandardClass

/-- A class that another is built from. -/
inductive Ancestor where
  | standard (c : StandardClass)
  /-- A declared class by its name, with what it says of special members itself. -/
  | declared (name : String) (members : List (SpecialMember × Bool))
deriving DecidableEq

namespace Ancestor

/-- The standard class that an ancestor is. -/
def standard? : Ancestor → Option StandardClass
  | standard c => some c
  | declared .. => none

/-- What an ancestor itself says of a special member. -/
def tells (m : SpecialMember) : Ancestor → Option Bool
  | standard c => c.members.lookup m
  | declared _ members => members.lookup m

end Ancestor

/-! ## Lineages -/

/-- The first head of some lists that stands in no tail of them. -/
def nextOfLineages {α : Type} [BEq α] (lists : List (List α)) : Option α :=
  (lists.filterMap List.head?).find? fun a => lists.all fun l => !(l.drop 1).contains a

/-- Merges lists into one that keeps the order of each, if there is one; at most so
many steps. -/
def mergeLineages {α : Type} [BEq α] : Nat → List (List α) → Option (List α)
  | 0, lists => if lists.all List.isEmpty then some [] else none
  | steps + 1, lists =>
    if lists.all List.isEmpty then some []
    else
      match nextOfLineages lists with
      | none => none
      | some a =>
        (mergeLineages steps (lists.map fun l => if l.head? == some a then l.drop 1 else l)).map
          (a :: ·)

/-- **The lineage after a class itself**, from its bases and their lineages. -/
def inheritedLineage {α : Type} [BEq α] (bases : List α) (lineages : List (List α)) :
    Option (List α) :=
  let lists := lineages ++ [bases]
  mergeLineages lists.flatten.length lists

/-- The layout of the instances of a class with a lineage. -/
def layoutOf (lineage : List StandardClass) : Option StandardClass :=
  lineage.find? StandardClass.hasLayout

/-- **The layout that several have in common**: the one that extends all others. The
outer result tells whether there is one. -/
def commonLayout : List (Option StandardClass) → Option (Option StandardClass)
  | [] => some none
  | none :: rest => commonLayout rest
  | some c :: rest =>
    match commonLayout rest with
    | none => none
    | some none => some (some c)
    | some (some d) =>
      if c.lineage.contains d then some (some c)
      else if d.lineage.contains c then some (some d)
      else none

/-- **The methods that a lineage leaves undefined**: some class in it asks for them, and
none before it defines them. -/
def undefinedMethods (lineage : List StandardClass) : List String :=
  (lineage.flatMap fun c => c.methods.1).filter fun name =>
    (lineage.find? fun c => c.methods.1.contains name || c.methods.2.contains name).any
      fun c => c.methods.1.contains name

/-- Whether a lineage leaves a method undefined. -/
def leavesUndefined (lineage : List StandardClass) : Bool := !(undefinedMethods lineage).isEmpty

/-- **A declared class**, with what it is a subclass of. -/
structure DeclaredClass where
  /-- The name the class is declared under. -/
  name : String
  /-- The module it claims to belong to. -/
  module : String
  /-- Its qualified name in that module. -/
  qualname : String
  /-- The special members in its body, and those that the body takes away. -/
  members : List (SpecialMember × Bool)
  /-- The standard classes above it. -/
  standardAbove : List StandardClass
  /-- The names of the declared classes above it. -/
  declaredAbove : List String
  /-- What it inherits from, without itself. -/
  inherited : List Ancestor
deriving DecidableEq

/-- **A class.** -/
inductive Class where
  | standard (c : StandardClass)
  | declared (d : DeclaredClass)
deriving DecidableEq

namespace Class

/-- The module of a class and its qualified name there. -/
def path : Class → String × String
  | standard c => c.path
  | declared d => (d.module, d.qualname)

/-- **The readable name of a class**: builtins bare, others with their module. -/
def text (c : Class) : String :=
  let (module, qualname) := c.path
  if module = "builtins" then qualname else module ++ "." ++ qualname

/-- The name a class carries without its module and what encloses it. -/
def bareName : Class → String
  | standard c => c.path.2
  | declared d => d.name

/-- **The subclass relation.** A standard class is never below a declared one. -/
def isSubclass : Class → Class → Bool
  | standard c, standard d => c.isSubclass d
  | standard _, declared _ => false
  | declared c, standard d => c.standardAbove.contains d
  | declared c, declared d => c.name = d.name || c.declaredAbove.contains d.name

/-- The standard class that asks for members, if a class is one. -/
def asking? : Class → Option StandardClass
  | standard c => if c.isAsking then some c else none
  | declared _ => none

/-- The standard classes above a class, itself included. -/
def standardAbove : Class → List StandardClass
  | standard c => c :: .object :: c.above
  | declared d => d.standardAbove

/-- The declared classes above a class, itself included. -/
def declaredAbove : Class → List String
  | standard _ => []
  | declared d => d.name :: d.declaredAbove

/-- **The lineage of a class**, itself first. -/
def lineage : Class → List Ancestor
  | standard c => c.lineage.map .standard
  | declared d => .declared d.name d.members :: d.inherited

/-- The standard classes in the lineage of a class. -/
def standardLineage (c : Class) : List StandardClass := c.lineage.filterMap Ancestor.standard?

/-- The layout of the instances of a class, if it has one of its own. -/
def layout (c : Class) : Option StandardClass := layoutOf c.standardLineage

/-- Whether a class may be a base. -/
def mayBeBase : Class → Bool
  | standard c => c.mayBeBase
  | declared _ => true

/-- **Declares a class** with the given bases, and with `object` as its base when
none are given, whose body comes to the given special members. There is no such class if a base
is not fit to be one, if the bases have no common lineage, or if instances of them are laid out
differently. -/
def declare? (name module qualname : String) (bases : List Class)
    (members : List (SpecialMember × Bool)) : Option Class := do
  let bases := if bases.isEmpty then [standard .object] else bases
  if !bases.all mayBeBase then none
  let _ ← commonLayout (bases.map layout)
  let inherited ← inheritedLineage (bases.map fun b => (b.lineage.head?).getD (.standard .object))
    (bases.map lineage)
  let lineage := Ancestor.declared name members :: inherited
  return declared
    { name, module, qualname, members, inherited
      standardAbove := StandardClass.settled (fun m => lineage.findSome? (Ancestor.tells m))
        (inherited.filterMap Ancestor.standard?) (bases.flatMap standardAbove)
      declaredAbove := bases.flatMap declaredAbove }

/-- Whether a class can be subscripted. -/
def isSubscriptable (c : Class) : Bool := c.standardLineage.any StandardClass.isSubscriptable

/-- **The literal of a class**: a class among the builtins goes by its bare name. -/
def literal (c : Class) : String :=
  let (module, qualname) := c.path
  let shown := if module = "builtins" then c.bareName else module ++ "." ++ qualname
  "<class '" ++ shown ++ "'>"

end Class

end Narrowing
