import Narrowing.Code.Scope
import Narrowing.Value.ErrorClass
import Narrowing.Value.Failure
/-!
# What values belong to

The class of a value decides which descriptors it belongs to and which operations it
knows. Most values have a class that a descriptor can name. The others, such as
iterators, functions and machine numbers, have a class of their own with a place in the
relation to the standard classes; and so have the objects of a class that code has
made, which belongs to what its lineage belongs to, and to an abstract class that asks
for no more than its members.
-/

namespace Narrowing

/-- The failure that is an error of a name. -/
def Failure.ofName (name : String) : Failure := .raised name (ErrorClass.inherited name) .none

/-! ## Classes that descriptors cannot name -/

namespace TypeObject

/-- The class of classes. -/
abbrev type : TypeObject := other "type"

/-- The class of truth values from comparing machine numbers. -/
abbrev machineBool : TypeObject := other "numpy.bool"

/-- The class of machine integers. -/
abbrev machineInt : TypeObject := other "numpy.int64"

/-- The class of machine doubles. -/
abbrev machineFloat : TypeObject := other "numpy.float64"

/-- A standard class. -/
abbrev standard (c : StandardClass) : TypeObject := named (.standard c)

end TypeObject

/-- The classes of iterators. -/
def iteratorClasses : List String :=
  ["list_iterator", "tuple_iterator", "str_iterator", "str_ascii_iterator", "bytes_iterator",
    "bytearray_iterator", "range_iterator", "longrange_iterator", "dict_keyiterator",
    "dict_valueiterator", "dict_itemiterator", "set_iterator",
    "_collections._deque_iterator", "_collections._deque_reverse_iterator", "odict_iterator",
    "dict_reversekeyiterator", "dict_reversevalueiterator", "dict_reverseitemiterator",
    "array.arrayiterator", "numpy.flatiter", "list_reverseiterator", "reversed", "iterator", "callable_iterator",
    "enumerate", "zip", "map", "filter", "generator"]

/-- **The standard classes above a class** that descriptors cannot name, besides
`object`. -/
def standardAboveOther (name : String) : List StandardClass :=
  if iteratorClasses.contains name then [.iterable, .hashable]
  else
    match name with
    | "dict_keys" | "dict_items" =>
      [.abstractSet, .iterable, .sized, .container, .collection, .reversible]
    | "dict_values" => [.iterable, .sized, .container, .collection, .reversible, .hashable]
    | "slice" => []
    | "numpy.int64" => .hashable :: .integralNumber :: StandardClass.integralNumber.above
    | "numpy.float64" => .float :: StandardClass.float.above
    | _ => [.hashable]

/-- The names of the classes that such a class inherits from. -/
def inheritedByOther (name : String) : List String :=
  match name with
  | "ABCMeta" => ["type"]
  | name => ErrorClass.inherited name

/-- Texts split at points. -/
def lastPart (s : String) : String := ((s.splitOn ".").getLast?).getD s

namespace Store

/-- **The lineage of a class**, itself first. -/
def lineage (σ : Store) (t : TypeObject) : List TypeObject :=
  match t with
  | .named c => .named c :: (c.standardLineage.map TypeObject.standard).filter (· ≠ .named c)
  | .other "numpy.float64" => [t, .standard .float, .standard .object]
  | .other name => (name :: inheritedByOther name).map .other ++ [.standard .object]
  | .defined r =>
    match σ.class? r with
    | some c => .defined r :: c.inherited
    | none => [.standard .object]

/-- The standard classes in the lineage of a class. -/
def standardLineage (σ : Store) (t : TypeObject) : List StandardClass :=
  (σ.lineage t).filterMap fun
    | .named (.standard c) => some c
    | _ => none

/-- **The member of a class by name**: that of the first class of the lineage that was
made by a class statement and has one. -/
def member? (σ : Store) (t : TypeObject) (name : String) : Option Value :=
  (σ.lineage t).findSome? fun
    | .defined r => (σ.class? r).bind fun c => c.members.lookup name
    | _ => none

/-! ## The relation between classes -/

/-- What a class itself says of a special member: that its instances have it, or that they lack
it. A class that descriptors cannot name and code has not made has what the abstract classes above
it ask for. -/
def saysOfMember (σ : Store) (m : SpecialMember) : TypeObject → Option Bool
  | .named (.standard c) => c.members.lookup m
  | .named (.declared d) => d.members.lookup m
  | .other name =>
    let above := standardAboveOther name
    if above.any fun c => c.asks.contains m then some true
    else if m = .hash then some false else none
  | .defined r => (σ.class? r).bind fun c =>
    (c.members.lookup m.name).map fun
      | .none => false
      | _ => true

/-- Whether a class that code has made, or a class that it inherits from, has a member
that is no null value. -/
def hasMember (σ : Store) (t : TypeObject) (m : SpecialMember) : Bool :=
  (σ.lineage t).findSome? (σ.saysOfMember m) == some true

/-- Whether a class that code has not made is below one that descriptors name. -/
def belongs (c : Class) : TypeObject → Bool
  | .named d => d.isSubclass c
  | .other name =>
    match c with
    | .standard d => d = StandardClass.object || (standardAboveOther name).contains d
    | .declared _ => false
  | .defined _ => false

/-- Whether what is built from a class that code has not made is below one that asks for members,
whatever its members are. -/
def secures (s : StandardClass) : TypeObject → Bool
  | .named d => d.standardLineage.any fun c => c.secures s
  | .other name => (standardAboveOther name).any fun c => !c.isAsking && c.lineage.contains s
  | .defined _ => false

/-- **Whether the instances of a class are instances of one that descriptors
name.** -/
def isSubclass (σ : Store) (t : TypeObject) (c : Class) : Bool :=
  match t with
  | .defined _ =>
    match c.asking? with
    | some s => s.asks.all (σ.hasMember t) || (σ.lineage t).any (secures s)
    | none => (σ.lineage t).any (belongs c)
  | t => belongs c t

/-- **Whether the instances of one class are instances of another.** -/
def derives (σ : Store) (t u : TypeObject) : Bool :=
  match u with
  | .named c => σ.isSubclass t c
  | u => (σ.lineage t).contains u

/-! ## Names of classes -/

/-- The module of a class and its qualified name there. -/
def pathOf (σ : Store) : TypeObject → String × String
  | .named c => c.path
  | .other "ABCMeta" => ("abc", "ABCMeta")
  | .other name =>
    match (name.splitOn ".").reverse with
    | last :: first :: rest => (".".intercalate (first :: rest).reverse, last)
    | _ => ("builtins", name)
  | .defined r =>
    match σ.class? r with
    | some c => (c.module, c.qualname)
    | none => ("", "")

/-- The name of a class without its module and what encloses it. -/
def nameOf (σ : Store) : TypeObject → String
  | .named c => c.bareName
  | .other name => lastPart name
  | .defined r =>
    match σ.class? r with
    | some c => c.name
    | none => ""

/-- The literal of a class. -/
def classText (σ : Store) : TypeObject → String
  | .named c => c.literal
  | t =>
    let (module, qualname) := σ.pathOf t
    let shown := if module = "builtins" then qualname else module ++ "." ++ qualname
    "<class '" ++ shown ++ "'>"

/-- The class of a class. -/
def kindOf (σ : Store) (t : TypeObject) : TypeObject :=
  if (σ.standardLineage t).any StandardClass.isAbstract then .other "ABCMeta" else .type

/-! ## The class of a value -/

/-- Whether all characters of a text are among the first hundred and twenty-eight. -/
def isPlain (s : String) : Bool := s.toList.all fun c => c.toNat < 128

/-- The class of the iterator over a container. -/
def iteratorClass (σ : Store) (container : Value) : String :=
  match container with
  | .str s _ => if isPlain s then "str_ascii_iterator" else "str_iterator"
  | .bytes .. => "bytes_iterator"
  | .tuple .. | .types _ => "tuple_iterator"
  | .range start stop step _ =>
    if [start, stop, step].all (Word.fits 63) then "range_iterator" else "longrange_iterator"
  | .frozenset .. => "set_iterator"
  | v =>
    match σ.cell? v with
    | some (.set _) => "set_iterator"
    | some (.deque ..) => "_collections._deque_iterator"
    | some (.bytearray _) => "bytearray_iterator"
    | some (.dict _) | some (.view .keys _) => "dict_keyiterator"
    | some (.view .values _) => "dict_valueiterator"
    | some (.view .items _) => "dict_itemiterator"
    | some (.array ..) => "array.arrayiterator"
    | some (.userList _) => "generator"
    | some (.vector ..) | some (.object ..) => "iterator"
    | _ => "list_iterator"

/-- The class of the iterator over a container from its last item on. -/
def reversedClass (σ : Store) (container : Value) : String :=
  match container, σ.cell? container with
  | .range .., _ => σ.iteratorClass container
  | _, some (.dict _) | _, some (.view .keys _) => "dict_reversekeyiterator"
  | _, some (.view .values _) => "dict_reversevalueiterator"
  | _, some (.view .items _) => "dict_reverseitemiterator"
  | _, some (.deque ..) => "_collections._deque_reverse_iterator"
  | _, some (.userList _) => "generator"
  | _, some (.list _) => "list_reverseiterator"
  | _, _ => "reversed"

/-- The class of an iterator. -/
def iterationClass (σ : Store) : Iteration → String
  | .items _ name => name
  | .at_ container _ => σ.iteratorClass container
  | .before container _ =>
    match σ.cell? container with
    | some (.list _) => "list_reverseiterator"
    | _ => "reversed"
  | .entries container kind _ _ =>
    match σ.cell? container, kind with
    | some (.dict _), .values => "dict_valueiterator"
    | some (.dict _), .items => "dict_itemiterator"
    | _, _ => σ.iteratorClass container
  | .numbers .. => "range_iterator"
  | .subscripts .. => "iterator"
  | .counted .. => "enumerate"
  | .together _ => "zip"
  | .mapped .. => "map"
  | .accepted .. => "filter"
  | .calls .. => "callable_iterator"

/-- Methods with the names of operations that are called by these names alone. -/
def methodsBesidesOperations : List String :=
  ["__reduce__", "__reduce_ex__", "__sizeof__", "__format__", "__dir__", "__reversed__",
    "__class_getitem__", "__new__", "__init_subclass__", "__subclasshook__", "__getstate__",
    "__trunc__", "__floor__", "__ceil__", "__round__", "__getnewargs__", "__complex__",
    "__length_hint__", "__setstate__", "__copy__", "__bytes__", "__getformat__", "__alloc__",
    "__subclasses__", "__prepare__", "__instancecheck__", "__subclasscheck__"]

/-- Whether a method stands for an operation. -/
def isWrapped (name : String) : Bool :=
  name.startsWith "__" && !methodsBesidesOperations.contains name

/-- The class of the calls of a function that run by halves. -/
def activationClass (f : Function) : String :=
  match f.definition with
  | .functionDef _ true _ body .. =>
    if Code.Node.someYields body then "async_generator" else "coroutine"
  | _ => "generator"

/-- The class of what a store holds. -/
def cellType (σ : Store) : Cell → TypeObject
  | .list _ => .standard .list
  | .userList _ | .listAt _ => .standard .userList
  | .deque .. => .standard .deque
  | .set _ => .standard .set
  | .bytearray _ => .standard .bytearray
  | .dict _ => .standard .dict
  | .view .keys _ => .other "dict_keys"
  | .view .values _ => .other "dict_values"
  | .view .items _ => .other "dict_items"
  | .array .. => .standard .array
  | .vector .. | .window .. => .standard .ndarray
  | .iterator i => .other (σ.iterationClass i)
  | .object c _ _ | .objectAt c _ _ => c
  | .function _ => .other "function"
  | .classObject _ => .type
  | .staticMethod _ => .other "staticmethod"
  | .classMethod _ => .other "classmethod"
  | .property .. => .other "property"
  | .bound .. => .other "method"
  | .method name _ => .other (if isWrapped name then "method-wrapper" else "builtin_function_or_method")
  | .above .. => .other "super"
  | .activation f _ _ => .other (activationClass f)
  | .exception name _ _ => .other name
  | .unmatchedError .. => .other "typecase.errors.UnmatchedTypeError"
  | .frame _ => .other "frame"

/-- The class of a kind of machine numbers. -/
def kindClass : MachineKind → String
  | .truth => "numpy.dtypes.BoolDType"
  | .whole => "numpy.dtypes.Int64DType"
  | .real => "numpy.dtypes.Float64DType"
  | .complex => "numpy.dtypes.Complex128DType"

/-- **The class of a value.** -/
def typeOf (σ : Store) : Value → TypeObject
  | .none => .standard .noneType
  | .ellipsis => .other "ellipsis"
  | .notImplemented => .other "NotImplementedType"
  | .bool _ => .standard .bool
  | .int .. => .standard .int
  | .float .. => .standard .float
  | .complex .. => .standard .complex
  | .str .. => .standard .str
  | .bytes .. => .standard .bytes
  | .tuple .. | .types _ => .standard .tuple
  | .frozenset .. => .standard .frozenset
  | .range .. => .standard .range
  | .slice .. => .other "slice"
  | .machineInt .. => .machineInt
  | .machineFloat .. => .machineFloat
  | .machineBool _ => .machineBool
  | .kind k => .other (kindClass k)
  | .cls t => σ.kindOf t
  | .anyOf _ => .other "types.UnionType"
  | .unmatched => .type
  | .builtin .elt | .builtin .assertType | .test _ => .other "function"
  | .builtin (.operationOf _ name) =>
    .other (if isWrapped name then "wrapper_descriptor" else "method_descriptor")
  | .builtin _ => .other "builtin_function_or_method"
  | .library => .other "module"
  | .ref r =>
    match σ.shown? r with
    | some c => σ.cellType c
    | none => .standard .object

/-- The name of the class of a value. -/
def typeName (σ : Store) (v : Value) : String := σ.nameOf (σ.typeOf v)

/-- **Whether a value is an instance of a class** that descriptors name. -/
def isInstance (σ : Store) (v : Value) (c : Class) : Bool := σ.isSubclass (σ.typeOf v) c

/-- The member of the class of a value by name. -/
def special? (σ : Store) (v : Value) (name : String) : Option Value :=
  match σ.cell? v with
  | some (.object t _ _) => σ.member? t name
  | _ => none

/-! ## Sizes and numbers -/

end Store

/-- How many numbers a range has. -/
def rangeSize (start stop step : Int) : Nat :=
  if step > 0 then ((stop - start + step - 1).fdiv step).toNat
  else ((start - stop - step - 1).fdiv (-step)).toNat

namespace Store

/-- How many items a container has. -/
def size? (σ : Store) (v : Value) : Option Nat :=
  match σ.content v with
  | .str s _ => some s.length
  | .bytes bs _ => some bs.length
  | .tuple items _ | .frozenset items .. => some items.length
  | .range start stop step _ => some (rangeSize start stop step)
  | .types ds => some ds.length
  | v =>
    match σ.cell? v with
    | some (.list items) | some (.userList items) | some (.deque items _)
    | some (.array _ items) => some items.length
    | some (.set s) => some s.items.length
    | some (.vector _ (n :: _) _) => some n
    | some (.bytearray bs) => some bs.length
    | some (.dict entries) => some entries.length
    | some (.view _ d) =>
      match σ.cell? d with
      | some (.dict entries) => some entries.length
      | _ => none
    | _ => none

/-- The integer that an integer or a truth value is. -/
def wholeNumber? (σ : Store) (v : Value) : Option Int :=
  match σ.content v with
  | .int i _ => some i
  | .bool b => some (if b then 1 else 0)
  | _ => none

end Store

/-! ## Predicates -/

/-- Why a predicate has no answer on a value. -/
inductive PredicateFailure where
  /-- It never has one. -/
  | refused
  /-- The value is a class that gives its instances a size and has none itself. -/
  | unsized
  /-- The size is no word. -/
  | tooLong
deriving DecidableEq

/-- The failure of a predicate that has no answer. -/
def PredicateFailure.failure : PredicateFailure → Failure
  | .refused => .badValue
  | .unsized => .wrongType
  | .tooLong => .tooLarge

namespace Store

/-- Whether a value has no items, if it has a size. A class that gives its instances a
size has one by name only. -/
def isEmpty (σ : Store) (v : Value) : Except PredicateFailure Bool :=
  match v with
  | .cls t => if σ.isSubclass t (.standard .sized) then .error .unsized else .ok false
  | v =>
    match σ.size? v with
    | none => .ok false
    | some n => if Word.fits 63 n then .ok (n = 0) else .error .tooLong

/-- **Whether a named predicate holds of a value.** Parity is asked of integers
alone and not of the values of a class derived from them. -/
def holds (σ : Store) (v : Value) : Predicate → Except PredicateFailure Bool
  | .even => .ok (match v with | .int i _ => i % 2 = 0 | _ => false)
  | .odd => .ok (match v with | .int i _ => i % 2 = 1 | _ => false)
  | .fixnum => .ok ((σ.wholeNumber? v).any Predicate.isFixnum)
  | .bignum => .ok ((σ.wholeNumber? v).any fun i => !Predicate.isFixnum i)
  | .empty => σ.isEmpty v
  | .always => .ok true
  | .never => .ok false
  | .boom => .error .refused

/-- **Whether a runtime test accepts a value.** -/
def accepts (σ : Store) (t : TypeTest) (v : Value) : Except PredicateFailure Bool :=
  t.accepts (σ.isInstance v) (σ.holds v)

end Store

end Narrowing
