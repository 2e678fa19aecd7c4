import Narrowing.Value.Arithmetic
/-!
# Names of methods

Which methods the values of a class have. Every value has those by which it is compared,
written and kept among keys. The values of a class that can be computed with have a method
for each operator, and mostly one for the operator with its operands exchanged; values
that hold others have methods by which they are gone through; and many have methods of
their own.
-/

namespace Narrowing

open Code

/-- The operators of the language with the names of the methods that they go by. -/
def binaryOperators : List (String × BinaryOp) :=
  [BinaryOp.add, .sub, .mult, .matMult, .div, .mod, .pow, .lShift, .rShift, .bitOr, .bitXor,
    .bitAnd, .floorDiv].map fun op => (memberOfOperator op, op)

/-- The operators with the names of the methods for operands exchanged. -/
def exchangedOperators : List (String × BinaryOp) :=
  binaryOperators.map fun (_, op) => (exchangedMember op, op)

/-- The operators with the names of the methods for updates in place. -/
def updatingOperators : List (String × BinaryOp) :=
  binaryOperators.map fun (_, op) => (updatingMember op, op)

/-- The comparisons with the names of the methods that they go by. -/
def comparisonMethods : List (String × CompareOp) :=
  [CompareOp.eq, .notEq, .lt, .ltE, .gt, .gtE].map fun op => (memberOfComparison op, op)

/-- The methods that every value has. -/
def commonMethods : List String :=
  comparisonMethods.map Prod.fst ++
    ["__repr__", "__str__", "__hash__", "__init__", "__new__", "__format__", "__sizeof__",
      "__reduce__", "__reduce_ex__", "__dir__", "__getattribute__", "__setattr__", "__delattr__",
      "__getstate__", "__init_subclass__", "__subclasshook__"]

/-- The methods of some operators, with the operands exchanged too. -/
def onBothSides (ops : List BinaryOp) : List String :=
  ops.map memberOfOperator ++ ops.map exchangedMember

/-- The methods of every number. -/
def numericMethods : List String :=
  onBothSides [.add, .sub, .mult, .div, .pow] ++
    ["__abs__", "__bool__", "__neg__", "__pos__", "__getnewargs__", "conjugate"]

/-- The methods of numbers that have an order. -/
def realMethods : List String :=
  numericMethods ++ onBothSides [.floorDiv, .mod] ++
    ["__divmod__", "__rdivmod__", "__int__", "__float__", "__floor__", "__ceil__", "__round__",
      "__trunc__", "as_integer_ratio"]

/-- The methods of operators on bits. -/
def bitMethods : List String :=
  onBothSides [.bitAnd, .bitOr, .bitXor, .lShift, .rShift] ++ ["__invert__", "__index__"]

/-- The methods of whatever has items. -/
def collectionMethods : List String := ["__contains__", "__iter__", "__len__"]

/-- The methods of sequences that are joined and repeated. -/
def joinedMethods : List String :=
  collectionMethods ++ ["__getitem__", "__add__", "__mul__", "__rmul__"]

/-- The methods of both texts and byte strings. -/
def spellingMethods : List String :=
  joinedMethods ++
    ["__mod__", "__rmod__", "capitalize", "center", "count", "endswith", "expandtabs", "find",
      "index", "isalnum", "isalpha", "isascii", "isdigit", "islower", "isspace", "istitle",
      "isupper", "join", "ljust", "lower", "lstrip", "maketrans", "partition", "removeprefix",
      "removesuffix", "replace", "rfind", "rindex", "rjust", "rpartition", "rsplit", "rstrip",
      "split", "splitlines", "startswith", "strip", "swapcase", "title", "translate", "upper",
      "zfill"]

/-- The methods of all sequences that can change. -/
def mutableMethods : List String :=
  joinedMethods ++
    ["__iadd__", "__imul__", "__setitem__", "__delitem__", "append", "count", "extend", "index",
      "insert", "pop", "remove", "reverse"]

/-- The methods of both kinds of sets. -/
def setMethods : List String :=
  collectionMethods ++ onBothSides [.bitAnd, .bitOr, .bitXor, .sub] ++
    ["copy", "difference", "intersection", "isdisjoint", "issubset", "issuperset",
      "symmetric_difference", "union"]

/-- The methods of dictionaries. -/
def dictMethods : List String :=
  collectionMethods ++ onBothSides [.bitOr] ++
    ["__ior__", "__getitem__", "__setitem__", "__delitem__", "__reversed__", "clear", "copy",
      "fromkeys", "get", "items", "keys", "pop", "popitem", "setdefault", "update", "values"]

/-- The methods of what a dictionary shows as a set. -/
def viewMethods : List String :=
  collectionMethods ++ onBothSides [.bitAnd, .bitOr, .bitXor, .sub] ++
    ["__reversed__", "isdisjoint"]

/-- The methods of both arrays of machine numbers and single ones. -/
def machineMethods : List String :=
  onBothSides (binaryOperators.map Prod.snd) ++
    ["__abs__", "__bool__", "__neg__", "__pos__", "__invert__", "__divmod__", "__rdivmod__",
      "__int__", "__float__", "__complex__", "__array__", "all", "any", "argmax", "argmin",
      "argsort", "astype", "byteswap", "choose", "clip", "compress", "conj", "conjugate", "copy",
      "cumprod", "cumsum", "diagonal", "dump", "dumps", "fill", "flatten", "getfield", "item",
      "max", "mean", "min", "nonzero", "prod", "put", "ravel", "repeat", "reshape", "resize",
      "round", "searchsorted", "setfield", "setflags", "sort", "squeeze", "std", "sum",
      "swapaxes", "take", "to_device", "tobytes", "tofile", "tolist", "trace", "transpose", "var",
      "view"]

/-- **The methods of the values of a standard class**, but for those that every value
has. -/
def methodsOf : StandardClass → List String
  | .str =>
    spellingMethods ++ ["__getnewargs__", "casefold", "encode", "format", "format_map",
      "isdecimal", "isidentifier", "isnumeric", "isprintable"]
  | .bytes => spellingMethods ++ ["__getnewargs__", "__bytes__", "decode", "fromhex", "hex"]
  | .bytearray =>
    spellingMethods ++ mutableMethods ++ ["__alloc__", "clear", "copy", "decode", "fromhex", "hex"]
  | .list => mutableMethods ++ ["__reversed__", "__class_getitem__", "clear", "copy", "sort"]
  | .userList =>
    mutableMethods ++ ["__radd__", "__reversed__", "__class_getitem__", "__copy__", "clear",
      "copy", "sort"]
  | .deque =>
    mutableMethods ++ ["__reversed__", "__class_getitem__", "__copy__", "appendleft", "clear",
      "copy", "extendleft", "popleft", "rotate"]
  | .array =>
    mutableMethods ++ ["__copy__", "__deepcopy__", "buffer_info", "byteswap", "frombytes",
      "fromfile", "fromlist", "fromunicode", "tobytes", "tofile", "tolist", "tounicode"]
  | .tuple => joinedMethods ++ ["__class_getitem__", "__getnewargs__", "count", "index"]
  | .range => collectionMethods ++ ["__bool__", "__getitem__", "__reversed__", "count", "index"]
  | .dict => "__class_getitem__" :: dictMethods
  | .orderedDict => dictMethods ++ ["move_to_end"]
  | .frozenset => "__class_getitem__" :: setMethods
  | .set =>
    setMethods ++ [BinaryOp.bitAnd, .bitOr, .bitXor, .sub].map updatingMember ++
      ["__class_getitem__", "add", "clear", "difference_update", "discard",
        "intersection_update", "pop", "remove", "symmetric_difference_update", "update"]
  | .int => realMethods ++ bitMethods ++ ["bit_count", "bit_length", "from_bytes", "to_bytes"]
  | .float => realMethods ++ ["__getformat__", "fromhex", "hex", "is_integer"]
  | .complex => "__complex__" :: numericMethods
  | .noneType => ["__bool__"]
  | .ndarray =>
    machineMethods ++ (binaryOperators.map fun (_, op) => updatingMember op) ++
      collectionMethods ++ ["__getitem__", "__setitem__", "__delitem__", "__index__",
        "argpartition", "dot", "partition"]
  | _ => []

/-- The methods of iterators. -/
def iteratorMethods : List String := ["__iter__", "__next__"]

/-- **The methods of the values of another class**, but for those that every value
has. -/
def methodsOfOther (name : String) : List String :=
  if name = "generator" then iteratorMethods ++ ["__del__", "close", "send", "throw"]
  else if iteratorClasses.contains name then
    if ["callable_iterator", "map", "filter"].contains name then iteratorMethods
    else if name = "enumerate" then iteratorMethods ++ ["__class_getitem__"]
    else if name = "zip" then iteratorMethods ++ ["__setstate__"]
    else if name.startsWith "dict_" || name = "set_iterator" ||
        name.startsWith "_collections._deque_" then iteratorMethods ++ ["__length_hint__"]
    else iteratorMethods ++ ["__length_hint__", "__setstate__"]
  else
    match name with
    | "dict_keys" | "dict_items" => viewMethods
    | "dict_values" => ["__iter__", "__len__", "__reversed__"]
    | "coroutine" => ["__await__", "__del__", "close", "send", "throw"]
    | "async_generator" => ["__aiter__", "__anext__", "__del__", "aclose", "asend", "athrow"]
    | "slice" => ["indices"]
    | "function" => ["__call__", "__get__"]
    | "method" | "builtin_function_or_method" | "method-wrapper" => ["__call__"]
    | "method_descriptor" | "wrapper_descriptor" => ["__call__", "__get__"]
    | "property" => ["__get__", "__set__", "__delete__", "__set_name__", "getter", "setter", "deleter"]
    | "staticmethod" => ["__call__", "__get__"]
    | "classmethod" | "super" => ["__get__"]
    | "NotImplementedType" => ["__bool__"]
    | "type" => ["__call__", "__or__", "__ror__", "__instancecheck__", "__subclasscheck__",
      "__subclasses__", "__prepare__", "mro"]
    | "BaseException" => ["__setstate__", "add_note", "with_traceback"]
    | "numpy.int64" => machineMethods ++ ["__index__", "__round__", "bit_count", "is_integer"]
    | "numpy.float64" =>
      machineMethods ++ ["__round__", "as_integer_ratio", "fromhex", "hex", "is_integer"]
    | "numpy.bool" => machineMethods
    | _ => []

/-- The methods of the values of a class that code has not made, but for those that every
value has. -/
def methodsOfClass : TypeObject → List String
  | .named (.standard c) => methodsOf c
  | .other name => methodsOfOther name
  | _ => []

/-- **Whether a value of the language has a method.** -/
def hasMethod (σ : Store) (v : Value) (name : String) : Bool :=
  commonMethods.contains name ||
    (σ.lineage (σ.typeOf v)).any fun t => (methodsOfClass t).contains name

/-- The methods that belong to a class itself and not to its values. -/
def classMethods : List String :=
  ["fromkeys", "fromhex", "from_bytes", "maketrans", "__class_getitem__", "__getformat__"]

/-- How many arguments a method of an operation takes at least and at most, for those that
take a fixed number. -/
def argumentCount? (name : String) : Option (Nat × Nat) :=
  if ["__len__", "__iter__", "__next__", "__reversed__", "__bool__", "__abs__", "__neg__",
      "__pos__", "__invert__", "__int__", "__trunc__", "__float__", "__floor__", "__ceil__",
      "__index__", "__repr__", "__str__", "__hash__", "__complex__", "__bytes__", "__copy__",
      "__getnewargs__", "__length_hint__", "__sizeof__", "__dir__", "__getstate__",
      "__await__", "__subclasses__"].contains name then some (0, 0)
  else if ["__contains__", "__getitem__", "__delitem__", "__divmod__", "__rdivmod__", "__format__",
      "__getattribute__", "__delattr__", "__class_getitem__", "__setstate__"].contains name ||
      comparisonMethods.any (·.1 = name) then some (1, 1)
  else if ["__pow__", "__rpow__"].contains name then some (1, 2)
  else if (exchangedOperators ++ updatingOperators).any (·.1 = name) then some (1, 1)
  else if binaryOperators.any (·.1 = name) then some (1, 1)
  else if ["__setitem__", "__setattr__"].contains name then some (2, 2)
  else if name = "__round__" then some (0, 1)
  else none

end Narrowing
