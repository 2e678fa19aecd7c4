import Narrowing.Value.ArrayText
/-!
# Kinds of machine numbers as values

The kind of the numbers of an array is a value of its own. It is described in several
ways: by a class whose values are such numbers, by a name, or by a code of one letter or of
a letter and a size. Two descriptions of one kind are equal to it.
-/

namespace Narrowing

namespace MachineKind

/-- **What is known of a kind**: its letter, its code, its number among all kinds, how many
bytes its numbers take, and the mark for the order of their bytes. -/
structure Record where
  letter : String
  code : String
  number : Nat
  bytes : Nat
  order : String

/-- What is known of a kind. -/
def record : MachineKind → Record
  | truth => ⟨"b", "?", 0, 1, "|"⟩
  | whole => ⟨"i", "l", 7, 8, "="⟩
  | real => ⟨"f", "d", 12, 8, "="⟩
  | complex => ⟨"c", "D", 15, 16, "="⟩

/-- The letter of a kind with the size and the order of its bytes. -/
def arrayCode (k : MachineKind) : String :=
  (if k = truth then "|" else "<") ++ k.record.letter ++ toString k.record.bytes

/-- The names of kinds. -/
def names : List (String × MachineKind) :=
  [("bool", truth), ("bool_", truth), ("?", truth), ("b1", truth), ("|b1", truth),
    ("int", whole), ("int64", whole), ("int_", whole), ("long", whole), ("longlong", whole),
    ("intp", whole), ("i8", whole), ("<i8", whole), ("=i8", whole), ("l", whole),
    ("q", whole), ("p", whole), ("n", whole), ("float", real), ("float64", real),
    ("double", real), ("f8", real), ("<f8", real), ("=f8", real), ("d", real),
    ("complex", complex), ("complex128", complex), ("cdouble", complex), ("c16", complex),
    ("<c16", complex), ("=c16", complex), ("D", complex)]

/-- The names of kinds of numbers that are not computed with here. -/
def otherNames : List String :=
  ["int8", "int16", "int32", "uint8", "uint16", "uint32", "uint64", "float16", "float32",
    "complex64", "longdouble", "clongdouble", "float128", "complex256", "object", "O", "str", "S",
    "U", "bytes", "V", "void", "datetime64", "timedelta64", "M", "m", "b", "B", "h", "H", "i", "I",
    "L", "Q", "e", "f", "g", "F", "G", "i1", "i2", "i4", "u1", "u2", "u4", "u8", "f2", "f4", "c8",
    "f16", "c32", "uint", "short", "ushort", "byte", "ubyte", "intc", "uintc", "half", "single",
    "csingle", "a", "P", "N", "ulong", "ulonglong", "uintp", ">i8", ">f8", "<i4", "<f4"]

/-- The kind of the numbers of a class. -/
def ofClass? : TypeObject → Option MachineKind
  | .named (.standard .bool) | .other "numpy.bool" => some truth
  | .named (.standard .int) | .other "numpy.int64" => some whole
  | .named (.standard .float) | .other "numpy.float64" => some real
  | .named (.standard .complex) => some complex
  | _ => none

/-- The class of the numbers of a kind. -/
def numberClass : MachineKind → Value
  | truth => .cls .machineBool
  | whole => .cls .machineInt
  | real => .cls .machineFloat
  | complex => .cls (.other "numpy.complex128")

/-- **The kind that a value describes**, if it is one that is computed with. -/
def described (σ : Store) (v : Value) : Except Failure MachineKind :=
  match v, σ.text? v with
  | .none, _ => .ok real
  | .kind k, _ => .ok k
  | .cls t, _ =>
    match ofClass? t with
    | some k => .ok k
    | none => .error .unsupported
  | _, some s =>
    match names.lookup s with
    | some k => .ok k
    | none => .error (if otherNames.contains s then .unsupported else .wrongType)
  | _, none => .error .wrongType

/-- An attribute of a kind. -/
def attribute? (k : MachineKind) (name : String) : Option Value :=
  match name with
  | "name" => some (.ofName k.name)
  | "str" => some (.ofName k.arrayCode)
  | "kind" => some (.ofName k.record.letter)
  | "char" => some (.ofName k.record.code)
  | "num" => some (.ofInt k.record.number)
  | "itemsize" => some (.ofInt k.record.bytes)
  | "alignment" => some (.ofInt (min 8 k.record.bytes : Nat))
  | "byteorder" => some (.ofName k.record.order)
  | "type" => some k.numberClass
  | "ndim" | "flags" => some (.ofInt 0)
  | "shape" => some (.ofTuple [])
  | "isbuiltin" => some (.ofInt 1)
  | "isnative" => some (.bool true)
  | "hasobject" => some (.bool false)
  | "names" | "fields" | "subdtype" | "metadata" => some .none
  | "base" => some (.kind k)
  | _ => none

/-- The literal of a kind. -/
def literal (k : MachineKind) : String := "dtype('" ++ k.name ++ "')"

end MachineKind

end Narrowing
