import Narrowing.Value.TypedArray
/-!
# Making values

A class is called to make a value of it. A standard class makes its value from others:
numbers and texts are converted, and containers take the items of anything that gives
them. An object of a class that code has made is first made as an instance of the
standard class that it is derived from, and then initialised, each in the way that its
class says, if it says one.
-/

namespace Narrowing

namespace Run

/-- **The arguments of a call by parameter**; a parameter without a name takes no
keyword. -/
def byParameter (parameters : List String) (args : List Value) (keywords : List (String × Value)) :
    Run (List (Option Value)) :=
  if args.length > parameters.length then throw .wrongType
  else
    let left := parameters.drop args.length
    if keywords.any fun (k, _) => k.isEmpty || !left.contains k then throw .wrongType
    else return args.map some ++ left.map fun p => keywords.lookup p

/-- The only argument of a call, if there is one. -/
def onlyArgument (args : List Value) (keywords : List (String × Value)) : Run (Option Value) := do
  match args, keywords with
  | [], [] => return none
  | [v], [] => return some v
  | _, _ => throw .wrongType

/-! ## Standard classes -/

/-- The integer of a call of its class. -/
def newInteger (args : List Value) (keywords : List (String × Value)) : Run Value := do
  match ← byParameter ["", "base"] args keywords with
  | [none, none] => return .ofInt 0
  | [some v, none] =>
    match v with
    | .int .. => return v
    | v => return .ofInt (← toInteger v)
  | [some v, some b] => return .ofInt (← toIntegerIn v b)
  | _ => throw .wrongType

/-- The text of a call of its class: the plain text of a value, or what bytes spell. -/
def newText (args : List Value) (keywords : List (String × Value)) : Run Value := do
  match ← byParameter ["object", "encoding", "errors"] args keywords with
  | [none, none, none] => return .ofText ""
  | [some v, none, none] =>
    match v with
    | .str .. => return v
    | v => return .ofText (← plainText v)
  | [some v, encoding, rule] =>
    match (← read).memory? v with
    | some bs => decoded bs encoding rule
    | none => throw .wrongType
  | _ => throw .wrongType

/-- The bytes of a call of a class of them. -/
def newBytes (args : List Value) (keywords : List (String × Value)) : Run (List Nat) := do
  match ← byParameter ["source", "encoding", "errors"] args keywords with
  | [none, none, none] => return []
  | [some v, none, none] => toBytes v
  | [some v, encoding, rule] =>
    match (← read).text? v with
    | some s => encoded s encoding rule
    | none => throw .wrongType
  | _ => throw .wrongType

/-- The entries of the dictionary of a call. -/
def newEntries (args : List Value) (keywords : List (String × Value)) :
    Run (List (Value × Value)) := do
  let first ←
    match args with
    | [] => pure []
    | [v] => do
      let σ ← read
      let isPlain := (σ.entries? v).isSome && (σ.special? v "__iter__").isNone
      match if isPlain then none else σ.special? v "keys" with
      | some member => do
        (← items (← callMember v member [])).mapM fun k => return (k, ← subscript v k)
      | none => entriesIn v
    | _ => throw .wrongType
  distinctEntries (first ++ keywords.map fun (k, v) => (.ofName k, v))

/-- The range of a call. -/
def newRange (args : List Value) (keywords : List (String × Value)) : Run Value := do
  if !keywords.isEmpty then throw .wrongType
  match ← args.mapM index with
  | [stop] => return .range 0 stop 1 .none
  | [start, stop] => return .range start stop 1 .none
  | [start, stop, step] => if step = 0 then throw .badValue else return .range start stop step .none
  | _ => throw .wrongType

/-- The items that a call of a class of containers names. -/
def newItems (args : List Value) (keywords : List (String × Value)) : Run (List Value) := do
  match ← onlyArgument args keywords with
  | none => return []
  | some v => items v

/-- The set that a call of a class of sets makes. -/
def newSet (args : List Value) (keywords : List (String × Value)) : Run (Slotted Value) := do
  match ← onlyArgument args keywords with
  | none => return {}
  | some v => joinedTo {} (← sourceOf v)

/-- How many items a queue may hold, if a call says so. -/
def limitGiven (v : Option Value) : Run (Option Nat) := do
  match v with
  | none | some .none => return none
  | some v =>
    match (← read).wholeNumber? v with
    | none => throw .wrongType
    | some i =>
      if !Word.fits 63 i then throw .tooLarge
      else if i < 0 then throw .badValue
      else return some i.toNat

/-- **The instance of a standard class** that a call of the class makes, if its instances
have content. -/
def newContent (c : StandardClass) (args : List Value) (keywords : List (String × Value)) :
    Run (Option Value) := do
  match c with
  | .bool => do
    match ← onlyArgument args keywords with
    | none => return some (.bool false)
    | some v => return some (.bool (← isTrue v))
  | .int => some <$> newInteger args keywords
  | .float => do
    match ← onlyArgument args keywords with
    | none => return some (.ofFloat 0.0)
    | some v =>
      match v with
      | .float .. => return some v
      | v => return some (.ofFloat (← toDouble v))
  | .complex => do
    match ← byParameter ["real", "imag"] args keywords with
    | [none, none] => return some (.ofComplex 0.0 0.0)
    | [some v, none] =>
      match v with
      | .complex .. => return some v
      | v => let (re, im) ← toComplex v none; return some (.ofComplex re im)
    | [v, some w] =>
      let (re, im) ← toComplex (v.getD (.ofInt 0)) (some w)
      return some (.ofComplex re im)
    | _ => throw .wrongType
  | .str => some <$> newText args keywords
  | .bytes =>
    match args, keywords with
    | [.bytes bs tag], [] => return some (.bytes bs tag)
    | _, _ => do
      match args, keywords with
      | [v], [] =>
        match ← callSpecial? v "__bytes__" [] with
        | some w => if ((← read).bytes? w).isSome then return some w else throw .wrongType
        | none => return some (.ofByteList (← newBytes args keywords))
      | _, _ => return some (.ofByteList (← newBytes args keywords))
  | .bytearray => do return some (← alloc (.bytearray (← newBytes args keywords)))
  | .list => do return some (← alloc (.list (← newItems args keywords)))
  | .tuple =>
    match args, keywords with
    | [.tuple items tag], [] => return some (.tuple items tag)
    | _, _ => do return some (.ofTuple (← newItems args keywords))
  | .set => do return some (← alloc (.set (← newSet args keywords)))
  | .frozenset =>
    match args, keywords with
    | [.frozenset items slots tag], [] => return some (.frozenset items slots tag)
    | _, _ => do return some (.ofFrozenset (← newSet args keywords))
  | .userList => do
    match ← byParameter ["initlist"] args keywords with
    | [some .none] | [none] => return some (← alloc (.userList []))
    | [some v] => return some (← alloc (.userList (← items v)))
    | _ => throw .wrongType
  | .deque => do
    match ← byParameter ["iterable", "maxlen"] args keywords with
    | [v, limit] => do
      let limit ← limitGiven limit
      let all ← (v.map items).getD (return [])
      return some (← alloc (.deque (lastOf limit all) limit))
    | _ => throw .wrongType
  | .dict | .orderedDict => do return some (← alloc (.dict (← newEntries args keywords)))
  | .range => some <$> newRange args keywords
  | .array =>
    if keywords.isEmpty then some <$> newTypedArray args else throw .wrongType
  | .ndarray => throw .unsupported
  | _ => return none

/-- Whether the instances of a standard class have content that is settled when they are
made. -/
def isSettled (c : StandardClass) : Bool :=
  [StandardClass.bool, .int, .float, .complex, .str, .bytes, .tuple, .frozenset, .range, .array,
    .ndarray].contains c

/-- The standard class whose instances the objects of a class are, for those with
content. -/
def contentClass? (σ : Store) (t : TypeObject) : Option StandardClass :=
  (σ.standardLineage t).find? fun c => c.hasLayout || c = .userList

/-! ## Objects -/

/-- Initialises an object in the way that its class says, if it says one. -/
def initialise (v : Value) (args : List Value) (keywords : List (String × Value)) : Run Unit := do
  match (← read).special? v "__init__" with
  | none => return ()
  | some member => do
    let self : List Value := if ← takesInstance member then [v] else []
    match ← ask (.call member (self ++ args) keywords) with
    | .none => return ()
    | _ => throw .wrongType

/-- Whether the objects of a class can be made: no member is left undefined that an
abstract class asks for. -/
def hasObjects (σ : Store) (t : TypeObject) : Bool :=
  (contentClass? σ t).isSome ||
    (undefinedMethods (σ.standardLineage t)).all fun name => (σ.member? t name).isSome

/-- An object that is not initialised, with the arguments that settle its content. -/
def bareObject (t : TypeObject) (args : List Value) (keywords : List (String × Value)) :
    Run Value := do
  let σ ← read
  if !hasObjects σ t then throw .wrongType
  match contentClass? σ t with
  | none =>
    match σ.errorBase? t with
    | some base => do
      let parts ← errorParts base args
      let error ← alloc (.exception base parts.args parts.attributes)
      alloc (.object t [] (some error))
    | none => alloc (.object t [] none)
  | some c =>
    let isOwn := (σ.member? t "__init__").isNone
    let content ← if isSettled c || isOwn then newContent c args keywords else newContent c [] []
    alloc (.object t [] content)

/-- **A new object of a class** that code has made, or that is declared. -/
def newObject (t : TypeObject) (args : List Value) (keywords : List (String × Value)) :
    Run Value := do
  let σ ← read
  match σ.member? t "__new__" with
  | some member => do
    let maker ←
      match ← cell? member with
      | some (.staticMethod f) => pure f
      | _ => pure member
    let v ← ask (.call maker (.cls t :: args) keywords)
    if (← read).derives ((← read).typeOf v) t then initialise v args keywords
    return v
  | none => do
    let hasInit := (σ.member? t "__init__").isSome
    let takesArguments := (contentClass? σ t).isSome || (σ.errorBase? t).isSome
    if !takesArguments && !hasInit && !(args.isEmpty && keywords.isEmpty) then throw .wrongType
    let v ← bareObject t args keywords
    initialise v args keywords
    return v

/-! ## Iterators that are made by name -/

/-- Whether items are found by position in a value of the language. -/
def isPositional (σ : Store) (v : Value) : Bool :=
  match v with
  | .str .. | .bytes .. | .tuple .. | .range .. => true
  | v =>
    match σ.cell? v with
    | some (.list _) | some (.userList _) | some (.deque ..) | some (.bytearray _)
    | some (.array ..) | some (.vector ..) => true
    | _ => false

/-- **The items of a value from the last on.** -/
def reversedItems (v : Value) : Run Value := do
  match ← callSpecial? v "__reversed__" [] with
  | some i => return i
  | none =>
    let σ ← read
    let c := σ.content v
    match σ.cell? c with
    | some (.list items) => alloc (.iterator (.before c items.length))
    | some (.dict _) | some (.view ..) =>
      alloc (.iterator (.items (← items c).reverse (σ.reversedClass c)))
    | _ =>
      if isPositional σ c then alloc (.iterator (.items (← items c).reverse (σ.reversedClass c)))
      else if (σ.special? v "__getitem__").isSome && (σ.special? v "__len__").isSome then do
        let n ← length v
        let all ← (List.range n).mapM fun (k : Nat) => subscript v (.ofInt k)
        alloc (.iterator (.items all.reverse "reversed"))
      else throw .wrongType

/-- An integer or a double as a machine number, from a value. -/
def newMachine (kind : MachineKind) (args : List Value) : Run Value := do
  let n ←
    match args with
    | [] => pure (Number.int 0)
    | [v] => do
      match kind, (← read).number? v with
      | .whole, _ => pure (Number.int (← toInteger v))
      | .truth, _ => pure (Number.int (if ← isTrue v then 1 else 0))
      | _, some n => pure n
      | _, none => pure (Number.float (← toDouble v))
    | _ => throw .wrongType
  ofExcept (n.machineValue kind)

/-- Classes besides those of iterators that are never called. -/
def neverCalled : List String :=
  ["dict_keys", "dict_values", "dict_items", "generator", "coroutine", "async_generator", "frame",
    "builtin_function_or_method", "method_descriptor", "method-wrapper", "wrapper_descriptor"]

/-- **What a class makes that descriptors cannot name.** -/
def newOther (name : String) (args : List Value) (keywords : List (String × Value)) :
    Run Value := do
  match name with
  | "type" =>
    match args, keywords with
    | [v], [] => return .cls ((← read).typeOf v)
    | [_, _, _], _ => throw .unsupported
    | _, _ => throw .wrongType
  | "slice" =>
    match args, keywords with
    | [stop], [] => return .slice .none stop .none .none
    | [start, stop], [] => return .slice start stop .none .none
    | [start, stop, step], [] => return .slice start stop step .none
    | _, _ => throw .wrongType
  | "enumerate" =>
    match ← byParameter ["iterable", "start"] args keywords with
    | [some v, start] => do
      let first ←
        match start with
        | some n => index n
        | none => pure 0
      alloc (.iterator (.counted (← iterator v) first))
    | _ => throw .wrongType
  | "zip" =>
    match keywords with
    | [] => do alloc (.iterator (.together (← args.mapM iterator)))
    | _ => throw .unsupported
  | "map" =>
    match args, keywords with
    | f :: v :: vs, [] => do alloc (.iterator (.mapped f (← (v :: vs).mapM iterator)))
    | _, _ => throw .wrongType
  | "filter" =>
    match args, keywords with
    | [f, v], [] => do alloc (.iterator (.accepted f (← iterator v)))
    | _, _ => throw .wrongType
  | "reversed" =>
    match args, keywords with
    | [v], [] => reversedItems v
    | _, _ => throw .wrongType
  | "staticmethod" =>
    match args, keywords with
    | [f], [] => alloc (.staticMethod f)
    | _, _ => throw .wrongType
  | "classmethod" =>
    match args, keywords with
    | [f], [] => alloc (.classMethod f)
    | _, _ => throw .wrongType
  | "property" =>
    match ← byParameter ["fget", "fset", "fdel", "doc"] args keywords with
    | [getter, setter, deleter, doc] =>
      let doc := doc.filter fun v => !v.isNull
      alloc (.property (getter.getD .none) (setter.getD .none) (deleter.getD .none) doc)
    | _ => throw .wrongType
  | "super" =>
    match args, keywords with
    | [.cls t, self], [] => do
      let σ ← read
      let own :=
        match self with
        | .cls u => u
        | v => σ.typeOf v
      if σ.derives own t || σ.derives (σ.typeOf self) t then alloc (.above t self)
      else throw .wrongType
    | _, _ => throw .wrongType
  | "numpy.int64" => newMachine .whole args
  | "numpy.float64" => newMachine .real args
  | "numpy.bool" => newMachine .truth args
  | "NotImplementedType" => if args.isEmpty then return .notImplemented else throw .wrongType
  | "ellipsis" => if args.isEmpty then return .ellipsis else throw .wrongType
  | name =>
    if ErrorClass.isClass name then
      if keywords.isEmpty then newError name args else throw .wrongType
    else if iteratorClasses.contains name || neverCalled.contains name then throw .wrongType
    else throw .unsupported

/-- **Makes a value of a class.** -/
def construct (t : TypeObject) (args : List Value) (keywords : List (String × Value)) :
    Run Value := do
  match t with
  | .named (.standard .noneType) =>
    if args.isEmpty && keywords.isEmpty then return .none else throw .wrongType
  | .named (.standard .orderedDict) => do
    let d ← alloc (.dict (← newEntries args keywords))
    alloc (.object t [] (some d))
  | .named (.standard c) => do
    match ← newContent c args keywords with
    | some v => tellApart v
    | none =>
      if c.isAbstract && leavesUndefined c.lineage then throw .wrongType
      else if args.isEmpty && keywords.isEmpty then alloc (.object t [] none)
      else throw .wrongType
  | .other name => do tellApart (← newOther name args keywords)
  | t => newObject t args keywords

end Run

end Narrowing
