import Narrowing.Code.Signature
import Narrowing.Value.Documentation
import Narrowing.Value.Method
/-!
# Attributes

What a value is asked for by a name. An object is asked in this order: what its class
computes, what the object itself has been given, what its class and the classes above
have, where a function takes the object as its first argument, and last what it has as an
instance of a standard class. A class is asked for what stands in it or in a class that
it inherits from.

Objects, functions and classes that code has made can be given attributes; other values
cannot.
-/

namespace Narrowing

open Code

/-- The value that stands for what may be missing. -/
def Value.orNull : Option Value → Value
  | some v => v
  | Option.none => .none

namespace Run

/-- A dictionary of names. -/
def namesDict (bs : List (String × Value)) : Run Value := do
  alloc (.dict (bs.map fun (name, v) => (.ofName name, v)))

/-! ## Reading attributes -/

/-- An attribute of a function. -/
def functionAttribute (f : Function) (name : String) : Run Value := do
  match f.attributes.lookup name with
  | some v => return v
  | none =>
    match name with
    | "__name__" => return .ofName f.name
    | "__qualname__" => return .ofName f.qualname
    | "__doc__" => return f.doc
    | "__module__" => return f.module
    | "__defaults__" => return .orNull (f.defaults.map .ofTuple)
    | "__kwdefaults__" =>
      match f.kwDefaults with
      | some bs => namesDict bs
      | none => return .none
    | "__annotations__" => namesDict f.annotations
    | "__dict__" => namesDict f.attributes
    | "__class__" => return .cls (.other "function")
    | "__closure__" => do
      match ← reachedNames f with
      | [] => return .none
      | names => do
        let cells ← names.mapM fun (_, v) =>
          alloc (.object (.other "cell") (v.toList.map fun v => ("cell_contents", v)) none)
        return .ofTuple cells
    | "__code__" => codeOf f
    | "__globals__" => do
      namesDict ((((← read).frame? f.site.globals).map Frame.bindings).getD [])
    | "__builtins__" => throw .unsupported
    | _ => throw .missingAttribute
where
  /-- The names that a function reaches in frames around it, with their values. -/
  reachedNames (f : Function) : Run (List (String × Option Value)) := do
    let σ ← read
    return f.outer.mergeSort.filterMap fun name =>
      (f.site.inner.find? fun r => (σ.frame? r).any fun g => g.locals.contains name).map fun r =>
        (name, (σ.frame? r).bind fun g => g.bindings.lookup name)
  /-- What is known of the code of a function. -/
  codeOf (f : Function) : Run Value := do
    let s := Signature.ofFunction f.definition
    let texts (names : List String) : Value := .ofTuple (names.map .ofName)
    let localNames := f.locals.filter fun name => !f.cells.contains name
    let reached := (← reachedNames f).map Prod.fst
    alloc (.object (.other "code")
      [("co_name", .ofName f.name), ("co_qualname", .ofName f.qualname),
        ("co_argcount", .ofInt s.positional.length),
        ("co_posonlyargcount", .ofInt s.positionalOnly.length),
        ("co_kwonlyargcount", .ofInt s.keywordOnly.length),
        ("co_nlocals", .ofInt localNames.length), ("co_varnames", texts localNames),
        ("co_freevars", texts reached), ("co_cellvars", texts f.cells.mergeSort)] none)

/-- What a member of a class is when it is asked for through an instance. -/
def boundTo (v : Value) (t : TypeObject) (member : Value) : Run Value := do
  if ← takesInstance member then alloc (.bound member v)
  else
    match ← cell? member with
    | some (.staticMethod f) => return f
    | some (.classMethod f) => alloc (.bound f (.cls t))
    | some (.object ..) => return (← callSpecial? member "__get__" [v, .cls t]).getD member
    | _ => return member

/-- What a member of a class is when it is asked for through a class. -/
def reachedBy (t : TypeObject) (member : Value) : Run Value := do
  match ← cell? member with
  | some (.staticMethod f) => return f
  | some (.classMethod f) => alloc (.bound f (.cls t))
  | some (.object ..) => return (← callSpecial? member "__get__" [.none, .cls t]).getD member
  | _ => return member

/-- Whether a member of a class goes before what an object of the class has been given: one
that says itself how it is given a value or taken away. -/
def goesFirst (σ : Store) (member : Value) : Bool :=
  (σ.special? member "__set__").isSome || (σ.special? member "__delete__").isSome

/-- Whether the objects of a class can be given attributes of any name. -/
def takesAnyName (σ : Store) (t : TypeObject) : Bool :=
  (σ.lineage t).any fun
    | .named (.standard c) => c = .orderedDict || c = .userList
    | .named (.declared _) => true
    | .defined r => ((σ.class? r).map ClassObject.slots).any fun slots =>
      slots.all fun names => names.contains "__dict__"
    | .other name => ErrorClass.isClass name

/-- Whether the objects of a class can be given an attribute of a name. -/
def takesName (σ : Store) (t : TypeObject) (name : String) : Bool :=
  takesAnyName σ t || (σ.lineage t).any fun
    | .defined r => ((σ.class? r).bind ClassObject.slots).any fun names => names.contains name
    | _ => false

/-- The attributes by which every class speaks of itself. -/
def ownOfClass (t : TypeObject) (name : String) : Run (Option Value) := do
  let σ ← read
  match name with
  | "__name__" => return some (.ofName (σ.nameOf t))
  | "__qualname__" => return some (.ofName (σ.pathOf t).2)
  | "__class__" => return some (.cls (σ.kindOf t))
  | "__mro__" => return some (.ofTuple ((σ.lineage t).map .cls))
  | "__bases__" =>
    match t with
    | .defined r => return some (.ofTuple (((σ.class? r).map ClassObject.bases).getD [] |>.map .cls))
    | .named (.standard c) =>
      if c.isAbstract then throw .unsupported
      else return some (.ofTuple (((σ.lineage t).drop 1).take 1 |>.map .cls))
    | .other name =>
      if ErrorClass.isClass name then
        return some (.ofTuple (((σ.lineage t).drop 1).take 1 |>.map .cls))
      else throw .unsupported
    | _ => throw .unsupported
  | "__dict__" =>
    match t with
    | .defined r => some <$> namesDict (((σ.class? r).elim [] (namesOfClass σ)))
    | _ => throw .unsupported
  | _ => return none
where
  /-- The names in a class, with those that each class has. -/
  namesOfClass (σ : Store) (c : ClassObject) : List (String × Value) :=
    let above := c.bases.any fun t => t ≠ .standard .object && takesAnyName σ t
    let own := if c.slots.isNone && !above then ["__dict__", "__weakref__"] else []
    let all := c.members ++ own.map fun name => (name, .ellipsis)
    if (c.members.lookup "__doc__").isSome then all else all ++ [("__doc__", .none)]

/-- What a class has under a name that code has not made. -/
def standardMember? (σ : Store) (t : TypeObject) (name : String) : Option Value :=
  let isAsked (c : StandardClass) : Bool :=
    σ.isSubclass t (.standard c) && (c.asks.map SpecialMember.name).contains name
  let isElement := ["__getitem__"].contains name &&
    (σ.isSubclass t (.standard .sequence) || σ.isSubclass t (.standard .mapping))
  let isNumeric := σ.isSubclass t (.standard .number) &&
    binaryOperators.any fun (n, op) => n = name || exchangedMember op = name
  if (methodsOfClass t).contains name || commonMethods.contains name || isElement || isNumeric ||
      StandardClass.all.any isAsked then
    some (.builtin (.operationOf t name))
  else none

/-- The member of a class by name, and of the classes that it inherits from. -/
def memberOrMethod? (σ : Store) (lineage : List TypeObject) (name : String) : Option Value :=
  lineage.findSome? fun t =>
    match t with
    | .defined r => (σ.class? r).bind fun c => c.members.lookup name
    | t => standardMember? σ t name

/-- What a class says of itself that code has not made. -/
def classDocumentation (σ : Store) (t : TypeObject) : Run Value := do
  let (module, name) := σ.pathOf t
  let name := if module = "builtins" then name else module ++ "." ++ name
  match Documentation.classes.lookup name with
  | some pieces => return .ofName (String.join pieces)
  | none => if Documentation.undocumented.contains name then return .none else throw .unsupported

/-- **An attribute of a class.** -/
def classAttribute (t : TypeObject) (name : String) : Run Value := do
  match ← ownOfClass t name with
  | some v => return v
  | none =>
    let σ ← read
    match memberOrMethod? σ (σ.lineage t) name, name with
    | some (.builtin (.operationOf u member)), _ =>
      if classMethods.contains member then alloc (.method member (.cls t))
      else return .builtin (.operationOf u member)
    | some member, _ => reachedBy t member
    | none, "mro" | none, "__call__" | none, "__subclasses__" | none, "__instancecheck__"
    | none, "__subclasscheck__" | none, "__or__" | none, "__ror__" =>
      alloc (.method name (.cls t))
    | none, "__module__" => return .ofName (σ.pathOf t).1
    | none, "__doc__" =>
      match t with
      | .defined _ => return .none
      | t => classDocumentation σ t
    | none, _ => throw .missingAttribute

/-- What an error has been given besides what its class and all errors have. -/
def ownAttributes (σ : Store) (v : Value) (attributes : List (String × Value)) :
    List (String × Value) :=
  let known := ErrorClass.slots ((σ.errorClass? v).getD "") ++ ErrorClass.origins.map Prod.fst
  attributes.filter fun (name, _) => !known.contains name

/-- **The attributes of an object as a dictionary**, which from now on holds them. -/
def innerNames (v : Value) (t : TypeObject) (attributes : List (String × Value))
    (content : Option Value) : Run Value := do
  match v with
  | .ref r =>
    match (← read).get? r with
    | some (.objectAt _ d _) => return .ref d
    | _ => do
      let d ← newPlace (.dict (Store.renamed [] attributes))
      update r (.objectAt t d content)
      return .ref d
  | _ => namesDict attributes

/-- **The list in an object**, which from now on is found at a place of its own. -/
def innerList (v : Value) (items : List Value) : Run Value := do
  match v with
  | .ref r =>
    match (← read).get? r with
    | some (.listAt d) => return .ref d
    | _ => do
      let d ← newPlace (.list items)
      update r (.listAt d)
      return .ref d
  | _ => alloc (.list items)

/-- An attribute of a value of the language. -/
def plainAttribute (v : Value) (name : String) : Run Value := do
  let σ ← read
  let c := σ.content v
  if name = "__class__" then return .cls (σ.typeOf v)
  if name = "__doc__" then
    match σ.cell? c with
    | some (.activation f ..) => return f.doc
    | some (.property getter _ _ doc) =>
      match doc, σ.cell? getter with
      | some w, _ => return w
      | none, some (.function f) => return f.doc
      | none, _ => return .none
    | some (.bound f _) | some (.staticMethod f) | some (.classMethod f) =>
      match σ.cell? f with
      | some (.function f) => return f.doc
      | _ => throw .unsupported
    | some (.method ..) => throw .unsupported
    | _ => return (← classDocumentation σ (σ.typeOf c))
  let own : Option Value ←
    match c, σ.cell? c with
    | .range start stop step _, _ =>
      pure <| match name with
        | "start" => some (.ofInt start)
        | "stop" => some (.ofInt stop)
        | "step" => some (.ofInt step)
        | _ => none
    | .slice start stop step _, _ =>
      pure <| match name with
        | "start" => some start
        | "stop" => some stop
        | "step" => some step
        | _ => none
    | _, some (.array code _) =>
      pure <| match name with
        | "typecode" => some (.ofName code)
        | "itemsize" => some (.ofInt (Store.itemBytes code))
        | _ => none
    | _, some (.userList items) =>
      match name with
      | "data" => some <$> innerList c items
      | "__dict__" => do some <$> namesDict [("data", ← innerList c items)]
      | _ => pure none
    | _, some (.deque _ limit) =>
      pure (if name = "maxlen" then some (limit.elim .none fun n => .ofInt n) else none)
    | _, some (.vector kind shape items) => arrayAttribute c.place? ⟨kind, shape, items⟩ name
    | .kind k, _ => pure (k.attribute? name)
    | _, some (.property getter setter deleter _) =>
      pure <| match name with
        | "fget" => some getter
        | "fset" => some setter
        | "fdel" => some deleter
        | _ => none
    | _, some (.bound f self) =>
      pure <| match name with
        | "__func__" => some f
        | "__self__" => some self
        | _ => none
    | _, some (.method member self) =>
      let owner :=
        match self with
        | .cls t => t
        | self => σ.typeOf self
      pure <| match name with
        | "__self__" => some self
        | "__name__" => some (.ofName member)
        | "__qualname__" => some (.ofName ((σ.pathOf owner).2 ++ "." ++ member))
        | "__module__" => if Store.isWrapped member then none else some .none
        | _ => none
    | _, some (.staticMethod f) | _, some (.classMethod f) =>
      pure (if name = "__func__" || name = "__wrapped__" then some f else none)
    | c, some (.exception _ args attributes) =>
      match name, attributes.lookup name with
      | "args", _ => pure (some (.ofTuple args))
      | "__dict__", _ => some <$> namesDict (ownAttributes σ c attributes)
      | _, some w => return w
      | name, none => pure (ErrorClass.origins.lookup name)
    | _, some (.activation f _ progress) =>
      pure <| match name with
        | "__name__" => some (.ofName f.name)
        | "__qualname__" => some (.ofName f.qualname)
        | "gi_running" | "cr_running" => some (.bool (progress = .running))
        | "gi_suspended" | "cr_suspended" => some (.bool (progress = .paused))
        | "gi_yieldfrom" | "cr_await" | "cr_origin" => some .none
        | "gi_frame" | "cr_frame" =>
          some (if progress = .over then .none else .cls (.other "frame"))
        | _ => none
    | _, some (.unmatchedError w ds _) =>
      pure <| match name with
        | "value" => some w
        | "types" => some (.types ds)
        | _ => none
    | c, _ =>
      match (σ.number? c).bind fun n => numberAttribute c n name with
      | some w => pure (some w)
      | none =>
        match c.isMachine, MachineKind.ofValue? c with
        | true, some kind => arrayAttribute none ⟨kind, [], [c]⟩ name
        | _, _ => pure none
  match own with
  | some w => tellApart w
  | none =>
    if name = "__new__" then return .builtin (.operationOf (σ.typeOf v) name)
    else if hasMethod σ v name then alloc (.method name v)
    else throw .missingAttribute

/-- The attributes by which operations speak of themselves. -/
def operationAttribute (b : Builtin) (name : String) : Run Value := do
  match name with
  | "__name__" => return .ofName b.name
  | "__qualname__" =>
    match b with
    | .operationOf t n => return .ofName (((← read).pathOf t).2 ++ "." ++ n)
    | b => return .ofName b.name
  | "__module__" =>
    match b with
    | .elt => return .ofName "typecase.compiler.accessors"
    | .assertType => return .ofName "typecase.runtime.type_assert"
    | .operationOf .. => throw .missingAttribute
    | _ => return .ofName "builtins"
  | "__objclass__" =>
    match b with
    | .operationOf t _ => return .cls t
    | _ => throw .missingAttribute
  | "__class__" => return .cls ((← read).typeOf (.builtin b))
  | "__doc__" =>
    match Documentation.operations.lookup b.name with
    | some pieces => return .ofName (String.join pieces)
    | none => throw .unsupported
  | "__self__" => throw .unsupported
  | "__call__" => alloc (.method name (.builtin b))
  | name =>
    if commonMethods.contains name then alloc (.method name (.builtin b)) else throw .missingAttribute

/-- What an object has under a name, its class and what it has been given considered. -/
def objectAttribute (v : Value) (t : TypeObject) (attributes : List (String × Value))
    (content : Option Value) (name : String) : Run Value := do
  let σ ← read
  let member := σ.member? t name
  match ← cell? (.orNull member) with
  | some (.property getter ..) =>
    match getter with
    | .none => throw .missingAttribute
    | getter => invoke getter [v]
  | _ =>
    match member, attributes.lookup name with
    | some m, some w =>
      if goesFirst σ m && (σ.special? m "__get__").isSome then boundTo v t m else return w
    | none, some w => return w
    | some m, none => boundTo v t m
    | none, none =>
      match name with
      | "__dict__" =>
        if takesAnyName σ t then innerNames v t attributes content else throw .missingAttribute
      | "__module__" => return .ofName (σ.pathOf t).1
      | "__doc__" =>
        match t with
        | .defined _ => return .none
        | _ => throw .unsupported
      | name => plainAttribute v name

/-- What a value has under a name from the classes that come after one of its own
on. -/
def attributeAbove (t : TypeObject) (self : Value) (name : String) : Run Value := do
  let σ ← read
  let own :=
    match self with
    | .cls u => u
    | v => σ.typeOf v
  let after := ((σ.lineage own).dropWhile (· ≠ t)).drop 1
  let made := after.findSome? fun
    | .defined r => (σ.class? r).bind fun c => c.members.lookup name
    | _ => none
  match made, self with
  | some m, .cls u => reachedBy u m
  | some m, v =>
    match ← cell? m with
    | some (.property getter ..) => invoke getter [v]
    | _ => boundTo v own m
  | none, .cls u =>
    match memberOrMethod? σ after name, name with
    | _, "__class__" => return .cls (.other "super")
    | some (.builtin (.operationOf w member)), _ =>
      if classMethods.contains member then alloc (.method member (.cls u))
      else return .builtin (.operationOf w member)
    | _, _ => throw .missingAttribute
  | none, v =>
    match name with
    | "__class__" => return .cls (.other "super")
    | "__new__" => return .builtin (.operationOf own "__new__")
    | name => plainAttribute v name

/-- **What a value has under a name**, whatever its class says of all names or of those that
are missing. -/
def ownAttribute (v : Value) (name : String) : Run Value := do
  match v, ← cell? v with
  | .library, _ =>
    match name with
    | "elt" => return .builtin .elt
    | "assert_type" => return .builtin .assertType
    | _ => throw .missingAttribute
  | .cls t, _ => classAttribute t name
  | .unmatched, _ =>
    match name with
    | "__name__" | "__qualname__" => return .ofName "UnmatchedTypeError"
    | "__module__" => return .ofName "typecase.errors"
    | _ => throw .missingAttribute
  | .builtin b, _ => operationAttribute b name
  | .test _, _ => throw .missingAttribute
  | v, some (.function f) => do
    match ← orNone (functionAttribute f name) fun e => e.isA "AttributeError" with
    | some w => return w
    | none => if hasMethod (← read) v name then alloc (.method name v) else throw .missingAttribute
  | _, some (.above t self) => attributeAbove t self name
  | _, some (.bound f _) => do
    match ← orNone (plainAttribute v name) fun e => e.isA "AttributeError", ← cell? f with
    | some w, _ => return w
    | none, some (.function g) => functionAttribute g name
    | none, _ => throw .missingAttribute
  | _, some (.object t attributes content) => objectAttribute v t attributes content name
  | _, _ => plainAttribute v name

/-- **An attribute of a value.** A class may say what each name stands for, and what stands
for one that is missing. -/
def readAttribute (v : Value) (name : String) : Run Value := do
  match ← cell? v with
  | some (.object ..) => do
    let read : Run Value := do
      match ← callSpecial? v "__getattribute__" [.ofName name] with
      | some w => return w
      | none => ownAttribute v name
    match ← orNone read fun e => e.isA "AttributeError" with
    | some w => return w
    | none =>
      match ← callSpecial? v "__getattr__" [.ofName name] with
      | some w => return w
      | none => throw .missingAttribute
  | _ => ownAttribute v name

/-! ## Writing attributes -/

/-- Gives an attribute of a function a value. -/
def writeFunctionAttribute (r : Ref) (f : Function) (name : String) (w : Value) : Run Unit := do
  let σ ← read
  match name, w with
  | "__name__", w =>
    match σ.text? w with
    | some s => update r (.function { f with name := s })
    | none => throw .wrongType
  | "__qualname__", w =>
    match σ.text? w with
    | some s => update r (.function { f with qualname := s })
    | none => throw .wrongType
  | "__doc__", w => update r (.function { f with doc := w })
  | "__module__", w => update r (.function { f with module := w })
  | "__defaults__", .none => update r (.function { f with defaults := none })
  | "__defaults__", .tuple items _ => update r (.function { f with defaults := some items })
  | "__defaults__", _ => throw .wrongType
  | "__kwdefaults__", .none => update r (.function { f with kwDefaults := none })
  | "__kwdefaults__", _ | "__annotations__", _ | "__dict__", _ | "__code__", _ => throw .unsupported
  | "__class__", _ | "__globals__", _ | "__closure__", _ => throw .wrongType
  | name, w => update r (.function { f with attributes := bindName name w f.attributes })

/-- Whether all errors of a class have an attribute. -/
def isOfErrors (errorClass name : String) : Bool :=
  name = "args" || (ErrorClass.slots errorClass).contains name ||
    (ErrorClass.origins.lookup name).isSome

/-- Gives an attribute of an error a value. -/
def writeErrorAttribute (r : Ref) (error : ErrorParts) (name : String) (w : Value) :
    Run Unit := do
  let put (attributes : List (String × Value)) : Run Unit :=
    update r (.exception error.name error.args attributes)
  let isError := ((← read).errorClass? w).isSome
  match name, w with
  | "args", w => do update r (.exception error.name (← items w) error.attributes)
  | "__dict__", _ => throw .unsupported
  | "__class__", _ => throw .wrongType
  | "__traceback__", .none => put (bindName name w error.attributes)
  | "__traceback__", _ => throw .wrongType
  | "__suppress_context__", .bool _ => put (bindName name w error.attributes)
  | "__suppress_context__", _ => throw .wrongType
  | "__cause__", .none | "__context__", .none => put (bindName name w error.attributes)
  | "__cause__", w =>
    if isError then
      put (bindName "__suppress_context__" (.bool true) (bindName name w error.attributes))
    else throw .wrongType
  | "__context__", w =>
    if isError then put (bindName name w error.attributes) else throw .wrongType
  | name, w => put (bindName name w error.attributes)

/-- Gives an object an attribute, where no member of its class says how. -/
def writeObjectAttribute (r : Ref) (t : TypeObject) (attributes : List (String × Value))
    (content : Option Value) (name : String) (w : Value) : Run Unit := do
  let σ ← read
  let v : Value := .ref r
  if name = "__class__" then throw .unsupported
  else if name = "__dict__" then
    match takesAnyName σ t, w, σ.cell? w with
    | true, .ref d, some (.dict _) => update r (.objectAt t d content)
    | true, _, _ => throw .wrongType
    | false, _, _ => throw .missingAttribute
  else if (σ.errorClass? v).any fun c => isOfErrors c name then
    match content, σ.cell? (σ.content v) with
    | some (.ref place), some (.exception n args given) =>
      writeErrorAttribute place ⟨n, args, given⟩ name w
    | _, _ => throw .unsupported
  else if takesName σ t name then update r (.object t (bindName name w attributes) content)
  else throw .missingAttribute

/-- **Gives a value something under a name**, whatever its class says of all names. -/
def writeOwnAttribute (v : Value) (name : String) (w : Value) : Run Unit := do
  let σ ← read
  match v, σ.cell? v with
  | .ref r, some (.function f) => writeFunctionAttribute r f name w
  | .ref r, some (.exception n args attributes) =>
    writeErrorAttribute r ⟨n, args, attributes⟩ name w
  | .ref r, some (.object t attributes content) => do
    let member := Value.orNull (σ.member? t name)
    match ← cell? member with
    | some (.property _ setter ..) =>
      match setter with
      | .none => throw .missingAttribute
      | setter => do
        let _ ← invoke setter [v, w]
    | _ =>
      match ← callSpecial? member "__set__" [v, w] with
      | some _ => return ()
      | none =>
        if goesFirst σ member then throw .missingAttribute
        else writeObjectAttribute r t attributes content name w
  | .cls (.defined r), _ =>
    match σ.class? r with
    | some c => update r (.classObject { c with members := bindName name w c.members })
    | none => throw .wrongType
  | .cls (.named (.declared _)), _ => throw .unsupported
  | .cls _, _ => throw .wrongType
  | .ref r, some (.vector kind shape items) => writeArrayAttribute r ⟨kind, shape, items⟩ name w
  | .ref r, some (.userList _) =>
    if name = "data" then do
      match w, ← cell? w with
      | .ref d, some (.list _) => update r (.listAt d)
      | _, _ => throw .unsupported
    else if name.startsWith "__" then throw .unsupported
    else do
      let d ← newPlace ((σ.get? r).getD (.userList []))
      update r (.object (.standard .userList) [(name, w)] (some (.ref d)))
  | _, _ => throw .missingAttribute

/-- **Gives an attribute of a value a value**, in the way that its class says, if it says
one. -/
def writeAttribute (v : Value) (name : String) (w : Value) : Run Unit := do
  match ← callSpecial? v "__setattr__" [.ofName name, w] with
  | some _ => return ()
  | none => writeOwnAttribute v name w

/-- Takes a name out of a list of bindings. -/
def withoutName (name : String) (bs : List (String × Value)) : Run (List (String × Value)) :=
  if (bs.lookup name).isSome then return bs.filter fun (n, _) => n ≠ name
  else throw .missingAttribute

/-- **Takes away what a value has under a name**, whatever its class says of all names. -/
def deleteOwnAttribute (v : Value) (name : String) : Run Unit := do
  let σ ← read
  match v, σ.cell? v with
  | .ref r, some (.function f) => do
    update r (.function { f with attributes := ← withoutName name f.attributes })
  | .ref r, some (.exception n args attributes) => do
    if isOfErrors n name then throw (if name = "args" then .wrongType else .unsupported)
    update r (.exception n args (← withoutName name attributes))
  | .ref r, some (.object t attributes content) => do
    let member := Value.orNull (σ.member? t name)
    match ← cell? member with
    | some (.property _ _ deleter _) =>
      match deleter with
      | .none => throw .missingAttribute
      | deleter => do
        let _ ← invoke deleter [v]
    | _ =>
      match ← callSpecial? member "__delete__" [v] with
      | some _ => return ()
      | none =>
        if goesFirst σ member then throw .missingAttribute
        else update r (.object t (← withoutName name attributes) content)
  | .cls (.defined r), _ =>
    match σ.class? r with
    | some c => do update r (.classObject { c with members := ← withoutName name c.members })
    | none => throw .wrongType
  | .cls _, _ => throw .wrongType
  | _, _ => throw .missingAttribute

/-- **Takes an attribute of a value away**, in the way that its class says, if it says
one. -/
def deleteAttribute (v : Value) (name : String) : Run Unit := do
  match ← callSpecial? v "__delattr__" [.ofName name] with
  | some _ => return ()
  | none => deleteOwnAttribute v name

/-- The name that a text is. -/
def attributeName (v : Value) : Run String := do
  match (← read).text? v with
  | some s => return s
  | none => throw .wrongType

/-- What a member of a class is for an object of a class, or for the class where no object is
given. -/
def memberAsked (member : Value) (o owner : Value) : Run Value := do
  match o, owner with
  | .none, .none => throw .wrongType
  | .none, .cls t =>
    match ← cell? member with
    | some (.function _) | some (.property ..) => return member
    | _ => reachedBy t member
  | o, owner => do
    match ← cell? member with
    | some (.property getter ..) => invoke getter [o]
    | _ =>
      match owner with
      | .cls t => boundTo o t member
      | _ => boundTo o ((← read).typeOf o) member

/-- **The methods by which all values have attributes**, and those by which members of classes
are reached through objects. -/
def attributeMethod? (v : Value) (name : String) (args : List Value) : Option (Run Value) :=
  match name, args with
  | "__get__", [o] => some (memberAsked v o .none)
  | "__get__", [o, owner] => some (memberAsked v o owner)
  | "__set__", [o, w] => some do
    match ← cell? v with
    | some (.property _ .none ..) => throw .missingAttribute
    | some (.property _ setter ..) => do
      let _ ← invoke setter [o, w]
      return .none
    | _ => throw .wrongType
  | "__delete__", [o] => some do
    match ← cell? v with
    | some (.property _ _ .none _) => throw .missingAttribute
    | some (.property _ _ deleter _) => do
      let _ ← invoke deleter [o]
      return .none
    | _ => throw .wrongType
  | "__getattribute__", [n] => some do ownAttribute v (← attributeName n)
  | "__setattr__", [n, w] => some do
    writeOwnAttribute v (← attributeName n) w
    return .none
  | "__delattr__", [n] => some do
    deleteOwnAttribute v (← attributeName n)
    return .none
  | _, _ => none

end Run

end Narrowing
