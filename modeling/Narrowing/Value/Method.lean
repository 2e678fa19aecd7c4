import Narrowing.Value.Hash
import Narrowing.Value.Method.Activation
import Narrowing.Value.Method.Error
import Narrowing.Value.Method.Keyed
import Narrowing.Value.Method.Number
import Narrowing.Value.Method.Translate
import Narrowing.Value.Method.Vector
import Narrowing.Value.MethodName
/-!
# Methods

What each method does when it is called on a value. Besides the methods of its own a value
has those that the operations of the language go by: a value with a size has one that
gives the size, and so on. Some methods belong to a class itself.
-/

namespace Narrowing

open Code

namespace Run

/-- What a method of an operation gives that is not defined on its operands. -/
def orNotImplemented (r : Option Value) : Value := r.getD .notImplemented

/-- Puts an element in place. -/
def putElement (v i w : Value) : Run Unit := do
  let σ ← read
  match σ.content v, σ.cell? (σ.content v) with
  | .ref r, some (.dict entries) => do
    let entries ← insertEntry entries (i, w)
    update r (.dict entries)
  | .ref r, some (.vector kind shape items) => putNumbers r ⟨kind, shape, items⟩ i w
  | _, _ =>
    match ← mutable? v, i with
    | some m, .slice start stop step _ => do
      let new ← takenOver m w
      m.replace (← replacePart m.items start stop step new)
    | some m, i => do
      let k ← index i
      let isBytes := match σ.cell? (σ.content v) with | some (.bytearray _) => true | _ => false
      if !isBytes then
        let _ ← replaceAt m.items k .none
      let w ← m.accept w
      m.replace (← replaceAt m.items k w)
    | none, _ => throw .wrongType

/-- Takes an element out. -/
def dropElement (v i : Value) : Run Unit := do
  let σ ← read
  match σ.content v, σ.cell? (σ.content v) with
  | .ref r, some (.dict entries) => do
    checkKey i
    match ← removeEntry i entries with
    | some (_, rest) => update r (.dict rest)
    | none => throw .missingKey
  | _, _ =>
    match ← mutable? v, i with
    | some m, .slice start stop step _ => do m.replace (← removePart m.items start stop step)
    | some m, i => do m.replace (← removeAt m.items (← index i))
    | none, _ => throw .wrongType

/-- **Puts an element in place**, in the way that the class of the container says, if it
says one. -/
def writeElement (v i w : Value) : Run Unit := do
  match ← callSpecial? v "__setitem__" [i, w] with
  | some _ => return ()
  | none => putElement v i w

/-- **Takes an element out**, in the way that the class of the container says, if it says
one. -/
def deleteElement (v i : Value) : Run Unit := do
  match ← callSpecial? v "__delitem__" [i] with
  | some _ => return ()
  | none => dropElement v i

/-- Looks a key up in a mapping. -/
def lookUpKey (m key : Value) : Run Value := subscript m key

/-- **Two values under an operator.** -/
def operate (op : BinaryOp) (v w : Value) : Run Value := operateWith lookUpKey op v w

/-- **Updates a value by an operator.** -/
def updateBy (op : BinaryOp) (v w : Value) : Run Value := updateWith lookUpKey op v w

/-- The whole quotient and the remainder of two values. -/
def quotientAndRemainder (v w : Value) : Run Value := do
  match ← memberAnswer v "__divmod__" [w] with
  | some r => return r
  | none =>
    match ← memberAnswer w "__rdivmod__" [v] with
    | some r => return r
    | none => do
      let σ ← read
      if (σ.text? v).isSome || (σ.bytes? v).isSome then throw .wrongType
      let q ← operate .floorDiv v w
      return .ofTuple [q, ← operate .mod v w]

/-- What is left of an iteration, as far as it is known. -/
def leftOf (i : Iteration) : Run Nat := do
  match i with
  | .items rest _ => return rest.length
  | .at_ container index => return ((← read).size? container).getD 0 - index
  | .before _ index => return index
  | .entries container kind index size => do
    let now ← entriesOf container kind
    return if now.length = size then size - index else 0
  | .numbers _ _ left => return left
  | _ => throw .unsupported

/-- What a value of the language is made from again. -/
def argumentsAgain (c : Value) : Run Value := do
  match c with
  | .complex re im _ => return .ofTuple [.ofFloat re, .ofFloat im]
  | .bool b => return .ofTuple [.ofInt (if b then 1 else 0)]
  | c => return .ofTuple [c]

/-- A number rounded down, or up. -/
def wholeNumber (isUp : Bool) (c : Value) : Run Value := do
  match (← read).number? c with
  | some (.float x) => do
    let i ← floorOf (if isUp then -x else x)
    return .ofInt (if isUp then -i else i)
  | some (.int i) => return .ofInt i
  | _ => throw .wrongType

/-- **A method of an operation without arguments** but the value. -/
def callNullary (self c : Value) (name : String) : Run Value := do
  match name with
  | "__len__" => return .ofInt (← length c)
  | "__iter__" => iterator c
  | "__next__" =>
    match ← next? self with
    | some v => return v
    | none => throw (.stopped .none)
  | "__reversed__" => reversedItems c
  | "__bool__" => return .bool (← question fun σ => plainTruth σ c)
  | "__abs__" => absolute c
  | "__neg__" => applyUnary .uSub c
  | "__pos__" => applyUnary .uAdd c
  | "__invert__" => applyUnary .invert c
  | "__int__" | "__trunc__" => return .ofInt (← toInteger c)
  | "__floor__" => wholeNumber false c
  | "__ceil__" => wholeNumber true c
  | "__float__" => return .ofFloat (← toDouble c)
  | "__complex__" => do
    let (re, im) ← toComplex c none
    return .ofComplex re im
  | "__index__" => return .ofInt (← index c)
  | "__bytes__" => return c
  | "__repr__" => return .ofText (← literal (if c.identical self then self else c))
  | "__str__" => return .ofText (← plainText c)
  | "__hash__" => return .ofInt (← hash c)
  | "__getnewargs__" => argumentsAgain c
  | "__length_hint__" =>
    match ← cell? c with
    | some (.iterator i) => return .ofInt (← leftOf i)
    | _ => throw .unsupported
  | _ => throw .unsupported

/-- What a value of the language says of an operator with it on the left, or on the
right. -/
def operatorMethod (op : BinaryOp) (isLeft : Bool) (c w : Value) : Run Value := do
  let σ ← read
  if isRepeatable σ c && op = .add && isLeft then return (← joined c w)
  if isRepeatable σ c && op = .mult then return (← repetitionBy c w)
  let isOther := (σ.number? c).isSome && (σ.number? w).isNone && !σ.isMachine w && !σ.isMachine c
  if isOther then return .notImplemented
  let answer ←
    if isLeft then plainOperation lookUpKey op c w
    else if op = .mod && !((σ.typeOf c) = σ.typeOf w) && (σ.number? c).isNone then pure none
    else plainOperation lookUpKey op w c
  return orNotImplemented answer

/-- **A method of an operation with one argument** besides the value. -/
def callUnary (self c : Value) (name : String) (w : Value) : Run Value := do
  match name with
  | "__contains__" => return .bool (← contains c w)
  | "__getitem__" => plainSubscript self w
  | "__delitem__" => do
    dropElement self w
    return .none
  | "__divmod__" =>
    if ((← read).number? w).isSome then quotientAndRemainder c w else return .notImplemented
  | "__rdivmod__" =>
    if ((← read).number? w).isSome then quotientAndRemainder w c else return .notImplemented
  | "__format__" =>
    match (← read).text? w with
    | some spec => return .ofText (← plainlyFormatted self spec)
    | none => throw .wrongType
  | name =>
    match comparisonMethods.lookup name, binaryOperators.lookup name,
      exchangedOperators.lookup name, updatingOperators.lookup name with
    | some op, _, _, _ => do
      match ← plainAnswer compare op self w, self.identical w, op with
      | some r, _, _ => return r
      | none, true, .eq => return .bool true
      | none, true, .notEq => return .bool false
      | none, _, _ => return .notImplemented
    | none, some op, _, _ => operatorMethod op true c w
    | none, none, some op, _ => operatorMethod op false c w
    | none, none, none, some op => do
      match ← cell? c with
      | some (.list _) | some (.deque ..) | some (.bytearray _) | some (.array ..) =>
        sequenceUpdate op self w
      | _ => updateBy op self w
    | none, none, none, none => throw .unsupported

/-- **A method of an operation** called by its name on a value of the language. -/
def callSpecialMethod (self : Value) (name : String) (args : List Value) : Run Value := do
  let c := (← read).content self
  if (argumentCount? name).any fun (least, most) => args.length < least || args.length > most then
    throw .wrongType
  match name, args with
  | "__setitem__", [i, w] => do
    putElement self i w
    return .none
  | "__round__", [.none] =>
    if ((← read).wholeNumber? c).isSome then throw .wrongType else invoke (.builtin .round) [c]
  | "__round__", args => invoke (.builtin .round) (c :: args)
  | "__pow__", [w, m] => invoke (.builtin .pow) [c, w, m]
  | "__rpow__", [w, m] => invoke (.builtin .pow) [w, c, m]
  | name, [] => callNullary self c name
  | name, [w] => callUnary self c name w
  | _, _ => throw .unsupported

/-- Initialises the content of an object anew, as the standard class says that the object
is an instance of. -/
def initialiseContent (self : Value) (args : List Value) (keywords : List (String × Value)) :
    Run Value := do
  let σ ← read
  match σ.content self, σ.cell? (σ.content self) with
  | .ref r, some (.exception n _ attributes) => do
    if !keywords.isEmpty then throw .wrongType
    update r (.exception n args attributes)
    return .none
  | .ref r, some (.dict entries) => return (← dictMethod self r entries "update" args keywords)
  | _, _ => pure ()
  match self, σ.cell? self with
  | .ref r, some (.object t attrs (some _)) =>
    match contentClass? σ t with
    | some c => do
      if !isSettled c then
        let content ← newContent c args keywords
        match content, (← read).cell? (.ref r) with
        | some new, some (.object t _ (some (.ref place))) =>
          match ← cell? new with
          | some cell => update place cell
          | none => update r (.object t attrs content)
        | _, _ => pure ()
      return .none
    | none => return .none
  | v, _ => do
    let σ ← read
    match v, contentClass? σ (σ.typeOf v) with
    | .ref r, some c => do
      if !isSettled c then
        match ← newContent c args keywords with
        | some new =>
          match ← cell? new with
          | some cell => update r cell
          | none => pure ()
        | none => pure ()
      return .none
    | _, _ => return .none

/-- **A method of a class itself.** -/
def callClassMethod (t : TypeObject) (name : String) (args : List Value)
    (keywords : List (String × Value)) : Run Value := do
  let σ ← read
  let isA (c : StandardClass) : Bool := σ.isSubclass t (.standard c)
  let own (v : Value) : Run Value := do
    if t = (← read).typeOf v then return v else invoke (.cls t) [v]
  let isNamed := !keywords.isEmpty
  match name, args with
  | "from_bytes", args => do own (← integerFromBytes args keywords)
  | "fromkeys", [keys] | "fromkeys", [keys, _] => do
    if isNamed then throw .wrongType
    let v := (args[1]?).getD .none
    if t = .standard .dict then
      alloc (.dict (← distinctEntries ((← items keys).map fun k => (k, v))))
    else do
      let d ← invoke (.cls t) []
      (← items keys).forM fun k => writeElement d k v
      return d
  | "fromhex", [v] => do
    if isNamed then throw .wrongType
    if isA .float then own (← doubleFromHex v)
    else do
      let bs ← hexUnspelled v
      own (← if isA .bytearray then alloc (.bytearray bs) else pure (.ofByteList bs))
  | "maketrans", args =>
    if isNamed then throw .wrongType
    else if isA .str then newTable args
    else newByteTable args
  | "__class_getitem__", _ | "__getformat__", _ => throw .unsupported
  | _, _ => throw .wrongType

/-- **A method of the class of classes**, called on a class. -/
def callMetaMethod (t : TypeObject) (name : String) (args : List Value)
    (keywords : List (String × Value)) : Run Value := do
  match name, args with
  | "mro", [] => alloc (.list (((← read).lineage t).map .cls))
  | "__call__", args => ask (.call (.cls t) args keywords)
  | "__instancecheck__", [v] => invoke (.builtin .isinstance) [v, .cls t]
  | "__subclasscheck__", [v] => invoke (.builtin .issubclass) [v, .cls t]
  | "__or__", [v] => operate .bitOr (.cls t) v
  | "__ror__", [v] => operate .bitOr v (.cls t)
  | "__subclasses__", [] =>
    match t with
    | .defined _ => do
      let σ ← read
      let below := (List.range σ.cells.size).filterMap fun k =>
        ((σ.class? ⟨k⟩).filter fun c => c.bases.contains t).map fun _ => Value.cls (.defined ⟨k⟩)
      alloc (.list below)
    | _ => throw .unsupported
  | "__prepare__", _ => throw .unsupported
  | _, _ => throw .wrongType

/-- **Where a range of positions begins and ends** among so many, and its step. -/
def sliceEnds (start stop step count : Value) : Run Value := do
  let n ← index count
  if n < 0 then throw .badValue
  let step := (← sliceEnd step).getD 1
  if step = 0 then throw .badValue
  let least : Int := if step < 0 then -1 else 0
  let most := if step < 0 then n - 1 else n
  let bounded (i : Int) : Int :=
    let i := if i < 0 then i + n else i
    if i < least then least else if i > most then most else i
  let first := (← sliceEnd start).elim (if step < 0 then most else least) bounded
  let last := (← sliceEnd stop).elim (if step < 0 then least else most) bounded
  return .ofTuple [.ofInt first, .ofInt last, .ofInt step]

/-- The methods by which machine numbers are numbers and not arrays. -/
def numberMethods : List String := ["bit_count", "is_integer", "as_integer_ratio", "hex"]

/-- **A method called on a value** of the language. -/
def callMethod (self : Value) (name : String) (args : List Value)
    (keywords : List (String × Value)) : Run Value := do
  let σ ← read
  let c := σ.content self
  if let .cls t := self then
    if classMethods.contains name then return (← callClassMethod t name args keywords)
    else return (← callMetaMethod t name args keywords)
  if name = "__init__" then initialiseContent self args keywords
  else if classMethods.contains name then callClassMethod (σ.typeOf self) name args keywords
  else if name.startsWith "__" && name ≠ "__copy__" then
    if keywords.isEmpty then do tellApart (← callSpecialMethod self name args) else throw .wrongType
  else
    let name := if name = "__copy__" then "copy" else name
    let result ←
      match c, σ.cell? c with
      | .str s _, _ => spellingMethod .text c s.toList name args keywords
      | .bytes bs _, _ => spellingMethod .bytes c (bs.map Char.ofNat) name args keywords
      | .tuple items _, _ => fixedMethod items name args
      | .slice start stop step _, _ =>
        match args with
        | [n] => sliceEnds start stop step n
        | _ => throw .wrongType
      | .range start stop step _, _ =>
        match name, args with
        | "count", [v] => do
          return .ofInt (if ← amongNumbers start stop step v then 1 else 0)
        | "index", [v] => do
          match v with
          | .int i _ =>
            if ← amongNumbers start stop step v then return .ofInt ((i - start) / step)
            else throw .badValue
          | v => indexOf (Value.ofRange start stop step) v []
        | _, _ => throw .wrongType
      | .frozenset items slots tag, _ =>
        if name = "copy" && args.isEmpty then return .frozenset items slots tag
        else fixedSetMethod (fun s => return .ofFrozenset s) ⟨items, slots⟩ name args
      | .ref r, some (.set s) => setMethod r s name args
      | .ref r, some (.dict entries) => dictMethod self r entries name args keywords
      | _, some (.view kind d) =>
        let shown := ((σ.entries? d).map (Store.viewItems kind)).getD []
        fixedSetMethod (fun s => alloc (.set s)) { items := shown } name args
      | _, some (.bytearray bs) =>
        if ["append", "clear", "copy", "extend", "insert", "pop", "remove", "reverse"].contains name
        then
          match ← mutable? c with
          | some m => sequenceMethod c m name args keywords
          | none => throw .wrongType
        else spellingMethod .bytearray c (bs.map Char.ofNat) name args keywords
      | .ref r, some (.vector kind shape items) =>
        vectorMethod (some r) ⟨kind, shape, items⟩ name args
      | _, some (.property getter setter deleter doc) =>
        match name, args with
        | "getter", [f] => alloc (.property f setter deleter doc)
        | "setter", [f] => alloc (.property getter f deleter doc)
        | "deleter", [f] => alloc (.property getter setter f doc)
        | _, _ => throw .wrongType
      | .ref r, some (.activation ..) => activationMethod r name args
      | .ref r, some (.exception n given attributes) =>
        errorMethod self r ⟨n, given, attributes⟩ name args
      | c, _ =>
        match ← mutable? self, σ.number? c with
        | some m, _ => sequenceMethod self m name args keywords
        | none, some n =>
          match c.isMachine && !numberMethods.contains name, MachineKind.ofValue? c with
          | true, some kind => vectorMethod none ⟨kind, [], [c]⟩ name args
          | _, _ => numberMethod c n name args keywords
        | none, none => throw .wrongType
    tellApart result

end Run

end Narrowing
