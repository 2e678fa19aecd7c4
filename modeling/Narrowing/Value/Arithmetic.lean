import Narrowing.Value.Format
/-!
# Arithmetic of values

Each of the two operands of an operator may say what the operation gives: by a member
of its class, or by what it is as a value of the language. The left one is asked first,
unless the class of the right one is derived from its class and has a say of its own.
What is joined or repeated comes last, so that an operand on the right may still
decide.

Numbers and sets are computed with; sequences of one kind are joined, and repeated by an
integer; dictionaries are merged; and classes are put together to any of them. A list in
an object joins with anything that gives items and keeps its class. Where a machine
number or an array takes part the operation works number by number.

An update in place changes what the store holds, where the class of the value allows it,
and computes anew elsewhere.
-/

namespace Narrowing

open Code

/-! ## Names of operations -/

/-- The word for an operator in the names of members. -/
def operatorWord : BinaryOp → String
  | .add => "add"
  | .sub => "sub"
  | .mult => "mul"
  | .matMult => "matmul"
  | .div => "truediv"
  | .mod => "mod"
  | .pow => "pow"
  | .lShift => "lshift"
  | .rShift => "rshift"
  | .bitOr => "or"
  | .bitXor => "xor"
  | .bitAnd => "and"
  | .floorDiv => "floordiv"

/-- The name of the member that says what an operator gives. -/
def memberOfOperator (op : BinaryOp) : String := "__" ++ operatorWord op ++ "__"

/-- The same with the operands exchanged. -/
def exchangedMember (op : BinaryOp) : String := "__r" ++ operatorWord op ++ "__"

/-- The same for an update in place. -/
def updatingMember (op : BinaryOp) : String := "__i" ++ operatorWord op ++ "__"

/-- The value of a number. -/
def Number.value : Number → Value
  | .int i => .ofInt i
  | .float x => .ofFloat x
  | .complex re im => .ofComplex re im

namespace Run

/-- What a member of the class of a value says of an operation, if it says anything. -/
def memberAnswer (v : Value) (name : String) (args : List Value) : Run (Option Value) := do
  match ← callSpecial? v name args with
  | some r => return defined? r
  | none => return none

/-! ## Sequences -/

/-- A list repeated, where the count is a word and there is room. A text that would
be longer than any word says so before room is asked for. -/
def repeatedWithin {α : Type} (isText : Bool) (count : Int) (items : List α) : Run (List α) :=
  let size := count.toNat * items.length
  if !Word.fits 63 count || (isText && !Word.fits 63 size) then throw .tooLarge
  else if size > room then throw .outOfRoom
  else if items.isEmpty then return []
  else return (List.replicate count.toNat items).flatten

/-- A value of the class of an object with these contents: code may say how it is made
from a list. -/
def rebuilt (v : Value) (items : List Value) (build : List Value → Cell) : Run Value := do
  match ← cell? v with
  | some (.object t _ _) => invoke (.cls t) [← alloc (.list items)]
  | _ => alloc (build items)

/-- A queue with other items and the same limit, of the same class. -/
def rebuiltQueue (v : Value) (items : List Value) (limit : Option Nat) : Run Value := do
  let items := lastOf limit items
  match ← cell? v, limit with
  | some (.object t _ _), some n => do invoke (.cls t) [← alloc (.list items), .ofInt n]
  | _, _ => rebuilt v items fun vs => .deque vs limit

/-- **Two values joined.** What is joined with nothing stays as it is. -/
def joined (v w : Value) : Run Value := do
  let σ ← read
  match σ.content v, σ.content w with
  | .str s tag, .str t tag' =>
    return if t.isEmpty then .str s tag else if s.isEmpty then .str t tag' else .ofText (s ++ t)
  | .tuple xs tag, .tuple ys tag' =>
    return if ys.isEmpty then .tuple xs tag else if xs.isEmpty then .tuple ys tag'
      else .ofTuple (xs ++ ys)
  | a, b =>
    match σ.cell? a, σ.cell? b with
    | some (.list xs), some (.list ys) => alloc (.list (xs ++ ys))
    | some (.deque xs limit), some (.deque ys _) => rebuiltQueue v (xs ++ ys) limit
    | some (.array c xs), some (.array d ys) =>
      if c = d then alloc (.array c (xs ++ ys)) else throw .wrongType
    | _, _ =>
      match a, σ.bytes? a, σ.memory? b with
      | .bytes _ tag, some xs, some ys =>
        return if ys.isEmpty then .bytes xs tag
          else if xs.isEmpty then .bytes ys (match b with | .bytes _ tag' => tag' | _ => .none)
          else .ofByteList (xs ++ ys)
      | _, some xs, some ys => alloc (.bytearray (xs ++ ys))
      | _, _, _ => throw .wrongType

/-- Whether a value is a sequence that can be repeated. -/
def isRepeatable (σ : Store) (v : Value) : Bool :=
  match σ.content v with
  | .str .. | .bytes .. | .tuple .. => true
  | v =>
    match σ.cell? v with
    | some (.list _) | some (.deque ..) | some (.array ..) | some (.bytearray _) => true
    | _ => false

/-- **A value repeated.** What is repeated once stays as it is, if it never changes. -/
def repetition (v : Value) (count : Int) : Run Value := do
  let σ ← read
  match σ.content v with
  | .str s tag =>
    if count = 1 then return .str s tag
    else return .ofText (String.ofList (← repeatedWithin true count s.toList))
  | .bytes bs tag =>
    if count = 1 then return .bytes bs tag else return .ofByteList (← repeatedWithin true count bs)
  | .tuple items tag =>
    if count = 1 then return .tuple items tag
    else return .ofTuple (← repeatedWithin false count items)
  | c =>
    match σ.cell? c with
    | some (.list items) => alloc (.list (← repeatedWithin false count items))
    | some (.deque items limit) =>
      rebuiltQueue v (← repeatedWithin false count items) limit
    | some (.array code items) => alloc (.array code (← repeatedWithin false count items))
    | some (.bytearray bs) => alloc (.bytearray (← repeatedWithin false count bs))
    | _ => throw .wrongType

/-- A value repeated as often as another one says. -/
def repetitionBy (v count : Value) : Run Value := do
  match ← index? count with
  | some n => repetition v n
  | none => throw .wrongType

/-- **What joining or repeating gives**, where no operand has a say of its own. -/
def sequenceOperation (op : BinaryOp) (v w : Value) : Run Value := do
  let σ ← read
  match op with
  | .add => joined v w
  | .mult =>
    if isRepeatable σ v then repetitionBy v w
    else if isRepeatable σ w then repetitionBy w v
    else throw .wrongType
  | _ => throw .wrongType

/-! ## Operands of each kind -/

/-- What a list in an object says of an operation. -/
def listObjectOperation (op : BinaryOp) (v : Value) (xs : List Value) (w : Value) :
    Run (Option Value) := do
  match op with
  | .add => return some (← rebuilt v (xs ++ (← items w)) .userList)
  | .mult =>
    match ← index? w, (← read).vectorOperation .mult (← alloc (.list xs)) w with
    | some n, _ => return some (← rebuilt v (← repeatedWithin false n xs) .userList)
    | none, .ok a =>
      if (← read).isMachine w then return some (← rebuilt v (← rows none a) .userList)
      else throw .wrongType
    | none, .error _ => throw .wrongType
  | _ => return none

/-- What a list in an object on the right says of a sum or a product. -/
def listObjectOnRight (op : BinaryOp) (v w : Value) (ys : List Value) : Run (Option Value) := do
  match op with
  | .add => return some (← rebuilt w ((← items v) ++ ys) .userList)
  | .mult => listObjectOperation .mult w ys v
  | _ => return none

/-- The text of a key of a directive as a value. -/
def directiveKey (isBytes : Bool) (cs : List Char) : Value :=
  if isBytes then .ofByteList (cs.map Char.toNat) else .ofText (String.ofList cs)

/-- **A text with directives, filled in**, if the left operand is one. -/
def formatted (lookUp : Value → Value → Run Value) (v w : Value) : Run (Option Value) := do
  let σ ← read
  let fill (isBytes : Bool) (cs : List Char) : Run (List Char) :=
    filledIn (fun m key => lookUp m (directiveKey isBytes key)) isBytes cs w
  match σ.content v with
  | .str s _ => return some (.ofText (String.ofList (← fill false s.toList)))
  | .bytes bs _ => return some (.ofByteList ((← fill true (bs.map Char.ofNat)).map Char.toNat))
  | c =>
    match σ.cell? c with
    | some (.bytearray bs) =>
      return some (← alloc (.bytearray ((← fill true (bs.map Char.ofNat)).map Char.toNat)))
    | _ => return none

/-- Whether a value is a text or a byte string. -/
def isSpelling (σ : Store) (v : Value) : Bool :=
  match σ.content v with
  | .str .. | .bytes .. => true
  | _ => false

/-- **The inner product of two values as arrays**, which both need an axis. -/
def innerOperation (v w : Value) : Run Value := do
  let σ ← read
  match σ.arrayLike v, σ.arrayLike w with
  | .numbers a, .numbers b => do
    if a.shape.isEmpty || b.shape.isEmpty then throw .badValue
    let items ← ofExcept (a.items.mapM fun x =>
      match σ.number? x with
      | some n => n.machineValue a.kind
      | none => .error .wrongType)
    invoke (← alloc (.method "dot" (← alloc (.vector a.kind a.shape items)))) [w]
  | .texts, .numbers _ | .numbers _, .texts | .texts, .texts => throw .noLoop
  | _, _ => throw .badValue

/-- **What an operation with a machine number or an array gives.** A single machine
number repeats a sequence, and leaves what stands after a text to the text. -/
def machineAnswer (op : BinaryOp) (v w : Value) : Run (Option Value) := do
  let σ ← read
  if op = .mult && w.isMachine && isRepeatable σ v then return some (← repetitionBy v w)
  if op = .mult && v.isMachine && isRepeatable σ w then return some (← repetitionBy w v)
  if op = .add && w.isMachine && isSpelling σ v then return none
  let isLeft := (σ.special? v (memberOfOperator op)).isSome
  if isLeft || (σ.special? w (exchangedMember op)).isSome then return none
  if op = .matMult then return some (← innerOperation (σ.content v) (σ.content w))
  return some (← ofArray (← ofExcept (σ.vectorOperation op (σ.content v) (σ.content w))))

/-- Whether an operation with a machine double is one of complex numbers. -/
def isComplexFirst (v w : Value) : Bool :=
  match v, w with
  | .complex .., .machineFloat .. => true
  | _, _ => false

/-- What two numbers give; two truth values stay such under an operator on bits. -/
def numberOperation (op : BinaryOp) (v w : Value) (m n : Number) : Run (Option Value) := do
  match op, v, w with
  | .bitAnd, .bool a, .bool b => return some (.bool (a && b))
  | .bitOr, .bool a, .bool b => return some (.bool (a || b))
  | .bitXor, .bool a, .bool b => return some (.bool (a != b))
  | op, _, _ => return some (← ofExcept (Number.operate op m n)).value

/-- What a value is to a set that it goes together with. -/
def sourceOf (v : Value) : Run Source := do
  let σ ← read
  match σ.slotted? v, σ.cell? v with
  | some s, _ => return .set s
  | none, some (.dict entries) => return .keys (entries.map Prod.fst)
  | none, _ => return .items (← items v)

/-- A new set of the keys that a dictionary shows, or of the items of another value. -/
def newSetOf (v : Value) : Run (Slotted Value) := do
  match ← cell? v with
  | some (.view .keys d) => joinedTo {} (← sourceOf d)
  | _ => joinedTo {} (← sourceOf v)

/-- What a view of a dictionary and another value have in common. -/
def commonWithView (v w : Value) : Run (Slotted Value) := do
  let σ ← read
  let isView (v : Value) : Bool := (σ.set? v).any Prod.snd
  let (v, w) := if isView v then (v, w) else (w, v)
  let size := (σ.size? v).getD 0
  let keys ← items v
  match σ.cell? w, isView w && (σ.size? w).any (size < ·) with
  | some (.set s), _ =>
    if size ≤ s.items.length then commonItems s (.items keys)
    else keptItems true (← hashedItems (.items s.items)) keys
  | _, true => do keptItems true (← hashedItems (.items keys)) (← items w)
  | _, false => do keptItems true (← hashedItems (.items (← items w))) keys

/-- **What two sets give**: a set of the kind of the left one. What a dictionary shows
goes together with anything that gives items, and gives a set that can change. -/
def setOperation (op : BinaryOp) (v w : Value) : Run (Option Value) := do
  let σ ← read
  let isView (v : Value) : Bool := (σ.set? v).any Prod.snd
  match σ.slotted? v, σ.slotted? w, isView v || isView w with
  | some xs, some ys, _ =>
    match setWith? op xs (.set ys), σ.content v with
    | some r, .frozenset .. => return some (.ofFrozenset (← r))
    | some r, _ => return some (← alloc (.set (← r)))
    | none, _ => return none
  | _, _, true =>
    match op with
    | .bitAnd => return some (← alloc (.set (← commonWithView v w)))
    | .bitOr | .bitXor | .sub => do
      let s ← newSetOf v
      match setUpdate? op s (← sourceOf w) with
      | some r => return some (← alloc (.set (← r)))
      | none => return none
    | _ => return none
  | _, _, _ => return none

/-- Whether a value is a dictionary that keeps an order of its own. -/
def isOrdered (σ : Store) (v : Value) : Bool := σ.isInstance v (.standard .orderedDict)

/-- A dictionary of the class of an object. -/
def dictLike (v : Value) (entries : List (Value × Value)) : Run Value := do
  let d ← alloc (.dict entries)
  match ← cell? v with
  | some (.object t _ _) => invoke (.cls t) [d]
  | _ => return d

/-- **What two dictionaries give**: the entries of both, those of the right one
winning. -/
def dictOperation (v w : Value) : Run (Option Value) := do
  let σ ← read
  match σ.entries? v, σ.entries? w with
  | some xs, some ys =>
    let merged ← ys.foldlM insertEntry xs
    if isOrdered σ v then return some (← dictLike v merged)
    else if isOrdered σ w then return some (← dictLike w merged)
    else return some (← alloc (.dict merged))
  | _, _ => return none

/-- The classes that a value stands for in a choice of classes. -/
def choices? : Value → Option (List TypeObject)
  | .cls t => some [t]
  | .anyOf ts => some ts
  | .unmatched => none
  | .none => some [.standard .noneType]
  | _ => none

/-- **Any of the classes of two values.** -/
def choiceOperation (v w : Value) : Run (Option Value) := do
  match v, w with
  | .none, .none => return none
  | v, w =>
    match choices? v, choices? w with
    | some ts, some us =>
      match (ts ++ us).eraseDups with
      | [t] => return some (.cls t)
      | ts => return some (.anyOf ts)
    | _, _ => return none

/-- **What two values of the language give under an operator**, if either has a say.
Mappings are looked into in a given way. -/
def plainOperation (lookUp : Value → Value → Run Value) (op : BinaryOp) (v w : Value) :
    Run (Option Value) := do
  let σ ← read
  let a := σ.content v
  let b := σ.content w
  match σ.cell? a, op with
  | some (.userList xs), .add | some (.userList xs), .mult => listObjectOperation op v xs w
  | _, _ =>
    let text ← if op = .mod then formatted lookUp v w else pure none
    if text.isSome then return text
    if (σ.isMachine a || σ.isMachine b) && !isComplexFirst a b then machineAnswer op v w
    else
      match σ.number? a, σ.number? b, σ.cell? b with
      | some m, some n, _ => numberOperation op a b m n
      | _, _, some (.userList ys) => listObjectOnRight op v w ys
      | _, _, _ =>
        match ← setOperation op v w, op with
        | some r, _ => return some r
        | none, .bitOr =>
          match ← dictOperation v w with
          | some r => return some r
          | none => choiceOperation a b
        | none, _ => return none

/-- Whether the right operand is asked first: its class is derived from that of the left
one and has another say. -/
def isRightAskedFirst (op : BinaryOp) (v w : Value) : Run Bool := do
  let σ ← read
  let name := exchangedMember op
  if ← isRightFirst v w then
    match σ.special? w name, σ.special? v name with
    | some m, some n => return !m.identical n
    | some _, none => return true
    | none, _ => return false
  else return false

/-- What the operands of an operator say, before anything is joined or repeated. -/
def operandAnswer (lookUp : Value → Value → Run Value) (op : BinaryOp) (v w : Value) :
    Run (Option Value) := do
  let isRightFirst ← isRightAskedFirst op v w
  let right : Run (Option Value) := memberAnswer w (exchangedMember op) [v]
  match ← if isRightFirst then right else pure none with
  | some r => return some r
  | none =>
    match ← memberAnswer v (memberOfOperator op) [w] with
    | some r => return some r
    | none =>
      match ← plainOperation lookUp op v w with
      | some r => return some r
      | none =>
        let σ ← read
        if isRightFirst || σ.typeOf v = σ.typeOf w then return none else right

/-- **Two values under an operator.** -/
def operateWith (lookUp : Value → Value → Run Value) (op : BinaryOp) (v w : Value) : Run Value := do
  match ← operandAnswer lookUp op v w with
  | some r => tellApart r
  | none => do tellApart (← sequenceOperation op v w)

/-! ## Updates in place -/

/-- An array put in place of another: the numbers have to be of its kind, and as many. -/
def replaceArray (r : Ref) (v : Value) (old new : MachineArray) : Run Value := do
  if new.kind.rank > old.kind.rank then throw .noLoop
  else if new.shape ≠ old.shape then throw .badValue
  else
    let σ ← read
    let items ← ofExcept (new.items.mapM fun x =>
      match σ.number? x with
      | some n => n.machineValue old.kind
      | none => .error .wrongType)
    update r (.vector old.kind old.shape items)
    return v

/-- **What a value does in place under an operator** before its operands are asked. -/
def inPlaceAnswer (op : BinaryOp) (v w : Value) : Run (Option Value) := do
  let σ ← read
  match σ.content v, σ.cell? (σ.content v), op with
  | .ref r, some (.set xs), _ =>
    match (σ.slotted? w).bind fun ys => setUpdate? op xs (.set ys) with
    | some ys => do
      let isOwn := (σ.content w).identical (.ref r) && (op = .sub || op = .bitXor)
      update r (.set (← if isOwn then pure {} else ys))
      return some v
    | none => return none
  | .ref r, some (.userList xs), .add => do
    update r (.userList (xs ++ (← items w)))
    return some v
  | .ref r, some (.userList xs), .mult => do
    update r (.userList (← repeatedWithin false (← index w) xs))
    return some v
  | .ref _, some (.vector _ shape _), .matMult =>
    if shape.length < 2 then throw .badValue else return some (← innerOperation v (σ.content w))
  | .ref r, some (.vector kind shape items), _ => do
    let a ← ofExcept (σ.vectorOperation op (.ref r) (σ.content w))
    return some (← replaceArray r v ⟨kind, shape, items⟩ a)
  | _, _, _ => return none

/-- The entries that a value gives: those of a dictionary, or pairs. -/
def entriesIn (v : Value) : Run (List (Value × Value)) := do
  match (← read).entries? v with
  | some entries => return entries
  | none => do
    (← items v).mapM fun pair => do
      let parts ← items pair
      match parts with
      | [k, w] => return (k, w)
      | _ => throw .badValue

/-- **What joining or repeating does in place.** -/
def sequenceUpdate (op : BinaryOp) (v w : Value) : Run Value := do
  let σ ← read
  match σ.content v, σ.cell? (σ.content v), op with
  | .ref r, some (.list _), .add => do
    let ys ← items w
    match ← cell? (.ref r) with
    | some (.list xs) => update r (.list (xs ++ ys))
    | _ => pure ()
    return v
  | .ref r, some (.deque ..), .add => do
    let ys ← items w
    match ← cell? (.ref r) with
    | some (.deque xs limit) => update r (.deque (lastOf limit (xs ++ ys)) limit)
    | _ => pure ()
    return v
  | .ref r, some (.bytearray xs), .add => do
    match σ.memory? w with
    | none => throw .wrongType
    | some ys => do
      if (σ.content w).identical (.ref r) && !ys.isEmpty then throw .inUse
      update r (.bytearray (xs ++ ys))
      return v
  | .ref r, some (.array c xs), .add =>
    match σ.cell? (σ.content w) with
    | some (.array d ys) => do
      if c ≠ d then throw .wrongType
      update r (.array c (xs ++ ys))
      return v
    | _ => throw .wrongType
  | .ref r, some (.list xs), .mult => do
    update r (.list (← repeatedWithin false (← index w) xs))
    return v
  | .ref r, some (.deque xs limit), .mult => do
    let ys ← repeatedWithin false (← index w) xs
    update r (.deque (lastOf limit ys) limit)
    return v
  | .ref r, some (.bytearray bs), .mult => do
    update r (.bytearray (← repeatedWithin false (← index w) bs))
    return v
  | .ref r, some (.array c xs), .mult => do
    update r (.array c (← repeatedWithin false (← index w) xs))
    return v
  | _, _, _ => sequenceOperation op v w

/-- **Updates a value by an operator.** A dictionary takes entries over. -/
def updateWith (lookUp : Value → Value → Run Value) (op : BinaryOp) (v w : Value) : Run Value := do
  match ← memberAnswer v (updatingMember op) [w] with
  | some r => return r
  | none =>
    match ← inPlaceAnswer op v w with
    | some r => return r
    | none =>
      let σ ← read
      match op, σ.content v, σ.entries? v with
      | .bitOr, .ref r, some xs => do
        update r (.dict (← (← entriesIn w).foldlM insertEntry xs))
        return v
      | _, _, _ =>
        match ← operandAnswer lookUp op v w with
        | some r => tellApart r
        | none => do tellApart (← sequenceUpdate op v w)

/-! ## One operand -/

/-- The name of the member that says what an operator on one operand gives. -/
def memberOfUnary : UnaryOp → String
  | .invert => "__invert__"
  | .uAdd => "__pos__"
  | .uSub => "__neg__"
  | .not => "__bool__"

/-- A number of the language under an operator on one operand. -/
def numberUnary (op : UnaryOp) (v : Value) (n : Number) : Run Value :=
  match op, v, n with
  | .uAdd, .bool _, n => return n.value
  | .uAdd, v, _ => return v
  | .uSub, _, .int i => return .ofInt (-i)
  | .uSub, _, .float x => return .ofFloat (-x)
  | .uSub, _, .complex re im => return .ofComplex (-re) (-im)
  | .invert, _, .int i => return .ofInt (Bits.not i)
  | _, _, _ => throw .wrongType

/-- **A value under an operator on one operand.** -/
def applyUnary (op : UnaryOp) (v : Value) : Run Value := do
  if op = .not then return .bool !(← isTrue v)
  match ← callSpecial? v (memberOfUnary op) [] with
  | some r => return r
  | none =>
    let σ ← read
    let c := σ.content v
    match σ.vector? c, σ.number? c with
    | some a, _ => mapArray a (machineUnary op)
    | none, some n => do
      if c.isMachine then tellApart (← ofExcept (machineUnary op c))
      else tellApart (← numberUnary op c n)
    | none, none => throw .wrongType

/-- **The absolute value** of a number, or of each number of an array. -/
def absolute (v : Value) : Run Value := do
  match ← callSpecial? v "__abs__" [] with
  | some r => return r
  | none =>
    let σ ← read
    let c := σ.content v
    match σ.vector? c, σ.number? c with
    | some a, _ => mapArray a machineAbs
    | none, some n => do
      if c.isMachine then tellApart (← ofExcept (machineAbs c))
      else
        match c, n, n.abs with
        | .int i _, _, _ => if i < 0 then tellApart (.ofInt (-i)) else return c
        | _, _, some m => tellApart m.value
        | _, _, none => throw .tooLarge
    | none, none => throw .wrongType

end Run

end Narrowing
