import Narrowing.Value.Vector
/-!
# Members that values work by

A class made by code says by members of certain names what the operations of the
language do with its objects: whether they count as true, how many items they have, and
which position they stand for. Where it says nothing, an object works as the instance of
a standard class that it is, if it is one.
-/

namespace Narrowing

open Code

namespace Run

/-- Whether a member that is looked up through an object takes the object as its first
argument. -/
def takesInstance (member : Value) : Run Bool := do
  match member with
  | .builtin .elt | .builtin .assertType | .builtin (.operationOf ..) => return true
  | member =>
    match ← cell? member with
    | some (.function _) => return true
    | _ => return false

/-- **Calls a member of the class of a value** on the value. -/
def callMember (v member : Value) (args : List Value) : Run Value := do
  if ← takesInstance member then invoke member (v :: args)
  else
    match ← cell? member with
    | some (.staticMethod f) => invoke f args
    | some (.classMethod f) => invoke f (.cls ((← read).typeOf v) :: args)
    | _ =>
      match member with
      | .none => throw .wrongType
      | member => invoke member args

/-- Calls a member of the class of a value by its name, if there is one. -/
def callSpecial? (v : Value) (name : String) (args : List Value) : Run (Option Value) := do
  match (← read).special? v name with
  | some member => return some (← callMember v member args)
  | none => return none

/-- The value of an operation, unless it is not defined on its operands. -/
def defined? (v : Value) : Option Value :=
  match v with
  | .notImplemented => none
  | v => some v

/-! ## Positions and sizes -/

/-- The integer that a value is in place of a position, for values of the language. -/
def plainIndex? (σ : Store) (v : Value) : Option Int :=
  match v with
  | .machineInt i _ => some i
  | v => σ.wholeNumber? v

/-- **The position that a value stands for**, if it stands for one. -/
def index? (v : Value) : Run (Option Int) := do
  let σ ← read
  match plainIndex? σ v with
  | some i => return some i
  | none =>
    match ← callSpecial? v "__index__" [] with
    | none => return none
    | some w =>
      match (← read).wholeNumber? w with
      | some i => return some i
      | none => throw .wrongType

/-- The position that a value stands for. -/
def index (v : Value) : Run Int := do
  match ← index? v with
  | some i => return i
  | none => throw .wrongType

/-- The position that a value stands for, as a word. -/
def wordIndex (v : Value) (beyond : Failure) : Run Int := do
  let i ← index v
  if Word.fits 63 i then return i else throw beyond

/-- **A count or a position that a value stands for**, which has to be a word. -/
def word (v : Value) : Run Int := wordIndex v .tooLarge

/-- A number that a value stands for, which has to be a word of half the size. -/
def shortWord (v : Value) : Run Int := do
  let i ← index v
  if Word.fits 31 i then return i else throw .tooLarge

/-- **How many items a value has**, as a word. -/
def length (v : Value) : Run Nat := do
  match ← callSpecial? v "__len__" [] with
  | some w => do
    let n ← word w
    if n < 0 then throw .badValue else return n.toNat
  | none =>
    match (← read).size? v with
    | some n => if Word.fits 63 n then return n else throw .tooLarge
    | none => throw .wrongType

/-! ## Truth -/

/-- Whether a value of the language counts as true. -/
def plainTruth (σ : Store) (v : Value) : Except Failure Bool :=
  match σ.content v with
  | .none => .ok false
  | v =>
    match σ.number? v, σ.vector? v with
    | some n, _ => .ok (!n.isZero)
    | none, some a =>
      match a.items with
      | [x] => .ok ((σ.number? x).any fun n => !n.isZero)
      | _ => .error .badValue
    | none, none =>
      match σ.size? v with
      | some n => .ok (n != 0)
      | none => .ok true

/-- **Whether a value counts as true.** -/
def isTrue (v : Value) : Run Bool := do
  match ← callSpecial? v "__bool__" [] with
  | some (.bool b) => return b
  | some _ => throw .wrongType
  | none =>
    if ((← read).special? v "__len__").isSome then return (← length v) != 0
    else question fun σ => plainTruth σ v

end Run

end Narrowing
