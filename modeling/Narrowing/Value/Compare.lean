import Narrowing.Value.Kind
import Narrowing.Value.Member
/-!
# Comparing values

Each of two values that are compared may say what the comparison gives; the left one is
asked first, unless the class of the right one is derived from its class. Where neither
says anything, values are equal only to themselves, and have no order.

Numbers are equal across their kinds, sequences of one kind item by item, sets by their
items in any order. Order is defined between real numbers, texts, byte strings, and
sequences of one kind, where the first items that differ decide; sets are ordered by
inclusion. Inside containers a value is always equal to itself.

Machine numbers and their arrays are compared number by number.
-/

namespace Narrowing

open Code

/-- The kinds of sequences that are compared item by item. -/
inductive SequenceKind where
  | tuple | list | deque | array
deriving DecidableEq

namespace Store

/-- The items of a value that is compared item by item, and its kind. -/
def sequence? (σ : Store) (v : Value) : Option (SequenceKind × List Value) :=
  match v with
  | .tuple items _ => some (.tuple, items)
  | v =>
    match σ.cell? v with
    | some (.list items) | some (.userList items) => some (.list, items)
    | some (.deque items _) => some (.deque, items)
    | some (.array _ items) => some (.array, items)
    | _ => none

/-- The items of a set, and whether it is what a dictionary shows. -/
def set? (σ : Store) (v : Value) : Option (List Value × Bool) :=
  match σ.content v with
  | .frozenset items .. => some (items, false)
  | v =>
    match σ.cell? v with
    | some (.set s) => some (s.items, false)
    | some (.view .values _) => none
    | some (.view kind d) => (σ.entries? d).map fun entries => (viewItems kind entries, true)
    | _ => none

/-- The set that a value is, with its slots. -/
def slotted? (σ : Store) (v : Value) : Option (Slotted Value) :=
  match σ.content v with
  | .frozenset items slots _ => some ⟨items, slots⟩
  | v =>
    match σ.cell? v with
    | some (.set s) => some s
    | _ => none

/-- The bytes of so many bits, from the least on. -/
def wordBytes (i : Int) : Nat → List Nat
  | 0 => []
  | n + 1 => (i.fmod 256).toNat :: wordBytes (i.fdiv 256) n

/-- The bytes of each item of an array of a type code. -/
def itemBytes (code : String) : Nat :=
  match code with
  | "b" | "B" => 1
  | "h" | "H" => 2
  | "i" | "I" | "f" | "u" => 4
  | _ => 8

/-- The bytes of a number in memory. -/
def numberBytes (size : Nat) (v : Value) : List Nat :=
  match v with
  | .int i _ | .machineInt i _ => wordBytes i size
  | .float x _ | .machineFloat x _ =>
    wordBytes (if size = 4 then x.toFloat32.toBits.toNat else x.toBits.toNat) size
  | .str s _ => wordBytes ((s.toList.head?.map fun c => (c.toNat : Int)).getD 0) size
  | .machineBool b => [if b then 1 else 0]
  | _ => []

/-- The bytes that a value holds in memory, if others may look at them. -/
def memory? (σ : Store) (v : Value) : Option (List Nat) :=
  match σ.bytes? v, σ.cell? (σ.content v) with
  | some bs, _ => some bs
  | none, some (.array code items) => some (items.flatMap (numberBytes (itemBytes code)))
  | none, some (.vector _ _ items) => some (items.flatMap (numberBytes 8))
  | none, _ => none

end Store

/-- The order of two lists of numbers. -/
def numberOrder : List Nat → List Nat → Ordering
  | [], [] => .eq
  | [], _ :: _ => .lt
  | _ :: _, [] => .gt
  | m :: ms, n :: ns => if m < n then .lt else if n < m then .gt else numberOrder ms ns

/-- The order of two texts by their characters. -/
def textOrder (s t : String) : Ordering :=
  numberOrder (s.toList.map Char.toNat) (t.toList.map Char.toNat)

/-- The comparison with its operands exchanged. -/
def exchanged : CompareOp → CompareOp
  | .lt => .gt
  | .ltE => .gtE
  | .gt => .lt
  | .gtE => .ltE
  | op => op

/-- The name of the member that says what a comparison gives. -/
def memberOfComparison : CompareOp → String
  | .eq => "__eq__"
  | .notEq => "__ne__"
  | .lt => "__lt__"
  | .ltE => "__le__"
  | .gt => "__gt__"
  | _ => "__ge__"

/-- Whether a comparison asks for equality alone. -/
def isEquality : CompareOp → Bool
  | .eq | .notEq => true
  | _ => false

namespace Run

/-- A way to compare what is inside of two values. -/
abbrev Comparer := CompareOp → Value → Value → Run Value

/-- **Whether two values are one or equal.** -/
def same (compare : Comparer) (v w : Value) : Run Bool := do
  if v.identical w then return true else isTrue (← compare .eq v w)

/-- The first items of two lists that differ, with what is left of both. -/
def firstDifference (compare : Comparer) : List Value → List Value → Run (List Value × List Value)
  | v :: vs, w :: ws => do
    if ← same compare v w then firstDifference compare vs ws else return (v :: vs, w :: ws)
  | vs, ws => return (vs, ws)

/-- **Two lists item by item.** -/
def compareItems (compare : Comparer) (op : CompareOp) (vs ws : List Value) : Run Value := do
  if isEquality op && vs.length ≠ ws.length then return .bool (op = .notEq)
  match ← firstDifference compare vs ws with
  | (v :: _, w :: _) =>
    match op with
    | .eq => return .bool false
    | .notEq => return .bool true
    | op => compare op v w
  | (vs, ws) => return .bool (acceptsOrder op (some (Ord.compare vs.length ws.length)))

/-- Whether a value is among some. -/
def isAmong (compare : Comparer) (v : Value) : List Value → Run Bool
  | [] => return false
  | w :: ws => do if ← same compare w v then return true else isAmong compare v ws

/-- Whether all of some values are among others. -/
def areAmong (compare : Comparer) (ws : List Value) : List Value → Run Bool
  | [] => return true
  | v :: vs => do if ← isAmong compare v ws then areAmong compare ws vs else return false

/-- **Two sets by inclusion.** -/
def compareSets (compare : Comparer) (op : CompareOp) (vs ws : List Value) : Run Bool := do
  let below (xs ys : List Value) : Run Bool := do
    if xs.length ≤ ys.length then areAmong compare ys xs else return false
  match op with
  | .eq => if vs.length = ws.length then below vs ws else return false
  | .notEq => if vs.length = ws.length then return !(← below vs ws) else return true
  | .lt => if vs.length < ws.length then below vs ws else return false
  | .ltE => below vs ws
  | .gt => if ws.length < vs.length then below ws vs else return false
  | _ => below ws vs

/-- The value of a key among entries, if it is there. -/
def entryOf? (compare : Comparer) (key : Value) : List (Value × Value) → Run (Option Value)
  | [] => return none
  | (k, v) :: rest => do if ← same compare k key then return some v else entryOf? compare key rest

/-- Whether all of some entries are among others. -/
def entriesAmong (compare : Comparer) (others : List (Value × Value)) :
    List (Value × Value) → Run Bool
  | [] => return true
  | (k, v) :: rest => do
    match ← entryOf? compare k others with
    | some w => if ← same compare v w then entriesAmong compare others rest else return false
    | none => return false

/-- What a comparison gives for an order that there is. -/
def judged (op : CompareOp) (o : Option Ordering) : Run (Option Value) :=
  return some (.bool (acceptsOrder op o))

/-- What a comparison gives that asks for equality alone, if it does. -/
def judgedEqual (op : CompareOp) (holds : Run Bool) : Run (Option Value) := do
  match op with
  | .eq => return some (.bool (← holds))
  | .notEq => return some (.bool !(← holds))
  | _ => return none

/-- What two numbers of the language give. -/
def numbersAnswer (op : CompareOp) (m n : Number) : Run (Option Value) := do
  if m.isReal && n.isReal then judged op (m.order n)
  else if isEquality op then judgedEqual op (return m.equal n)
  else return none

/-- The content of a range as it is compared: its size, and what is left to say of
it. -/
def rangeKey (start stop step : Int) : Nat × Option Int × Option Int :=
  let size := rangeSize start stop step
  (size, if size = 0 then none else some start, if size ≤ 1 then none else some step)

/-- What a list in an object says of a comparison: it compares its items with those of
another list, and as a list with anything else. -/
def listObjectAnswer (compare : Comparer) (op : CompareOp) (items : List Value) (w : Value) :
    Run (Option Value) := do
  let σ ← read
  match σ.cell? (σ.content w) with
  | some (.userList others) | some (.list others) =>
    return some (← compareItems compare op items others)
  | _ => return some (← compare op (← alloc (.list items)) w)

/-- **What a value of the language says of a comparison** with another, if it says
anything. -/
def plainAnswer (compare : Comparer) (op : CompareOp) (v w : Value) : Run (Option Value) := do
  let σ ← read
  let v := σ.content v
  let u := σ.content w
  if σ.isMachine v then
    match v.isMachine, u, op with
    | true, .none, .eq => return some (.bool false)
    | true, .none, .notEq => return some (.bool true)
    | _, _, _ => return some (← ofArray (← ofExcept (σ.vectorComparison op v u)))
  match v, σ.number? v, σ.number? u with
  | .complex .., some m, some n =>
    if u.isMachine && !(σ.derives (σ.typeOf u) (.standard .float)) then return none
    else numbersAnswer op m n
  | _, some m, some n => if u.isMachine then return none else numbersAnswer op m n
  | _, some _, none => return none
  | v, none, _ =>
    match v, u with
    | .str s _, .str t _ => judged op (some (textOrder s t))
    | .bytes bs _, .bytes cs _ => judged op (some (numberOrder bs cs))
    | .range a b c _, .range d e f _ => judgedEqual op (return rangeKey a b c == rangeKey d e f)
    | .slice a b c _, .slice d e f _ => return some (← compareItems compare op [a, b, c] [d, e, f])
    | .kind k, u =>
      match MachineKind.described σ u with
      | .ok l => judgedEqual op (return k == l)
      | .error _ => return none
    | .anyOf ts, .anyOf us =>
      judgedEqual op (return ts.all us.contains && us.all ts.contains)
    | _, _ =>
      match σ.cell? v, σ.cell? u with
      | some (.userList items), _ => listObjectAnswer compare op items w
      | some (.bytearray bs), _ =>
        match σ.memory? u with
        | some cs => judged op (some (numberOrder bs cs))
        | none => return none
      | some (.dict xs), some (.dict ys) =>
        judgedEqual op do
          if xs.length = ys.length then entriesAmong compare ys xs else return false
      | some (.bound f x), some (.bound g y) =>
        judgedEqual op (return f.identical g && x.identical y)
      | some (.method f x), some (.method g y) =>
        judgedEqual op (return f == g && x.identical y)
      | c, d =>
        match σ.sequence? v, σ.sequence? u, d with
        | some (.list, _), some (.list, _), some (.userList _) => return none
        | some (k, xs), some (l, ys), _ =>
          if k = l then return some (← compareItems compare op xs ys) else return none
        | _, _, _ =>
          match σ.set? v, σ.set? u, c with
          | some (_, false), some (_, true), _ => return none
          | some (xs, _), some (ys, _), _ => return some (.bool (← compareSets compare op xs ys))
          | _, _, _ => return none

/-- **What a value says of a comparison** with another, if it says anything. -/
def answer (compare : Comparer) (op : CompareOp) (v w : Value) : Run (Option Value) := do
  let σ ← read
  match σ.special? v (memberOfComparison op) with
  | some .none => return none
  | some member => return defined? (← callMember v member [w])
  | none =>
    match op, (σ.content v).identical v, σ.special? v "__eq__" with
    | .notEq, true, some member => do
      match defined? (← callMember v member [w]) with
      | some r => return some (.bool !(← isTrue r))
      | none => return none
    | _, _, _ => plainAnswer compare op v w

/-- Whether the class of the right operand of an operation is derived from that of the
left one. -/
def isRightFirst (v w : Value) : Run Bool := do
  let σ ← read
  let t := σ.typeOf v
  let u := σ.typeOf w
  return t ≠ u && σ.derives u t && u ≠ .standard .object

/-- A comparison, where what is inside of the values is compared in a given way. -/
def compareBy (compare : Comparer) (op : CompareOp) (v w : Value) : Run Value := do
  let left := answer compare op v w
  let right := answer compare (exchanged op) w v
  let (first, second) := if ← isRightFirst v w then (right, left) else (left, right)
  match ← first with
  | some r => return r
  | none =>
    match ← second with
    | some r => return r
    | none =>
      match op with
      | .eq => return .bool (v.identical w)
      | .notEq => return .bool !(v.identical w)
      | _ => throw .wrongType

/-- A comparison of values that nest at most so deep. -/
def compareWithin : Nat → CompareOp → Value → Value → Run Value
  | 0, _, _, _ => throw .tooDeep
  | depth + 1, op, v, w => compareBy (compareWithin depth) op v w

/-- How deep values may nest that are compared or written. -/
def greatestDepth : Nat := 960

/-- **A comparison** by equality or order. -/
def compare (op : CompareOp) (v w : Value) : Run Value := compareWithin greatestDepth op v w

/-- **Whether two values are one or equal.** -/
def isSame (v w : Value) : Run Bool := same compare v w

/-- Whether a value comes before another. -/
def isLess (v w : Value) : Run Bool := do isTrue (← compare .lt v w)

/-! ## Keys -/

/-- Whether a value is among some. -/
def among (v : Value) (items : List Value) : Run Bool := isAmong compare v items

end Run

end Narrowing
