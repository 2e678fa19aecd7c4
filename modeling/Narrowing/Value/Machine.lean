import Narrowing.Arithmetic
import Narrowing.Value.Items
/-!
# Machine numbers

Numbers of a machine: truth values, words of 64 bits with a sign, doubles, and pairs of
doubles. Sums, differences and products of words wrap around, and nothing fails for a
division by zero: a quotient of words is a double, a whole quotient of words by zero is
zero. An operand that is no machine number takes the kind of its own, and an integer
has to fit a word where it becomes one.
-/

namespace Narrowing

open Code

/-- The number that a value is, if it is one. -/
def Store.number? (σ : Store) (v : Value) : Option Number :=
  match σ.content v with
  | .int i _ | .machineInt i _ => some (.int i)
  | .bool b | .machineBool b => some (.int (if b then 1 else 0))
  | .float x _ | .machineFloat x _ => some (.float x)
  | .complex re im _ => some (.complex re im)
  | _ => none

namespace Value

/-- Whether a value is a machine number. -/
def isMachine : Value → Bool
  | machineInt .. | machineFloat .. | machineBool _ => true
  | _ => false

/-- Whether a value is a machine truth value. -/
def isMachineTruth : Value → Bool
  | machineBool _ => true
  | _ => false

end Value

namespace MachineKind

/-- The place of a kind among the kinds. -/
def rank : MachineKind → Nat
  | truth => 0
  | whole => 1
  | real => 2
  | complex => 3

/-- **The kind that two go together in.** -/
def join (k l : MachineKind) : MachineKind := if k.rank < l.rank then l else k

/-- The kind of a value that stands for a number. -/
def ofValue? : Value → Option MachineKind
  | .bool _ | .machineBool _ => some truth
  | .int .. | .machineInt .. => some whole
  | .float .. | .machineFloat .. => some real
  | .complex .. => some complex
  | _ => none

end MachineKind

namespace Number

/-- **The machine number of a kind** that a number is: a word only if it fits. -/
def machineValue (kind : MachineKind) (n : Number) : Except Failure Value :=
  match kind, n with
  | .truth, n => .ok (.machineBool !n.isZero)
  | .whole, .int i => if Word.fits 63 i then .ok (.ofMachineInt i) else .error .tooLarge
  | .whole, _ => .error .wrongType
  | .real, n =>
    match n.toFloat? with
    | some x => .ok (.ofMachineFloat x)
    | none => if n.isReal then .error .tooLarge else .error .wrongType
  | .complex, n =>
    match n.toComplex? with
    | some (re, im) => .ok (.ofComplex re im)
    | none => .error .tooLarge

end Number

/-- The word that an integer wraps around to. -/
def wrapped (i : Int) : Value := .ofMachineInt (Word.wrap 63 i)

/-- A power of words. -/
def wordPower (base : Int) : Nat → Nat → Int → Int
  | 0, _, r => r
  | steps + 1, n, r =>
    if n = 0 then r
    else wordPower (Word.wrap 63 (base * base)) steps (n / 2)
      (if n % 2 = 1 then Word.wrap 63 (r * base) else r)

/-- **Two words under an operator.** -/
def wordOperation (op : BinaryOp) (i j : Int) : Except Failure Value :=
  match op with
  | .add => .ok (wrapped (i + j))
  | .sub => .ok (wrapped (i - j))
  | .mult => .ok (wrapped (i * j))
  | .floorDiv => .ok (if j = 0 then .ofMachineInt 0 else wrapped (i.fdiv j))
  | .mod => .ok (if j = 0 then .ofMachineInt 0 else wrapped (i.fmod j))
  | .pow => if j < 0 then .error .badValue else .ok (.ofMachineInt (wordPower i 64 j.toNat 1))
  | .bitAnd => .ok (.ofMachineInt (Bits.and i j))
  | .bitOr => .ok (.ofMachineInt (Bits.or i j))
  | .bitXor => .ok (.ofMachineInt (Bits.xor i j))
  | .lShift =>
    .ok (if 0 ≤ j && j < 64 then wrapped (i * Nat.pow 2 j.toNat) else .ofMachineInt 0)
  | .rShift =>
    .ok (.ofMachineInt
      (if 0 ≤ j && j < 64 then i.fdiv (Nat.pow 2 j.toNat) else if i < 0 then -1 else 0))
  | _ => .error .wrongType

/-- **Two truth values under an operator**; most go on as words. -/
def truthOperation (op : BinaryOp) (a b : Bool) : Except Failure Value :=
  let word (b : Bool) : Int := if b then 1 else 0
  match op with
  | .add | .bitOr => .ok (.machineBool (a || b))
  | .mult | .bitAnd => .ok (.machineBool (a && b))
  | .bitXor => .ok (.machineBool (a != b))
  | .sub => .error .wrongType
  | op => wordOperation op (word a) (word b)

/-- **Two doubles under an operator.** -/
def doubleOperation (op : BinaryOp) (x y : Float) : Except Failure Value :=
  match op with
  | .add => .ok (.ofMachineFloat (x + y))
  | .sub => .ok (.ofMachineFloat (x - y))
  | .mult => .ok (.ofMachineFloat (x * y))
  | .div => .ok (.ofMachineFloat (x / y))
  | .floorDiv => .ok (.ofMachineFloat (if y == 0.0 then x / y else (divideDown x y).1))
  | .mod => .ok (.ofMachineFloat (if y == 0.0 then 0.0 / 0.0 else (divideDown x y).2))
  | .pow => .ok (.ofMachineFloat (x.pow y))
  | _ => .error .wrongType

/-- Two complex numbers under an operator. -/
def pairOperation (op : BinaryOp) (m n : Number) : Except Failure Value :=
  match Number.operate op m n with
  | .ok (.complex re im) => .ok (.ofComplex re im)
  | .ok _ => .error .wrongType
  | .error .divisionByZero => .ok (.ofComplex (0.0 / 0.0) (0.0 / 0.0))
  | .error f => .error f

/-- The kind in which an operator works on two kinds. -/
def operationKind (op : BinaryOp) (kind : MachineKind) : MachineKind :=
  match op with
  | .div => kind.join .real
  | _ => kind

/-- **Two numbers under an operator, as machine numbers of a kind.** -/
def machineOperation (op : BinaryOp) (kind : MachineKind) (m n : Number) : Except Failure Value := do
  match ← m.machineValue (operationKind op kind), ← n.machineValue (operationKind op kind) with
  | .machineBool a, .machineBool b => truthOperation op a b
  | .machineInt i _, .machineInt j _ => wordOperation op i j
  | .machineFloat x _, .machineFloat y _ => doubleOperation op x y
  | .complex a b _, .complex c d _ => pairOperation op (.complex a b) (.complex c d)
  | _, _ => throw .wrongType

/-- **A machine number under an operator on one operand.** -/
def machineUnary (op : UnaryOp) (v : Value) : Except Failure Value :=
  match op, v with
  | .uSub, .machineInt i _ => .ok (wrapped (-i))
  | .uSub, .machineFloat x _ => .ok (.ofMachineFloat (-x))
  | .uSub, .complex re im _ => .ok (.ofComplex (-re) (-im))
  | .uAdd, .machineBool _ => .error .noLoop
  | .uAdd, v => .ok (v.withTag .none)
  | .invert, .machineBool b => .ok (.machineBool !b)
  | .invert, .machineInt i _ => .ok (.ofMachineInt (Bits.not i))
  | _, _ => .error .wrongType

/-- The absolute value of a machine number. -/
def machineAbs (v : Value) : Except Failure Value :=
  match v with
  | .machineBool b => .ok (.machineBool b)
  | .machineInt i _ => .ok (wrapped i.natAbs)
  | .machineFloat x _ => .ok (.ofMachineFloat x.abs)
  | .complex re im _ => .ok (.ofMachineFloat (Number.length re im))
  | _ => .error .wrongType

/-- Whether an order is among those that a comparison accepts. -/
def acceptsOrder (op : CompareOp) (o : Option Ordering) : Bool :=
  match op, o with
  | .eq, o => o == some .eq
  | .notEq, o => o != some .eq
  | .lt, o => o == some .lt
  | .ltE, o => o == some .lt || o == some .eq
  | .gt, o => o == some .gt
  | .gtE, o => o == some .gt || o == some .eq
  | _, _ => false

/-- **A comparison of two numbers as machine numbers**: of two integers exactly, and
of doubles otherwise. Pairs are ordered by their first parts that differ. -/
def machineComparison (op : CompareOp) (m n : Number) : Bool :=
  let order : Option Ordering :=
    match m, n with
    | .int i, .int j => some (compare i j)
    | .complex .., _ | _, .complex .. =>
      match m.toComplex?, n.toComplex? with
      | some (a, b), some (c, d) =>
        if a == c then Number.order (.float b) (.float d) else Number.order (.float a) (.float c)
      | _, _ => none
    | m, n =>
      match m.toFloat?, n.toFloat? with
      | some x, some y => Number.order (.float x) (.float y)
      | _, _ => Number.order m n
  acceptsOrder op order

end Narrowing
