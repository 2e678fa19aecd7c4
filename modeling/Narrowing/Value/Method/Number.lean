import Narrowing.Value.Hexadecimal
import Narrowing.Value.Method.Sequence
/-!
# Attributes and methods of numbers

Every number has a real and an imaginary part, and a rational one a numerator and a
denominator. Integers can be written as bytes and read from them, and doubles as hexadecimal
fractions.
-/

namespace Narrowing.Run

/-! ## Numbers -/

/-- **An attribute of a number**, for those that are no methods. -/
def numberAttribute (v : Value) (n : Number) (name : String) : Option Value :=
  match name, v, n with
  | "real", .bool b, _ => some (.ofInt (if b then 1 else 0))
  | "real", .complex re _ _, _ => some (.ofFloat re)
  | "real", v, _ => some v
  | "imag", .complex _ im _, _ => some (.ofFloat im)
  | "imag", .float .., _ => some (.ofFloat 0.0)
  | "imag", .machineFloat .., _ => some (.ofMachineFloat 0.0)
  | "imag", .machineInt .., _ => some (.ofMachineInt 0)
  | "imag", .machineBool _, _ => some (.machineBool false)
  | "imag", _, _ => some (.ofInt 0)
  | "numerator", .machineBool _, _ | "denominator", .machineBool _, _ => none
  | "numerator", .bool b, _ => some (.ofInt (if b then 1 else 0))
  | "numerator", v, .int _ => some v
  | "denominator", .machineInt .., _ => some (.ofInt 1)
  | "denominator", _, .int _ => some (.ofInt 1)
  | _, _, _ => none

/-- A fraction in lowest terms as a tuple. -/
def ratioOf (num : Int) (den : Nat) : Value :=
  let g := Nat.gcd num.natAbs den
  if g = 0 then .ofTuple [.ofInt num, .ofInt den]
  else .ofTuple [.ofInt (num / g), .ofInt ((den / g : Nat) : Int)]

/-- The bits of a nonnegative integer. -/
def bitsOf : Nat → Nat → List Bool
  | 0, _ => []
  | steps + 1, n => if n = 0 then [] else (n % 2 = 1) :: bitsOf steps (n / 2)

/-- The bytes of an integer, the least first. -/
def integerBytes (i : Int) (count : Nat) (hasSign : Bool) : Run (List Nat) :=
  let fits :=
    if hasSign then
      count > 0 && Word.fits (8 * count - 1) i || (count = 0 && i = 0)
    else 0 ≤ i && i < Word.count (8 * count)
  if fits then return Store.wordBytes i count else throw .tooLarge

/-- Whether an order of bytes begins with the least. -/
def isLittle (order : Option Value) : Run Bool := do
  match order with
  | none => return false
  | some v =>
    match (← read).text? v with
    | some "little" => return true
    | some "big" => return false
    | some _ => throw .badValue
    | none => throw .wrongType

/-- The integer that a double is rounded down to. -/
def floorOf (x : Float) : Run Int :=
  match Decimal.fraction? x with
  | some (num, den) => return num.fdiv den
  | none => throw (if x.isNaN then .badValue else .tooLarge)

/-- The bytes that a value stands for where no size and no text is meant. -/
def bytesOf (v : Value) : Run (List Nat) := do
  match ← callSpecial? v "__bytes__" [], (← read).text? v with
  | some w, _ =>
    match (← read).bytes? w with
    | some bs => return bs
    | none => throw .wrongType
  | none, some _ => throw .wrongType
  | none, none =>
    match (← read).memory? v with
    | some bs => return bs
    | none => do (← items v).mapM byteOf

/-- **The integer that bytes are**, in an order and with a sign or not. -/
def integerFromBytes (args : List Value) (keywords : List (String × Value)) : Run Value := do
  if args.length > 2 then throw .wrongType
  match ← byParameter ["bytes", "byteorder", "signed"] args keywords with
  | [some v, order, sign] => do
    let isLeastFirst ← isLittle order
    let hasSign ←
      match sign with
      | some s => isTrue s
      | none => pure false
    let bs ← bytesOf v
    let n := (if isLeastFirst then bs.reverse else bs).foldl (fun n b => 256 * n + b) 0
    let isBelow := hasSign && n ≥ Nat.pow 2 (8 * bs.length - 1) && !bs.isEmpty
    return .ofInt (if isBelow then (n : Int) - Nat.pow 2 (8 * bs.length) else n)
  | _ => throw .wrongType

/-- **The double that a text is as a hexadecimal fraction.** -/
def doubleFromHex (v : Value) : Run Value := do
  match (← read).text? v with
  | none => throw .wrongType
  | some s =>
    match Hexadecimal.read s with
    | .double x => return .ofFloat x
    | .tooLarge => throw .tooLarge
    | .malformed => throw .badValue

/-- **A method of a number.** -/
def numberMethod (v : Value) (n : Number) (name : String) (args : List Value)
    (keywords : List (String × Value)) : Run Value := do
  match name, args, n with
  | "conjugate", [], .complex re im => return .ofComplex re (-im)
  | "conjugate", [], _ =>
    match v with
    | .bool b => return .ofInt (if b then 1 else 0)
    | v => return v
  | "bit_length", [], .int i => return .ofInt (if i = 0 then 0 else i.natAbs.log2 + 1)
  | "bit_count", [], .int i =>
    return .ofInt ((bitsOf (i.natAbs.log2 + 1) i.natAbs).filter id).length
  | "as_integer_ratio", [], .int _ => return .ofTuple [(numberAttribute v n "numerator").getD v, .ofInt 1]
  | "as_integer_ratio", [], .float x =>
    match Decimal.fraction? x with
    | some (num, den) => return ratioOf num den
    | none => throw (if x.isNaN then .badValue else .tooLarge)
  | "hex", [], .float x => return .ofText (Hexadecimal.ofDouble x)
  | "is_integer", [], .float x =>
    return .bool ((Decimal.fraction? x).any fun (num, den) => num % (den : Int) = 0)
  | "is_integer", [], .int _ => return .bool true
  | "to_bytes", args, .int i => do
    if args.length > 2 then throw .wrongType
    match ← byParameter ["length", "byteorder", "signed"] args keywords with
    | [count, order, sign] => do
      let count ←
        match count with
        | some c => word c
        | none => pure 1
      let isLeastFirst ← isLittle order
      let hasSign ←
        match sign with
        | some s => isTrue s
        | none => pure false
      if count < 0 then throw .badValue
      if count > room then throw .outOfRoom
      let bs ← integerBytes i count.toNat hasSign
      return .ofByteList (if isLeastFirst then bs else bs.reverse)
    | _ => throw .wrongType
  | _, _, _ => throw .wrongType

end Narrowing.Run
