import Narrowing.Value.Compare
/-!
# Hashes

The number by which a value is found among keys. Equal values have equal hashes: that of a
number is its residue modulo a prime, whichever kind it is of, where a quotient is the
residue of its numerator by the inverse of that of its denominator. The hash of a tuple
mixes those of its items in order, and that of a frozen set those of its items in any
order. No hash is `-1`.

What is only equal to itself has a hash that tells it apart.
-/

namespace Narrowing

namespace Hash

/-- The prime that numbers are taken modulo. -/
def prime : Nat := Nat.pow 2 61 - 1

/-- The hash of what is infinite. -/
def infinite : Nat := 314159

/-- The hash of the null value. -/
def null : Int := 612812

/-- How many words there are. -/
def wordCount : Nat := Nat.pow 2 64

/-- The word that a number is modulo all words. -/
def word (i : Int) : Nat := (i % wordCount).toNat

/-- The hash that a word is: with a sign, and never `-1`. -/
def ofWord (n : Nat) : Int :=
  let i := Word.wrap 63 n
  if i = -1 then -2 else i

/-- A residue with a sign as a hash. -/
def signed (isNegative : Bool) (residue : Nat) : Int :=
  let i : Int := if isNegative then -(residue : Int) else residue
  if i = -1 then -2 else i

/-- **The hash of an integer.** -/
def ofInt (i : Int) : Int := signed (i < 0) (i.natAbs % prime)

/-- **The hash of a double**, whose denominator is a power of two; two to the sixty-first is
one modulo the prime. -/
def ofFloat (x : Float) : Int :=
  match Decimal.fraction? x with
  | none => signed (isNegative x) infinite
  | some (num, den) =>
    let shift := (61 - den.log2 % 61) % 61
    signed (num < 0) (num.natAbs * Nat.pow 2 shift % prime)

/-- What the imaginary part is multiplied by. -/
def imaginaryFactor : Nat := 1000003

/-- **The hash of a complex number.** -/
def ofComplex (re im : Float) : Int :=
  ofWord ((word (ofFloat re) + imaginaryFactor * word (ofFloat im)) % wordCount)

/-- A word turned to the left by some bits. -/
def turned (n bits : Nat) : Nat :=
  (n * Nat.pow 2 bits + n / Nat.pow 2 (64 - bits)) % wordCount

/-- The primes that the hash of a tuple is mixed with. -/
def tuplePrimes : Nat × Nat × Nat :=
  (11400714785074694791, 14029467366897019727, 2870177450012600261)

/-- **The hash of a tuple** from those of its items. -/
def ofItems (hashes : List Int) : Int :=
  let (p, q, r) := tuplePrimes
  let mixed := hashes.foldl
    (fun acc h => turned ((acc + word h * q) % wordCount) 31 * p % wordCount) r
  let n := (mixed + (hashes.length ^^^ (r ^^^ 3527539))) % wordCount
  if n = wordCount - 1 then 1546275796 else Word.wrap 63 n

/-- The bits of the hash of an item of a set, mixed. -/
def shuffled (n : Nat) : Nat :=
  ((n ^^^ 89869747) ^^^ (n * 65536 % wordCount)) * 3644798167 % wordCount

/-- **The hash of a frozen set** from those of its items. -/
def ofSet (hashes : List Int) : Int :=
  let n := hashes.foldl (fun acc h => acc ^^^ shuffled (word h)) 0
  let n := n ^^^ ((hashes.length + 1) * 1927868237 % wordCount)
  let n := n ^^^ (n >>> 11) ^^^ (n >>> 25)
  let n := (n * 69069 + 907133923) % wordCount
  if n = wordCount - 1 then 590923713 else Word.wrap 63 n

/-- The hash of a text or of a byte string, from its numbers. -/
def ofNumbers (ns : List Nat) : Int :=
  ofWord (ns.foldl (fun acc n => (acc * imaginaryFactor + n + 1) % wordCount) 0)

/-- **The hash of a range**: that of its size, its first number and its step, as far as they
tell it apart. -/
def ofRange (start stop step : Int) : Int :=
  let size := rangeSize start stop step
  ofItems [ofInt size, if size = 0 then null else ofInt start, if size ≤ 1 then null else ofInt step]

end Hash

namespace Run

/-- The hash that a class says of its object: an integer, which is reduced if it is no
word. -/
def ownHash (w : Value) : Run Int := do
  match (← read).wholeNumber? w with
  | some i => return if Word.fits 63 i then (if i = -1 then -2 else i) else Hash.ofInt i
  | none => throw .wrongType

/-- The hash of a value that has no items. -/
def atomHash (σ : Store) (v : Value) : Int :=
  match v, σ.number? v with
  | .none, _ => Hash.null
  | .float x tag, _ | .machineFloat x tag, _ =>
    if x.isNaN then Hash.ofInt (tag * 16) else Hash.ofFloat x
  | _, some (.int i) => Hash.ofInt i
  | _, some (.complex re im) => Hash.ofComplex re im
  | .str s _, _ => Hash.ofNumbers (s.toList.map Char.toNat)
  | .bytes bs _, _ => Hash.ofNumbers bs
  | .range start stop step _, _ => Hash.ofRange start stop step
  | .cls t, _ => Hash.ofNumbers ((σ.classText t).toList.map Char.toNat)
  | .ref r, _ => Hash.ofInt (16 * (r.index + 65536))
  | v, _ => Hash.ofNumbers ((σ.typeName v).toList.map Char.toNat)

/-- The hash of a value, where values nest at most so deep. -/
def hashWithin : Nat → Value → Run Int
  | 0, _ => throw .tooDeep
  | depth + 1, v => do
    match ← callSpecial? v "__hash__" [] with
    | some w => ownHash w
    | none =>
      let σ ← read
      match σ.content v with
      | .tuple items _ => return Hash.ofItems (← items.mapM (hashWithin depth))
      | .frozenset items .. => return Hash.ofSet (← items.mapM (hashWithin depth))
      | c =>
        match σ.cell? c with
        | some (.bound f self) =>
          return Hash.ofItems [← hashWithin depth f, ← hashWithin depth self]
        | _ =>
          if σ.isSubclass (σ.typeOf v) (.standard .hashable) then return atomHash σ c
          else throw .wrongType

/-- **The hash of a value**, if it can be a key. -/
def hash (v : Value) : Run Int := hashWithin greatestDepth v

end Run

end Narrowing
