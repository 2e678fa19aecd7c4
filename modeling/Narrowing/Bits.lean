/-!
# Bits of integers

Integers as bit strings without end: a nonnegative one goes on in zeros, and a
negative one, which is the complement of a nonnegative one, in ones.
-/

namespace Narrowing.Bits

/-- The bits of the first that the second lacks. -/
def without (m n : Nat) : Nat := Nat.xor m (Nat.land m n)

/-- **The bits that both integers have.** -/
def and : Int → Int → Int
  | .ofNat m, .ofNat n => .ofNat (Nat.land m n)
  | .ofNat m, .negSucc n => .ofNat (without m n)
  | .negSucc m, .ofNat n => .ofNat (without n m)
  | .negSucc m, .negSucc n => .negSucc (Nat.lor m n)

/-- **The bits that either integer has.** -/
def or : Int → Int → Int
  | .ofNat m, .ofNat n => .ofNat (Nat.lor m n)
  | .ofNat m, .negSucc n => .negSucc (without n m)
  | .negSucc m, .ofNat n => .negSucc (without m n)
  | .negSucc m, .negSucc n => .negSucc (Nat.land m n)

/-- **The bits that one of two integers has.** -/
def xor : Int → Int → Int
  | .ofNat m, .ofNat n => .ofNat (Nat.xor m n)
  | .ofNat m, .negSucc n => .negSucc (Nat.xor m n)
  | .negSucc m, .ofNat n => .negSucc (Nat.xor m n)
  | .negSucc m, .negSucc n => .ofNat (Nat.xor m n)

/-- The complement of an integer. -/
def not : Int → Int
  | .ofNat m => .negSucc m
  | .negSucc m => .ofNat m

end Narrowing.Bits
