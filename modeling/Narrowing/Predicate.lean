import Narrowing.Word
/-!
# Named predicates

The predicates a declared hierarchy may use as runtime tests.
-/

namespace Narrowing

/-- **A named predicate on values.** -/
inductive Predicate where
  /-- An integer, and no truth value, that is even. -/
  | even
  /-- An integer, and no truth value, that is odd. -/
  | odd
  /-- An integer or truth value in the small range. -/
  | fixnum
  /-- An integer or truth value outside the small range. -/
  | bignum
  /-- A sized value without elements. -/
  | empty
  /-- Every value. -/
  | always
  /-- No value. -/
  | never
  /-- Fails on every value. -/
  | boom
deriving DecidableEq

namespace Predicate

/-- The predicate of a name. -/
def ofName? : String → Option Predicate
  | "even" => some even
  | "odd" => some odd
  | "fixnum" => some fixnum
  | "bignum" => some bignum
  | "empty" => some empty
  | "always" => some always
  | "never" => some never
  | "boom" => some boom
  | _ => none

/-- **The small range of integers**: those of 63 bits with a sign. -/
def isFixnum (i : Int) : Bool :=
  Word.fits 62 i

end Predicate

end Narrowing
