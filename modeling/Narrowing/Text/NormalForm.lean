import Narrowing.Text.Decomposition
/-!
# Normal forms of names

Two names that differ only in how their characters are composed, or in variants
of a character that are kept for compatibility, are one name. The normal form
that they share decomposes every character, puts marks on one character in the
order of their combining classes, and composes again what has a composition.

A syllable of Hangul is composed by arithmetic of two or three parts.
-/

namespace Narrowing.Text

/-! ## Hangul -/

/-- The first syllable, leading part, vowel and trailing part; the last is one
before the first trailing part there is. -/
def hangulBases : Nat × Nat × Nat × Nat := (0xAC00, 0x1100, 0x1161, 0x11A7)

/-- How many leading parts, vowels and trailing parts there are; the lack of a
trailing part counts as one. -/
def hangulCounts : Nat × Nat × Nat := (19, 21, 28)

/-- The parts of a syllable. -/
def hangulParts (c : Nat) : Option (List Nat) :=
  let (s, l, v, t) := hangulBases
  let (ls, vs, ts) := hangulCounts
  if c < s || s + ls * vs * ts ≤ c then none
  else
    let i := c - s
    let parts := [l + i / (vs * ts), v + i % (vs * ts) / ts]
    some (if i % ts = 0 then parts else parts ++ [t + i % ts])

/-- The syllable of two parts, or of a syllable and a trailing part. -/
def hangulCompose (a b : Nat) : Option Nat :=
  let (s, l, v, t) := hangulBases
  let (ls, vs, ts) := hangulCounts
  if l ≤ a && a < l + ls && v ≤ b && b < v + vs then some (s + ((a - l) * vs + (b - v)) * ts)
  else if s ≤ a && a < s + ls * vs * ts && (a - s) % ts = 0 && t < b && b < t + ts then
    some (a + (b - t))
  else none

/-! ## The steps -/

/-- The code points that one decomposes to. -/
def decomposed (c : Nat) : List Nat :=
  match hangulParts c with
  | some parts => parts
  | none => (decompositions[c]?).getD [c]

/-- The combining class of a code point; zero opens a new character. -/
def combiningClass (c : Nat) : Nat := (combiningClasses[c]?).getD 0

/-- Puts a mark in front of the marks that follow it at once with a smaller class,
in reverse: the last comes first. -/
def insertMark (c : Nat) : List Nat → List Nat
  | [] => [c]
  | d :: ds =>
    if combiningClass c ≠ 0 && combiningClass c < combiningClass d then d :: insertMark c ds
    else c :: d :: ds

/-- **The marks of each character in the order of their classes.** -/
def orderMarks (cs : List Nat) : List Nat :=
  (cs.foldl (fun before c => insertMark c before) []).reverse

/-- The composition of two code points. -/
def composition? (a b : Nat) : Option Nat :=
  (hangulCompose a b).or (compositions[(a, b)]?)

/-- **What is composed so far**: finished code points in reverse, the character
that still takes marks, and the marks it did not take, in reverse. -/
structure Composing where
  /-- The finished code points. -/
  before : List Nat := []
  /-- The open character. -/
  starter : Option Nat := none
  /-- The marks after it. -/
  marks : List Nat := []

/-- Takes the next code point. A mark is blocked by one of its own class or a
greater one that stands between. -/
def Composing.take (s : Composing) (c : Nat) : Composing :=
  let blocked := s.marks.head?.any fun m => combiningClass c ≤ combiningClass m
  let joined := if blocked then none else s.starter.bind fun a => composition? a c
  match joined with
  | some a => { s with starter := some a }
  | none =>
    if combiningClass c = 0 then
      { before := s.marks ++ s.starter.toList ++ s.before, starter := some c }
    else
      match s.starter with
      | some _ => { s with marks := c :: s.marks }
      | none => { s with before := c :: s.before }

/-- Composes a list of code points. -/
def composed (cs : List Nat) : List Nat :=
  let s := cs.foldl Composing.take {}
  (s.marks ++ s.starter.toList ++ s.before).reverse

/-- **The normal form of a name.** -/
def normalForm (s : String) : String :=
  if s.toList.all fun c => c.toNat < 128 then s
  else
    let points := s.toList.flatMap fun c => decomposed c.toNat
    String.ofList ((composed (orderMarks points)).map Char.ofNat)

end Narrowing.Text
