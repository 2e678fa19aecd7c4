import Narrowing.Text.CaseTable
import Narrowing.Text.Letter
/-!
# Case

Letters come small and great, and a few characters are a great letter joined with a small
one. Changing the case of a text may change how many characters it has. The small form
of the letter `Σ` is another one at the end of a word, so a change of case looks at a
character together with what stands before and after it.

A script has rules of case of its own: those of all letters, or those of the short
alphabet of bytes alone.
-/

namespace Narrowing.Text

/-- Whether a character is a small letter. -/
def isLower (c : Char) : Bool := inRanges lowercaseRanges c.toNat

/-- Whether a character is a great letter. -/
def isUpper (c : Char) : Bool := inRanges uppercaseRanges c.toNat

/-- Whether a character is a great letter joined with a small one. -/
def isTitle (c : Char) : Bool := inRanges titlecaseRanges c.toNat

/-- Whether a character has case. -/
def isCased (c : Char) : Bool := isLower c || isUpper c || isTitle c

/-- What a table of changes says of a character, if it says anything. -/
def changed? (runs : List (Nat × Nat × Nat × Int)) (special : List (Nat × List Nat)) (c : Char) :
    Option (List Char) :=
  let n := c.toNat
  match special.lookup n with
  | some ns => some (ns.map Char.ofNat)
  | none =>
    (runs.find? fun (first, count, step, _) =>
        first ≤ n && n < first + count * step && (n - first) % step = 0).map
      fun (_, _, _, by') => [Char.ofNat (n + by').toNat]

/-- The small form of a character. -/
def lowered (c : Char) : List Char := (changed? lowerRuns lowerSpecial c).getD [c]

/-- The great form of a character. -/
def raised (c : Char) : List Char := (changed? upperRuns upperSpecial c).getD [c]

/-- The form of a character at the beginning of a word. -/
def headed (c : Char) : List Char := (changed? titleRuns titleSpecial c).getD (raised c)

/-- The form of a character in which case does not count. -/
def folded (c : Char) : List Char := (changed? foldRuns foldSpecial c).getD (lowered c)

/-- Whether the first of some characters that is not passed over has case. -/
def meetsCase (cs : List Char) : Bool :=
  ((cs.find? fun c => !inRanges ignorableRanges c.toNat).any isCased)

/-- **The small form of a character between others**, those before it from the nearest
on. -/
def loweredBetween (before : List Char) (c : Char) (after : List Char) : List Char :=
  if c = 'Σ' then [if meetsCase before && !meetsCase after then 'ς' else 'σ'] else lowered c

/-- **The rules of case of a script.** -/
structure CaseRules where
  isLower : Char → Bool
  isUpper : Char → Bool
  isTitle : Char → Bool
  /-- The small form of a character between others. -/
  lower : List Char → Char → List Char → List Char
  upper : Char → List Char
  /-- The form at the beginning of a word. -/
  head : Char → List Char

namespace CaseRules

/-- The rules of all letters. -/
def standard : CaseRules :=
  ⟨Text.isLower, Text.isUpper, Text.isTitle, loweredBetween, raised, headed⟩

/-- The rules of the short alphabet. -/
def plain : CaseRules :=
  ⟨Char.isLower, Char.isUpper, fun _ => false, fun _ c _ => [c.toLower], fun c => [c.toUpper],
    fun c => [c.toUpper]⟩

/-- Whether a character has case. -/
def isCased (r : CaseRules) (c : Char) : Bool := r.isLower c || r.isUpper c || r.isTitle c

/-- Characters changed by a rule that looks around, after those before from the nearest
on. -/
def changedFrom (f : List Char → Char → List Char → List Char) :
    List Char → List Char → List Char
  | _, [] => []
  | before, c :: cs => f before c cs ++ changedFrom f (c :: before) cs

/-- **All in small letters.** -/
def small (r : CaseRules) (cs : List Char) : List Char := changedFrom r.lower [] cs

/-- **All in great letters.** -/
def great (r : CaseRules) (cs : List Char) : List Char := cs.flatMap r.upper

/-- Small letters after a great first one. -/
def capitalized (r : CaseRules) : List Char → List Char
  | [] => []
  | c :: cs => r.head c ++ changedFrom r.lower [c] cs

/-- Words with a great first letter: every letter after another is small. -/
def titled (r : CaseRules) (cs : List Char) : List Char :=
  changedFrom
    (fun before c after =>
      match before with
      | b :: _ => if r.isCased b then r.lower before c after else r.head c
      | [] => r.head c) [] cs

/-- The case of each letter turned. -/
def turned (r : CaseRules) (cs : List Char) : List Char :=
  changedFrom
    (fun before c after =>
      if r.isUpper c then r.lower before c after else if r.isLower c then r.upper c else [c]) [] cs

/-- Whether some letter is small and none is great. -/
def isSmall (r : CaseRules) (cs : List Char) : Bool :=
  cs.any r.isLower && !cs.any fun c => r.isUpper c || r.isTitle c

/-- Whether some letter is great and none is small. -/
def isGreat (r : CaseRules) (cs : List Char) : Bool :=
  cs.any r.isUpper && !cs.any fun c => r.isLower c || r.isTitle c

/-- Whether letters after others are small and all others great, where one has been found
or not, and the last character was one with case or not. -/
def isTitledFrom (r : CaseRules) : Bool → Bool → List Char → Bool
  | found, _, [] => found
  | found, isInside, c :: cs =>
    if r.isUpper c || r.isTitle c then !isInside && isTitledFrom r true true cs
    else if r.isLower c then isInside && isTitledFrom r true true cs
    else isTitledFrom r found false cs

/-- **Whether words have a great first letter** and no other. -/
def isTitled (r : CaseRules) (cs : List Char) : Bool := r.isTitledFrom false false cs

end CaseRules

end Narrowing.Text
