/-!
# Words

Integers of a fixed number of bits with a sign: which integers fit, and which of
them an integer that does not fit wraps around to.
-/

namespace Narrowing.Word

/-- How many words of a number of bits there are. -/
def count (bits : Nat) : Nat := Nat.pow 2 bits

/-- Whether an integer fits in a word that has so many bits besides its sign. -/
def fits (bits : Nat) (i : Int) : Bool := -(count bits : Int) ≤ i && i < count bits

/-- **The word that an integer wraps around to**, with so many bits besides its
sign. -/
def wrap (bits : Nat) (i : Int) : Int := Int.bmod i (count (bits + 1))

end Narrowing.Word
