/-!
# How long a decimal may be

Integers are read from decimal digits, and written in them, up to a number of digits.
Other notations know no such limit, so there are integers that can be read and not
written.
-/

namespace Narrowing.Decimal

/-- **How many digits a whole decimal number may have.** -/
def digitLimit : Nat := 4300

/-- The least positive integer that has too many digits. -/
def tooLong : Nat := Nat.pow 10 digitLimit

/-- Whether an integer can be written in decimal. -/
def isWritable (i : Int) : Bool := i.natAbs < tooLong

/-- **The decimal of an integer**, if it can be written. -/
def text? (i : Int) : Option String := if isWritable i then some (toString i) else none

end Narrowing.Decimal
