/-!
# Common margins

Removing the leading blanks that all lines of a text share. Tabs and blanks are
different characters here. A line of blanks alone does not count, and becomes
empty. Every line counts, also one inside a literal that spans lines.
-/

namespace Narrowing.Code.Margin

/-- Whether a character may belong to a margin. -/
def isBlank (c : Char) : Bool := c = ' ' || c = '\t'

/-- The longest common beginning of two lists. -/
def common : List Char → List Char → List Char
  | c :: cs, d :: ds => if c = d then c :: common cs ds else []
  | _, _ => []

/-- The lines of a text, without their line feeds. -/
def lines : List Char → List (List Char)
  | [] => [[]]
  | c :: cs =>
    if c = '\n' then [] :: lines cs
    else
      match lines cs with
      | [] => [[c]]
      | l :: ls => (c :: l) :: ls

/-- A line of blanks alone becomes empty. -/
def clear (line : List Char) : List Char :=
  if line.all isBlank then [] else line

/-- **The margin all lines share**, lines without content left out. -/
def ofLines (ls : List (List Char)) : List Char :=
  match (ls.filter fun l => !l.isEmpty).map fun l => l.takeWhile isBlank with
  | [] => []
  | m :: ms => ms.foldl common m

/-- **Removes the common margin of a text.** -/
def remove (s : String) : String :=
  let ls := (lines s.toList).map clear
  let width := (ofLines ls).length
  String.ofList (['\n'].intercalate (ls.map fun l => l.drop width))

end Narrowing.Code.Margin
