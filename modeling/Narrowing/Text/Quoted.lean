import Narrowing.Text.Unprintable
/-!
# Quoted literals

The literal form of a text or of a byte string. A single quote opens it unless
the content has a single quote and no double one. The quote in use and the
backslash are escaped by a backslash, line feed, carriage return and tab by
their letters, and what cannot be printed by its number: two, four or eight
hexadecimal digits after `x`, `u` or `U`.
-/

namespace Narrowing.Text

/-- The lower-case hexadecimal digits of a number, padded with zeros. -/
def hexDigits (width n : Nat) : List Char :=
  let digits := Nat.toDigits 16 n
  List.replicate (width - digits.length) '0' ++ digits

/-- The escape of a character by its code point, in the shortest form that
holds it. -/
def numericEscape (n : Nat) : List Char :=
  if n < 0x100 then '\\' :: 'x' :: hexDigits 2 n
  else if n < 0x10000 then '\\' :: 'u' :: hexDigits 4 n
  else '\\' :: 'U' :: hexDigits 8 n

/-- **One character inside a literal** in which some quotes are escaped. -/
def escaped (isPlain : Char → Bool) (quotes : List Char) (c : Char) : List Char :=
  if quotes.contains c || c = '\\' then ['\\', c]
  else if c = '\n' then ['\\', 'n']
  else if c = '\r' then ['\\', 'r']
  else if c = '\t' then ['\\', 't']
  else if isPlain c then [c]
  else numericEscape c.toNat

/-- The quote a literal of these characters opens with. -/
def quoteFor (cs : List Char) : Char :=
  if cs.contains '\'' && !cs.contains '"' then '"' else '\''

/-- The literal of a list of characters, in which its own quote is escaped and
some others may be. -/
def literal (isPlain : Char → Bool) (others : List Char) (cs : List Char) : String :=
  let quote := quoteFor cs
  String.ofList (quote :: cs.flatMap (escaped isPlain (quote :: others)) ++ [quote])

/-- **The literal of a text.** -/
def quoted (s : String) : String :=
  literal isPrintable [] s.toList

/-- **The literal of a text by its code points**, of which those that are no
characters are escaped. -/
def quotedPoints (ps : List Nat) : String :=
  let quote := quoteFor (ps.map Char.ofNat)
  let point (p : Nat) : List Char :=
    if p.isValidChar then escaped isPrintable [quote] (Char.ofNat p) else numericEscape p
  String.ofList (quote :: ps.flatMap point ++ [quote])

/-- The literal of bytes: each byte is the character of its number, and only the
visible half of ASCII stands for itself. -/
def bytesLiteral (others : List Char) (bytes : List Nat) : String :=
  "b" ++ literal (fun c => 32 ≤ c.toNat && c.toNat < 127) others (bytes.map Char.ofNat)

/-- **The literal of a byte string.** -/
def quotedBytes (bytes : List Nat) : String := bytesLiteral [] bytes

/-- **The text of a byte array.** Single quotes are escaped in it whatever the
quote. -/
def quotedByteArray (bytes : List Nat) : String := "bytearray(" ++ bytesLiteral ['\''] bytes ++ ")"

end Narrowing.Text
