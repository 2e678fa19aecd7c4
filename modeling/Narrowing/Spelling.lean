import Narrowing.Bits
import Narrowing.Class
import Narrowing.Code.Expression
import Narrowing.Decimal.Limit
import Narrowing.Descriptor
import Narrowing.Text.Quoted
/-!
# Spellings of atoms

The atoms that descriptors are written with. Besides names and classes these are
the host language's own ways to write a type: `None` and `Any`, two notations
for a choice, subscripted generics with and without an alias, and literals. An
oracle over names takes each of them for an opaque token; `Spelling.core` is
what an oracle over classes reads in them.

The bounds and unions of the descriptor algebra may stand inside a spelling too.
There they are parts of it and keep the form they were given.

Two choices are equal when they have the same alternatives, whatever the
notation and the order, so equality of spellings is coarser than equality of
their texts.
-/

namespace Narrowing

/-- The value of a literal type. -/
inductive LiteralValue where
  | none
  | bool (b : Bool)
  | int (i : Int)
  | str (s : String)
  | bytes (bs : List Nat)
  /-- Any other value, by its kind and its text. -/
  | other (kind text : String)
deriving DecidableEq

namespace LiteralValue

/-- The text of a literal value, if it can be written. -/
def text? : LiteralValue → Option String
  | none => some "None"
  | bool b => some (if b then "True" else "False")
  | int i => Decimal.text? i
  | str s => some (Text.quoted s)
  | bytes bs => some (Text.quotedBytes bs)
  | other _ text => some text

end LiteralValue

/-- The aliases of generic classes. -/
inductive Alias where
  | list | tuple | dict | sequence | iterable
deriving DecidableEq

namespace Alias

/-- The class an alias stands for. -/
def origin : Alias → StandardClass
  | list => .list
  | tuple => .tuple
  | dict => .dict
  | sequence => .sequence
  | iterable => .iterable

/-- The name of an alias. -/
def name : Alias → String
  | list => "List"
  | tuple => "Tuple"
  | dict => "Dict"
  | sequence => "Sequence"
  | iterable => "Iterable"

/-- The alias of a name. -/
def ofName? (s : String) : Option Alias :=
  [list, tuple, dict, sequence, iterable].find? fun a => a.name = s

end Alias

/-- The two notations for a choice of types. -/
inductive ChoiceStyle where
  /-- Alternatives joined by a bar. -/
  | bar
  /-- A subscripted `Union`. -/
  | subscript
deriving DecidableEq

/-- **An atom as it is written.** -/
inductive Spelling where
  /-- A name with no meaning of its own. -/
  | name (s : String)
  /-- A class. -/
  | cls (c : Class)
  /-- The null value, standing for its class. -/
  | none
  /-- The type of anything. -/
  | any
  /-- A choice of at least two alternatives. -/
  | choice (style : ChoiceStyle) (alternatives : List Spelling)
  /-- A subscripted class. -/
  | generic (origin : Class) (arguments : List Spelling)
  /-- A subscripted alias. -/
  | aliased (a : Alias) (arguments : List Spelling)
  /-- An alias without arguments. -/
  | bareAlias (a : Alias)
  /-- The type of some literal values. -/
  | literal (values : List LiteralValue)
  /-- A number used as an atom. -/
  | number (i : Int)
  /-- A name inside a subscripted choice or alias. -/
  | forward (s : String)
  /-- The universal bound inside another spelling. -/
  | top
  /-- The empty bound inside another spelling. -/
  | bottom
  /-- A union inside another spelling. -/
  | union (members : List Spelling)

namespace Spelling

/-! ## Equality -/

mutual

/-- **Equality of spellings.** -/
def same : Spelling → Spelling → Bool
  | name s, name t => s == t
  | cls c, cls d => c == d
  | none, none => true
  | any, any => true
  | choice _ xs, choice _ ys => allAmong xs ys && ys.all fun y => someSame xs y
  | generic c xs, generic d ys => c == d && samePairwise xs ys
  | aliased a xs, aliased b ys => a == b && samePairwise xs ys
  | bareAlias a, bareAlias b => a == b
  | literal xs, literal ys => xs.all ys.contains && ys.all xs.contains
  | number i, number j => i == j
  | forward s, forward t => s == t
  | top, top => true
  | bottom, bottom => true
  | union xs, union ys => samePairwise xs ys
  | _, _ => false

/-- Whether every spelling of the first list occurs in the second. -/
def allAmong : List Spelling → List Spelling → Bool
  | [], _ => true
  | x :: xs, ys => (ys.any fun y => same x y) && allAmong xs ys

/-- Whether some spelling of the list equals the given one. -/
def someSame : List Spelling → Spelling → Bool
  | [], _ => false
  | x :: xs, y => same x y || someSame xs y

/-- Whether two lists agree entry by entry. -/
def samePairwise : List Spelling → List Spelling → Bool
  | [], [] => true
  | x :: xs, y :: ys => same x y && samePairwise xs ys
  | _, _ => false

end

instance : BEq Spelling := ⟨same⟩

/-! ## Text -/

/-- The class of the null value. -/
def noneClass : Spelling := cls (.standard .noneType)

/-- Whether a spelling is the class of the null value. -/
def isNoneClass : Spelling → Bool
  | cls (.standard .noneType) => true
  | _ => false

/-- The quoted form of a name, which is how a name is shown inside another
spelling. -/
def quotedName? : Spelling → Option String
  | name s => some (Text.quoted s)
  | _ => Option.none

/-- Texts separated by commas, in brackets. -/
def bracketed (texts : List String) : String :=
  "[" ++ String.intercalate ", " texts ++ "]"

/-- The arguments of a subscript; none are written as the empty tuple. -/
def subscript (texts : List String) : String :=
  if texts.isEmpty then "[()]" else bracketed texts

/-- The text of a subscripted choice, from which of its alternatives are the
class of the null value and from their texts: a choice of two with the null
value is an optional. -/
def subscriptedText : List Bool → List String → String
  | [_, true], [x, _] => "typing.Optional" ++ bracketed [x]
  | [true, _], [_, y] => "typing.Optional" ++ bracketed [y]
  | _, texts => "typing.Union" ++ bracketed texts

mutual

/-- **The readable name of a spelling**, if it can be written: a number with too many
digits cannot. -/
def text? : Spelling → Option String
  | name s => some s
  | cls c => some c.text
  | none => some "None"
  | any => some "typing.Any"
  | choice .bar xs => (barTexts? xs).map (String.intercalate " | ")
  | choice .subscript xs => (innerTexts? xs).map (subscriptedText (xs.map isNoneClass))
  | generic c xs => (innerTexts? xs).map fun texts => c.text ++ subscript texts
  | aliased a xs => (innerTexts? xs).map fun texts => "typing." ++ a.name ++ subscript texts
  | bareAlias a => some ("typing." ++ a.name)
  | literal vs =>
    (vs.mapM LiteralValue.text?).map fun texts => "typing.Literal" ++ subscript texts
  | number i => Decimal.text? i
  | forward s => some ("ForwardRef(" ++ Text.quoted s ++ ")")
  | top => some "TOP"
  | bottom => some "BOTTOM"
  | union xs => (texts? xs).map fun texts => "Union" ++ bracketed texts

/-- The readable names of a list of spellings. -/
def texts? : List Spelling → Option (List String)
  | [] => some []
  | x :: xs => do return (← text? x) :: (← texts? xs)

/-- The texts of the spellings inside another. -/
def innerTexts? : List Spelling → Option (List String)
  | [] => some []
  | x :: xs => do return (← (quotedName? x).or (text? x)) :: (← innerTexts? xs)

/-- The texts of the alternatives of a choice joined by bars, where the class
of the null value is written as the null value. -/
def barTexts? : List Spelling → Option (List String)
  | [] => some []
  | x :: xs => do
    return (← if isNoneClass x then some "None" else text? x) :: (← barTexts? xs)

end

instance : Named Spelling := ⟨text?⟩

/-- The literal text of a spelling: like the readable name, but a name is
quoted and a class is shown as an object. -/
def literalText? : Spelling → Option String
  | name s => some (Text.quoted s)
  | cls c => some c.literal
  | x => text? x

/-! ## Building choices and generics -/

/-- The alternatives that a member of a choice brings: those of a nested choice,
and the class of the null value for the null value. -/
def alternatives : Spelling → List Spelling
  | choice _ xs => xs
  | none => [noneClass]
  | x => [x]

/-- Keeps the first of equal spellings. -/
def distinct : List Spelling → List Spelling
  | [] => []
  | x :: xs => x :: (distinct xs).filter fun y => !(same x y)

/-- **A choice of the given members**, nested ones flattened and repeated ones
dropped; a single alternative is itself. -/
def ofMembers (style : ChoiceStyle) (members : List Spelling) : Spelling :=
  match distinct (members.flatMap alternatives) with
  | [x] => x
  | xs => choice style xs

/-- Whether a spelling may stand beside a bar. -/
def allowsBar : Spelling → Bool
  | name _ | number _ | top | bottom | union _ => false
  | _ => true

/-- Whether a spelling turns a choice joined by bars into a subscripted one. -/
def forcesSubscript : Spelling → Bool
  | aliased .. | bareAlias _ | literal _ | forward _ | choice .subscript _ => true
  | _ => false

/-- Whether a spelling is the null value itself. -/
def isNone : Spelling → Bool
  | none => true
  | _ => false

/-- **Why a spelling cannot be built.** -/
inductive BuildFault where
  /-- The notation is not defined on its parts. -/
  | undefined
  /-- A name refers forward without being an expression. -/
  | notAnExpression
  /-- A name refers forward with nothing in it. -/
  | emptyName
  /-- A name refers forward with a character that no code holds. -/
  | nullCharacter
deriving DecidableEq

/-- **A name that refers forward**: it has to read as an expression, where a star in
front spreads what follows. -/
def forward? (s : String) : Except BuildFault Spelling :=
  let isSpread := s.toList.head? = some '*'
  if s.isEmpty then .error .emptyName
  else
    match Code.readExpression (if isSpread then "(" ++ s ++ ",)[0]" else s) with
    | .ok _ => .ok (forward s)
    | .error .nullCharacter => .error .nullCharacter
    | .error _ => .error .notAnExpression

/-- A name inside a subscript refers forward, and the null value stands for its
class. -/
def subscriptArgument : Spelling → Except BuildFault Spelling
  | name s => forward? s
  | none => .ok noneClass
  | x => .ok x

/-- **Two spellings joined by a bar**, if the operator is defined on them. Between
two numbers it joins their bits. -/
def bar? (x y : Spelling) : Except BuildFault Spelling :=
  match x, y with
  | number i, number j => .ok (number (Bits.or i j))
  | x, y =>
    if forcesSubscript x || forcesSubscript y then do
      return ofMembers .subscript [← subscriptArgument x, ← subscriptArgument y]
    else if allowsBar x && allowsBar y && !(isNone x && isNone y) then
      .ok (ofMembers .bar [x, y])
    else .error .undefined

/-- A choice joined by bars from left to right. -/
def bars? : List Spelling → Except BuildFault Spelling
  | [] => .error .undefined
  | x :: xs => xs.foldlM bar? x

/-- A subscripted choice; it needs at least one member. -/
def subscripted? (members : List Spelling) : Except BuildFault Spelling :=
  if members.isEmpty then .error .undefined
  else do return ofMembers .subscript (← members.mapM subscriptArgument)

/-- A subscripted class. An array of machine numbers takes one argument or two. -/
def generic? (c : Class) (arguments : List Spelling) : Except BuildFault Spelling :=
  let isArray := c.standardLineage.contains .ndarray
  if c.isSubscriptable && (!isArray || arguments.length = 1 || arguments.length = 2) then
    .ok (generic c arguments)
  else .error .undefined

/-- How many arguments an alias takes. -/
def acceptsArguments (a : Alias) (count : Nat) : Bool :=
  match a with
  | .tuple => true
  | .dict => count = 2
  | _ => count = 1

/-- A subscripted alias. Its arguments are read before they are counted. -/
def aliased? (a : Alias) (arguments : List Spelling) : Except BuildFault Spelling := do
  let arguments ← arguments.mapM subscriptArgument
  if acceptsArguments a arguments.length then return aliased a arguments
  else throw .undefined

/-- A literal type: repeated values are dropped. -/
def ofLiterals (values : List LiteralValue) : Spelling :=
  literal values.eraseDups

/-! ## Spellings and descriptors -/

mutual

/-- **A descriptor as a part of a spelling.** -/
def ofDescriptor : Descriptor Spelling → Spelling
  | .atom x => x
  | .top => top
  | .bottom => bottom
  | .union ds => union (ofDescriptors ds)

/-- The descriptors of a list as parts of a spelling. -/
def ofDescriptors : List (Descriptor Spelling) → List Spelling
  | [] => []
  | d :: ds => ofDescriptor d :: ofDescriptors ds

end

mutual

/-- **A spelling as a descriptor**: a bound or a union is one of the algebra, and
everything else is an atom. -/
def descriptor : Spelling → Descriptor Spelling
  | top => .top
  | bottom => .bottom
  | union xs => .union (descriptors xs)
  | x => .atom x

/-- The spellings of a list as descriptors. -/
def descriptors : List Spelling → List (Descriptor Spelling)
  | [] => []
  | x :: xs => descriptor x :: descriptors xs

end

/-! ## Reading as a class -/

mutual

/-- **What a spelling stands for over classes**, where the members of a union in it
stay as they are. -/
def reading : Spelling → Descriptor Spelling
  | none => .atom noneClass
  | any => .top
  | choice _ xs => .join (readings xs)
  | generic c _ => .atom (cls c)
  | aliased a _ => .atom (cls (.standard a.origin))
  | bareAlias a => .atom (cls (.standard a.origin))
  | x => descriptor x

/-- What the spellings of a list stand for. -/
def readings : List Spelling → List (Descriptor Spelling)
  | [] => []
  | x :: xs => reading x :: readings xs

end

mutual

/-- **The descriptor a spelling stands for over classes**: the null value is its
class, `Any` is everything, a choice is the join of its alternatives, and a
generic is erased to its origin. Everything else stands for itself. -/
def core : Spelling → Descriptor Spelling
  | none => .atom noneClass
  | any => .top
  | choice _ xs => .join (coreAll xs)
  | generic c _ => .atom (cls c)
  | aliased a _ => .atom (cls (.standard a.origin))
  | bareAlias a => .atom (cls (.standard a.origin))
  | top => .top
  | bottom => .bottom
  | union xs => .union (coreAll xs)
  | x => .atom x

/-- The descriptors of a list of spellings. -/
def coreAll : List Spelling → List (Descriptor Spelling)
  | [] => []
  | x :: xs => core x :: coreAll xs

end

end Spelling

/-- A descriptor over spellings. -/
abbrev TypeDescriptor := Descriptor Spelling

/-- The literal text of a descriptor. Inside of a union the readable names stand. -/
def Descriptor.literal? : TypeDescriptor → Option String
  | .atom a => a.literalText?
  | d => d.name?

end Narrowing
