import Narrowing.Code.Printer
import Narrowing.Run.Names
/-!
# Constants of running code

A constant that stands twice in one text is one value, and so is what is computed of
constants alone. Texts that could be names are one wherever they stand. So a store keeps
the constants met in each text with the tags that tell their values apart.
-/

namespace Narrowing

open Code

namespace Code.Constant

/-- **Whether two constants are one**: of one kind and of one content, where zeros of
different signs differ. -/
def isSame : Constant → Constant → Bool
  | none, none | ellipsis, ellipsis => true
  | bool b, bool c => b == c
  | int i, int j => i == j
  | float x, float y => sameBits x y
  | complex a b, complex c d => sameBits a c && sameBits b d
  | str s, str t | str s, marked t | marked s, str t | marked s, marked t => s == t
  | bytes bs, bytes cs => bs == cs
  | points ps, points qs => ps == qs
  | foreign s f, foreign t g => s == t && f == g
  | _, _ => false

end Code.Constant

/-- Whether a text could be a name, or a part of one. -/
def isNameLike (s : String) : Bool := s.toList.all fun c => c.isAlphanum || c = '_'

namespace Value

/-- The constant that a value is the value of. -/
def constant? : Value → Option Constant
  | none => some .none
  | bool b => some (.bool b)
  | ellipsis => some .ellipsis
  | int i _ => some (.int i)
  | float x _ => some (.float x)
  | complex re im _ => some (.complex re im)
  | str s _ => some (.str s)
  | bytes bs _ => some (.bytes bs)
  | _ => Option.none

/-- The value that a constant is in all texts, as those are that are shared, and the texts that
could be names. -/
def inAllTexts? (v : Value) : Option Value :=
  if v.isShared then some v
  else
    match v with
    | str s _ => if isNameLike s then some (ofName s) else Option.none
    | _ => Option.none

end Value

namespace Store

/-- **The tag of a constant of a text**, and the store that keeps it. -/
def constantTag (σ : Store) (textUnit : Nat) (k : Constant) : Tag × Store :=
  match σ.constants.find? fun (u, l, _) => u = textUnit && k.isSame l with
  | some (_, _, tag) => (tag, σ)
  | none =>
    let tag := σ.nextTag
    (tag, { σ with nextTag := tag + 1, constants := (textUnit, k, tag) :: σ.constants })

theorem constantTag_cells (σ : Store) (textUnit : Nat) (k : Constant) :
    (σ.constantTag textUnit k).2.cells = σ.cells := by
  unfold constantTag
  split <;> rfl

end Store

namespace Run

/-- The tag of a constant of a text. -/
def constantTag (textUnit : Nat) (k : Constant) : Run Tag :=
  ⟨fun σ => .done (σ.constantTag textUnit k).1 (σ.constantTag textUnit k).2,
    fun σ => .of_cells (σ.constantTag_cells textUnit k)⟩

/-- What a value is kept as among the constants of a text. -/
def constantKey? (c : Site) (v : Value) : Run (Option Constant) := do
  match v with
  | .tuple .. => return some (.foreign (← aside c (literal v)) "")
  | v => return v.constant?

/-- **A value as a constant of a text**; the items of a tuple are constants, too. -/
def pooled (c : Site) (v : Value) : Run Value := do
  match v.inAllTexts? with
  | some v => return v
  | none =>
    match ← constantKey? c v with
    | none => return v
    | some k => return v.withTag (← constantTag c.textUnit k)

/-- **The value of a constant.** -/
def constantValue (c : Site) : Constant → Run Value
  | .none => return .none
  | .bool b => return .bool b
  | .int i => pooled c (.ofInt i)
  | .float x => pooled c (.ofFloat x)
  | .complex re im => pooled c (.ofComplex re im)
  | .str s | .marked s => pooled c (.ofText s)
  | .bytes bs => pooled c (.ofByteList bs)
  | .ellipsis => return .ellipsis
  | .points _ | .foreign .. => throw .unsupported

/-- The text of a number among others, or the literal of any other value. -/
def constantItemText (v : Value) : Run String :=
  match v with
  | .float x _ => return spellable (floatText x)
  | .complex re im _ => return spellable (complexText re im)
  | v => literal v

/-- **The text of a value that stands in code as a constant**, though no literal may denote
it. -/
def constantText (v : Value) : Run String := do
  match v with
  | .tuple items _ => return tupleText (← items.mapM constantItemText)
  | v => constantItemText v

/-- The documentation of a body, or the null value. -/
def documentationOf (c : Site) (body : List Node) : Run Value :=
  match body with
  | .exprStmt (.constant k) :: _ => if k.isText then constantValue c k else return .none
  | _ => return .none

end Run

end Narrowing
