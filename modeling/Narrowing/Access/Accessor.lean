import Narrowing.Code.Node
/-!
# Accessors

Generic element access is spelled as a call `elt(v, i)`. An **accessor** is what
replaces that call where the representation of `v` is known; most often a plain
subscript. Its name tells accessors of one form apart.
-/

namespace Narrowing

open Code

/-- How an accessor replaces a generic call. -/
inductive AccessForm where
  /-- By a subscript. -/
  | subscript
  /-- Not at all. -/
  | keep
  /-- By a constant text. -/
  | constant (s : String)
  /-- By a call of another function with the same arguments. -/
  | call (function : String)
  /-- By waiting for the container itself. -/
  | await
deriving DecidableEq

/-- **An element-access operation.** -/
structure Accessor where
  /-- The name of the accessor. -/
  name : String
  /-- What it puts in place of the generic call. -/
  form : AccessForm
deriving DecidableEq

namespace Accessor

/-- Subscripts of texts. -/
def textIndex : Accessor := ⟨"text_index", .subscript⟩

/-- Subscripts of byte strings. -/
def octetIndex : Accessor := ⟨"octet_index", .subscript⟩

/-- Subscripts of lists, tuples and arrays. -/
def arrayIndex : Accessor := ⟨"array_index", .subscript⟩

/-- Subscripts of other sequences. -/
def sequenceIndex : Accessor := ⟨"sequence_index", .subscript⟩

/-- The generic access itself. -/
def generic : Accessor := ⟨"elt", .keep⟩

/-- The accessors with a name of their own. -/
def known : List Accessor := [textIndex, octetIndex, arrayIndex, sequenceIndex, generic]

/-- How an accessor is shown. -/
def text (a : Accessor) : String := "Accessor(" ++ a.name ++ ")"

/-- **What replaces the access of an element** of `target`, or nothing if the
generic call stays. -/
def replacement? (a : Accessor) (target index : Node) : Option Node :=
  match a.form with
  | .subscript => some (.subscript target index .load)
  | .keep => none
  | .constant s => some (.constant (.str s))
  | .call f => some (.call (.load f) [target, index] [])
  | .await => some (.await target)

end Accessor

end Narrowing
