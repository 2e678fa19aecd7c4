import Narrowing.Access.Accessor
import Narrowing.Code.Binding
/-!
# Rewriting element accesses

Replaces the generic accesses to one variable by those of an accessor. A generic
access is a call, by plain name or as an attribute, of one of the given names,
with exactly two positional arguments, the first being the variable. A nested
scope in which the variable is bound is left as it is, since the name denotes
something else there.

Arguments are rewritten before the call around them, so accesses may nest. What
comes out of a replacement is not looked at again.
-/

namespace Narrowing

open Code

/-- **What is rewritten**: the accesses to a variable under some names, and by
which accessor. -/
structure Rewriter where
  /-- The variable. -/
  var : String
  /-- The accessor. -/
  accessor : Accessor
  /-- The names of generic access. -/
  names : List String

namespace Rewriter

/-- The name a function expression calls. -/
def calledName : Node → Option String
  | .name id _ => some id
  | .member _ attr _ => some attr
  | _ => none

/-- **The parts of a generic access** to the variable: it and the index. -/
def access? (r : Rewriter) : Node → Option (Node × Node)
  | .call func [.name id ctx, index] [] =>
    match calledName func with
    | some f => if r.names.contains f && id = r.var then some (.name id ctx, index) else none
    | none => none
  | _ => none

/-- What replaces a node whose parts have been rewritten. -/
def replacement? (r : Rewriter) (n : Node) : Option Node :=
  match r.access? n with
  | some (target, index) => r.accessor.replacement? target index
  | none => none

/-- Whether a node is a scope in which the variable is bound. -/
def shields (r : Rewriter) (n : Node) : Bool :=
  n.kind.opensScope && n.bindsVar r.var

mutual

/-- **Rewrites a tree**: the new tree and the number of replacements. -/
def apply (r : Rewriter) : Node → Node × Nat
  | .mk k slots =>
    if r.shields (.mk k slots) then (.mk k slots, 0)
    else
      let (slots, count) := applySlots r slots
      match r.replacement? (.mk k slots) with
      | some n => (n, count + 1)
      | none => (.mk k slots, count)

/-- Rewrites the trees of some slots. -/
def applySlots (r : Rewriter) : List (List Node) → List (List Node) × Nat
  | [] => ([], 0)
  | s :: ss =>
    let (s, m) := applyList r s
    let (ss, n) := applySlots r ss
    (s :: ss, m + n)

/-- **Rewrites a body**, statement by statement. -/
def applyList (r : Rewriter) : List Node → List Node × Nat
  | [] => ([], 0)
  | x :: xs =>
    let (x, m) := apply r x
    let (xs, n) := applyList r xs
    (x :: xs, m + n)

end

end Rewriter

end Narrowing
