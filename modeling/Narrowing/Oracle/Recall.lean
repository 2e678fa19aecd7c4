import Narrowing.Oracle.Hierarchy
/-!
# Hierarchies that remember

The oracle of a declared hierarchy keeps the ancestors of a name once they have been found,
and answers later questions from what it keeps. So its atomic relation changes what has
been found, and the relation on descriptors is lifted from it by the rules of
`Oracle.isSubtype`, in the same order: what one question finds is there for the next, also
after a question that came to no answer.
-/

namespace Narrowing

/-- **What has been found of a hierarchy**: names with their ancestors. -/
abbrev Findings (β : Type) := List (β × List β)

/-- **The ancestors of a name**, which are looked for only if they have not been found. -/
def Hierarchy.recall {β : Type} [BEq β] (h : Hierarchy β) (x : β) :
    StateM (Findings β) (List β) := do
  match (← get).lookup x with
  | some found => return found
  | none =>
    let found := h.ancestors x
    modify ((x, found) :: ·)
    return found

/-- What is worked out by an oracle that remembers. -/
abbrev Recalling (α β : Type) := ExceptT (Fault α) (StateM (Findings (Descriptor α))) β

namespace NominalTypes

variable {α κ π : Type} [BEq α]

/-- Whether a name is an ancestor of another. -/
def recallAbove (t : NominalTypes α κ π) (a b : Descriptor α) :
    StateM (Findings (Descriptor α)) Bool :=
  return (← t.hierarchy.recall a).contains b

section Lifted

variable (t : NominalTypes α κ π) (everything : κ)
  (ask : Descriptor α → Descriptor α → Recalling α Bool) (a : α)

/-- Whether the parts of a sealed atom are all below a descriptor. -/
def recallPartsBelow (b : Descriptor α) : Recalling α Bool :=
  match (t.oracle everything).expand (.atom a) with
  | [] => return false
  | parts => parts.allM fun part => ask ((t.oracle everything).normalForm part) b

mutual

/-- **An atom below a descriptor.** -/
def recallAtomBelow : Descriptor α → Recalling α Bool
  | .top => return true
  | .bottom => return false
  | .atom b => do
    if (t.oracle everything).universal b then return true
    else if ← t.recallAbove (.atom a) (.atom b) then return true
    else t.recallPartsBelow everything ask a (.atom b)
  | .union members => do
    if ← recallAtomBelowSome members then return true
    else t.recallPartsBelow everything ask a (.union members)

/-- An atom below some member of a list, members tried in order. -/
def recallAtomBelowSome : List (Descriptor α) → Recalling α Bool
  | [] => return false
  | d :: ds => do if ← recallAtomBelow d then return true else recallAtomBelowSome ds

end

mutual

/-- **A descriptor below another**, both in normal form. -/
def recallBelow : Descriptor α → Descriptor α → Recalling α Bool
  | .bottom, _ => return true
  | .top, b => return (t.oracle everything).holdsAll b
  | .atom a, b => t.recallAtomBelow everything ask a b
  | .union members, b => if b.isTop then return true else recallAllBelow members b

/-- All members of a list below a descriptor. -/
def recallAllBelow : List (Descriptor α) → Descriptor α → Recalling α Bool
  | [], _ => return true
  | d :: ds, b => do if ← recallBelow d b then recallAllBelow ds b else return false

end

end Lifted

variable (t : NominalTypes α κ π) (everything : κ)

/-- The relation between normal forms with a given number of nested expansions at hand. -/
def recallBelowWithin : Nat → Descriptor α → Descriptor α → Recalling α Bool
  | 0 => t.recallBelow everything fun _ _ => throw .endless
  | n + 1 => t.recallBelow everything (recallBelowWithin n)

/-- **Whether a descriptor is a subtype of another**, by what has been found. -/
def recallSubtype (a b : Descriptor α) : Recalling α Bool :=
  let o := t.oracle everything
  let b := o.normalForm b
  t.recallBelowWithin everything (o.expansionBound b) (o.normalForm a) b

/-- **Compares two descriptors** by what has been found. -/
def recallCompare : Comparison → Descriptor α → Descriptor α → Recalling α Bool
  | .subtype, a, b => t.recallSubtype everything a b
  | .equivalent, a, b => do
    if ← t.recallSubtype everything a b then t.recallSubtype everything b a else return false
  | .proper, a, b => do
    if ← t.recallSubtype everything a b then return !(← t.recallSubtype everything b a)
    else return false

/-! ## Questions in a row -/

/-- **A question to an oracle of a hierarchy.** -/
inductive Inquiry (α : Type) where
  /-- The ancestors of a name. -/
  | ancestors (x : Descriptor α)
  /-- Whether a name is among the ancestors of another. -/
  | above (a b : Descriptor α)
  /-- How two descriptors compare. -/
  | compare (c : Comparison) (a b : Descriptor α)

/-- **An answer**: some names, or a verdict if there is one. -/
inductive Reply (α : Type) where
  | names (xs : List (Descriptor α))
  | verdict (r : Except (Fault α) Bool)

/-- **Answers a question** by what has been found. -/
def reply : Inquiry α → StateM (Findings (Descriptor α)) (Reply α)
  | .ancestors x => return .names (← t.hierarchy.recall x)
  | .above a b => return .verdict (.ok (← t.recallAbove a b))
  | .compare c a b => return .verdict (← (t.recallCompare everything c a b).run)

/-- **Answers questions** one after another. -/
def replies (qs : List (Inquiry α)) : StateM (Findings (Descriptor α)) (List (Reply α)) :=
  qs.mapM (t.reply everything)

end NominalTypes

end Narrowing
