import Narrowing.Oracle.Levels
/-!
# Declared hierarchies

A **hierarchy** lists the direct parents of names; a name's ancestors are
everything reached from it along parents, itself included. The declaration may
be cyclic, list a name as its own parent, or mention names that it does not
declare. Each round of the search takes one name that is still to be followed
and adds those of its parents that are new, so it ends after at most as many
rounds as there are names on the way.
-/

namespace Narrowing

/-- **The direct parents of names.** A later declaration of a name replaces an
earlier one. -/
structure Hierarchy (β : Type) where
  /-- Each declared name with its direct parents. -/
  parents : List (β × List β)

namespace Hierarchy

variable {β : Type} [BEq β]

/-- The direct parents of a name, none if it is not declared. -/
def parentsOf (h : Hierarchy β) (x : β) : List β :=
  (lastDeclared x h.parents).getD []

/-- One name is followed per round: `pending` are those still to be followed and
`seen` all that were reached. -/
def reachWithin (h : Hierarchy β) : Nat → List β → List β → List β
  | 0, _, seen => seen
  | _, [], seen => seen
  | rounds + 1, x :: pending, seen =>
    let fresh := ((h.parentsOf x).filter fun p => !seen.contains p).eraseDups
    reachWithin h rounds (fresh ++ pending) (seen ++ fresh)

/-- A bound on the names that can be reached from one. -/
def nameBound (h : Hierarchy β) : Nat :=
  h.parents.foldl (fun n (_, ps) => n + ps.length) 1

/-- **The ancestors of a name**, itself first. -/
def ancestors (h : Hierarchy β) (x : β) : List β :=
  h.reachWithin h.nameBound [x] [x]

end Hierarchy

/-- A nominal hierarchy with what else an oracle over it needs. -/
structure NominalTypes (α κ π : Type) where
  /-- The direct parents. -/
  hierarchy : Hierarchy (Descriptor α)
  /-- The exact decompositions. -/
  sealedParts : List (Descriptor α × List (Descriptor α)) := []
  /-- The runtime tests. -/
  tests : List (Descriptor α × RuntimeTest κ π) := []
  /-- The names that hold every value. -/
  universal : List (Descriptor α) := []

/-- **The oracle of a declared hierarchy**: an atom is below its ancestors. -/
def NominalTypes.oracle {α κ π : Type} [BEq α] (t : NominalTypes α κ π) (everything : κ) :
    Oracle α κ π where
  atomicSubtype a b := (t.hierarchy.ancestors (.atom a)).contains (.atom b)
  universal a := t.universal.contains (.atom a)
  sealedParts := t.sealedParts
  atomicTest a :=
    match lastDeclared (.atom a) t.tests with
    | some test => .ok test
    | none => .error (.undeclared a)
  everything

/-- The answers over a declared hierarchy. -/
def NominalTypes.decider {α κ π : Type} [BEq α] [Named α] (t : NominalTypes α κ π)
    (everything : κ) : Decider α κ π :=
  (t.oracle everything).byLevels fun _ => 0

end Narrowing
