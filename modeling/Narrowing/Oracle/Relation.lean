import Narrowing.Oracle.Levels
/-!
# Oracles from a bare relation

The weakest way to give an oracle: the pairs of its atomic relation, with or
without reflexivity. No closure is taken, so the relation need not be a
preorder, and nothing is sealed or universal.
-/

namespace Narrowing

/-- A relation between atoms with their runtime tests. -/
structure BareRelation (α κ π : Type) where
  /-- The related pairs. -/
  pairs : List (Descriptor α × Descriptor α)
  /-- Whether each atom is related to itself as well. -/
  reflexive : Bool := true
  /-- The runtime tests. -/
  tests : List (Descriptor α × RuntimeTest κ π) := []

/-- **The oracle of a bare relation**; an atom without a test accepts every
value. -/
def BareRelation.oracle {α κ π : Type} [BEq α] (r : BareRelation α κ π) (everything : κ) :
    Oracle α κ π where
  atomicSubtype a b := (r.reflexive && a == b) || r.pairs.contains (.atom a, .atom b)
  atomicTest a := .ok ((lastDeclared (.atom a) r.tests).getD (.instanceOf everything))
  everything

/-- The answers over a bare relation. -/
def BareRelation.decider {α κ π : Type} [BEq α] [Named α] (r : BareRelation α κ π)
    (everything : κ) : Decider α κ π :=
  (r.oracle everything).byLevels fun _ => 0

end Narrowing
