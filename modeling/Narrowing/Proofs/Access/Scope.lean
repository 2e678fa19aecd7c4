import Narrowing.Proofs.Access.Rewrite
import Narrowing.Proofs.Code.Scope
/-!
# Which variable is accessed where an access is rewritten

The rewriter is meant for the accesses to one variable, and it knows the variable by its
name alone. So it leaves those scopes alone in which the name is another variable. What it
goes by is whether some node of the scope stores to the name or is a parameter of it
(`Rewriter.shields`). That is more than needed in one way, since nodes of scopes further
inside count as well, and less in another: a name also gets another meaning by a definition,
an import, a handler that names its exception or a global declaration, and neither of these
is looked for.

Where a call is replaced, the name is therefore the variable unless one of these four stands
in a scope around the call (`Rewriter.replaced_scopes`), but for names that the language
itself gives another meaning in classes.
-/

namespace Narrowing

open Code Node

namespace Rewriter

/-- Above a call that is replaced no scope stores to the variable or has a parameter of its
name. -/
theorem bindsVar_of_replaces {r : Rewriter} {p : Place} (h : r.replaces p) :
    ∀ s ∈ p.above, s.node.kind.opensScope → s.node.bindsVar r.var = false := by
  intro s hs hopens
  refine Bool.eq_false_iff.2 fun hbinds => ?_
  rw [replaces_eq_false hs (by simp [shields, hopens, hbinds])] at h
  cases h

/-- **Which variable is accessed** where a call is replaced. Rewriting a body replaces the
calls at certain places and counts them. Around such a place no scope stores to the variable
or has a parameter of its name; and if the name is not the variable of the function around
the body all the same, then some node of a scope around the place binds or declares it
without storing to it, or it is one of the names that mean something else in a class. -/
theorem replaced_scopes (r : Rewriter) (owner : Option String) (body : List Node) :
    r.applyList body = (rebuildBody r.change body, (placesOfBody body).countP r.replaces) ∧
      ∀ p ∈ placesOfBody body, r.replaces p →
        (∀ s ∈ p.above, s.node.kind.opensScope → s.node.bindsVar r.var = false) ∧
        (p.denotesOwn owner r.var = false →
          (∃ s ∈ p.above, s.node.kind.opensScope ∧ s.node.anyKind (Kind.bindsUnseen r.var)) ∨
            r.var ∈ implicitNames ∨ IsRenamed r.var) := by
  refine ⟨r.applyList_body body, fun p _ hp => ?_⟩
  have hseen := bindsVar_of_replaces hp
  refine ⟨hseen, fun hown => (Place.exists_of_denotesOwn_eq_false hown).imp_left ?_⟩
  rintro ⟨s, hs, hopens, htakes⟩
  refine ⟨s, hs, hopens, ?_⟩
  have hor := anyKind_or (Kind.bindsVar r.var) (Kind.bindsUnseen r.var) s.node
  have hbinds : s.node.anyKind (Kind.bindsVar r.var) = false := hseen s hs hopens
  rw [hbinds, Bool.false_or] at hor
  rw [← hor]
  exact htakes

/-- A body that defines a function which imports `s` and accesses it. -/
def importing : List Node :=
  [.functionDef "head" false .noArguments
    [.importStmt [.importedName "s" none],
      .returnStmt [.call (.load "elt") [.load "s", .constant (.int 0)] []]] [] []]

/-- The accesses to a text `s`. -/
def textAccesses : Rewriter := ⟨"s", .textIndex, ["elt"]⟩

/-- The access of the function is replaced, though it is to the module that is imported. -/
theorem replaced_scopes_importing :
    ∃ p ∈ placesOfBody importing, textAccesses.replaces p ∧ p.denotesOwn none "s" = false ∧
      ∃ s ∈ p.above, s.node.kind.opensScope ∧ s.node.anyKind (Kind.bindsUnseen "s") := by
  obtain ⟨p, hp⟩ : ∃ p, (placesOfBody importing).find?
      (fun p => textAccesses.replaces p && !p.denotesOwn none "s") = some p := ⟨_, rfl⟩
  have hmem : p ∈ placesOfBody importing := List.mem_of_find?_eq_some hp
  obtain ⟨hreplaces, hown⟩ : textAccesses.replaces p ∧ p.denotesOwn none "s" = false := by
    simpa using List.find?_some hp
  refine ⟨p, hmem, hreplaces, hown, ?_⟩
  rcases ((replaced_scopes textAccesses none importing).2 p hmem hreplaces).2 hown with
    h | h | h
  · exact h
  · exact absurd h (by decide)
  · exact absurd h.head (by decide)

end Rewriter

end Narrowing
