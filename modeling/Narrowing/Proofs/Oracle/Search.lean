import Narrowing.Proofs.Oracle.Ancestors
import Mathlib.Logic.Relation
/-!
# The search for ancestors as a worklist

The search keeps the names that are still to be followed and the names that were seen. A step
follows **one** of the former, whichever it is, and adds those of its parents that are new
to both, so a stack and a queue are two ways to take the same steps (`Hierarchy.Follows`).

A step keeps `Hierarchy.Searching` and uses up one of the rounds in it: a name is seen once, and
there are no more names than the declaration has, so however the names are taken the search
ends (`Hierarchy.acc_search`), and what it has seen at its end is what can be reached
(`Hierarchy.search_ends_iff`). `Hierarchy.ancestors` is the end of one such search.
-/

namespace Narrowing

/-- **A worklist**: names that are still to be followed, and all that were seen. -/
structure Worklist (β : Type) where
  pending : List β
  seen : List β

/-- The worklist that a search starts with. -/
def Worklist.start {β : Type} (x : β) : Worklist β := ⟨[x], [x]⟩

namespace Hierarchy

variable {β : Type} [BEq β]

/-- **A step of a search** follows one of the names that wait, and lets its new parents wait. -/
inductive Follows (h : Hierarchy β) : Worklist β → Worklist β → Prop
  | name {pending seen rest pending' : List β} {x : β} (htake : pending.Perm (x :: rest))
      (hput : pending'.Perm (h.fresh x seen ++ rest)) :
      Follows h ⟨pending, seen⟩ ⟨pending', seen ++ h.fresh x seen⟩

/-- Steps of a search. -/
abbrev Search (h : Hierarchy β) : Worklist β → Worklist β → Prop :=
  Relation.ReflTransGen h.Follows

variable {h : Hierarchy β}

/-- A search is at its end only when no name waits. -/
theorem not_follows_iff {w : Worklist β} : (∀ w', ¬ h.Follows w w') ↔ w.pending = [] := by
  constructor
  · intro hstop
    obtain ⟨pending, seen⟩ := w
    cases pending with
    | nil => rfl
    | cons x rest => exact absurd (.name (.refl _) (.refl _)) (hstop _)
  · rintro hnil w' ⟨htake, -⟩
    obtain rfl : _ = [] := hnil
    exact List.cons_ne_nil _ _ (List.nil_perm.1 htake)

variable [EquivBEq β] {x : β} {rounds : Nat}

omit [EquivBEq β] in
/-- The order in which names wait does not matter. -/
theorem Searching.perm {pending pending' seen : List β}
    (hs : h.Searching x rounds pending seen) (hperm : pending.Perm pending') :
    h.Searching x rounds pending' seen where
  pending_subset := List.Subset.trans hperm.symm.subset hs.pending_subset
  followed y hy := (hs.followed y hy).imp_left fun hy => hperm.subset hy
  distinct := hs.distinct
  known := hs.known
  enough := by rw [← hperm.length_eq]; exact hs.enough

/-- **A step keeps the description of a search** and uses up a round. There is one left,
since what waits was seen and no more can be seen than the declaration has. -/
theorem Searching.follow {w w' : Worklist β} (hs : h.Searching x rounds w.pending w.seen)
    (hstep : h.Follows w w') :
    ∃ left, rounds = left + 1 ∧ h.Searching x left w'.pending w'.seen := by
  obtain ⟨htake, hput⟩ := hstep
  dsimp only at hs
  have hpos : 0 < rounds := by
    -- without a round left the names seen would be as many as can be, and none would wait
    have henough := hs.enough
    have hlength := hs.length_le
    have hpending := htake.length_eq
    rw [List.length_cons] at hpending
    omega
  obtain ⟨left, rfl⟩ : ∃ left, rounds = left + 1 := ⟨rounds - 1, by omega⟩
  exact ⟨left, rfl, (hs.perm htake).step.perm hput.symm⟩

/-- **Every search ends**, however the names are taken. The induction is on the rounds
that are left. -/
theorem acc_search (h : Hierarchy β) (x : β) :
    Acc (fun w' w => h.Follows w w') (Worklist.start x) := by
  suffices hgen : ∀ rounds (w : Worklist β), h.Searching x rounds w.pending w.seen →
      Acc (fun w' w => h.Follows w w') w from hgen _ _ (.init h x)
  intro rounds
  induction rounds with
  | zero =>
    intro w hs
    refine ⟨_, fun w' hstep => ?_⟩
    obtain ⟨left, hleft, -⟩ := hs.follow hstep
    cases hleft
  | succ rounds ih =>
    intro w hs
    refine ⟨_, fun w' hstep => ?_⟩
    obtain ⟨left, hleft, hs'⟩ := hs.follow hstep
    obtain rfl := Nat.succ.inj hleft
    exact ih w' hs'

/-- **What holds all along a search**: it is described by some number of rounds, the name it
started from was seen, and whatever was seen is reached from there. -/
theorem search_invariant {w : Worklist β} (hw : h.Search (.start x) w) :
    (∃ rounds, h.Searching x rounds w.pending w.seen) ∧ x ∈ w.seen ∧
      ∀ y ∈ w.seen, h.Reaches x y := by
  induction hw with
  | refl =>
    exact ⟨⟨_, .init h x⟩, List.mem_singleton_self x,
      fun y hy => .same (List.mem_singleton.1 hy ▸ BEq.rfl)⟩
  | tail _ hstep ih =>
    obtain ⟨⟨rounds, hs⟩, hx, hreached⟩ := ih
    obtain ⟨left, -, hs'⟩ := hs.follow hstep
    refine ⟨⟨left, hs'⟩, ?_⟩
    obtain ⟨htake, -⟩ := hstep
    refine ⟨List.mem_append_left _ hx, fun y hy => ?_⟩
    rcases List.mem_append.1 hy with hy | hy
    · exact hreached y hy
    · have hz := hreached _ (hs.pending_subset (htake.symm.subset List.mem_cons_self))
      exact hz.trans (.of_parent (mem_parentsOf_of_mem_fresh hy))

/-- **What a search has seen at its end** is what can be reached along parents. -/
theorem search_ends_iff {w : Worklist β} (hw : h.Search (.start x) w)
    (hend : ∀ w', ¬ h.Follows w w') (y : β) : w.seen.contains y = true ↔ h.Reaches x y := by
  obtain ⟨⟨rounds, hs⟩, hx, hreached⟩ := search_invariant hw
  have hnil := not_follows_iff.1 hend
  constructor
  · intro hy
    obtain ⟨z, hz, e⟩ := List.contains_iff_exists_mem_beq.1 hy
    exact (hreached z hz).trans (.same (BEq.symm e))
  · -- nothing waits, so all that was seen was followed, and what was seen is closed
    intro r
    refine contains_of_reaches (fun y hy => ?_) ?_ r
    · exact (hs.followed y hy).resolve_left fun hpending => by simp [hnil] at hpending
    · exact List.contains_iff_exists_mem_beq.2 ⟨x, hx, BEq.rfl⟩

/-- **The ancestors of a name are the end of a search**, the one that takes the names that
were seen last first. -/
theorem search_ancestors (h : Hierarchy β) (x : β) :
    h.Search (.start x) ⟨[], h.ancestors x⟩ := by
  suffices hgen : ∀ rounds pending seen, h.Searching x rounds pending seen →
      h.Search ⟨pending, seen⟩ ⟨[], h.reachWithin rounds pending seen⟩ from hgen _ _ _ (.init h x)
  intro rounds
  induction rounds with
  | zero =>
    intro pending seen hs
    rw [hs.pending_eq_nil, reachWithin]
  | succ rounds ih =>
    intro pending seen hs
    cases pending with
    | nil => rw [reachWithin]; simp
    | cons z pending =>
      rw [reachWithin_succ_cons]
      exact .head (.name (.refl _) (.refl _)) (ih _ _ hs.step)

end Hierarchy

end Narrowing
