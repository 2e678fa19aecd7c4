import Narrowing.Proofs.Branches.Cycle
import Narrowing.Proofs.Oracle.Valuation
/-!
# In which sense the sort is stable

A list has many specificity orders. The sort gives the one that differs least from the list
itself: compared by the positions that its entries had in the list, it is the
lexicographically least of them all (`least_of_specificitySort`). So a list that is in order
is not changed.

The argument is an exchange at the first position. What a step passes over before the
position it takes is preceded by something left, so no order of what is left begins with it;
and what comes after is larger (`SortRun.least`).
-/

namespace Narrowing

open NominalTypes (amongIntegers integers_preordered)

variable {α : Type} {ask : Question α} {ds : List (Descriptor α)}

/-- One order of positions is another one or comes before it lexicographically. -/
def NoLater {n : Nat} (ps qs : List (Fin n)) : Prop :=
  ps = qs ∨ List.Lex (· < ·) ps qs

theorem NoLater.cons {n : Nat} (i : Fin n) {ps qs : List (Fin n)} (h : NoLater ps qs) :
    NoLater (i :: ps) (i :: qs) :=
  h.imp (congrArg _) .cons

/-- Nothing is before an increasing list of positions among its permutations. -/
theorem NoLater.eq_of_pairwise {n : Nat} {ps qs : List (Fin n)} (h : NoLater ps qs)
    (hperm : ps.Perm qs) (hqs : qs.Pairwise (· < ·)) : ps = qs := by
  induction qs generalizing ps with
  | nil => exact List.perm_nil.1 hperm
  | cons q qs ih =>
    rcases h with h | h
    · exact h
    · cases h with
      | nil => exact absurd hperm.length_eq (by simp)
      | cons h => exact congrArg _ (ih (.inr h) hperm.cons_inv hqs.of_cons)
      | rel h =>
        rename_i p _
        rcases List.mem_cons.1 (hperm.subset List.mem_cons_self) with rfl | hp
        · exact absurd h (lt_irrefl _)
        · exact absurd h (lt_asymm ((List.pairwise_cons.1 hqs).1 _ hp))

/-- The positions taken out and those left are those at the start. -/
theorem SortRun.perm {start taken left : List (Fin ds.length)}
    (h : SortRun ask ds start taken left) : (taken ++ left).Perm start := by
  induction h with
  | stop left => exact List.Perm.refl left
  | step hstep _ ih =>
    cases hstep with
    | take _ _ => exact (ih.cons _).trans List.perm_middle.symm

/-- **Every order of what is left comes no earlier than the one the sort takes.** -/
theorem SortRun.least {start taken qs : List (Fin ds.length)}
    (h : SortRun ask ds start taken []) (hstart : start.Pairwise (· < ·)) (hperm : qs.Perm start)
    (hqs : Specific ask (qs.map ds.get)) : NoLater taken qs := by
  generalize hleft : ([] : List (Fin ds.length)) = left at h
  induction h generalizing qs with
  | stop left =>
    subst hleft
    exact .inl (List.perm_nil.1 hperm).symm
  | @step _ _ _ _ i hstep _ ih =>
    cases hstep with
    | @take before after _ _ hpassed =>
      cases qs with
      | nil => exact absurd hperm.length_eq (by simp)
      | cons q qs =>
        obtain ⟨hq, hqs⟩ := List.pairwise_cons.1 hqs
        rcases List.mem_append.1 (hperm.subset List.mem_cons_self) with hbefore | hafter
        · -- what was passed over cannot come first: something left precedes it
          obtain ⟨k, hk, hkq⟩ := hpassed q hbefore
          have hk : k ∈ qs := (List.mem_cons.1 (hperm.symm.subset hk)).resolve_left hkq.ne
          exact absurd hkq (hq _ (List.mem_map_of_mem hk))
        · rcases List.mem_cons.1 hafter with rfl | hafter
          · have hrest : qs.Perm (before ++ after) := (hperm.trans List.perm_middle).cons_inv
            exact (ih (hstart.sublist ((List.sublist_cons_self _ _).append_left _)) hrest hqs
              hleft).cons q
          · have hlt : i < q := (List.pairwise_cons.1 (List.pairwise_append.1 hstart).2.1).1 q
              hafter
            exact .inr (.rel hlt)

/-- **The stable order** of a list, by positions: a permutation in order, the
lexicographically least one. -/
structure StableOrder (ask : Question α) (ds : List (Descriptor α))
    (ps : List (Fin ds.length)) : Prop where
  perm : ps.Perm (List.finRange ds.length)
  ordered : Ordered ask (ps.map ds.get)
  least : ∀ qs : List (Fin ds.length), qs.Perm (List.finRange ds.length) →
    Specific ask (qs.map ds.get) → NoLater ps qs

/-- **The sort gives the least order.** For every question and every list without a cycle of
proper subtypes: either a comparison of two entries fails, and the sort fails like it, or the list
is sorted into a permutation in which no later entry is a proper subtype of an earlier one, and of
all such permutations it is the one whose sequence of positions is lexicographically least; so a
list in order is given back. -/
theorem least_of_specificitySort [Named α] (ask : Question α) (ds : List (Descriptor α))
    (hacyclic : ∀ i, ¬ OnCycle ask ds i) :
    (∃ ps, specificitySort ask ds = .ok (ps.map ds.get) ∧ StableOrder ask ds ps ∧
      (ps.map ds.get).Perm ds ∧ (Specific ask ds → specificitySort ask ds = .ok ds)) ∨
    ∃ i j f, i ≠ j ∧ ask.proper (ds.get i) (ds.get j) = .error f ∧
      specificitySort ask ds = .error f := by
  have hends := sortsTo_specificitySort ask ds
  generalize hresult : specificitySort ask ds = result at hends
  cases hends with
  | @sorted ps hrun =>
    have hperm : ps.Perm (List.finRange ds.length) := by simpa using hrun.perm
    have hleast : ∀ qs : List (Fin ds.length), qs.Perm (List.finRange ds.length) →
        Specific ask (qs.map ds.get) → NoLater ps qs :=
      fun _ => hrun.least (List.pairwise_lt_finRange ds.length)
    refine .inl ⟨ps, rfl, ⟨hperm, ordered_of_specificitySort hresult, hleast⟩, ?_, fun hds => ?_⟩
    · have := hperm.map ds.get
      rwa [List.map_get_finRange] at this
    · have hself := hleast _ (List.Perm.refl _) (by rwa [List.map_get_finRange])
      rw [hself.eq_of_pairwise hperm (List.pairwise_lt_finRange ds.length),
        List.map_get_finRange]
  | stuck _ hne hleft =>
    obtain ⟨i, hi⟩ := exists_onCycle hne hleft
    exact absurd hi (hacyclic i)
  | unanswered hne h => exact .inr ⟨_, _, _, hne, h, rfl⟩

/-- The integers move behind their two kinds and no further. -/
theorem least_of_specificitySort_integers :
    (∀ i, ¬ OnCycle amongIntegers
      [.atom "String", .atom "Integer", .atom "Bignum", .atom "Fixnum"] i) ∧
    ∃ ps, StableOrder amongIntegers
        [.atom "String", .atom "Integer", .atom "Bignum", .atom "Fixnum"] ps ∧
      ps.map [.atom "String", .atom "Integer", .atom "Bignum", .atom "Fixnum"].get =
        [.atom "String", .atom "Bignum", .atom "Fixnum", .atom "Integer"] := by
  have hsorted : specificitySort amongIntegers
      [.atom "String", .atom "Integer", .atom "Bignum", .atom "Fixnum"] =
        .ok [.atom "String", .atom "Bignum", .atom "Fixnum", .atom "Integer"] := by rfl
  have hacyclic : ∀ i, ¬ OnCycle amongIntegers
      [.atom "String", .atom "Integer", .atom "Bignum", .atom "Fixnum"] i :=
    not_onCycle_of_transitive fun _ _ _ _ _ _ => integers_preordered.trans
  refine ⟨hacyclic, ?_⟩
  rcases least_of_specificitySort amongIntegers _ hacyclic with
    ⟨ps, hps, hstable, -⟩ | ⟨_, _, _, -, -, hfault⟩
  · exact ⟨ps, hstable, Except.ok.inj (hps.symm.trans hsorted)⟩
  · exact absurd (hfault.symm.trans hsorted) (by simp)

end Narrowing
