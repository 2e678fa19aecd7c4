import Narrowing.Oracle.Relation
import Narrowing.Proofs.Branches.Order
import Mathlib.Data.Fintype.EquivFin
import Mathlib.Data.List.FinRange
import Mathlib.Tactic.FinCases
/-!
# When there is no order

An oracle may be wrong, so the relation of being a proper subtype can have cycles, and a
list whose entries lie on one has no specificity order. The sort then stops and shows the
entries that are left, unless one of them cannot be written. This module says exactly when, and
what is left, for every question about subtypes.

Entries can be equal, so all is said of positions in the list: `Precedes` compares what
stands at two of them. One step of the sort takes out the first position that nothing left
precedes (`SortStep`), and a run of steps ends with nothing left, with positions that are
all preceded among themselves, or with a comparison that has no answer (`SortsTo`). Two
arguments link being stuck to a cycle. A set of positions each of which is preceded within
the set never loses a member to a step, so a cycle is never sorted
(`SortRun.subset_left`). And a finite relation without cycles has a least element in every
set, so where the run is stuck there is a cycle (`exists_onCycle`).
-/

namespace Narrowing

variable {α : Type} {ask : Question α} {ds : List (Descriptor α)}

/-! ## Positions -/

/-- What stands at one position is a proper subtype of what stands at another. -/
def Precedes (ask : Question α) (ds : List (Descriptor α)) (i j : Fin ds.length) : Prop :=
  ask.proper (ds.get i) (ds.get j) = .ok true

/-- **A position on a cycle** of proper subtypes through the list. -/
def OnCycle (ask : Question α) (ds : List (Descriptor α)) (i : Fin ds.length) : Prop :=
  Relation.TransGen (Precedes ask ds) i i

/-- No position precedes itself. -/
theorem Precedes.ne {i j : Fin ds.length} (h : Precedes ask ds i j) : i ≠ j := by
  rintro rfl
  exact not_proper_self _ h

/-- A position on a cycle is preceded by one. -/
theorem OnCycle.exists_precedes {i : Fin ds.length} (h : OnCycle ask ds i) :
    ∃ j, OnCycle ask ds j ∧ Precedes ask ds j i := by
  obtain ⟨j, hij, hji⟩ := Relation.TransGen.tail'_iff.1 h
  exact ⟨j, Relation.TransGen.head' hji hij, hji⟩

/-- **Positions that are all preceded among themselves meet a cycle.** -/
theorem exists_onCycle {left : List (Fin ds.length)} (hne : left ≠ [])
    (h : ∀ i ∈ left, ∃ j ∈ left, Precedes ask ds j i) : ∃ i, OnCycle ask ds i := by
  by_contra hcycle
  have hirrefl : Std.Irrefl (Relation.TransGen (Precedes ask ds)) :=
    ⟨fun i hi => hcycle ⟨i, hi⟩⟩
  have hwf : WellFounded (Relation.TransGen (Precedes ask ds)) :=
    Finite.wellFounded_of_trans_of_irrefl _
  obtain ⟨m, hm, hleast⟩ := hwf.has_min {i | i ∈ left} (List.exists_mem_of_ne_nil left hne)
  obtain ⟨j, hj, hjm⟩ := h m hm
  exact hleast j hj (.single hjm)

/-! ## Steps of the sort -/

/-- **One step**: the first position left that nothing left precedes is taken out. -/
inductive SortStep (ask : Question α) (ds : List (Descriptor α)) :
    List (Fin ds.length) → Fin ds.length → List (Fin ds.length) → Prop
  | take {before after : List (Fin ds.length)} {i : Fin ds.length}
    (hfree : ∀ j ∈ before ++ after, ask.proper (ds.get j) (ds.get i) = .ok false)
    (hpassed : ∀ j ∈ before, ∃ k ∈ before ++ i :: after, Precedes ask ds k j) :
    SortStep ask ds (before ++ i :: after) i (before ++ after)

/-- **Some steps**: from the positions at the start, those taken out in turn and those left. -/
inductive SortRun (ask : Question α) (ds : List (Descriptor α)) :
    List (Fin ds.length) → List (Fin ds.length) → List (Fin ds.length) → Prop
  | stop (left : List (Fin ds.length)) : SortRun ask ds left [] left
  | step {start rest taken left : List (Fin ds.length)} {i : Fin ds.length}
    (hstep : SortStep ask ds start i rest) (hrun : SortRun ask ds rest taken left) :
    SortRun ask ds start (i :: taken) left

/-- **How the sort ends**, from some positions. -/
inductive SortsTo [Named α] (ask : Question α) (ds : List (Descriptor α)) (start : List (Fin ds.length)) :
    Except (Fault α) (List (Descriptor α)) → Prop
  /-- Every position is taken out. -/
  | sorted {taken : List (Fin ds.length)} (hrun : SortRun ask ds start taken []) :
    SortsTo ask ds start (.ok (taken.map ds.get))
  /-- Those left are all preceded among themselves. -/
  | stuck {taken left : List (Fin ds.length)} (hrun : SortRun ask ds start taken left)
    (hne : left ≠ []) (hleft : ∀ i ∈ left, ∃ j ∈ left, Precedes ask ds j i) :
    SortsTo ask ds start (.error (Fault.cyclic (left.map ds.get)).reported)
  /-- A comparison has no answer. -/
  | unanswered {i j : Fin ds.length} {f : Fault α} (hne : i ≠ j)
    (h : ask.proper (ds.get i) (ds.get j) = .error f) : SortsTo ask ds start (.error f)

/-- The positions of a step that was not missed and of those after it. -/
theorem SortsTo.step [Named α] {start rest : List (Fin ds.length)} {i : Fin ds.length}
    {out : Except (Fault α) (List (Descriptor α))} (hstep : SortStep ask ds start i rest)
    (h : SortsTo ask ds rest out) : SortsTo ask ds start (out.map (ds.get i :: ·)) := by
  cases h with
  | sorted hrun => exact .sorted (.step hstep hrun)
  | stuck hrun hne hleft => exact .stuck (.step hstep hrun) hne hleft
  | unanswered hne h => exact .unanswered hne h

/-! ## The sort runs by these steps -/

theorem exists_of_anyOrFail_eq_error {β ε : Type} {p : β → Except ε Bool} {xs : List β} {e : ε}
    (h : anyOrFail p xs = .error e) : ∃ x ∈ xs, p x = .error e := by
  induction xs with
  | nil => cases h
  | cons x xs ih =>
    rw [anyOrFail] at h
    split at h
    · obtain ⟨y, hy, hpy⟩ := ih h
      exact ⟨y, List.mem_cons_of_mem x hy, hpy⟩
    · exact ⟨x, List.mem_cons_self, h⟩

/-- What is taken out of the entries at some positions. -/
theorem exists_split_of_takeMostSpecific (earlier : List (Fin ds.length))
    {start : List (Fin ds.length)} {d : Descriptor α} {rest : List (Descriptor α)}
    (h : takeMostSpecific ask (earlier.map ds.get) (start.map ds.get) = .ok (some (d, rest))) :
    ∃ before i after, start = before ++ i :: after ∧ d = ds.get i ∧
      rest = (earlier ++ before ++ after).map ds.get ∧
      (∀ j ∈ earlier ++ before ++ after,
        ask.proper (ds.get j) (ds.get i) = .ok false) ∧
      ∀ j ∈ before, ∃ k ∈ earlier ++ start, Precedes ask ds k j := by
  induction start generalizing earlier with
  | nil => cases h
  | cons c start ih =>
    rw [List.map_cons, takeMostSpecific, ← List.map_append] at h
    split at h
    · cases h
    · next hsome =>
      rw [← List.map_singleton, ← List.map_append] at h
      obtain ⟨before, i, after, rfl, rfl, rfl, hfree, hpassed⟩ := ih (earlier ++ [c]) h
      obtain ⟨d, hd, hdc⟩ := exists_of_anyOrFail_eq_true hsome
      obtain ⟨k, hk, rfl⟩ := List.mem_map.1 hd
      refine ⟨c :: before, i, after, rfl, rfl, by simp, by simpa using hfree, ?_⟩
      refine List.forall_mem_cons.2 ⟨⟨k, ?_, hdc⟩, fun j hj => ?_⟩
      · exact ((List.sublist_cons_self c _).append_left earlier).subset hk
      · simpa using hpassed j hj
    · next hnone =>
      obtain ⟨rfl, rfl⟩ := Prod.mk.inj (Option.some.inj (Except.ok.inj h))
      refine ⟨[], c, start, rfl, rfl, by simp, fun j hj => ?_, by simp⟩
      rw [List.append_nil] at hj
      exact anyOrFail_eq_false_iff.1 hnone _ (List.mem_map_of_mem hj)

/-- A search among some positions fails on a comparison of two of them. -/
theorem exists_of_takeMostSpecific_eq_error (earlier : List (Fin ds.length))
    {start : List (Fin ds.length)} {e : Fault α} (hnodup : (earlier ++ start).Nodup)
    (h : takeMostSpecific ask (earlier.map ds.get) (start.map ds.get) = .error e) :
    ∃ i j, i ≠ j ∧ ask.proper (ds.get i) (ds.get j) = .error e := by
  induction start generalizing earlier with
  | nil => cases h
  | cons c start ih =>
    rw [List.map_cons, takeMostSpecific, ← List.map_append] at h
    split at h
    · next herror =>
      obtain rfl := Except.error.inj h
      obtain ⟨d, hd, hdc⟩ := exists_of_anyOrFail_eq_error herror
      obtain ⟨k, hk, rfl⟩ := List.mem_map.1 hd
      refine ⟨k, c, ?_, hdc⟩
      rintro rfl
      exact (List.nodup_middle.1 hnodup).notMem hk
    · rw [← List.map_singleton, ← List.map_append] at h
      exact ih (earlier ++ [c]) (by simpa using hnodup) h
    · cases h

/-- **The steps of the sort**, from some positions. -/
theorem sortsTo_sortSteps [Named α] {n : Nat} {start : List (Fin ds.length)} (hn : n = start.length)
    (hnodup : start.Nodup) : SortsTo ask ds start (sortSteps ask n (start.map ds.get)) := by
  induction n generalizing start with
  | zero =>
    obtain rfl := List.length_eq_zero_iff.1 hn.symm
    rw [sortSteps]
    exact .sorted (.stop [])
  | succ n ih =>
    have hne : start ≠ [] := by
      rintro rfl
      cases hn
    cases htake : takeMostSpecific ask [] (start.map ds.get) with
    | error e =>
      obtain ⟨i, j, hij, he⟩ :=
        exists_of_takeMostSpecific_eq_error [] (by simpa using hnodup) htake
      rw [sortSteps, htake]
      · exact .unanswered hij he
      · simpa using hne
    | ok taken =>
      cases taken with
      | none =>
        rw [sortSteps, htake]
        · refine .stuck (.stop start) hne fun i hi => ?_
          obtain ⟨d, hd, hdi⟩ := exists_proper_of_takeMostSpecific htake (ds.get i)
            (List.mem_map_of_mem hi)
          obtain ⟨j, hj, rfl⟩ := List.mem_map.1 hd
          exact ⟨j, hj, hdi⟩
        · simpa using hne
      | some split =>
        obtain ⟨d, rest⟩ := split
        obtain ⟨before, i, after, rfl, rfl, rfl, hfree, hpassed⟩ :=
          exists_split_of_takeMostSpecific [] htake
        rw [sortSteps, htake]
        · refine SortsTo.step (.take hfree hpassed) (ih ?_ (List.nodup_middle.1 hnodup).of_cons)
          simp only [List.length_append, List.length_cons] at hn ⊢
          omega
        · simp

/-- **The verification after the sort changes nothing.** -/
theorem specificitySort_eq_sortSteps [Named α] (ask : Question α) (ds : List (Descriptor α)) :
    specificitySort ask ds = sortSteps ask ds.length ds := by
  cases h : sortSteps ask ds.length ds with
  | error e =>
    rw [specificitySort, h]
    rfl
  | ok out => exact specificitySort_of_sortSteps h

/-- **How the sort of a list ends.** -/
theorem sortsTo_specificitySort [Named α] (ask : Question α) (ds : List (Descriptor α)) :
    SortsTo ask ds (List.finRange ds.length) (specificitySort ask ds) := by
  have h : SortsTo ask ds (List.finRange ds.length)
      (sortSteps ask ds.length ((List.finRange ds.length).map ds.get)) :=
    sortsTo_sortSteps List.length_finRange.symm (List.nodup_finRange ds.length)
  rwa [List.map_get_finRange, ← specificitySort_eq_sortSteps] at h

/-! ## What a run leaves -/

theorem SortStep.sublist {start rest : List (Fin ds.length)} {i : Fin ds.length}
    (h : SortStep ask ds start i rest) : rest.Sublist start := by
  cases h with
  | take _ _ => exact (List.sublist_cons_self _ _).append_left _

/-- The positions left are in the order of the list. -/
theorem SortRun.sublist {start taken left : List (Fin ds.length)}
    (h : SortRun ask ds start taken left) : left.Sublist start := by
  induction h with
  | stop left => exact List.Sublist.refl left
  | step hstep _ ih => exact ih.trans hstep.sublist

/-- A step takes nothing out of a set in which every position is preceded. -/
theorem SortStep.subset_rest {start rest : List (Fin ds.length)} {i : Fin ds.length}
    (h : SortStep ask ds start i rest) {s : Set (Fin ds.length)}
    (hs : ∀ i ∈ s, ∃ j ∈ s, Precedes ask ds j i) (hstart : ∀ i ∈ s, i ∈ start) :
    ∀ i ∈ s, i ∈ rest := by
  cases h with
  | @take before after i hfree _ =>
    have hrest : ∀ j ∈ s, j ≠ i → j ∈ before ++ after := by
      intro j hj hne
      simpa [hne] using hstart j hj
    intro j hj
    refine hrest j hj ?_
    rintro rfl
    obtain ⟨k, hk, hkj⟩ := hs j hj
    have hfalse := hfree k (hrest k hk hkj.ne)
    rw [hkj] at hfalse
    cases hfalse

theorem SortRun.subset_left {start taken left : List (Fin ds.length)}
    (h : SortRun ask ds start taken left) {s : Set (Fin ds.length)}
    (hs : ∀ i ∈ s, ∃ j ∈ s, Precedes ask ds j i) (hstart : ∀ i ∈ s, i ∈ start) :
    ∀ i ∈ s, i ∈ left := by
  induction h with
  | stop left => exact hstart
  | step hstep _ ih => exact ih (hstep.subset_rest hs hstart)

/-- Positions on a cycle are never taken out. -/
theorem SortRun.onCycle_mem_left {taken left : List (Fin ds.length)}
    (h : SortRun ask ds (List.finRange ds.length) taken left) {i : Fin ds.length}
    (hi : OnCycle ask ds i) : i ∈ left :=
  h.subset_left (s := {i | OnCycle ask ds i}) (fun _ hj => hj.exists_precedes)
    (fun j _ => List.mem_finRange j) i hi

/-! ## Transitive relations -/

/-- Along a chain of proper subtypes a transitive relation holds. -/
theorem subtype_of_transGen
    (htrans : ∀ a ∈ ds, ∀ b ∈ ds, ∀ c ∈ ds, ask a b = .ok true →
      ask b c = .ok true → ask a c = .ok true)
    {i j : Fin ds.length} (h : Relation.TransGen (Precedes ask ds) i j) :
    ask (ds.get i) (ds.get j) = .ok true := by
  induction h with
  | single h => exact (Question.proper_eq_true_iff.1 h).1
  | tail _ h ih =>
    exact htrans _ (ds.get_mem _) _ (ds.get_mem _) _ (ds.get_mem _) ih
      (Question.proper_eq_true_iff.1 h).1

/-- **Over a transitive relation there is no cycle.** -/
theorem not_onCycle_of_transitive
    (htrans : ∀ a ∈ ds, ∀ b ∈ ds, ∀ c ∈ ds, ask a b = .ok true →
      ask b c = .ok true → ask a c = .ok true)
    (i : Fin ds.length) : ¬ OnCycle ask ds i := by
  intro h
  obtain ⟨j, hij, hji⟩ := Relation.TransGen.head'_iff.1 h
  rcases Relation.reflTransGen_iff_eq_or_transGen.1 hji with rfl | hji
  · exact hij.ne rfl
  · have hback := subtype_of_transGen htrans hji
    rw [(Question.proper_eq_true_iff.1 hij).2] at hback
    cases hback

/-! ## The fault of the sort -/

/-- **What a cyclic fault reports**: positions in the order of the list, all that lie on
cycles among them, each of them preceded by one of them. -/
structure Reported (ask : Question α) (ds : List (Descriptor α)) (left : List (Fin ds.length)) :
    Prop where
  inOrder : left.Pairwise (· < ·)
  cycles : ∀ i, OnCycle ask ds i → i ∈ left
  preceded : ∀ i ∈ left, ∃ j ∈ left, Precedes ask ds j i

/-- A list has no order: some position lies on a cycle. -/
theorem exists_onCycle_of_stuck {taken left : List (Fin ds.length)}
    (hrun : SortRun ask ds (List.finRange ds.length) taken left) (hne : left ≠ [])
    (hleft : ∀ i ∈ left, ∃ j ∈ left, Precedes ask ds j i) :
    (∃ i, OnCycle ask ds i) ∧ Reported ask ds left where
  left := exists_onCycle hne hleft
  right := {
    inOrder := (List.pairwise_lt_finRange ds.length).sublist hrun.sublist
    cycles := fun _ hi => hrun.onCycle_mem_left hi
    preceded := hleft }

/-- **The sort fails exactly on cycles.** For every question and list: either a comparison of two
entries fails, and the sort fails like it; or no position lies on a cycle of proper subtypes, and
the list is sorted; or one does, and then the sort reports as cyclic entries in the order of the
list, all those on cycles among them, each with a proper subtype among them – or that one of these
cannot be written. The verification of what the steps give never fails; and where the relation is
transitive on the entries there is no cycle. -/
theorem cyclic_iff_of_specificitySort [Named α] (ask : Question α) (ds : List (Descriptor α)) :
    ((∃ i j f, i ≠ j ∧ ask.proper (ds.get i) (ds.get j) = .error f ∧
        specificitySort ask ds = .error f) ∨
      (¬ (∃ i, OnCycle ask ds i) ∧ ∃ out, specificitySort ask ds = .ok out) ∨
      ((∃ i, OnCycle ask ds i) ∧ ∃ left,
        specificitySort ask ds = .error (Fault.cyclic (left.map ds.get)).reported ∧
          Reported ask ds left)) ∧
    (∀ out, sortSteps ask ds.length ds = .ok out → verifyOrder ask out = .ok ()) ∧
    ((∀ a ∈ ds, ∀ b ∈ ds, ∀ c ∈ ds, ask a b = .ok true →
        ask b c = .ok true → ask a c = .ok true) → ¬ ∃ i, OnCycle ask ds i) := by
  refine ⟨?_, fun out hout => (ordered_of_sortSteps rfl hout).verifyOrder_eq,
    fun htrans ⟨i, hi⟩ => not_onCycle_of_transitive htrans i hi⟩
  have hends := sortsTo_specificitySort ask ds
  generalize specificitySort ask ds = result at hends ⊢
  cases hends with
  | sorted hrun =>
    refine .inr (.inl ⟨fun ⟨i, hi⟩ => ?_, _, rfl⟩)
    exact List.not_mem_nil (hrun.onCycle_mem_left hi)
  | @stuck _ left hrun hne hleft =>
    obtain ⟨hcycle, hreported⟩ := exists_onCycle_of_stuck hrun hne hleft
    exact .inr (.inr ⟨hcycle, left, rfl, hreported⟩)
  | unanswered hne h => exact .inl ⟨_, _, _, hne, h, rfl⟩

/-- Three atoms in a ring, and one above the ring. -/
def knot : BareRelation String Unit Unit where
  pairs := [(.atom "A", .atom "B"), (.atom "B", .atom "C"), (.atom "C", .atom "A"),
    (.atom "A", .atom "Above")]

/-- Every comparison over them has an answer. -/
theorem exists_proper_knot : ∀ i j : Fin 5, ∃ r, (knot.decider ()).subtype.proper
    ([.atom "Above", .atom "Other", .atom "A", .atom "C", .atom "B"].get i)
    ([.atom "Above", .atom "Other", .atom "A", .atom "C", .atom "B"].get j) = .ok r := by
  intro i j
  fin_cases i <;> fin_cases j <;> exact ⟨_, rfl⟩

/-- What is above a cycle is reported although it lies on none; what is unrelated is not. -/
theorem cyclic_iff_of_specificitySort_knot :
    specificitySort (knot.decider ()).subtype
        [.atom "Above", .atom "Other", .atom "A", .atom "C", .atom "B"] =
      .error (.cyclic [.atom "Above", .atom "A", .atom "C", .atom "B"]) ∧
    ∃ i, OnCycle (knot.decider ()).subtype
      [.atom "Above", .atom "Other", .atom "A", .atom "C", .atom "B"] i := by
  have hcyclic : specificitySort (knot.decider ()).subtype
      [.atom "Above", .atom "Other", .atom "A", .atom "C", .atom "B"] =
        .error (.cyclic [.atom "Above", .atom "A", .atom "C", .atom "B"]) := by rfl
  have hends := (cyclic_iff_of_specificitySort (knot.decider ()).subtype
    [.atom "Above", .atom "Other", .atom "A", .atom "C", .atom "B"]).1
  rw [hcyclic] at hends
  refine ⟨hcyclic, ?_⟩
  rcases hends with ⟨i, j, f, -, hf, hfault⟩ | ⟨-, out, hout⟩ | ⟨hcycle, -⟩
  · obtain ⟨r, hr⟩ := exists_proper_knot i j
    cases hf.symm.trans hr
  · cases hout
  · exact hcycle

end Narrowing
