import Narrowing.Proofs.Branches
import Narrowing.Proofs.Oracle.Join
/-!
# The order of the sort

The sort takes out one entry after another, each with no proper subtype among those that
remain. So what it gives is in order for every oracle (`ordered_of_sortSteps`), which is
all that is verified afterwards, and a list that is in order it leaves alone
(`Ordered.specificitySort_eq`).

A step can only go wrong where every remaining entry has a proper subtype among the
others. For a preorder being a proper subtype is a strict order, a finite list has a
least element for it, and the sort always succeeds
(`Preordered.exists_specificitySort`).
-/

namespace Narrowing

variable {α : Type} [Named α] {ask : Question α}

/-! ## Searches for an affirmed question -/

section Search

variable {β ε : Type} {p : β → Except ε Bool} {xs : List β}

theorem anyOrFail_eq_false_iff : anyOrFail p xs = .ok false ↔ ∀ x ∈ xs, p x = .ok false := by
  induction xs with
  | nil => simp [anyOrFail]
  | cons x xs ih =>
    rw [anyOrFail, List.forall_mem_cons]
    split
    · next hx => simp [hx, ih]
    · next hx => exact iff_of_false hx fun h => hx h.1

theorem exists_of_anyOrFail_eq_true (h : anyOrFail p xs = .ok true) :
    ∃ x ∈ xs, p x = .ok true := by
  induction xs with
  | nil => cases h
  | cons x xs ih =>
    rw [anyOrFail] at h
    split at h
    · obtain ⟨y, hy, hpy⟩ := ih h
      exact ⟨y, List.mem_cons_of_mem x hy, hpy⟩
    · exact ⟨x, List.mem_cons_self, h⟩

theorem exists_anyOrFail_eq_ok (xs : List β) (h : ∀ x ∈ xs, ∃ r, p x = .ok r) :
    ∃ r, anyOrFail p xs = .ok r := by
  induction xs with
  | nil => exact ⟨false, rfl⟩
  | cons x xs ih =>
    obtain ⟨r, hr⟩ := h x List.mem_cons_self
    cases r with
    | true => exact ⟨true, by rw [anyOrFail, hr]⟩
    | false =>
      obtain ⟨s, hs⟩ := ih fun y hy => h y (List.mem_cons_of_mem x hy)
      exact ⟨s, by rw [anyOrFail, hr, hs]⟩

end Search

/-! ## Specificity order -/

/-- **No later entry is a proper subtype of an earlier one**, and there is an answer that
says so. -/
def Ordered (ask : Question α) (ds : List (Descriptor α)) : Prop :=
  ds.Pairwise fun earlier later => ask.proper later earlier = .ok false

theorem verifyAgainst_of_forall {earlier : Descriptor α} {ds : List (Descriptor α)}
    (h : ∀ later ∈ ds, ask.proper later earlier = .ok false) :
    verifyOrder.verifyAgainst ask earlier ds = .ok () := by
  induction ds with
  | nil => rw [verifyOrder.verifyAgainst]
  | cons d ds ih =>
    rw [List.forall_mem_cons] at h
    rw [verifyOrder.verifyAgainst, h.1]
    exact ih h.2

/-- An order that holds is verified. -/
theorem Ordered.verifyOrder_eq {ds : List (Descriptor α)} (h : Ordered ask ds) :
    verifyOrder ask ds = .ok () := by
  induction ds with
  | nil => rw [verifyOrder]
  | cons d ds ih =>
    obtain ⟨hd, hds⟩ := List.pairwise_cons.1 h
    rw [verifyOrder, verifyAgainst_of_forall hd]
    exact ih hds

/-! ## What the sort gives -/

omit [Named α] in
theorem not_proper_of_takeMostSpecific {earlier ds rest : List (Descriptor α)}
    {d : Descriptor α} (h : takeMostSpecific ask earlier ds = .ok (some (d, rest))) :
    ∀ e ∈ rest, ask.proper e d = .ok false := by
  induction ds generalizing earlier with
  | nil => cases h
  | cons c ds ih =>
    rw [takeMostSpecific] at h
    split at h
    · cases h
    · exact ih h
    · next hnone =>
      obtain ⟨rfl, rfl⟩ := Prod.mk.inj (Option.some.inj (Except.ok.inj h))
      exact anyOrFail_eq_false_iff.1 hnone

/-- **What the steps of the sort give is in order**, whatever the oracle. -/
theorem ordered_of_sortSteps {n : Nat} {ds out : List (Descriptor α)} (hn : n = ds.length)
    (h : sortSteps ask n ds = .ok out) : Ordered ask out := by
  induction n generalizing ds out with
  | zero =>
    obtain rfl := Except.ok.inj h
    exact List.Pairwise.nil
  | succ n ih =>
    obtain _ | ⟨e, es⟩ := ds
    · cases hn
    simp only [sortSteps] at h
    split at h
    · cases h
    · cases h
    · next d rest hd =>
      have hlen : n = rest.length := by
        have := (perm_of_takeMostSpecific hd).length_eq
        simp only [List.length_cons, List.nil_append] at this hn
        omega
      cases hs : sortSteps ask n rest with
      | error e => rw [hs] at h; cases h
      | ok sorted =>
        rw [hs] at h
        obtain rfl := Except.ok.inj h
        refine List.pairwise_cons.2 ⟨fun later hlater => ?_, ih hlen hs⟩
        exact not_proper_of_takeMostSpecific hd later
          ((perm_of_sortSteps hlen hs).subset hlater)

theorem ordered_of_specificitySort {ds out : List (Descriptor α)}
    (h : specificitySort ask ds = .ok out) : Ordered ask out := by
  obtain ⟨sorted, hs, h⟩ := exists_of_bind_eq_ok h
  obtain ⟨_, _, h⟩ := exists_of_bind_eq_ok h
  obtain rfl := Except.ok.inj h
  exact ordered_of_sortSteps rfl hs

/-- **The verification never fails**: what the steps give is what the sort gives. -/
theorem specificitySort_of_sortSteps {ds out : List (Descriptor α)}
    (h : sortSteps ask ds.length ds = .ok out) : specificitySort ask ds = .ok out := by
  rw [specificitySort, h]
  show (verifyOrder ask out >>= fun _ => pure out) = _
  rw [(ordered_of_sortSteps rfl h).verifyOrder_eq]
  rfl

/-! ## Lists that are in order -/

/-- In a list that is in order the first entry is taken at each step. -/
theorem Ordered.sortSteps_eq {ds : List (Descriptor α)} (h : Ordered ask ds) :
    sortSteps ask ds.length ds = .ok ds := by
  induction ds with
  | nil => rw [List.length_nil, sortSteps]
  | cons d ds ih =>
    obtain ⟨hd, hds⟩ := List.pairwise_cons.1 h
    have htake : takeMostSpecific ask [] (d :: ds) = .ok (some (d, ds)) := by
      rw [takeMostSpecific, List.nil_append, anyOrFail_eq_false_iff.2 hd]
    rw [List.length_cons, sortSteps]
    · rw [htake]
      simp only [ih hds]
      rfl
    · simp

/-- **A list that is in order is sorted already.** -/
theorem Ordered.specificitySort_eq {ds : List (Descriptor α)} (h : Ordered ask ds) :
    specificitySort ask ds = .ok ds :=
  specificitySort_of_sortSteps h.sortSteps_eq

/-! ## Preorders are sorted -/

omit [Named α] in
theorem exists_proper_of_takeMostSpecific {earlier ds : List (Descriptor α)}
    (h : takeMostSpecific ask earlier ds = .ok none) :
    ∀ d ∈ ds, ∃ e ∈ earlier ++ ds, ask.proper e d = .ok true := by
  induction ds generalizing earlier with
  | nil => exact fun d hd => absurd hd List.not_mem_nil
  | cons c ds ih =>
    rw [takeMostSpecific] at h
    split at h
    · cases h
    · next hsome =>
      refine List.forall_mem_cons.2 ⟨?_, fun d hd => ?_⟩
      · obtain ⟨e, he, hec⟩ := exists_of_anyOrFail_eq_true hsome
        exact ⟨e, ((List.sublist_cons_self c ds).append_left earlier).subset he, hec⟩
      · have := ih h d hd
        rwa [List.append_assoc, List.singleton_append] at this
    · cases h

omit [Named α] in
theorem exists_takeMostSpecific (ho : ask.Answering) (earlier ds : List (Descriptor α)) :
    ∃ r, takeMostSpecific ask earlier ds = .ok r := by
  induction ds generalizing earlier with
  | nil => exact ⟨none, by rw [takeMostSpecific]⟩
  | cons d ds ih =>
    obtain ⟨r, hr⟩ := exists_anyOrFail_eq_ok (earlier ++ ds) fun e _ =>
      ho.proper e d
    rw [takeMostSpecific, hr]
    cases r with
    | true => exact ih _
    | false => exact ⟨_, rfl⟩

namespace Question.Preordered

variable (ho : ask.Preordered)
include ho

omit [Named α] in
/-- **A list has a most specific entry.** -/
theorem exists_most_specific {ds : List (Descriptor α)} (hne : ds ≠ []) :
    ∃ d ∈ ds, ∀ e ∈ ds, ask.proper e d ≠ .ok true := by
  induction ds with
  | nil => exact absurd rfl hne
  | cons d ds ih =>
    by_cases hds : ds = []
    · subst hds
      exact ⟨d, List.mem_cons_self, List.forall_mem_singleton.2 (not_proper_self d)⟩
    · obtain ⟨m, hm, hleast⟩ := ih hds
      by_cases hdm : ask.proper d m = .ok true
      · refine ⟨d, List.mem_cons_self,
          List.forall_mem_cons.2 ⟨not_proper_self d, fun e he hed => ?_⟩⟩
        exact hleast e he (ho.proper_trans hed hdm)
      · exact ⟨m, List.mem_cons_of_mem d hm, List.forall_mem_cons.2 ⟨hdm, hleast⟩⟩

theorem exists_sortSteps (n : Nat) (ds : List (Descriptor α)) :
    ∃ out, sortSteps ask n ds = .ok out := by
  induction n generalizing ds with
  | zero => exact ⟨[], by rw [sortSteps]⟩
  | succ n ih =>
    obtain _ | ⟨d, ds⟩ := ds
    · exact ⟨[], by rw [sortSteps]; simp⟩
    obtain ⟨taken, htaken⟩ := exists_takeMostSpecific ho.answers [] (d :: ds)
    simp only [sortSteps, htaken]
    cases taken with
    | none =>
      obtain ⟨m, hm, hleast⟩ := ho.exists_most_specific (List.cons_ne_nil d ds)
      obtain ⟨e, he, hem⟩ := exists_proper_of_takeMostSpecific htaken m hm
      exact absurd hem (hleast e he)
    | some split =>
      obtain ⟨out, hout⟩ := ih split.2
      exact ⟨split.1 :: out, by simp only [hout]; rfl⟩

/-- **Over a preorder every list is sorted.** -/
theorem exists_specificitySort (ds : List (Descriptor α)) :
    ∃ out, specificitySort ask ds = .ok out := by
  obtain ⟨out, hout⟩ := ho.exists_sortSteps ds.length ds
  exact ⟨out, specificitySort_of_sortSteps hout⟩

end Question.Preordered

end Narrowing
