import Narrowing.Proofs.Equality
import Narrowing.Proofs.Oracle.Below
import Mathlib.Data.Set.Card
import Mathlib.Logic.Relation
/-!
# Expansions that end

A sealed atom expands to its parts, and the atoms of these may be sealed again.
Where no atom comes back to itself in this way the search for a subtype relation
always has an answer (`Acyclic.isSubtype_answers`), and so it decides the relation
(`Acyclic.isSubtype_eq_true_iff`).

The search counts nested expansions and gives up at a bound. What makes the bound
sufficient is the **rank** of an atom: how many declarations are met from it on.
An expansion leaves the declaration of the expanded atom behind for good, so the
rank falls with every expansion; and it never exceeds the number of declarations.
-/

namespace Narrowing

namespace Oracle

variable {α κ π : Type} [BEq α]

/-- An atom occurs in the parts of another. -/
def ExpandsTo (o : Oracle α κ π) (a b : α) : Prop :=
  ∃ p ∈ o.expand (.atom a), b ∈ (o.normalForm p).atoms

/-- **No sealed atom expands into itself**, at any depth. -/
def Acyclic (o : Oracle α κ π) : Prop :=
  ∀ a, ¬ Relation.TransGen o.ExpandsTo a a

variable {o : Oracle α κ π}

/-! ## Nested expansions -/

/-- At most so many expansions nest below an atom. -/
def NestsAtMost (o : Oracle α κ π) : Nat → α → Prop
  | 0, a => o.expand (.atom a) = []
  | n + 1, a => ∀ b, o.ExpandsTo a b → NestsAtMost o n b

section Search

variable {ask : Question α}

theorem exists_allOrFail_eq_ok {ε β : Type} {p : β → Except ε Bool} {xs : List β}
    (h : ∀ x ∈ xs, ∃ r, p x = .ok r) : ∃ r, allOrFail p xs = .ok r := by
  induction xs with
  | nil => exact ⟨true, rfl⟩
  | cons x xs ih =>
    obtain ⟨r, hr⟩ := h x List.mem_cons_self
    cases r with
    | false => exact ⟨false, by rw [allOrFail, hr]⟩
    | true =>
      obtain ⟨s, hs⟩ := ih fun y hy => h y (List.mem_cons_of_mem x hy)
      exact ⟨s, by rw [allOrFail, hr, hs]⟩

/-- There is an answer about each part of an atom. -/
def AnswersParts (o : Oracle α κ π) (ask : Question α) (a : α) : Prop :=
  ∀ p ∈ o.expand (.atom a), ∀ b, ∃ r, ask (o.normalForm p) b = .ok r

theorem partsBelow_answers {a : α} (h : o.AnswersParts ask a) (b : Descriptor α) :
    ∃ r, o.partsBelow ask a b = .ok r := by
  unfold partsBelow
  split
  · exact ⟨false, rfl⟩
  · exact exists_allOrFail_eq_ok fun p hp => h p hp b

theorem atomBelowSome_answers {a : α} {ms : List (Descriptor α)}
    (h : ∀ m ∈ ms, ∃ r, o.atomBelow ask a m = .ok r) :
    ∃ r, o.atomBelowSome ask a ms = .ok r := by
  induction ms with
  | nil => exact ⟨false, by rw [atomBelowSome]⟩
  | cons m ms ih =>
    obtain ⟨r, hr⟩ := h m List.mem_cons_self
    rw [atomBelowSome, hr]
    cases r with
    | true => exact ⟨true, rfl⟩
    | false => exact ih fun n hn => h n (List.mem_cons_of_mem m hn)

theorem atomBelow_answers {a : α} (h : o.AnswersParts ask a) (b : Descriptor α) :
    ∃ r, o.atomBelow ask a b = .ok r := by
  induction b with
  | atom b =>
    rw [atomBelow]
    split
    · exact ⟨true, rfl⟩
    · exact partsBelow_answers h _
  | top => exact ⟨true, by rw [atomBelow]⟩
  | bottom => exact ⟨false, by rw [atomBelow]⟩
  | union ms ih =>
    obtain ⟨r, hr⟩ := atomBelowSome_answers ih
    rw [atomBelow, hr]
    cases r with
    | true => exact ⟨true, rfl⟩
    | false => exact partsBelow_answers h _

theorem allBelow_answers {ms : List (Descriptor α)} {b : Descriptor α}
    (h : ∀ m ∈ ms, ∃ r, o.descriptorBelow ask m b = .ok r) :
    ∃ r, o.allBelow ask ms b = .ok r := by
  induction ms with
  | nil => exact ⟨true, by rw [allBelow]⟩
  | cons m ms ih =>
    obtain ⟨r, hr⟩ := h m List.mem_cons_self
    rw [allBelow, hr]
    cases r with
    | false => exact ⟨false, rfl⟩
    | true => exact ih fun n hn => h n (List.mem_cons_of_mem m hn)

theorem descriptorBelow_answers {a : Descriptor α}
    (h : ∀ x ∈ a.atoms, o.AnswersParts ask x) (b : Descriptor α) :
    ∃ r, o.descriptorBelow ask a b = .ok r := by
  induction a with
  | atom a =>
    rw [descriptorBelow]
    exact atomBelow_answers (h a (by simp)) b
  | top => exact ⟨o.holdsAll b, by rw [descriptorBelow]⟩
  | bottom => exact ⟨true, by rw [descriptorBelow]⟩
  | union ms ih =>
    rw [descriptorBelow]
    split
    · exact ⟨true, rfl⟩
    · refine allBelow_answers fun m hm => ih m hm fun x hx => ?_
      exact h x (Descriptor.mem_atoms_union.2 ⟨m, hm, hx⟩)

/-- The search has an answer if no more expansions nest than are at hand. -/
theorem belowWithin_answers {n : Nat} {a : Descriptor α}
    (h : ∀ x ∈ a.atoms, o.NestsAtMost n x) (b : Descriptor α) :
    ∃ r, o.belowWithin n a b = .ok r := by
  induction n generalizing a b with
  | zero =>
    rw [belowWithin]
    refine descriptorBelow_answers (fun x hx p hp => ?_) b
    rw [show o.expand (.atom x) = [] from h x hx] at hp
    exact absurd hp List.not_mem_nil
  | succ n ih =>
    rw [belowWithin]
    exact descriptorBelow_answers
      (fun x hx p hp c => ih (fun y hy => h x hx y ⟨p, hp, hy⟩) c) b

end Search

/-- Where nothing is sealed nothing expands into itself. -/
theorem acyclic_of_unsealed (ho : ∀ a, o.expand (.atom a) = []) : o.Acyclic := by
  intro a h
  obtain ⟨b, ⟨p, hp, -⟩, -⟩ := Relation.TransGen.head'_iff.1 h
  rw [ho] at hp
  exact absurd hp List.not_mem_nil

/-! ## The rank of an atom -/

section Rank

/-- An atom occurs in the parts of another, in the given sense of occurring. -/
def ExpandsBy (o : Oracle α κ π) (occurs : Descriptor α → α → Prop) (a b : α) : Prop :=
  ∃ p ∈ o.expand (.atom a), occurs p b

/-- The declarations met from an atom on: those of the atoms that it expands to, in
any number of steps, none included. -/
def metBy (o : Oracle α κ π) (occurs : Descriptor α → α → Prop) (a : α) :
    Set (Fin o.sealedParts.length) :=
  {i | ∃ b, Relation.ReflTransGen (o.ExpandsBy occurs) a b ∧
    (Descriptor.atom b == o.sealedParts[i].1) = true}

/-- How many declarations are met from an atom on, in the given sense of occurring. -/
noncomputable def rankBy (o : Oracle α κ π) (occurs : Descriptor α → α → Prop) (a : α) : Nat :=
  (o.metBy occurs a).ncard

/-- **How many declarations are met** from an atom on. -/
noncomputable def rank (o : Oracle α κ π) : α → Nat :=
  o.rankBy fun p b => b ∈ (o.normalForm p).atoms

variable {occurs : Descriptor α → α → Prop}

/-- Where the atoms that occur in parts are not sealed themselves no atom expands into
itself. -/
theorem not_transGen_expandsBy (h : ∀ a b, o.ExpandsBy occurs a b → o.expand (.atom b) = [])
    (a : α) : ¬ Relation.TransGen (o.ExpandsBy occurs) a a := by
  intro hcycle
  obtain ⟨b, ⟨p, hp, -⟩, -⟩ := Relation.TransGen.head'_iff.1 hcycle
  obtain ⟨c, -, hca⟩ := Relation.TransGen.tail'_iff.1 hcycle
  rw [h c a hca] at hp
  exact List.not_mem_nil hp

theorem rankBy_le (o : Oracle α κ π) (occurs : Descriptor α → α → Prop) (a : α) :
    o.rankBy occurs a ≤ o.sealedParts.length := by
  calc o.rankBy occurs a ≤ (Set.univ : Set (Fin o.sealedParts.length)).ncard :=
        Set.ncard_le_ncard (Set.subset_univ _) Set.finite_univ
    _ = o.sealedParts.length := by rw [Set.ncard_univ, Nat.card_fin]

theorem rank_le (o : Oracle α κ π) (a : α) : o.rank a ≤ o.sealedParts.length :=
  o.rankBy_le _ a

/-- An atom with parts has a declaration. -/
theorem exists_declaration {a : α} (h : o.expand (.atom a) ≠ []) :
    ∃ i : Fin o.sealedParts.length, (Descriptor.atom a == o.sealedParts[i].1) = true := by
  unfold expand at h
  cases hd : lastDeclared (Descriptor.atom a) o.sealedParts with
  | none => simp [hd] at h
  | some ps =>
    obtain ⟨k, hmem, hk⟩ := exists_of_lastDeclared hd
    obtain ⟨i, hi, hget⟩ := List.getElem_of_mem hmem
    refine ⟨⟨i, hi⟩, ?_⟩
    simpa [hget] using hk

theorem expand_eq_nil_of_rankBy_eq_zero {a : α} (h : o.rankBy occurs a = 0) :
    o.expand (.atom a) = [] := by
  by_contra hne
  obtain ⟨i, hi⟩ := exists_declaration hne
  have hempty : o.metBy occurs a = ∅ := (Set.ncard_eq_zero (Set.toFinite _)).1 h
  have hmem : i ∈ o.metBy occurs a := ⟨a, Relation.ReflTransGen.refl, hi⟩
  rw [hempty] at hmem
  exact hmem

variable [EquivBEq α]

/-- **The rank falls with every expansion**, if no atom expands into itself. -/
theorem rankBy_lt (ho : ∀ a, ¬ Relation.TransGen (o.ExpandsBy occurs) a a) {a b : α}
    (hab : o.ExpandsBy occurs a b) : o.rankBy occurs b < o.rankBy occurs a := by
  have hne : o.expand (.atom a) ≠ [] := by
    obtain ⟨p, hp, _⟩ := hab
    exact List.ne_nil_of_mem hp
  obtain ⟨i, hi⟩ := exists_declaration hne
  have hsub : o.metBy occurs b ⊆ o.metBy occurs a := by
    rintro j ⟨c, hbc, hj⟩
    exact ⟨c, Relation.ReflTransGen.head hab hbc, hj⟩
  have hia : i ∈ o.metBy occurs a := ⟨a, Relation.ReflTransGen.refl, hi⟩
  have hib : i ∉ o.metBy occurs b := by
    rintro ⟨c, hbc, hc⟩
    -- `c` shares the declaration of `a`, so it expands to `b`, and `b` leads back to `c`
    have hac : (a == c) = true := by
      rw [← Descriptor.atom_beq_atom]
      exact BEq.trans hi (BEq.symm hc)
    have hcb : o.ExpandsBy occurs c b := by
      unfold ExpandsBy
      rw [← o.expand_congr hac]
      exact hab
    exact ho c (Relation.TransGen.head' hcb hbc)
  exact Set.ncard_lt_ncard ⟨hsub, fun hle => hib (hle hia)⟩ (Set.toFinite _)

theorem Acyclic.rank_lt (ho : o.Acyclic) {a b : α} (hab : o.ExpandsTo a b) :
    o.rank b < o.rank a :=
  rankBy_lt ho hab

theorem Acyclic.nestsAtMost (ho : o.Acyclic) {n : Nat} {a : α} (h : o.rank a ≤ n) :
    o.NestsAtMost n a := by
  induction n generalizing a with
  | zero => exact expand_eq_nil_of_rankBy_eq_zero (Nat.le_zero.1 h)
  | succ n ih =>
    intro b hab
    have hlt := ho.rank_lt hab
    exact ih (by omega)

end Rank

/-! ## Questions that are decided -/

section Decided

variable [EquivBEq α]

/-- **Without cyclic expansions every question has an answer.** -/
theorem Acyclic.isSubtype_answers (ho : o.Acyclic) : o.Answering := by
  intro a b
  refine belowWithin_answers (fun x _ => ho.nestsAtMost ?_) _
  calc o.rank x ≤ o.sealedParts.length := o.rank_le x
    _ ≤ o.expansionBound (o.normalForm b) := Nat.le_mul_of_pos_right _ (Nat.succ_pos _)

/-- **Without cyclic expansions the search decides the relation.** -/
theorem Acyclic.isSubtype_eq_true_iff (ho : o.Acyclic) {a b : Descriptor α} :
    o.isSubtype a b = .ok true ↔ o.Below (o.normalForm a) (o.normalForm b) :=
  ho.isSubtype_answers.isSubtype_eq_true_iff

end Decided

end Oracle

end Narrowing
