import Narrowing.Proofs.Oracle.Valuation
/-!
# When a declared hierarchy is a preorder

The names of a hierarchy are always ordered by reachability, and the lifted relation is
always reflexive. Whether it is transitive depends on how the parents, the exact
decompositions and the universal names of a declaration go together
(`NominalTypes.isSubtype_trans_iff`): what is below a sealed name must be below its parts,
and universality has to pass on to ancestors and to parts (`NominalTypes.Fitting`).

One thing more is needed. A sealed name is below whatever its parts are below, except for
the empty type. Where all parts of a name are empty – unions of nothing but the empty type –
it is below such a union and the union is below the empty type, but the name is not
(`NominalTypes.fitting_hollow`).
-/

namespace Narrowing

namespace NominalTypes

variable {α κ π : Type} [BEq α]

/-- **What a declaration says goes together**, for the names that descriptors are made
of. -/
structure Fitting (t : NominalTypes α κ π) (everything : κ) : Prop where
  /-- What has a sealed name among its ancestors is below the union of the parts. -/
  covered : ∀ s x, t.partsOf (.atom s) ≠ [] →
    (t.hierarchy.ancestors (.atom x)).contains (.atom s) = true →
      (t.oracle everything).isSubtype (.atom x) (.join (t.partsOf (.atom s))) = .ok true
  /-- The ancestors of a universal name are universal. -/
  universalAncestor : ∀ u x, t.universal.contains (.atom u) = true →
    (t.hierarchy.ancestors (.atom u)).contains (.atom x) = true →
      t.universal.contains (.atom x) = true
  /-- The union of the parts of a universal name is universal. -/
  universalParts : ∀ u, t.universal.contains (.atom u) = true → t.partsOf (.atom u) ≠ [] →
    (t.oracle everything).isUniversal (.join (t.partsOf (.atom u))) = true

/-- **No sealed name is hollow**: the union of the parts is not below the empty type. -/
def Inhabited (t : NominalTypes α κ π) (everything : κ) : Prop :=
  ∀ s, t.partsOf (.atom s) ≠ [] →
    (t.oracle everything).isSubtype (.join (t.partsOf (.atom s))) .bottom = .ok false

variable [EquivBEq α] {t : NominalTypes α κ π} {everything : κ}

/-! ## From the declaration to the relation -/

/-- A declaration that fits, without hollow names, gives a coherent oracle. -/
theorem Fitting.coherent (hacyclic : (t.oracle everything).Acyclic) (h : t.Fitting everything)
    (hinhabited : t.Inhabited everything) : (t.oracle everything).Coherent where
  refl := atomicSubtype_refl
  trans := atomicSubtype_trans
  covered := by
    intro a s has hs
    have hjoin := (isSubtype_eq_true_iff hacyclic).1 (h.covered s a hs has)
    refine hjoin.mono (fun v hv => ?_) (by simp)
    obtain ⟨p, hp, hpv⟩ := Descriptor.accepts_join.1 hv
    refine Descriptor.accepts_union.2 ⟨_, List.mem_map_of_mem hp, ?_⟩
    rwa [normalForm_oracle]
  inhabited := by
    intro s hs
    by_contra hempty
    have hbelow : ∀ p ∈ t.partsOf (.atom s), (t.oracle everything).isSubtype p .bottom = .ok true := by
      intro p hp
      rw [isSubtype_eq_true_iff hacyclic]
      by_contra hpb
      exact hempty ⟨p, hp, by rwa [normalForm_oracle]⟩
    have hjoin := hacyclic.isSubtype_answers.join_isSubtype_iff.2 hbelow
    rw [hinhabited s hs] at hjoin
    cases hjoin
  universal := fun hu hux => h.universalAncestor _ _ hu hux
  universalPart := by
    intro u hu hparts
    have hall := h.universalParts u hu hparts
    rw [Oracle.isUniversal, normalForm_oracle, Oracle.holdsAll_iff_accepts] at hall
    obtain ⟨p, hp, hpu⟩ := Descriptor.accepts_join.1 hall
    exact ⟨p, hp, by rwa [normalForm_oracle, Oracle.holdsAll_iff_accepts]⟩

/-! ## From the relation to the declaration -/

section Transitive

variable (htrans : ∀ a b c, (t.oracle everything).Below a b → (t.oracle everything).Below b c →
  (t.oracle everything).Below a c)
include htrans

omit [EquivBEq α] in
/-- Where the relation is transitive some part of a sealed name is not empty. -/
theorem exists_not_below_bottom {s : α} (hs : t.partsOf (.atom s) ≠ []) :
    ∃ p ∈ t.partsOf (.atom s), ¬ (t.oracle everything).Below p .bottom := by
  by_contra hempty
  -- the name is below the union without members, which is below the empty type
  have hname : (t.oracle everything).Below (.atom s) (.union []) := by
    refine .parts (by simp) hs fun p hp => ?_
    rw [normalForm_oracle]
    by_contra hp'
    exact hempty ⟨p, hp, fun hpb => hp' (htrans _ _ _ hpb (.bottom _))⟩
  exact Oracle.not_atom_below_bottom (htrans _ _ _ hname (.members (by simp)))

/-- A sealed name is below the union of its parts then. -/
theorem below_join_partsOf {s : α} (hs : t.partsOf (.atom s) ≠ []) :
    (t.oracle everything).Below (.atom s) (.join (t.partsOf (.atom s))) := by
  have hpart : ∀ p ∈ t.partsOf (.atom s),
      (t.oracle everything).Below p (.join (t.partsOf (.atom s))) := by
    intro p hp
    refine .of_accepts [.join (t.partsOf (.atom s))] (fun v hv => ?_) ?_
    · exact ⟨_, List.mem_singleton_self _, Descriptor.accepts_join.2 ⟨p, hp, hv⟩⟩
    · exact List.forall_mem_singleton.2 (below_refl _)
  refine .parts (fun hbottom => ?_) hs fun p hp => ?_
  · obtain ⟨p, hp, hpb⟩ := exists_not_below_bottom htrans hs
    exact hpb (hbottom ▸ hpart p hp)
  · rw [normalForm_oracle]
    exact hpart p hp

end Transitive

/-- A transitive relation comes from a declaration that fits. -/
theorem fitting_of_trans (hacyclic : (t.oracle everything).Acyclic)
    (htrans : ∀ a b c, (t.oracle everything).Below a b → (t.oracle everything).Below b c →
      (t.oracle everything).Below a c) : t.Fitting everything where
  covered := by
    intro s x hs hx
    rw [isSubtype_eq_true_iff hacyclic]
    exact htrans _ _ _ (.atoms (.inr hx)) (below_join_partsOf htrans hs)
  universalAncestor := by
    intro u x hu hux
    have hall : (t.oracle everything).Below .top (.atom u) :=
      .everything (by rw [Oracle.holdsAll]; exact hu)
    have := Oracle.below_top_iff.1 (htrans _ _ _ hall (.atoms (.inr hux)))
    rwa [Oracle.holdsAll] at this
  universalParts := by
    intro u hu hparts
    have hall : (t.oracle everything).Below .top (.atom u) :=
      .everything (by rw [Oracle.holdsAll]; exact hu)
    rw [Oracle.isUniversal, normalForm_oracle]
    exact Oracle.below_top_iff.1 (htrans _ _ _ hall (below_join_partsOf htrans hparts))

theorem inhabited_of_trans (hacyclic : (t.oracle everything).Acyclic)
    (htrans : ∀ a b c, (t.oracle everything).Below a b → (t.oracle everything).Below b c →
      (t.oracle everything).Below a c) : t.Inhabited everything := by
  intro s hs
  rw [Question.Answering.eq_false_iff hacyclic.isSubtype_answers]
  intro hjoin
  obtain ⟨p, hp, hpb⟩ := exists_not_below_bottom htrans hs
  have hpart := hacyclic.isSubtype_answers.join_isSubtype_iff.1 hjoin p hp
  exact hpb ((isSubtype_eq_true_iff hacyclic).1 hpart)

/-! ## Preorders -/

/-- **When a declared hierarchy is a preorder.** Where no sealed name expands into itself,
the relation is reflexive on all descriptors, and it is transitive on all descriptors
exactly if the declaration fits together and no sealed name is hollow. -/
theorem isSubtype_trans_iff (t : NominalTypes α κ π) (everything : κ)
    (hacyclic : (t.oracle everything).Acyclic) :
    (∀ a, (t.oracle everything).isSubtype a a = .ok true) ∧
    ((∀ a b c, (t.oracle everything).isSubtype a b = .ok true →
        (t.oracle everything).isSubtype b c = .ok true →
          (t.oracle everything).isSubtype a c = .ok true) ↔
      t.Fitting everything ∧ t.Inhabited everything) := by
  refine ⟨fun a => (isSubtype_eq_true_iff hacyclic).2 (below_refl a), ?_, ?_⟩
  · intro htrans
    simp only [isSubtype_eq_true_iff hacyclic] at htrans
    exact ⟨fitting_of_trans hacyclic htrans, inhabited_of_trans hacyclic htrans⟩
  · rintro ⟨hfitting, hinhabited⟩ a b c
    exact ((hfitting.coherent hacyclic hinhabited).preordered hacyclic).trans

/-! ## Instances -/

/-- The relation of the two kinds of integers is transitive, so their declaration fits. -/
theorem isSubtype_trans_iff_integers :
    (integers.oracle ()).Acyclic ∧
    (∀ a, (integers.oracle ()).isSubtype a a = .ok true) ∧
    integers.Fitting () ∧ integers.Inhabited () := by
  obtain ⟨hrefl, htrans⟩ := isSubtype_trans_iff integers () integers_acyclic
  exact ⟨integers_acyclic, hrefl, htrans.1 integers_isSubtype_trans⟩

/-- A name all of whose parts are empty. -/
def hollow : NominalTypes String Unit Unit where
  hierarchy := ⟨[]⟩
  sealedParts := [(.atom "Nothing", [.union [.bottom, .bottom]])]

theorem eq_nothing_of_partsOf_ne_nil {a : String} (h : hollow.partsOf (.atom a) ≠ []) :
    a = "Nothing" := by
  simp only [partsOf, hollow, lastDeclared_cons, lastDeclared_nil, Option.none_or,
    Descriptor.atom_beq_atom, beq_iff_eq] at h
  by_contra hne
  simp [hne] at h

theorem hollow_acyclic : (hollow.oracle ()).Acyclic := by
  intro a h
  obtain ⟨b, ⟨p, hp, hb⟩, -⟩ := Relation.TransGen.head'_iff.1 h
  obtain rfl := eq_nothing_of_partsOf_ne_nil (List.ne_nil_of_mem hp)
  obtain rfl := List.mem_singleton.1 hp
  rw [normalForm_oracle] at hb
  simp [Descriptor.atoms, Descriptor.atomsOfAll] at hb

/-- **A declaration with a hollow name can fit** although its relation is not transitive. -/
theorem fitting_hollow :
    (hollow.oracle ()).Acyclic ∧ hollow.Fitting () ∧
    (hollow.oracle ()).isSubtype (.atom "Nothing") (.union [.bottom, .bottom]) = .ok true ∧
    (hollow.oracle ()).isSubtype (.union [.bottom, .bottom]) .bottom = .ok true ∧
    (hollow.oracle ()).isSubtype (.atom "Nothing") .bottom = .ok false := by
  refine ⟨hollow_acyclic, ⟨?_, ?_, ?_⟩, by rfl, by rfl, by rfl⟩
  · intro s x hs hx
    obtain rfl := eq_nothing_of_partsOf_ne_nil hs
    cases hollow.hierarchy.contains_ancestors_iff.1 hx with
    | same e =>
      obtain rfl : x = "Nothing" := by simpa [Descriptor.atom_beq_atom] using e
      rfl
    | parent hp _ => exact absurd hp List.not_mem_nil
  · exact fun _ _ hu => by cases hu
  · exact fun _ hu => by cases hu

end NominalTypes

end Narrowing
