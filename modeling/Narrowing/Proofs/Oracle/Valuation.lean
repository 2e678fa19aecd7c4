import Narrowing.Predicate
import Narrowing.Proofs.Oracle.Ancestors
import Narrowing.Proofs.Oracle.Lifting
/-!
# What a declared hierarchy says of values

A declaration of names – their parents, their exact decompositions, the universal
ones – is a statement about values. A **valuation** says for one value which names
accept it, and it is **consistent** with the declaration
(`NominalTypes.Consistent`) if it bears that statement out. Names are opaque here, as
they are to the declaration: whatever stands in the place of a name is looked up as a
whole.

The subtype relation is inclusion for all consistent valuations
(`NominalTypes.isSubtype_iff_forall_consistent`). That it implies inclusion is
`Oracle.Below.accepts`. Conversely, a question that was denied has a counterexample,
and the same valuation serves for all questions with the same right-hand side `b`:
the one that accepts exactly what is not below `b` (`NominalTypes.escaping`). It is
consistent because the relation is transitive and decomposes sealed names exactly.
-/

namespace Narrowing

namespace NominalTypes

variable {α κ π : Type} [BEq α]

/-- The declared parts of a name, none if it is not sealed. -/
def partsOf (t : NominalTypes α κ π) (x : Descriptor α) : List (Descriptor α) :=
  (lastDeclared x t.sealedParts).getD []

theorem expand_oracle (t : NominalTypes α κ π) (everything : κ) (x : Descriptor α) :
    (t.oracle everything).expand x = t.partsOf x := rfl

/-- No name of a hierarchy has another reading. -/
@[simp] theorem normalForm_oracle (t : NominalTypes α κ π) (everything : κ)
    (d : Descriptor α) : (t.oracle everything).normalForm d = d :=
  Descriptor.bind_atom_eq d

/-- Names have no spellings. -/
theorem plain (t : NominalTypes α κ π) (everything : κ) : (t.oracle everything).Plain :=
  ⟨rfl, rfl⟩

/-- **The answers over a hierarchy are those the recursion comes to**, if no sealed name expands
into itself. -/
theorem liftsTo_decider [EquivBEq α] [Named α] (t : NominalTypes α κ π) (everything : κ)
    (hacyclic : (t.oracle everything).Acyclic) :
    (t.oracle everything).LiftsTo (t.decider everything) :=
  (t.plain everything).liftsTo_byLevels hacyclic

/-! ## Consistent valuations -/

/-- **A valuation that bears a declaration out**: equal names are one name, an
accepted name has its parents accepted, universal names are accepted, and a sealed
name with parts is accepted exactly when one of these is. -/
structure Consistent (t : NominalTypes α κ π) (v : Descriptor α → Prop) : Prop where
  congr : ∀ {x y}, (x == y) = true → v x → v y
  parents : ∀ {x p}, v x → p ∈ t.hierarchy.parentsOf x → v p
  universal : ∀ {a}, t.universal.contains (.atom a) = true → v (.atom a)
  parts : ∀ {a}, t.partsOf (.atom a) ≠ [] →
    (v (.atom a) ↔ ∃ p ∈ t.partsOf (.atom a), p.Accepts fun b => v (.atom b))

namespace Consistent

variable {t : NominalTypes α κ π} {v : Descriptor α → Prop}

/-- An accepted name has all its ancestors accepted. -/
theorem of_reaches (hv : t.Consistent v) {x y : Descriptor α} (h : t.hierarchy.Reaches x y)
    (hx : v x) : v y := by
  induction h with
  | same e => exact hv.congr e hx
  | parent hp _ ih => exact ih (hv.parents hx hp)

variable [EquivBEq α]

/-- A consistent valuation respects the oracle of the declaration. -/
theorem respects (hv : t.Consistent v) (everything : κ) :
    (t.oracle everything).Respects (fun _ => True) (fun _ => True) fun a => v (.atom a) where
  atoms := fun _ _ h ha =>
    hv.of_reaches (t.hierarchy.contains_ancestors_iff.1 h) ha
  universal := fun _ h => hv.universal h
  parts := fun _ hne ha => by
    simp only [expand_oracle, normalForm_oracle] at hne ⊢
    exact (hv.parts hne).1 ha
  closed := fun _ _ _ => trivial

end Consistent

/-! ## The valuation against a right-hand side -/

section Escaping

/-- **What is not below `b`.** A name is accepted if none of its ancestors is below
`b`; for the names that descriptors are made of this says that they are not below `b`
themselves (`escaping_atom_iff`), and the others are accepted as their ancestors
demand. -/
def escaping (t : NominalTypes α κ π) (everything : κ) (b x : Descriptor α) : Prop :=
  ∀ y, t.hierarchy.Reaches x (.atom y) → ¬ (t.oracle everything).Below (.atom y) b

variable [EquivBEq α] {t : NominalTypes α κ π} {everything : κ} {b : Descriptor α}

/-- A name is below the names reached from it. -/
theorem below_of_reaches {x y : α} (h : t.hierarchy.Reaches (.atom x) (.atom y)) :
    (t.oracle everything).Below (.atom x) (.atom y) :=
  .atoms (.inr (t.hierarchy.contains_ancestors_iff.2 h))

/-- **The names are preordered**, whatever the declaration. -/
theorem atomicSubtype_refl (x : α) : (t.oracle everything).atomicSubtype x x = true :=
  t.hierarchy.contains_ancestors_iff.2 (.same BEq.rfl)

theorem atomicSubtype_trans {x y z : α} (hxy : (t.oracle everything).atomicSubtype x y = true)
    (hyz : (t.oracle everything).atomicSubtype y z = true) :
    (t.oracle everything).atomicSubtype x z = true :=
  t.hierarchy.contains_ancestors_iff.2
    ((t.hierarchy.contains_ancestors_iff.1 hxy).trans (t.hierarchy.contains_ancestors_iff.1 hyz))

theorem below_refl (d : Descriptor α) : (t.oracle everything).Below d d :=
  .refl atomicSubtype_refl d

variable (htrans : ∀ a b c, (t.oracle everything).Below a b → (t.oracle everything).Below b c →
  (t.oracle everything).Below a c)
include htrans

theorem escaping_atom_iff {x : α} :
    t.escaping everything b (.atom x) ↔ ¬ (t.oracle everything).Below (.atom x) b := by
  constructor
  · exact fun h => h x (.same BEq.rfl)
  · exact fun h y hy hyb => h (htrans _ _ _ (below_of_reaches hy) hyb)

/-- A descriptor is accepted exactly when it is not below `b`. -/
theorem accepts_escaping_iff (htop : ¬ (t.oracle everything).Below .top b) {d : Descriptor α} :
    (d.Accepts fun x => t.escaping everything b (.atom x)) ↔
      ¬ (t.oracle everything).Below d b := by
  rw [← Oracle.accepts_not_below_iff htop]
  have hatoms : (fun x => t.escaping everything b (.atom x)) =
      fun x => ¬ (t.oracle everything).Below (.atom x) b :=
    funext fun x => propext (escaping_atom_iff htrans)
  rw [hatoms]

omit [EquivBEq α] in
/-- **A sealed name is below exactly what its parts are below.** For the empty type
on the right, where the oracle has no such rule, the union without members takes its
place. -/
theorem below_iff_parts_below
    (hparts : ∀ x, ∀ p ∈ t.partsOf (.atom x), (t.oracle everything).Below p (.atom x))
    {x : α} (hne : t.partsOf (.atom x) ≠ []) :
    (t.oracle everything).Below (.atom x) b ↔
      ∀ p ∈ t.partsOf (.atom x), (t.oracle everything).Below p b := by
  have hrule : ∀ c, c ≠ .bottom → (∀ p ∈ t.partsOf (.atom x), (t.oracle everything).Below p c) →
      (t.oracle everything).Below (.atom x) c := by
    intro c hc hall
    refine .parts hc hne fun p hp => ?_
    rw [normalForm_oracle]
    exact hall p hp
  constructor
  · exact fun h p hp => htrans _ _ _ (hparts x p hp) h
  · intro hall
    by_cases hb : b = .bottom
    · subst hb
      have hnone : (t.oracle everything).Below (.union []) .bottom :=
        .members fun m hm => absurd hm List.not_mem_nil
      exact htrans _ _ _ (hrule (.union []) (by simp) fun p hp =>
        htrans _ _ _ (hall p hp) (.bottom _)) hnone
    · exact hrule b hb hall

/-- **What is not below `b` is a consistent valuation**, unless everything is. -/
theorem consistent_escaping
    (hparts : ∀ x, ∀ p ∈ t.partsOf (.atom x), (t.oracle everything).Below p (.atom x))
    (htop : ¬ (t.oracle everything).Below .top b) :
    t.Consistent (t.escaping everything b) where
  congr := fun e h y hy => h y (hy.congr_left e)
  parents := fun h hp y hy => h y (.parent hp hy)
  universal := fun {a} h => by
    rw [escaping_atom_iff htrans]
    have ha : (t.oracle everything).Below .top (.atom a) :=
      .everything (by rw [Oracle.holdsAll]; exact h)
    exact fun hab => htop (htrans _ _ _ ha hab)
  parts := fun {a} hne => by
    rw [escaping_atom_iff htrans, below_iff_parts_below htrans hparts hne]
    constructor
    · intro h
      obtain ⟨p, hp, hpb⟩ := not_forall₂.1 h
      exact ⟨p, hp, (accepts_escaping_iff htrans htop).2 hpb⟩
    · rintro ⟨p, hp, hpv⟩ hall
      exact (accepts_escaping_iff htrans htop).1 hpv (hall p hp)

end Escaping

/-! ## Inclusion -/

section Inclusion

variable [EquivBEq α] {t : NominalTypes α κ π} {everything : κ}

theorem isSubtype_eq_true_iff (hacyclic : (t.oracle everything).Acyclic) {a b : Descriptor α} :
    (t.oracle everything).isSubtype a b = .ok true ↔ (t.oracle everything).Below a b := by
  rw [hacyclic.isSubtype_eq_true_iff, normalForm_oracle, normalForm_oracle]

/-- The relation is inclusion for all consistent valuations. -/
theorem below_iff_forall_consistent
    (htrans : ∀ a b c, (t.oracle everything).Below a b → (t.oracle everything).Below b c →
      (t.oracle everything).Below a c)
    (hparts : ∀ x, ∀ p ∈ t.partsOf (.atom x), (t.oracle everything).Below p (.atom x))
    {a b : Descriptor α} :
    (t.oracle everything).Below a b ↔ ∀ v, t.Consistent v →
      (a.Accepts fun x => v (.atom x)) → b.Accepts fun x => v (.atom x) := by
  constructor
  · intro h v hv
    exact h.accepts (hv.respects everything) (fun _ _ => trivial) fun _ _ => trivial
  · intro h
    by_contra hab
    -- the names that are not below `b` make up a valuation that accepts `a` and not `b`
    have htop : ¬ (t.oracle everything).Below .top b := fun hb => hab (htrans _ _ _ (.top a) hb)
    have hb := h _ (consistent_escaping htrans hparts htop)
      ((accepts_escaping_iff htrans htop).2 hab)
    exact (accepts_escaping_iff htrans htop).1 hb (below_refl b)

/-- **The subtype relation decides inclusion.** Where no sealed name expands into
itself, the relation is transitive and the parts of a sealed name are subtypes of it,
every question has an answer, and the answer says whether every consistent valuation
that accepts the left-hand side accepts the right-hand side. -/
theorem isSubtype_iff_forall_consistent (t : NominalTypes α κ π) (everything : κ)
    (hacyclic : (t.oracle everything).Acyclic)
    (htrans : ∀ a b c, (t.oracle everything).isSubtype a b = .ok true →
      (t.oracle everything).isSubtype b c = .ok true →
        (t.oracle everything).isSubtype a c = .ok true)
    (hparts : ∀ x, ∀ p ∈ (t.oracle everything).expand (.atom x),
      (t.oracle everything).isSubtype p (.atom x) = .ok true)
    (a b : Descriptor α) :
    ∃ r, (t.oracle everything).isSubtype a b = .ok r ∧
      (r = true ↔ ∀ v, t.Consistent v →
        (a.Accepts fun x => v (.atom x)) → b.Accepts fun x => v (.atom x)) := by
  obtain ⟨r, hr⟩ := hacyclic.isSubtype_answers a b
  refine ⟨r, hr, ?_⟩
  simp only [isSubtype_eq_true_iff hacyclic] at htrans
  simp only [isSubtype_eq_true_iff hacyclic, expand_oracle] at hparts
  rw [Oracle.isSubtype_tells _ a b r hr, normalForm_oracle, normalForm_oracle]
  exact below_iff_forall_consistent htrans hparts

end Inclusion

/-! ## An instance

The hypotheses hold of a declaration in which all integers are of two kinds. -/

section Integers

/-- Numbers, the integers among them, and two kinds of integers that make up all. -/
def integers : NominalTypes String Unit Predicate where
  hierarchy := ⟨[(.atom "Fixnum", [.atom "Integer"]), (.atom "Bignum", [.atom "Integer"]),
    (.atom "Integer", [.atom "Number"])]⟩
  sealedParts := [(.atom "Integer", [.atom "Fixnum", .atom "Bignum"])]
  tests := [(.atom "Fixnum", .check .fixnum), (.atom "Bignum", .check .bignum),
    (.atom "Integer", .instanceOf ())]

theorem partsOf_integers (a : String) : integers.partsOf (.atom a) =
    if a = "Integer" then [.atom "Fixnum", .atom "Bignum"] else [] := by
  simp only [partsOf, integers, lastDeclared_cons, lastDeclared_nil, Option.none_or,
    Descriptor.atom_beq_atom, beq_iff_eq]
  split <;> rfl

theorem eq_integer_of_partsOf_ne_nil {a : String} (h : integers.partsOf (.atom a) ≠ []) :
    a = "Integer" := by
  rw [partsOf_integers] at h
  exact of_not_not fun hne => h (if_neg hne)

theorem integers_acyclic : (integers.oracle ()).Acyclic := by
  refine Oracle.not_transGen_expandsBy fun a b => ?_
  rintro ⟨p, hp, hb⟩
  rw [expand_oracle] at hp ⊢
  obtain rfl := eq_integer_of_partsOf_ne_nil (List.ne_nil_of_mem hp)
  rw [normalForm_oracle] at hb
  rw [partsOf_integers, if_neg]
  rcases List.mem_pair.1 hp with rfl | rfl <;> simp [Descriptor.mem_atoms_atom.1 hb]

theorem eq_of_reaches_integer {a : String}
    (h : integers.hierarchy.Reaches (.atom a) (.atom "Integer")) :
    a = "Integer" ∨ .atom a ∈ integers.partsOf (.atom "Integer") := by
  rw [partsOf_integers, if_pos rfl]
  cases h with
  | same e => exact .inl (by simpa [Descriptor.atom_beq_atom] using e)
  | parent hp _ =>
    by_contra hne
    simp only [List.mem_cons, Descriptor.atom.injEq, List.not_mem_nil, or_false, not_or] at hne
    simp [integers, Hierarchy.parentsOf, Descriptor.atom_beq_atom, hne] at hp

theorem integers_coherent : (integers.oracle ()).Coherent where
  refl := atomicSubtype_refl
  trans := atomicSubtype_trans
  covered := by
    intro a b hab hb
    obtain rfl := eq_integer_of_partsOf_ne_nil hb
    have hself : ∀ p ∈ integers.partsOf (.atom "Integer"),
        (integers.oracle ()).Below p (.union (integers.partsOf (.atom "Integer"))) :=
      fun p hp => (below_refl p).of_mem hp
    show (integers.oracle ()).Below (.atom a) (.union (integers.partsOf (.atom "Integer")))
    rcases eq_of_reaches_integer (integers.hierarchy.contains_ancestors_iff.1 hab) with rfl | ha
    · refine .parts (by simp) hb fun p hp => ?_
      rw [normalForm_oracle]
      exact hself p hp
    · exact hself _ ha
  inhabited := by
    intro a ha
    obtain rfl := eq_integer_of_partsOf_ne_nil ha
    exact ⟨.atom "Fixnum", List.mem_cons_self, Oracle.not_atom_below_bottom⟩
  universal := fun h => by cases h
  universalPart := fun h => by cases h

/-- Whether one of them is a subtype of another. -/
abbrev amongIntegers : Question String := (integers.decider ()).subtype

theorem integers_liftsTo : (integers.oracle ()).LiftsTo (integers.decider ()) :=
  integers.liftsTo_decider () integers_acyclic

theorem integers_lifts : (integers.oracle ()).Lifts amongIntegers :=
  integers_liftsTo.subtype

theorem integers_preordered : amongIntegers.Preordered := by
  show Question.Preordered ((integers.oracle ()).subtypeByLevels fun _ => 0)
  rw [(integers.plain ()).subtypeByLevels_eq integers_acyclic]
  exact integers_coherent.preordered integers_acyclic

theorem integers_isSubtype_trans (a b c : Descriptor String)
    (hab : (integers.oracle ()).isSubtype a b = .ok true)
    (hbc : (integers.oracle ()).isSubtype b c = .ok true) :
    (integers.oracle ()).isSubtype a c = .ok true :=
  (integers_coherent.preordered integers_acyclic).trans hab hbc

theorem integers_parts_isSubtype (x : String) :
    ∀ p ∈ (integers.oracle ()).expand (.atom x),
      (integers.oracle ()).isSubtype p (.atom x) = .ok true := by
  intro p hp
  obtain rfl := eq_integer_of_partsOf_ne_nil (List.ne_nil_of_mem hp)
  rcases List.mem_pair.1 hp with rfl | rfl <;> rfl

/-- Whether all numbers are integers is up to the valuations of this declaration. -/
theorem isSubtype_iff_forall_consistent_integers :
    (integers.oracle ()).Acyclic ∧
      (∀ a b c, (integers.oracle ()).isSubtype a b = .ok true →
        (integers.oracle ()).isSubtype b c = .ok true →
          (integers.oracle ()).isSubtype a c = .ok true) ∧
      (∀ x, ∀ p ∈ (integers.oracle ()).expand (.atom x),
        (integers.oracle ()).isSubtype p (.atom x) = .ok true) ∧
      ∃ r, (integers.oracle ()).isSubtype (.atom "Number") (.atom "Integer") = .ok r ∧
        (r = true ↔ ∀ v, integers.Consistent v →
          ((Descriptor.atom "Number").Accepts fun x => v (.atom x)) →
            (Descriptor.atom "Integer").Accepts fun x => v (.atom x)) :=
  ⟨integers_acyclic, integers_isSubtype_trans, integers_parts_isSubtype,
    isSubtype_iff_forall_consistent integers () integers_acyclic integers_isSubtype_trans
      integers_parts_isSubtype (.atom "Number") (.atom "Integer")⟩

end Integers

end NominalTypes

end Narrowing
