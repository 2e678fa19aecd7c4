import Narrowing.Proofs.Oracle.Preorder
import Narrowing.Proofs.Oracle.Termination
import Narrowing.Proofs.Oracle.Tests
import Narrowing.Proofs.Spelling
import Narrowing.Proofs.Value.Membership
import Mathlib.Data.Fintype.EquivFin
/-!
# The default oracle

The subclass relation does not compose, and no more does the relation of the oracle over
classes: a list is an object, and an object is hashable, but a list is not. The same
example shows that a runtime test may reject a value although the test of a subtype
accepts it. This module says exactly where that happens: the relation composes, and the
tests are sound, at the descriptors on the right that are **steady** (`Steady`), and at
no others (`defaultOracle_steady_iff`).

What makes a descriptor unsteady are the few classes that ask for members. A class is below
one of these if its instances have the members, and its body may take any of them away: what it
inherits from may be hashable, or iterable, or have a size, where it is not.

All this is about descriptors that are read layer by layer (`Oracle.Layered`). In others a choice
collapses into a spelling that is taken for an atom where it is met first, and for what it stands
for where it is met again.
-/

namespace Narrowing

open StandardClass Oracle

/-! ## Descriptors over known classes -/

/-- The classes in the normal form of a descriptor are standard or among some declared
ones. -/
def TypeDescriptor.Over (ds : List DeclaredClass) (d : TypeDescriptor) : Prop :=
  ∀ c, Spelling.cls c ∈ (defaultOracle.normalForm d).atoms → c.Known ds

/-- **A steady descriptor** in normal form: it holds everything, or no class in it asks for
members. -/
def Steady (c : TypeDescriptor) : Prop :=
  defaultOracle.holdsAll c = true ∨ ∀ e, Spelling.cls e ∈ c.atoms → e.asking? = none

theorem unsealed_defaultOracle (a : Spelling) : defaultOracle.expand (.atom a) = [] := rfl

theorem layeredParts_defaultOracle : defaultOracle.LayeredParts := by
  intro a p hp
  rw [unsealed_defaultOracle] at hp
  cases hp

/-- Every question to the default oracle comes to an end. -/
theorem ends_defaultOracle : defaultOracle.Ends Spelling.depth :=
  ((levelAcyclic_iff layeredParts_defaultOracle).2
    (acyclic_of_unsealed unsealed_defaultOracle)).ends (classOracle_readsWithin [])

theorem liftsTo_defaultDecider : defaultOracle.LiftsTo defaultDecider :=
  ends_defaultOracle.liftsTo_byLevels (classOracle_readsWithin [])

/-- Between layered descriptors it answers as the rules say. -/
theorem subtype_defaultDecider_iff {a b : TypeDescriptor} (ha : defaultOracle.Layered a)
    (hb : defaultOracle.Layered b) : defaultDecider.subtype a b = .ok true ↔
      defaultOracle.Below (defaultOracle.normalForm a) (defaultOracle.normalForm b) :=
  liftsTo_defaultDecider.subtype.eq_true_iff_below layeredParts_defaultOracle ha hb
    (ends_defaultOracle.compare .subtype a b)

theorem plain_of_mem_normalForm {d : TypeDescriptor} {x : Spelling}
    (h : x ∈ (defaultOracle.normalForm d).atoms) : x.Plain := by
  obtain ⟨s, -, hx⟩ := (Descriptor.mem_atoms_bind d).1 h
  exact Spelling.plain_of_mem_core s hx

/-- Only `object` is universal. -/
theorem eq_object_of_isObject {x : Spelling} (h : x.isObject = true) :
    x = .cls (.standard object) := by
  unfold Spelling.isObject at h
  split at h
  · rfl
  · cases h

/-! ## Where the relation composes -/

section Steady

variable {ds : List DeclaredClass} {c : TypeDescriptor}

/-- What is below something below a steady descriptor is below that. -/
theorem Steady.atom_below (hds : Class.Registry ds) (hc : Steady c)
    (hknown : ∀ e, Spelling.cls e ∈ c.atoms → e.Known ds) {x y : Spelling} (hx : x.Plain)
    (hxknown : ∀ d, x = .cls d → d.Known ds) (hyknown : ∀ d, y = .cls d → d.Known ds)
    (hxy : x.isSubclass y = true) (hyc : defaultOracle.Below (.atom y) c) :
    defaultOracle.Below (.atom x) c := by
  rw [atom_below_iff unsealed_defaultOracle] at hyc ⊢
  rcases hyc with hyc | ⟨z, hz, hyz⟩
  · exact .inl hyc
  · rcases Spelling.isSubclass_trans_of_plain hx hxy hyz with hxz | ⟨d, e, f, rfl, rfl, rfl, hde, hef⟩
    · exact .inr ⟨z, hz, hxz⟩
    · refine hc.imp_right fun hnone => ⟨.cls f, hz, ?_⟩
      exact hds.trans (hxknown d rfl) (hyknown e rfl) (hknown f hz) hde hef (hnone f hz)

/-- **The relation composes at a steady descriptor.** -/
theorem Steady.below_trans (hds : Class.Registry ds) {a b c : TypeDescriptor}
    (ha : TypeDescriptor.Over ds a) (hb : TypeDescriptor.Over ds b) (hc : TypeDescriptor.Over ds c)
    (hsteady : Steady (defaultOracle.normalForm c))
    (hab : defaultOracle.Below (defaultOracle.normalForm a) (defaultOracle.normalForm b))
    (hbc : defaultOracle.Below (defaultOracle.normalForm b) (defaultOracle.normalForm c)) :
    defaultOracle.Below (defaultOracle.normalForm a) (defaultOracle.normalForm c) := by
  refine below_trans_of_atoms unsealed_defaultOracle (fun x hx y hy hxy hyc => ?_)
    (fun y hy hobject hyc => ?_) hab hbc
  · refine hsteady.atom_below hds hc (plain_of_mem_normalForm hx) ?_ ?_ hxy hyc
    · rintro d rfl
      exact ha d hx
    · rintro d rfl
      exact hb d hy
  · -- `object` is below nothing but itself and the class of what is hashable
    obtain rfl := eq_object_of_isObject hobject
    rw [below_top_iff]
    rcases (atom_below_iff unsealed_defaultOracle).1 hyc with h | ⟨z, hz, hyz⟩
    · exact h
    · obtain ⟨d, rfl, hd⟩ := Spelling.isSubclass_cls_iff.1 hyz
      cases d with
      | declared d => cases hd
      | standard s =>
        rcases eq_of_object_isSubclass hd with rfl | rfl
        · exact holdsAll_of_mem_atoms hz rfl
        · exact hsteady.resolve_right fun h => Option.some_ne_none _ (h _ hz)

end Steady

/-! ## Where the tests are sound -/

section Tests

variable {σ : Store} {v : Value} {ds : List DeclaredClass}

/-- The test of a class accepts its instances and nothing else. -/
theorem atomAccepts_cls_iff {d : Class} :
    defaultOracle.AtomAccepts (σ.isInstance v) (σ.holds v) (.cls d) ↔
      σ.isInstance v d = true := by
  constructor
  · rintro ⟨t, ht, h⟩
    obtain rfl := Except.ok.inj ht
    exact Except.ok.inj h
  · exact fun h => ⟨.instanceOf d, rfl, congrArg Except.ok h⟩

/-- A class has its own test. -/
theorem test_cls (d : Class) : defaultDecider.test (.atom (.cls d)) = .ok (.instanceOf d) :=
  (liftsTo_defaultDecider.test_atom_iff rfl).2 rfl

theorem judges_cls_iff {d : Class} :
    defaultDecider.Judges (σ.isInstance v) (σ.holds v) (.atom (.cls d)) true ↔
      σ.isInstance v d = true := by
  constructor
  · exact fun h => Except.ok.inj (h.accepts (test_cls d))
  · exact fun h => ⟨.instanceOf d, test_cls d, congrArg Except.ok h⟩

/-- Only classes have tests. -/
theorem eq_cls_of_atomAccepts {x : Spelling}
    (h : defaultOracle.AtomAccepts (σ.isInstance v) (σ.holds v) x) : ∃ d, x = .cls d := by
  obtain ⟨t, ht, -⟩ := h
  cases x with
  | cls d => exact ⟨d, rfl⟩
  | _ => cases ht

/-- Classes have tests that come out for every value that is an instance of `object`. -/
theorem totalTests_classes (hobject : σ.isInstance v (.standard object) = true) :
    defaultOracle.TotalTests (σ.isInstance v) (σ.holds v) fun x => ∃ d, x = .cls d where
  total := by
    rintro _ ⟨d, rfl⟩
    exact ⟨.instanceOf d, _, rfl, rfl⟩
  everything := hobject

/-- A layered descriptor with a test is made of classes. -/
theorem eq_cls_of_test {d : TypeDescriptor} {t : TypeTest} (hlayered : defaultOracle.Layered d)
    (h : defaultDecider.test d = .ok t) :
    ∀ x ∈ (defaultOracle.normalForm d).atoms, ∃ e, x = .cls e := by
  intro x hx
  have hform := (liftsTo_defaultDecider.test_eq_ok_iff hlayered).1 h
  obtain ⟨u, hu⟩ := exists_atomicTest_of_testOf hform x hx
  cases x with
  | cls e => exact ⟨e, rfl⟩
  | _ => cases hu

/-- A value that the test of a layered descriptor accepts is accepted by way of its classes. -/
theorem judges_iff_accepts (hobject : σ.isInstance v (.standard object) = true)
    {d : TypeDescriptor} {t : TypeTest} (hlayered : defaultOracle.Layered d)
    (ht : defaultDecider.test d = .ok t) :
    defaultDecider.Judges (σ.isInstance v) (σ.holds v) d true ↔
      (defaultOracle.normalForm d).Accepts
        (defaultOracle.AtomAccepts (σ.isInstance v) (σ.holds v)) :=
  ((totalTests_classes hobject).accepts_iff liftsTo_defaultDecider hlayered
    (eq_cls_of_test hlayered ht)).symm

/-- **The tests are sound at a steady descriptor.** -/
theorem Steady.judges (hds : Class.Registry ds) (hordinary : σ.Ordinary ds (σ.typeOf v))
    {a c : TypeDescriptor} (ha : TypeDescriptor.Over ds a) (hc : TypeDescriptor.Over ds c)
    (hla : defaultOracle.Layered a) (hlc : defaultOracle.Layered c)
    (hsteady : Steady (defaultOracle.normalForm c)) {t : TypeTest}
    (ht : defaultDecider.test c = .ok t)
    (hac : defaultOracle.Below (defaultOracle.normalForm a) (defaultOracle.normalForm c))
    (hv : defaultDecider.Judges (σ.isInstance v) (σ.holds v) a true) :
    defaultDecider.Judges (σ.isInstance v) (σ.holds v) c true := by
  obtain ⟨u, hu, -⟩ := id hv
  rw [judges_iff_accepts hordinary.object hla hu] at hv
  rw [judges_iff_accepts hordinary.object hlc ht]
  have hall : defaultOracle.holdsAll (defaultOracle.normalForm c) = true →
      (defaultOracle.normalForm c).Accepts
        (defaultOracle.AtomAccepts (σ.isInstance v) (σ.holds v)) := by
    refine accepts_of_holdsAll fun x _ hx => ?_
    obtain rfl := eq_object_of_isObject hx
    exact atomAccepts_cls_iff.2 hordinary.object
  rcases hac.exists_atom hv with h | ⟨x, hx, hvx, hxc⟩
  · exact hall h
  · rcases (atom_below_iff unsealed_defaultOracle).1 hxc with h | ⟨z, hz, hxz⟩
    · exact hall h
    · obtain ⟨d, rfl⟩ := eq_cls_of_atomAccepts hvx
      obtain ⟨e, rfl, hde⟩ := Spelling.isSubclass_cls_iff.1 hxz
      rcases hsteady with h | hnone
      · exact hall h
      · have hve := Store.isSubclass_trans hds hordinary (ha d hx) (hc e hz)
          (atomAccepts_cls_iff.1 hvx) hde (hnone e hz)
        exact Descriptor.accepts_of_mem_atoms hz (atomAccepts_cls_iff.2 hve)

/-- A value that the test of a descriptor accepts is an instance of a class in it, unless the
descriptor holds everything. -/
theorem holdsAll_or_exists_isInstance (hobject : σ.isInstance v (.standard object) = true)
    {c : TypeDescriptor} (hlayered : defaultOracle.Layered c)
    (h : defaultDecider.Judges (σ.isInstance v) (σ.holds v) c true) :
    defaultOracle.holdsAll (defaultOracle.normalForm c) = true ∨
      ∃ d, Spelling.cls d ∈ (defaultOracle.normalForm c).atoms ∧ σ.isInstance v d = true := by
  obtain ⟨t, ht, -⟩ := id h
  rw [judges_iff_accepts hobject hlayered ht] at h
  refine (holdsAll_or_exists_atom h).imp_right ?_
  rintro ⟨x, hx, hvx⟩
  obtain ⟨d, rfl⟩ := eq_cls_of_atomAccepts hvx
  exact ⟨d, hx, atomAccepts_cls_iff.1 hvx⟩

end Tests

/-! ## Where neither holds -/

section Unsteady

variable {c : TypeDescriptor} {ds : List DeclaredClass}

/-- What makes a descriptor unsteady. -/
theorem exists_asking_of_not_steady (h : ¬ Steady c) : defaultOracle.holdsAll c ≠ true ∧
    ∃ s : StandardClass, s.isAsking = true ∧ Spelling.cls (.standard s) ∈ c.atoms := by
  refine ⟨fun hall => h (.inl hall), ?_⟩
  by_contra hno
  refine h (.inr fun e he => ?_)
  cases e with
  | declared e => rfl
  | standard s =>
    by_contra hasking
    refine hno ⟨s, ?_, he⟩
    rw [Class.asking?_standard_eq_none_iff] at hasking
    exact Bool.not_eq_false _ |>.mp hasking

/-- A class with all members that abstract classes ask for. -/
def offering (name : String) : DeclaredClass where
  name
  module := "m"
  qualname := name
  members := SpecialMember.all.map (·, true)
  inherited := [.standard object]
  standardAbove := [object, object, iterable, sized, container, collection, reversible, hashable]
  declaredAbove := []

/-- A class with that for its base that takes all of them away. -/
def withholding (name base : String) : DeclaredClass where
  name
  module := "m"
  qualname := name
  members := SpecialMember.all.map (·, false)
  inherited := [.declared base (SpecialMember.all.map (·, true)), .standard object]
  standardAbove := [object, object]
  declaredAbove := [base]

theorem declare_offering (name : String) :
    Class.declare? name "m" name [] (SpecialMember.all.map (·, true)) =
      some (.declared (offering name)) := rfl

/-- With a single base nothing is to be merged. -/
theorem inheritedLineage_single {a b : Ancestor} (hab : a ≠ b) :
    inheritedLineage [a] [[a, b]] = some [a, b] := by
  simp [inheritedLineage, mergeLineages, nextOfLineages, hab]

theorem declare_withholding (name base : String) :
    Class.declare? name "m" name [.declared (offering base)] (SpecialMember.all.map (·, false)) =
      some (.declared (withholding name base)) := by
  have hlineage := inheritedLineage_single
    (a := .declared base (SpecialMember.all.map (·, true))) (b := .standard object) (by rintro ⟨⟩)
  show (inheritedLineage [Ancestor.declared base (SpecialMember.all.map (·, true))]
    [[Ancestor.declared base (SpecialMember.all.map (·, true)), .standard object]] >>= _) = _
  rw [hlineage]
  rfl

theorem offering_isSubclass (name : String) {s : StandardClass} (hs : s.isAsking = true) :
    (Class.declared (offering name)).isSubclass (.standard s) = true := by
  have hall : ∀ s ∈ all, s.isAsking = true →
      [object, object, iterable, sized, container, collection, reversible, hashable].contains s =
        true := by
    decide
  exact hall s (mem_all s) hs

/-- Two more classes, one below the other: the one above is below all classes that ask for
members, and the one below is below nothing known but `object`. -/
theorem exists_withholding (hds : Class.Registry ds) :
    ∃ x y : DeclaredClass, Class.Registry ([x, y] ++ ds) ∧
      (Class.declared x).isSubclass (.declared y) = true ∧
      (∀ s : StandardClass, s.isAsking = true →
        (Class.declared y).isSubclass (.standard s) = true) ∧
      ∀ z : Class, z.Known ds → (Class.declared x).isSubclass z = true → z = .standard object := by
  obtain ⟨base, hbase⟩ := Infinite.exists_notMem_finset (ds.map DeclaredClass.name).toFinset
  obtain ⟨name, hname⟩ := Infinite.exists_notMem_finset
    (base :: ds.map DeclaredClass.name).toFinset
  simp only [List.mem_toFinset, List.mem_cons, not_or, List.mem_map, not_exists, not_and]
    at hbase hname
  have hregistry : Class.Registry (offering base :: ds) :=
    hds.declare (fun b hb => absurd hb List.not_mem_nil) hbase (declare_offering base)
  refine ⟨withholding name base, offering base, hregistry.declare ?_ ?_ (declare_withholding name base),
    ?_, fun s => offering_isSubclass base, fun z hz hbelow => ?_⟩
  · rintro b hb
    obtain rfl := List.mem_singleton.1 hb
    exact List.mem_cons_self
  · refine List.forall_mem_cons.2 ⟨fun h => hname.1 h.symm, hname.2⟩
  · exact Bool.or_eq_true_iff.2 (.inr (List.contains_iff_mem.2 List.mem_cons_self))
  · cases z with
    | standard s =>
      have habove : s ∈ [object, object] := Class.mem_standardAbove_iff.2 hbelow
      rcases List.mem_pair.1 habove with rfl | rfl <;> rfl
    | declared e =>
      have habove : e.name ∈ [name, base] := Class.mem_declaredAbove_iff.2 hbelow
      rcases List.mem_pair.1 habove with h | h
      · exact absurd h (hname.2 e hz)
      · exact absurd h (hbase e hz)

/-- A store with an object of a declared class. -/
def singleStore (d : DeclaredClass) : Store where
  cells := #[.object (.named (.declared d)) [] none]

/-- The object. -/
def singleObject : Value := .ref ⟨0⟩

theorem singleObject_ordinary (hds : Class.Registry ds) {d : DeclaredClass} (hd : d ∈ ds) :
    (singleStore d).Ordinary ds ((singleStore d).typeOf singleObject) where
  known := by
    intro c hc
    rcases List.mem_cons.1 hc with h | h
    · obtain rfl := TypeObject.named.inj h
      exact hd
    · obtain ⟨s, -, hs⟩ := List.mem_map.1 (List.mem_of_mem_filter h)
      obtain rfl := TypeObject.named.inj hs
      trivial
  object := hds.isSubclass_object (c := .declared d) hd

end Unsteady

/-! ## Exactly the steady descriptors -/

section Exactly

variable {ds : List DeclaredClass}

/-- The relation composes at a descriptor on the right, whatever classes are declared
besides. -/
def ComposesAt (ds : List DeclaredClass) (c : TypeDescriptor) : Prop :=
  ∀ new, Class.Registry (new ++ ds) → ∀ a b : TypeDescriptor,
    TypeDescriptor.Over (new ++ ds) a → TypeDescriptor.Over (new ++ ds) b →
    defaultOracle.Layered a → defaultOracle.Layered b →
    defaultDecider.subtype a b = .ok true → defaultDecider.subtype b c = .ok true →
    defaultDecider.subtype a c = .ok true

/-- Every value of an ordinary class that the test of a subtype accepts is accepted by the
test of a descriptor, whatever classes are declared besides. -/
def SoundAt (ds : List DeclaredClass) (c : TypeDescriptor) : Prop :=
  ∀ new, Class.Registry (new ++ ds) → ∀ a : TypeDescriptor, TypeDescriptor.Over (new ++ ds) a →
    defaultOracle.Layered a → defaultDecider.subtype a c = .ok true → ∀ (σ : Store) (v : Value),
    σ.Ordinary (new ++ ds) (σ.typeOf v) →
    defaultDecider.Judges (σ.isInstance v) (σ.holds v) a true →
    defaultDecider.Judges (σ.isInstance v) (σ.holds v) c true

theorem TypeDescriptor.Over.of_append {new : List DeclaredClass} {d : TypeDescriptor}
    (h : TypeDescriptor.Over ds d) : TypeDescriptor.Over (new ++ ds) d := by
  intro c hc
  have hknown := h c hc
  cases c with
  | standard s => trivial
  | declared e => exact List.mem_append_right new hknown

/-- A single class as a descriptor. -/
theorem TypeDescriptor.over_cls {d : Class} (h : d.Known ds) :
    TypeDescriptor.Over ds (.atom (.cls d)) := by
  intro c hc
  obtain rfl := Spelling.cls.inj (Descriptor.mem_atoms_atom.1 hc)
  exact h

theorem layered_cls (d : Class) : defaultOracle.Layered (.atom (.cls d)) :=
  layered_atom rfl rfl

variable {c : TypeDescriptor} (hc : TypeDescriptor.Over ds c)
  (hlayered : defaultOracle.Layered c)
include hlayered

/-- A class is a subtype of what has a class above it among its atoms. -/
theorem subtype_cls_of_mem {d e : Class}
    (he : Spelling.cls e ∈ (defaultOracle.normalForm c).atoms) (hde : d.isSubclass e = true) :
    defaultDecider.subtype (.atom (.cls d)) c = .ok true :=
  (subtype_defaultDecider_iff (layered_cls d) hlayered).2 (.of_mem_atoms he (.inr hde))

include hc

theorem Steady.composesAt (h : Steady (defaultOracle.normalForm c)) : ComposesAt ds c := by
  intro new hnew a b ha hb hla hlb hab hbc
  rw [subtype_defaultDecider_iff hla hlb] at hab
  rw [subtype_defaultDecider_iff hlb hlayered] at hbc
  rw [subtype_defaultDecider_iff hla hlayered]
  exact h.below_trans hnew ha hb hc.of_append hab hbc

theorem Steady.soundAt {t : TypeTest} (ht : defaultDecider.test c = .ok t)
    (h : Steady (defaultOracle.normalForm c)) : SoundAt ds c := by
  intro new hnew a ha hla hac σ v hordinary hv
  rw [subtype_defaultDecider_iff hla hlayered] at hac
  exact h.judges hnew hordinary ha hc.of_append hla hlayered ht hac hv

/-- A class that is below nothing known but `object` is not below an unsteady descriptor. -/
theorem steady_of_composesAt (hds : Class.Registry ds) (h : ComposesAt ds c) :
    Steady (defaultOracle.normalForm c) := by
  by_contra hsteady
  obtain ⟨hall, s, hs, hmem⟩ := exists_asking_of_not_steady hsteady
  obtain ⟨x, y, hregistry, hxy, hasking, honly⟩ := exists_withholding hds
  have hx := List.mem_cons_self (a := x) (l := y :: ds)
  have hy := List.mem_cons_of_mem x (List.mem_cons_self (a := y) (l := ds))
  have hbelow : defaultDecider.subtype (.atom (.cls (.declared x))) (.atom (.cls (.declared y))) =
      .ok true :=
    subtype_cls_of_mem (layered_cls _) (Descriptor.mem_atoms_atom.2 rfl) hxy
  have hxc := h [x, y] hregistry _ _ (TypeDescriptor.over_cls (d := .declared x) hx)
    (TypeDescriptor.over_cls (d := .declared y) hy) (layered_cls _) (layered_cls _) hbelow
    (subtype_cls_of_mem hlayered hmem (hasking s hs))
  rw [subtype_defaultDecider_iff (layered_cls _) hlayered] at hxc
  rcases (atom_below_iff unsealed_defaultOracle).1 hxc with hxc | ⟨z, hz, hxz⟩
  · exact hall hxc
  · obtain ⟨e, rfl, hxe⟩ := Spelling.isSubclass_cls_iff.1 hxz
    obtain rfl := honly e (hc e hz) hxe
    exact hall (holdsAll_of_mem_atoms hz rfl)

theorem steady_of_soundAt (hds : Class.Registry ds) (h : SoundAt ds c) :
    Steady (defaultOracle.normalForm c) := by
  by_contra hsteady
  obtain ⟨hall, s, hs, hmem⟩ := exists_asking_of_not_steady hsteady
  obtain ⟨x, y, hregistry, hxy, hasking, honly⟩ := exists_withholding hds
  have hx := List.mem_cons_self (a := x) (l := y :: ds)
  have hy := List.mem_cons_of_mem x (List.mem_cons_self (a := y) (l := ds))
  have hordinary := singleObject_ordinary hregistry hx
  have hv := h [x, y] hregistry _ (TypeDescriptor.over_cls (d := .declared y) hy) (layered_cls _)
    (subtype_cls_of_mem hlayered hmem (hasking s hs)) (singleStore x) singleObject hordinary
    (judges_cls_iff.2 hxy)
  rcases holdsAll_or_exists_isInstance hordinary.object hlayered hv with hv | ⟨e, he, hv⟩
  · exact hall hv
  · obtain rfl := honly e (hc e he) hv
    exact hall (holdsAll_of_mem_atoms he rfl)

end Exactly

/-- **Exactly the steady descriptors** are those at which the relation composes. They are
those at which tests are sound, among the descriptors with a test. -/
theorem defaultOracle_steady_iff {ds : List DeclaredClass} (hds : Class.Registry ds)
    {c : TypeDescriptor} (hc : TypeDescriptor.Over ds c) (hlayered : defaultOracle.Layered c) :
    (ComposesAt ds c ↔ Steady (defaultOracle.normalForm c)) ∧
      ((∃ t, defaultDecider.test c = .ok t) →
        (SoundAt ds c ↔ Steady (defaultOracle.normalForm c))) := by
  refine ⟨⟨steady_of_composesAt hc hlayered hds, Steady.composesAt hc hlayered⟩, ?_⟩
  rintro ⟨t, ht⟩
  exact ⟨steady_of_soundAt hc hlayered hds, Steady.soundAt hc hlayered ht⟩

/-- The class of lists is steady, the class of what is hashable is not. -/
theorem defaultOracle_steady_iff_list_hashable :
    (ComposesAt [] (.atom (.cls (.standard list))) ∧
      SoundAt [] (.atom (.cls (.standard list)))) ∧
    ¬ ComposesAt [] (.atom (.cls (.standard hashable))) ∧
      ¬ SoundAt [] (.atom (.cls (.standard hashable))) := by
  have hatoms : ∀ d, (defaultOracle.normalForm (.atom (.cls d))).atoms = [.cls d] := fun _ => rfl
  have hlist : Steady (defaultOracle.normalForm (.atom (.cls (.standard list)))) := by
    refine .inr fun e he => ?_
    rw [hatoms, List.mem_singleton] at he
    obtain rfl := Spelling.cls.inj he
    rfl
  have hhashable : ¬ Steady (defaultOracle.normalForm (.atom (.cls (.standard hashable)))) := by
    rintro (hall | hnone)
    · cases hall
    · cases hnone (.standard hashable) List.mem_cons_self
  have hiff := fun s => defaultOracle_steady_iff .nil
    (TypeDescriptor.over_cls (d := .standard s) trivial) (layered_cls _)
  have htest : ∀ s : StandardClass, ∃ t, defaultDecider.test (.atom (.cls (.standard s))) =
      .ok t := fun s => ⟨_, test_cls (.standard s)⟩
  refine ⟨⟨(hiff list).1.2 hlist, ((hiff list).2 (htest list)).2 hlist⟩, fun h => ?_, fun h => ?_⟩
  · exact hhashable ((hiff hashable).1.1 h)
  · exact hhashable (((hiff hashable).2 (htest hashable)).1 h)

end Narrowing
