import Narrowing.Proofs.Oracle.Lifting
/-!
# What runtime tests accept

A runtime test decides for a value whether it belongs to a descriptor. The test of a
union takes one of two shapes, and both accept what the tests of the members accept
(`RuntimeTest.accepts_ofMembers`). So the test of a descriptor is as good as those of
its atoms: where these are sound (`Oracle.SoundTests`), every layered descriptor over the
atoms has a test that comes out, and it accepts along the subtype relation
(`SoundTests.judges_of_subtype`).

Soundness is stated for one value, by way of the classes that it is an instance of and
the predicates that hold of it, and for a set of atoms that is closed under parts.
-/

namespace Narrowing

namespace RuntimeTest

variable {κ π ε : Type} {isInstance : κ → Bool} {holds : π → Except ε Bool}

theorem acceptsAny_eq_anyOrFail (ts : List (RuntimeTest κ π)) :
    acceptsAny isInstance holds ts = anyOrFail (accepts isInstance holds) ts := by
  induction ts with
  | nil => rw [acceptsAny, anyOrFail]
  | cons t ts ih =>
    cases h : t.accepts isInstance holds with
    | error e => simp [acceptsAny, anyOrFail, h]
    | ok b => cases b <;> simp [acceptsAny, anyOrFail, h, ih]

/-- A class test accepts the instances of its classes. -/
theorem accepts_of_isClassTest {t : RuntimeTest κ π} (h : t.isClassTest = true) :
    t.accepts isInstance holds = .ok (t.classes.any isInstance) := by
  cases t with
  | instanceOf c => simp [accepts, classes]
  | instanceOfAny cs => rw [accepts, classes]
  | check p => cases h
  | never => cases h
  | anyOf ts => cases h

/-- **The test of a union tries the tests of its members in order**, whichever shape
it takes. -/
theorem accepts_ofMembers (ts : List (RuntimeTest κ π)) :
    (ofMembers ts).accepts isInstance holds = anyOrFail (accepts isInstance holds) ts := by
  unfold ofMembers
  split
  · next hall =>
    rw [accepts]
    induction ts with
    | nil => rfl
    | cons t ts ih =>
      rw [List.all_cons, Bool.and_eq_true] at hall
      rw [List.flatMap_cons, List.any_append, anyOrFail, accepts_of_isClassTest hall.1]
      cases t.classes.any isInstance with
      | true => rfl
      | false => exact ih hall.2
  · rw [accepts, acceptsAny_eq_anyOrFail]

/-- Tests that are tried in order: if each tells something, they tell whether one of these
holds. -/
theorem mapM_tell {β η : Type} {f : β → Except η (RuntimeTest κ π)} {P : β → Prop} {l : List β}
    (h : ∀ x ∈ l, ∃ t r, f x = .ok t ∧ t.accepts isInstance holds = .ok r ∧ (r = true ↔ P x)) :
    ∃ ts r, l.mapM f = .ok ts ∧ anyOrFail (accepts isInstance holds) ts = .ok r ∧
      (r = true ↔ ∃ x ∈ l, P x) := by
  induction l with
  | nil => exact ⟨[], false, rfl, rfl, by simp⟩
  | cons x l ih =>
    rw [List.forall_mem_cons] at h
    obtain ⟨⟨t, r, ht, hr, hiff⟩, h⟩ := h
    obtain ⟨ts, s, hts, hs, hsiff⟩ := ih h
    refine ⟨t :: ts, r || s, by rw [List.mapM_cons, ht, hts]; rfl, ?_, ?_⟩
    · rw [anyOrFail, hr]
      cases r with
      | true => rfl
      | false => exact hs
    · rw [List.exists_mem_cons_iff, Bool.or_eq_true, hiff, hsiff]

end RuntimeTest

namespace Decider

variable {α κ π ε : Type} {c : Decider α κ π} {isInstance : κ → Bool} {holds : π → Except ε Bool}

/-- **The runtime test of a descriptor comes out** as the given answer. -/
def Judges (c : Decider α κ π) (isInstance : κ → Bool) (holds : π → Except ε Bool)
    (d : Descriptor α) (answer : Bool) : Prop :=
  ∃ t, c.test d = .ok t ∧ t.accepts isInstance holds = .ok answer

theorem Judges.accepts {d : Descriptor α} {r : Bool} {t : RuntimeTest κ π}
    (h : c.Judges isInstance holds d r) (ht : c.test d = .ok t) :
    t.accepts isInstance holds = .ok r := by
  obtain ⟨u, hu, hr⟩ := h
  obtain rfl : t = u := Except.ok.inj (ht.symm.trans hu)
  exact hr

theorem Judges.unique {d : Descriptor α} {r s : Bool} (hr : c.Judges isInstance holds d r)
    (hs : c.Judges isInstance holds d s) : r = s := by
  obtain ⟨t, ht, hs⟩ := hs
  exact Except.ok.inj ((hr.accepts ht).symm.trans hs)

end Decider

namespace Oracle

variable {α κ π ε : Type} {o : Oracle α κ π} {isInstance : κ → Bool}
  {holds : π → Except ε Bool}

/-! ## Lifted tests -/

namespace LiftsTo

variable [BEq α] [Named α] {c : Decider α κ π} (hc : o.LiftsTo c)
include hc

theorem test_top : c.test .top = .ok (.instanceOf o.everything) :=
  (hc.test _ _).2 ⟨1, rfl⟩

theorem test_bottom : c.test .bottom = .ok .never :=
  (hc.test _ _).2 ⟨1, rfl⟩

theorem test_atom_iff {a : α} (ha : o.read a = .atom a) {t : RuntimeTest κ π} :
    c.test (.atom a) = .ok t ↔ o.atomicTest a = .ok t := by
  have hlevel : ∀ n, o.testWithin (n + 1) (.atom a) = o.testAtom a := fun n => by
    rw [testWithin, show o.normalize (.atom a) = .atom a from ha]
  have hatom : o.testAtom a = .ok t ↔ o.atomicTest a = .ok t := by
    unfold testAtom
    cases o.atomicTest a <;> simp [Except.mapError]
  rw [hc.test, ← hatom]
  constructor
  · rintro ⟨_ | n, hn⟩
    · cases hn
    · exact hlevel n ▸ hn
  · exact fun h => ⟨1, (hlevel 0).trans h⟩

/-- The tests of all members give the test of a union. -/
theorem test_union {ms : List (Descriptor α)} {ts : List (RuntimeTest κ π)}
    (h : ms.mapM c.test = .ok ts) : c.test (.union ms) = .ok (.ofMembers ts) := by
  have hdeep : ∃ n, ms.mapM (o.testWithin n) = .ok ts := by
    induction ms generalizing ts with
    | nil => exact ⟨0, h⟩
    | cons m ms ih =>
      rw [List.mapM_cons] at h
      obtain ⟨t, ht, h⟩ := exists_of_bind_eq_ok h
      obtain ⟨us, hus, h⟩ := exists_of_bind_eq_ok h
      obtain ⟨k, hk⟩ := (hc.test m t).1 ht
      obtain ⟨l, hl⟩ := ih hus
      refine ⟨max k l, ?_⟩
      rw [List.mapM_cons, testWithin_mono (le_max_left k l) hk,
        mapM_mono (fun d _ _ => testWithin_mono (le_max_right k l)) hl]
      exact h
  obtain ⟨n, hn⟩ := hdeep
  refine (hc.test _ _).2 ⟨n + 1, ?_⟩
  show (ms.mapM (o.testWithin n)).map RuntimeTest.ofMembers = _
  rw [hn]
  rfl

/-- **A layered descriptor has the test of its normal form.** -/
theorem test_eq_ok_iff {d : Descriptor α} (hd : o.Layered d) {t : RuntimeTest κ π} :
    c.test d = .ok t ↔ o.runtimeTest d = .ok t := by
  obtain ⟨depth, hdepth⟩ := hd.testWithin_eq
  have hreported : o.reportedTest d = .ok t ↔ o.runtimeTest d = .ok t := by
    unfold reportedTest
    cases o.runtimeTest d <;> simp [Except.mapError]
  rw [hc.test, ← hreported]
  constructor
  · rintro ⟨n, hn⟩
    rw [← hdepth _ (le_max_right n depth)]
    exact testWithin_mono (le_max_left n depth) hn
  · exact fun h => ⟨depth, (hdepth _ le_rfl).trans h⟩

end LiftsTo

/-! ## Judgements of one value -/

/-- The test of an atom accepts the value. -/
def AtomAccepts (o : Oracle α κ π) (isInstance : κ → Bool) (holds : π → Except ε Bool) (a : α) :
    Prop :=
  ∃ t, o.atomicTest a = .ok t ∧ t.accepts isInstance holds = .ok true

/-- **Total tests of some atoms**, for one value: each atom has a test that comes out,
and what holds everything holds the value. -/
structure TotalTests (o : Oracle α κ π) (isInstance : κ → Bool) (holds : π → Except ε Bool)
    (on : α → Prop) : Prop where
  total : ∀ {a}, on a → ∃ t r, o.atomicTest a = .ok t ∧ t.accepts isInstance holds = .ok r
  everything : isInstance o.everything = true

/-- A normal form has a test, which accepts the value exactly if the normal form does by
way of its atoms. -/
def TestTells (o : Oracle α κ π) (isInstance : κ → Bool) (holds : π → Except ε Bool)
    (d : Descriptor α) : Prop :=
  ∃ t r, o.testOf d = .ok t ∧ t.accepts isInstance holds = .ok r ∧
    (r = true ↔ d.Accepts (o.AtomAccepts isInstance holds))

theorem testTells_atom {a : α} {t : RuntimeTest κ π} {r : Bool} (ht : o.atomicTest a = .ok t)
    (hr : t.accepts isInstance holds = .ok r) : o.TestTells isInstance holds (.atom a) := by
  refine ⟨t, r, by rw [testOf, ht], hr, ?_⟩
  rw [Descriptor.accepts_atom]
  constructor
  · rintro rfl
    exact ⟨t, ht, hr⟩
  · rintro ⟨u, hu, hur⟩
    obtain rfl : t = u := Except.ok.inj (ht.symm.trans hu)
    exact Except.ok.inj (hr.symm.trans hur)

theorem testsOf_eq_mapM (ms : List (Descriptor α)) : o.testsOf ms = ms.mapM o.testOf := by
  induction ms with
  | nil => rw [testsOf]; rfl
  | cons m ms ih =>
    rw [testsOf, List.mapM_cons, ← ih]
    cases o.testOf m with
    | error e => rfl
    | ok t => cases o.testsOf ms <;> rfl

/-- A normal form that has a test has one for each atom. -/
theorem exists_atomicTest_of_testOf {d : Descriptor α} {t : RuntimeTest κ π}
    (h : o.testOf d = .ok t) : ∀ a ∈ d.atoms, ∃ u, o.atomicTest a = .ok u := by
  induction d generalizing t with
  | atom a =>
    intro b hb
    obtain rfl := Descriptor.mem_atoms_atom.1 hb
    rw [testOf] at h
    exact ⟨t, h⟩
  | top => exact fun b hb => absurd hb List.not_mem_nil
  | bottom => exact fun b hb => absurd hb List.not_mem_nil
  | union ms ih =>
    have hmembers : ∀ (ns : List (Descriptor α)) (ts : List (RuntimeTest κ π)),
        o.testsOf ns = .ok ts → ∀ m ∈ ns, ∃ u, o.testOf m = .ok u := by
      intro ns
      induction ns with
      | nil => exact fun _ _ m hm => absurd hm List.not_mem_nil
      | cons n ns ihns =>
        intro ts hts
        rw [testsOf] at hts
        split at hts
        · cases hts
        · next u hu =>
          cases hrest : o.testsOf ns with
          | error e => rw [hrest] at hts; cases hts
          | ok us => exact List.forall_mem_cons.2 ⟨⟨u, hu⟩, ihns us hrest⟩
    rw [testOf] at h
    cases hts : o.testsOf ms with
    | error e => rw [hts] at h; cases h
    | ok ts =>
      intro b hb
      obtain ⟨m, hm, hbm⟩ := Descriptor.mem_atoms_union.1 hb
      obtain ⟨u, hu⟩ := hmembers ms ts hts m hm
      exact ih m hm hu b hbm

section Total

variable {on : α → Prop}

/-- **Every normal form over tested atoms has a test that tells.** -/
theorem TotalTests.testTells (ht : o.TotalTests isInstance holds on) {d : Descriptor α}
    (hd : ∀ a ∈ d.atoms, on a) : o.TestTells isInstance holds d := by
  induction d with
  | atom a =>
    obtain ⟨t, r, ht, hr⟩ := ht.total (hd a (by simp))
    exact testTells_atom ht hr
  | top =>
    refine ⟨_, _, by rw [testOf], by rw [RuntimeTest.accepts], ?_⟩
    exact iff_of_true ht.everything Descriptor.accepts_top
  | bottom =>
    refine ⟨_, _, by rw [testOf], by rw [RuntimeTest.accepts], ?_⟩
    exact iff_of_false Bool.false_ne_true Descriptor.not_accepts_bottom
  | union ms ih =>
    obtain ⟨ts, r, hts, hr, hiff⟩ := RuntimeTest.mapM_tell fun m hm =>
      ih m hm fun a ha => hd a (Descriptor.mem_atoms_union.2 ⟨m, hm, ha⟩)
    rw [← testsOf_eq_mapM] at hts
    refine ⟨.ofMembers ts, r, by rw [testOf, hts]; rfl, ?_, ?_⟩
    · rw [RuntimeTest.accepts_ofMembers, hr]
    · rw [hiff, Descriptor.accepts_union]

section Lifted

variable [BEq α] [Named α] {c : Decider α κ π} (ht : o.TotalTests isInstance holds on)
  (hc : o.LiftsTo c)
include ht hc

/-- **The runtime test of a layered descriptor over tested atoms comes out**, and it accepts
the value exactly if the normal form does by way of its atoms. -/
theorem TotalTests.judges_iff {d : Descriptor α} (hlayered : o.Layered d)
    (hd : ∀ a ∈ (o.normalForm d).atoms, on a) {r : Bool} :
    c.Judges isInstance holds d r ↔
      (r = true ↔ (o.normalForm d).Accepts (o.AtomAccepts isInstance holds)) := by
  obtain ⟨t, s, ht, hs', hiff⟩ := ht.testTells hd
  have hjudges : c.Judges isInstance holds d s := ⟨t, (hc.test_eq_ok_iff hlayered).2 ht, hs'⟩
  constructor
  · intro hr
    rw [hr.unique hjudges, hiff]
  · intro hr
    obtain rfl : r = s := Bool.eq_iff_iff.2 (hr.trans hiff.symm)
    exact hjudges

theorem TotalTests.accepts_iff {d : Descriptor α} (hlayered : o.Layered d)
    (hd : ∀ a ∈ (o.normalForm d).atoms, on a) :
    (o.normalForm d).Accepts (o.AtomAccepts isInstance holds) ↔
      c.Judges isInstance holds d true := by
  rw [ht.judges_iff hc hlayered hd, eq_self_iff_true, true_iff]

/-- What is not accepted is rejected. -/
theorem TotalTests.judges_false {d : Descriptor α} (hlayered : o.Layered d)
    (hd : ∀ a ∈ (o.normalForm d).atoms, on a) (h : ¬ c.Judges isInstance holds d true) :
    c.Judges isInstance holds d false := by
  rw [← ht.accepts_iff hc hlayered hd] at h
  exact (ht.judges_iff hc hlayered hd).2 (iff_of_false Bool.false_ne_true h)

omit [BEq α] [Named α] ht hc in
/-- What has its atoms from some descriptors has no others in normal form than these have. -/
theorem forall_mem_atoms_normalForm {e : Descriptor α} {ds : List (Descriptor α)}
    (he : ∀ a ∈ e.atoms, ∃ d ∈ ds, a ∈ d.atoms)
    (hds : ∀ d ∈ ds, ∀ x ∈ (o.normalForm d).atoms, on x) : ∀ x ∈ (o.normalForm e).atoms, on x := by
  intro x hx
  obtain ⟨a, ha, hxa⟩ := (Descriptor.mem_atoms_bind _).1 hx
  obtain ⟨d, hd, had⟩ := he a ha
  exact hds d hd x ((Descriptor.mem_atoms_bind d).2 ⟨a, had, hxa⟩)

/-- The runtime test of what is made of some descriptors and accepts as much as they do together
accepts what one of their tests accepts. -/
theorem TotalTests.judges_of_accepts {e : Descriptor α} {ds : List (Descriptor α)}
    (helayered : o.Layered e) (hlayered : ∀ d ∈ ds, o.Layered d)
    (he : ∀ a ∈ e.atoms, ∃ d ∈ ds, a ∈ d.atoms)
    (haccepts : ∀ v : α → Prop, e.Accepts v ↔ ∃ d ∈ ds, d.Accepts v)
    (hds : ∀ d ∈ ds, ∀ x ∈ (o.normalForm d).atoms, on x) :
    c.Judges isInstance holds e true ↔ ∃ d ∈ ds, c.Judges isInstance holds d true := by
  rw [← ht.accepts_iff hc helayered (forall_mem_atoms_normalForm he hds), normalForm,
    Descriptor.accepts_bind, haccepts]
  refine exists_congr fun d => and_congr_right fun hd => ?_
  rw [← ht.accepts_iff hc (hlayered d hd) (hds d hd), normalForm, Descriptor.accepts_bind]

end Lifted

end Total

/-! ## Acceptance along the subtype relation -/

section Sound

variable [BEq α] {on : α → Prop}

/-- **Sound tests of some atoms**, for one value: besides being total, acceptance passes on
along the relation of atoms, holds of universal atoms, and reaches a part of each sealed
atom. -/
structure SoundTests [BEq α] (o : Oracle α κ π) (c : Decider α κ π) (isInstance : κ → Bool)
    (holds : π → Except ε Bool) (on : α → Prop) : Prop
    extends o.TotalTests isInstance holds on where
  atoms : ∀ {a b}, on a → on b → o.atomicSubtype a b = true →
    o.AtomAccepts isInstance holds a → o.AtomAccepts isInstance holds b
  universal : ∀ {a}, on a → o.universal a = true → o.AtomAccepts isInstance holds a
  parts : ∀ {a}, on a → o.expand (.atom a) ≠ [] → o.AtomAccepts isInstance holds a →
    ∃ p ∈ o.expand (.atom a), c.Judges isInstance holds p true

/-- A set of atoms that contains those of their parts. -/
def PartClosed (o : Oracle α κ π) (on : α → Prop) : Prop :=
  ∀ a b, on a → o.ExpandsTo a b → on b

variable {c : Decider α κ π}

/-- Sound tests of some atoms are sound tests of fewer. -/
theorem SoundTests.mono {fewer : α → Prop} (hs : o.SoundTests c isInstance holds on)
    (h : ∀ a, fewer a → on a) : o.SoundTests c isInstance holds fewer where
  total := fun ha => hs.total (h _ ha)
  everything := hs.everything
  atoms := fun ha hb => hs.atoms (h _ ha) (h _ hb)
  universal := fun ha => hs.universal (h _ ha)
  parts := fun ha => hs.parts (h _ ha)

section Lifted

variable [Named α] (hs : o.SoundTests c isInstance holds on) (hc : o.LiftsTo c)
  (hparts : o.LayeredParts) (hon : o.PartClosed on)
include hs hc hparts hon

theorem SoundTests.respects : o.Respects on on (o.AtomAccepts isInstance holds) where
  atoms := hs.atoms
  universal := hs.universal
  parts := fun ha hne hv => by
    obtain ⟨p, hp, hpv⟩ := hs.parts ha hne hv
    exact ⟨p, hp, (hs.accepts_iff hc (hparts _ p hp) fun b hb => hon _ b ha ⟨p, hp, hb⟩).2 hpv⟩
  closed := fun ha hp hb => hon _ _ ha ⟨_, hp, hb⟩

/-- **What a descriptor accepts is accepted by what it is a subtype of.** -/
theorem SoundTests.judges_of_subtype {a b : Descriptor α} (hla : o.Layered a) (hlb : o.Layered b)
    (ha : ∀ x ∈ (o.normalForm a).atoms, on x) (hb : ∀ x ∈ (o.normalForm b).atoms, on x)
    (hab : c.subtype a b = .ok true) (hv : c.Judges isInstance holds a true) :
    c.Judges isInstance holds b true := by
  have hbelow := (hc.subtype.eq_true_iff_below hparts hla hlb ⟨true, hab⟩).1 hab
  rw [← hs.accepts_iff hc hla ha] at hv
  exact (hs.accepts_iff hc hlb hb).1 (hbelow.accepts (hs.respects hc hparts hon) ha hb hv)

/-- **What a descriptor accepts is accepted by one of some others**, if it is a subtype of what
these make up together. -/
theorem SoundTests.exists_judges_of_subtype {a e : Descriptor α} {ds : List (Descriptor α)}
    (hla : o.Layered a) (hle : o.Layered e) (hlayered : ∀ d ∈ ds, o.Layered d)
    (he : ∀ x ∈ e.atoms, ∃ d ∈ ds, x ∈ d.atoms)
    (haccepts : ∀ v : α → Prop, e.Accepts v ↔ ∃ d ∈ ds, d.Accepts v)
    (ha : ∀ x ∈ (o.normalForm a).atoms, on x)
    (hds : ∀ d ∈ ds, ∀ x ∈ (o.normalForm d).atoms, on x) (hae : c.subtype a e = .ok true)
    (hv : c.Judges isInstance holds a true) : ∃ d ∈ ds, c.Judges isInstance holds d true :=
  (hs.judges_of_accepts hc hle hlayered he haccepts hds).1
    (hs.judges_of_subtype hc hparts hon hla hle ha (forall_mem_atoms_normalForm he hds) hae hv)

end Lifted

/-! ## The atoms that matter -/

/-- **The atoms involved with some descriptors**: those of their normal forms, and
those of the parts of atoms involved. -/
def Involved (o : Oracle α κ π) (ds : List (Descriptor α)) (a : α) : Prop :=
  ∃ d ∈ ds, ∃ b ∈ (o.normalForm d).atoms, Relation.ReflTransGen o.ExpandsTo b a

theorem partClosed_involved (o : Oracle α κ π) (ds : List (Descriptor α)) :
    o.PartClosed (o.Involved ds) := by
  rintro a b ⟨d, hd, c, hc, hca⟩ hab
  exact ⟨d, hd, c, hc, hca.tail hab⟩

theorem involved_of_mem {ds : List (Descriptor α)} {d : Descriptor α} (hd : d ∈ ds) :
    ∀ a ∈ (o.normalForm d).atoms, o.Involved ds a :=
  fun a ha => ⟨d, hd, a, ha, Relation.ReflTransGen.refl⟩

end Sound

end Oracle

end Narrowing
