import Narrowing.Class
import Mathlib.Data.List.Basic
/-!
# How far the subclass relation composes

The subclass relation is not transitive. What has the members that an abstract class asks for is
below it, and a class can take such a member away from what it is built from: a class may be below
`object`, which is hashable, and have its hashing turned off. But that concerns the few classes
that ask for members only. For everything else the relation composes, and that is what
`Registry.trans` says.

For the standard classes this is a matter of the table. A declared class is below what
its bases are below, up to the asking classes, so the statement goes from the classes
declared before to the next one (`Registry`).
-/

namespace Narrowing

namespace StandardClass

theorem mem_all (c : StandardClass) : c ∈ all := by
  cases c <;> decide

theorem isSubclass_self (c : StandardClass) : c.isSubclass c = true := by
  simp [isSubclass]

theorem isSubclass_object (c : StandardClass) : c.isSubclass object = true := by
  simp [isSubclass]

/-- **The table is what the members say**: a class is below one that asks for members exactly if it
meets it. -/
theorem isSubclass_asking : ∀ c ∈ all, ∀ s ∈ all, s.isAsking = true →
    c.isSubclass s = meets (fun m => c.lineage.findSome? fun d => d.members.lookup m) c.lineage s := by
  decide

theorem above_trans : ∀ c ∈ all, ∀ d ∈ above c, ∀ e ∈ above d, e ≠ hashable →
    c.isSubclass e = true := by
  decide

theorem above_object : ∀ e ∈ above object, e = hashable := by
  decide

/-- What `object` is below. -/
theorem eq_of_object_isSubclass {e : StandardClass} (h : object.isSubclass e = true) :
    e = object ∨ e = hashable := by
  cases e <;> first | exact .inl rfl | exact .inr rfl | cases h

/-- **Between standard classes the relation composes**, but for being hashable. -/
theorem isSubclass_trans {c d e : StandardClass} (hcd : c.isSubclass d = true)
    (hde : d.isSubclass e = true) (he : e ≠ hashable) : c.isSubclass e = true := by
  simp only [isSubclass, Bool.or_eq_true, decide_eq_true_eq, List.contains_iff_mem] at hcd hde
  rcases hcd with (rfl | rfl) | hcd
  · simpa [isSubclass] using hde
  · rcases hde with (rfl | rfl) | hde
    · exact isSubclass_object c
    · exact isSubclass_object c
    · exact absurd (above_object e hde) he
  · rcases hde with (rfl | rfl) | hde
    · simp [isSubclass, hcd]
    · exact isSubclass_object c
    · exact above_trans c (mem_all c) d hcd e hde he

/-- What a class that asks for members is below. -/
theorem asking_isSubclass : ∀ s ∈ all, s.isAsking = true → ∀ z ∈ all, s.isSubclass z = true →
    z = object ∨ z.isAsking = true := by
  decide

/-! ## What a class keeps of what its bases are below -/

theorem mem_settled {tells : SpecialMember → Option Bool} {lineage above : List StandardClass}
    {s : StandardClass} : s ∈ settled tells lineage above ↔
      s ∈ above ∧ s.isAsking = false ∨ s.isAsking = true ∧ meets tells lineage s = true := by
  simp [settled, mem_all, and_comm]

end StandardClass

namespace Class

open StandardClass

theorem mem_standardAbove_iff {c : Class} {s : StandardClass} :
    s ∈ c.standardAbove ↔ c.isSubclass (.standard s) = true := by
  cases c with
  | standard c =>
    simp only [standardAbove, isSubclass, StandardClass.isSubclass, List.mem_cons,
      Bool.or_eq_true, decide_eq_true_eq, List.contains_iff_mem, or_assoc, @eq_comm _ s c]
  | declared d => simp [standardAbove, isSubclass]

theorem mem_declaredAbove_iff {c : Class} {d : DeclaredClass} :
    d.name ∈ c.declaredAbove ↔ c.isSubclass (.declared d) = true := by
  cases c with
  | standard c => simp [declaredAbove, isSubclass]
  | declared e => simp [declaredAbove, isSubclass, @eq_comm _ d.name]

/-- A class that asks for no members: all but a few standard ones. -/
theorem asking?_standard_eq_none_iff {s : StandardClass} :
    (standard s).asking? = none ↔ s.isAsking = false := by
  simp [asking?]

/-- **What is declared**: it is below what its bases are below, as settled, and below
itself. -/
theorem exists_bases_of_declare? {name module qualname : String} {bases : List Class}
    {members : List (SpecialMember × Bool)} {d : DeclaredClass}
    (h : declare? name module qualname bases members = some (.declared d)) :
    ∃ bs : List Class, bs ≠ [] ∧ (∀ b ∈ bs, b ∈ bases ∨ b = .standard .object) ∧
      ∃ tells lineage, d.standardAbove = settled tells lineage (bs.flatMap standardAbove) ∧
        d.declaredAbove = bs.flatMap declaredAbove := by
  unfold declare? at h
  simp only [Option.bind_eq_bind] at h
  have hsome : (if bases.isEmpty then [standard object] else bases) ≠ [] := by
    split
    · exact List.cons_ne_nil _ _
    · next hne => exact fun hnil => hne (List.isEmpty_iff.2 hnil)
  generalize hbs : (if bases.isEmpty then [standard object] else bases) = bs at h hsome
  split at h
  · cases h
  · obtain ⟨_, -, h⟩ := Option.bind_eq_some_iff.1 h
    obtain ⟨inherited, -, h⟩ := Option.bind_eq_some_iff.1 h
    obtain rfl := Class.declared.inj (Option.some.inj h)
    refine ⟨bs, hsome, fun b hb => ?_, _, _, rfl, rfl⟩
    subst hbs
    split at hb
    · exact .inr (List.mem_singleton.1 hb)
    · exact .inl hb

/-! ## Classes declared one after another -/

/-- A class is standard or among some declared ones. -/
def Known (ds : List DeclaredClass) : Class → Prop
  | standard _ => True
  | declared d => d ∈ ds

/-- **Classes declared one after another**, the last one first: each has a name of its own,
bases that are known before, and any special members. -/
inductive Registry : List DeclaredClass → Prop where
  | nil : Registry []
  | declare {ds : List DeclaredClass} {d : DeclaredClass} {module qualname : String}
    {bases : List Class} {members : List (SpecialMember × Bool)} (before : Registry ds)
    (hbases : ∀ b ∈ bases, b.Known ds) (hname : ∀ e ∈ ds, e.name ≠ d.name)
    (hd : declare? d.name module qualname bases members = some (.declared d)) : Registry (d :: ds)

theorem Known.of_cons {d : DeclaredClass} {ds : List DeclaredClass} {c : Class}
    (h : c.Known (d :: ds)) : c = declared d ∨ c.Known ds := by
  cases c with
  | standard c => exact .inr trivial
  | declared e =>
    rcases List.mem_cons.1 h with rfl | h
    · exact .inl rfl
    · exact .inr h

/-- A class that asks for members is below no others but `object`. -/
theorem eq_object_of_asking {s : StandardClass} {z : Class} (hs : s.isAsking = true)
    (hsz : (standard s).isSubclass z = true) (hz : z.asking? = none) : z = standard object := by
  cases z with
  | declared e => cases hsz
  | standard z =>
    rcases asking_isSubclass s (mem_all s) hs z (mem_all z) hsz with rfl | hasking
    · rfl
    · rw [asking?_standard_eq_none_iff, hasking] at hz
      cases hz

section Declared

variable {ds : List DeclaredClass} {d : DeclaredClass} {bs : List Class}
  {tells : SpecialMember → Option Bool} {lineage : List StandardClass}
  (habove : d.standardAbove = settled tells lineage (bs.flatMap standardAbove))
  (hdeclared : d.declaredAbove = bs.flatMap declaredAbove)
include habove hdeclared

/-- What a base is below the declared class is below, but for the classes that ask for members. -/
theorem isSubclass_of_base {b z : Class} (hb : b ∈ bs) (hbz : b.isSubclass z = true)
    (hz : z.asking? = none) : (declared d).isSubclass z = true := by
  cases z with
  | standard s =>
    rw [← mem_standardAbove_iff, show (declared d).standardAbove = d.standardAbove from rfl, habove]
    have hmem : s ∈ bs.flatMap standardAbove :=
      List.mem_flatMap.2 ⟨b, hb, mem_standardAbove_iff.2 hbz⟩
    exact mem_settled.2 (.inl ⟨hmem, asking?_standard_eq_none_iff.1 hz⟩)
  | declared e =>
    refine mem_declaredAbove_iff.1 (List.mem_cons_of_mem _ ?_)
    rw [hdeclared]
    exact List.mem_flatMap.2 ⟨b, hb, mem_declaredAbove_iff.2 hbz⟩

/-- Below a declared class that was declared before, or below a standard class, there is a base;
or that class asks for members. -/
theorem exists_base_of_isSubclass (hname : ∀ e ∈ ds, e.name ≠ d.name) {y : Class}
    (hy : y.Known ds) (hdy : (declared d).isSubclass y = true) :
    (∃ b ∈ bs, b.isSubclass y = true) ∨ ∃ s, y = standard s ∧ s.isAsking = true := by
  cases y with
  | declared e =>
    have hmem : e.name ∈ bs.flatMap declaredAbove := by
      rw [← hdeclared]
      exact (List.mem_cons.1 (mem_declaredAbove_iff.2 hdy)).resolve_left (hname e hy)
    obtain ⟨b, hb, hbe⟩ := List.mem_flatMap.1 hmem
    exact .inl ⟨b, hb, mem_declaredAbove_iff.1 hbe⟩
  | standard s =>
    have hs : s ∈ settled tells lineage (bs.flatMap standardAbove) := by
      rw [← habove]
      exact mem_standardAbove_iff.2 hdy
    rcases mem_settled.1 hs with ⟨hs, -⟩ | ⟨hasking, -⟩
    · obtain ⟨b, hb, hbs⟩ := List.mem_flatMap.1 hs
      exact .inl ⟨b, hb, mem_standardAbove_iff.1 hbs⟩
    · exact .inr ⟨s, rfl, hasking⟩

end Declared

/-! ## The relation of a registry -/

namespace Registry

variable {ds : List DeclaredClass}

/-- Every known class is below `object`. -/
theorem isSubclass_object (h : Registry ds) {c : Class} (hc : c.Known ds) :
    c.isSubclass (standard object) = true := by
  induction h generalizing c with
  | nil =>
    cases c with
    | standard c => exact c.isSubclass_object
    | declared d => cases hc
  | @declare ds d module qualname bases members before hbases hname hd ih =>
    rcases hc.of_cons with rfl | hc
    · obtain ⟨bs, hne, hbs, tells, lineage, habove, hdeclared⟩ := exists_bases_of_declare? hd
      obtain ⟨b, hb⟩ := List.exists_mem_of_ne_nil bs hne
      refine isSubclass_of_base habove hdeclared hb ?_ rfl
      rcases hbs b hb with hb | rfl
      · exact ih (hbases b hb)
      · rfl
    · exact ih hc

/-- A known class is below no declared class but known ones. -/
theorem exists_name (h : Registry ds) {c : Class} (hc : c.Known ds) :
    ∀ n ∈ c.declaredAbove, ∃ e ∈ ds, e.name = n := by
  induction h generalizing c with
  | nil =>
    cases c with
    | standard c => exact fun n hn => absurd hn List.not_mem_nil
    | declared d => cases hc
  | @declare ds d module qualname bases members before hbases hname hd ih =>
    have hold : ∀ {b : Class}, b.Known ds → ∀ n ∈ b.declaredAbove, ∃ e ∈ d :: ds, e.name = n := by
      intro b hb n hn
      obtain ⟨e, he, hen⟩ := ih hb n hn
      exact ⟨e, List.mem_cons_of_mem d he, hen⟩
    rcases hc.of_cons with rfl | hc
    · obtain ⟨bs, -, hbs, tells, lineage, -, hdeclared⟩ := exists_bases_of_declare? hd
      intro n hn
      rcases List.mem_cons.1 hn with rfl | hn
      · exact ⟨d, List.mem_cons_self, rfl⟩
      · rw [hdeclared] at hn
        obtain ⟨b, hb, hn⟩ := List.mem_flatMap.1 hn
        rcases hbs b hb with hb | rfl
        · exact hold (hbases b hb) n hn
        · exact absurd hn List.not_mem_nil
    · exact hold hc

/-- Nothing known is below a class with a new name. -/
theorem not_isSubclass_of_fresh (h : Registry ds) {d : DeclaredClass}
    (hname : ∀ e ∈ ds, e.name ≠ d.name) {c : Class} (hc : c.Known ds) :
    c.isSubclass (declared d) = false := by
  refine Bool.eq_false_iff.2 fun hbelow => ?_
  obtain ⟨e, he, hen⟩ := h.exists_name hc d.name (mem_declaredAbove_iff.2 hbelow)
  exact hname e he hen

/-- **The subclass relation of a registry composes**, but for the classes that ask for members. -/
theorem trans (h : Registry ds) {x y z : Class} (hx : x.Known ds) (hy : y.Known ds)
    (hz : z.Known ds) (hxy : x.isSubclass y = true) (hyz : y.isSubclass z = true)
    (hasking : z.asking? = none) : x.isSubclass z = true := by
  induction h generalizing x y z with
  | nil =>
    cases x with
    | declared d => cases hx
    | standard c =>
      cases y with
      | declared e => cases hxy
      | standard d =>
        cases z with
        | declared e => cases hyz
        | standard e =>
          refine StandardClass.isSubclass_trans hxy hyz ?_
          rintro rfl
          cases hasking
  | @declare ds d module qualname bases members before hbases hname hd ih =>
    obtain ⟨bs, -, hbs, tells, lineage, habove, hdeclared⟩ := exists_bases_of_declare? hd
    have hknown : ∀ b ∈ bs, b.Known ds := by
      intro b hb
      rcases hbs b hb with hb | rfl
      · exact hbases b hb
      · trivial
    have hfresh : ∀ {c : Class}, c.Known ds → c.isSubclass (declared d) = true → False := by
      intro c hc hcd
      rw [before.not_isSubclass_of_fresh hname hc] at hcd
      cases hcd
    have hzds : y.Known ds → z.Known ds := by
      intro hyds
      rcases hz.of_cons with rfl | hz
      · exact (hfresh hyds hyz).elim
      · exact hz
    rcases hx.of_cons with rfl | hxds
    · rcases hy.of_cons with rfl | hyds
      · exact hyz
      · rcases exists_base_of_isSubclass habove hdeclared hname hyds hxy with
          ⟨b, hb, hby⟩ | ⟨s, rfl, hs⟩
        · have hbz := ih (hknown b hb) hyds (hzds hyds) hby hyz hasking
          exact isSubclass_of_base habove hdeclared hb hbz hasking
        · obtain rfl := eq_object_of_asking hs hyz hasking
          exact (before.declare hbases hname hd).isSubclass_object hx
    · have hyds : y.Known ds := by
        rcases hy.of_cons with rfl | hy
        · exact (hfresh hxds hxy).elim
        · exact hy
      exact ih hxds hyds (hzds hyds) hxy hyz hasking

end Registry

end Class

end Narrowing
