import Narrowing.Oracle.Classes
import Narrowing.Proofs.Class
import Narrowing.Proofs.Descriptor
import Mathlib.Data.List.Forall2
/-!
# What spellings come to over classes

A host spelling is read as classes before anything is asked of it, and what is left in
its normal form is **plain** (`Spelling.Plain`): a class, or a foreign atom that has no
class and is only related to its equals. Between plain spellings the relation composes
as it does between classes (`Spelling.isSubclass_trans_of_plain`).

Equality of spellings is coarser than equality of their texts; it is an equivalence.
-/

namespace Narrowing

namespace Spelling

/-- **A spelling that stands for itself** over classes. -/
inductive Plain : Spelling → Prop where
  | name (s : String) : Plain (name s)
  | cls (c : Class) : Plain (cls c)
  | literal (values : List LiteralValue) : Plain (literal values)
  | number (i : Int) : Plain (number i)
  | forward (s : String) : Plain (forward s)

mutual

/-- What a spelling stands for is made of plain ones. -/
theorem plain_of_mem_core {a : Spelling} : ∀ s : Spelling, a ∈ s.core.atoms → a.Plain
  | name s, h => Descriptor.mem_atoms_atom.1 h ▸ .name s
  | cls c, h => Descriptor.mem_atoms_atom.1 h ▸ .cls c
  | none, h => Descriptor.mem_atoms_atom.1 h ▸ .cls _
  | any, h => absurd h List.not_mem_nil
  | choice style xs, h => by
    obtain ⟨d, hd, had⟩ := Descriptor.mem_atoms_of_join h
    exact plain_of_mem_coreAll xs d hd had
  | generic c xs, h => Descriptor.mem_atoms_atom.1 h ▸ .cls c
  | aliased b xs, h => Descriptor.mem_atoms_atom.1 h ▸ .cls _
  | bareAlias b, h => Descriptor.mem_atoms_atom.1 h ▸ .cls _
  | literal vs, h => Descriptor.mem_atoms_atom.1 h ▸ .literal vs
  | number i, h => Descriptor.mem_atoms_atom.1 h ▸ .number i
  | forward s, h => Descriptor.mem_atoms_atom.1 h ▸ .forward s
  | top, h => absurd h List.not_mem_nil
  | bottom, h => absurd h List.not_mem_nil
  | union xs, h => by
    obtain ⟨d, hd, had⟩ := Descriptor.mem_atoms_union.1 h
    exact plain_of_mem_coreAll xs d hd had

/-- What a list of spellings stands for is made of plain ones. -/
theorem plain_of_mem_coreAll {a : Spelling} : ∀ (xs : List Spelling), ∀ d ∈ coreAll xs,
    a ∈ d.atoms → a.Plain
  | [], d, hd, _ => absurd hd List.not_mem_nil
  | x :: xs, d, hd, h => by
    rcases List.mem_cons.1 hd with rfl | hd
    · exact plain_of_mem_core x h
    · exact plain_of_mem_coreAll xs d hd h

end

/-! ## What is equal to a spelling -/

/-- Whether a spelling has neither parts nor values. -/
def isSimple : Spelling → Bool
  | choice .. | generic .. | aliased .. | union _ | literal _ => false
  | _ => true

/-- A simple spelling is equal to itself alone. -/
theorem same_simple_iff {x y : Spelling} (hx : x.isSimple = true) :
    same x y = true ↔ y = x := by
  refine Iff.trans (b := x = y) ?_ eq_comm
  cases x with
  | choice style xs => cases hx
  | generic c xs => cases hx
  | aliased b xs => cases hx
  | union xs => cases hx
  | literal vs => cases hx
  | _ => cases y <;> simp [same]

theorem same_cls_iff {c : Class} {y : Spelling} : same (cls c) y = true ↔ y = cls c :=
  same_simple_iff rfl

/-- Literals are equal if they have the same values. -/
theorem same_literal_iff {vs : List LiteralValue} {y : Spelling} :
    same (literal vs) y = true ↔ ∃ ws, y = literal ws ∧ ∀ v, v ∈ vs ↔ v ∈ ws := by
  cases y with
  | literal ws =>
    have hiff : (∀ v, v ∈ vs ↔ v ∈ ws) ↔ (∀ v ∈ vs, v ∈ ws) ∧ ∀ v ∈ ws, v ∈ vs :=
      ⟨fun h => ⟨fun v => (h v).1, fun v => (h v).2⟩, fun h v => ⟨h.1 v, h.2 v⟩⟩
    simp [same, hiff]
  | _ => simp [same]

theorem allAmong_iff {xs ys : List Spelling} :
    allAmong xs ys = true ↔ ∀ x ∈ xs, ∃ y ∈ ys, same x y = true := by
  induction xs with
  | nil => simp [allAmong]
  | cons x xs ih => simp [allAmong, ih]

theorem someSame_iff {xs : List Spelling} {y : Spelling} :
    someSame xs y = true ↔ ∃ x ∈ xs, same x y = true := by
  induction xs with
  | nil => simp [someSame]
  | cons x xs ih => simp [someSame, ih]

theorem samePairwise_iff {xs ys : List Spelling} :
    samePairwise xs ys = true ↔ List.Forall₂ (fun x y => same x y = true) xs ys := by
  induction xs generalizing ys with
  | nil => cases ys <;> simp [samePairwise]
  | cons x xs ih => cases ys <;> simp [samePairwise, ih]

/-- Choices are equal if each alternative of one is equal to one of the other. -/
theorem same_choice_iff {style : ChoiceStyle} {xs : List Spelling} {y : Spelling} :
    same (choice style xs) y = true ↔ ∃ style' ys, y = choice style' ys ∧
      (∀ x ∈ xs, ∃ y ∈ ys, same x y = true) ∧ ∀ y ∈ ys, ∃ x ∈ xs, same x y = true := by
  cases y with
  | choice style' ys => simp [same, allAmong_iff, someSame_iff]
  | _ => simp [same]

theorem same_generic_iff {c : Class} {xs : List Spelling} {y : Spelling} :
    same (generic c xs) y = true ↔
      ∃ ys, y = generic c ys ∧ List.Forall₂ (fun x y => same x y = true) xs ys := by
  cases y with
  | generic d ys => simp [same, samePairwise_iff, @eq_comm _ c]
  | _ => simp [same]

theorem same_aliased_iff {b : Alias} {xs : List Spelling} {y : Spelling} :
    same (aliased b xs) y = true ↔
      ∃ ys, y = aliased b ys ∧ List.Forall₂ (fun x y => same x y = true) xs ys := by
  cases y with
  | aliased c ys => simp [same, samePairwise_iff, @eq_comm _ b]
  | _ => simp [same]

theorem same_union_iff {xs : List Spelling} {y : Spelling} :
    same (union xs) y = true ↔
      ∃ ys, y = union ys ∧ List.Forall₂ (fun x y => same x y = true) xs ys := by
  cases y with
  | union ys => simp [same, samePairwise_iff]
  | _ => simp [same]

/-! ## Equality is an equivalence -/

/-- The spellings right inside another. -/
@[simp] def parts : Spelling → List Spelling
  | choice _ xs => xs
  | generic _ xs => xs
  | aliased _ xs => xs
  | union xs => xs
  | _ => []

/-- **Induction on spellings**: the statement may be used for what is right inside. -/
@[elab_as_elim]
theorem induction {P : Spelling → Prop} (step : ∀ s : Spelling, (∀ x ∈ s.parts, P x) → P s) :
    ∀ s, P s
  | choice style xs => step (choice style xs) fun x _ => induction step x
  | generic c xs => step (generic c xs) fun x _ => induction step x
  | aliased b xs => step (aliased b xs) fun x _ => induction step x
  | union xs => step (union xs) fun x _ => induction step x
  | name s => step (name s) fun x hx => absurd hx List.not_mem_nil
  | cls c => step (cls c) fun x hx => absurd hx List.not_mem_nil
  | none => step none fun x hx => absurd hx List.not_mem_nil
  | any => step any fun x hx => absurd hx List.not_mem_nil
  | bareAlias b => step (bareAlias b) fun x hx => absurd hx List.not_mem_nil
  | literal vs => step (literal vs) fun x hx => absurd hx List.not_mem_nil
  | number i => step (number i) fun x hx => absurd hx List.not_mem_nil
  | forward s => step (forward s) fun x hx => absurd hx List.not_mem_nil
  | top => step top fun x hx => absurd hx List.not_mem_nil
  | bottom => step bottom fun x hx => absurd hx List.not_mem_nil

theorem same_refl (s : Spelling) : same s s = true := by
  induction s using induction with
  | step s ih =>
    cases s with
    | choice style xs =>
      exact same_choice_iff.2 ⟨style, xs, rfl, fun x hx => ⟨x, hx, ih x hx⟩,
        fun x hx => ⟨x, hx, ih x hx⟩⟩
    | generic c xs => exact same_generic_iff.2 ⟨xs, rfl, List.forall₂_same.2 ih⟩
    | aliased b xs => exact same_aliased_iff.2 ⟨xs, rfl, List.forall₂_same.2 ih⟩
    | union xs => exact same_union_iff.2 ⟨xs, rfl, List.forall₂_same.2 ih⟩
    | literal vs => exact same_literal_iff.2 ⟨vs, rfl, fun _ => Iff.rfl⟩
    | _ => exact (same_simple_iff rfl).2 rfl

theorem forall₂_same_symm {xs ys : List Spelling}
    (ih : ∀ x ∈ xs, ∀ y, same x y = true → same y x = true)
    (h : List.Forall₂ (fun x y => same x y = true) xs ys) :
    List.Forall₂ (fun x y => same x y = true) ys xs := by
  induction h with
  | nil => exact .nil
  | cons hxy _ ihxs =>
    rw [List.forall_mem_cons] at ih
    exact .cons (ih.1 _ hxy) (ihxs ih.2)

theorem same_symm (s t : Spelling) (h : same s t = true) : same t s = true := by
  induction s using induction generalizing t with
  | step s ih =>
    cases s with
    | choice style xs =>
      obtain ⟨style', ys, rfl, hxs, hys⟩ := same_choice_iff.1 h
      refine same_choice_iff.2 ⟨style, xs, rfl, fun y hy => ?_, fun x hx => ?_⟩
      · obtain ⟨x, hx, hxy⟩ := hys y hy
        exact ⟨x, hx, ih x hx y hxy⟩
      · obtain ⟨y, hy, hxy⟩ := hxs x hx
        exact ⟨y, hy, ih x hx y hxy⟩
    | generic c xs =>
      obtain ⟨ys, rfl, hxy⟩ := same_generic_iff.1 h
      exact same_generic_iff.2 ⟨xs, rfl, forall₂_same_symm ih hxy⟩
    | aliased b xs =>
      obtain ⟨ys, rfl, hxy⟩ := same_aliased_iff.1 h
      exact same_aliased_iff.2 ⟨xs, rfl, forall₂_same_symm ih hxy⟩
    | union xs =>
      obtain ⟨ys, rfl, hxy⟩ := same_union_iff.1 h
      exact same_union_iff.2 ⟨xs, rfl, forall₂_same_symm ih hxy⟩
    | literal vs =>
      obtain ⟨ws, rfl, hvw⟩ := same_literal_iff.1 h
      exact same_literal_iff.2 ⟨vs, rfl, fun v => (hvw v).symm⟩
    | _ =>
      obtain rfl := (same_simple_iff rfl).1 h
      exact h

theorem forall₂_same_trans {xs ys zs : List Spelling}
    (ih : ∀ x ∈ xs, ∀ y z, same x y = true → same y z = true → same x z = true)
    (hxy : List.Forall₂ (fun x y => same x y = true) xs ys)
    (hyz : List.Forall₂ (fun x y => same x y = true) ys zs) :
    List.Forall₂ (fun x y => same x y = true) xs zs := by
  induction hxy generalizing zs with
  | nil => exact hyz
  | cons hxy _ ihxs =>
    rw [List.forall_mem_cons] at ih
    cases hyz with
    | cons hyz hrest => exact .cons (ih.1 _ _ hxy hyz) (ihxs ih.2 hrest)

theorem same_trans (s t u : Spelling) (hst : same s t = true) (htu : same t u = true) :
    same s u = true := by
  induction s using induction generalizing t u with
  | step s ih =>
    cases s with
    | choice style xs =>
      obtain ⟨style', ys, rfl, hxs, hys⟩ := same_choice_iff.1 hst
      obtain ⟨style'', zs, rfl, hys', hzs⟩ := same_choice_iff.1 htu
      refine same_choice_iff.2 ⟨style'', zs, rfl, fun x hx => ?_, fun z hz => ?_⟩
      · obtain ⟨y, hy, hxy⟩ := hxs x hx
        obtain ⟨z, hz, hyz⟩ := hys' y hy
        exact ⟨z, hz, ih x hx y z hxy hyz⟩
      · obtain ⟨y, hy, hyz⟩ := hzs z hz
        obtain ⟨x, hx, hxy⟩ := hys y hy
        exact ⟨x, hx, ih x hx y z hxy hyz⟩
    | generic c xs =>
      obtain ⟨ys, rfl, hxy⟩ := same_generic_iff.1 hst
      obtain ⟨zs, rfl, hyz⟩ := same_generic_iff.1 htu
      exact same_generic_iff.2 ⟨zs, rfl, forall₂_same_trans ih hxy hyz⟩
    | aliased b xs =>
      obtain ⟨ys, rfl, hxy⟩ := same_aliased_iff.1 hst
      obtain ⟨zs, rfl, hyz⟩ := same_aliased_iff.1 htu
      exact same_aliased_iff.2 ⟨zs, rfl, forall₂_same_trans ih hxy hyz⟩
    | union xs =>
      obtain ⟨ys, rfl, hxy⟩ := same_union_iff.1 hst
      obtain ⟨zs, rfl, hyz⟩ := same_union_iff.1 htu
      exact same_union_iff.2 ⟨zs, rfl, forall₂_same_trans ih hxy hyz⟩
    | literal vs =>
      obtain ⟨ws, rfl, hvw⟩ := same_literal_iff.1 hst
      obtain ⟨us, rfl, hwu⟩ := same_literal_iff.1 htu
      exact same_literal_iff.2 ⟨us, rfl, fun v => (hvw v).trans (hwu v)⟩
    | _ =>
      obtain rfl := (same_simple_iff rfl).1 hst
      exact htu

/-- **Equality of spellings is an equivalence.** -/
instance : EquivBEq Spelling where
  rfl := same_refl _
  symm := same_symm _ _
  trans := same_trans _ _ _

/-! ## The relation -/

/-- A class is only below classes. -/
theorem isSubclass_cls_iff {c : Class} {y : Spelling} :
    (cls c).isSubclass y = true ↔ ∃ d, y = cls d ∧ c.isSubclass d = true := by
  cases y with
  | cls d => simp [isSubclass]
  | _ => simp [isSubclass, BEq.beq, same]

/-- A foreign atom is only below its equals. -/
theorem isSubclass_eq_same {x : Spelling} (hx : ∀ c, x ≠ cls c) (y : Spelling) :
    x.isSubclass y = same x y := by
  cases x with
  | cls c => exact absurd rfl (hx c)
  | _ => rfl

/-- Every spelling is below itself. -/
theorem isSubclass_refl (x : Spelling) : x.isSubclass x = true := by
  cases x with
  | cls c => cases c <;> simp [isSubclass, Class.isSubclass, StandardClass.isSubclass_self]
  | _ => exact same_refl _

/-- **Between plain spellings the relation composes** as it does between classes, and
everywhere else as equality does. -/
theorem isSubclass_trans_of_plain {x y z : Spelling} (hx : x.Plain)
    (hxy : x.isSubclass y = true) (hyz : y.isSubclass z = true) :
    x.isSubclass z = true ∨ ∃ c d e, x = cls c ∧ y = cls d ∧ z = cls e ∧
      c.isSubclass d = true ∧ d.isSubclass e = true := by
  by_cases hclass : ∃ c, x = cls c
  · obtain ⟨c, rfl⟩ := hclass
    obtain ⟨d, rfl, hcd⟩ := isSubclass_cls_iff.1 hxy
    obtain ⟨e, rfl, hde⟩ := isSubclass_cls_iff.1 hyz
    exact .inr ⟨c, d, e, rfl, rfl, rfl, hcd, hde⟩
  · have hforeign : ∀ c, x ≠ cls c := fun c h => hclass ⟨c, h⟩
    have hyforeign : ∀ c, y ≠ cls c := by
      rintro c rfl
      rw [isSubclass_eq_same hforeign] at hxy
      cases hx with
      | cls d => exact hforeign d rfl
      | _ => simp [same] at hxy
    rw [isSubclass_eq_same hforeign] at hxy ⊢
    rw [isSubclass_eq_same hyforeign] at hyz
    exact .inl (same_trans _ _ _ hxy hyz)

end Spelling

end Narrowing
