import Narrowing.Oracle
import Narrowing.Proofs.Descriptor
/-!
# The subtype relation behind the search

`Oracle.isSubtype` is a search that may find no end. What it searches for is a
relation between normal forms, `Oracle.Below`, given by its rules: a union on the
left needs all its members, a union on the right one of them, and a sealed atom is
below what all its parts are below – except that nothing but the empty type is put
below the empty type by its parts.

Whatever the oracle is like, an answer of the search is the truth about that
relation (`isSubtype_tells`). Whether every question has one (`Oracle.Answering`) is
another matter; it is the subject of `Narrowing.Proofs.Oracle.Expansion`.

The rules are followed by acceptance: a valuation of the atoms that respects what
an oracle says of them (`Oracle.Respects`) accepts along the relation
(`Below.accepts`). Both the soundness of runtime tests and the meaning of a
declared hierarchy are instances, and so is transitivity: what is not below a descriptor
is such a valuation (`accepts_not_below_iff`).
-/

namespace Narrowing

/-! ## Answers that tell the truth -/

section Answers

variable {ε β : Type} {P Q : Prop}

/-- **An answer that tells the truth** about a statement: if there is one, it says
whether the statement holds. -/
def TellsTruth (answer : Except ε Bool) (P : Prop) : Prop :=
  ∀ r, answer = .ok r → (r = true ↔ P)

theorem TellsTruth.ok {b : Bool} (h : b = true ↔ P) : TellsTruth (.ok b : Except ε Bool) P := by
  rintro r ⟨⟩
  exact h

theorem TellsTruth.error {e : ε} : TellsTruth (.error e) P := by
  rintro r ⟨⟩

theorem TellsTruth.congr {answer : Except ε Bool} (h : TellsTruth answer P) (hPQ : P ↔ Q) :
    TellsTruth answer Q :=
  fun r hr => (h r hr).trans hPQ

/-- A second question after one that was denied tells of the disjunction. -/
theorem TellsTruth.or_of_denied {x y : Except ε Bool} (hx : TellsTruth x P)
    (h : x = .ok false) (hy : TellsTruth y Q) : TellsTruth y (P ∨ Q) := by
  have hP : ¬ P := fun hp => Bool.noConfusion ((hx false h).2 hp)
  exact hy.congr (by simp [hP])

/-- A question that was not denied settles a disjunction alone. -/
theorem TellsTruth.or_of_not_denied {x : Except ε Bool} (hx : TellsTruth x P)
    (h : x ≠ .ok false) : TellsTruth x (P ∨ Q) := by
  intro r hr
  cases r with
  | false => exact absurd hr h
  | true => exact iff_of_true rfl (.inl ((hx true hr).1 rfl))

/-- A second question after one that was affirmed tells of the conjunction. -/
theorem TellsTruth.and_of_affirmed {x y : Except ε Bool} (hx : TellsTruth x P)
    (h : x = .ok true) (hy : TellsTruth y Q) : TellsTruth y (P ∧ Q) := by
  have hP : P := (hx true h).1 rfl
  exact hy.congr (by simp [hP])

/-- A question that was not affirmed settles a conjunction alone. -/
theorem TellsTruth.and_of_not_affirmed {x : Except ε Bool} (hx : TellsTruth x P)
    (h : x ≠ .ok true) : TellsTruth x (P ∧ Q) := by
  intro r hr
  cases r with
  | true => exact absurd hr h
  | false =>
    exact iff_of_false Bool.false_ne_true fun hpq => Bool.noConfusion ((hx false hr).2 hpq.1)

theorem TellsTruth.allOrFail {p : β → Except ε Bool} {P : β → Prop} {xs : List β}
    (h : ∀ x ∈ xs, TellsTruth (p x) (P x)) : TellsTruth (allOrFail p xs) (∀ x ∈ xs, P x) := by
  induction xs with
  | nil => exact TellsTruth.ok (by simp)
  | cons x xs ih =>
    have hx := h x List.mem_cons_self
    have hxs := ih fun y hy => h y (List.mem_cons_of_mem x hy)
    rw [List.forall_mem_cons, Narrowing.allOrFail]
    split
    · next ha => exact hx.and_of_affirmed ha hxs
    · next ha => exact hx.and_of_not_affirmed ha

theorem TellsTruth.anyOrFail {p : β → Except ε Bool} {P : β → Prop} {xs : List β}
    (h : ∀ x ∈ xs, TellsTruth (p x) (P x)) : TellsTruth (anyOrFail p xs) (∃ x ∈ xs, P x) := by
  induction xs with
  | nil => exact TellsTruth.ok (by simp)
  | cons x xs ih =>
    have hx := h x List.mem_cons_self
    have hxs := ih fun y hy => h y (List.mem_cons_of_mem x hy)
    rw [List.exists_mem_cons_iff, Narrowing.anyOrFail]
    split
    · next hd => exact hx.or_of_denied hd hxs
    · next hd => exact hx.or_of_not_denied hd

end Answers

namespace Oracle

variable {α κ π : Type}

/-! ## The relation -/

/-- **One normal form below another**, by rules. -/
inductive Below [BEq α] (o : Oracle α κ π) : Descriptor α → Descriptor α → Prop where
  /-- The empty type is below everything. -/
  | bottom (b : Descriptor α) : Below o .bottom b
  /-- Everything is below the universal type. -/
  | top (a : Descriptor α) : Below o a .top
  /-- The universal type is below what holds everything. -/
  | everything {b : Descriptor α} (h : o.holdsAll b = true) : Below o .top b
  /-- A union is below what all its members are below. -/
  | members {ms : List (Descriptor α)} {b : Descriptor α} (h : ∀ m ∈ ms, Below o m b) :
    Below o (.union ms) b
  /-- Atoms are related by the oracle. -/
  | atoms {a b : α} (h : o.universal b = true ∨ o.atomicSubtype a b = true) :
    Below o (.atom a) (.atom b)
  /-- An atom is below a union if it is below a member. -/
  | member {a : α} {m : Descriptor α} {ms : List (Descriptor α)} (hm : m ∈ ms)
    (h : Below o (.atom a) m) : Below o (.atom a) (.union ms)
  /-- A sealed atom is below what all its parts are below. -/
  | parts {a : α} {b : Descriptor α} (hb : b ≠ .bottom) (hne : o.expand (.atom a) ≠ [])
    (h : ∀ p ∈ o.expand (.atom a), Below o (o.normalForm p) b) : Below o (.atom a) b

section Inversion

variable [BEq α] {o : Oracle α κ π}

/-- The parts of an atom, of which there are some, are all below a descriptor. -/
def PartsBelow (o : Oracle α κ π) (a : α) (b : Descriptor α) : Prop :=
  o.expand (.atom a) ≠ [] ∧ ∀ p ∈ o.expand (.atom a), o.Below (o.normalForm p) b

theorem Below.of_partsBelow {a : α} {b : Descriptor α} (hb : b ≠ .bottom)
    (h : o.PartsBelow a b) : o.Below (.atom a) b :=
  .parts hb h.1 h.2

theorem below_top_iff {b : Descriptor α} : o.Below .top b ↔ o.holdsAll b = true := by
  constructor
  · intro h
    cases h with
    | top => rw [holdsAll]
    | everything h => exact h
  · exact .everything

theorem below_union_iff {ms : List (Descriptor α)} {b : Descriptor α} :
    o.Below (.union ms) b ↔ ∀ m ∈ ms, o.Below m b := by
  constructor
  · intro h
    cases h with
    | top => exact fun m _ => .top m
    | members h => exact h
  · exact .members

theorem not_atom_below_bottom {a : α} : ¬ o.Below (.atom a) .bottom := by
  intro h
  cases h with
  | parts hb _ _ => exact hb rfl

theorem atom_below_atom_iff {a b : α} :
    o.Below (.atom a) (.atom b) ↔
      (o.universal b = true ∨ o.atomicSubtype a b = true) ∨ o.PartsBelow a (.atom b) := by
  constructor
  · intro h
    cases h with
    | atoms h => exact .inl h
    | parts _ hne h => exact .inr ⟨hne, h⟩
  · rintro (h | h)
    · exact .atoms h
    · exact .of_partsBelow (by simp) h

theorem atom_below_union_iff {a : α} {ms : List (Descriptor α)} :
    o.Below (.atom a) (.union ms) ↔
      (∃ m ∈ ms, o.Below (.atom a) m) ∨ o.PartsBelow a (.union ms) := by
  constructor
  · intro h
    cases h with
    | member hm h => exact .inl ⟨_, hm, h⟩
    | parts _ hne h => exact .inr ⟨hne, h⟩
  · rintro (⟨m, hm, h⟩ | h)
    · exact .member hm h
    · exact .of_partsBelow (by simp) h

end Inversion

/-! ## Answers of the search -/

section Search

variable [BEq α] {o : Oracle α κ π} {ask : Question α}

/-- Asking below the expansion of an atom tells the truth. -/
def AsksTruly (o : Oracle α κ π) (ask : Question α) : Prop :=
  ∀ a b, TellsTruth (ask a b) (o.Below a b)

theorem partsBelow_tells (hask : o.AsksTruly ask) (a : α) (b : Descriptor α) :
    TellsTruth (o.partsBelow ask a b) (o.PartsBelow a b) := by
  unfold partsBelow PartsBelow
  split
  · next h => exact TellsTruth.ok (by simp [h])
  · next parts hne =>
    refine (TellsTruth.allOrFail (P := fun p => o.Below (o.normalForm p) b)
      fun p _ => hask (o.normalForm p) b).congr ?_
    exact ⟨fun h => ⟨hne, h⟩, fun h => h.2⟩

theorem atomBelowSome_tells {a : α} {ms : List (Descriptor α)}
    (h : ∀ m ∈ ms, TellsTruth (o.atomBelow ask a m) (o.Below (.atom a) m)) :
    TellsTruth (o.atomBelowSome ask a ms) (∃ m ∈ ms, o.Below (.atom a) m) := by
  induction ms with
  | nil =>
    rw [atomBelowSome]
    exact TellsTruth.ok (by simp)
  | cons m ms ih =>
    have hm := h m List.mem_cons_self
    have hms := ih fun n hn => h n (List.mem_cons_of_mem m hn)
    rw [List.exists_mem_cons_iff, atomBelowSome]
    split
    · next hd => exact hm.or_of_denied hd hms
    · next hd => exact hm.or_of_not_denied hd

theorem atomBelow_tells (hask : o.AsksTruly ask) (a : α) (b : Descriptor α) :
    TellsTruth (o.atomBelow ask a b) (o.Below (.atom a) b) := by
  induction b with
  | atom b =>
    rw [atomBelow]
    split
    · next h =>
      refine TellsTruth.ok (iff_of_true rfl (.atoms ?_))
      simpa using h
    · next h =>
      refine (partsBelow_tells hask a (.atom b)).congr ?_
      rw [atom_below_atom_iff]
      have hnone : ¬ (o.universal b = true ∨ o.atomicSubtype a b = true) := by simpa using h
      simp only [hnone, false_or]
  | top =>
    rw [atomBelow]
    exact TellsTruth.ok (iff_of_true rfl (.top _))
  | bottom =>
    rw [atomBelow]
    exact TellsTruth.ok (iff_of_false Bool.false_ne_true not_atom_below_bottom)
  | union ms ih =>
    have hms := atomBelowSome_tells ih
    rw [atom_below_union_iff, atomBelow]
    split
    · next hd => exact hms.or_of_denied hd (partsBelow_tells hask a (.union ms))
    · next hd => exact hms.or_of_not_denied hd

theorem allBelow_tells {ms : List (Descriptor α)} {b : Descriptor α}
    (h : ∀ m ∈ ms, TellsTruth (o.descriptorBelow ask m b) (o.Below m b)) :
    TellsTruth (o.allBelow ask ms b) (∀ m ∈ ms, o.Below m b) := by
  induction ms with
  | nil =>
    rw [allBelow]
    exact TellsTruth.ok (by simp)
  | cons m ms ih =>
    have hm := h m List.mem_cons_self
    have hms := ih fun n hn => h n (List.mem_cons_of_mem m hn)
    rw [List.forall_mem_cons, allBelow]
    split
    · next ha => exact hm.and_of_affirmed ha hms
    · next ha => exact hm.and_of_not_affirmed ha

theorem descriptorBelow_tells (hask : o.AsksTruly ask) (a b : Descriptor α) :
    TellsTruth (o.descriptorBelow ask a b) (o.Below a b) := by
  induction a with
  | atom a =>
    rw [descriptorBelow]
    exact atomBelow_tells hask a b
  | top =>
    rw [descriptorBelow]
    exact TellsTruth.ok below_top_iff.symm
  | bottom =>
    rw [descriptorBelow]
    exact TellsTruth.ok (iff_of_true rfl (.bottom b))
  | union ms ih =>
    rw [descriptorBelow]
    split
    · next h =>
      have hb : b = .top := by
        cases b with
        | top => rfl
        | atom b => cases h
        | bottom => cases h
        | union ms => cases h
      exact TellsTruth.ok (iff_of_true rfl (hb ▸ .top _))
    · exact (allBelow_tells ih).congr below_union_iff.symm

theorem belowWithin_tells (n : Nat) : o.AsksTruly (o.belowWithin n) := by
  induction n with
  | zero =>
    intro a b
    rw [belowWithin]
    exact descriptorBelow_tells (fun _ _ => TellsTruth.error) a b
  | succ n ih =>
    intro a b
    rw [belowWithin]
    exact descriptorBelow_tells ih a b

/-- **An answer of the search is the truth** about the relation of normal forms,
for every oracle. -/
theorem isSubtype_tells (o : Oracle α κ π) (a b : Descriptor α) :
    TellsTruth (o.isSubtype a b) (o.Below (o.normalForm a) (o.normalForm b)) :=
  belowWithin_tells _ _ _

/-- **Every question has an answer.** -/
def Answering (o : Oracle α κ π) : Prop :=
  ∀ a b, ∃ r, o.isSubtype a b = .ok r

/-- **Where every question has an answer the search decides the relation.** -/
theorem Answering.isSubtype_eq_true_iff (ho : o.Answering) {a b : Descriptor α} :
    o.isSubtype a b = .ok true ↔ o.Below (o.normalForm a) (o.normalForm b) := by
  obtain ⟨r, hr⟩ := ho a b
  rw [← isSubtype_tells o a b r hr, hr, Except.ok.injEq]

end Search

/-! ## Acceptance along the relation -/

/-- **A valuation that respects an oracle**: it accepts along the relation of atoms,
accepts universal atoms, and accepts a part of each sealed atom that it accepts. This is
asked of the atoms that stand on the left of a question and those on the right; on the
left there are also those of parts. -/
structure Respects [BEq α] (o : Oracle α κ π) (left right v : α → Prop) : Prop where
  atoms : ∀ {a b}, left a → right b → o.atomicSubtype a b = true → v a → v b
  universal : ∀ {a}, right a → o.universal a = true → v a
  parts : ∀ {a}, left a → o.expand (.atom a) ≠ [] → v a →
    ∃ p ∈ o.expand (.atom a), (o.normalForm p).Accepts v
  closed : ∀ {a p b}, left a → p ∈ o.expand (.atom a) → b ∈ (o.normalForm p).atoms → left b

section Acceptance

variable [BEq α] {o : Oracle α κ π} {left right v : α → Prop}

omit [BEq α] in
theorem someHoldsAll_iff {ds : List (Descriptor α)} :
    o.someHoldsAll ds = true ↔ ∃ d ∈ ds, o.holdsAll d = true := by
  induction ds with
  | nil => simp [someHoldsAll]
  | cons d ds ih => simp [someHoldsAll, ih]

omit [BEq α] in
@[simp] theorem holdsAll_union {ms : List (Descriptor α)} :
    o.holdsAll (.union ms) = true ↔ ∃ m ∈ ms, o.holdsAll m = true := by
  rw [holdsAll, someHoldsAll_iff]

omit [BEq α] left right in
/-- What holds everything accepts whatever its universal atoms accept. -/
theorem accepts_of_holdsAll {d : Descriptor α}
    (hd : ∀ a ∈ d.atoms, o.universal a = true → v a) (h : o.holdsAll d = true) :
    d.Accepts v := by
  induction d with
  | atom a =>
    rw [holdsAll] at h
    exact Descriptor.accepts_atom.2 (hd a (by simp) h)
  | top => exact Descriptor.accepts_top
  | bottom => cases h
  | union ms ih =>
    obtain ⟨m, hm, h⟩ := holdsAll_union.1 h
    have hm' : ∀ a ∈ m.atoms, o.universal a = true → v a :=
      fun a ha => hd a (Descriptor.mem_atoms_union.2 ⟨m, hm, ha⟩)
    exact Descriptor.accepts_union.2 ⟨m, hm, ih m hm hm' h⟩

/-- **What is below a descriptor is accepted by it**, for every valuation that
respects the oracle on the atoms of both. -/
theorem Below.accepts (hv : o.Respects left right v) {a b : Descriptor α} (h : o.Below a b)
    (ha : ∀ x ∈ a.atoms, left x) (hb : ∀ x ∈ b.atoms, right x) (hav : a.Accepts v) :
    b.Accepts v := by
  induction h with
  | bottom b => exact absurd hav Descriptor.not_accepts_bottom
  | top a => exact Descriptor.accepts_top
  | everything h => exact accepts_of_holdsAll (fun x hx => hv.universal (hb x hx)) h
  | members _ ih =>
    obtain ⟨m, hm, hmv⟩ := Descriptor.accepts_union.1 hav
    exact ih m hm (fun x hx => ha x (Descriptor.mem_atoms_union.2 ⟨m, hm, hx⟩)) hb hmv
  | @atoms a b h =>
    rw [Descriptor.accepts_atom] at hav ⊢
    have hleft := ha a (by simp)
    have hright := hb b (by simp)
    rcases h with h | h
    · exact hv.universal hright h
    · exact hv.atoms hleft hright h hav
  | @member a m ms hm _ ih =>
    have hright : ∀ x ∈ m.atoms, right x :=
      fun x hx => hb x (Descriptor.mem_atoms_union.2 ⟨m, hm, hx⟩)
    exact Descriptor.accepts_union.2 ⟨m, hm, ih ha hright hav⟩
  | @parts a b _ hne _ ih =>
    have hleft := ha a (by simp)
    obtain ⟨p, hp, hpv⟩ := hv.parts hleft hne (Descriptor.accepts_atom.1 hav)
    exact ih p hp (fun x hx => hv.closed hleft hp hx) hb hpv

omit [BEq α] left right in
/-- What a descriptor accepts is accepted by an atom of it, unless it holds everything. -/
theorem holdsAll_or_exists_atom {d : Descriptor α} (hv : d.Accepts v) :
    o.holdsAll d = true ∨ ∃ x ∈ d.atoms, v x := by
  induction d with
  | atom x => exact .inr ⟨x, by simp, Descriptor.accepts_atom.1 hv⟩
  | top => exact .inl (by rw [holdsAll])
  | bottom => exact absurd hv Descriptor.not_accepts_bottom
  | union ms ih =>
    obtain ⟨m, hm, hmv⟩ := Descriptor.accepts_union.1 hv
    rcases ih m hm hmv with h | ⟨x, hx, hvx⟩
    · exact .inl (holdsAll_union.2 ⟨m, hm, h⟩)
    · exact .inr ⟨x, Descriptor.mem_atoms_union.2 ⟨m, hm, hx⟩, hvx⟩

omit [BEq α] left right v in
/-- What has a universal atom holds everything. -/
theorem holdsAll_of_mem_atoms {d : Descriptor α} {x : α} (hx : x ∈ d.atoms)
    (h : o.universal x = true) : o.holdsAll d = true := by
  induction d with
  | atom y =>
    obtain rfl := Descriptor.mem_atoms_atom.1 hx
    rwa [holdsAll]
  | top => rw [holdsAll]
  | bottom => exact absurd hx List.not_mem_nil
  | union ms ih =>
    obtain ⟨m, hm, hx⟩ := Descriptor.mem_atoms_union.1 hx
    exact holdsAll_union.2 ⟨m, hm, ih m hm hx⟩

omit left right in
/-- What a descriptor accepts is accepted by an atom of it, which is below what the
descriptor is below; or the latter holds everything. -/
theorem Below.exists_atom {a c : Descriptor α} (h : o.Below a c) (hv : a.Accepts v) :
    o.holdsAll c = true ∨ ∃ x ∈ a.atoms, v x ∧ o.Below (.atom x) c := by
  induction a with
  | atom x => exact .inr ⟨x, by simp, Descriptor.accepts_atom.1 hv, h⟩
  | top => exact .inl (below_top_iff.1 h)
  | bottom => exact absurd hv Descriptor.not_accepts_bottom
  | union ms ih =>
    obtain ⟨m, hm, hmv⟩ := Descriptor.accepts_union.1 hv
    refine (ih m hm (below_union_iff.1 h m hm) hmv).imp_right ?_
    rintro ⟨x, hx, hvx, hxc⟩
    exact ⟨x, Descriptor.mem_atoms_union.2 ⟨m, hm, hx⟩, hvx, hxc⟩

omit left right v in
/-- **What is not below `c` is a valuation**, unless everything is below it: a descriptor
is accepted by it exactly when it is not below `c` itself. -/
theorem accepts_not_below_iff {c : Descriptor α} (htop : ¬ o.Below .top c) {d : Descriptor α} :
    (d.Accepts fun x => ¬ o.Below (.atom x) c) ↔ ¬ o.Below d c := by
  induction d with
  | atom x => exact Descriptor.accepts_atom
  | top => exact iff_of_true Descriptor.accepts_top htop
  | bottom => exact iff_of_false Descriptor.not_accepts_bottom (not_not_intro (.bottom c))
  | union ms ih =>
    rw [Descriptor.accepts_union, below_union_iff]
    constructor
    · rintro ⟨m, hm, hmv⟩ hall
      exact (ih m hm).1 hmv (hall m hm)
    · intro h
      obtain ⟨m, hm, hmc⟩ := not_forall₂.1 h
      exact ⟨m, hm, (ih m hm).2 hmc⟩

end Acceptance

end Oracle

end Narrowing
