import Narrowing.Proofs.Oracle.Expansion
/-!
# When the relation is a preorder

The relation between normal forms is reflexive as soon as that of atoms is
(`Below.refl`). It is not transitive for every oracle. What is needed besides a
transitive relation of atoms is said by `Oracle.Coherent`: the declared parts of a
sealed atom have to cover whatever is below the atom, they must not all be empty, and
universality has to pass on to what is above a universal atom and to its parts.

For transitivity (`Coherent.below_trans`) the induction is on the rank of the middle
descriptor. A middle atom that is below the right-hand side only by its parts is
replaced by the union of them, whose atoms are of lower rank.
-/

namespace Narrowing

namespace Oracle

variable {α κ π : Type} [BEq α] {o : Oracle α κ π}

/-! ## Unions on the right -/

/-- What is below a member is below the union. -/
theorem Below.of_mem {a m : Descriptor α} {ms : List (Descriptor α)} (hm : m ∈ ms)
    (h : o.Below a m) : o.Below a (.union ms) := by
  induction a with
  | atom a => exact .member hm h
  | top =>
    rw [below_top_iff] at h ⊢
    exact holdsAll_union.2 ⟨m, hm, h⟩
  | bottom => exact .bottom _
  | union xs ih =>
    rw [below_union_iff] at h ⊢
    exact fun x hx => ih x hx (h x hx)

/-- **Everything is below itself**, if every atom is. -/
theorem Below.refl (hrefl : ∀ a, o.atomicSubtype a a = true) (d : Descriptor α) :
    o.Below d d := by
  induction d with
  | atom a => exact .atoms (.inr (hrefl a))
  | top => exact .top _
  | bottom => exact .bottom _
  | union ms ih => exact .members fun m hm => (ih m hm).of_mem hm

/-- Everything is below what holds everything. -/
theorem Below.of_holdsAll {a b : Descriptor α} (h : o.holdsAll b = true) : o.Below a b := by
  induction a with
  | atom a =>
    induction b with
    | atom b => exact .atoms (.inl (by rwa [holdsAll] at h))
    | top => exact .top _
    | bottom => cases h
    | union ms ih =>
      obtain ⟨m, hm, h⟩ := holdsAll_union.1 h
      exact (ih m hm h).of_mem hm
  | top => exact .everything h
  | bottom => exact .bottom _
  | union ms ih => exact .members ih

/-- An atom is below what has an atom above it. -/
theorem Below.of_mem_atoms {x z : α} {c : Descriptor α} (hz : z ∈ c.atoms)
    (h : o.universal z = true ∨ o.atomicSubtype x z = true) : o.Below (.atom x) c := by
  induction c with
  | atom y =>
    obtain rfl := Descriptor.mem_atoms_atom.1 hz
    exact .atoms h
  | top => exact .top _
  | bottom => exact absurd hz List.not_mem_nil
  | union ms ih =>
    obtain ⟨m, hm, hz⟩ := Descriptor.mem_atoms_union.1 hz
    exact .member hm (ih m hm hz)

/-! ## Without sealed atoms -/

section Unsealed

variable (hunsealed : ∀ a, o.expand (.atom a) = [])
include hunsealed

/-- Where nothing is sealed, an atom is below what holds everything and what has an atom
above it. -/
theorem atom_below_iff {x : α} {c : Descriptor α} :
    o.Below (.atom x) c ↔ o.holdsAll c = true ∨ ∃ z ∈ c.atoms, o.atomicSubtype x z = true := by
  constructor
  · intro h
    generalize hd : Descriptor.atom x = d at h
    induction h with
    | bottom c => cases hd
    | top d => exact .inl (by rw [holdsAll])
    | everything h => cases hd
    | members h => cases hd
    | @atoms y z h =>
      cases hd
      exact h.imp (fun h => by rwa [holdsAll]) fun h => ⟨z, by simp, h⟩
    | member hm _ ih =>
      rcases ih hd with h | ⟨z, hz, h⟩
      · exact .inl (holdsAll_union.2 ⟨_, hm, h⟩)
      · exact .inr ⟨z, Descriptor.mem_atoms_union.2 ⟨_, hm, hz⟩, h⟩
    | parts _ hne =>
      cases hd
      exact absurd (hunsealed _) hne
  · rintro (h | ⟨z, hz, h⟩)
    · exact .of_holdsAll h
    · exact .of_mem_atoms hz (.inr h)

/-- Where nothing is sealed, **the relation composes if it does at the atoms of the middle
descriptor**. -/
theorem below_trans_of_atoms {a b c : Descriptor α}
    (hatoms : ∀ x ∈ a.atoms, ∀ y ∈ b.atoms, o.atomicSubtype x y = true →
      o.Below (.atom y) c → o.Below (.atom x) c)
    (huniversal : ∀ y ∈ b.atoms, o.universal y = true → o.Below (.atom y) c → o.Below .top c)
    (hab : o.Below a b) (hbc : o.Below b c) : o.Below a c := by
  by_contra hac
  have htop : ¬ o.Below .top c := fun h => hac (.of_holdsAll (below_top_iff.1 h))
  have hrespects : o.Respects (· ∈ a.atoms) (· ∈ b.atoms) fun x => ¬ o.Below (.atom x) c := {
    atoms := fun hx hy hxy hxc hyc => hxc (hatoms _ hx _ hy hxy hyc)
    universal := fun hy h hyc => htop (huniversal _ hy h hyc)
    parts := fun _ hne => absurd (hunsealed _) hne
    closed := fun _ hp => by
      rw [hunsealed] at hp
      cases hp }
  have hb := hab.accepts hrespects (fun _ h => h) (fun _ h => h) ((accepts_not_below_iff htop).2 hac)
  exact (accepts_not_below_iff htop).1 hb hbc

end Unsealed

/-! ## Transitivity -/

/-- **A coherent oracle**: what it says of atoms, of their parts and of universality
fits together. -/
structure Coherent (o : Oracle α κ π) : Prop where
  refl : ∀ a, o.atomicSubtype a a = true
  trans : ∀ {a b c}, o.atomicSubtype a b = true → o.atomicSubtype b c = true →
    o.atomicSubtype a c = true
  /-- The parts of a sealed atom cover what is below it. -/
  covered : ∀ {a b}, o.atomicSubtype a b = true → o.expand (.atom b) ≠ [] →
    o.Below (.atom a) (.union ((o.expand (.atom b)).map o.normalForm))
  /-- Some part of a sealed atom is not empty. -/
  inhabited : ∀ {a}, o.expand (.atom a) ≠ [] →
    ∃ p ∈ o.expand (.atom a), ¬ o.Below (o.normalForm p) .bottom
  /-- What is above a universal atom is universal. -/
  universal : ∀ {a b}, o.universal a = true → o.atomicSubtype a b = true → o.universal b = true
  /-- A part of a universal sealed atom holds everything. -/
  universalPart : ∀ {a}, o.universal a = true → o.expand (.atom a) ≠ [] →
    ∃ p ∈ o.expand (.atom a), o.holdsAll (o.normalForm p) = true

namespace Coherent

/-- What is above something that holds everything holds everything. -/
theorem holdsAll_of_below (ho : o.Coherent) {b c : Descriptor α} (h : o.Below b c)
    (hb : o.holdsAll b = true) : o.holdsAll c = true := by
  induction h with
  | bottom c => cases hb
  | top b => rw [holdsAll]
  | everything h => exact h
  | members _ ih =>
    obtain ⟨m, hm, hb⟩ := holdsAll_union.1 hb
    exact ih m hm hb
  | atoms h =>
    rw [holdsAll] at hb ⊢
    exact h.elim id (ho.universal hb)
  | member hm _ ih => exact holdsAll_union.2 ⟨_, hm, ih hb⟩
  | parts _ hne _ ih =>
    rw [holdsAll] at hb
    obtain ⟨p, hp, hb⟩ := ho.universalPart hb hne
    exact ih p hp hb

/-- An atom is below what an atom above it is below, if the relation is transitive at
the parts of that atom. -/
theorem atom_below_of_atomicSubtype (ho : o.Coherent) {a b : α} {c : Descriptor α}
    (hparts : ∀ d e : Descriptor α, (∀ x ∈ d.atoms, o.ExpandsTo b x) →
      o.Below (.atom a) d → o.Below d e → o.Below (.atom a) e)
    (hab : o.atomicSubtype a b = true) (hbc : o.Below (.atom b) c) : o.Below (.atom a) c := by
  generalize hd : Descriptor.atom b = d at hbc
  induction hbc with
  | bottom c => cases hd
  | top d => exact .top _
  | everything h => cases hd
  | members h => cases hd
  | atoms h =>
    cases hd
    exact .atoms (h.imp_right (ho.trans hab))
  | member hm h ih =>
    cases hd
    exact .member hm (ih rfl)
  | @parts b' c hc hne h =>
    cases hd
    refine hparts _ c (fun x hx => ?_) (ho.covered hab hne) (.members fun m hm => ?_)
    · obtain ⟨m, hm, hxm⟩ := Descriptor.mem_atoms_union.1 hx
      obtain ⟨p, hp, rfl⟩ := List.mem_map.1 hm
      exact ⟨p, hp, hxm⟩
    · obtain ⟨p, hp, rfl⟩ := List.mem_map.1 hm
      exact h p hp

/-- Transitivity at a middle descriptor, if it is known at those whose atoms are parts
of atoms of it. -/
theorem below_trans_of_parts (ho : o.Coherent) {a b c : Descriptor α}
    (hparts : ∀ y ∈ b.atoms, ∀ a d e : Descriptor α, (∀ x ∈ d.atoms, o.ExpandsTo y x) →
      o.Below a d → o.Below d e → o.Below a e)
    (hab : o.Below a b) (hbc : o.Below b c) : o.Below a c := by
  induction hab generalizing c with
  | bottom b => exact .bottom c
  | top a => exact .of_holdsAll (below_top_iff.1 hbc)
  | everything h => exact .of_holdsAll (ho.holdsAll_of_below hbc h)
  | members _ ih => exact .members fun m hm => ih m hm hparts hbc
  | @atoms a b h =>
    rcases h with h | h
    · exact .of_holdsAll (ho.holdsAll_of_below hbc (by rwa [holdsAll]))
    · exact ho.atom_below_of_atomicSubtype (fun d e => hparts b (by simp) (.atom a) d e) h hbc
  | member hm _ ih =>
    refine ih (fun y hy => ?_) (below_union_iff.1 hbc _ hm)
    exact hparts y (Descriptor.mem_atoms_union.2 ⟨_, hm, hy⟩)
  | @parts a b hb hne _ ih =>
    have hall : ∀ p ∈ o.expand (.atom a), o.Below (o.normalForm p) c :=
      fun p hp => ih p hp hparts hbc
    refine .parts (fun hc => ?_) hne hall
    obtain ⟨p, hp, hnot⟩ := ho.inhabited hne
    exact hnot (hc ▸ hall p hp)

/-- **The relation of a coherent oracle without cyclic expansions is transitive.** -/
theorem below_trans [EquivBEq α] (ho : o.Coherent) (hacyclic : o.Acyclic)
    {a b c : Descriptor α} (hab : o.Below a b) (hbc : o.Below b c) : o.Below a c := by
  suffices hrank : ∀ n, ∀ a b c : Descriptor α, (∀ y ∈ b.atoms, o.rank y < n) →
      o.Below a b → o.Below b c → o.Below a c by
    refine hrank (o.sealedParts.length + 1) a b c (fun y _ => ?_) hab hbc
    exact Nat.lt_succ_of_le (o.rank_le y)
  intro n
  induction n with
  | zero =>
    intro a b c hlow
    exact ho.below_trans_of_parts fun y hy => absurd (hlow y hy) (Nat.not_lt_zero _)
  | succ n ih =>
    intro a b c hlow
    refine ho.below_trans_of_parts fun y hy a d e hd => ih a d e fun x hx => ?_
    exact Nat.lt_of_lt_of_le (hacyclic.rank_lt (hd x hx)) (Nat.le_of_lt_succ (hlow y hy))

end Coherent

end Oracle

end Narrowing
