import Narrowing.Descriptor
import Mathlib.Data.List.Basic
/-!
# What descriptors accept

A descriptor stands for a set of values by way of its atoms: once it is said of
every atom whether it accepts a value, `Descriptor.Accepts` says it of every
descriptor. Joins and substitutions are described through it, which is how they
are used elsewhere: the join of some descriptors accepts what one of them
accepts (`accepts_join`), and a substitution is a change of what atoms accept
(`accepts_bind`).

Equality of descriptors is given by an equality of atoms that need not be the
identity; it is an equivalence if that one is. And a descriptor can be written if its
members can, which is up to the atoms again.
-/

namespace Narrowing

namespace Descriptor

variable {α : Type}

/-- **Induction on descriptors**: for a union the statement may be used for its
members. -/
@[elab_as_elim, induction_eliminator]
theorem induction {P : Descriptor α → Prop} (atom : ∀ a, P (.atom a)) (top : P .top)
    (bottom : P .bottom) (union : ∀ ms, (∀ m ∈ ms, P m) → P (.union ms)) : ∀ d, P d
  | .atom a => atom a
  | .top => top
  | .bottom => bottom
  | .union ms => union ms fun m _ => induction atom top bottom union m

/-! ## Atoms -/

mutual

/-- The atoms of a descriptor, at every depth. -/
def atoms : Descriptor α → List α
  | .atom a => [a]
  | .top => []
  | .bottom => []
  | .union members => atomsOfAll members

/-- The atoms of a member list. -/
def atomsOfAll : List (Descriptor α) → List α
  | [] => []
  | d :: ds => atoms d ++ atomsOfAll ds

end

theorem mem_atomsOfAll {a : α} {ds : List (Descriptor α)} :
    a ∈ atomsOfAll ds ↔ ∃ d ∈ ds, a ∈ d.atoms := by
  induction ds with
  | nil => simp [atomsOfAll]
  | cons d ds ih => simp [atomsOfAll, ih]

@[simp] theorem mem_atoms_atom {a b : α} : a ∈ (atom b).atoms ↔ a = b := by
  simp [atoms]

@[simp] theorem mem_atoms_union {a : α} {ms : List (Descriptor α)} :
    a ∈ (union ms).atoms ↔ ∃ m ∈ ms, a ∈ m.atoms := by
  rw [atoms, mem_atomsOfAll]

/-! ## Acceptance -/

mutual

/-- **What a descriptor accepts** if it is known of its atoms. -/
def Accepts (v : α → Prop) : Descriptor α → Prop
  | .atom a => v a
  | .top => True
  | .bottom => False
  | .union members => AcceptsSome v members

/-- What some member of a list accepts. -/
def AcceptsSome (v : α → Prop) : List (Descriptor α) → Prop
  | [] => False
  | d :: ds => Accepts v d ∨ AcceptsSome v ds

end

section Acceptance

variable {v : α → Prop}

theorem acceptsSome_iff {ds : List (Descriptor α)} :
    AcceptsSome v ds ↔ ∃ d ∈ ds, d.Accepts v := by
  induction ds with
  | nil => simp [AcceptsSome]
  | cons d ds ih => simp [AcceptsSome, ih]

@[simp] theorem accepts_atom {a : α} : (atom a).Accepts v ↔ v a := by
  rw [Accepts]

@[simp] theorem accepts_top : (top : Descriptor α).Accepts v := by
  simp [Accepts]

@[simp] theorem not_accepts_bottom : ¬ (bottom : Descriptor α).Accepts v := by
  simp [Accepts]

@[simp] theorem accepts_union {ms : List (Descriptor α)} :
    (union ms).Accepts v ↔ ∃ m ∈ ms, m.Accepts v := by
  rw [Accepts, acceptsSome_iff]

/-- A descriptor accepts what an atom of it accepts. -/
theorem accepts_of_mem_atoms {a : α} {d : Descriptor α} (ha : a ∈ d.atoms) (hv : v a) :
    d.Accepts v := by
  induction d with
  | atom b => exact accepts_atom.2 (mem_atoms_atom.1 ha ▸ hv)
  | top => exact accepts_top
  | bottom => exact absurd ha List.not_mem_nil
  | union ms ih =>
    obtain ⟨m, hm, ha⟩ := mem_atoms_union.1 ha
    exact accepts_union.2 ⟨m, hm, ih m hm ha⟩

/-- What accepts more atoms accepts more descriptors. -/
theorem Accepts.mono {w : α → Prop} (hvw : ∀ a, v a → w a) {d : Descriptor α}
    (h : d.Accepts v) : d.Accepts w := by
  induction d with
  | atom a => exact accepts_atom.2 (hvw a (accepts_atom.1 h))
  | top => exact accepts_top
  | bottom => exact absurd h not_accepts_bottom
  | union ms ih =>
    obtain ⟨m, hm, hmv⟩ := accepts_union.1 h
    exact accepts_union.2 ⟨m, hm, ih m hm hmv⟩

/-! ## Joins -/

theorem exists_mem_isTop_iff {ds : List (Descriptor α)} :
    ds.any isTop = true ↔ top ∈ ds := by
  rw [List.any_eq_true]
  constructor
  · rintro ⟨d, hd, h⟩
    cases d with
    | top => exact hd
    | atom a => cases h
    | bottom => cases h
    | union ms => cases h
  · exact fun h => ⟨top, h, rfl⟩

/-- A descriptor accepts what one of its contributions to a join accepts. -/
theorem accepts_contribution {d : Descriptor α} (h : d ≠ top) :
    (∃ m ∈ d.contribution, m.Accepts v) ↔ d.Accepts v := by
  cases d with
  | top => exact absurd rfl h
  | atom a => simp [contribution]
  | bottom => simp [contribution]
  | union ms => simp [contribution]

theorem accepts_ofMembers {ms : List (Descriptor α)} :
    (ofMembers ms).Accepts v ↔ ∃ m ∈ ms, m.Accepts v := by
  match ms with
  | [] => simp [ofMembers]
  | [d] => simp [ofMembers]
  | d :: e :: rest => simp only [ofMembers, accepts_union]

/-- **A join accepts what one of the joined descriptors accepts.** -/
theorem accepts_join {ds : List (Descriptor α)} :
    (join ds).Accepts v ↔ ∃ d ∈ ds, d.Accepts v := by
  unfold join
  split
  · next h =>
    exact iff_of_true accepts_top ⟨top, exists_mem_isTop_iff.1 h, accepts_top⟩
  · next h =>
    have hne : ∀ d ∈ ds, d ≠ top := fun d hd e =>
      h (exists_mem_isTop_iff.2 (e ▸ hd))
    rw [accepts_ofMembers]
    constructor
    · rintro ⟨m, hm, hv⟩
      obtain ⟨d, hd, hmd⟩ := List.mem_flatMap.1 hm
      exact ⟨d, hd, (accepts_contribution (hne d hd)).1 ⟨m, hmd, hv⟩⟩
    · rintro ⟨d, hd, hv⟩
      obtain ⟨m, hm, hmv⟩ := (accepts_contribution (hne d hd)).2 hv
      exact ⟨m, List.mem_flatMap.2 ⟨d, hd, hm⟩, hmv⟩

end Acceptance

theorem mem_atoms_of_contribution {a : α} {d m : Descriptor α} (hm : m ∈ d.contribution)
    (ha : a ∈ m.atoms) : a ∈ d.atoms := by
  cases d with
  | bottom => simp [contribution] at hm
  | union ms => exact mem_atoms_union.2 ⟨m, hm, ha⟩
  | atom b => exact List.mem_singleton.1 hm ▸ ha
  | top => exact List.mem_singleton.1 hm ▸ ha

/-- A join that is a union has the contributions for members, or it is the only one. -/
theorem eq_of_join_eq_union {ds ms : List (Descriptor α)} (h : join ds = union ms) :
    ms = ds.flatMap contribution ∨ union ms ∈ ds.flatMap contribution := by
  unfold join at h
  split at h
  · cases h
  · generalize ds.flatMap contribution = ns at h
    rcases ns with _ | ⟨d, _ | ⟨e, rest⟩⟩
    · cases h
    · exact .inr (List.mem_singleton.2 h.symm)
    · exact .inl (union.inj h).symm

/-- A join has no atoms but those of the joined descriptors. -/
theorem mem_atoms_of_join {a : α} {ds : List (Descriptor α)} (h : a ∈ (join ds).atoms) :
    ∃ d ∈ ds, a ∈ d.atoms := by
  have hmembers : ∀ ms : List (Descriptor α), a ∈ (ofMembers ms).atoms → ∃ m ∈ ms, a ∈ m.atoms := by
    intro ms ha
    match ms with
    | [] => simp [ofMembers, atoms] at ha
    | [d] => exact ⟨d, List.mem_singleton_self d, ha⟩
    | d :: e :: rest => exact mem_atoms_union.1 ha
  unfold join at h
  split at h
  · simp [atoms] at h
  · obtain ⟨m, hm, ha⟩ := hmembers _ h
    obtain ⟨d, hd, hmd⟩ := List.mem_flatMap.1 hm
    exact ⟨d, hd, mem_atoms_of_contribution hmd ha⟩

/-! ## Substitution -/

section Substitution

variable {f : α → Descriptor α}

theorem bindAll_eq_map (ds : List (Descriptor α)) : bindAll f ds = ds.map (bind f) := by
  induction ds with
  | nil => rfl
  | cons d ds ih => rw [bindAll, ih, List.map_cons]

@[simp] theorem bind_atom (a : α) : bind f (atom a) = f a := by rw [bind]

@[simp] theorem bind_top : bind f top = top := by rw [bind]

@[simp] theorem bind_bottom : bind f bottom = bottom := by rw [bind]

@[simp] theorem bind_union (ms : List (Descriptor α)) :
    bind f (union ms) = union (ms.map (bind f)) := by
  rw [bind, bindAll_eq_map]

/-- Where every atom stands for itself, so does every descriptor. -/
theorem bind_atom_eq (d : Descriptor α) : bind atom d = d := by
  induction d with
  | atom a => rw [bind_atom]
  | top => rw [bind_top]
  | bottom => rw [bind_bottom]
  | union ms ih => rw [bind_union, List.map_congr_left ih, List.map_id']

/-- Where the atoms of a descriptor stand for themselves, so does it. -/
theorem bind_eq_self {d : Descriptor α} (h : ∀ a ∈ d.atoms, f a = atom a) : bind f d = d := by
  induction d with
  | atom a => rw [bind_atom, h a (by simp)]
  | top => rw [bind_top]
  | bottom => rw [bind_bottom]
  | union ms ih =>
    rw [bind_union, List.map_congr_left fun m hm => ih m hm fun a ha =>
      h a (mem_atoms_union.2 ⟨m, hm, ha⟩), List.map_id']

theorem bind_ofMembers (ms : List (Descriptor α)) :
    bind f (ofMembers ms) = ofMembers (ms.map (bind f)) := by
  rcases ms with _ | ⟨d, _ | ⟨e, rest⟩⟩
  · rw [ofMembers, bind_bottom, List.map_nil, ofMembers]
  · rw [ofMembers, List.map_singleton, ofMembers]
  · simp only [ofMembers, bind_union, List.map_cons]

/-- Substitution goes through a join, as long as the atoms that are joined stay atoms. -/
theorem bind_join {ds : List (Descriptor α)} (h : ∀ a, atom a ∈ ds → f a = atom a) :
    bind f (join ds) = join (ds.map (bind f)) := by
  have htop : ∀ d ∈ ds, (bind f d).isTop = d.isTop := by
    intro d hd
    cases d with
    | atom a => rw [bind_atom, h a hd]
    | top => rw [bind_top]
    | bottom => rw [bind_bottom]
    | union ms => rw [bind_union]; rfl
  have hcontribution : ∀ d ∈ ds, (bind f d).contribution = d.contribution.map (bind f) := by
    intro d hd
    cases d with
    | atom a =>
      have ha := h a hd
      simp [contribution, ha]
    | top => simp [contribution]
    | bottom => simp [contribution]
    | union ms => simp [contribution]
  have hany : (ds.map (bind f)).any isTop = ds.any isTop := by
    rw [List.any_map, Bool.eq_iff_iff, List.any_eq_true, List.any_eq_true]
    refine exists_congr fun d => and_congr_right fun hd => ?_
    rw [Function.comp_apply, htop d hd]
  have hmembers : (ds.map (bind f)).flatMap contribution =
      (ds.flatMap contribution).map (bind f) := by
    rw [List.flatMap_map, List.map_flatMap]
    exact List.flatMap_congr hcontribution
  rw [join, join, hany, hmembers]
  split
  · exact bind_top
  · exact bind_ofMembers _

/-- **A substitution changes what atoms accept.** -/
theorem accepts_bind {v : α → Prop} (d : Descriptor α) :
    (bind f d).Accepts v ↔ d.Accepts fun a => (f a).Accepts v := by
  induction d with
  | atom a => rw [bind_atom, accepts_atom]
  | top => simp
  | bottom => simp
  | union ms ih =>
    rw [bind_union, accepts_union, accepts_union]
    constructor
    · rintro ⟨_, hm, hv⟩
      obtain ⟨m, hmem, rfl⟩ := List.mem_map.1 hm
      exact ⟨m, hmem, (ih m hmem).1 hv⟩
    · rintro ⟨m, hm, hv⟩
      exact ⟨_, List.mem_map_of_mem hm, (ih m hm).2 hv⟩

theorem mem_atoms_bind {a : α} (d : Descriptor α) :
    a ∈ (bind f d).atoms ↔ ∃ b ∈ d.atoms, a ∈ (f b).atoms := by
  induction d with
  | atom b => simp
  | top => simp [atoms]
  | bottom => simp [atoms]
  | union ms ih =>
    rw [bind_union, mem_atoms_union]
    constructor
    · rintro ⟨_, hm, ha⟩
      obtain ⟨m, hmem, rfl⟩ := List.mem_map.1 hm
      obtain ⟨b, hb, hab⟩ := (ih m hmem).1 ha
      exact ⟨b, mem_atoms_union.2 ⟨m, hmem, hb⟩, hab⟩
    · rintro ⟨b, hb, hab⟩
      obtain ⟨m, hm, hbm⟩ := mem_atoms_union.1 hb
      exact ⟨_, List.mem_map_of_mem hm, (ih m hm).2 ⟨b, hbm, hab⟩⟩

end Substitution

/-! ## Text -/

section Text

variable [Named α]

theorem texts?_isSome_iff {ds : List (Descriptor α)} :
    (texts? Named.name? ds).isSome ↔ ∀ d ∈ ds, d.isWritable := by
  induction ds with
  | nil => simp [texts?]
  | cons d ds ih =>
    rw [List.forall_mem_cons, ← ih, texts?, isWritable, name?]
    cases text? Named.name? d with
    | none => simp
    | some name => cases texts? Named.name? ds <;> simp

/-- **A union can be written if all its members can.** -/
theorem isWritable_union_iff {ms : List (Descriptor α)} :
    (union ms).isWritable ↔ ∀ m ∈ ms, m.isWritable := by
  rw [isWritable, name?, text?, Option.isSome_map]
  exact texts?_isSome_iff

theorem isWritable_top : (top : Descriptor α).isWritable := by
  rw [isWritable, name?, text?, Option.isSome_some]

theorem isWritable_bottom : (bottom : Descriptor α).isWritable := by
  rw [isWritable, name?, text?, Option.isSome_some]

/-- A join can be written if the joined descriptors can. -/
theorem isWritable_join {ds : List (Descriptor α)} (h : ∀ d ∈ ds, d.isWritable) :
    (join ds).isWritable := by
  have hadded : ∀ m ∈ ds.flatMap contribution, m.isWritable := by
    intro m hm
    obtain ⟨d, hd, hm⟩ := List.mem_flatMap.1 hm
    cases d with
    | atom a => exact List.mem_singleton.1 hm ▸ h _ hd
    | top => exact List.mem_singleton.1 hm ▸ isWritable_top
    | bottom => exact absurd hm List.not_mem_nil
    | union ms => exact isWritable_union_iff.1 (h _ hd) m hm
  unfold join
  split
  · exact isWritable_top
  · rcases hms : ds.flatMap contribution with _ | ⟨d, _ | ⟨e, rest⟩⟩
    · exact isWritable_bottom
    · exact hadded d (by simp [hms])
    · exact isWritable_union_iff.2 fun m hm => hadded m (hms ▸ hm)

end Text

end Descriptor

end Narrowing
