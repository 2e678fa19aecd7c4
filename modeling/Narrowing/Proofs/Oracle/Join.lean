import Narrowing.Proofs.Oracle.Preorder
/-!
# Joins in the subtype relation

How a descriptor is put together matters little to the subtype relation. On the left
only the values count that it accepts for each choice of what atoms accept
(`Below.of_accepts`), and on the right it is the same but for the empty type, which is
told apart from a union without members (`Below.mono`).

Hence a join is below what all the joined descriptors are below
(`Answering.join_isSubtype_iff`). This holds of the join taken at once and of the one that grows
by a descriptor at a time (`Descriptor.accumulated`), which are not written alike.

However it is worked out, a question that has answers, is reflexive and transitive and takes a
join for a least upper bound (`Question.Joining`) takes the one that grows for a least upper bound
too, and equivalent descriptors are alike for it.
-/

namespace Narrowing

namespace Descriptor

variable {α : Type}

/-- **The union of a list as it grows**: each entry is joined to the union of those
before it. -/
def accumulated (ds : List (Descriptor α)) : Descriptor α :=
  ds.foldl (fun covered d => .join [covered, d]) .bottom

theorem accumulated_concat (ds : List (Descriptor α)) (d : Descriptor α) :
    accumulated (ds ++ [d]) = .join [accumulated ds, d] := by
  simp [accumulated]

theorem accepts_accumulated {v : α → Prop} {ds : List (Descriptor α)} :
    (accumulated ds).Accepts v ↔ ∃ d ∈ ds, d.Accepts v := by
  induction ds using List.reverseRecOn with
  | nil => simp [accumulated]
  | append_singleton ds d ih =>
    rw [accumulated_concat, accepts_join]
    simp [ih, or_and_right, exists_or]

/-- What grew has no atoms but those of the descriptors that were joined. -/
theorem mem_atoms_of_accumulated {a : α} {ds : List (Descriptor α)}
    (h : a ∈ (accumulated ds).atoms) : ∃ d ∈ ds, a ∈ d.atoms := by
  induction ds using List.reverseRecOn with
  | nil => exact absurd h List.not_mem_nil
  | append_singleton ds d ih =>
    rw [accumulated_concat] at h
    obtain ⟨e, he, hae⟩ := mem_atoms_of_join h
    rcases List.mem_pair.1 he with rfl | rfl
    · obtain ⟨e, he, hae⟩ := ih hae
      exact ⟨e, List.mem_append_left _ he, hae⟩
    · exact ⟨e, by simp, hae⟩

end Descriptor

namespace Oracle

variable {α κ π : Type} [BEq α] {o : Oracle α κ π}

/-! ## What the relation looks at -/

omit [BEq α] in
/-- A descriptor holds everything if it does by its universal atoms. -/
theorem holdsAll_iff_accepts {d : Descriptor α} :
    o.holdsAll d = true ↔ d.Accepts fun a => o.universal a = true := by
  constructor
  · exact accepts_of_holdsAll fun _ _ h => h
  · intro h
    rcases holdsAll_or_exists_atom h with h | ⟨x, hx, hu⟩
    · exact h
    · exact holdsAll_of_mem_atoms hx hu

/-- **On the left only acceptance matters**: what accepts nothing but what some of a list
accept is below whatever these are all below. -/
theorem Below.of_accepts {d c : Descriptor α} (ds : List (Descriptor α))
    (hd : ∀ v, d.Accepts v → ∃ e ∈ ds, e.Accepts v) (h : ∀ e ∈ ds, o.Below e c) :
    o.Below d c := by
  by_contra hdc
  -- what is not below `c` is a valuation; it accepts `d` and none of the list
  have htop : ¬ o.Below .top c := fun h => hdc (.of_holdsAll (below_top_iff.1 h))
  obtain ⟨e, he, hv⟩ := hd _ ((accepts_not_below_iff htop).2 hdc)
  exact (accepts_not_below_iff htop).1 hv (h e he)

/-- **On the right a descriptor may accept more**, but it must not become the empty type:
no rule puts an atom below that. -/
theorem Below.mono {a c d : Descriptor α} (hcd : ∀ v, c.Accepts v → d.Accepts v)
    (hd : d ≠ .bottom) (h : o.Below a c) : o.Below a d := by
  induction h with
  | bottom c => exact .bottom d
  | top a =>
    refine .of_holdsAll (holdsAll_iff_accepts.2 (hcd _ ?_))
    exact Descriptor.accepts_top
  | everything h =>
    exact .of_holdsAll (holdsAll_iff_accepts.2 (hcd _ (holdsAll_iff_accepts.1 h)))
  | members _ ih => exact .members fun m hm => ih m hm hcd
  | @atoms a b h =>
    rcases holdsAll_or_exists_atom (hcd (· = b) (Descriptor.accepts_atom.2 rfl)) with hall | hb
    · exact .of_holdsAll hall
    · obtain ⟨b, hb, rfl⟩ := hb
      exact .of_mem_atoms hb h
  | member hm _ ih =>
    exact ih fun v hv => hcd v (Descriptor.accepts_union.2 ⟨_, hm, hv⟩)
  | parts _ hne _ ih => exact .parts hd hne fun p hp => ih p hp hcd

end Oracle

/-! ## Questions that have answers -/

/-- What has an answer is denied as soon as it is not affirmed. -/
theorem eq_false_iff_ne_true {ε : Type} {x : Except ε Bool} (h : ∃ r, x = .ok r) :
    x = .ok false ↔ x ≠ .ok true := by
  obtain ⟨r, rfl⟩ := h
  cases r <;> simp

/-- Questions that have answers and are affirmed together have the same answer. -/
theorem eq_of_true_iff {ε : Type} {x y : Except ε Bool} (hx : ∃ r, x = .ok r)
    (hy : ∃ r, y = .ok r) (h : x = .ok true ↔ y = .ok true) : x = y := by
  obtain ⟨r, rfl⟩ := hx
  obtain ⟨s, rfl⟩ := hy
  rw [Except.ok.injEq, Except.ok.injEq] at h
  rw [Bool.eq_iff_iff.2 h]

namespace Question

variable {α : Type} {ask : Question α}

theorem equivalent_eq_true_iff {a b : Descriptor α} :
    ask.equivalent a b = .ok true ↔ ask a b = .ok true ∧ ask b a = .ok true := by
  rw [equivalent]
  split
  · next hab => simp [hab]
  · next hab => exact iff_of_false hab fun h => hab h.1

theorem proper_eq_true_iff {a b : Descriptor α} :
    ask.proper a b = .ok true ↔ ask a b = .ok true ∧ ask b a = .ok false := by
  rw [proper]
  split
  · next hab =>
    cases hba : ask b a with
    | error e => simp [hab, Except.map]
    | ok r => cases r <;> simp [hab, Except.map]
  · next hab => exact iff_of_false hab fun h => hab h.1

/-- **A question that always has an answer.** -/
def Answering (ask : Question α) : Prop :=
  ∀ a b, ∃ r, ask a b = .ok r

namespace Answering

variable (ho : ask.Answering)
include ho

theorem eq_false_iff {a b : Descriptor α} : ask a b = .ok false ↔ ask a b ≠ .ok true :=
  eq_false_iff_ne_true (ho a b)

theorem equivalent (a b : Descriptor α) : ∃ r, ask.equivalent a b = .ok r := by
  rw [Question.equivalent]
  split
  · exact ho b a
  · exact ho a b

theorem proper (a b : Descriptor α) : ∃ r, ask.proper a b = .ok r := by
  rw [Question.proper]
  split
  · obtain ⟨r, hr⟩ := ho b a
    exact ⟨!r, by rw [hr]; rfl⟩
  · exact ho a b

/-- What is compared has an answer. -/
theorem asking (c : Comparison) (a b : Descriptor α) : ∃ r, c.asking ask a b = .ok r := by
  cases c with
  | subtype => exact ho a b
  | equivalent => exact ho.equivalent a b
  | proper => exact ho.proper a b

theorem equivalent_eq_false_iff {a b : Descriptor α} :
    ask.equivalent a b = .ok false ↔ ask.equivalent a b ≠ .ok true :=
  eq_false_iff_ne_true (ho.equivalent a b)

theorem proper_eq_false_iff {a b : Descriptor α} :
    ask.proper a b = .ok false ↔ ask.proper a b ≠ .ok true :=
  eq_false_iff_ne_true (ho.proper a b)

/-- The order of the two does not matter for equivalence. -/
theorem equivalent_comm (a b : Descriptor α) : ask.equivalent a b = ask.equivalent b a := by
  refine eq_of_true_iff (ho.equivalent a b) (ho.equivalent b a) ?_
  rw [equivalent_eq_true_iff, equivalent_eq_true_iff, and_comm]

end Answering

/-! ## Preorders -/

/-- **A question that is a preorder**: it always has an answer, everything is a subtype of
itself, and subtypes of subtypes are subtypes. -/
structure Preordered (ask : Question α) : Prop where
  answers : ask.Answering
  refl : ∀ a, ask a a = .ok true
  trans : ∀ {a b c}, ask a b = .ok true → ask b c = .ok true → ask a c = .ok true

namespace Preordered

variable (ho : ask.Preordered)
include ho

theorem equivalent_refl (a : Descriptor α) : ask.equivalent a a = .ok true :=
  equivalent_eq_true_iff.2 ⟨ho.refl a, ho.refl a⟩

theorem equivalent_trans {a b c : Descriptor α} (hab : ask.equivalent a b = .ok true)
    (hbc : ask.equivalent b c = .ok true) : ask.equivalent a c = .ok true := by
  rw [equivalent_eq_true_iff] at hab hbc ⊢
  exact ⟨ho.trans hab.1 hbc.1, ho.trans hbc.2 hab.2⟩

/-- **Equivalent descriptors stand in the same relation** to others. -/
theorem subtype_congr {a b c d : Descriptor α} (hab : ask.equivalent a b = .ok true)
    (hcd : ask.equivalent c d = .ok true) : ask a c = ask b d := by
  rw [equivalent_eq_true_iff] at hab hcd
  refine eq_of_true_iff (ho.answers a c) (ho.answers b d) ⟨fun h => ?_, fun h => ?_⟩
  · exact ho.trans hab.2 (ho.trans h hcd.1)
  · exact ho.trans hab.1 (ho.trans h hcd.2)

theorem equivalent_congr {a b c d : Descriptor α} (hab : ask.equivalent a b = .ok true)
    (hcd : ask.equivalent c d = .ok true) : ask.equivalent a c = ask.equivalent b d := by
  rw [equivalent, equivalent, ho.subtype_congr hab hcd, ho.subtype_congr hcd hab]

theorem proper_congr {a b c d : Descriptor α} (hab : ask.equivalent a b = .ok true)
    (hcd : ask.equivalent c d = .ok true) : ask.proper a c = ask.proper b d := by
  rw [proper, proper, ho.subtype_congr hab hcd, ho.subtype_congr hcd hab]

theorem proper_trans {a b c : Descriptor α} (hab : ask.proper a b = .ok true)
    (hbc : ask.proper b c = .ok true) : ask.proper a c = .ok true := by
  rw [proper_eq_true_iff, ho.answers.eq_false_iff] at hab hbc ⊢
  exact ⟨ho.trans hab.1 hbc.1, fun hca => hab.2 (ho.trans hbc.1 hca)⟩

end Preordered

/-- **A preorder with least upper bounds**: a join is below what all the joined descriptors are
below. -/
structure Joining (ask : Question α) : Prop extends ask.Preordered where
  join_le_iff : ∀ {ds b}, ask (.join ds) b = .ok true ↔ ∀ d ∈ ds, ask d b = .ok true

namespace Joining

variable (ho : ask.Joining)
include ho

/-- A join is above the joined descriptors. -/
theorem le_join {ds : List (Descriptor α)} {d : Descriptor α} (hd : d ∈ ds) :
    ask d (.join ds) = .ok true :=
  ho.join_le_iff.1 (ho.refl _) d hd

/-- A join of more is above. -/
theorem join_le_join {xs ys : List (Descriptor α)} (h : xs ⊆ ys) :
    ask (.join xs) (.join ys) = .ok true :=
  ho.join_le_iff.2 fun _ hd => ho.le_join (h hd)

/-- The join that grows by one descriptor at a time is a least upper bound, too. -/
theorem accumulated_le_iff {ds : List (Descriptor α)} {b : Descriptor α} :
    ask (.accumulated ds) b = .ok true ↔ ∀ d ∈ ds, ask d b = .ok true := by
  induction ds using List.reverseRecOn with
  | nil =>
    -- the empty join is the empty type
    show ask (.join []) b = .ok true ↔ _
    rw [ho.join_le_iff]
  | append_singleton ds d ih =>
    rw [Descriptor.accumulated_concat, ho.join_le_iff, List.forall_mem_cons, ih,
      List.forall_mem_append]

theorem le_accumulated {ds : List (Descriptor α)} {d : Descriptor α} (hd : d ∈ ds) :
    ask d (.accumulated ds) = .ok true :=
  ho.accumulated_le_iff.1 (ho.refl _) d hd

end Joining

end Question

/-! ## The search -/

namespace Oracle

variable {α κ π : Type} [BEq α] {o : Oracle α κ π}

namespace Answering

variable (ho : o.Answering)
include ho

/-- What accepts exactly what some of a list accept is below what these are all below. -/
theorem isSubtype_iff_of_accepts {d c : Descriptor α} {ds : List (Descriptor α)}
    (hd : ∀ v, d.Accepts v ↔ ∃ e ∈ ds, e.Accepts v) :
    o.isSubtype d c = .ok true ↔ ∀ e ∈ ds, o.isSubtype e c = .ok true := by
  have hnormal : ∀ v, (o.normalForm d).Accepts v ↔ ∃ e ∈ ds, (o.normalForm e).Accepts v := by
    intro v
    simp only [normalForm, Descriptor.accepts_bind, hd]
  simp only [ho.isSubtype_eq_true_iff]
  constructor
  · intro h e he
    refine .of_accepts [o.normalForm d] (fun v hv => ?_) (List.forall_mem_singleton.2 h)
    exact ⟨_, List.mem_singleton_self _, (hnormal v).2 ⟨e, he, hv⟩⟩
  · intro h
    refine .of_accepts (ds.map o.normalForm) (fun v hv => ?_) (List.forall_mem_map.2 h)
    obtain ⟨e, he, hv⟩ := (hnormal v).1 hv
    exact ⟨_, List.mem_map_of_mem he, hv⟩

/-- **A join is below what all the joined descriptors are below.** -/
theorem join_isSubtype_iff {ds : List (Descriptor α)} {c : Descriptor α} :
    o.isSubtype (.join ds) c = .ok true ↔ ∀ d ∈ ds, o.isSubtype d c = .ok true :=
  ho.isSubtype_iff_of_accepts fun _ => Descriptor.accepts_join

end Answering

/-- A coherent oracle without cyclic expansions is a preorder. -/
theorem Coherent.preordered [EquivBEq α] (ho : o.Coherent) (hacyclic : o.Acyclic) :
    Question.Preordered o.isSubtype where
  answers := hacyclic.isSubtype_answers
  refl := fun _ => hacyclic.isSubtype_eq_true_iff.2 (.refl ho.refl _)
  trans := by
    intro a b c hab hbc
    rw [hacyclic.isSubtype_eq_true_iff] at hab hbc ⊢
    exact ho.below_trans hacyclic hab hbc

end Oracle

end Narrowing
