import Narrowing.Proofs.Oracle.Join
import Narrowing.Proofs.Oracle.Termination
/-!
# Joins are least upper bounds

As descriptors, joins are associative: where all that is joined was built by joins, it does not
matter whether a list is joined at once, in two pieces, or by one entry after another
(`Descriptor.join_append`, `Descriptor.accumulated_eq_join`). What is built in this way is
written in one form only (`Descriptor.built_iff_canonical`): an atom, a bound, or a union of at
least two atoms.

In the relation, asked level by level, a join is the least upper bound of what is joined, whatever
that is: unions nested by hand, host spellings, sealed atoms (`isLeastUpper_join`). The one
condition is that nothing leaks. A right-hand side that leaks is read further below a union than
below its members, and then it is above the join and above none of them
(`join_below_leaking`).
-/

namespace Narrowing

open NominalTypes (integers integers_acyclic)

/-! ## Canonical descriptors -/

namespace Descriptor

variable {α : Type}

/-- **A descriptor that joins have built** from atoms and the two bounds. -/
inductive Built : Descriptor α → Prop
  | atom (a : α) : Built (.atom a)
  | top : Built .top
  | bottom : Built .bottom
  | join {ds : List (Descriptor α)} (h : ∀ d ∈ ds, Built d) : Built (.join ds)

/-- **A canonical descriptor**: a union has at least two members, all of them atoms. -/
def Canonical : Descriptor α → Prop
  | .union ms => 2 ≤ ms.length ∧ ∀ m ∈ ms, ∃ a, m = .atom a
  | _ => True

/-- A canonical descriptor adds atoms to a join, unless it is everything. -/
theorem Canonical.exists_atom {d m : Descriptor α} (h : d.Canonical) (hd : d ≠ .top)
    (hm : m ∈ d.contribution) : ∃ a, m = .atom a := by
  cases d with
  | atom a => exact ⟨a, List.mem_singleton.1 hm⟩
  | top => exact absurd rfl hd
  | bottom => exact absurd hm List.not_mem_nil
  | union ms => exact h.2 m hm

/-- What it adds is all there is to it. -/
theorem Canonical.ofMembers_contribution {d : Descriptor α} (h : d.Canonical) :
    ofMembers d.contribution = d := by
  cases d with
  | union ms =>
    obtain ⟨hlength, -⟩ := h
    match ms with
    | [] => cases hlength
    | [_] => exact absurd hlength (by simp)
    | _ :: _ :: _ => rfl
  | _ => rfl

section Lists

variable {ds xs ys : List (Descriptor α)}

theorem join_eq_top (h : .top ∈ ds) : join ds = .top := by
  rw [join, if_pos (exists_mem_isTop_iff.2 h)]

theorem join_eq_ofMembers (h : .top ∉ ds) : join ds = ofMembers (ds.flatMap contribution) := by
  rw [join, if_neg fun hany => h (exists_mem_isTop_iff.1 hany)]

theorem Canonical.join_singleton {d : Descriptor α} (h : d.Canonical) : join [d] = d := by
  by_cases htop : .top ∈ [d]
  · rw [join_eq_top htop, List.mem_singleton.1 htop]
  · rw [join_eq_ofMembers htop, List.flatMap_singleton, h.ofMembers_contribution]

/-- Canonical descriptors add up to atoms, unless one is everything. -/
theorem exists_atom_of_mem_contributions (hds : ∀ d ∈ ds, d.Canonical) (htop : .top ∉ ds)
    {m : Descriptor α} (hm : m ∈ ds.flatMap contribution) : ∃ a, m = .atom a := by
  obtain ⟨d, hd, hm⟩ := List.mem_flatMap.1 hm
  exact (hds d hd).exists_atom (fun h => htop (h ▸ hd)) hm

/-- A collected list of atoms is canonical, no bound from above, and adds those atoms. -/
theorem ofMembers_atoms {ms : List (Descriptor α)} (h : ∀ m ∈ ms, ∃ a, m = .atom a) :
    (ofMembers ms).Canonical ∧ ofMembers ms ≠ .top ∧ (ofMembers ms).contribution = ms := by
  match ms with
  | [] => exact ⟨trivial, nofun, rfl⟩
  | [_] =>
    obtain ⟨a, rfl⟩ := h _ (List.mem_singleton_self _)
    exact ⟨trivial, nofun, rfl⟩
  | _ :: _ :: _ => exact ⟨⟨by simp, h⟩, nofun, rfl⟩

/-- **Joins of canonical descriptors are canonical.** -/
theorem canonical_join (hds : ∀ d ∈ ds, d.Canonical) : (join ds).Canonical := by
  by_cases htop : .top ∈ ds
  · rw [join_eq_top htop]
    exact trivial
  · rw [join_eq_ofMembers htop]
    exact (ofMembers_atoms fun _ => exists_atom_of_mem_contributions hds htop).1

/-- **What joins have built is what is canonical.** -/
theorem built_iff_canonical {d : Descriptor α} : d.Built ↔ d.Canonical := by
  constructor
  · intro h
    induction h with
    | join _ ih => exact canonical_join ih
    | _ => exact trivial
  · intro h
    cases d with
    | atom a => exact .atom a
    | top => exact .top
    | bottom => exact .bottom
    | union ms =>
      have hjoin : join ms = .union ms := by
        have htop : .top ∉ ms := fun hm => by obtain ⟨a, ha⟩ := h.2 _ hm; cases ha
        have hself : ∀ m ∈ ms, m.contribution = [m] := fun m hm => by
          obtain ⟨a, rfl⟩ := h.2 m hm
          rfl
        rw [join_eq_ofMembers htop, List.flatMap_congr hself, List.flatMap_singleton']
        exact h.ofMembers_contribution
      rw [← hjoin]
      exact .join fun m hm => by
        obtain ⟨a, rfl⟩ := h.2 m hm
        exact .atom a

/-- **A list is joined in two pieces.** -/
theorem join_append (hxs : ∀ d ∈ xs, d.Canonical) (hys : ∀ d ∈ ys, d.Canonical) :
    join (xs ++ ys) = join [join xs, join ys] := by
  by_cases hx : .top ∈ xs
  · rw [join_eq_top hx, join_eq_top (List.mem_append_left ys hx), join_eq_top List.mem_cons_self]
  by_cases hy : .top ∈ ys
  · rw [join_eq_top hy, join_eq_top (List.mem_append_right xs hy), join_eq_top (by simp)]
  obtain ⟨-, hxtop, hxs⟩ := ofMembers_atoms fun _ => exists_atom_of_mem_contributions hxs hx
  obtain ⟨-, hytop, hys⟩ := ofMembers_atoms fun _ => exists_atom_of_mem_contributions hys hy
  rw [join_eq_ofMembers hx, join_eq_ofMembers hy,
    join_eq_ofMembers (by simp [hx, hy]), join_eq_ofMembers (by simp [hxtop.symm, hytop.symm]),
    List.flatMap_append, List.flatMap_cons, List.flatMap_singleton, hxs, hys]

/-- **A list is joined by one entry after another.** -/
theorem accumulated_eq_join (hds : ∀ d ∈ ds, d.Canonical) : accumulated ds = join ds := by
  induction ds using List.reverseRecOn with
  | nil => rfl
  | append_singleton ds d ih =>
    rw [List.forall_mem_append, List.forall_mem_singleton] at hds
    rw [accumulated_concat, ih hds.1,
      join_append hds.1 (List.forall_mem_singleton.2 hds.2), hds.2.join_singleton]

end Lists

end Descriptor

/-! ## Joins level by level -/

/-- **A join is the least upper bound**, for every oracle with a reflexive relation of atoms and
acyclic declarations, where nothing leaks: each of the joined descriptors is a subtype of the
join, and the join is a subtype of exactly what all of them are subtypes of. As descriptors, what
joins have built is canonical, and a list of such descriptors is joined at once, in two pieces or
by one entry after another to the same descriptor. -/
theorem isLeastUpper_join {α κ π : Type} [BEq α] [EquivBEq α] (o : Oracle α κ π)
    (size : α → Nat) (hreads : o.ReadsWithin size) (hrefl : ∀ a, o.atomicSubtype a a = true)
    (hacyclic : o.Acyclic) (hparts : o.LayeredParts) :
    (∀ ds : List (Descriptor α), (∀ d ∈ ds, o.Layered d) →
      (∀ d ∈ ds, o.subtypeByLevels size d (.join ds) = .ok true) ∧
      ∀ b, o.Layered b → (o.subtypeByLevels size (.join ds) b = .ok true ↔
        ∀ d ∈ ds, o.subtypeByLevels size d b = .ok true)) ∧
    (∀ ds : List (Descriptor α), (∀ d ∈ ds, d.Built) → (Descriptor.join ds).Canonical ∧
      Descriptor.accumulated ds = .join ds) ∧
    ∀ xs ys : List (Descriptor α), (∀ d ∈ xs, d.Built) → (∀ d ∈ ys, d.Built) →
      Descriptor.join (xs ++ ys) = .join [.join xs, .join ys] := by
  have hlevels : ∀ {a b}, o.Layered a → o.Layered b →
      o.subtypeByLevels size a b = o.isSubtype a b :=
    fun ha hb => ha.subtypeByLevels_eq hreads hacyclic hparts hb
  have hcanonical : ∀ {ds : List (Descriptor α)}, (∀ d ∈ ds, d.Built) →
      ∀ d ∈ ds, d.Canonical := fun h d hd => Descriptor.built_iff_canonical.1 (h d hd)
  refine ⟨fun ds hds => ⟨fun d hd => ?_, fun b hb => ?_⟩, fun ds hds => ⟨?_, ?_⟩,
    fun xs ys hxs hys => Descriptor.join_append (hcanonical hxs) (hcanonical hys)⟩
  · -- the join is below itself, so what is joined is below it
    rw [hlevels (hds d hd) (.join hds)]
    have hself : o.isSubtype (.join ds) (.join ds) = .ok true :=
      hacyclic.isSubtype_eq_true_iff.2 (.refl hrefl _)
    exact hacyclic.isSubtype_answers.join_isSubtype_iff.1 hself d hd
  · rw [hlevels (.join hds) hb, hacyclic.isSubtype_answers.join_isSubtype_iff]
    exact forall₂_congr fun d hd => by rw [hlevels (hds d hd) hb]
  · exact Descriptor.canonical_join (hcanonical hds)
  · exact Descriptor.accumulated_eq_join (hcanonical hds)

/-- The integers and a union without members are below the two kinds of integers, in a union
nested by hand; and a choice and such a union are below the numbers and the null value. -/
theorem isLeastUpper_join_integers :
    (integers.oracle ()).Acyclic ∧ (∀ a, (integers.oracle ()).atomicSubtype a a = true) ∧
    (integers.oracle ()).subtypeByLevels (fun _ => 0)
      (.join [.atom "Integer", .union [.union []]])
      (.union [.atom "Bignum", .union [.atom "Fixnum"]]) = .ok true ∧
    defaultOracle.Acyclic ∧ (∀ a, defaultOracle.atomicSubtype a a = true) ∧
    defaultOracle.subtypeByLevels Spelling.depth
      (.join [.union [.union [StandardClass.int.descriptor]],
        .atom (.choice .bar [.cls (.standard .float), .none])])
      (.union [StandardClass.number.descriptor, .atom .none]) = .ok true := by
  have hunsealed : ∀ a, defaultOracle.expand (.atom a) = [] := fun _ => rfl
  have hacyclic : defaultOracle.Acyclic := Oracle.acyclic_of_unsealed hunsealed
  have hparts : defaultOracle.LayeredParts := fun a p hp => absurd hp (by simp [hunsealed])
  have hatom : ∀ s : Spelling, s.tight = true → defaultOracle.Layered (.atom s) := fun s hs =>
    TypeDescriptor.Tight.layered fun x hx => Descriptor.mem_atoms_atom.1 hx ▸ hs
  have hleft : ∀ d ∈ [.union [.union [StandardClass.int.descriptor]],
      .atom (.choice .bar [.cls (.standard .float), .none])], defaultOracle.Layered d := by
    simp only [List.forall_mem_cons, Oracle.layered_union_iff]
    exact ⟨⟨⟨hatom _ rfl, nofun⟩, nofun⟩, hatom _ rfl, nofun⟩
  have hright : defaultOracle.Layered (.union [StandardClass.number.descriptor, .atom .none]) := by
    simp only [List.forall_mem_cons, Oracle.layered_union_iff]
    exact ⟨hatom _ rfl, hatom _ rfl, nofun⟩
  have hnames := isLeastUpper_join (integers.oracle ()) (fun _ => 0) ((integers.plain ()).readsWithin)
    NominalTypes.atomicSubtype_refl integers_acyclic fun _ p _ => (integers.plain ()).layered p
  have hclasses := isLeastUpper_join defaultOracle Spelling.depth (classOracle_readsWithin [])
    Spelling.isSubclass_refl hacyclic hparts
  refine ⟨integers_acyclic, NominalTypes.atomicSubtype_refl, ?_, hacyclic,
    Spelling.isSubclass_refl, ?_⟩
  · refine ((hnames.1 _ fun d _ => (integers.plain ()).layered d).2 _ ((integers.plain ()).layered _)).2 ?_
    simp only [List.forall_mem_cons]
    exact ⟨by rfl, by rfl, nofun⟩
  · refine ((hclasses.1 _ hleft).2 _ hright).2 ?_
    simp only [List.forall_mem_cons]
    exact ⟨by rfl, by rfl, nofun⟩

/-- A union is below a choice that leaks, and its first member is not. -/
theorem join_below_leaking :
    defaultOracle.subtypeByLevels Spelling.depth
      (.join [StandardClass.int.descriptor, StandardClass.str.descriptor]) leaking = .ok true ∧
    defaultOracle.subtypeByLevels Spelling.depth StandardClass.int.descriptor leaking
      = .ok false := by
  refine ⟨by rfl, ?_⟩
  have hread : defaultOracle.normalize leaking =
      .atom (.choice .bar [.cls (.standard .int), .cls (.standard .str)]) := by rfl
  rw [Oracle.subtypeByLevels, Oracle.levelBound, Oracle.subtypeWithin,
    Oracle.subtypeLevel_atoms rfl hread]
  simp [defaultOracle, classOracle, Spelling.isObject, Spelling.isSubclass, BEq.beq,
    Spelling.same, Oracle.partsWithin, Oracle.expand]

end Narrowing
