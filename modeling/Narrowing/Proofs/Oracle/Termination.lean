import Narrowing.Proofs.Branches.Cycle
import Narrowing.Proofs.Branches.Preorder
import Narrowing.Proofs.Oracle.Asking
import Narrowing.Proofs.Oracle.Search
import Narrowing.Proofs.Oracle.Spellings
/-!
# Declarations under which everything ends

An oracle may be given sealed declarations in which a name comes back to itself, and then a
question may go round for ever. This module says of both kinds of oracles that this is the only
way: without such a name every question has an answer, about any descriptors and whatever the
parts are, and so have the comparisons and passes that are made of questions
(`ends_of_acyclic`).

Over a hierarchy a name stands for itself. Over classes a name is met where a part is read, level
by level (`Oracle.LevelAcyclic`): a spelling that leaks is met as it is left, and not as what it
would be read as once more.
-/

namespace Narrowing

/-! ## Classes -/

namespace Spelling

theorem depthAll_le_iff {xs : List Spelling} {k : Nat} :
    depthAll xs ≤ k ↔ ∀ x ∈ xs, x.depth ≤ k := by
  induction xs with
  | nil => simp [depthAll]
  | cons x xs ih => rw [depthAll, max_le_iff, ih, List.forall_mem_cons]

/-- As a part, a spelling is no deeper than it is written. -/
theorem depthOver_descriptor_le (s : Spelling) : s.descriptor.depthOver depth ≤ s.depth := by
  induction s using induction with
  | step s ih =>
    cases s with
    | top => simp [descriptor]
    | bottom => simp [descriptor]
    | union xs =>
      simp only [parts] at ih
      rw [descriptor, descriptors_eq_map, depth]
      refine Descriptor.depthOver_union_le (List.forall_mem_map.2 fun x hx => ?_)
      exact le_trans (ih x hx) (depthAll_le_iff.1 le_rfl x hx)
    | _ => exact (Descriptor.depthOver_atom _).le

/-- **Reading a spelling gives nothing deeper than it is written.** -/
theorem depthOver_reading_le (s : Spelling) : s.reading.depthOver depth ≤ s.depth := by
  induction s using induction with
  | step s ih =>
    cases s with
    | choice style xs =>
      simp only [parts] at ih
      rw [reading_choice, depth]
      refine Descriptor.depthOver_join_le (List.forall_mem_map.2 fun x hx => ?_)
      exact le_trans (ih x hx) (depthAll_le_iff.1 le_rfl x hx)
    | union xs =>
      rw [reading_union, ← descriptors_eq_map]
      exact depthOver_descriptor_le (union xs)
    | _ => simp [reading, descriptor, noneClass, depth]

end Spelling

theorem classOracle_readsWithin (declared : List (TypeDescriptor × List TypeDescriptor)) :
    (classOracle declared).ReadsWithin Spelling.depth :=
  Spelling.depthOver_reading_le

/-! ## Comparisons and passes -/

section Passes

variable {α : Type} [Named α] {ask : Question α}

/-- **What is made of a question comes to an end**: a comparison has an answer, and a list is
simplified, or found to have no order, or something in it cannot be written. -/
structure Question.Concludes (ask : Question α) : Prop where
  compare : ∀ (c : Comparison) a b, ∃ r, c.asking ask a b = .ok r
  simplify : ∀ ds, (∃ out, (simplify ask ds).result = .ok out) ∨
    (∃ remaining, (simplify ask ds).result = .error (.cyclic remaining)) ∨
      (simplify ask ds).result = .error .unwritable

/-- A fault is reported, or that it cannot be shown. -/
theorem Fault.reported_eq_or (f : Fault α) : f.reported = f ∨ f.reported = .unwritable := by
  unfold reported
  split
  · exact .inl rfl
  · exact .inr rfl

/-- A sort only fails for want of an order, where all questions have answers. -/
theorem Question.Answering.specificitySort_ends (ho : ask.Answering) (ds : List (Descriptor α)) :
    (∃ out, specificitySort ask ds = .ok out) ∨
      (∃ remaining, specificitySort ask ds = .error (.cyclic remaining)) ∨
        specificitySort ask ds = .error .unwritable := by
  have h := sortsTo_specificitySort ask ds
  generalize specificitySort ask ds = sorted at h ⊢
  cases h with
  | sorted hrun => exact .inl ⟨_, rfl⟩
  | @stuck _ left hrun hne hleft =>
    rcases Fault.reported_eq_or (.cyclic (left.map ds.get)) with h | h
    · exact .inr (.inl ⟨_, congrArg Except.error h⟩)
    · exact .inr (.inr (congrArg Except.error h))
  | unanswered hne h =>
    obtain ⟨r, hr⟩ := ho.proper _ _
    cases h.symm.trans hr

theorem simplify_of_sort_error {ds distinct : List (Descriptor α)} {f : Fault α}
    (hdistinct : deduplicate ask ds = .ok distinct)
    (hfault : specificitySort ask distinct = .error f) :
    (simplify ask ds).result = .error f := by
  simp only [simplify, Logged.result_bind, Logged.result_ofExcept]
  rw [hdistinct]
  show (specificitySort ask distinct >>= _) = _
  rw [hfault]
  rfl

theorem Question.Answering.simplify_ends (ho : ask.Answering) (ds : List (Descriptor α)) :
    (∃ out, (simplify ask ds).result = .ok out) ∨
      (∃ remaining, (simplify ask ds).result = .error (.cyclic remaining)) ∨
        (simplify ask ds).result = .error .unwritable := by
  obtain ⟨distinct, hdistinct⟩ := exists_deduplicateFrom ho [] ds
  rcases ho.specificitySort_ends distinct with ⟨ordered, hordered⟩ | ⟨remaining, hcyclic⟩ | hfault
  · have hpasses : (simplify ask ds).result = (removeShadowed ask ordered).result >>= fun out =>
        (Analysis.note (.simplified ds.length out)).result >>= fun _ => .ok out := by
      simp only [simplify, Logged.result_bind, Logged.result_ofExcept, Logged.result_pure]
      rw [show deduplicate ask ds = .ok distinct from hdistinct]
      show (specificitySort ask distinct >>= _) = _
      rw [hordered]
      rfl
    rw [hpasses]
    rcases removeShadowedFrom_ends ho [] .bottom ordered with ⟨out, hout⟩ | hfault
    · rw [show (removeShadowed ask ordered).result = .ok out from hout]
      show (∃ o, ((Analysis.note _).result >>= _) = _) ∨ _ ∨ ((Analysis.note _).result >>= _) = _
      unfold Analysis.note
      split
      · exact .inl ⟨out, rfl⟩
      · exact .inr (.inr rfl)
    · rw [show (removeShadowed ask ordered).result = .error .unwritable from hfault]
      exact .inr (.inr rfl)
  · exact .inr (.inl ⟨remaining, simplify_of_sort_error hdistinct hcyclic⟩)
  · exact .inr (.inr (simplify_of_sort_error hdistinct hfault))

/-- Where every question has an answer everything else ends. -/
theorem Question.Answering.concludes (ho : ask.Answering) : ask.Concludes where
  compare := ho.asking
  simplify := ho.simplify_ends

/-- The levels up to the bound have answers where all questions come to an end. -/
theorem Oracle.Ends.concludes {κ π : Type} [BEq α] {o : Oracle α κ π} {size : α → Nat}
    (h : o.Ends size) : (o.subtypeByLevels size).Concludes :=
  Question.Answering.concludes (h.compare .subtype)

end Passes

/-- **Without cyclic declarations everything ends.** Over every hierarchy in which no sealed
name reaches itself through the atoms of its parts, however the parents are declared, and over
all classes with such declarations, for all descriptors: no chain of questions is endless, each
question has one answer from a known number of levels on, and so each comparison has one, and a list
is simplified, or found to have no order, or something in it cannot be written. -/
theorem ends_of_acyclic {α κ π : Type} [BEq α] [EquivBEq α] [Named α] :
    (∀ (t : NominalTypes α κ π) (everything : κ), (t.oracle everything).Acyclic →
      (t.oracle everything).Ends (fun _ => 0) ∧ (t.decider everything).subtype.Concludes ∧
        ∀ x, Acc (fun w' w => t.hierarchy.Follows w w') (.start x)) ∧
    ∀ declared : List (TypeDescriptor × List TypeDescriptor),
      (classOracle declared).LevelAcyclic →
        (classOracle declared).Ends Spelling.depth ∧
        (classOracle declared).decider.subtype.Concludes := by
  refine ⟨fun t everything hacyclic => ?_, fun declared hacyclic => ?_⟩
  · have hends := (t.plain everything).ends hacyclic
    exact ⟨hends, hends.concludes, t.hierarchy.acc_search⟩
  · have hends := hacyclic.ends (classOracle_readsWithin declared)
    exact ⟨hends, hends.concludes⟩

/-- Two names that are parents of each other. One is sealed into a union with the other and a
union without members, everything, and nothing. -/
def mutualParts : NominalTypes String Unit Unit where
  hierarchy := ⟨[(.atom "a", [.atom "b"]), (.atom "b", [.atom "a"])]⟩
  sealedParts := [(.atom "a", [.union [.union [], .atom "b"], .top, .bottom])]

/-- Nothing expands but the first, into the other. -/
theorem mutualParts_acyclic : (mutualParts.oracle ()).Acyclic := by
  refine Oracle.not_transGen_expandsBy fun a b => ?_
  rintro ⟨p, hp, hb⟩
  have hmem := Oracle.mem_parts_of_expand hp
  simp only [NominalTypes.oracle, mutualParts, List.flatMap_cons, List.flatMap_nil,
    List.append_nil, List.mem_cons, List.not_mem_nil, or_false] at hmem
  rw [NominalTypes.normalForm_oracle] at hb
  obtain rfl : b = "b" := by
    rcases hmem with rfl | rfl | rfl
    · simpa [Descriptor.atoms, Descriptor.atomsOfAll] using hb
    · exact absurd hb List.not_mem_nil
    · exact absurd hb List.not_mem_nil
  simp [Oracle.expand, NominalTypes.oracle, mutualParts, lastDeclared_cons, lastDeclared_nil,
    Descriptor.atom_beq_atom]

/-- A class that is sealed into a choice that leaks. -/
def sealedLeak : List (TypeDescriptor × List TypeDescriptor) :=
  [(StandardClass.int.descriptor, [leaking])]

/-- What leaks is not sealed, while the class occurs in the normal form of its part. -/
theorem sealedLeak_levelAcyclic : (classOracle sealedLeak).LevelAcyclic := by
  refine Oracle.not_transGen_expandsBy fun a b => ?_
  rintro ⟨p, hp, hb⟩
  obtain rfl : p = leaking := by
    have hmem := Oracle.mem_parts_of_expand hp
    simpa [classOracle, sealedLeak] using hmem
  cases hb with
  | atom hread =>
    obtain rfl := Descriptor.atom.inj hread
    simp [Oracle.expand, classOracle, sealedLeak, lastDeclared_cons, lastDeclared_nil, BEq.beq,
      Descriptor.same, Spelling.same]
  | member hread => cases hread

/-- Parents that are a cycle, parts of every kind and a part that leaks: there are answers all
the same, and what is below the class with that part is simplified. -/
theorem ends_of_acyclic_mutualParts :
    (mutualParts.oracle ()).Acyclic ∧ (classOracle sealedLeak).LevelAcyclic ∧
    (∃ r, (mutualParts.decider ()).subtype (.atom "a") (.atom "b") = .ok r) ∧
    (∃ r, (classOracle sealedLeak).decider.subtype StandardClass.int.descriptor
      (.union [leaking]) = .ok r) ∧
    ((∃ out, (simplify (classOracle sealedLeak).decider.subtype
        [StandardClass.str.descriptor, StandardClass.int.descriptor]).result = .ok out) ∨
      (∃ remaining, (simplify (classOracle sealedLeak).decider.subtype
        [StandardClass.str.descriptor, StandardClass.int.descriptor]).result
          = .error (.cyclic remaining)) ∨
      (simplify (classOracle sealedLeak).decider.subtype
        [StandardClass.str.descriptor, StandardClass.int.descriptor]).result
          = .error .unwritable) := by
  obtain ⟨hnames, hclasses⟩ := ends_of_acyclic (α := String) (κ := Unit) (π := Unit)
  have hconcludes := (hclasses sealedLeak sealedLeak_levelAcyclic).2
  exact ⟨mutualParts_acyclic, sealedLeak_levelAcyclic,
    (hnames mutualParts () mutualParts_acyclic).2.1.compare .subtype _ _,
    hconcludes.compare .subtype _ _, hconcludes.simplify _⟩

end Narrowing
