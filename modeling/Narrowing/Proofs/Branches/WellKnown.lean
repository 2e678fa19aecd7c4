import Narrowing.Proofs.Branches.Coverage
/-!
# Well-known types are kept

The well-known types come before the extra candidates, and each of them is to have a branch. There
are two ways to lose one. It could be a duplicate: but the first of a class is kept, and nothing
comes before the well-known types but others of them. Or it could be shadowed by entries that only
make it up together. Where types are sealed that happens; the integers are lost behind their two
kinds.

Where nothing is sealed an atom is below a union only by being below a member of it
(`exists_le_of_le_accumulated`). If the union is below the atom as well, so is that member, and
the two are equivalent: they are one entry, since only one of each class is left. So an atom that is
the first of its class stays, whatever other candidates there are (`wellKnown_of_resolveBranches`).
-/

namespace Narrowing

variable {α : Type} {ask : Question α} {ds out : List (Descriptor α)}

/-- Pairwise different types are the first of their classes if they come first. -/
theorem subset_of_deduplicate (ho : ask.Answering) {first : List (Descriptor α)}
    (hapart : first.Pairwise fun a b => ask.equivalent a b = .ok false)
    (h : deduplicate ask (first ++ ds) = .ok out) : first ⊆ out := by
  have hfirst : Apart ask ([] ++ first) :=
    hapart.imp fun {a b} hab => ⟨hab, ho.equivalent_comm a b ▸ hab⟩
  rw [deduplicate, deduplicateFrom_append ds hfirst] at h
  exact (prefix_of_deduplicateFrom h).subset

section Unsealed

variable {κ π : Type} [BEq α] {o : Oracle α κ π} (hask : o.Lifts ask) (ho : ask.Preordered)
  (hunsealed : ∀ d, o.expand d = []) {w : Descriptor α} {a : α} (hw : o.normalize w = .atom a)
include hask ho hunsealed hw

/-- **An atom that is below a union is below one of its members**, where nothing is sealed. -/
theorem exists_le_of_le_union {ms : List (Descriptor α)} (h : ask w (.union ms) = .ok true) :
    ∃ m ∈ ms, ask w m = .ok true := by
  obtain ⟨n, hn⟩ := hask.level h
  rw [Oracle.subtypeLevel_member hw rfl, Oracle.partsWithin, hunsealed] at hn
  have hany : anyOrFail (fun m => ask (.atom a) m) ms = .ok true := by
    split at hn
    · cases hn
    · exact hn
  obtain ⟨m, hm, ham⟩ := exists_of_anyOrFail_eq_true hany
  exact ⟨m, hm, ho.trans (hw ▸ hask.le_normalize ho w) ham⟩

omit ho hunsealed in
theorem not_le_bottom : ask w .bottom ≠ .ok true := by
  intro h
  obtain ⟨n, hn⟩ := hask.level h
  rw [Oracle.subtypeLevel_nothing hw rfl] at hn
  cases hn

/-- What is below a join is below one of the joined descriptors. -/
theorem exists_le_of_le_join (h : ask w (.join ds) = .ok true) : ∃ d ∈ ds, ask w d = .ok true := by
  have hj := hask.joining ho
  unfold Descriptor.join at h
  split at h
  · next htop =>
    exact ⟨.top, Descriptor.exists_mem_isTop_iff.1 htop, hask.le_of_normalize_top ho rfl⟩
  · have hmember : ∃ m ∈ ds.flatMap Descriptor.contribution, ask w m = .ok true := by
      generalize ds.flatMap Descriptor.contribution = ms at h
      rcases ms with _ | ⟨m, _ | ⟨n, rest⟩⟩
      · exact absurd h (not_le_bottom hask hw)
      · exact ⟨m, List.mem_singleton_self m, h⟩
      · exact exists_le_of_le_union hask ho hunsealed hw h
    obtain ⟨m, hm, hwm⟩ := hmember
    obtain ⟨d, hd, hm⟩ := List.mem_flatMap.1 hm
    exact ⟨d, hd, ho.trans hwm ((hask.contribution_le_iff ho).2 (ho.refl d) m hm)⟩

theorem exists_le_of_le_accumulated (h : ask w (.accumulated ds) = .ok true) :
    ∃ d ∈ ds, ask w d = .ok true := by
  induction ds using List.reverseRecOn with
  | nil => exact absurd h (not_le_bottom hask hw)
  | append_singleton ds d ih =>
    rw [Descriptor.accumulated_concat] at h
    obtain ⟨e, he, hwe⟩ := exists_le_of_le_join hask ho hunsealed hw h
    rcases List.mem_pair.1 he with rfl | rfl
    · obtain ⟨k, hk, hwk⟩ := ih hwe
      exact ⟨k, List.mem_append_left _ hk, hwk⟩
    · exact ⟨e, by simp, hwe⟩

/-- **An atom stays among entries of other classes**: none of them shadow it. -/
theorem mem_of_removeShadowed_of_atom [Named α] (hapart : Apart ask ds)
    (h : (removeShadowed ask ds).result = .ok out) (hmem : w ∈ ds) : w ∈ out := by
  rcases mem_or_shadowed_of_removeShadowedFrom h w hmem with hkept | ⟨before, hbefore, hshadowed⟩
  · exact hkept
  · -- the entry that it is below is below it, too
    obtain ⟨hle, hge⟩ := Question.equivalent_eq_true_iff.1 hshadowed
    obtain ⟨k, hk, hwk⟩ := exists_le_of_le_accumulated hask ho hunsealed hw hle
    have hkw : ask k w = .ok true := (hask.joining ho).accumulated_le_iff.1 hge k hk
    have hkout : k ∈ out := hbefore.subset hk
    obtain rfl : w = k := hapart.eq_of_equivalent hmem
      ((sublist_of_removeShadowed h).subset hkout) (Question.equivalent_eq_true_iff.2 ⟨hwk, hkw⟩)
    exact hkout

end Unsealed

/-- **Well-known types have a branch each.** Where nothing is sealed, the relation is a preorder
and the well-known types are atoms no two of which are equivalent, a branch list that is resolved
has all of them for entries, whatever the extra candidates and the overall type are. -/
theorem wellKnown_of_resolveBranches {κ π : Type} [BEq α] [Named α] (o : Oracle α κ π)
    (ask : Question α) (hask : o.Lifts ask) (ho : ask.Preordered)
    (hunsealed : ∀ d, o.expand d = []) (overall : Descriptor α)
    (wellKnown extras branches : List (Descriptor α))
    (hatoms : ∀ w ∈ wellKnown, ∃ a, o.normalize w = .atom a)
    (hapart : wellKnown.Pairwise fun a b => ask.equivalent a b = .ok false)
    (h : (resolveBranches ask overall wellKnown extras).result = .ok branches) :
    ∀ w ∈ wellKnown, w ∈ branches := by
  intro w hw
  obtain ⟨a, ha⟩ := hatoms w hw
  obtain ⟨out, hout, hcompleted⟩ := exists_simplify_of_resolveBranches h
  obtain ⟨distinct, ordered, hdistinct, hordered, hremoved, -⟩ := exists_passes_of_simplify hout
  obtain ⟨hperm, -⟩ := specific_of_specificitySort hordered
  have hmem : w ∈ ordered :=
    hperm.symm.subset (subset_of_deduplicate ho.answers hapart hdistinct hw)
  have hkept : w ∈ out := mem_of_removeShadowed_of_atom hask ho hunsealed ha
    (apart_of_passes ho.answers hdistinct hordered) hremoved hmem
  rcases (hcompleted ▸ completed_ensureExhaustive ho.answers overall out).eq_or_eq_concat with
    rfl | rfl
  · exact hkept
  · exact List.mem_append_left _ hkept

/-! ## An instance -/

/-- Two kinds of integers and the integers, none of which is sealed. -/
def integerKinds : NominalTypes String Unit Unit where
  hierarchy := ⟨[(.atom "Fixnum", [.atom "Integer"]), (.atom "Bignum", [.atom "Integer"])]⟩

theorem integerKinds_acyclic : (integerKinds.oracle ()).Acyclic :=
  Oracle.not_transGen_expandsBy fun _ _ ⟨_, hp, _⟩ => absurd hp List.not_mem_nil

theorem integerKinds_coherent : (integerKinds.oracle ()).Coherent where
  refl := NominalTypes.atomicSubtype_refl
  trans := NominalTypes.atomicSubtype_trans
  covered := fun _ h => absurd rfl h
  inhabited := fun h => absurd rfl h
  universal := fun h => by cases h
  universalPart := fun h => by cases h

theorem integerKinds_preordered : (integerKinds.decider ()).subtype.Preordered := by
  show Question.Preordered ((integerKinds.oracle ()).subtypeByLevels fun _ => 0)
  rw [(integerKinds.plain ()).subtypeByLevels_eq integerKinds_acyclic]
  exact integerKinds_coherent.preordered integerKinds_acyclic

/-- The extra candidates are a second spelling of one well-known type, the missing kind of the
other, and the union of both kinds. -/
theorem wellKnown_of_resolveBranches_integerKinds :
    (integerKinds.oracle ()).Lifts (integerKinds.decider ()).subtype ∧
    (integerKinds.decider ()).subtype.Preordered ∧
    (∀ d, (integerKinds.oracle ()).expand d = []) ∧
    (∀ w ∈ [Descriptor.atom "Integer", .atom "Fixnum"],
      ∃ a, (integerKinds.oracle ()).normalize w = .atom a) ∧
    (integerKinds.decider ()).subtype.equivalent (.atom "Integer") (.atom "Fixnum") = .ok false ∧
    (resolveBranches (integerKinds.decider ()).subtype (.atom "Integer")
      [.atom "Integer", .atom "Fixnum"] [.union [.atom "Fixnum"], .atom "Bignum",
        .union [.atom "Bignum", .atom "Fixnum"]]).result
        = .ok [.atom "Fixnum", .atom "Bignum", .atom "Integer"] ∧
    ∀ w ∈ [Descriptor.atom "Integer", .atom "Fixnum"],
      w ∈ [Descriptor.atom "Fixnum", .atom "Bignum", .atom "Integer"] := by
  have hlifts := (integerKinds.liftsTo_decider () integerKinds_acyclic).subtype
  have hapart : (integerKinds.decider ()).subtype.equivalent (.atom "Integer") (.atom "Fixnum")
      = .ok false := by rfl
  have hresolved : (resolveBranches (integerKinds.decider ()).subtype (.atom "Integer")
      [.atom "Integer", .atom "Fixnum"] [.union [.atom "Fixnum"], .atom "Bignum",
        .union [.atom "Bignum", .atom "Fixnum"]]).result
        = .ok [.atom "Fixnum", .atom "Bignum", .atom "Integer"] := by rfl
  have hatoms : ∀ w ∈ [Descriptor.atom "Integer", .atom "Fixnum"],
      ∃ a, (integerKinds.oracle ()).normalize w = .atom a := by
    simp only [List.forall_mem_cons]
    exact ⟨⟨"Integer", by rfl⟩, ⟨"Fixnum", by rfl⟩, fun d hd => absurd hd List.not_mem_nil⟩
  exact ⟨hlifts, integerKinds_preordered, fun _ => rfl, hatoms, hapart, hresolved,
    wellKnown_of_resolveBranches (integerKinds.oracle ()) _ hlifts integerKinds_preordered
      (fun _ => rfl) (.atom "Integer") _ _ _ hatoms (List.pairwise_pair.2 hapart) hresolved⟩

end Narrowing
