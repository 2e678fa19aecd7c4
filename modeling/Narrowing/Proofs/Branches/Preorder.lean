import Narrowing.Proofs.Branches.Simplified
import Narrowing.Proofs.Oracle.Valuation
/-!
# Simplifying over a preorder

Where the relation of the oracle is a preorder, the passes have nothing to fail of but their notes:
a list is simplified unless an entry that is left of it after deduplication cannot be written
(`Preordered.simplify_ends`). Nothing is dropped without a reason: a candidate that is
not kept is equivalent to an entry before it, or that entry is equivalent to the union of
entries that are kept. Either way some kept entries below the candidate make it up
(`justified_of_simplify`).

The converse has a limit. An entry is compared with the union of all entries kept before it,
not just with those below it. Where an unrelated entry comes first that union is too large,
and an entry stays that its proper subtypes make up (`shadowed_survives_integers`). This is
the only way in which one can stay (`unrelated_of_shadowed`).
-/

namespace Narrowing

open NominalTypes (amongIntegers integers integers_lifts integers_preordered)

variable {α : Type} {ask : Question α}

/-! ## Which lists can be simplified -/

theorem exists_deduplicateFrom (ho : ask.Answering) (kept ds : List (Descriptor α)) :
    ∃ out, deduplicateFrom ask kept ds = .ok out := by
  induction ds generalizing kept with
  | nil => exact ⟨kept, by rw [deduplicateFrom]⟩
  | cons d ds ih =>
    obtain ⟨r, hr⟩ := exists_anyOrFail_eq_ok kept fun k _ => ho.equivalent d k
    rw [deduplicateFrom, hr]
    cases r with
    | true => exact ih kept
    | false => exact ih _

section Written

variable [Named α] {kept ds out : List (Descriptor α)} {covered : Descriptor α}

/-- The pass over shadowed entries goes through if all that it can note can be written. -/
theorem exists_removeShadowedFrom (ho : ask.Answering) (hcovered : covered.isWritable)
    (hds : ∀ d ∈ ds, d.isWritable) :
    ∃ out, (removeShadowedFrom ask kept covered ds).result = .ok out := by
  induction ds generalizing kept covered with
  | nil => exact ⟨kept, by rw [removeShadowedFrom, Logged.result_pure]⟩
  | cons d ds ih =>
    rw [List.forall_mem_cons] at hds
    obtain ⟨r, hr⟩ := ho.equivalent d covered
    rw [removeShadowedFrom, Logged.result_bind, Logged.result_ofExcept, hr]
    cases r with
    | true =>
      have hnote : (Note.dropped d covered).isWritable :=
        Note.isWritable_dropped_iff.2 ⟨hds.1, hcovered⟩
      show ∃ out, (Analysis.note _ >>= fun _ => removeShadowedFrom ask kept covered ds).result = _
      rw [note_of_isWritable hnote]
      exact ih hcovered hds.2
    | false =>
      refine ih (Descriptor.isWritable_join ?_) hds.2
      simpa using ⟨hcovered, hds.1⟩

/-- Otherwise it fails of what it cannot write. -/
theorem removeShadowedFrom_ends (ho : ask.Answering) (kept : List (Descriptor α))
    (covered : Descriptor α) (ds : List (Descriptor α)) :
    (∃ out, (removeShadowedFrom ask kept covered ds).result = .ok out) ∨
      (removeShadowedFrom ask kept covered ds).result = .error .unwritable := by
  induction ds generalizing kept covered with
  | nil => exact .inl ⟨kept, by rw [removeShadowedFrom, Logged.result_pure]⟩
  | cons d ds ih =>
    obtain ⟨r, hr⟩ := ho.equivalent d covered
    rw [removeShadowedFrom, Logged.result_bind, Logged.result_ofExcept, hr]
    cases r with
    | true =>
      show (∃ out, (Analysis.note _ >>= fun _ => removeShadowedFrom ask kept covered ds).result = _)
        ∨ (Analysis.note _ >>= fun _ => removeShadowedFrom ask kept covered ds).result = _
      unfold Analysis.note
      split
      · exact ih kept covered
      · exact .inr rfl
    | false => exact ih _ _

/-- What is not kept was noted. -/
theorem mem_or_isWritable_of_removeShadowedFrom
    (h : (removeShadowedFrom ask kept covered ds).result = .ok out) :
    (∀ k ∈ kept, k ∈ out) ∧ ∀ d ∈ ds, d ∈ out ∨ d.isWritable := by
  induction ds generalizing kept covered with
  | nil =>
    obtain rfl := Except.ok.inj h
    exact ⟨fun _ hk => hk, nofun⟩
  | cons d ds ih =>
    rcases removeShadowedFrom_cases h with ⟨-, hnote, h⟩ | ⟨-, h⟩
    · obtain ⟨hkept, hds⟩ := ih h
      exact ⟨hkept, List.forall_mem_cons.2 ⟨.inr (Note.isWritable_dropped_iff.1 hnote).1, hds⟩⟩
    · obtain ⟨hkept, hds⟩ := ih h
      rw [List.forall_mem_append, List.forall_mem_singleton] at hkept
      exact ⟨hkept.1, List.forall_mem_cons.2 ⟨.inl hkept.2, hds⟩⟩

/-- **Over a preorder a list is simplified unless something is left in it that cannot be
written.** -/
theorem Question.Preordered.simplify_ends (ho : ask.Preordered) (ds : List (Descriptor α)) :
    ∃ distinct, deduplicate ask ds = .ok distinct ∧
      ((∃ d ∈ distinct, ¬ d.isWritable) ∧ (simplify ask ds).result = .error .unwritable ∨
        (∀ d ∈ distinct, d.isWritable) ∧ ∃ out, (simplify ask ds).result = .ok out) := by
  obtain ⟨distinct, hdistinct⟩ := exists_deduplicateFrom ho.answers [] ds
  obtain ⟨ordered, hordered⟩ := ho.exists_specificitySort distinct
  obtain ⟨hperm, -⟩ := specific_of_specificitySort hordered
  refine ⟨distinct, hdistinct, ?_⟩
  by_cases hwritable : ∀ d ∈ distinct, d.isWritable
  · have hsorted : ∀ d ∈ ordered, d.isWritable := fun d hd => hwritable d (hperm.subset hd)
    obtain ⟨out, hout⟩ : ∃ out, (removeShadowed ask ordered).result = .ok out :=
      exists_removeShadowedFrom ho.answers Descriptor.isWritable_bottom hsorted
    refine .inr ⟨hwritable, out, simplify_eq_of_passes hdistinct hordered hout fun d hd => ?_⟩
    exact hsorted d ((sublist_of_removeShadowed hout).subset hd)
  · refine .inl ⟨by simpa using hwritable, ?_⟩
    simp only [simplify, Logged.result_bind, Logged.result_ofExcept, Logged.result_pure]
    rw [show deduplicate ask ds = .ok distinct from hdistinct]
    show (specificitySort ask distinct >>= _) = _
    rw [hordered]
    show ((removeShadowed ask ordered).result >>= _) = _
    rcases removeShadowedFrom_ends ho.answers [] .bottom ordered with ⟨out, hout⟩ | hfault
    · -- all that was dropped could be written, so one of the entries kept cannot
      have hnote : ¬ (Note.simplified ds.length out).isWritable := by
        rw [Note.isWritable_simplified_iff]
        refine fun hkept => hwritable fun d hd => ?_
        exact ((mem_or_isWritable_of_removeShadowedFrom hout).2 d
          (hperm.symm.subset hd)).elim (hkept d) id
      rw [show (removeShadowed ask ordered).result = .ok out from hout]
      show ((Analysis.note _).result >>= _) = _
      rw [Analysis.note, if_neg hnote]
      rfl
    · rw [show (removeShadowed ask ordered).result = .error .unwritable from hfault]
      rfl

/-- A list of candidates that can be written is simplified. -/
theorem Question.Preordered.exists_simplify (ho : ask.Preordered)
    (hds : ∀ d ∈ ds, d.isWritable) : ∃ out, (simplify ask ds).result = .ok out := by
  obtain ⟨distinct, hdistinct, ⟨⟨d, hd, hnot⟩, -⟩ | ⟨-, hout⟩⟩ := ho.simplify_ends ds
  · exact absurd (hds d ((sublist_of_deduplicate hdistinct).subset hd)) hnot
  · exact hout

end Written

/-! ## Why an entry is dropped -/

theorem prefix_of_deduplicateFrom {kept ds out : List (Descriptor α)}
    (h : deduplicateFrom ask kept ds = .ok out) : kept <+: out := by
  induction ds generalizing kept with
  | nil =>
    obtain rfl := Except.ok.inj h
    exact List.prefix_refl kept
  | cons d ds ih =>
    rw [deduplicateFrom] at h
    split at h
    · cases h
    · exact ih h
    · exact (List.prefix_append kept [d]).trans (ih h)

/-- An entry that is no first of its class is equivalent to one that is. -/
theorem mem_or_equivalent_of_deduplicateFrom {kept ds out : List (Descriptor α)}
    (h : deduplicateFrom ask kept ds = .ok out) :
    ∀ d ∈ ds, d ∈ out ∨ ∃ k ∈ out, ask.equivalent d k = .ok true := by
  induction ds generalizing kept with
  | nil => exact fun d hd => absurd hd List.not_mem_nil
  | cons d ds ih =>
    rw [deduplicateFrom] at h
    split at h
    · cases h
    · next hsome =>
      obtain ⟨k, hk, hdk⟩ := exists_of_anyOrFail_eq_true hsome
      exact List.forall_mem_cons.2
        ⟨.inr ⟨k, (prefix_of_deduplicateFrom h).subset hk, hdk⟩, ih h⟩
    · have hd : d ∈ out := (prefix_of_deduplicateFrom h).subset (by simp)
      exact List.forall_mem_cons.2 ⟨.inl hd, ih h⟩

variable [Named α]

theorem prefix_of_removeShadowedFrom {kept ds out : List (Descriptor α)}
    {covered : Descriptor α} (h : (removeShadowedFrom ask kept covered ds).result = .ok out) :
    kept <+: out := by
  induction ds generalizing kept covered with
  | nil =>
    obtain rfl := Except.ok.inj h
    exact List.prefix_refl kept
  | cons d ds ih =>
    rcases removeShadowedFrom_cases h with ⟨-, -, h⟩ | ⟨-, h⟩
    · exact ih h
    · exact (List.prefix_append kept [d]).trans (ih h)

/-- An entry that is dropped is equivalent to the union of the first entries kept. -/
theorem mem_or_shadowed_of_removeShadowedFrom {kept ds out : List (Descriptor α)}
    (h : (removeShadowedFrom ask kept (.accumulated kept) ds).result = .ok out) :
    ∀ d ∈ ds, d ∈ out ∨
      ∃ before, before <+: out ∧ ask.equivalent d (.accumulated before) = .ok true := by
  induction ds generalizing kept with
  | nil => exact fun d hd => absurd hd List.not_mem_nil
  | cons d ds ih =>
    rcases removeShadowedFrom_cases h with ⟨hb, -, h⟩ | ⟨-, h⟩
    · exact List.forall_mem_cons.2 ⟨.inr ⟨kept, prefix_of_removeShadowedFrom h, hb⟩, ih h⟩
    · have hd : d ∈ out := (prefix_of_removeShadowedFrom h).subset (by simp)
      rw [← Descriptor.accumulated_concat] at h
      exact List.forall_mem_cons.2 ⟨.inl hd, ih h⟩

/-! ## Justification -/

/-- **Some entries of a list make up a descriptor**: each is below it and their union is
equivalent to it. -/
def MadeUpOf (ask : Question α) (c : Descriptor α) (ds : List (Descriptor α)) : Prop :=
  ∃ parts : List (Descriptor α), parts.Sublist ds ∧
    (∀ p ∈ parts, ask p c = .ok true) ∧ ask.equivalent (.join parts) c = .ok true

namespace Question.Joining

variable (ho : ask.Joining)
include ho

omit [Named α] in
theorem madeUpOf_of_mem {c : Descriptor α} {ds : List (Descriptor α)} (hc : c ∈ ds) :
    MadeUpOf ask c ds := by
  have hself : ∀ p ∈ [c], ask p c = .ok true :=
    List.forall_mem_singleton.2 (ho.refl c)
  refine ⟨[c], List.singleton_sublist.2 hc, hself, Question.equivalent_eq_true_iff.2 ⟨?_, ?_⟩⟩
  · exact ho.join_le_iff.2 hself
  · exact ho.le_join (List.mem_singleton_self c)

omit [Named α] in
theorem madeUpOf_of_prefix {c : Descriptor α} {before ds : List (Descriptor α)}
    (hbefore : before <+: ds) (h : ask.equivalent c (.accumulated before) = .ok true) :
    MadeUpOf ask c ds := by
  obtain ⟨hle, hge⟩ := Question.equivalent_eq_true_iff.1 h
  have hparts := ho.accumulated_le_iff.1 hge
  refine ⟨before, hbefore.sublist, hparts, Question.equivalent_eq_true_iff.2 ⟨?_, ?_⟩⟩
  · exact ho.join_le_iff.2 hparts
  · refine ho.trans hle (ho.accumulated_le_iff.2 fun p hp => ?_)
    exact ho.le_join hp

omit [Named α] in
theorem madeUpOf_of_equivalent {c d : Descriptor α} {ds : List (Descriptor α)}
    (hcd : ask.equivalent c d = .ok true) (hd : MadeUpOf ask d ds) : MadeUpOf ask c ds := by
  obtain ⟨parts, hsub, hparts, hjoin⟩ := hd
  obtain ⟨hle, hge⟩ := Question.equivalent_eq_true_iff.1 hcd
  refine ⟨parts, hsub, fun p hp => ho.trans (hparts p hp) hge, ?_⟩
  exact ho.equivalent_trans hjoin (Question.equivalent_eq_true_iff.2 ⟨hge, hle⟩)

/-- Every candidate is made up of entries of the simplified list. -/
theorem madeUpOf_of_simplify {ds out : List (Descriptor α)}
    (h : (simplify ask ds).result = .ok out) : ∀ c ∈ ds, MadeUpOf ask c out := by
  obtain ⟨distinct, ordered, hdistinct, hordered, hout, -⟩ := exists_passes_of_simplify h
  obtain ⟨hperm, -⟩ := specific_of_specificitySort hordered
  have hfirst : ∀ d ∈ distinct, MadeUpOf ask d out := by
    intro d hd
    rcases mem_or_shadowed_of_removeShadowedFrom hout d (hperm.symm.subset hd) with
      hd | ⟨before, hbefore, hd⟩
    · exact ho.madeUpOf_of_mem hd
    · exact ho.madeUpOf_of_prefix hbefore hd
  intro c hc
  rcases mem_or_equivalent_of_deduplicateFrom hdistinct c hc with hc | ⟨d, hd, hcd⟩
  · exact hfirst c hc
  · exact ho.madeUpOf_of_equivalent hcd (hfirst d hd)

omit [Named α] in
/-- Where all candidates are made up of entries that are candidates, the unions are
equivalent. -/
theorem equivalent_join_of_madeUpOf {ds out : List (Descriptor α)} (hmem : ∀ d ∈ out, d ∈ ds)
    (h : ∀ c ∈ ds, MadeUpOf ask c out) : ask.equivalent (.join out) (.join ds) = .ok true := by
  refine Question.equivalent_eq_true_iff.2 ⟨ho.join_le_iff.2 fun d hd => ?_,
    ho.join_le_iff.2 fun c hc => ?_⟩
  · exact ho.le_join (hmem d hd)
  · obtain ⟨parts, hsub, -, hjoin⟩ := h c hc
    refine ho.trans (Question.equivalent_eq_true_iff.1 hjoin).2 ?_
    exact ho.join_le_iff.2 fun p hp => ho.le_join (hsub.subset hp)

end Question.Joining

/-- **Simplifying drops nothing without a reason.** Over a preorder a list of which something is
left after deduplication that cannot be written is not simplified, and every other is simplified
to some of its entries; each candidate is equivalent to the union of some of these that are
subtypes of it, and so the union of all is kept. -/
theorem justified_of_simplify {κ π : Type} [BEq α] (o : Oracle α κ π) (ask : Question α)
    (hask : o.Lifts ask) (ho : ask.Preordered) (ds : List (Descriptor α)) :
    ∃ distinct, deduplicate ask ds = .ok distinct ∧
      ((∃ d ∈ distinct, ¬ d.isWritable) ∧ (simplify ask ds).result = .error .unwritable ∨
        (∀ d ∈ distinct, d.isWritable) ∧ ∃ out, (simplify ask ds).result = .ok out ∧
          (∀ c ∈ ds, ∃ parts : List (Descriptor α), parts.Sublist out ∧
            (∀ p ∈ parts, ask p c = .ok true) ∧
              ask.equivalent (.join parts) c = .ok true) ∧
          (∀ d ∈ out, d ∈ ds) ∧
          ask.equivalent (.join out) (.join ds) = .ok true) := by
  have hjoining := hask.joining ho
  obtain ⟨distinct, hdistinct, hends⟩ := ho.simplify_ends ds
  refine ⟨distinct, hdistinct, hends.imp_right fun ⟨hwritable, out, hout⟩ => ?_⟩
  have hmade := hjoining.madeUpOf_of_simplify hout
  obtain ⟨hmem, -⟩ := specific_of_simplify hout
  exact ⟨hwritable, out, hout, hmade, hmem, hjoining.equivalent_join_of_madeUpOf hmem hmade⟩

/-- A candidate can be lost twice over: this union is a duplicate of an entry that is
shadowed itself. -/
theorem justified_of_simplify_integers :
    (integers.oracle ()).Lifts amongIntegers ∧ amongIntegers.Preordered ∧
    (simplify amongIntegers [.atom "Integer", .atom "Fixnum",
      .union [.atom "Bignum", .atom "Fixnum"], .atom "Bignum"]).result
        = .ok [.atom "Fixnum", .atom "Bignum"] ∧
    ∃ parts : List (Descriptor String), parts.Sublist [.atom "Fixnum", .atom "Bignum"] ∧
      amongIntegers.equivalent (.join parts)
        (.union [.atom "Bignum", .atom "Fixnum"]) = .ok true := by
  have hsimplified : (simplify amongIntegers [.atom "Integer", .atom "Fixnum",
      .union [.atom "Bignum", .atom "Fixnum"], .atom "Bignum"]).result
        = .ok [.atom "Fixnum", .atom "Bignum"] := by rfl
  refine ⟨integers_lifts, integers_preordered, hsimplified, ?_⟩
  obtain ⟨_, -, ⟨-, hfault⟩ | ⟨-, out, hout, hjustified, -⟩⟩ :=
    justified_of_simplify (integers.oracle ()) amongIntegers integers_lifts integers_preordered
      [.atom "Integer", .atom "Fixnum", .union [.atom "Bignum", .atom "Fixnum"], .atom "Bignum"]
  · cases hfault.symm.trans hsimplified
  · obtain rfl : out = _ := Except.ok.inj (hout.symm.trans hsimplified)
    obtain ⟨parts, hsub, -, hjoin⟩ :=
      hjustified (.union [.atom "Bignum", .atom "Fixnum"]) (by simp)
    exact ⟨parts, hsub, hjoin⟩

/-! ## What stays although it is shadowed -/

/-- **The proper subtypes of a descriptor** among some others. -/
def Question.narrower (ask : Question α) (t : Descriptor α) (ds : List (Descriptor α)) :
    List (Descriptor α) :=
  ds.filter fun d => ask.proper d t matches .ok true

omit [Named α] in
theorem Question.mem_narrower {t d : Descriptor α} {ds : List (Descriptor α)} :
    d ∈ ask.narrower t ds ↔ d ∈ ds ∧ ask.proper d t = .ok true := by
  rw [narrower, List.mem_filter]
  refine and_congr_right fun _ => ?_
  split <;> simp_all

omit [Named α] in
/-- In a list that is in order and has one entry of each class, what comes before an entry is a
proper subtype of it or unrelated to it. -/
theorem Ordered.proper_or_unrelated (ho : ask.Answering)
    {before after : List (Descriptor α)} {t u : Descriptor α}
    (h : Ordered ask (before ++ t :: after)) (hapart : Apart ask (before ++ t :: after))
    (hu : u ∈ before) :
    ask.proper u t = .ok true ∨
      ask u t = .ok false ∧ ask t u = .ok false := by
  have hequivalent : ask.equivalent u t ≠ .ok true := by
    rw [← ho.equivalent_eq_false_iff]
    exact ((List.pairwise_append.1 hapart).2.2 u hu t List.mem_cons_self).1
  have hproper : ask.proper t u ≠ .ok true := by
    rw [← ho.proper_eq_false_iff]
    exact (List.pairwise_append.1 h).2.2 u hu t List.mem_cons_self
  have htu : ask t u = .ok false := by
    refine ho.eq_false_iff.2 fun htu => ?_
    by_cases hut : ask u t = .ok true
    · exact hequivalent (Question.equivalent_eq_true_iff.2 ⟨hut, htu⟩)
    · exact hproper (Question.proper_eq_true_iff.2 ⟨htu, ho.eq_false_iff.2 hut⟩)
  by_cases hut : ask u t = .ok true
  · exact .inl (Question.proper_eq_true_iff.2 ⟨hut, htu⟩)
  · exact .inr ⟨ho.eq_false_iff.2 hut, htu⟩

omit [Named α] in
/-- In a settled list, an entry that is equivalent to the union of its proper subtypes
before it comes after an entry that is unrelated to it. -/
theorem Settled.exists_unrelated (ho : ask.Joining) {before after : List (Descriptor α)}
    {t : Descriptor α} (h : Settled ask (before ++ t :: after))
    (ht : ask.equivalent t (.join (ask.narrower t before)) = .ok true) :
    ∃ u ∈ before, ask u t = .ok false ∧ ask t u = .ok false := by
  by_contra hrelated
  -- the union of all that comes before is then the union of the proper subtypes
  have hbelow : ∀ u ∈ before, ask.proper u t = .ok true := fun u hu =>
    (h.ordered.proper_or_unrelated ho.answers h.apart hu).resolve_right fun hut =>
      hrelated ⟨u, hu, hut⟩
  have hunshadowed := h.unshadowed before t after rfl
  rw [ho.answers.equivalent_eq_false_iff] at hunshadowed
  refine hunshadowed (Question.equivalent_eq_true_iff.2 ⟨?_, ?_⟩)
  · refine ho.trans (Question.equivalent_eq_true_iff.1 ht).1 ?_
    refine ho.join_le_iff.2 fun u hu => ?_
    exact ho.le_accumulated (Question.mem_narrower.1 hu).1
  · refine ho.accumulated_le_iff.2 fun u hu => ?_
    exact (Question.proper_eq_true_iff.1 (hbelow u hu)).1

/-- **A shadowed entry stays only behind an unrelated one.** Over a preorder, an entry of a
simplified list can be equivalent to the union of those before it that are proper subtypes
of it only if an entry before it is neither a subtype nor a supertype of it. -/
theorem unrelated_of_shadowed {κ π : Type} [BEq α] (o : Oracle α κ π) (ask : Question α)
    (hask : o.Lifts ask) (ho : ask.Preordered) (ds : List (Descriptor α)) :
    ∃ distinct, deduplicate ask ds = .ok distinct ∧
      ((∃ d ∈ distinct, ¬ d.isWritable) ∧ (simplify ask ds).result = .error .unwritable ∨
        (∀ d ∈ distinct, d.isWritable) ∧ ∃ out, (simplify ask ds).result = .ok out ∧
          ∀ before t after, out = before ++ t :: after →
            ask.equivalent t (.join (ask.narrower t before)) = .ok true →
              ∃ u ∈ before, ask u t = .ok false ∧ ask t u = .ok false) := by
  obtain ⟨distinct, hdistinct, hends⟩ := ho.simplify_ends ds
  refine ⟨distinct, hdistinct, hends.imp_right fun ⟨hwritable, out, hout⟩ =>
    ⟨hwritable, out, hout, fun before t after hsplit ht => ?_⟩⟩
  have hsettled := settled_of_simplify ho.answers hout
  subst hsplit
  exact hsettled.exists_unrelated (hask.joining ho) ht

/-- The two kinds of integers do not shadow the integers behind an unrelated name. -/
theorem simplify_string_integers :
    (simplify amongIntegers
      [.atom "String", .atom "Fixnum", .atom "Bignum", .atom "Integer"]).result
        = .ok ([.atom "String", .atom "Fixnum", .atom "Bignum"] ++ [.atom "Integer"]) := by
  rfl

/-- That name is unrelated to the integers. -/
theorem unrelated_of_shadowed_integers :
    (integers.oracle ()).Lifts amongIntegers ∧ amongIntegers.Preordered ∧
    ∃ u ∈ [Descriptor.atom "String", .atom "Fixnum", .atom "Bignum"],
      amongIntegers u (.atom "Integer") = .ok false ∧
      amongIntegers (.atom "Integer") u = .ok false := by
  refine ⟨integers_lifts, integers_preordered, ?_⟩
  obtain ⟨_, -, ⟨-, hfault⟩ | ⟨-, out, hout, hunrelated⟩⟩ :=
    unrelated_of_shadowed (integers.oracle ()) amongIntegers integers_lifts integers_preordered
      [.atom "String", .atom "Fixnum", .atom "Bignum", .atom "Integer"]
  · cases hfault.symm.trans simplify_string_integers
  · obtain rfl : out = _ := Except.ok.inj (hout.symm.trans simplify_string_integers)
    exact hunrelated _ _ _ rfl (by rfl)

/-- **A shadowed entry can stay**: the integers are kept although they are equivalent to the
union of the entries before them that are proper subtypes of them. -/
theorem shadowed_survives_integers :
    (integers.oracle ()).Lifts amongIntegers ∧ amongIntegers.Preordered ∧
    (simplify amongIntegers
      [.atom "String", .atom "Fixnum", .atom "Bignum", .atom "Integer"]).result
        = .ok ([.atom "String", .atom "Fixnum", .atom "Bignum"] ++ [.atom "Integer"]) ∧
    amongIntegers.narrower (.atom "Integer")
      [.atom "String", .atom "Fixnum", .atom "Bignum"] = [.atom "Fixnum", .atom "Bignum"] ∧
    amongIntegers.equivalent (.atom "Integer")
      (.join [.atom "Fixnum", .atom "Bignum"]) = .ok true :=
  ⟨integers_lifts, integers_preordered, simplify_string_integers, by rfl, by rfl⟩

end Narrowing
