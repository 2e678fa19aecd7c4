import Narrowing.Oracle.Relation
import Narrowing.Proofs.Oracle.Lifting
/-!
# What a simplified list is

Each pass that succeeds establishes something of its list: no two entries are equivalent
(`Apart`), no later entry is a proper subtype of an earlier one (`Ordered`), none is
equivalent to the union of those before it (`Unshadowed`). The first two are about pairs,
so a later pass keeps them: sorting permutes the list and removing shadowed entries leaves
a sublist. Each pass also leaves a list alone of which this holds already. So a
list that was simplified is not changed by simplifying it again (`settled_of_simplify`).

The relation of the oracle is not assumed to be a preorder, nor even to be reflexive; all
that is asked is that its questions have answers. An entry need not be equivalent to itself
then, and two entries may be one descriptor.

The pass over shadowed entries builds up the union of those it keeps by joining one entry after
another. Where a spelling leaks, a join that collapses to it is read once less than a union that
has it for a member, so the union taken at once may be read differently. Only where nothing leaks
are the two alike (`Unshadowed.equivalent_join`).
-/

namespace Narrowing

variable {α : Type} [Named α] {ask : Question α}

/-- An entry of a list with one more at its end is that one, or it stood in the list. -/
theorem split_of_concat_eq {β : Type} {l before after : List β} {x t : β}
    (h : l ++ [x] = before ++ t :: after) :
    (before = l ∧ t = x ∧ after = []) ∨ ∃ rest, l = before ++ t :: rest := by
  rcases List.eq_nil_or_concat after with rfl | ⟨rest, e, rfl⟩
  · obtain ⟨hl, ht⟩ := List.append_inj' h rfl
    exact .inl ⟨hl.symm, (List.singleton_inj.1 ht).symm, rfl⟩
  · rw [List.concat_eq_append, ← List.cons_append, ← List.append_assoc] at h
    exact .inr ⟨rest, (List.append_inj' h rfl).1⟩

/-! ## Equivalence classes -/

/-- **No two entries are equivalent.** -/
def Apart (ask : Question α) (ds : List (Descriptor α)) : Prop :=
  ds.Pairwise fun a b => ask.equivalent a b = .ok false ∧ ask.equivalent b a = .ok false

omit [Named α] in
theorem apart_of_deduplicateFrom (ho : ask.Answering) {kept ds out : List (Descriptor α)}
    (hkept : Apart ask kept) (h : deduplicateFrom ask kept ds = .ok out) : Apart ask out := by
  induction ds generalizing kept with
  | nil =>
    obtain rfl := Except.ok.inj h
    exact hkept
  | cons d ds ih =>
    rw [deduplicateFrom] at h
    split at h
    · cases h
    · exact ih hkept h
    · next hd =>
      have hnew := anyOrFail_eq_false_iff.1 hd
      refine ih (List.pairwise_append.2 ⟨hkept, List.pairwise_singleton _ d, ?_⟩) h
      intro k hk e he
      obtain rfl := List.mem_singleton.1 he
      exact ⟨ho.equivalent_comm k e ▸ hnew k hk, hnew k hk⟩

omit [Named α] in
/-- In a list with one entry of each class equivalent entries are one. -/
theorem Apart.eq_of_equivalent {ds : List (Descriptor α)} (h : Apart ask ds) {d e : Descriptor α}
    (hd : d ∈ ds) (he : e ∈ ds) (hde : ask.equivalent d e = .ok true) : d = e := by
  by_contra hne
  have : Std.Symm fun a b =>
      ask.equivalent a b = .ok false ∧ ask.equivalent b a = .ok false := ⟨fun _ _ h => h.symm⟩
  have hapart := (List.Pairwise.forall h hd he hne).1
  rw [hde] at hapart
  cases hapart

omit [Named α] in
/-- Entries that are apart from each other and from those kept are kept, whatever follows. -/
theorem deduplicateFrom_append (es : List (Descriptor α)) {kept ds : List (Descriptor α)}
    (h : Apart ask (kept ++ ds)) :
    deduplicateFrom ask kept (ds ++ es) = deduplicateFrom ask (kept ++ ds) es := by
  induction ds generalizing kept with
  | nil => rw [List.append_nil, List.nil_append]
  | cons d ds ih =>
    have hnew : anyOrFail (fun k => ask.equivalent d k) kept = .ok false :=
      anyOrFail_eq_false_iff.2 fun k hk =>
        ((List.pairwise_append.1 h).2.2 k hk d List.mem_cons_self).2
    rw [List.append_cons] at h ⊢
    rw [List.cons_append, deduplicateFrom, hnew]
    exact ih h

omit [Named α] in
theorem deduplicateFrom_of_apart {kept ds : List (Descriptor α)} (h : Apart ask (kept ++ ds)) :
    deduplicateFrom ask kept ds = .ok (kept ++ ds) := by
  have hnone := deduplicateFrom_append [] h
  rwa [List.append_nil, deduplicateFrom] at hnone

/-! ## Shadowed entries -/

/-- **No entry is equivalent to the union of those before it**, as the pass builds that
union up. -/
def Unshadowed (ask : Question α) (ds : List (Descriptor α)) : Prop :=
  ∀ before t after, ds = before ++ t :: after →
    ask.equivalent t (.accumulated before) = .ok false

omit [Named α] in
theorem unshadowed_nil : Unshadowed ask [] := by
  intro before t after h
  simp at h

omit [Named α] in
theorem Unshadowed.concat {ds : List (Descriptor α)} {d : Descriptor α} (h : Unshadowed ask ds)
    (hd : ask.equivalent d (.accumulated ds) = .ok false) : Unshadowed ask (ds ++ [d]) := by
  intro before t after hsplit
  rcases split_of_concat_eq hsplit with ⟨rfl, rfl, -⟩ | ⟨rest, hrest⟩
  · exact hd
  · exact h before t rest hrest

theorem unshadowed_of_removeShadowedFrom {kept ds out : List (Descriptor α)}
    (hkept : Unshadowed ask kept)
    (h : (removeShadowedFrom ask kept (.accumulated kept) ds).result = .ok out) :
    Unshadowed ask out := by
  induction ds generalizing kept with
  | nil =>
    obtain rfl := Except.ok.inj h
    exact hkept
  | cons d ds ih =>
    rcases removeShadowedFrom_cases h with ⟨-, -, h⟩ | ⟨hd, h⟩
    · exact ih hkept h
    · refine ih (hkept.concat hd) ?_
      rwa [Descriptor.accumulated_concat]

/-- Entries that are not shadowed are kept, and nothing is noted of them. -/
theorem removeShadowedFrom_of_unshadowed {kept ds : List (Descriptor α)}
    (h : Unshadowed ask (kept ++ ds)) :
    (removeShadowedFrom ask kept (.accumulated kept) ds).result = .ok (kept ++ ds) := by
  induction ds generalizing kept with
  | nil => rw [removeShadowedFrom, List.append_nil, Logged.result_pure]
  | cons d ds ih =>
    have hd := h kept d ds rfl
    rw [List.append_cons] at h ⊢
    rw [removeShadowedFrom, Logged.result_bind, Logged.result_ofExcept, hd]
    have := ih h
    rwa [Descriptor.accumulated_concat] at this

section Layered

variable {κ π : Type} [BEq α] {o : Oracle α κ π} (hask : o.Lifts ask) (ho : ask.Answering)
  (hparts : o.LayeredParts) {before after : List (Descriptor α)} {t : Descriptor α}
include hask ho hparts

omit [Named α] in
/-- The first entry of such a list accepts something. -/
theorem Unshadowed.exists_accepts (h : Unshadowed ask (before ++ t :: after))
    (hlayered : ∀ d ∈ before, o.Layered d) (hne : before ≠ []) :
    ∃ k ∈ before, (o.normalForm k).Accepts fun _ => True := by
  obtain ⟨k, rest, rfl⟩ := List.exists_cons_of_ne_nil hne
  refine ⟨k, List.mem_cons_self, ?_⟩
  by_contra hk
  have hlayered := hlayered k List.mem_cons_self
  have hfirst : ask.equivalent k .bottom = .ok false := h [] k _ rfl
  rw [ho.equivalent_eq_false_iff] at hfirst
  refine hfirst (Question.equivalent_eq_true_iff.2 ⟨?_, ?_⟩)
  · rw [hask.eq_true_iff_below hparts hlayered Oracle.layered_bottom (ho _ _)]
    exact .of_accepts [] (fun v hv => absurd (hv.mono fun _ _ => trivial) hk) (by simp)
  · rw [hask.eq_true_iff_below hparts Oracle.layered_bottom hlayered (ho _ _),
      Oracle.normalForm_bottom]
    exact .bottom _

omit [Named α] in
/-- **The union of the entries before is not equivalent to an entry**, when it is taken at
once either, if nothing leaks. -/
theorem Unshadowed.equivalent_join (h : Unshadowed ask (before ++ t :: after))
    (hlayered : ∀ d ∈ before ++ t :: after, o.Layered d) :
    ask.equivalent t (.join before) = .ok false := by
  by_cases hne : before = []
  · subst hne
    exact h [] t after rfl
  rw [List.forall_mem_append, List.forall_mem_cons] at hlayered
  obtain ⟨hbefore, ht, -⟩ := hlayered
  have hgrown := h before t after rfl
  rw [ho.equivalent_eq_false_iff, ne_eq, Question.equivalent_eq_true_iff] at hgrown ⊢
  rw [hask.eq_true_iff_below hparts ht (.accumulated hbefore) (ho _ _),
    hask.eq_true_iff_below hparts (.accumulated hbefore) ht (ho _ _)] at hgrown
  rw [hask.eq_true_iff_below hparts ht (.join hbefore) (ho _ _),
    hask.eq_true_iff_below hparts (.join hbefore) ht (ho _ _)]
  -- the union that grew accepts the same, and it is not the empty type
  have haccepts : ∀ v, (o.normalForm (.accumulated before)).Accepts v ↔
      (o.normalForm (.join before)).Accepts v := by
    intro v
    simp only [Oracle.normalForm, Descriptor.accepts_bind, Descriptor.accepts_accumulated,
      Descriptor.accepts_join]
  have hsome : (o.normalForm (.accumulated before)).Accepts fun _ => True := by
    rw [Oracle.normalForm, Descriptor.accepts_bind, Descriptor.accepts_accumulated]
    obtain ⟨k, hk, hkv⟩ := h.exists_accepts hask ho hparts hbefore hne
    exact ⟨k, hk, (Descriptor.accepts_bind _).1 hkv⟩
  rintro ⟨htj, hjt⟩
  refine hgrown ⟨htj.mono (fun v hv => (haccepts v).2 hv) fun hbottom => ?_,
    .of_accepts [_] (fun v hv => ?_) (List.forall_mem_singleton.2 hjt)⟩
  · rw [hbottom] at hsome
    exact Descriptor.not_accepts_bottom hsome
  · exact ⟨_, List.mem_singleton_self _, (haccepts v).1 hv⟩

end Layered

/-! ## The passes together -/

/-- Passes that succeed make up a simplification, if what they leave can be written. -/
theorem simplify_eq_of_passes {ds distinct ordered out : List (Descriptor α)}
    (hdistinct : deduplicate ask ds = .ok distinct)
    (hordered : specificitySort ask distinct = .ok ordered)
    (hout : (removeShadowed ask ordered).result = .ok out)
    (hwritable : ∀ d ∈ out, d.isWritable) : (simplify ask ds).result = .ok out := by
  have hnote : (Note.simplified ds.length out).isWritable :=
    Note.isWritable_simplified_iff.2 hwritable
  simp only [simplify, Logged.result_bind, Logged.result_ofExcept, Logged.result_pure]
  rw [hdistinct]
  show (specificitySort ask distinct >>= _) = _
  rw [hordered]
  show ((removeShadowed ask ordered).result >>= _) = _
  rw [hout]
  show ((Analysis.note _).result >>= _) = _
  rw [note_of_isWritable hnote]
  rfl

/-- **A settled list**: no pass changes it. -/
structure Settled (ask : Question α) (ds : List (Descriptor α)) : Prop where
  apart : Apart ask ds
  ordered : Ordered ask ds
  unshadowed : Unshadowed ask ds

/-- The entries that are sorted are no two equivalent. -/
theorem apart_of_passes (ho : ask.Answering) {ds distinct ordered : List (Descriptor α)}
    (hdistinct : deduplicate ask ds = .ok distinct)
    (hordered : specificitySort ask distinct = .ok ordered) : Apart ask ordered := by
  have hapart : Apart ask distinct := apart_of_deduplicateFrom ho List.Pairwise.nil hdistinct
  obtain ⟨hperm, -⟩ := specific_of_specificitySort hordered
  exact hapart.perm hperm.symm fun h => h.symm

theorem settled_of_simplify (ho : ask.Answering) {ds out : List (Descriptor α)}
    (h : (simplify ask ds).result = .ok out) : Settled ask out := by
  obtain ⟨distinct, ordered, hdistinct, hordered, hout, -⟩ := exists_passes_of_simplify h
  have hsub := sublist_of_removeShadowed hout
  exact {
    apart := (apart_of_passes ho hdistinct hordered).sublist hsub
    ordered := (ordered_of_specificitySort hordered).sublist hsub
    unshadowed := unshadowed_of_removeShadowedFrom unshadowed_nil hout }

/-- **Simplifying leaves a settled list alone.** -/
theorem Settled.simplify_eq {ds : List (Descriptor α)} (h : Settled ask ds)
    (hwritable : ∀ d ∈ ds, d.isWritable) : (simplify ask ds).result = .ok ds :=
  simplify_eq_of_passes (deduplicateFrom_of_apart h.apart) h.ordered.specificitySort_eq
    (removeShadowedFrom_of_unshadowed h.unshadowed) hwritable

/-- What a list is simplified to can be written: it was noted down. -/
theorem isWritable_of_simplify {ds out : List (Descriptor α)}
    (h : (simplify ask ds).result = .ok out) : ∀ d ∈ out, d.isWritable := by
  obtain ⟨-, -, -, -, -, hnote⟩ := exists_passes_of_simplify h
  exact Note.isWritable_simplified_iff.1 hnote

/-! ## Irredundant lists -/

/-- **A simplified list is irredundant**, for every oracle whose questions come to an end: no two
entries are equivalent, no later entry is a proper subtype of an earlier one, no entry is
equivalent to the union of those before it as the pass builds that up, and simplifying the list
once more gives the same list. Where nothing leaks in the entries and in the parts of sealed
atoms, no entry is equivalent to the union of those before it taken at once either. -/
theorem irredundant_of_simplify {κ π : Type} [BEq α] (o : Oracle α κ π) (ask : Question α)
    (hask : o.Lifts ask) (ho : ask.Answering) (ds out : List (Descriptor α))
    (h : (simplify ask ds).result = .ok out) :
    (out.Pairwise fun a b => ask.equivalent a b = .ok false ∧ ask.equivalent b a = .ok false) ∧
    (out.Pairwise fun earlier later => ask.proper later earlier = .ok false) ∧
    (∀ before t after, out = before ++ t :: after →
      ask.equivalent t (.accumulated before) = .ok false) ∧
    (o.LayeredParts → (∀ d ∈ out, o.Layered d) → ∀ before t after, out = before ++ t :: after →
      ask.equivalent t (.join before) = .ok false) ∧
    (simplify ask out).result = .ok out := by
  have hsettled := settled_of_simplify ho h
  refine ⟨hsettled.apart, hsettled.ordered, hsettled.unshadowed,
    fun hparts hlayered before t after hsplit => ?_,
    hsettled.simplify_eq (isWritable_of_simplify h)⟩
  subst hsplit
  exact hsettled.unshadowed.equivalent_join hask ho hparts hlayered

/-- A relation that is neither reflexive nor transitive. -/
def stairs : BareRelation String Unit Unit where
  pairs := [(.atom "Low", .atom "Middle"), (.atom "Middle", .atom "High")]
  reflexive := false

theorem stairs_ends : (stairs.oracle ()).Ends fun _ => 0 :=
  Oracle.Plain.ends ⟨rfl, rfl⟩ (Oracle.acyclic_of_unsealed fun _ => rfl)

theorem stairs_answering : (stairs.decider ()).subtype.Answering :=
  stairs_ends.compare .subtype

/-- One descriptor stays twice in a list where it is not below itself. -/
theorem irredundant_of_simplify_stairs :
    (stairs.oracle ()).Lifts (stairs.decider ()).subtype ∧
    (stairs.decider ()).subtype.Answering ∧
    (simplify (stairs.decider ()).subtype
      [.atom "High", .atom "Low", .atom "Low", .atom "Middle"]).result
      = .ok [.atom "Low", .atom "Low", .atom "Middle", .atom "High"] ∧
    (simplify (stairs.decider ()).subtype
      [.atom "Low", .atom "Low", .atom "Middle", .atom "High"]).result
      = .ok [.atom "Low", .atom "Low", .atom "Middle", .atom "High"] := by
  have hsimplified : (simplify (stairs.decider ()).subtype
      [.atom "High", .atom "Low", .atom "Low", .atom "Middle"]).result
        = .ok [.atom "Low", .atom "Low", .atom "Middle", .atom "High"] := by rfl
  have hlifts := stairs_ends.lifts_subtypeByLevels
  exact ⟨hlifts, stairs_answering, hsimplified,
    (irredundant_of_simplify (stairs.oracle ()) _ hlifts stairs_answering _ _
      hsimplified).2.2.2.2⟩

end Narrowing
