import Narrowing.Proofs.Branches.Preorder
/-!
# The order of the candidates

Candidates are given as a list, and two orders of the same candidates are sorted differently
where the candidates are unrelated. How much of that shows in the simplified list?

Over a preorder, what the last pass starts from is one entry of each class, in order
(`Arrangement`), and an entry is dropped exactly if the entries before it make it up
(`Preordered.mem_iff_of_removeShadowed`). Its proper subtypes all come before it. So it is
dropped if they make it up, unless an unrelated entry comes before it as well
(`Arrangement.kept_iff`). The first condition does not depend on the order, the second
does.

Hence two orders of the candidates can only disagree about a candidate which its proper
subtypes make up and which is unrelated to some candidate (`OrderSensitive`). Such a candidate
is dropped where the types below it come first and stays where the unrelated one does
(`order_matters_integers`), so the classes that are kept depend on the order exactly if there is
one (`sameClasses_of_perm_iff`).
-/

namespace Narrowing

open NominalTypes (amongIntegers integers integers_lifts integers_preordered)

variable {α : Type} [Named α] {ask : Question α} {ds es out : List (Descriptor α)}

/-! ## One entry of each class -/

/-- **An arrangement of candidates**: one entry of each class, in order. -/
structure Arrangement (ask : Question α) (ds es : List (Descriptor α)) : Prop where
  mem : ∀ e ∈ es, e ∈ ds
  covers : ∀ d ∈ ds, ∃ e ∈ es, ask.equivalent d e = .ok true
  apart : Apart ask es
  ordered : Ordered ask es

/-- The passes before the last arrange the candidates. -/
theorem arrangement_of_passes (ho : ask.Joining) {distinct : List (Descriptor α)}
    (hdistinct : deduplicate ask ds = .ok distinct) (hes : specificitySort ask distinct = .ok es) :
    Arrangement ask ds es := by
  obtain ⟨hperm, -⟩ := specific_of_specificitySort hes
  constructor
  case mem => exact fun e he => (sublist_of_deduplicate hdistinct).subset (hperm.subset he)
  case covers =>
    intro d hd
    rcases mem_or_equivalent_of_deduplicateFrom hdistinct d hd with hd | ⟨k, hk, hdk⟩
    · exact ⟨d, hperm.symm.subset hd, ho.equivalent_refl d⟩
    · exact ⟨k, hperm.symm.subset hk, hdk⟩
  case apart => exact apart_of_passes ho.answers hdistinct hes
  case ordered => exact ordered_of_specificitySort hes

omit [Named α] in
theorem Ordered.specific (h : Ordered ask es) : Specific ask es :=
  h.imp fun {earlier later} h => by simp [h]

omit [Named α] in
theorem Apart.nodup (ho : ask.Joining) (h : Apart ask es) : es.Nodup := by
  refine h.imp fun {a b} hab heq => ?_
  rw [heq, ho.equivalent_refl b] at hab
  cases hab.1

omit [Named α] in
/-- A list with one entry of each class is no longer than one that has an equivalent of each
of its entries. -/
theorem Apart.length_le (ho : ask.Joining) {xs ys : List (Descriptor α)} (h : Apart ask xs)
    (hxy : ∀ x ∈ xs, ∃ y ∈ ys, ask.equivalent x y = .ok true) : xs.length ≤ ys.length := by
  have : Nonempty (Descriptor α) := ⟨.bottom⟩
  -- two entries with one equivalent would be equivalent themselves
  choose! f hf hequivalent using hxy
  have hnodup : (xs.map f).Nodup := by
    refine List.pairwise_map.2 (h.imp_of_mem fun {a b} ha hb hab heq => ?_)
    have hfa : ask.equivalent a (f b) = .ok true := heq ▸ hequivalent a ha
    rw [ho.equivalent_congr (ho.equivalent_refl a) (hequivalent b hb), hfa] at hab
    cases hab.1
  have hsub : xs.map f ⊆ ys := List.forall_mem_map.2 hf
  rw [← List.length_map f]
  exact (List.subperm_of_subset hnodup hsub).length_le

/-! ## Which entries are dropped -/

theorem exists_of_removeShadowedFrom_append (kept : List (Descriptor α))
    {before after : List (Descriptor α)}
    (h : (removeShadowedFrom ask kept (.accumulated kept) (before ++ after)).result = .ok out) :
    ∃ mid, (removeShadowedFrom ask kept (.accumulated kept) before).result = .ok mid ∧
      (removeShadowedFrom ask mid (.accumulated mid) after).result = .ok out := by
  -- the union carried along is that of the kept entries, also after one is added
  induction before generalizing kept with
  | nil => exact ⟨kept, by rw [removeShadowedFrom, Logged.result_pure], h⟩
  | cons d before ih =>
    rw [List.cons_append] at h
    rcases removeShadowedFrom_cases h with ⟨hd, hnote, h⟩ | ⟨hd, h⟩
    · obtain ⟨mid, hmid, hrest⟩ := ih kept h
      exact ⟨mid, removeShadowedFrom_of_shadowed hd hnote hmid, hrest⟩
    · rw [← Descriptor.accumulated_concat] at h
      obtain ⟨mid, hmid, hrest⟩ := ih (kept ++ [d]) h
      rw [Descriptor.accumulated_concat] at hmid
      exact ⟨mid, removeShadowedFrom_of_kept hd hmid, hrest⟩

namespace Question.Joining

variable (ho : ask.Joining)
include ho

/-- The entries kept make up all entries met so far. -/
theorem equivalent_accumulated_of_removeShadowed (h : (removeShadowed ask es).result = .ok out) :
    ask.equivalent (.accumulated out) (.join es) = .ok true := by
  refine Question.equivalent_eq_true_iff.2 ⟨ho.accumulated_le_iff.2 fun d hd => ?_,
    ho.join_le_iff.2 fun d hd => ?_⟩
  · exact ho.le_join ((sublist_of_removeShadowed h).subset hd)
  · rcases mem_or_shadowed_of_removeShadowedFrom h d hd with hd | ⟨before, hbefore, hd⟩
    · exact ho.le_accumulated hd
    · refine ho.trans (Question.equivalent_eq_true_iff.1 hd).1 ?_
      exact ho.accumulated_le_iff.2 fun k hk =>
        ho.le_accumulated (hbefore.subset hk)

/-- **An entry stays unless all entries before it make it up**, those included that were
dropped. -/
theorem mem_iff_of_removeShadowed {before after : List (Descriptor α)} {e : Descriptor α}
    (hapart : Apart ask (before ++ e :: after))
    (h : (removeShadowed ask (before ++ e :: after)).result = .ok out) :
    e ∈ out ↔ ask.equivalent e (.join before) = .ok false := by
  obtain ⟨mid, hmid, hrest⟩ := exists_of_removeShadowedFrom_append [] h
  have hjoin : ask.equivalent e (.accumulated mid) = ask.equivalent e (.join before) :=
    ho.equivalent_congr (ho.equivalent_refl e)
      (ho.equivalent_accumulated_of_removeShadowed hmid)
  rw [← hjoin]
  rcases removeShadowedFrom_cases hrest with ⟨hb, -, hrest⟩ | ⟨hb, hrest⟩
  · -- dropping it leaves no copy of it, neither among the entries kept nor after it
    have hnot : e ∉ before ++ after :=
      (List.nodup_cons.1 (List.nodup_middle.1 (hapart.nodup ho))).1
    refine iff_of_false (fun he => hnot (List.mem_append.2 ?_)) (by simp [hb])
    have hmem : e ∈ mid ++ after := (sublist_of_removeShadowedFrom hrest).subset he
    exact (List.mem_append.1 hmem).imp_left fun h => (sublist_of_removeShadowed hmid).subset h
  · refine iff_of_true ((prefix_of_removeShadowedFrom hrest).subset ?_) hb
    simp

end Question.Joining

/-! ## Shadowed and unrelated candidates -/

/-- **A shadowed candidate** is made up by its proper subtypes among the candidates. -/
def Shadowed (ask : Question α) (ds : List (Descriptor α)) (t : Descriptor α) : Prop :=
  ask.equivalent t (.join (ask.narrower t ds)) = .ok true

/-- **Unrelated descriptors**: neither is a subtype of the other. -/
def Unrelated (ask : Question α) (a b : Descriptor α) : Prop :=
  ask a b = .ok false ∧ ask b a = .ok false

omit [Named α] in
theorem Unrelated.symm {a b : Descriptor α} (h : Unrelated ask a b) : Unrelated ask b a :=
  And.symm h

section Congruence

variable (ho : ask.Joining) {a b : Descriptor α}
include ho

omit [Named α] in
theorem shadowed_congr (h : ask.equivalent a b = .ok true) :
    Shadowed ask ds a ↔ Shadowed ask ds b := by
  have hnarrower : ask.narrower a ds = ask.narrower b ds :=
    List.filter_congr fun d _ => by rw [ho.proper_congr (ho.equivalent_refl d) h]
  rw [Shadowed, Shadowed, hnarrower, ho.equivalent_congr h (ho.equivalent_refl _)]

omit [Named α] in
theorem unrelated_congr (h : ask.equivalent a b = .ok true) (u : Descriptor α) :
    Unrelated ask u a ↔ Unrelated ask u b := by
  rw [Unrelated, Unrelated, ho.subtype_congr (ho.equivalent_refl u) h,
    ho.subtype_congr h (ho.equivalent_refl u)]

omit [Named α] in
/-- Whether a candidate is shadowed does not depend on the order. -/
theorem shadowed_perm {xs ys : List (Descriptor α)} (h : xs.Perm ys) :
    Shadowed ask xs a ↔ Shadowed ask ys a := by
  have hperm : (ask.narrower a xs).Perm (ask.narrower a ys) := h.filter _
  have hjoin : ask.equivalent (.join (ask.narrower a xs)) (.join (ask.narrower a ys)) = .ok true :=
    Question.equivalent_eq_true_iff.2
      ⟨ho.join_le_join hperm.subset, ho.join_le_join hperm.symm.subset⟩
  rw [Shadowed, Shadowed, ho.equivalent_congr (ho.equivalent_refl a) hjoin]

end Congruence

namespace Arrangement

variable {before after : List (Descriptor α)} {e : Descriptor α}

omit [Named α] in
/-- **An entry is made up by the entries before it** exactly if it is shadowed and no
unrelated entry is before it. -/
theorem equivalent_join_iff (ho : ask.Joining)
    (h : Arrangement ask ds (before ++ e :: after)) :
    ask.equivalent e (.join before) = .ok true ↔
      Shadowed ask ds e ∧ ∀ u ∈ before, ¬ Unrelated ask u e := by
  rw [Question.equivalent_eq_true_iff]
  constructor
  · rintro ⟨hle, hge⟩
    have hbelow : ∀ u ∈ before, ask u e = .ok true :=
      ho.join_le_iff.1 hge
    have hunrelated : ∀ u ∈ before, ¬ Unrelated ask u e := fun u hu hue =>
      ho.answers.eq_false_iff.1 hue.1 (hbelow u hu)
    refine ⟨Question.equivalent_eq_true_iff.2 ⟨ho.trans hle ?_, ?_⟩, hunrelated⟩
    · refine ho.join_le_join fun u hu => Question.mem_narrower.2 ⟨h.mem u (by simp [hu]), ?_⟩
      exact (h.ordered.proper_or_unrelated ho.answers h.apart hu).resolve_right
        (hunrelated u hu)
    · refine ho.join_le_iff.2 fun n hn => ?_
      exact (Question.proper_eq_true_iff.1 (Question.mem_narrower.1 hn).2).1
  · rintro ⟨hshadowed, hunrelated⟩
    refine ⟨ho.trans (Question.equivalent_eq_true_iff.1 hshadowed).1 ?_, ?_⟩
    · -- a proper subtype has its class represented before the entry
      refine ho.join_le_iff.2 fun n hn => ?_
      obtain ⟨hn, hproper⟩ := Question.mem_narrower.1 hn
      obtain ⟨r, hr, hnr⟩ := h.covers n hn
      rw [ho.proper_congr hnr (ho.equivalent_refl e)] at hproper
      have hbefore : r ∈ before := h.ordered.specific.mem_before hr hproper
      exact ho.trans (Question.equivalent_eq_true_iff.1 hnr).1 (ho.le_join hbefore)
    · refine ho.join_le_iff.2 fun u hu => ?_
      have hproper := (h.ordered.proper_or_unrelated ho.answers h.apart hu).resolve_right
        (hunrelated u hu)
      exact (Question.proper_eq_true_iff.1 hproper).1

/-- **Which classes are kept**: that of a candidate is, unless the candidate is shadowed and no
unrelated entry is before the entry of its class. -/
theorem kept_iff (ho : ask.Joining) (h : Arrangement ask ds (before ++ e :: after))
    (hout : (removeShadowed ask (before ++ e :: after)).result = .ok out) {c : Descriptor α}
    (hce : ask.equivalent c e = .ok true) :
    (∃ d ∈ out, ask.equivalent c d = .ok true) ↔
      ¬ Shadowed ask ds c ∨ ∃ u ∈ before, Unrelated ask u c := by
  have hmem : (∃ d ∈ out, ask.equivalent c d = .ok true) ↔ e ∈ out := by
    refine ⟨fun ⟨d, hd, hcd⟩ => ?_, fun he => ⟨e, he, hce⟩⟩
    rw [ho.equivalent_congr hce (ho.equivalent_refl d)] at hcd
    have hed : e = d := h.apart.eq_of_equivalent (by simp)
      ((sublist_of_removeShadowed hout).subset hd) hcd
    rwa [hed]
  have hunrelated : (∃ u ∈ before, Unrelated ask u c) ↔ ∃ u ∈ before, Unrelated ask u e := by
    simp only [unrelated_congr ho hce]
  rw [hmem, ho.mem_iff_of_removeShadowed h.apart hout, ho.answers.equivalent_eq_false_iff, ne_eq,
    h.equivalent_join_iff ho, shadowed_congr ho hce, hunrelated, not_and_or]
  simp only [not_forall, not_not, exists_prop]

omit [Named α] in
/-- An arrangement does not depend on the order of the candidates. -/
theorem perm {xs ys : List (Descriptor α)} (h : Arrangement ask xs es) (hperm : xs.Perm ys) :
    Arrangement ask ys es :=
  { h with
    mem := fun e he => hperm.subset (h.mem e he)
    covers := fun d hd => h.covers d (hperm.symm.subset hd) }

end Arrangement

/-- A simplified list comes of an arrangement. -/
theorem exists_arrangement_of_simplify (ho : ask.Joining)
    (h : (simplify ask ds).result = .ok out) :
    ∃ es, Arrangement ask ds es ∧ (removeShadowed ask es).result = .ok out := by
  obtain ⟨distinct, es, hdistinct, hes, hout, -⟩ := exists_passes_of_simplify h
  exact ⟨es, arrangement_of_passes ho hdistinct hes, hout⟩

/-! ## Candidates that depend on the order -/

/-- **A candidate that depends on the order**: it is shadowed, and unrelated to some
candidate. -/
structure OrderSensitive (ask : Question α) (ds : List (Descriptor α)) (t : Descriptor α) :
    Prop where
  shadowed : Shadowed ask ds t
  unrelated : ∃ u ∈ ds, Unrelated ask u t

omit [Named α] in
theorem OrderSensitive.perm (ho : ask.Joining) {xs ys : List (Descriptor α)} {t : Descriptor α}
    (h : OrderSensitive ask xs t) (hperm : xs.Perm ys) : OrderSensitive ask ys t := by
  obtain ⟨u, hu, hut⟩ := h.unrelated
  exact ⟨(shadowed_perm ho hperm).1 h.shadowed, u, hperm.subset hu, hut⟩

/-- **Two orders agree about every entry that does not depend on the order.** -/
theorem equivalent_or_orderSensitive (ho : ask.Joining) {xs ys outx outy : List (Descriptor α)}
    (hperm : xs.Perm ys) (hx : (simplify ask xs).result = .ok outx)
    (hy : (simplify ask ys).result = .ok outy) :
    ∀ d ∈ outx, (∃ e ∈ outy, ask.equivalent d e = .ok true) ∨ OrderSensitive ask xs d := by
  intro d hd
  obtain ⟨es, harranged, hout⟩ := exists_arrangement_of_simplify ho hx
  obtain ⟨es', harranged', hout'⟩ := exists_arrangement_of_simplify ho hy
  refine or_iff_not_imp_left.2 fun hlost => ?_
  -- the second order drops the class, so the candidate is shadowed
  have hshadowed : Shadowed ask xs d := by
    have hdy : d ∈ ys := hperm.subset ((specific_of_simplify hx).1 d hd)
    obtain ⟨e, he, hde⟩ := harranged'.covers d hdy
    obtain ⟨before, after, rfl⟩ := List.append_of_mem he
    rw [harranged'.kept_iff ho hout' hde, not_or, not_not] at hlost
    exact (shadowed_perm ho hperm).2 hlost.1
  -- the first order keeps it nevertheless, behind an unrelated entry
  obtain ⟨before, after, rfl⟩ := List.append_of_mem ((sublist_of_removeShadowed hout).subset hd)
  have hkept := (harranged.kept_iff ho hout (ho.equivalent_refl d)).1
    ⟨d, hd, ho.equivalent_refl d⟩
  obtain ⟨u, hu, hud⟩ := hkept.resolve_left (not_not_intro hshadowed)
  exact ⟨hshadowed, u, harranged.mem u (by simp [hu]), hud⟩

/-- **Two lists keep the same classes**: they are of one length, and every entry of one is
equivalent to an entry of the other. -/
structure SameClasses (ask : Question α) (xs ys : List (Descriptor α)) : Prop where
  length_eq : xs.length = ys.length
  left : ∀ x ∈ xs, ∃ y ∈ ys, ask.equivalent x y = .ok true
  right : ∀ y ∈ ys, ∃ x ∈ xs, ask.equivalent y x = .ok true

omit [Named α] in
/-- Two lists that keep the same classes keep that of a candidate both or neither. -/
theorem SameClasses.exists_equivalent_iff (ho : ask.Joining) {xs ys : List (Descriptor α)}
    (h : SameClasses ask xs ys) (t : Descriptor α) :
    (∃ x ∈ xs, ask.equivalent t x = .ok true) ↔ ∃ y ∈ ys, ask.equivalent t y = .ok true := by
  constructor
  · rintro ⟨x, hx, htx⟩
    obtain ⟨y, hy, hxy⟩ := h.left x hx
    exact ⟨y, hy, ho.equivalent_trans htx hxy⟩
  · rintro ⟨y, hy, hty⟩
    obtain ⟨x, hx, hyx⟩ := h.right y hy
    exact ⟨x, hx, ho.equivalent_trans hty hyx⟩

/-- **Two orders keep the same classes** if no candidate depends on the order. -/
theorem sameClasses_of_not_orderSensitive (ho : ask.Joining)
    {xs ys outx outy : List (Descriptor α)} (hnone : ∀ t ∈ xs, ¬ OrderSensitive ask xs t)
    (hperm : xs.Perm ys) (hx : (simplify ask xs).result = .ok outx)
    (hy : (simplify ask ys).result = .ok outy) : SameClasses ask outx outy := by
  have left : ∀ d ∈ outx, ∃ e ∈ outy, ask.equivalent d e = .ok true := by
    intro d hd
    have hmem : d ∈ xs := (specific_of_simplify hx).1 d hd
    exact (equivalent_or_orderSensitive ho hperm hx hy d hd).resolve_right (hnone d hmem)
  have right : ∀ e ∈ outy, ∃ d ∈ outx, ask.equivalent e d = .ok true := by
    intro e he
    have hmem : e ∈ xs := hperm.symm.subset ((specific_of_simplify hy).1 e he)
    exact (equivalent_or_orderSensitive ho hperm.symm hy hx e he).resolve_right fun h =>
      hnone e hmem (h.perm ho hperm.symm)
  -- either list has one entry of each class, so neither is longer than the other
  have hapartx : Apart ask outx := (settled_of_simplify ho.answers hx).apart
  have haparty : Apart ask outy := (settled_of_simplify ho.answers hy).apart
  exact ⟨Nat.le_antisymm (hapartx.length_le ho left) (haparty.length_le ho right), left, right⟩

/-! ## Orders that disagree -/

/-- The candidates below a type can be put first, and the list be in order. -/
theorem exists_perm_below_first (ho : ask.Joining) (x : Descriptor α)
    (ds : List (Descriptor α)) :
    ∃ lower rest, (lower ++ rest).Perm ds ∧ Ordered ask (lower ++ rest) ∧
      (∀ d ∈ lower, ask d x = .ok true) ∧
        ∀ d ∈ rest, ask d x = .ok false := by
  classical
  let below : Descriptor α → Bool := fun d => decide (ask d x = .ok true)
  obtain ⟨lower, hlower⟩ := ho.exists_specificitySort (ds.filter below)
  obtain ⟨rest, hrest⟩ := ho.exists_specificitySort (ds.filter fun d => !below d)
  obtain ⟨hpermLower, -⟩ := specific_of_specificitySort hlower
  obtain ⟨hpermRest, -⟩ := specific_of_specificitySort hrest
  have hinside : ∀ d ∈ lower, ask d x = .ok true := fun d hd =>
    of_decide_eq_true (List.mem_filter.1 (hpermLower.subset hd)).2
  have houtside : ∀ d ∈ rest, ask d x = .ok false := by
    intro d hd
    have hnot : below d = false := by simpa using (List.mem_filter.1 (hpermRest.subset hd)).2
    exact ho.answers.eq_false_iff.2 (of_decide_eq_false hnot)
  refine ⟨lower, rest, (hpermLower.append hpermRest).trans (List.filter_append_perm below ds),
    List.pairwise_append.2 ⟨ordered_of_specificitySort hlower,
      ordered_of_specificitySort hrest, fun d hd e he => ?_⟩, hinside, houtside⟩
  -- what is below an entry below the type is below the type itself
  refine ho.answers.proper_eq_false_iff.2 fun hed => ?_
  refine ho.answers.eq_false_iff.1 (houtside e he) ?_
  exact ho.trans (Question.proper_eq_true_iff.1 hed).1 (hinside d hd)

/-- In that order the entries below the type come first in the arrangement too. -/
theorem exists_arrangement_below_first (ho : ask.Joining) (x : Descriptor α)
    (hwritable : ∀ d ∈ ds, d.isWritable) :
    ∃ ys out lower rest, ys.Perm ds ∧ (simplify ask ys).result = .ok out ∧
      Arrangement ask ds (lower ++ rest) ∧ (removeShadowed ask (lower ++ rest)).result = .ok out ∧
        (∀ d ∈ lower, ask d x = .ok true) ∧
          ∀ d ∈ rest, ask d x = .ok false := by
  obtain ⟨lower, rest, hperm, hordered, hlower, hrest⟩ := exists_perm_below_first ho x ds
  obtain ⟨out, hout⟩ := ho.toPreordered.exists_simplify fun d hd => hwritable d (hperm.subset hd)
  obtain ⟨distinct, es, hdistinct, hes, hremoved, -⟩ := exists_passes_of_simplify hout
  have hsub : distinct.Sublist (lower ++ rest) := sublist_of_deduplicate hdistinct
  -- the sort finds the list in order and leaves it
  have hdistinctOrdered : Ordered ask distinct := hordered.sublist hsub
  have hsorted := hdistinctOrdered.specificitySort_eq
  obtain rfl : distinct = es := Except.ok.inj (hsorted.symm.trans hes)
  have harranged := (arrangement_of_passes ho hdistinct hes).perm hperm
  obtain ⟨l, r, rfl, hl, hr⟩ := List.sublist_append_iff.1 hsub
  exact ⟨lower ++ rest, out, l, r, hperm, hout, harranged, hremoved,
    fun d hd => hlower d (hl.subset hd), fun d hd => hrest d (hr.subset hd)⟩

/-- **A shadowed candidate is dropped where all below it comes first.** -/
theorem exists_perm_dropped (ho : ask.Joining) (hwritable : ∀ d ∈ ds, d.isWritable)
    {t : Descriptor α} (ht : t ∈ ds) (hshadowed : Shadowed ask ds t) :
    ∃ ys out, ys.Perm ds ∧ (simplify ask ys).result = .ok out ∧
      ¬ ∃ d ∈ out, ask.equivalent t d = .ok true := by
  obtain ⟨ys, out, lower, rest, hperm, hout, harranged, hremoved, hlower, hrest⟩ :=
    exists_arrangement_below_first ho t hwritable
  refine ⟨ys, out, hperm, hout, ?_⟩
  obtain ⟨e, he, hte⟩ := harranged.covers t ht
  have hle : ask e t = .ok true := (Question.equivalent_eq_true_iff.1 hte).2
  have heLower : e ∈ lower := (List.mem_append.1 he).resolve_right fun her =>
    ho.answers.eq_false_iff.1 (hrest e her) hle
  obtain ⟨before, after, rfl⟩ := List.append_of_mem heLower
  rw [List.append_assoc, List.cons_append] at harranged hremoved
  rw [harranged.kept_iff ho hremoved hte, not_or, not_not]
  -- all entries before it are below it, so none is unrelated
  refine ⟨hshadowed, fun ⟨u, hu, hut⟩ => ?_⟩
  exact ho.answers.eq_false_iff.1 hut.1 (hlower u (by simp [hu]))

/-- **A candidate is kept where all below an unrelated one comes first.** -/
theorem exists_perm_kept (ho : ask.Joining) (hwritable : ∀ d ∈ ds, d.isWritable)
    {t u : Descriptor α} (ht : t ∈ ds) (hu : u ∈ ds) (hut : Unrelated ask u t) :
    ∃ ys out, ys.Perm ds ∧ (simplify ask ys).result = .ok out ∧
      ∃ d ∈ out, ask.equivalent t d = .ok true := by
  obtain ⟨ys, out, lower, rest, hperm, hout, harranged, hremoved, hlower, hrest⟩ :=
    exists_arrangement_below_first ho u hwritable
  refine ⟨ys, out, hperm, hout, ?_⟩
  obtain ⟨e, he, hte⟩ := harranged.covers t ht
  obtain ⟨r, hr, hur⟩ := harranged.covers u hu
  have heu : ask e u = .ok false := by
    rw [← ho.subtype_congr hte (ho.equivalent_refl u)]
    exact hut.2
  have heRest : e ∈ rest := (List.mem_append.1 he).resolve_left fun hel =>
    ho.answers.eq_false_iff.1 heu (hlower e hel)
  have hrLower : r ∈ lower := (List.mem_append.1 hr).resolve_right fun hrr =>
    ho.answers.eq_false_iff.1 (hrest r hrr) (Question.equivalent_eq_true_iff.1 hur).2
  -- the entry for the unrelated candidate comes before that of the candidate
  have hrt : Unrelated ask r t := ((unrelated_congr ho hur t).1 hut.symm).symm
  obtain ⟨before, after, rfl⟩ := List.append_of_mem heRest
  rw [← List.append_assoc] at harranged hremoved
  exact (harranged.kept_iff ho hremoved hte).2 (.inr ⟨r, List.mem_append_left _ hrLower, hrt⟩)

/-! ## The classes that are kept -/

/-- **The order of the candidates matters only to shadowed candidates** that are unrelated to
some candidate. Over a preorder, if an entry of a simplified list has no equivalent in the
list that another order of the candidates is simplified to, it is such a candidate. Where all
candidates can be written every order of them is simplified, and all orders keep the same classes
exactly if there is none. -/
theorem sameClasses_of_perm_iff {κ π : Type} [BEq α] (o : Oracle α κ π) (ask : Question α)
    (hask : o.Lifts ask) (ho : ask.Preordered) (ds : List (Descriptor α)) :
    (∀ ys, ys.Perm ds → ∀ out out', (simplify ask ds).result = .ok out →
      (simplify ask ys).result = .ok out' →
        (∀ d ∈ out, (∃ e ∈ out', ask.equivalent d e = .ok true) ∨ OrderSensitive ask ds d) ∧
          ∀ e ∈ out', (∃ d ∈ out, ask.equivalent e d = .ok true) ∨ OrderSensitive ask ds e) ∧
    ((∀ d ∈ ds, d.isWritable) →
      (∀ ys, ys.Perm ds → ∃ out, (simplify ask ys).result = .ok out) ∧
      ((∀ ys, ys.Perm ds → ∀ out out', (simplify ask ds).result = .ok out →
        (simplify ask ys).result = .ok out' → SameClasses ask out out') ↔
          ∀ t ∈ ds, ¬ OrderSensitive ask ds t)) := by
  have hj := hask.joining ho
  refine ⟨fun ys hperm out out' hout hout' => ⟨?_, fun e he => ?_⟩, fun hwritable =>
    ⟨fun ys hperm => ho.exists_simplify fun d hd => hwritable d (hperm.subset hd),
      fun hsame t ht hsensitive => ?_, fun hnone ys hperm out out' hout hout' => ?_⟩⟩
  · exact equivalent_or_orderSensitive hj hperm.symm hout hout'
  · exact (equivalent_or_orderSensitive hj hperm hout' hout e he).imp_right fun h =>
      h.perm hj hperm
  · -- one order drops the candidate and another keeps it
    obtain ⟨out, hout⟩ := ho.exists_simplify hwritable
    obtain ⟨u, hu, hut⟩ := hsensitive.unrelated
    obtain ⟨xs, outx, hpermx, hx, hdropped⟩ :=
      exists_perm_dropped hj hwritable ht hsensitive.shadowed
    obtain ⟨ys, outy, hpermy, hy, hkept⟩ := exists_perm_kept hj hwritable ht hu hut
    have hmem := ((hsame ys hpermy out outy hout hy).exists_equivalent_iff hj t).2 hkept
    exact hdropped (((hsame xs hpermx out outx hout hx).exists_equivalent_iff hj t).1 hmem)
  · exact sameClasses_of_not_orderSensitive hj hnone hperm.symm hout hout'

/-- The integers are shadowed by their two kinds, but no candidate is unrelated to them. -/
theorem sameClasses_of_perm_iff_integers :
    (integers.oracle ()).Lifts amongIntegers ∧ amongIntegers.Preordered ∧
    (simplify amongIntegers
        [.atom "Number", .atom "Integer", .atom "Fixnum", .atom "Bignum"]).result
          = .ok [.atom "Fixnum", .atom "Bignum", .atom "Number"] ∧
    (simplify amongIntegers
        [.atom "Integer", .atom "Fixnum", .atom "Bignum", .atom "Number"]).result
          = .ok [.atom "Fixnum", .atom "Bignum", .atom "Number"] ∧
    SameClasses amongIntegers [.atom "Fixnum", .atom "Bignum", .atom "Number"]
      [.atom "Fixnum", .atom "Bignum", .atom "Number"] := by
  refine ⟨integers_lifts, integers_preordered, by rfl, by rfl, ?_⟩
  refine ((sameClasses_of_perm_iff (integers.oracle ()) amongIntegers integers_lifts
    integers_preordered [.atom "Number", .atom "Integer", .atom "Fixnum", .atom "Bignum"]).2
      ?_).2.2 (fun t ht hsensitive => ?_) _ (List.perm_append_singleton
        (Descriptor.atom "Number") [.atom "Integer", .atom "Fixnum", .atom "Bignum"]) _ _
          (by rfl) (by rfl)
  · simp only [List.forall_mem_cons]
    exact ⟨by rfl, by rfl, by rfl, by rfl, nofun⟩
  obtain ⟨hshadowed, u, hu, hut⟩ := hsensitive
  simp only [List.mem_cons, List.not_mem_nil, or_false] at ht hu
  rcases ht with rfl | rfl | rfl | rfl
  · cases hshadowed
  · rcases hu with rfl | rfl | rfl | rfl
    · cases hut.2
    · cases hut.1
    · cases hut.1
    · cases hut.1
  · cases hshadowed
  · cases hshadowed

/-- **The order of the candidates matters**: the integers stay behind a name that is unrelated to
them, and are dropped before it. -/
theorem order_matters_integers :
    (integers.oracle ()).Lifts amongIntegers ∧ amongIntegers.Preordered ∧
    [Descriptor.atom "Fixnum", .atom "Bignum", .atom "Integer", .atom "String"].Perm
      [.atom "String", .atom "Fixnum", .atom "Bignum", .atom "Integer"] ∧
    (simplify amongIntegers
      [.atom "String", .atom "Fixnum", .atom "Bignum", .atom "Integer"]).result
        = .ok [.atom "String", .atom "Fixnum", .atom "Bignum", .atom "Integer"] ∧
    (simplify amongIntegers
      [.atom "Fixnum", .atom "Bignum", .atom "Integer", .atom "String"]).result
        = .ok [.atom "Fixnum", .atom "Bignum", .atom "String"] ∧
    ∀ d ∈ [Descriptor.atom "Fixnum", .atom "Bignum", .atom "String"],
      amongIntegers.equivalent (.atom "Integer") d = .ok false := by
  refine ⟨integers_lifts, integers_preordered, ?_, simplify_string_integers, by rfl, ?_⟩
  · exact List.perm_append_singleton (Descriptor.atom "String")
      [.atom "Fixnum", .atom "Bignum", .atom "Integer"]
  · simp only [List.forall_mem_cons]
    exact ⟨by rfl, by rfl, by rfl, fun d hd => absurd hd List.not_mem_nil⟩

end Narrowing
