import Narrowing.Branches.Coverage
import Narrowing.Proofs.Oracle.Join
import Mathlib.Data.List.Perm.Basic
/-!
# What the passes over branch lists keep

Each pass that succeeds gives a list that is made of the one before it: removing
equivalent entries and shadowed ones leaves a sublist, and sorting a permutation. The
order that the sort verifies – no later entry is a proper subtype of an earlier one –
is a property of pairs, so it survives whatever is left out after it. Together with
the repair of coverage this gives what a resolved branch list is (`Resolved`).

Nothing is assumed of the oracle here.
-/

namespace Narrowing

/-- What follows a success succeeded on its value. -/
theorem exists_of_bind_eq_ok {ε β γ : Type} {x : Except ε β} {f : β → Except ε γ} {c : γ}
    (h : x >>= f = .ok c) : ∃ b, x = .ok b ∧ f b = .ok c := by
  cases x with
  | error e => cases h
  | ok b => exact ⟨b, rfl, h⟩

variable {α : Type} [Named α] {ask : Question α}

/-! ## Notes -/

/-- A note that is made could be written. -/
theorem isWritable_of_note {n : Note α} {u : Unit} (h : (Analysis.note n).result = .ok u) :
    n.isWritable := by
  unfold Analysis.note at h
  split at h
  · assumption
  · cases h

/-- A note that can be written is made. -/
theorem note_of_isWritable {n : Note α} (h : n.isWritable) : Analysis.note n = Logged.note n :=
  if_pos h

namespace Note

theorem isWritable_dropped_iff {entry covered : Descriptor α} :
    (dropped entry covered).isWritable ↔ entry.isWritable ∧ covered.isWritable := by
  rw [isWritable, text?, Descriptor.isWritable, Descriptor.isWritable, Descriptor.name?,
    Descriptor.name?]
  cases entry.text? Named.name? with
  | none => simp
  | some name => cases covered.text? Named.name? <;> simp

theorem isWritable_simplified_iff {candidates : Nat} {kept : List (Descriptor α)} :
    (simplified candidates kept).isWritable ↔ ∀ k ∈ kept, k.isWritable := by
  rw [← Descriptor.texts?_isSome_iff, isWritable, text?]
  cases Descriptor.texts? Named.name? kept <;> simp

theorem isWritable_appended_iff {overall : Descriptor α} :
    (appended overall).isWritable ↔ overall.isWritable := by
  rw [isWritable, text?, Descriptor.isWritable, Descriptor.name?]
  cases overall.text? Named.name? <;> simp

end Note

/-! ## Equivalence classes and shadows -/

omit [Named α] in
theorem sublist_of_deduplicateFrom {kept ds out : List (Descriptor α)}
    (h : deduplicateFrom ask kept ds = .ok out) : out.Sublist (kept ++ ds) := by
  induction ds generalizing kept with
  | nil =>
    obtain rfl := Except.ok.inj h
    rw [List.append_nil]
  | cons d ds ih =>
    rw [deduplicateFrom] at h
    split at h
    · cases h
    · exact (ih h).trans ((List.sublist_cons_self d ds).append_left kept)
    · have := ih h
      rwa [List.append_assoc, List.singleton_append] at this

omit [Named α] in
/-- Removing equivalent entries leaves a sublist. -/
theorem sublist_of_deduplicate {ds out : List (Descriptor α)}
    (h : deduplicate ask ds = .ok out) : out.Sublist ds :=
  sublist_of_deduplicateFrom h

/-- What the pass over shadowed entries does with one: it notes it down and goes on without it, or
it keeps it. -/
theorem removeShadowedFrom_cases {kept ds out : List (Descriptor α)} {covered d : Descriptor α}
    (h : (removeShadowedFrom ask kept covered (d :: ds)).result = .ok out) :
    (ask.equivalent d covered = .ok true ∧ (Note.dropped d covered).isWritable ∧
      (removeShadowedFrom ask kept covered ds).result = .ok out) ∨
    (ask.equivalent d covered = .ok false ∧
      (removeShadowedFrom ask (kept ++ [d]) (.join [covered, d]) ds).result = .ok out) := by
  rw [removeShadowedFrom, Logged.result_bind, Logged.result_ofExcept] at h
  obtain ⟨b, hb, h⟩ := exists_of_bind_eq_ok h
  cases b with
  | true =>
    rw [if_pos rfl, Logged.result_bind] at h
    obtain ⟨_, hnote, h⟩ := exists_of_bind_eq_ok h
    exact .inl ⟨hb, isWritable_of_note hnote, h⟩
  | false => exact .inr ⟨hb, h⟩

theorem removeShadowedFrom_of_shadowed {kept ds out : List (Descriptor α)}
    {covered d : Descriptor α} (hd : ask.equivalent d covered = .ok true)
    (hnote : (Note.dropped d covered).isWritable)
    (h : (removeShadowedFrom ask kept covered ds).result = .ok out) :
    (removeShadowedFrom ask kept covered (d :: ds)).result = .ok out := by
  rw [removeShadowedFrom, Logged.result_bind, Logged.result_ofExcept, hd]
  show (Analysis.note _ >>= fun _ => removeShadowedFrom ask kept covered ds).result = _
  rwa [note_of_isWritable hnote]

theorem removeShadowedFrom_of_kept {kept ds out : List (Descriptor α)} {covered d : Descriptor α}
    (hd : ask.equivalent d covered = .ok false)
    (h : (removeShadowedFrom ask (kept ++ [d]) (.join [covered, d]) ds).result = .ok out) :
    (removeShadowedFrom ask kept covered (d :: ds)).result = .ok out := by
  rw [removeShadowedFrom, Logged.result_bind, Logged.result_ofExcept, hd]
  exact h

theorem sublist_of_removeShadowedFrom {kept ds out : List (Descriptor α)}
    {covered : Descriptor α} (h : (removeShadowedFrom ask kept covered ds).result = .ok out) :
    out.Sublist (kept ++ ds) := by
  induction ds generalizing kept covered with
  | nil =>
    obtain rfl := Except.ok.inj h
    rw [List.append_nil]
  | cons d ds ih =>
    rcases removeShadowedFrom_cases h with ⟨-, -, h⟩ | ⟨-, h⟩
    · exact (ih h).trans ((List.sublist_cons_self d ds).append_left kept)
    · have := ih h
      rwa [List.append_assoc, List.singleton_append] at this

/-- Removing shadowed entries leaves a sublist. -/
theorem sublist_of_removeShadowed {ds out : List (Descriptor α)}
    (h : (removeShadowed ask ds).result = .ok out) : out.Sublist ds :=
  sublist_of_removeShadowedFrom h

/-! ## The sort -/

omit [Named α] in
theorem perm_of_takeMostSpecific {earlier ds rest : List (Descriptor α)} {d : Descriptor α}
    (h : takeMostSpecific ask earlier ds = .ok (some (d, rest))) :
    (d :: rest).Perm (earlier ++ ds) := by
  induction ds generalizing earlier with
  | nil => cases h
  | cons e ds ih =>
    rw [takeMostSpecific] at h
    split at h
    · cases h
    · have := ih h
      rwa [List.append_assoc, List.singleton_append] at this
    · obtain ⟨rfl, rfl⟩ := Prod.mk.inj (Option.some.inj (Except.ok.inj h))
      exact List.perm_middle.symm

theorem perm_of_sortSteps {n : Nat} {ds out : List (Descriptor α)} (hn : n = ds.length)
    (h : sortSteps ask n ds = .ok out) : out.Perm ds := by
  induction n generalizing ds out with
  | zero =>
    obtain rfl := Except.ok.inj h
    rw [List.length_eq_zero_iff.1 hn.symm]
  | succ n ih =>
    obtain _ | ⟨e, es⟩ := ds
    · cases hn
    simp only [sortSteps] at h
    split at h
    · cases h
    · cases h
    · next d rest hd =>
      have htaken := perm_of_takeMostSpecific hd
      rw [List.nil_append] at htaken
      have hlen := htaken.length_eq
      rw [List.length_cons, ← hn, Nat.succ_inj] at hlen
      cases hs : sortSteps ask n rest with
      | error e => rw [hs] at h; cases h
      | ok sorted =>
        rw [hs] at h
        obtain rfl := Except.ok.inj h
        exact ((ih hlen.symm hs).cons d).trans htaken

/-- **No later entry is a proper subtype of an earlier one**, as far as there is an
answer. -/
def Specific (ask : Question α) (ds : List (Descriptor α)) : Prop :=
  ds.Pairwise fun earlier later => ask.proper later earlier ≠ .ok true

omit [Named α] in
/-- What has something below it is no proper subtype of that. -/
theorem not_proper_of_subtype {a b : Descriptor α} (h : ask a b = .ok true) :
    ask.proper b a ≠ .ok true := by
  intro hba
  rw [(Question.proper_eq_true_iff.1 hba).2] at h
  cases h

omit [Named α] in
/-- Nothing is a proper subtype of itself. -/
theorem not_proper_self (d : Descriptor α) : ask.proper d d ≠ .ok true :=
  fun h => not_proper_of_subtype (Question.proper_eq_true_iff.1 h).1 h

omit [Named α] in
/-- In a specific list nothing after an entry, and not the entry itself, is a proper
subtype of it. -/
theorem Specific.mem_before {before after : List (Descriptor α)} {t s : Descriptor α}
    (h : Specific ask (before ++ t :: after)) (hs : s ∈ before ++ t :: after)
    (hst : ask.proper s t = .ok true) : s ∈ before := by
  rcases List.mem_append.1 hs with hs | hs
  · exact hs
  · rcases List.mem_cons.1 hs with rfl | hs
    · exact absurd hst (not_proper_self s)
    · have hafter := (List.pairwise_cons.1 (List.pairwise_append.1 h).2.1).1
      exact absurd hst (hafter s hs)

theorem not_proper_of_verifyAgainst {earlier : Descriptor α} {ds : List (Descriptor α)}
    (h : verifyOrder.verifyAgainst ask earlier ds = .ok ()) :
    ∀ later ∈ ds, ask.proper later earlier ≠ .ok true := by
  induction ds with
  | nil => exact fun d hd => absurd hd List.not_mem_nil
  | cons d ds ih =>
    rw [verifyOrder.verifyAgainst] at h
    split at h
    · cases h
    · cases h
    · next hd =>
      refine List.forall_mem_cons.2 ⟨?_, ih h⟩
      rw [hd]
      simp

theorem specific_of_verifyOrder {ds : List (Descriptor α)} (h : verifyOrder ask ds = .ok ()) :
    Specific ask ds := by
  induction ds with
  | nil => exact List.Pairwise.nil
  | cons d ds ih =>
    obtain ⟨_, hd, h⟩ := exists_of_bind_eq_ok h
    exact List.pairwise_cons.2 ⟨not_proper_of_verifyAgainst hd, ih h⟩

/-- **Sorting gives a permutation with the most specific entries first.** -/
theorem specific_of_specificitySort {ds out : List (Descriptor α)}
    (h : specificitySort ask ds = .ok out) : out.Perm ds ∧ Specific ask out := by
  obtain ⟨sorted, hs, h⟩ := exists_of_bind_eq_ok h
  obtain ⟨_, hv, h⟩ := exists_of_bind_eq_ok h
  obtain rfl := Except.ok.inj h
  exact ⟨perm_of_sortSteps rfl hs, specific_of_verifyOrder hv⟩

/-- The passes of a simplification that succeeds, and the note at its end. -/
theorem exists_passes_of_simplify {ds out : List (Descriptor α)}
    (h : (simplify ask ds).result = .ok out) :
    ∃ distinct ordered, deduplicate ask ds = .ok distinct ∧
      specificitySort ask distinct = .ok ordered ∧ (removeShadowed ask ordered).result = .ok out ∧
      (Note.simplified ds.length out).isWritable := by
  simp only [simplify, Logged.result_bind, Logged.result_ofExcept, Logged.result_pure] at h
  obtain ⟨distinct, hdistinct, h⟩ := exists_of_bind_eq_ok h
  obtain ⟨ordered, hordered, h⟩ := exists_of_bind_eq_ok h
  obtain ⟨kept, hkept, h⟩ := exists_of_bind_eq_ok h
  obtain ⟨_, hnote, h⟩ := exists_of_bind_eq_ok h
  obtain rfl := Except.ok.inj h
  exact ⟨distinct, ordered, hdistinct, hordered, hkept, isWritable_of_note hnote⟩

/-- **Simplifying gives entries of the list, the most specific first.** -/
theorem specific_of_simplify {ds out : List (Descriptor α)}
    (h : (simplify ask ds).result = .ok out) : (∀ d ∈ out, d ∈ ds) ∧ Specific ask out := by
  obtain ⟨distinct, ordered, hdistinct, hordered, hkept, -⟩ := exists_passes_of_simplify h
  obtain ⟨hperm, hspecific⟩ := specific_of_specificitySort hordered
  have hsub := sublist_of_removeShadowed hkept
  refine ⟨fun d hd => ?_, hspecific.sublist hsub⟩
  exact (sublist_of_deduplicate hdistinct).subset (hperm.subset (hsub.subset hd))

/-! ## Coverage -/

theorem subtype_of_requireInside {overall : Descriptor α} {ds : List (Descriptor α)}
    (h : requireInside ask overall ds = .ok ()) :
    ∀ d ∈ ds, ask d overall = .ok true := by
  induction ds with
  | nil => exact fun d hd => absurd hd List.not_mem_nil
  | cons d ds ih =>
    rw [requireInside] at h
    split at h
    · cases h
    · cases h
    · next hd => exact List.forall_mem_cons.2 ⟨hd, ih h⟩

/-- **A resolved branch list**: its entries are the overall type and candidates, no
later one is a proper subtype of an earlier one, and it covers the overall type – by
its union as the oracle sees it, or by holding the overall type itself. -/
structure Resolved (ask : Question α) (overall : Descriptor α)
    (candidates branches : List (Descriptor α)) : Prop where
  mem : ∀ d ∈ branches, d ∈ overall :: candidates
  specific : Specific ask branches
  covering : ask overall (.join branches) = .ok true ∨ overall ∈ branches

theorem resolved_of_ensureExhaustive {overall : Descriptor α}
    {candidates branches out : List (Descriptor α)} (hmem : ∀ d ∈ branches, d ∈ candidates)
    (hspecific : Specific ask branches)
    (h : (ensureExhaustive ask overall branches).result = .ok out) :
    Resolved ask overall candidates out := by
  unfold ensureExhaustive at h
  rw [Logged.result_bind, Logged.result_ofExcept] at h
  obtain ⟨covers, hcovers, h⟩ := exists_of_bind_eq_ok h
  obtain ⟨_, hinside, hcovers⟩ := exists_of_bind_eq_ok hcovers
  cases covers with
  | true =>
    obtain rfl := Except.ok.inj h
    exact ⟨fun d hd => List.mem_cons_of_mem _ (hmem d hd), hspecific,
      .inl (Question.equivalent_eq_true_iff.1 hcovers).1⟩
  | false =>
    rw [if_neg Bool.false_ne_true, Logged.result_bind] at h
    obtain ⟨_, -, h⟩ := exists_of_bind_eq_ok h
    obtain rfl := Except.ok.inj h
    refine ⟨fun d hd => ?_, ?_, .inr (by simp)⟩
    · rcases List.mem_append.1 hd with hd | hd
      · exact List.mem_cons_of_mem _ (hmem d hd)
      · exact List.mem_singleton.1 hd ▸ List.mem_cons_self
    · refine List.pairwise_append.2 ⟨hspecific, List.pairwise_singleton _ _, fun d hd e he => ?_⟩
      obtain rfl := List.mem_singleton.1 he
      exact not_proper_of_subtype (subtype_of_requireInside hinside d hd)

/-- What is resolved is a simplified list that is made exhaustive. -/
theorem exists_simplify_of_resolveBranches {overall : Descriptor α}
    {wellKnown extras out : List (Descriptor α)}
    (h : (resolveBranches ask overall wellKnown extras).result = .ok out) :
    ∃ branches, (simplify ask (wellKnown ++ extras)).result = .ok branches ∧
      (ensureExhaustive ask overall branches).result = .ok out := by
  unfold resolveBranches at h
  rw [Logged.result_bind] at h
  exact exists_of_bind_eq_ok h

/-- **What is resolved is a resolved branch list.** -/
theorem resolved_of_resolveBranches {overall : Descriptor α}
    {wellKnown extras out : List (Descriptor α)}
    (h : (resolveBranches ask overall wellKnown extras).result = .ok out) :
    Resolved ask overall (wellKnown ++ extras) out := by
  obtain ⟨branches, hbranches, h⟩ := exists_simplify_of_resolveBranches h
  obtain ⟨hmem, hspecific⟩ := specific_of_simplify hbranches
  exact resolved_of_ensureExhaustive hmem hspecific h

end Narrowing
