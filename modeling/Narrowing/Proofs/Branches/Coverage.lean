import Narrowing.Proofs.Branches.Preorder
/-!
# What a resolved branch list guarantees

A simplified list is completed in one of three ways (`Completed`): an entry outside of the
overall type is reported, a list that exhausts the overall type is left as it is, and to any
other list the overall type is added at the end, which is noted down.

Over a preorder the check of the simplified list says the same as a check of all candidates
would (`Joining.forall_subtype_simplify_iff`): the union of the candidates is kept, so
none of them leaves the overall type without an entry that does too. Hence a candidate
outside is reported, also where it is not among the entries itself, unless what is to be shown
cannot be written (`outside_iff_of_resolveBranches`).

A list that has been completed is settled, as a simplified one is (`Settled.concat`): the
overall type is equivalent to no entry and to no union of entries, or else the list would
have been exhaustive without it. So completing it once more changes nothing
(`exact_of_resolveBranches`).
-/

namespace Narrowing

open NominalTypes (amongIntegers integers integers_lifts integers_preordered)

variable {α : Type} [Named α] {ask : Question α} {overall : Descriptor α}
  {ds out : List (Descriptor α)}

/-! ## The three ways to complete a list -/

theorem exists_outside_of_requireInside (ho : ask.Answering) {f : Fault α}
    (h : requireInside ask overall ds = .error f) :
    ∃ d ∈ ds, ask d overall = .ok false ∧ f = (Fault.outside d overall).reported := by
  induction ds with
  | nil => cases h
  | cons d ds ih =>
    rw [requireInside] at h
    split at h
    · next hd =>
      obtain ⟨r, hr⟩ := ho d overall
      rw [hr] at hd
      cases hd
    · next hd => exact ⟨d, List.mem_cons_self, hd, (Except.error.inj h).symm⟩
    · obtain ⟨e, he, hfalse, hf⟩ := ih h
      exact ⟨e, List.mem_cons_of_mem d he, hfalse, hf⟩

/-- **How a branch list is completed** for an overall type. -/
inductive Completed (ask : Question α) (overall : Descriptor α) (ds : List (Descriptor α)) :
    Except (Fault α) (List (Descriptor α)) → Prop where
  /-- An entry outside of the overall type is reported. -/
  | outside {d : Descriptor α} (hd : d ∈ ds) (h : ask d overall = .ok false) :
    Completed ask overall ds (.error (Fault.outside d overall).reported)
  /-- A list that exhausts the overall type is left alone. -/
  | exhaustive (hinside : ∀ d ∈ ds, ask d overall = .ok true)
    (h : ask.equivalent overall (.join ds) = .ok true) : Completed ask overall ds (.ok ds)
  /-- The overall type is added at the end of any other list, if it can be written. -/
  | appended (hinside : ∀ d ∈ ds, ask d overall = .ok true)
    (h : ask.equivalent overall (.join ds) = .ok false) (hwritable : overall.isWritable) :
    Completed ask overall ds (.ok (ds ++ [overall]))
  /-- That it is added could not be noted. -/
  | unwritable (hinside : ∀ d ∈ ds, ask d overall = .ok true)
    (h : ask.equivalent overall (.join ds) = .ok false) (hwritable : ¬ overall.isWritable) :
    Completed ask overall ds (.error .unwritable)

/-- **A list is completed in one of these ways**, if every question has an answer. -/
theorem completed_ensureExhaustive (ho : ask.Answering) (overall : Descriptor α)
    (ds : List (Descriptor α)) : Completed ask overall ds (ensureExhaustive ask overall ds).result := by
  unfold ensureExhaustive isExhaustive
  rw [Logged.result_bind, Logged.result_ofExcept]
  cases hinside : requireInside ask overall ds with
  | error f =>
    obtain ⟨d, hd, hfalse, rfl⟩ := exists_outside_of_requireInside ho hinside
    exact .outside hd hfalse
  | ok _ =>
    have hforall := subtype_of_requireInside hinside
    obtain ⟨covers, hcovers⟩ := ho.equivalent overall (.join ds)
    show Completed ask overall ds ((ask.equivalent overall (.join ds)) >>= _)
    rw [hcovers]
    cases covers with
    | true => exact .exhaustive hforall hcovers
    | false =>
      show Completed ask overall ds
        (Analysis.note (.appended overall) >>= fun _ => pure (ds ++ [overall])).result
      by_cases hwritable : overall.isWritable
      · rw [note_of_isWritable (Note.isWritable_appended_iff.2 hwritable)]
        exact .appended hforall hcovers hwritable
      · rw [Analysis.note, if_neg (mt Note.isWritable_appended_iff.1 hwritable)]
        exact .unwritable hforall hcovers hwritable

/-- Resolving completes the simplified list. -/
theorem completed_resolveBranches (ho : ask.Answering) {wellKnown extras : List (Descriptor α)}
    (h : (simplify ask (wellKnown ++ extras)).result = .ok ds) :
    Completed ask overall ds (resolveBranches ask overall wellKnown extras).result := by
  unfold resolveBranches
  rw [Logged.result_bind, h]
  exact completed_ensureExhaustive ho overall ds

/-- What a list is completed to: nothing is added but the overall type, at the end. -/
theorem Completed.eq_or_eq_concat (h : Completed ask overall ds (.ok out)) :
    out = ds ∨ out = ds ++ [overall] := by
  cases h with
  | exhaustive => exact .inl rfl
  | appended => exact .inr rfl

/-- So a list whose entries can be written is completed to one like that. -/
theorem Completed.isWritable (h : Completed ask overall ds (.ok out))
    (hds : ∀ d ∈ ds, d.isWritable) : ∀ d ∈ out, d.isWritable := by
  cases h with
  | exhaustive => exact hds
  | appended _ _ hwritable =>
    exact List.forall_mem_append.2 ⟨hds, List.forall_mem_singleton.2 hwritable⟩

namespace Question.Joining

variable (ho : ask.Joining)
include ho

/-! ## Candidates outside -/

/-- The union of the candidates is kept. -/
theorem equivalent_join_of_simplify (h : (simplify ask ds).result = .ok out) :
    ask.equivalent (.join out) (.join ds) = .ok true := by
  obtain ⟨hmem, -⟩ := specific_of_simplify h
  exact ho.equivalent_join_of_madeUpOf hmem (ho.madeUpOf_of_simplify h)

/-- **The simplified list is inside of a type exactly if all candidates are.** -/
theorem forall_subtype_simplify_iff (h : (simplify ask ds).result = .ok out) :
    (∀ d ∈ out, ask d overall = .ok true) ↔
      ∀ c ∈ ds, ask c overall = .ok true := by
  obtain ⟨hle, hge⟩ := Question.equivalent_eq_true_iff.1 (ho.equivalent_join_of_simplify h)
  rw [← ho.join_le_iff, ← ho.join_le_iff]
  exact ⟨ho.trans hge, ho.trans hle⟩

/-- **How resolving ends.** -/
theorem resolveBranches_ends (overall : Descriptor α) (wellKnown extras : List (Descriptor α)) :
    (∃ distinct, deduplicate ask (wellKnown ++ extras) = .ok distinct ∧
      (∃ d ∈ distinct, ¬ d.isWritable) ∧
      (resolveBranches ask overall wellKnown extras).result = .error .unwritable) ∨
    (∃ d ∈ wellKnown ++ extras, ask d overall = .ok false ∧
      (resolveBranches ask overall wellKnown extras).result
        = .error (Fault.outside d overall).reported) ∨
    ((∀ c ∈ wellKnown ++ extras, ask c overall = .ok true) ∧
      ((∃ out, (resolveBranches ask overall wellKnown extras).result = .ok out) ∨
        ¬ overall.isWritable ∧
          (resolveBranches ask overall wellKnown extras).result = .error .unwritable)) := by
  obtain ⟨distinct, hdistinct, hends⟩ := ho.simplify_ends (wellKnown ++ extras)
  rcases hends with ⟨hnot, hfault⟩ | ⟨-, ds, hds⟩
  · refine .inl ⟨distinct, hdistinct, hnot, ?_⟩
    rw [resolveBranches, Logged.result_bind, hfault]
    rfl
  · have hcompleted : Completed ask overall ds (resolveBranches ask overall wellKnown extras).result :=
      completed_resolveBranches ho.answers hds
    have hinside : (∀ d ∈ ds, ask d overall = .ok true) ↔
        ∀ c ∈ wellKnown ++ extras, ask c overall = .ok true :=
      ho.forall_subtype_simplify_iff hds
    generalize (resolveBranches ask overall wellKnown extras).result = r at hcompleted ⊢
    cases hcompleted with
    | outside hd h => exact .inr (.inl ⟨_, (specific_of_simplify hds).1 _ hd, h, rfl⟩)
    | exhaustive h => exact .inr (.inr ⟨hinside.1 h, .inl ⟨_, rfl⟩⟩)
    | appended h => exact .inr (.inr ⟨hinside.1 h, .inl ⟨_, rfl⟩⟩)
    | unwritable h _ hnot => exact .inr (.inr ⟨hinside.1 h, .inr ⟨hnot, rfl⟩⟩)

end Question.Joining

/-- What is outside is reported as such if both can be shown. -/
theorem Fault.reported_outside {candidate : Descriptor α} (hc : candidate.isWritable)
    (ho : overall.isWritable) :
    (Fault.outside candidate overall).reported = .outside candidate overall := by
  simp [reported, shown, hc, ho]

/-- **A candidate outside of the overall type is reported.** Over a preorder, resolving reports an
entry as outside exactly if some candidate is – whether or not that one is left in the simplified
list – and what it reports is a candidate outside, where the overall type and all candidates can be
written. In general it is one of three things that happens: something left after deduplication
cannot be written, and that is the fault; or some candidate is outside, and such a one is reported
or that it cannot be shown together with the overall type; or none is, and the only thing to fail
is the note that the overall type was added. -/
theorem outside_iff_of_resolveBranches {κ π : Type} [BEq α] (o : Oracle α κ π) (ask : Question α)
    (hask : o.Lifts ask) (ho : ask.Preordered) (overall : Descriptor α)
    (wellKnown extras : List (Descriptor α)) :
    ((∀ d ∈ overall :: (wellKnown ++ extras), d.isWritable) →
      ((∃ d, (resolveBranches ask overall wellKnown extras).result = .error (.outside d overall)) ↔
        ∃ c ∈ wellKnown ++ extras, ask c overall = .ok false) ∧
      ∀ f, (resolveBranches ask overall wellKnown extras).result = .error f →
        ∃ d ∈ wellKnown ++ extras, f = .outside d overall ∧ ask d overall = .ok false) ∧
    ((∃ distinct, deduplicate ask (wellKnown ++ extras) = .ok distinct ∧
        (∃ d ∈ distinct, ¬ d.isWritable) ∧
        (resolveBranches ask overall wellKnown extras).result = .error .unwritable) ∨
      ((∃ d ∈ wellKnown ++ extras, ask d overall = .ok false ∧
        (resolveBranches ask overall wellKnown extras).result
          = .error (Fault.outside d overall).reported)) ∨
      ((∀ c ∈ wellKnown ++ extras, ask c overall = .ok true) ∧
        ((∃ out, (resolveBranches ask overall wellKnown extras).result = .ok out) ∨
          ¬ overall.isWritable ∧
            (resolveBranches ask overall wellKnown extras).result = .error .unwritable))) := by
  have hends := (hask.joining ho).resolveBranches_ends overall wellKnown extras
  refine ⟨fun hwritable => ?_, hends⟩
  rw [List.forall_mem_cons] at hwritable
  rcases hends with ⟨distinct, hdistinct, ⟨d, hd, hnot⟩, -⟩ | ⟨d, hd, hfalse, hresult⟩ |
      ⟨hinside, ⟨out, hresult⟩ | ⟨hnot, -⟩⟩
  · exact absurd (hwritable.2 d ((sublist_of_deduplicate hdistinct).subset hd)) hnot
  · rw [Fault.reported_outside (hwritable.2 d hd) hwritable.1] at hresult
    rw [hresult]
    refine ⟨iff_of_true ⟨d, rfl⟩ ⟨d, hd, hfalse⟩, ?_⟩
    rintro f ⟨⟩
    exact ⟨d, hd, rfl, hfalse⟩
  · rw [hresult]
    refine ⟨iff_of_false nofun ?_, nofun⟩
    rintro ⟨c, hc, hfalse⟩
    exact ho.answers.eq_false_iff.1 hfalse (hinside c hc)
  · exact absurd hwritable.1 hnot

/-- The union with a name that is no integer is reported by way of that name: the union
itself is shadowed before the check. -/
theorem outside_iff_of_resolveBranches_integers :
    (integers.oracle ()).Lifts amongIntegers ∧ amongIntegers.Preordered ∧
    (simplify amongIntegers [.atom "Fixnum", .union [.atom "Fixnum", .atom "String"],
      .atom "String"]).result = .ok [.atom "Fixnum", .atom "String"] ∧
    ∃ d, (resolveBranches amongIntegers (.atom "Integer") [.atom "Fixnum"]
      [.union [.atom "Fixnum", .atom "String"], .atom "String"]).result
        = .error (.outside d (.atom "Integer")) := by
  refine ⟨integers_lifts, integers_preordered, by rfl, ?_⟩
  refine ((outside_iff_of_resolveBranches (integers.oracle ()) amongIntegers integers_lifts
    integers_preordered (.atom "Integer") [.atom "Fixnum"]
    [.union [.atom "Fixnum", .atom "String"], .atom "String"]).1 ?_).1.2
      ⟨.union [.atom "Fixnum", .atom "String"], by simp, by rfl⟩
  simp only [List.cons_append, List.nil_append, List.forall_mem_cons]
  exact ⟨by rfl, by rfl, by rfl, by rfl, nofun⟩

/-! ## Lists that are complete -/

omit [Named α] in
/-- **The overall type fits at the end of a settled list** that lies inside of it and does
not exhaust it. -/
theorem Settled.concat (ho : ask.Joining) (h : Settled ask ds)
    (hinside : ∀ d ∈ ds, ask d overall = .ok true)
    (hopen : ask.equivalent overall (.join ds) = .ok false) : Settled ask (ds ++ [overall]) := by
  -- each way to fail puts the overall type below the union of the list
  have hnot : ask overall (.join ds) ≠ .ok true := fun hle =>
    ho.answers.equivalent_eq_false_iff.1 hopen
      (Question.equivalent_eq_true_iff.2 ⟨hle, ho.join_le_iff.2 hinside⟩)
  constructor
  case apart =>
    refine List.pairwise_append.2 ⟨h.apart, List.pairwise_singleton _ _, fun d hd e he => ?_⟩
    obtain rfl := List.mem_singleton.1 he
    have hde : ask.equivalent d e = .ok false := by
      refine ho.answers.equivalent_eq_false_iff.2 fun hde => hnot ?_
      exact ho.trans (Question.equivalent_eq_true_iff.1 hde).2 (ho.le_join hd)
    exact ⟨hde, ho.answers.equivalent_comm d e ▸ hde⟩
  case ordered =>
    refine List.pairwise_append.2 ⟨h.ordered, List.pairwise_singleton _ _, fun d hd e he => ?_⟩
    obtain rfl := List.mem_singleton.1 he
    exact ho.answers.proper_eq_false_iff.2 (not_proper_of_subtype (hinside d hd))
  case unshadowed =>
    refine h.unshadowed.concat (ho.answers.equivalent_eq_false_iff.2 fun heq => hnot ?_)
    refine ho.trans (Question.equivalent_eq_true_iff.1 heq).1 ?_
    exact ho.accumulated_le_iff.2 fun d hd => ho.le_join hd

/-- What a settled list is completed to is settled, inside of the overall type, and exhausts
it. -/
theorem Completed.exact (ho : ask.Joining) (hds : Settled ask ds)
    (h : Completed ask overall ds (.ok out)) :
    Settled ask out ∧ (∀ d ∈ out, ask d overall = .ok true) ∧
      ask.equivalent overall (.join out) = .ok true := by
  cases h with
  | exhaustive hinside h => exact ⟨hds, hinside, h⟩
  | appended hinside h =>
    have hall : ∀ d ∈ ds ++ [overall], ask d overall = .ok true :=
      List.forall_mem_append.2 ⟨hinside, List.forall_mem_singleton.2 (ho.refl overall)⟩
    refine ⟨hds.concat ho hinside h, hall, Question.equivalent_eq_true_iff.2 ⟨?_, ?_⟩⟩
    · exact ho.le_join (List.mem_append_right ds (List.mem_singleton_self overall))
    · exact ho.join_le_iff.2 hall

/-- **Resolving leaves a complete settled list alone.** -/
theorem Settled.resolveBranches_eq (ho : ask.Answering) (h : Settled ask ds)
    (hwritable : ∀ d ∈ ds, d.isWritable) (hinside : ∀ d ∈ ds, ask d overall = .ok true)
    (hequal : ask.equivalent overall (.join ds) = .ok true) :
    (resolveBranches ask overall ds []).result = .ok ds := by
  have hsimplified : (simplify ask (ds ++ [])).result = .ok ds := by
    rw [List.append_nil]
    exact h.simplify_eq hwritable
  have hcompleted : Completed ask overall ds (resolveBranches ask overall ds []).result :=
    completed_resolveBranches ho hsimplified
  generalize (resolveBranches ask overall ds []).result = r at hcompleted
  cases hcompleted with
  | outside hd hfalse => exact absurd (hinside _ hd) (ho.eq_false_iff.1 hfalse)
  | exhaustive => rfl
  | appended _ hopen => exact absurd hequal (ho.equivalent_eq_false_iff.1 hopen)
  | unwritable _ hopen => exact absurd hequal (ho.equivalent_eq_false_iff.1 hopen)

/-- **What a resolved branch list guarantees.** Over a preorder, the union of a resolved list
is equivalent to the overall type, and every entry is a subtype of that. No two entries are
equivalent, no later one is a proper subtype of an earlier one, and an entry that is no
candidate is the overall type in the last place. Resolving the list once more gives the same
list. -/
theorem exact_of_resolveBranches {κ π : Type} [BEq α] (o : Oracle α κ π) (ask : Question α)
    (hask : o.Lifts ask) (ho : ask.Preordered) (overall : Descriptor α)
    (wellKnown extras branches : List (Descriptor α))
    (h : (resolveBranches ask overall wellKnown extras).result = .ok branches) :
    ask.equivalent (.join branches) overall = .ok true ∧
    (∀ d ∈ branches, ask d overall = .ok true) ∧
    (branches.Pairwise fun a b =>
      ask.equivalent a b = .ok false ∧ ask.equivalent b a = .ok false) ∧
    (branches.Pairwise fun earlier later => ask.proper later earlier = .ok false) ∧
    (∀ before d after, branches = before ++ d :: after → d ∉ wellKnown ++ extras →
      d = overall ∧ after = []) ∧
    (resolveBranches ask overall branches []).result = .ok branches := by
  obtain ⟨ds, hds, -⟩ := exists_simplify_of_resolveBranches h
  obtain ⟨hmem, -⟩ := specific_of_simplify hds
  have hcompleted : Completed ask overall ds (.ok branches) :=
    h ▸ completed_resolveBranches ho.answers hds
  obtain ⟨hsettled, hinside, hequal⟩ :=
    hcompleted.exact (hask.joining ho) (settled_of_simplify ho.answers hds)
  refine ⟨ho.answers.equivalent_comm overall _ ▸ hequal, hinside, hsettled.apart,
    hsettled.ordered, fun before d after hsplit hd => ?_,
    hsettled.resolveBranches_eq ho.answers (hcompleted.isWritable (isWritable_of_simplify hds))
      hinside hequal⟩
  subst hsplit
  -- an entry before the last one, and any entry of an exhaustive list, is a candidate
  rcases hcompleted.eq_or_eq_concat with heq | heq
  · exact absurd (hmem d (heq ▸ by simp)) hd
  · rcases split_of_concat_eq heq.symm with ⟨-, hlast, hafter⟩ | ⟨rest, rfl⟩
    · exact ⟨hlast, hafter⟩
    · exact absurd (hmem d (by simp)) hd

/-- The two kinds of integers shadow the integers, and the numbers are put last. -/
theorem exact_of_resolveBranches_integers :
    (integers.oracle ()).Lifts amongIntegers ∧ amongIntegers.Preordered ∧
    (resolveBranches amongIntegers (.atom "Number") [.atom "Integer"]
      [.atom "Bignum", .atom "Fixnum"]).result
        = .ok [.atom "Bignum", .atom "Fixnum", .atom "Number"] ∧
    amongIntegers.equivalent
      (.join [.atom "Bignum", .atom "Fixnum", .atom "Number"]) (.atom "Number") = .ok true ∧
    (resolveBranches amongIntegers (.atom "Number")
      [.atom "Bignum", .atom "Fixnum", .atom "Number"] []).result
        = .ok [.atom "Bignum", .atom "Fixnum", .atom "Number"] := by
  have hresolved : (resolveBranches amongIntegers (.atom "Number") [.atom "Integer"]
      [.atom "Bignum", .atom "Fixnum"]).result
        = .ok [.atom "Bignum", .atom "Fixnum", .atom "Number"] := by rfl
  obtain ⟨hunion, -, -, -, -, hagain⟩ := exact_of_resolveBranches (integers.oracle ())
    amongIntegers integers_lifts integers_preordered (.atom "Number") [.atom "Integer"]
    [.atom "Bignum", .atom "Fixnum"] _ hresolved
  exact ⟨integers_lifts, integers_preordered, hresolved, hunion, hagain⟩

end Narrowing
