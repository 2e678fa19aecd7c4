import Mathlib.Data.List.Find
import Mathlib.Data.List.TakeDrop
import Narrowing.Code.Token
/-!
# What is read within a line

Names, numbers and signs do not go beyond the end of their line, and whether they end where
they do is decided before it as well. So two texts that share their first line have the same
name, number or sign at their head, and go on behind it with what is left of that line
(`Advances`). Only a literal may go on in the next line.
-/

namespace Narrowing.Code.Token

/-- **Texts with the same first line.** -/
inductive SameLine : List Char → List Char → Prop
  | ends : SameLine [] []
  | breaks (cs ds : List Char) : SameLine ('\n' :: cs) ('\n' :: ds)
  | goesOn {c : Char} {cs ds : List Char} : c ≠ '\n' → SameLine cs ds → SameLine (c :: cs) (c :: ds)

/-- **Going on within a line**: behind the same characters of both texts. -/
def Advances (cs ds cs' ds' : List Char) : Prop :=
  ∃ head, '\n' ∉ head ∧ cs = head ++ cs' ∧ ds = head ++ ds'

/-- What is read at the heads of two texts is the same, and both go on behind it. -/
def ReadsAlike {α : Type} (cs ds : List Char) (r r' : α × List Char) : Prop :=
  r.1 = r'.1 ∧ Advances cs ds r.2 r'.2

/-- The same where there may be nothing to read. -/
def ReadsAlike? {α : Type} (cs ds : List Char) (r r' : Option (α × List Char)) : Prop :=
  r = none ∧ r' = none ∨ ∃ p p', r = some p ∧ r' = some p' ∧ ReadsAlike cs ds p p'

variable {α β : Type} {cs ds cs' ds' cs'' ds'' : List Char} {c : Char}

namespace Advances

theorem refl (cs ds : List Char) : Advances cs ds cs ds := ⟨[], List.not_mem_nil, rfl, rfl⟩

theorem cons (hc : c ≠ '\n') (h : Advances cs ds cs' ds') :
    Advances (c :: cs) (c :: ds) cs' ds' := by
  obtain ⟨head, hhead, rfl, rfl⟩ := h
  exact ⟨c :: head, by simp [hc.symm, hhead], rfl, rfl⟩

theorem trans (h : Advances cs ds cs' ds') (h' : Advances cs' ds' cs'' ds'') :
    Advances cs ds cs'' ds'' := by
  obtain ⟨head, hhead, rfl, rfl⟩ := h
  obtain ⟨more, hmore, rfl, rfl⟩ := h'
  exact ⟨head ++ more, by simp [hhead, hmore], by simp, by simp⟩

end Advances

/-- What is left of the first lines is the same. -/
theorem SameLine.advances (h : SameLine cs ds) (ha : Advances cs ds cs' ds') :
    SameLine cs' ds' := by
  obtain ⟨head, hhead, rfl, rfl⟩ := ha
  induction head with
  | nil => exact h
  | cons c head ih =>
    rcases h with _ | _ | ⟨-, hrest⟩
    · exact absurd List.mem_cons_self hhead
    · exact ih (fun hmem => hhead (List.mem_cons_of_mem _ hmem)) hrest

theorem ReadsAlike?.after {r r' : Option (α × List Char)} (h : ReadsAlike? cs' ds' r r')
    (ha : Advances cs ds cs' ds') : ReadsAlike? cs ds r r' := by
  obtain ⟨hr, hr'⟩ | ⟨p, p', hr, hr', hsame, hadvances⟩ := h
  · exact .inl ⟨hr, hr'⟩
  · exact .inr ⟨p, p', hr, hr', hsame, ha.trans hadvances⟩

theorem ReadsAlike?.map {r r' : Option (α × List Char)} (h : ReadsAlike? cs ds r r') (f : α → β) :
    ReadsAlike? cs ds (r.map fun read => (f read.1, read.2))
      (r'.map fun read => (f read.1, read.2)) := by
  obtain ⟨rfl, rfl⟩ | ⟨p, p', rfl, rfl, hsame, hadvances⟩ := h
  · exact .inl ⟨rfl, rfl⟩
  · exact .inr ⟨_, _, rfl, rfl, congrArg f hsame, hadvances⟩

theorem SameLine.exists_cons {d : Char} (h : SameLine cs (d :: ds)) : ∃ cs', cs = d :: cs' := by
  cases h <;> exact ⟨_, rfl⟩

/-- The characters that are looked at next are the same. -/
theorem SameLine.head? (h : SameLine cs ds) : cs.head? = ds.head? := by
  cases h <;> rfl

theorem SameLine.tail (h : SameLine cs ds) (hline : cs.head? ≠ some '\n') :
    Advances cs ds cs.tail ds.tail := by
  cases h with
  | ends => exact .refl _ _
  | breaks cs ds => exact absurd rfl hline
  | goesOn hc h => exact (Advances.refl _ _).cons hc

/-! ## Runs of characters -/

/-- **A run of characters that no line end belongs to.** -/
theorem span_sameLine {p : Char → Bool} (hp : p '\n' = false) (h : SameLine cs ds) :
    ReadsAlike cs ds (cs.span p) (ds.span p) := by
  rw [List.span_eq_takeWhile_dropWhile, List.span_eq_takeWhile_dropWhile]
  induction h with
  | ends => exact ⟨rfl, .refl _ _⟩
  | breaks cs ds =>
    simp only [ReadsAlike, List.takeWhile_cons, List.dropWhile_cons, hp]
    exact ⟨rfl, .refl _ _⟩
  | @goesOn c cs ds hc h ih =>
    simp only [ReadsAlike, List.takeWhile_cons, List.dropWhile_cons] at ih ⊢
    split
    · exact ⟨congrArg _ ih.1, ih.2.cons hc⟩
    · exact ⟨rfl, .refl _ _⟩

theorem dropWhile_advances {p : Char → Bool} (hp : p '\n' = false) (h : SameLine cs ds) :
    Advances cs ds (cs.dropWhile p) (ds.dropWhile p) := by
  have hspan := (span_sameLine hp h).2
  rw [List.span_eq_takeWhile_dropWhile, List.span_eq_takeWhile_dropWhile] at hspan
  exact hspan

theorem digitIn_newline {base : Nat} (hbase : base ≤ 16) : digitIn base '\n' = none := by
  unfold digitIn
  have : ¬ (99 < base) := by omega
  exact if_neg this

theorem digitRun_sameLine {base : Nat} (hbase : base ≤ 16) (h : SameLine cs ds) :
    ReadsAlike cs ds (digitRun base cs) (digitRun base ds) := by
  have hno := digitIn_newline hbase
  fun_induction digitRun base cs generalizing ds with
  | case1 =>
    cases h
    exact ⟨rfl, .refl _ _⟩
  | case2 c cs hdigit run rest hrun ih =>
    rcases h with _ | _ | ⟨hbar, _ | _ | ⟨hc, hrest⟩⟩
    · simp [hno] at hdigit
    · obtain ⟨hsame, hadvances⟩ := ih hrest
      rw [hrun] at hsame hadvances
      rw [digitRun, if_pos hdigit]
      exact ⟨congrArg (c :: ·) hsame, (hadvances.cons hc).cons hbar⟩
  | case3 c cs hdigit =>
    rcases h with _ | _ | ⟨hbar, _ | _ | ⟨hc, hrest⟩⟩ <;> rw [digitRun, if_neg hdigit] <;>
      exact ⟨rfl, .refl _ _⟩
  | case4 c cs hbar hdigit run rest hrun ih =>
    cases h with
    | breaks cs ds => simp [hno] at hdigit
    | @goesOn c cs ds hc hrest =>
      obtain ⟨hsame, hadvances⟩ := ih hrest
      rw [hrun] at hsame hadvances
      rw [digitRun.eq_3 _ _ _ (not_bar hbar hrest), if_pos hdigit]
      exact ⟨congrArg (c :: ·) hsame, hadvances.cons hc⟩
  | case5 c cs hbar hdigit =>
    cases h with
    | breaks cs ds =>
      rw [digitRun.eq_3 _ _ _ (by simp), if_neg hdigit]
      exact ⟨rfl, .refl _ _⟩
    | @goesOn c cs ds hc hrest =>
      rw [digitRun.eq_3 _ _ _ (not_bar hbar hrest), if_neg hdigit]
      exact ⟨rfl, .refl _ _⟩
where
  not_bar {c : Char} {cs ds : List Char} (hbar : ∀ d cs', c = '_' → cs = d :: cs' → False)
      (h : SameLine cs ds) (d : Char) (ds' : List Char) (hc : c = '_') (hds : ds = d :: ds') :
      False := by
    subst hds
    obtain ⟨cs', rfl⟩ := h.exists_cons
    exact hbar d cs' hc rfl

/-! ## Numbers -/

theorem plainRun_of_ne (h : cs.head? ≠ some '_') : plainRun cs = digitRun 10 cs := by
  unfold plainRun
  split
  · exact absurd rfl h
  · rfl

theorem plainRun_sameLine (h : SameLine cs ds) : ReadsAlike cs ds (plainRun cs) (plainRun ds) := by
  by_cases hbar : cs.head? = some '_'
  · cases h <;> simp only [List.head?_cons, List.head?_nil, Option.some.injEq, reduceCtorEq] at hbar
    · cases hbar
    · subst hbar
      exact ⟨rfl, .refl _ _⟩
  · rw [plainRun_of_ne hbar, plainRun_of_ne (h.head? ▸ hbar)]
    exact digitRun_sameLine (by decide) h

theorem direction_sameLine (h : SameLine cs ds) :
    ReadsAlike cs ds (direction cs) (direction ds) := by
  cases h with
  | ends => exact ⟨rfl, .refl _ _⟩
  | breaks cs ds => exact ⟨rfl, .refl _ _⟩
  | @goesOn c cs ds hc h =>
    by_cases hplus : c = '+'
    · subst hplus
      exact ⟨rfl, (Advances.refl _ _).cons hc⟩
    · by_cases hminus : c = '-'
      · subst hminus
        exact ⟨rfl, (Advances.refl _ _).cons hc⟩
      · have hnone : ∀ rest, direction (c :: rest) = ([], c :: rest) := fun rest => by
          simp [direction, hplus, hminus]
        rw [hnone, hnone]
        exact ⟨rfl, .refl _ _⟩

theorem exponentRun_sameLine (h : SameLine cs ds) :
    ReadsAlike cs ds (exponentRun cs) (exponentRun ds) := by
  cases h with
  | ends => exact ⟨rfl, .refl _ _⟩
  | breaks cs ds => exact ⟨rfl, .refl _ _⟩
  | @goesOn c cs ds hc h =>
    obtain ⟨hsign, hdirection⟩ := direction_sameLine h
    obtain ⟨hdigits, hplain⟩ := plainRun_sameLine (h.advances hdirection)
    simp only [exponentRun, ← hsign, ← hdigits]
    split
    · split
      · exact ⟨rfl, .refl _ _⟩
      · exact ⟨rfl, (hdirection.trans hplain).cons hc⟩
    · exact ⟨rfl, .refl _ _⟩

theorem places_sameLine (h : SameLine cs ds) :
    (places cs).1 = (places ds).1 ∧ ReadsAlike cs ds (places cs).2 (places ds).2 := by
  cases h with
  | ends => exact ⟨rfl, rfl, .refl _ _⟩
  | breaks cs ds => exact ⟨rfl, rfl, .refl _ _⟩
  | @goesOn c cs ds hc h =>
    by_cases hpoint : c = '.'
    · subst hpoint
      obtain ⟨hdigits, hadvances⟩ := plainRun_sameLine h
      exact ⟨rfl, hdigits, hadvances.cons hc⟩
    · have hnone : ∀ rest, places (c :: rest) = (false, [], c :: rest) := fun rest => by
        simp [places, hpoint]
      rw [hnone, hnone]
      exact ⟨rfl, rfl, .refl _ _⟩

/-- A value that is the same with what follows. -/
theorem readsAlike?_some (a : α) (h : Advances cs ds cs' ds') :
    ReadsAlike? cs ds (some (a, cs')) (some (a, ds')) :=
  .inr ⟨_, _, rfl, rfl, rfl, h⟩

theorem readsAlike?_none : ReadsAlike? cs ds (none : Option (α × List Char)) none := .inl ⟨rfl, rfl⟩

theorem decimalNumber_sameLine (h : SameLine cs ds) :
    ReadsAlike? cs ds (decimalNumber cs) (decimalNumber ds) := by
  obtain ⟨hwhole, hplain⟩ := plainRun_sameLine h
  obtain ⟨hpoint, hplaces, hmore⟩ := places_sameLine (h.advances hplain)
  obtain ⟨hexponent, hlast⟩ := exponentRun_sameLine ((h.advances hplain).advances hmore)
  have hadvances := (hplain.trans hmore).trans hlast
  have hrest := h.advances hadvances
  simp only [decimalNumber, ← hwhole, ← hpoint, ← hplaces, ← hexponent, ← hrest.head?]
  split
  · exact readsAlike?_none
  split
  · next hj =>
    refine readsAlike?_some _ (hadvances.trans (hrest.tail fun hline => ?_))
    simp [hline] at hj
  · cases realNumber _ _ _ with
    | none => exact readsAlike?_none
    | some n => exact readsAlike?_some n hadvances

theorem skipBar_sameLine (h : SameLine cs ds) : Advances cs ds (skipBar cs) (skipBar ds) := by
  cases h with
  | ends => exact .refl _ _
  | breaks cs ds => exact .refl _ _
  | @goesOn c cs ds hc h =>
    by_cases hbar : c = '_'
    · subst hbar
      exact (Advances.refl _ _).cons hc
    · have hnone : ∀ rest, skipBar (c :: rest) = c :: rest := fun rest => by simp [skipBar, hbar]
      rw [hnone, hnone]
      exact .refl _ _

theorem basedNumber_sameLine {base : Nat} (hbase : base ≤ 16) (h : SameLine cs ds) :
    ReadsAlike? cs ds (basedNumber base cs) (basedNumber base ds) := by
  have hskip := skipBar_sameLine h
  have hstart := h.advances hskip
  obtain ⟨hdigits, hrun⟩ := digitRun_sameLine hbase hstart
  simp only [basedNumber, hstart.head?, hdigits]
  split
  · exact readsAlike?_none
  split
  · exact readsAlike?_none
  · exact readsAlike?_some _ (hskip.trans hrun)

theorem isPrefixOf_sameLine {word : List Char} (hword : '\n' ∉ word) (h : SameLine cs ds) :
    word.isPrefixOf cs = word.isPrefixOf ds := by
  induction word generalizing cs ds with
  | nil => cases h <;> rfl
  | cons w word ih =>
    cases h with
    | ends => rfl
    | breaks cs ds =>
      have hw : (w == '\n') = false := by
        rw [beq_eq_false_iff_ne]
        rintro rfl
        exact hword List.mem_cons_self
      simp [List.isPrefixOf, hw]
    | goesOn hc h =>
      simp only [List.isPrefixOf]
      rw [ih (fun hmem => hword (List.mem_cons_of_mem _ hmem)) h]

theorem endsNumber_sameLine (h : SameLine cs ds) : endsNumber cs = endsNumber ds := by
  have hall : ∀ w ∈ wordsAfterNumber, '\n' ∉ w.toList := by decide
  have hwords : (wordsAfterNumber.any fun w => w.toList.isPrefixOf cs) =
      wordsAfterNumber.any fun w => w.toList.isPrefixOf ds := by
    rw [Bool.eq_iff_iff, List.any_eq_true, List.any_eq_true]
    exact exists_congr fun w => and_congr_right fun hw => by rw [isPrefixOf_sameLine (hall w hw) h]
  rw [endsNumber, endsNumber, h.head?, hwords]

theorem numberAt_of_ne (h : cs.head? ≠ some '0') : numberAt cs = decimalNumber cs := by
  unfold numberAt
  split
  · exact absurd rfl h
  · rfl

theorem numberAt_sameLine (h : SameLine cs ds) :
    ReadsAlike? cs ds (numberAt cs) (numberAt ds) := by
  by_cases hzero : cs.head? = some '0'
  · cases h with
    | ends => cases hzero
    | breaks cs ds => simp at hzero
    | @goesOn c cs ds hc h =>
      obtain rfl := Option.some.inj hzero
      have hall := SameLine.goesOn hc h
      cases h with
      | ends => exact decimalNumber_sameLine hall
      | breaks cs ds => exact decimalNumber_sameLine hall
      | @goesOn b cs ds hb h =>
        have hbased : ∀ base ≤ 16, ReadsAlike? ('0' :: b :: cs) ('0' :: b :: ds)
            (basedNumber base cs) (basedNumber base ds) := fun base hbase =>
          (basedNumber_sameLine hbase h).after (((Advances.refl _ _).cons hb).cons hc)
        simp only [numberAt]
        split
        · exact hbased 16 (by decide)
        split
        · exact hbased 8 (by decide)
        split
        · exact hbased 2 (by decide)
        · exact decimalNumber_sameLine hall
  · rw [numberAt_of_ne hzero, numberAt_of_ne (h.head? ▸ hzero)]
    exact decimalNumber_sameLine h

theorem readNumber_sameLine (h : SameLine cs ds) :
    ReadsAlike? cs ds (readNumber cs) (readNumber ds) := by
  unfold readNumber
  obtain ⟨hr, hr'⟩ | ⟨⟨n, rest⟩, ⟨n', rest'⟩, hr, hr', hn, hadvances⟩ := numberAt_sameLine h
  · rw [hr, hr']
    exact readsAlike?_none
  · obtain rfl : n = n' := hn
    rw [hr, hr', Option.filter_some, Option.filter_some, endsNumber_sameLine (h.advances hadvances)]
    split
    · exact readsAlike?_some n hadvances
    · exact readsAlike?_none

/-! ## Signs -/

theorem advances_drop {word : List Char} (hword : '\n' ∉ word) (h : SameLine cs ds)
    (hcs : word.isPrefixOf cs = true) :
    Advances cs ds (cs.drop word.length) (ds.drop word.length) := by
  have hds := isPrefixOf_sameLine hword h ▸ hcs
  obtain ⟨cs', rfl⟩ := List.isPrefixOf_iff_prefix.1 hcs
  obtain ⟨ds', rfl⟩ := List.isPrefixOf_iff_prefix.1 hds
  exact ⟨word, hword, by simp, by simp⟩

theorem readSign_sameLine (h : SameLine cs ds) :
    ReadsAlike? cs ds (readSign cs) (readSign ds) := by
  have hall : ∀ s ∈ signs, '\n' ∉ s.toList := by decide
  have hfind : (signs.find? fun s => s.toList.isPrefixOf cs) =
      signs.find? fun s => s.toList.isPrefixOf ds :=
    List.find?_congr fun s hs => isPrefixOf_sameLine (hall s hs) h
  unfold readSign
  rw [← hfind]
  cases hs : signs.find? fun s => s.toList.isPrefixOf cs with
  | none => exact readsAlike?_none
  | some s =>
    have hprefix : s.toList.isPrefixOf cs = true :=
      List.find?_some (p := fun s : String => s.toList.isPrefixOf cs) hs
    have hadvances := advances_drop (hall s (List.mem_of_find?_eq_some hs)) h hprefix
    rw [String.length_toList] at hadvances
    exact readsAlike?_some s hadvances

/-! ## Words -/

theorem readName_sameLine (h : SameLine cs ds) :
    ReadsAlike? cs ds (readName cs) (readName ds) := by
  obtain ⟨hletters, hadvances⟩ := span_sameLine (p := staysInWord) (by decide) h
  simp only [readName, ← hletters]
  split
  · exact readsAlike?_some _ hadvances
  · exact readsAlike?_none

theorem opensNumber_sameLine (h : SameLine cs ds) : opensNumber cs = opensNumber ds := by
  unfold opensNumber
  rw [← h.head?]
  by_cases hpoint : cs.head? = some '.'
  · rw [(h.advances (h.tail (by simp [hpoint]))).head?]
  · simp [hpoint]

/-- **Whatever is no literal is read within the line.** -/
theorem readPlain_sameLine (h : SameLine cs ds) :
    ReadsAlike? cs ds (readPlain cs) (readPlain ds) := by
  unfold readPlain
  rw [← h.head?, ← opensNumber_sameLine h]
  split
  · exact (readName_sameLine h).map word
  split
  · exact (readNumber_sameLine h).map number
  · exact (readSign_sameLine h).map sign

/-! ## Marks of a literal -/

theorem literalHead?_sameLine (h : SameLine cs ds) :
    ReadsAlike? cs ds (literalHead? cs) (literalHead? ds) := by
  obtain ⟨hmarks, hadvances⟩ := span_sameLine (p := staysInWord) (by decide) h
  simp only [literalHead?, ← hmarks, (h.advances hadvances).head?]
  split
  · exact readsAlike?_some _ hadvances
  · exact readsAlike?_none

end Narrowing.Code.Token
