import Narrowing.Code.Margin
import Narrowing.Proofs.Code.Cutting
/-!
# Lines of blanks

A line of blanks brings no token, so emptying it mostly changes nothing. What is left of a text
then (`Tidied`) has the same lines otherwise, and whatever ends within its line is read alike in
both. Only a literal may go on over lines of blanks, and their blanks belong to it: its body is
the same unless it has such a line inside (`literalBody_tidied`).
-/

namespace Narrowing.Code.Token

/-- **A line of blanks.** -/
def BlankLine (bs : List Char) : Prop := bs ≠ [] ∧ ∀ c ∈ bs, Margin.isBlank c = true

/-- **A text and what is left of it** when its lines of blanks are emptied. The flag allows for a
line of blanks at the head. A last line of blanks goes with its end. -/
inductive Tidied : Bool → List Char → List Char → Prop
  | ends {b : Bool} : Tidied b [] []
  | breaks {b : Bool} {cs ds : List Char} :
      Tidied true cs ds → Tidied b ('\n' :: cs) ('\n' :: ds)
  | goesOn {b : Bool} {c : Char} {cs ds : List Char} :
      c ≠ '\n' → Tidied false cs ds → Tidied b (c :: cs) (c :: ds)
  | clears {bs cs ds : List Char} :
      BlankLine bs → Tidied true cs ds → Tidied true (bs ++ '\n' :: cs) ('\n' :: ds)
  | drops {bs : List Char} : BlankLine bs → Tidied true (bs ++ ['\n']) []

/-- **A line of blanks stands inside**, between two others. -/
def HasBlankLine (cs : List Char) : Prop :=
  ∃ head bs tail, BlankLine bs ∧ cs = head ++ '\n' :: (bs ++ '\n' :: tail)

variable {α β : Type} {b : Bool} {c : Char} {bs cs ds cs' ds' : List Char}

theorem HasBlankLine.cons (c : Char) (h : HasBlankLine cs) : HasBlankLine (c :: cs) := by
  obtain ⟨head, bs, tail, hblank, rfl⟩ := h
  exact ⟨c :: head, bs, tail, hblank, rfl⟩

namespace Tidied

theorem refl (b : Bool) (cs : List Char) : Tidied b cs cs := by
  induction cs generalizing b with
  | nil => exact .ends
  | cons c cs ih =>
    by_cases hc : c = '\n'
    · subst hc
      exact .breaks (ih true)
    · exact .goesOn hc (ih false)

theorem sameLine (h : Tidied false cs ds) : SameLine cs ds := by
  generalize hb : false = b at h
  induction h with
  | ends => exact .ends
  | breaks => exact .breaks _ _
  | goesOn hc _ ih => exact .goesOn hc (ih rfl)
  | clears => cases hb
  | drops => cases hb

theorem loosen (h : Tidied false cs ds) : Tidied true cs ds := by
  cases h with
  | ends => exact .ends
  | breaks h => exact .breaks h
  | goesOn hc h => exact .goesOn hc h

/-- Both texts have come to their ends, or one has a line of blanks left, or both go on. -/
theorem shape (h : Tidied b cs ds) :
    cs = [] ∧ ds = [] ∨ (ds = [] ∧ ∃ bs, BlankLine bs ∧ cs = bs ++ ['\n']) ∨
      ∃ c cs' d ds', cs = c :: cs' ∧ ds = d :: ds' := by
  cases h with
  | ends => exact .inl ⟨rfl, rfl⟩
  | breaks => exact .inr (.inr ⟨_, _, _, _, rfl, rfl⟩)
  | goesOn => exact .inr (.inr ⟨_, _, _, _, rfl, rfl⟩)
  | @clears bs cs ds hblank =>
    obtain ⟨c, bs, rfl⟩ := List.exists_cons_of_ne_nil hblank.1
    exact .inr (.inr ⟨_, _, _, _, rfl, rfl⟩)
  | drops hblank => exact .inr (.inl ⟨rfl, _, hblank, rfl⟩)

theorem tail (h : Tidied false (c :: cs) (c :: ds)) (hc : c ≠ '\n') : Tidied false cs ds := by
  cases h with
  | breaks => exact absurd rfl hc
  | goesOn _ h => exact h

theorem advances (h : Tidied false cs ds) (ha : Advances cs ds cs' ds') : Tidied false cs' ds' := by
  obtain ⟨head, hhead, rfl, rfl⟩ := ha
  induction head with
  | nil => exact h
  | cons c head ih =>
    rw [List.mem_cons, not_or] at hhead
    exact ih hhead.2 (h.tail (Ne.symm hhead.1))

end Tidied

/-! ## What is read within a line -/

/-- What is read of a text and of what is left of it is the same, and so is what is left of what
follows. -/
def ReadsTidied (r r' : Option (α × List Char)) : Prop :=
  r = none ∧ r' = none ∨
    ∃ a rest rest', r = some (a, rest) ∧ r' = some (a, rest') ∧ Tidied false rest rest'

theorem readsTidied_none : ReadsTidied (none : Option (α × List Char)) none := .inl ⟨rfl, rfl⟩

theorem readsTidied_some (a : α) (h : Tidied false cs ds) :
    ReadsTidied (some (a, cs)) (some (a, ds)) := .inr ⟨a, cs, ds, rfl, rfl, h⟩

theorem ReadsAlike?.tidied {r r' : Option (α × List Char)} (hr : ReadsAlike? cs ds r r')
    (h : Tidied false cs ds) : ReadsTidied r r' := by
  obtain ⟨rfl, rfl⟩ | ⟨⟨a, rest⟩, ⟨a', rest'⟩, rfl, rfl, hsame, hadvances⟩ := hr
  · exact readsTidied_none
  · obtain rfl : a = a' := hsame
    exact readsTidied_some a (h.advances hadvances)

/-! ## Literals -/

/-- **The bodies of two literals** are the same, or one has a line of blanks, and what follows is
left over of what follows. The flag tells that a line feed comes before the bodies. -/
def SameBody (b : Bool) (r r' : Option (List Char × List Char)) : Prop :=
  r = none ∧ r' = none ∨
    ∃ body body' rest rest', r = some (body, rest) ∧ r' = some (body', rest') ∧
      Tidied false rest rest' ∧
      (body = body' ∨ HasBlankLine (if b then '\n' :: body else body))

/-- A character that is not at the end of its line. -/
theorem SameBody.map_cons {r r' : Option (List Char × List Char)} (h : SameBody false r r')
    (b : Bool) (c : Char) :
    SameBody b (r.map fun read => (c :: read.1, read.2))
      (r'.map fun read => (c :: read.1, read.2)) := by
  obtain ⟨rfl, rfl⟩ | ⟨body, body', rest, rest', rfl, rfl, hrest, hbody⟩ := h
  · exact .inl ⟨rfl, rfl⟩
  · refine .inr ⟨_, _, _, _, rfl, rfl, hrest, hbody.imp (congrArg _) fun hblank => ?_⟩
    cases b with
    | false => exact hblank.cons c
    | true => exact (hblank.cons c).cons '\n'

/-- A line feed. -/
theorem SameBody.map_break {r r' : Option (List Char × List Char)} (h : SameBody true r r')
    (b : Bool) :
    SameBody b (r.map fun read => ('\n' :: read.1, read.2))
      (r'.map fun read => ('\n' :: read.1, read.2)) := by
  obtain ⟨rfl, rfl⟩ | ⟨body, body', rest, rest', rfl, rfl, hrest, hbody⟩ := h
  · exact .inl ⟨rfl, rfl⟩
  · refine .inr ⟨_, _, _, _, rfl, rfl, hrest, hbody.imp (congrArg _) fun hblank => ?_⟩
    cases b with
    | false => exact hblank
    | true => exact hblank.cons '\n'

section Quotes

variable {quote : Char} {triple : Bool}

theorem afterQuote_of_ne (hc : c ≠ quote) (cs : List Char) :
    afterQuote quote triple (c :: cs) = none := by
  cases triple <;> simp [afterQuote, List.replicate, List.isPrefixOf, hc.symm]

theorem literalBody_escape (c : Char) (cs : List Char) :
    literalBody quote triple ('\\' :: c :: cs) =
      ((literalBody quote triple cs).map fun read => (c :: read.1, read.2)).map
        fun read => ('\\' :: read.1, read.2) := by
  rw [literalBody.eq_2, Option.map_map]
  rfl

variable (hquote : quote = '"' ∨ quote = '\'')

include hquote

theorem afterQuote_tidied (triple : Bool) (h : Tidied false cs ds) :
    afterQuote quote triple cs = none ∧ afterQuote quote triple ds = none ∨
      ∃ rest rest', afterQuote quote triple cs = some rest ∧
        afterQuote quote triple ds = some rest' ∧ Tidied false rest rest' := by
  have hclose : ∀ n, '\n' ∉ List.replicate n quote := fun n hmem => by
    rw [List.mem_replicate] at hmem
    obtain rfl | rfl := hquote <;> exact absurd hmem.2 (by decide)
  simp only [afterQuote, ← isPrefixOf_sameLine (hclose _) h.sameLine]
  generalize (if triple then 3 else 1) = n
  split
  · next hprefix =>
    exact .inr ⟨_, _, rfl, rfl, h.advances (advances_drop (hclose _) h.sameLine hprefix)⟩
  · exact .inl ⟨rfl, rfl⟩

theorem literalBody_blank (hc : Margin.isBlank c = true) (cs : List Char) :
    literalBody quote triple (c :: cs) =
      (literalBody quote triple cs).map fun read => (c :: read.1, read.2) := by
  have hnot : c ≠ '\\' ∧ c ≠ '\n' ∧ c ≠ quote := by
    refine ⟨?_, ?_, ?_⟩ <;> rintro rfl
    · cases hc
    · cases hc
    · obtain rfl | rfl := hquote <;> cases hc
  rw [literalBody.eq_3 _ _ _ _ (fun _ _ h => absurd h hnot.1), afterQuote_of_ne hnot.2.2]
  simp [hnot.2.1]

theorem literalBody_blanks (hbs : ∀ c ∈ bs, Margin.isBlank c = true) (cs : List Char) :
    literalBody quote triple (bs ++ cs) =
      (literalBody quote triple cs).map fun read => (bs ++ read.1, read.2) := by
  induction bs with
  | nil => simp
  | cons c bs ih =>
    rw [List.cons_append, literalBody_blank hquote (hbs c List.mem_cons_self),
      ih fun c hc => hbs c (List.mem_cons_of_mem _ hc), Option.map_map]
    rfl

theorem literalBody_break (cs : List Char) :
    literalBody quote triple ('\n' :: cs) =
      if triple then (literalBody quote triple cs).map fun read => ('\n' :: read.1, read.2)
      else none := by
  have hquoteNot : '\n' ≠ quote := by obtain rfl | rfl := hquote <;> decide
  rw [literalBody.eq_3 _ _ _ _ (fun _ _ h => absurd h (by decide)), afterQuote_of_ne hquoteNot]
  cases triple <;> rfl

/-- A character that is no line feed, unless it is a backslash before another character. -/
theorem literalBody_goesOn (hc : c ≠ '\n') (hescape : ¬ (c = '\\' ∧ cs ≠ []))
    (h : Tidied false cs ds)
    (hbody : SameBody false (literalBody quote triple cs) (literalBody quote triple ds)) (b : Bool) :
    SameBody b (literalBody quote triple (c :: cs)) (literalBody quote triple (c :: ds)) := by
  have hplain : ∀ x xs, c = '\\' → cs = x :: xs → False :=
    fun x xs hback hcs => hescape ⟨hback, by simp [hcs]⟩
  have hplain' : ∀ x xs, c = '\\' → ds = x :: xs → False := fun x xs hback hds => by
    subst hds
    obtain ⟨cs', hcs⟩ := h.sameLine.exists_cons
    exact hplain x cs' hback hcs
  rw [literalBody.eq_3 _ _ _ _ hplain, literalBody.eq_3 _ _ _ _ hplain']
  obtain ⟨hnone, hnone'⟩ | ⟨rest, rest', hsome, hsome', hrest⟩ :=
    afterQuote_tidied hquote triple (.goesOn hc h)
  · rw [hnone, hnone']
    simp only [hc, decide_false, Bool.false_and, Bool.false_eq_true, if_false]
    exact hbody.map_cons b c
  · rw [hsome, hsome']
    exact .inr ⟨_, _, _, _, rfl, rfl, hrest, .inl rfl⟩

/-- **The body of a literal** and what is left of it. -/
theorem literalBody_tidied (h : Tidied b cs ds) :
    SameBody b (literalBody quote triple cs) (literalBody quote triple ds) := by
  -- by the length, since an escape passes over two characters and a line of blanks over many
  induction hn : cs.length using Nat.strong_induction_on generalizing b cs ds with
  | _ n ih =>
    subst hn
    cases h with
    | ends => exact .inl ⟨rfl, rfl⟩
    | @breaks _ cs ds h =>
      rw [literalBody_break hquote, literalBody_break hquote]
      split
      · exact (ih _ (Nat.lt_succ_self _) h rfl).map_break b
      · exact .inl ⟨rfl, rfl⟩
    | @goesOn _ c cs ds hc h =>
      by_cases hescape : c = '\\' ∧ cs ≠ []
      · -- the character behind a backslash is passed over, even if it ends the line
        obtain ⟨rfl, hne⟩ := hescape
        cases h with
        | ends => exact absurd rfl hne
        | @breaks _ cs ds h =>
          have hbody := ih _ (Nat.lt_succ_of_lt (Nat.lt_succ_self _)) h rfl
          rw [literalBody_escape, literalBody_escape]
          exact (hbody.map_break false).map_cons b '\\'
        | @goesOn _ c cs ds _ h =>
          have hbody := ih _ (Nat.lt_succ_of_lt (Nat.lt_succ_self _)) h rfl
          rw [literalBody_escape, literalBody_escape]
          exact (hbody.map_cons false c).map_cons b '\\'
      · exact literalBody_goesOn hquote hc hescape h (ih _ (Nat.lt_succ_self _) h rfl) b
    | @clears bs cs ds hblank h =>
      rw [literalBody_blanks hquote hblank.2, literalBody_break hquote, literalBody_break hquote]
      split
      · obtain ⟨hnone, hnone'⟩ | ⟨body, body', rest, rest', hbody, hbody', hrest, -⟩ :=
          ih cs.length (by rw [List.length_append, List.length_cons]; omega) h rfl
        · rw [hnone, hnone']
          exact .inl ⟨rfl, rfl⟩
        · rw [hbody, hbody']
          exact .inr ⟨_, _, _, _, rfl, rfl, hrest, .inr ⟨[], bs, body, hblank, rfl⟩⟩
      · exact .inl ⟨rfl, rfl⟩
    | @drops bs hblank =>
      rw [literalBody_blanks hquote hblank.2, literalBody_break hquote]
      cases triple <;> exact .inl ⟨rfl, rfl⟩

theorem quotedBody_tidied (h : Tidied false (quote :: cs) (quote :: ds)) :
    SameBody false (quotedBody (quote :: cs)) (quotedBody (quote :: ds)) := by
  have hline : quote ≠ '\n' := by obtain rfl | rfl := hquote <;> decide
  have hinner := h.tail hline
  have hmarks : '\n' ∉ [quote, quote] := by simp [hline.symm]
  simp only [quotedBody, ← isPrefixOf_sameLine hmarks hinner.sameLine]
  split
  · next hprefix =>
    have hadvances := advances_drop hmarks hinner.sameLine hprefix
    exact literalBody_tidied hquote (hinner.advances hadvances)
  · exact literalBody_tidied hquote hinner

end Quotes

theorem exists_quote {marks quoted : List Char} (h : literalHead? cs = some (marks, quoted)) :
    ∃ quote rest, (quote = '"' ∨ quote = '\'') ∧ quoted = quote :: rest := by
  simp only [literalHead?, Option.ite_none_right_eq_some, Bool.and_eq_true] at h
  obtain ⟨⟨hquote, -⟩, hquoted⟩ := h
  cases hquoted
  generalize (cs.span staysInWord).2 = quoted at hquote
  cases quoted with
  | nil => cases hquote
  | cons quote rest => exact ⟨quote, rest, by simpa using hquote, rfl⟩

/-! ## Items -/

/-- A literal with a line of blanks is at the head of the text. -/
def BlankLiteral (cs : List Char) : Prop :=
  ∃ marks quoted body rest, literalHead? cs = some (marks, quoted) ∧
    quotedBody quoted = some (body, rest) ∧ HasBlankLine body

theorem readLiteral_tidied {quote : Char} (hquote : quote = '"' ∨ quote = '\'') (marks : List Char)
    (h : Tidied false (quote :: cs) (quote :: ds))
    (hblank : ∀ body rest, quotedBody (quote :: cs) = some (body, rest) → ¬ HasBlankLine body) :
    ReadsTidied (readLiteral marks (quote :: cs)) (readLiteral marks (quote :: ds)) := by
  unfold readLiteral
  obtain ⟨hnone, hnone'⟩ | ⟨body, body', rest, rest', hbody, hbody', hrest, hsame⟩ :=
    quotedBody_tidied hquote h
  · rw [hnone, hnone']
    exact readsTidied_none
  · obtain rfl := hsame.resolve_right (hblank body rest hbody)
    rw [hbody, hbody', Option.bind_some, Option.bind_some]
    cases literalToken marks body with
    | none => exact readsTidied_none
    | some t => exact readsTidied_some t hrest

/-- **The next item** is the same, unless it is a literal with a line of blanks. -/
theorem readItem_tidied (h : Tidied false cs ds) (hblank : ¬ BlankLiteral cs) :
    ReadsTidied (readItem cs) (readItem ds) := by
  unfold readItem
  obtain ⟨hnone, hnone'⟩ | ⟨⟨marks, quoted⟩, ⟨marks', quoted'⟩, hhead, hhead', hmarks, hadvances⟩ :=
    literalHead?_sameLine h.sameLine
  · rw [hnone, hnone']
    exact (readPlain_sameLine h.sameLine).tidied h
  · obtain rfl : marks = marks' := hmarks
    obtain ⟨quote, rest, hquote, rfl⟩ := exists_quote hhead
    obtain ⟨quote', rest', -, rfl⟩ := exists_quote hhead'
    have hquoted := h.advances hadvances
    obtain rfl : quote = quote' := Option.some.inj hquoted.sameLine.head?
    rw [hhead, hhead']
    exact readLiteral_tidied hquote marks hquoted fun body after hbody hline =>
      hblank ⟨marks, _, body, after, hhead, hbody, hline⟩

end Narrowing.Code.Token
