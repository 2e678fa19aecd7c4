import Mathlib.Data.List.TakeWhile
import Narrowing.Proofs.Code.BlankLines
/-!
# Cutting a text without its lines of blanks

A text and what is left of it are cut step by step (`Cutting.step_follows`). The states of the two
differ in the rest of the text only (`Cutting.Follows`), and the rests keep being tidied. The one
exception is a last line of blanks: the other text is at its end there, and the step over the line
brings no token. So both yield the same tokens (`Cutting.Yields.follows`), unless the cutting of
the text comes to where a line of blanks counts (`Cutting.NeedsBlanks`).
-/

namespace Narrowing.Code.Token

variable {b : Bool} {c : Char} {bs cs ds : List Char}

/-! ## Margins -/

/-- **A backslash joins a last line of blanks**, behind nothing but blanks and other joins. -/
def EndsJoined (cs : List Char) : Prop :=
  ∃ head bs, (∀ c ∈ head, c ∈ [' ', '\t', '\x0c', '\\', '\n']) ∧ BlankLine bs ∧
    cs = head ++ '\\' :: '\n' :: (bs ++ ['\n'])

theorem EndsJoined.cons (hc : c ∈ [' ', '\t', '\x0c', '\\', '\n']) (h : EndsJoined cs) :
    EndsJoined (c :: cs) := by
  obtain ⟨head, bs, hhead, hblank, rfl⟩ := h
  exact ⟨c :: head, bs, List.forall_mem_cons.2 ⟨hc, hhead⟩, hblank, rfl⟩

theorem not_endsJoined (h : '\\' ∉ cs) : ¬ EndsJoined cs := by
  rintro ⟨head, bs, -, -, rfl⟩
  simp at h

/-- **The margins of two lines** are the same where the lines have content. -/
def SameMargin (r r' : Margin × List Char) : Prop :=
  Tidied false r.2 r'.2 ∧ (r.1 = r'.1 ∨ r.2.head? = some '\n') ∨ r.2 = ['\n'] ∧ r'.2 = []

theorem measure_stops (settled : Nat) (m : Margin) (cs : List Char)
    (hblank : ∀ c ∈ cs.head?, c ∉ [' ', '\t', '\x0c'])
    (hjoin : ∀ c cs', cs ≠ '\\' :: '\n' :: c :: cs') :
    measure settled m cs = (if settled = 0 then m else ⟨settled, settled⟩, cs) := by
  refine measure.eq_5 settled m cs ?_ ?_ ?_ hjoin
  all_goals
    rintro cs' rfl
    simp at hblank

theorem measure_blanks (settled : Nat) (m : Margin) (hbs : ∀ c ∈ bs, Margin.isBlank c = true)
    (cs : List Char) : (measure settled m (bs ++ '\n' :: cs)).2 = '\n' :: cs := by
  induction bs generalizing m with
  | nil => rw [List.nil_append, measure_stops settled m _ (by simp) (by simp)]
  | cons c bs ih =>
    have hrest := fun m => ih m fun c hc => hbs c (List.mem_cons_of_mem _ hc)
    have hc := hbs c List.mem_cons_self
    simp only [Margin.isBlank, Bool.or_eq_true, decide_eq_true_eq] at hc
    obtain rfl | rfl := hc
    · exact hrest _
    · exact hrest _

/-- Lines that begin with no blank and no join have no margin. -/
theorem sameMargin_of_stops (h : Tidied false cs ds)
    (hblank : ∀ c ∈ cs.head?, c ∉ [' ', '\t', '\x0c'])
    (hcs : ∀ c cs', cs ≠ '\\' :: '\n' :: c :: cs') (hds : ∀ c ds', ds ≠ '\\' :: '\n' :: c :: ds')
    (settled : Nat) (m : Margin) : SameMargin (measure settled m cs) (measure settled m ds) := by
  rw [measure_stops settled m _ hblank hcs,
    measure_stops settled m _ (h.sameLine.head? ▸ hblank) hds]
  exact .inl ⟨h, .inl rfl⟩

/-- **The margin of a line** with what is left of it. -/
theorem measure_tidied (h : Tidied b cs ds) (hjoin : ¬ EndsJoined cs) (settled : Nat) (m : Margin) :
    SameMargin (measure settled m cs) (measure settled m ds) := by
  induction hn : cs.length using Nat.strong_induction_on generalizing b cs ds settled m with
  | _ n ih =>
    subst hn
    cases h with
    | ends => exact sameMargin_of_stops .ends (by simp) (by simp) (by simp) settled m
    | breaks h => exact sameMargin_of_stops (.breaks h) (by simp) (by simp) (by simp) settled m
    | @goesOn _ c cs ds hc h =>
      by_cases hmargin : c ∈ [' ', '\t', '\x0c']
      · have hrest : ¬ EndsJoined cs := fun hcs =>
          hjoin (hcs.cons (List.mem_append_left ['\\', '\n'] hmargin))
        have hblank := fun m => ih _ (Nat.lt_succ_self _) h hrest settled m rfl
        simp only [List.mem_cons, List.not_mem_nil, or_false] at hmargin
        obtain rfl | rfl | rfl := hmargin
        · exact hblank _
        · exact hblank _
        · exact hblank _
      by_cases hline : c = '\\' ∧ cs.head? = some '\n'
      · obtain ⟨rfl, hhead⟩ := hline
        cases h with
        | ends => cases hhead
        | goesOn hc => exact absurd (Option.some.inj hhead) hc
        | @breaks _ cs ds h =>
          -- the join is passed over only if something follows it, which blanks may be
          obtain ⟨rfl, rfl⟩ | ⟨rfl, bs, hblank, rfl⟩ | ⟨c, cs', d, ds', rfl, rfl⟩ := h.shape
          · exact sameMargin_of_stops (.refl _ _) (by simp) (by simp) (by simp) settled m
          · exact absurd ⟨[], bs, by simp, hblank, rfl⟩ hjoin
          · have hrest : ¬ EndsJoined (c :: cs') := fun hcs =>
              hjoin ((hcs.cons (by simp)).cons (by simp))
            exact ih _ (Nat.lt_succ_of_lt (Nat.lt_succ_self _)) h hrest _ m rfl
      · refine sameMargin_of_stops (.goesOn hc h) (by simpa using hmargin) ?_ ?_ settled m
        · rintro d cs' heq
          obtain ⟨rfl, rfl⟩ := List.cons.inj heq
          exact hline ⟨rfl, rfl⟩
        · rintro d ds' heq
          obtain ⟨rfl, rfl⟩ := List.cons.inj heq
          exact hline ⟨rfl, h.sameLine.head?⟩
    | @clears bs cs ds hblank h =>
      refine .inl ?_
      rw [measure_blanks settled m hblank.2,
        measure_stops settled m ('\n' :: ds) (by simp) (by simp)]
      exact ⟨.breaks h, .inr rfl⟩
    | @drops bs hblank =>
      rw [SameMargin, measure_blanks settled m hblank.2,
        measure_stops settled m [] (by simp) (by simp)]
      exact .inr ⟨rfl, rfl⟩

theorem dropComment_tidied (h : Tidied false cs ds) :
    Tidied false (dropComment cs) (dropComment ds) := by
  have hline := h.sameLine
  simp only [dropComment, ← hline.head?]
  split
  · exact h.advances (dropWhile_advances (by decide) hline)
  · exact h

namespace Cutting

/-! ## Steps -/

/-- **A cutting follows another** if it stands where that one stands, with what is left of the
text. -/
inductive Follows : Cutting → Cutting → Prop
  | mk {lineStart : Bool} {blocks : List Margin} {open_ : List String} {cs ds : List Char} :
      Tidied true cs ds → (lineStart = false → ds = [] → cs = []) →
        Follows ⟨lineStart, blocks, open_, cs⟩ ⟨lineStart, blocks, open_, ds⟩

/-- **Two steps** bring the same tokens and go on alike; or the one brings none and goes on to its
last step where the other is the last. -/
inductive StepsAlike : List Token × Option Cutting → List Token × Option Cutting → Prop
  | last (ts : List Token) : StepsAlike (ts, none) (ts, none)
  | goesOn (ts : List Token) {c d : Cutting} : Follows c d → StepsAlike (ts, some c) (ts, some d)
  | drops {ts : List Token} {c : Cutting} :
      c.step = (ts, none) → StepsAlike ([], some c) (ts, none)

/-- **Where a line of blanks counts**: in the literal that comes next, or as the last line that a
backslash joins. -/
def NeedsBlanks (c : Cutting) : Prop :=
  c.lineStart = false ∧ BlankLiteral c.ahead ∨ EndsJoined c.rest

variable {c d : Cutting} {blocks : List Margin} {open_ : List String} {rest rest' : List Char}

theorem lineFrom_follows {m m' : Margin} (h : Tidied false cs ds)
    (hm : m = m' ∨ cs.head? = some '\n') :
    StepsAlike (lineFrom ⟨true, blocks, open_, rest⟩ m cs)
      (lineFrom ⟨true, blocks, open_, rest'⟩ m' ds) := by
  cases h with
  | ends => exact .last _
  | breaks h => exact .goesOn _ (.mk h (by simp))
  | @goesOn _ c cs ds hc h =>
    obtain rfl := hm.resolve_right fun hline => hc (Option.some.inj hline)
    by_cases hjoin : c = '\\'
    · subst hjoin
      exact .last _
    · rw [lineFrom.eq_4 _ _ _ (by simp) (by simp [hjoin]) (by simp [hc]),
        lineFrom.eq_4 _ _ _ (by simp) (by simp [hjoin]) (by simp [hc])]
      cases indentation m blocks with
      | error => exact .last _
      | ok opened => exact .goesOn _ (.mk (.goesOn hc h) (by simp))

/-- **The head of a line.** -/
theorem lineHead_follows (h : Tidied true cs ds) (hjoin : ¬ EndsJoined cs) :
    StepsAlike (lineHead ⟨true, blocks, open_, cs⟩) (lineHead ⟨true, blocks, open_, ds⟩) := by
  unfold lineHead
  obtain ⟨hrest, hm⟩ | ⟨hrest, hrest'⟩ := measure_tidied h hjoin 0 ⟨0, 0⟩
  · refine lineFrom_follows (dropComment_tidied hrest) (hm.imp_right fun hline => ?_)
    rw [dropComment, hline, if_neg (by decide), hline]
  · -- the last line has blanks only, which the other text has no more
    dsimp only
    rw [hrest, hrest']
    exact .drops rfl

theorem behind_follows (h : Tidied false cs ds) (t : Token) :
    StepsAlike (behind ⟨false, blocks, open_, rest⟩ cs t)
      (behind ⟨false, blocks, open_, rest'⟩ ds t) := by
  have hends : ds = [] → cs = [] := by
    rintro rfl
    cases h
    rfl
  have hfollows : ∀ open_, Follows ⟨false, blocks, open_, cs⟩ ⟨false, blocks, open_, ds⟩ :=
    fun _ => .mk h.loosen fun _ => hends
  cases t with
  | sign s =>
    simp only [behind]
    cases track open_ s with
    | none => exact .last _
    | some now => exact .goesOn _ (hfollows now)
  | _ => exact .goesOn _ (hfollows open_)

theorem dropWhile_blanks (hbs : ∀ c ∈ bs, Margin.isBlank c = true) (cs : List Char) :
    (bs ++ '\n' :: cs).dropWhile isSpace = '\n' :: cs := by
  have hspace : ∀ c ∈ bs, isSpace c = true := fun c hc => by
    have hblank : (c = ' ' || c = '\t' : Bool) = true := hbs c hc
    rw [isSpace, hblank, Bool.true_or]
  rw [List.dropWhile_append_of_pos hspace]
  rfl

/-- Brackets are still open behind a last line of blanks. -/
theorem step_blankLine (hbs : BlankLine bs) (hopen : ¬ open_.isEmpty = true) :
    step ⟨false, blocks, open_, bs ++ ['\n']⟩ = ([cutShort], none) := by
  have hahead : ahead ⟨false, blocks, open_, bs ++ ['\n']⟩ = ['\n'] := by
    rw [ahead, dropWhile_blanks hbs.2]
    rfl
  rw [step, if_neg (by simp), item, hahead]
  simp [itemFrom, hopen]

theorem itemFrom_follows (h : Tidied false cs ds) (hblank : ¬ BlankLiteral cs)
    (hjoin : ∀ bs, BlankLine bs → cs ≠ '\\' :: '\n' :: (bs ++ ['\n'])) :
    StepsAlike (itemFrom ⟨false, blocks, open_, rest⟩ cs)
      (itemFrom ⟨false, blocks, open_, rest'⟩ ds) := by
  have hall := h
  cases h with
  | ends => exact .last _
  | @breaks _ cs ds h =>
    simp only [itemFrom]
    split
    · exact .goesOn _ (.mk h (by simp))
    · next hopen =>
      -- inside of brackets the text has to go on, which a last line of blanks only puts off
      obtain ⟨rfl, rfl⟩ | ⟨rfl, bs, hbs, rfl⟩ | ⟨c, cs', d, ds', rfl, rfl⟩ := h.shape
      · exact .last _
      · rw [if_neg (by simp)]
        exact .drops (step_blankLine hbs hopen)
      · exact .goesOn _ (.mk h (by simp))
  | @goesOn _ c cs ds hc h =>
    by_cases hback : c = '\\'
    · subst hback
      cases h with
      | ends => exact .last _
      | @breaks _ cs ds h =>
        obtain ⟨rfl, rfl⟩ | ⟨rfl, bs, hbs, rfl⟩ | ⟨c, cs', d, ds', rfl, rfl⟩ := h.shape
        · exact .last _
        · exact absurd rfl (hjoin bs hbs)
        · exact .goesOn _ (.mk h (by simp))
      | @goesOn _ c cs ds hc h =>
        rw [itemFrom.eq_4 _ _ (by simp [hc]), itemFrom.eq_4 _ _ (by simp [hc])]
        exact .last _
    · rw [itemFrom.eq_5 _ _ (by simp) (by simp [hc]) (by simp [hback]) (by simp [hback]),
        itemFrom.eq_5 _ _ (by simp) (by simp [hc]) (by simp [hback]) (by simp [hback])]
      obtain ⟨hnone, hnone'⟩ | ⟨t, after, after', hread, hread', hafter⟩ :=
        readItem_tidied hall hblank
      · rw [hnone, hnone']
        exact .last _
      · rw [hread, hread']
        exact behind_follows hafter t

theorem ahead_tidied (h : Tidied true cs ds) (hends : ds = [] → cs = []) :
    Tidied false (ahead ⟨false, blocks, open_, cs⟩) (ahead ⟨false, blocks, open_, ds⟩) := by
  refine dropComment_tidied ?_
  cases h with
  | ends => exact .ends
  | breaks h => exact .breaks h
  | goesOn hc h =>
    have hline : Tidied false _ _ := .goesOn hc h
    exact hline.advances (dropWhile_advances (by decide) hline.sameLine)
  | clears hbs h =>
    rw [dropWhile_blanks hbs.2]
    exact .breaks h
  | drops hbs => simp at hends

/-- What stands ahead is joined to a last line of blanks only if that is so at the head. -/
theorem ahead_ne (hjoin : ¬ EndsJoined cs) (hbs : BlankLine bs) :
    ahead ⟨false, blocks, open_, cs⟩ ≠ '\\' :: '\n' :: (bs ++ ['\n']) := by
  intro hahead
  rw [ahead, dropComment] at hahead
  split at hahead
  · -- a comment goes on to the end of its line
    have hstop := List.head?_dropWhile_not (fun c => decide (c ≠ '\n')) (cs.dropWhile isSpace)
    rw [hahead] at hstop
    simp at hstop
  · refine hjoin ⟨cs.takeWhile isSpace, bs, fun c hc => ?_, hbs, ?_⟩
    · have hspace := List.mem_takeWhile_imp hc
      simp only [isSpace, Bool.or_eq_true, decide_eq_true_eq] at hspace
      obtain (rfl | rfl) | rfl := hspace <;> decide
    · rw [← hahead, List.takeWhile_append_dropWhile]

/-- **What comes next in a line.** -/
theorem item_follows (h : Tidied true cs ds) (hends : ds = [] → cs = [])
    (hneeds : ¬ NeedsBlanks ⟨false, blocks, open_, cs⟩) :
    StepsAlike (item ⟨false, blocks, open_, cs⟩) (item ⟨false, blocks, open_, ds⟩) := by
  rw [NeedsBlanks, not_or] at hneeds
  exact itemFrom_follows (ahead_tidied h hends) (fun hblank => hneeds.1 ⟨rfl, hblank⟩)
    fun bs hbs => ahead_ne hneeds.2 hbs

/-- **Each step** of a cutting that follows another is alike, unless a line of blanks counts. -/
theorem step_follows (h : Follows c d) (hneeds : ¬ c.NeedsBlanks) : StepsAlike c.step d.step := by
  obtain ⟨hrest, hends⟩ := h
  rename_i lineStart blocks open_ cs ds
  cases lineStart with
  | true => exact lineHead_follows hrest fun hjoin => hneeds (.inr hjoin)
  | false => exact item_follows hrest (hends rfl) hneeds

/-! ## Whole runs -/

/-- **What a cutting comes to.** -/
inductive Reaches : Cutting → Cutting → Prop
  | refl (c : Cutting) : Reaches c c
  | goesOn {c d e : Cutting} {ts : List Token} :
      c.step = (ts, some d) → Reaches d e → Reaches c e

theorem Reaches.eq_or_next {e : Cutting} {ts : List Token} (h : c.Reaches e)
    (hstep : c.step = (ts, some d)) : e = c ∨ d.Reaches e := by
  cases h with
  | refl => exact .inl rfl
  | goesOn hstep' h =>
    cases hstep.symm.trans hstep'
    exact .inr h

theorem Reaches.eq_of_last {e : Cutting} {ts : List Token} (h : c.Reaches e)
    (hstep : c.step = (ts, none)) : e = c := by
  cases h with
  | refl => rfl
  | goesOn hstep' _ => cases hstep.symm.trans hstep'

/-- **A cutting that follows another yields the same tokens**, unless the other comes to where a
line of blanks counts. -/
theorem Yields.follows {ts : List Token} (hyields : c.Yields ts) (h : Follows c d)
    (hneeds : ∀ e, c.Reaches e → ¬ e.NeedsBlanks) : d.Yields ts := by
  induction hyields generalizing d with
  | @last c ts hstep =>
    have hsteps := step_follows h (hneeds c (.refl c))
    rw [hstep] at hsteps
    cases hd : d.step with
    | mk us next =>
      rw [hd] at hsteps
      cases hsteps
      exact .last hd
  | @goesOn c next ts us hstep hyields ih =>
    -- whatever the next state comes to, this one comes to
    have hsteps := step_follows h (hneeds c (.refl c))
    rw [hstep] at hsteps
    cases hd : d.step with
    | mk vs next' =>
      rw [hd] at hsteps
      cases hsteps with
      | goesOn _ hfollows => exact .goesOn hd (ih hfollows fun e he => hneeds e (.goesOn hstep he))
      | drops hlast =>
        cases hyields with
        | last hstep' =>
          cases hlast.symm.trans hstep'
          exact .last hd
        | goesOn hstep' _ => cases hlast.symm.trans hstep'

end Cutting

end Narrowing.Code.Token
