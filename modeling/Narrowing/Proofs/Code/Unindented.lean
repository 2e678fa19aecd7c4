import Narrowing.Proofs.Code.Tidying
import Narrowing.Code.Parser
/-!
# Texts without a margin

Removing the common margin of a text that has none still empties its lines of blanks
(`Margin.toList_remove`). The tokens are the same nevertheless, as long as no line of blanks
counts where the text is cut (`Token.ofText_remove`), and then the statements are the same, too
(`parseBody_eq_parse`).
-/

namespace Narrowing.Code

/-! ## Lines -/

namespace Margin

/-- **A text without a common margin.** -/
def Unindented (s : String) : Prop := ofLines ((lines s.toList).map clear) = []

instance (s : String) : Decidable (Unindented s) :=
  inferInstanceAs (Decidable (ofLines ((lines s.toList).map clear) = []))

variable {c : Char} {l cs : List Char} {ls : List (List Char)}

theorem lines_ne_nil (cs : List Char) : lines cs ≠ [] := by
  cases cs with
  | nil => simp [lines]
  | cons c cs =>
    rw [lines]
    split
    · simp
    · split <;> simp

theorem intercalate_cons (l l' : List Char) (ls : List (List Char)) :
    ['\n'].intercalate (l :: l' :: ls) = l ++ '\n' :: ['\n'].intercalate (l' :: ls) := by
  rw [List.intercalate_cons_cons, List.append_assoc]
  rfl

theorem intercalate_lines (cs : List Char) : ['\n'].intercalate (lines cs) = cs := by
  induction cs with
  | nil => rfl
  | cons c cs ih =>
    obtain ⟨l, ls, hlines⟩ := List.exists_cons_of_ne_nil (lines_ne_nil cs)
    rw [hlines] at ih
    rw [lines, hlines]
    split
    · next hc => rw [intercalate_cons, ih, hc, List.nil_append]
    · rw [← ih]
      cases ls with
      | nil => simp
      | cons l' ls => rw [intercalate_cons, intercalate_cons, List.cons_append]

theorem toList_remove {s : String} (h : Unindented s) :
    (remove s).toList = ['\n'].intercalate ((lines s.toList).map clear) := by
  unfold Unindented at h
  simp only [remove, String.toList_ofList, h, List.length_nil, List.drop_zero, List.map_id']

/-- A line stays as it is, or it is a line of blanks and becomes empty. -/
theorem clear_eq (l : List Char) : clear l = l ∨ Token.BlankLine l ∧ clear l = [] := by
  unfold clear
  split
  · next hall =>
    cases l with
    | nil => exact .inl rfl
    | cons c l => exact .inr ⟨⟨List.cons_ne_nil c l, List.all_eq_true.1 hall⟩, rfl⟩
  · exact .inl rfl

theorem mem_intercalate_clear (hc : isBlank c = false) (ls : List (List Char)) :
    c ∈ ['\n'].intercalate (ls.map clear) ↔ c ∈ ['\n'].intercalate ls := by
  have hline : ∀ l, c ∈ clear l ↔ c ∈ l := fun l => by
    obtain hl | ⟨hblank, hl⟩ := clear_eq l
    · rw [hl]
    · refine iff_of_false (by simp [hl]) fun hmem => ?_
      rw [hblank.2 c hmem] at hc
      cases hc
  induction ls with
  | nil => rfl
  | cons l ls ih =>
    cases ls with
    | nil => simpa [List.intercalate] using hline l
    | cons l' ls =>
      simp only [List.map_cons] at ih ⊢
      rw [intercalate_cons, intercalate_cons, List.mem_append, List.mem_append, List.mem_cons,
        List.mem_cons]
      exact or_congr (hline l) (or_congr Iff.rfl ih)

end Margin

namespace Token

variable {bs cs ds : List Char}

theorem Tidied.append_line (h : Tidied true cs ds) (line : List Char) (b : Bool) :
    Tidied b (line ++ '\n' :: cs) (line ++ '\n' :: ds) := by
  induction line generalizing b with
  | nil => exact .breaks h
  | cons c line ih =>
    by_cases hc : c = '\n'
    · subst hc
      exact .breaks (ih true)
    · exact .goesOn hc (ih false)

/-- What the characters before a line feed become does not depend on those behind it. -/
theorem unifyLineEnds_line (line : List Char) :
    ∃ line', ∀ cs, unifyLineEnds (line ++ '\n' :: cs) = line' ++ '\n' :: unifyLineEnds cs := by
  fun_induction unifyLineEnds line with
  | case1 line ih =>
    obtain ⟨line', hline⟩ := ih
    exact ⟨'\n' :: line', fun cs => by simp [unifyLineEnds, hline]⟩
  | case2 line hline ih =>
    cases line with
    | nil => exact ⟨[], fun cs => by simp [unifyLineEnds]⟩
    | cons c line =>
      obtain ⟨line', hline'⟩ := ih
      refine ⟨'\n' :: line', fun cs => ?_⟩
      have hc : c ≠ '\n' := fun hc => hline line (by rw [hc])
      rw [List.cons_append, List.cons_append, unifyLineEnds.eq_2 _ (by simp [hc]),
        ← List.cons_append, hline', List.cons_append]
  | case3 c line _ hc ih =>
    obtain ⟨line', hline⟩ := ih
    refine ⟨c :: line', fun cs => ?_⟩
    rw [List.cons_append, unifyLineEnds.eq_3 _ _ (fun _ h _ => hc h) hc, hline, List.cons_append]
  | case4 => exact ⟨[], fun cs => by simp [unifyLineEnds]⟩

theorem unifyLineEnds_break (cs : List Char) :
    unifyLineEnds ('\n' :: cs) = '\n' :: unifyLineEnds cs :=
  unifyLineEnds.eq_3 _ _ (by simp) (by simp)

theorem unifyLineEnds_blanks (hbs : ∀ c ∈ bs, Margin.isBlank c = true) (cs : List Char) :
    unifyLineEnds (bs ++ cs) = bs ++ unifyLineEnds cs := by
  induction bs with
  | nil => rfl
  | cons c bs ih =>
    have hc : c ≠ '\r' := by
      rintro rfl
      cases hbs _ List.mem_cons_self
    rw [List.cons_append, unifyLineEnds.eq_3 _ _ (fun _ h _ => hc h) hc,
      ih fun c hmem => hbs c (List.mem_cons_of_mem _ hmem), List.cons_append]

theorem endLast_line (line cs : List Char) :
    endLast (line ++ '\n' :: cs) = line ++ '\n' :: endLast cs := by
  cases cs with
  | nil => simp [endLast]
  | cons c cs =>
    have hlast : (line ++ '\n' :: c :: cs).getLast? = (c :: cs).getLast? := by
      rw [List.getLast?_append, List.getLast?_cons_cons, List.getLast?_cons, Option.some_or]
    rw [endLast, endLast, hlast]
    split <;> simp

theorem endLast_break (cs : List Char) : endLast ('\n' :: cs) = '\n' :: endLast cs :=
  endLast_line [] cs

theorem endLast_blankLine (hbs : BlankLine bs) : endLast bs = bs ++ ['\n'] := by
  obtain ⟨hne, hblank⟩ := hbs
  rw [endLast, if_pos]
  rw [List.getLast?_eq_some_getLast hne, Option.any_some, decide_eq_true_eq]
  intro hlast
  have hbreak := hblank _ (List.getLast_mem hne)
  rw [hlast] at hbreak
  cases hbreak

/-- **Emptying the lines of blanks of a text.** -/
theorem tidied_clear {ls : List (List Char)} (hne : ls ≠ []) :
    Tidied true (endLast (unifyLineEnds (['\n'].intercalate ls)))
      (endLast (unifyLineEnds (['\n'].intercalate (ls.map Margin.clear)))) := by
  induction ls with
  | nil => exact absurd rfl hne
  | cons line ls ih =>
    cases ls with
    | nil =>
      rw [List.map_singleton, List.intercalate_singleton, List.intercalate_singleton]
      obtain hline | ⟨hblank, hline⟩ := Margin.clear_eq line
      · rw [hline]
        exact .refl _ _
      · have hall := unifyLineEnds_blanks hblank.2 []
        rw [List.append_nil, unifyLineEnds, List.append_nil] at hall
        rw [hline, hall, endLast_blankLine hblank]
        exact .drops hblank
    | cons next ls =>
      have htidied := ih (List.cons_ne_nil _ _)
      simp only [List.map_cons] at htidied ⊢
      rw [Margin.intercalate_cons, Margin.intercalate_cons]
      obtain hline | ⟨hblank, hline⟩ := Margin.clear_eq line
      · obtain ⟨line', hline'⟩ := unifyLineEnds_line line
        rw [hline, hline', hline', endLast_line, endLast_line]
        exact htidied.append_line line' true
      · rw [hline, List.nil_append, unifyLineEnds_blanks hblank.2, unifyLineEnds_break,
          unifyLineEnds_break, endLast_line, endLast_break]
        exact .clears hblank htidied

theorem follows_start {s : String} (h : Margin.Unindented s) :
    (Cutting.start s).Follows (Cutting.start (Margin.remove s)) := by
  refine .mk ?_ (by simp)
  have htidied := tidied_clear (Margin.lines_ne_nil s.toList)
  rw [Margin.intercalate_lines, ← Margin.toList_remove h] at htidied
  exact htidied

/-- **A text without a margin is cut into the same tokens** when its lines of blanks are emptied,
unless one of them counts. -/
theorem ofText_remove {s : String} (h : Margin.Unindented s)
    (hneeds : ∀ c, (Cutting.start s).Reaches c → ¬ c.NeedsBlanks) :
    ofText (Margin.remove s) = ofText s :=
  (Cutting.yields_ofText _).unique ((Cutting.yields_ofText s).follows (follows_start h) hneeds)

end Token

/-- **Removing the margin of a text that has none** leaves its statements as they are. -/
theorem parseBody_eq_parse {s : String} (h : Margin.Unindented s)
    (hneeds : ∀ c, (Token.Cutting.start s).Reaches c → ¬ c.NeedsBlanks) :
    parseBody s = parse s := by
  have hnull : (Margin.remove s).toList.contains '\x00' = s.toList.contains '\x00' := by
    have hmem := Margin.mem_intercalate_clear (c := '\x00') (by decide) (Margin.lines s.toList)
    rw [← Margin.toList_remove h, Margin.intercalate_lines] at hmem
    rw [Bool.eq_iff_iff, List.contains_iff_mem, List.contains_iff_mem, hmem]
  rw [parseBody, parse, parse, hnull, Token.ofText_remove h hneeds]

end Narrowing.Code
