import Narrowing.Proofs.Code.Unindented
import Narrowing.Proofs.Dispatch.Chain
/-!
# Bodies that are given as texts

The body of a dispatch may be given as statements or as their text. The margin of a text is
removed before it is read, whatever its lines hold, so the line of blanks of a literal that spans
lines gets lost on the way, and a text that ends with a joined line of blanks cannot be read any
more. Of all other texts without a margin the same dispatch is made as of their statements
(`Generator.generateFrom_text`). The line of blanks is really lost: whatever the generator, the chain of
such a text is not that of its statements (`Generator.node_ne_of_generateFrom`).
-/

namespace Narrowing

open Code

/-- **The statements of a template that is a text** are those of the text as it stands. -/
theorem Template.body_text {s : String} (hunindented : Margin.Unindented s)
    (hneeds : ∀ c, (Token.Cutting.start s).Reaches c → ¬ c.NeedsBlanks) :
    (Template.text s).body = parse s :=
  parseBody_eq_parse hunindented hneeds

namespace Generator

/-- **A text makes the same dispatch as its statements**, with the same warnings and counters, or
the same fault: for every text without a margin that can be read as it stands, where no literal
has a line of blanks inside and no backslash joins a line of blanks at the end. -/
theorem generateFrom_text {α κ π : Type} [Named α] (g : Generator α κ π) (counters : Counters)
    (var : String) (types : List (Descriptor α)) {s : String} {body : List Node}
    (hread : parse s = .ok body) (hunindented : Margin.Unindented s)
    (hneeds : ∀ c, (Token.Cutting.start s).Reaches c → ¬ c.NeedsBlanks) :
    g.generateFrom counters var types (.text s) =
      g.generateFrom counters var types (.code body) := by
  have hbody : (Template.text s).body = (Template.code body).body :=
    (Template.body_text hunindented hneeds).trans hread
  rw [generateFrom, generateFrom, hbody]

end Generator

/-! ## A literal with a line of blanks inside -/

open Token

/-- A text with such a literal. -/
def blankInside : String := "x = \"\"\"a\n   \nb\"\"\""

/-- The statements that give a text to its name. -/
def assigning (s : String) : List Node := [.assign [.mk (.name "x" .store) []] (.constant (.str s))]

theorem parse_blankInside : parse blankInside = .ok (assigning "a\n   \nb") := by
  have htokens : ofText blankInside =
      [word "x", sign "=", text [97, 10, 32, 32, 32, 10, 98] false, newline, finish] := by
    with_unfolding_all rfl
  rw [parse, if_neg (by decide), htokens]
  with_unfolding_all rfl

/-- Without its margin it is another text. -/
theorem parseBody_blankInside : parseBody blankInside = .ok (assigning "a\n\nb") := by
  have hremoved : Margin.remove blankInside = "x = \"\"\"a\n\nb\"\"\"" := by decide +kernel
  have htokens : ofText "x = \"\"\"a\n\nb\"\"\"" =
      [word "x", sign "=", text [97, 10, 10, 98] false, newline, finish] := by
    with_unfolding_all rfl
  rw [parseBody, hremoved, parse, if_neg (by decide), htokens]
  with_unfolding_all rfl

section

variable {α κ π : Type} [Named α] {g : Generator α κ π} {counters : Counters} {var : String}
  {types : List (Descriptor α)} {d : Dispatch α κ π}

/-- Code without accesses is copied as it is. -/
theorem Generator.bodies_of_generate_assigning {s : String}
    (h : (g.generate counters var types (assigning s)).1.result = .ok d) :
    ∀ b ∈ d.branches, b.body = assigning s := by
  intro b hb
  obtain ⟨a, -, -, hbody⟩ := ((generate_makes h).2 b hb).copy
  exact hbody

/-- What a template is read as, if a dispatch is made of it. -/
theorem Generator.generate_of_generateFrom {template : Template} {body : List Node}
    (hbody : template.body = .ok body)
    (h : (g.generateFrom counters var types template).1.result = .ok d) :
    (g.generate counters var types body).1.result = .ok d := by
  unfold generateFrom at h
  split at h
  · cases h
  · rw [hbody] at h
    exact h

/-- **The line of blanks is lost** in every chain that is made of the text, and not in those that are
made of its statements. -/
theorem Generator.node_ne_of_generateFrom {d' : Dispatch α κ π}
    (htext : (g.generateFrom counters var types (.text blankInside)).1.result = .ok d)
    (hcode : (g.generateFrom counters var types (.code (assigning "a\n   \nb"))).1.result = .ok d') :
    d.node ≠ d'.node := by
  have hread : (Template.text blankInside).body = .ok (assigning "a\n\nb") := parseBody_blankInside
  have htext := generate_of_generateFrom hread htext
  have hstated : (Template.code (assigning "a\n   \nb")).body = .ok (assigning "a\n   \nb") := rfl
  have hcode := generate_of_generateFrom hstated hcode
  have hcopies := bodies_of_generate_assigning htext
  have hcopies' := bodies_of_generate_assigning hcode
  obtain ⟨htypes, -⟩ := generate_makes htext
  obtain ⟨htypes', -⟩ := generate_makes hcode
  obtain ⟨-, hsome⟩ := generate_over htext
  unfold Dispatch.types at htypes htypes'
  unfold Dispatch.node
  cases hbranches : d.branches with
  | nil =>
    rw [hbranches] at htypes
    exact absurd htypes.symm hsome
  | cons b bs =>
    cases hbranches' : d'.branches with
    | nil =>
      rw [hbranches'] at htypes'
      exact absurd htypes'.symm hsome
    | cons b' bs' =>
      intro h
      have hbodies : b.body = b'.body := by
        simp only [Dispatch.chainFrom, Node.mk.injEq, List.cons.injEq] at h
        exact h.2.2.1
      rw [hcopies b (hbranches ▸ List.mem_cons_self),
        hcopies' b' (hbranches' ▸ List.mem_cons_self)] at hbodies
      simp [assigning] at hbodies

end

/-! ## A literal of two lines before a line of blanks -/

/-- A literal of two lines, and a line of blanks. -/
def twoLines : String := "'''a\nb'''\n   "

/-- Its statements. -/
def twoLinesBody : List Node := [.exprStmt (.constant (.str "a\nb"))]

theorem parse_twoLines : parse twoLines = .ok twoLinesBody := by
  have htokens : ofText twoLines = [text [97, 10, 98] false, newline, finish] := by
    with_unfolding_all rfl
  rw [parse, if_neg (by decide), htokens]
  with_unfolding_all rfl

/-- Without a backslash, only a literal can need blanks. -/
theorem not_needsBlanks {c : Cutting} (hback : '\\' ∉ c.rest)
    (hliteral : c.lineStart = false → ¬ BlankLiteral c.ahead) : ¬ c.NeedsBlanks :=
  fun hneeds => hneeds.elim (fun hhead => hliteral hhead.1 hhead.2) (not_endsJoined hback)

/-- A line of blanks inside has two line feeds around it. -/
theorem not_hasBlankLine {body : List Char} (h : body.count '\n' < 2) : ¬ HasBlankLine body := by
  rintro ⟨head, bs, tail, -, rfl⟩
  simp only [List.count_append, List.count_cons_self] at h
  omega

/-- The line of blanks stands outside of the literal. -/
theorem not_needsBlanks_twoLines (c : Cutting) (h : (Cutting.start twoLines).Reaches c) :
    ¬ c.NeedsBlanks := by
  have hstart : (Cutting.start twoLines).step =
      ([], some ⟨false, [⟨0, 0⟩], [], "'''a\nb'''\n   \n".toList⟩) := by
    with_unfolding_all rfl
  have hliteral : Cutting.step ⟨false, [⟨0, 0⟩], [], "'''a\nb'''\n   \n".toList⟩ =
      ([text [97, 10, 98] false], some ⟨false, [⟨0, 0⟩], [], "\n   \n".toList⟩) := by
    with_unfolding_all rfl
  have hbreak : Cutting.step ⟨false, [⟨0, 0⟩], [], "\n   \n".toList⟩ =
      ([newline], some ⟨true, [⟨0, 0⟩], [], "   \n".toList⟩) := rfl
  have hblank : Cutting.step ⟨true, [⟨0, 0⟩], [], "   \n".toList⟩ =
      ([], some ⟨true, [⟨0, 0⟩], [], []⟩) := rfl
  obtain rfl | h := h.eq_or_next hstart
  · exact not_needsBlanks (by decide) nofun
  obtain rfl | h := h.eq_or_next hliteral
  · refine not_needsBlanks (by decide) fun _ ⟨marks, quoted, body, rest, hhead, hbody, hline⟩ => ?_
    have hmarks : literalHead? "'''a\nb'''\n   \n".toList =
        some ([], "'''a\nb'''\n   \n".toList) := by
      with_unfolding_all rfl
    cases hmarks.symm.trans hhead
    have hinside : quotedBody "'''a\nb'''\n   \n".toList =
        some ("a\nb".toList, "\n   \n".toList) := rfl
    cases hinside.symm.trans hbody
    exact not_hasBlankLine (by decide) hline
  obtain rfl | h := h.eq_or_next hbreak
  · refine not_needsBlanks (by decide) fun _ ⟨marks, quoted, body, rest, hhead, _⟩ => ?_
    have hnone : literalHead? "\n   \n".toList = none := rfl
    cases hnone.symm.trans hhead
  obtain rfl | h := h.eq_or_next hblank
  · exact not_needsBlanks (by decide) nofun
  obtain rfl := h.eq_of_last rfl
  exact not_needsBlanks (by decide) nofun

/-- It is as good as its statements. -/
theorem Generator.generateFrom_text_twoLines :
    let g : Generator Spelling Class Predicate := { oracle := defaultDecider, table := defaultTable }
    parse twoLines = .ok twoLinesBody ∧ Margin.Unindented twoLines ∧
      (∀ c, (Cutting.start twoLines).Reaches c → ¬ c.NeedsBlanks) ∧
        g.generateFrom {} "v" [StandardClass.int.descriptor] (.text twoLines) =
          g.generateFrom {} "v" [StandardClass.int.descriptor] (.code twoLinesBody) := by
  intro g
  have hunindented : Margin.Unindented twoLines := by decide
  exact ⟨parse_twoLines, hunindented, not_needsBlanks_twoLines,
    g.generateFrom_text {} "v" [StandardClass.int.descriptor] parse_twoLines hunindented
      not_needsBlanks_twoLines⟩

end Narrowing
