import Narrowing.Dispatch.Generate
import Narrowing.Oracle
import Narrowing.Proofs.Code.Binders
/-!
# The warning about a variable that is rebound

A branch is chosen by the value that the variable has at the start, so a body that gives it
another value, or deletes it, is warned about. The warning goes by the nodes that store to the
variable or delete it, in whatever scope they stand.

Four kinds of nodes bind a name without such a node: definitions of functions and of classes,
imports, and handlers that name their exception. They hold the name themselves. So each body
that gives the variable a value in its own scope is warned about, unless all that does so is
among these four (`Generator.warning_of_rebinding`).
-/

namespace Narrowing

open Code

namespace Generator

variable {α κ π : Type} [Named α] {g : Generator α κ π} {counters : Counters} {var : String}
  {types : List (Descriptor α)} {body : List Node}

omit [Named α] in
theorem rebinds_mem_warnings_iff :
    .rebinds var ∈ g.warnings var types body ↔ rebinds var body := by
  unfold warnings
  by_cases h : rebinds var body <;> simp [h]

/-- What is noted while a dispatch is generated are the warnings, if there is anything to
generate it of. -/
theorem notes_generate :
    (g.generate counters var types body).1.notes =
      if types = [] ∨ body = [] then [] else g.warnings var types body := by
  unfold generate
  by_cases htypes : types = []
  · rw [if_pos (by rw [htypes]; rfl), if_pos (.inl htypes)]
    rfl
  · by_cases hbody : body = []
    · rw [if_neg (by simpa using htypes), if_pos (by rw [hbody]; rfl), if_pos (.inr hbody)]
      rfl
    · rw [if_neg (by simpa using htypes), if_neg (by simpa using hbody),
        if_neg (by simp [htypes, hbody])]
      dsimp only
      split <;> rfl

/-- **When the warning is given**: there are types to dispatch over, and a node of the body stores
to the variable or deletes it. -/
theorem rebinds_mem_notes_iff {template : Template} :
    .rebinds var ∈ (g.generateFrom counters var types template).1.notes ↔
      types ≠ [] ∧ ∃ body, template.body = .ok body ∧
        ∃ p ∈ Node.placesOfBody body, p.node.kind.assigns var := by
  unfold generateFrom
  by_cases htypes : types = []
  · rw [if_pos (by rw [htypes]; rfl)]
    exact iff_of_false List.not_mem_nil fun h => h.1 htypes
  · rw [if_neg (by simpa using htypes), and_iff_right htypes]
    cases htemplate : template.body with
    | error e => exact iff_of_false List.not_mem_nil fun ⟨_, h, _⟩ => nomatch h
    | ok body =>
      have hbody : (∃ b, (.ok body : Except ParseError (List Node)) = .ok b ∧
          ∃ p ∈ Node.placesOfBody b, p.node.kind.assigns var) ↔ rebinds var body := by
        rw [rebinds, Node.anyKindList_iff_exists_place]
        exact ⟨fun ⟨b, hb, h⟩ => Except.ok.inj hb ▸ h, fun h => ⟨body, rfl, h⟩⟩
      rw [hbody]
      dsimp only
      rw [notes_generate]
      by_cases hnil : body = []
      · rw [if_pos (.inr hnil), hnil]
        exact iff_of_false List.not_mem_nil nofun
      · rw [if_neg (by simp [htypes, hnil]), rebinds_mem_warnings_iff]

/-- **Which bodies are warned about.** For any variable, types and body, the warning is given just
if there are types and a node of the body stores to the variable or deletes it. If the body gives
the variable a value in its own scope and there is no warning, then it does so by a definition, by
an import or by a handler that names its exception, which stands in no body of a function or class
inside. -/
theorem warning_of_rebinding (g : Generator α κ π) (counters : Counters) (var : String)
    (types : List (Descriptor α)) (template : Template) :
    (.rebinds var ∈ (g.generateFrom counters var types template).1.notes ↔
      types ≠ [] ∧ ∃ body, template.body = .ok body ∧
        ∃ p ∈ Node.placesOfBody body, p.node.kind.assigns var) ∧
    ∀ body, template.body = .ok body → types ≠ [] →
      var ∈ (Node.mentionsOfAll body).filterMap Mention.bound? →
      .rebinds var ∉ (g.generateFrom counters var types template).1.notes →
      ∃ p ∈ Node.placesOfBody body, p.node.kind.names var ∧
        ∀ s ∈ p.above, s.entersBody = false := by
  refine ⟨rebinds_mem_notes_iff, fun body hbody htypes hbound hsilent => ?_⟩
  obtain ⟨p, hp, hkind, hway⟩ := Mention.exists_of_bound hbound
  rcases hkind with hassigns | hnames
  · exact absurd (rebinds_mem_notes_iff.2 ⟨htypes, body, hbody, p, hp, hassigns⟩) hsilent
  · exact ⟨p, hp, hnames, hway⟩

/-- The body `import v`. -/
def importingVariable : List Node := [.importStmt [.importedName "v" none]]

/-- It gives the variable a value, and no warning is given. -/
theorem warning_of_rebinding_importing :
    let g : Generator Spelling Class Predicate := { oracle := defaultDecider, table := defaultTable }
    let notes := (g.generateFrom {} "v" [StandardClass.int.descriptor]
      (.code importingVariable)).1.notes
    "v" ∈ (Node.mentionsOfAll importingVariable).filterMap Mention.bound? ∧
      .rebinds "v" ∉ notes ∧
      (∃ p ∈ Node.placesOfBody importingVariable, p.node.kind.names "v" ∧
        ∀ s ∈ p.above, s.entersBody = false) ∧
      ¬ ∃ p ∈ Node.placesOfBody importingVariable, p.node.kind.assigns "v" := by
  intro g notes
  have hnotes : notes = [] := rfl
  have hbound : "v" ∈ (Node.mentionsOfAll importingVariable).filterMap Mention.bound? :=
    List.mem_cons_self
  have hsilent : .rebinds "v" ∉ notes := by rw [hnotes]; exact List.not_mem_nil
  obtain ⟨hiff, hnames⟩ := g.warning_of_rebinding {} "v" [StandardClass.int.descriptor]
    (.code importingVariable)
  refine ⟨hbound, hsilent, hnames _ rfl nofun hbound hsilent, fun h => hsilent ?_⟩
  exact hiff.2 ⟨nofun, _, rfl, h⟩

end Generator

end Narrowing
