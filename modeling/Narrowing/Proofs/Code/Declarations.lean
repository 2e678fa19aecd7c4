import Narrowing.Code.Declarations
import Narrowing.Proofs.Code.Part
import Narrowing.Proofs.Code.Reads
/-!
# Where declarations stand

Only statements declare names, and no expression holds a statement. So what an expression
mentions is loose (`Node.allows_of_is`), and to take the declarations out of some statements
changes what they mention in this alone that the declarations are gone; what they declared is
collected (`Node.hoistList_spec`).
-/

namespace Narrowing.Code

open Mention

/-! ## What parts of code mention -/

/-- **What a part of code may mention.** -/
def Part.Allows : Part → Mention → Prop
  | .statement, _ | .handler, _ => True
  | .parameters, m | .parameter, m => m.IsLoose ∨ ∃ name, m = .parameter name
  | .loop, m => m.IsLoose ∨ ∃ ms, m = .source ms ∧ ∀ n ∈ ms, n.IsLoose
  | _, m => m.IsLoose

namespace Mention

variable {ms ns : List Mention} {slots : List (List Mention)}

/-- Mentions that all are loose. -/
def AllLoose (ms : List Mention) : Prop := ∀ m ∈ ms, m.IsLoose

theorem allLoose_append : AllLoose (ms ++ ns) ↔ AllLoose ms ∧ AllLoose ns := List.forall_mem_append

theorem allLoose_cons {m : Mention} : AllLoose (m :: ms) ↔ m.IsLoose ∧ AllLoose ms :=
  List.forall_mem_cons

/-- What parameters mention splits into loose mentions. -/
theorem allLoose_splitParameters (h : ∀ m ∈ ms, Part.parameters.Allows m) :
    AllLoose (splitParameters ms).1 ∧ AllLoose (splitParameters ms).2 := by
  induction ms with
  | nil => exact ⟨fun m hm => (List.not_mem_nil hm).elim, fun m hm => (List.not_mem_nil hm).elim⟩
  | cons m ms ih =>
    obtain ⟨hm, hms⟩ := List.forall_mem_cons.1 h
    obtain ⟨houter, hinner⟩ := ih hms
    rcases hm with hm | ⟨name, rfl⟩
    · cases m with
      | parameter name => exact hm.elim
      | _ => exact ⟨allLoose_cons.2 ⟨hm, houter⟩, hinner⟩
    · exact ⟨houter, allLoose_cons.2 ⟨trivial, hinner⟩⟩

theorem allLoose_openSources (h : ∀ m ∈ ms, Part.loop.Allows m) :
    AllLoose (splitSource.openSources ms) := by
  induction ms with
  | nil => exact fun m hm => (List.not_mem_nil hm).elim
  | cons m ms ih =>
    obtain ⟨hm, hms⟩ := List.forall_mem_cons.1 h
    rcases hm with hm | ⟨ns, rfl, hns⟩
    · cases m with
      | source ns => exact hm.elim
      | _ => exact allLoose_cons.2 ⟨hm, ih hms⟩
    · exact allLoose_append.2 ⟨hns, ih hms⟩

theorem allLoose_splitSource (h : ∀ m ∈ ms, Part.loop.Allows m) :
    AllLoose (splitSource ms).1 ∧ AllLoose (splitSource ms).2 := by
  induction ms with
  | nil => exact ⟨fun m hm => (List.not_mem_nil hm).elim, fun m hm => (List.not_mem_nil hm).elim⟩
  | cons m ms ih =>
    obtain ⟨hm, hms⟩ := List.forall_mem_cons.1 h
    rcases hm with hm | ⟨ns, rfl, hns⟩
    · cases m with
      | source ns => exact hm.elim
      | _ => exact ⟨(ih hms).1, allLoose_cons.2 ⟨hm, (ih hms).2⟩⟩
    · exact ⟨hns, allLoose_openSources hms⟩

theorem allLoose_splitAssigned (h : AllLoose ms) :
    AllLoose (splitAssigned ms).1 ∧ AllLoose (splitAssigned ms).2 := by
  induction ms with
  | nil => exact ⟨h, h⟩
  | cons m ms ih =>
    obtain ⟨hm, hms⟩ := allLoose_cons.1 h
    obtain ⟨houter, hinner⟩ := ih hms
    cases m with
    | assigns name => exact ⟨allLoose_cons.2 ⟨trivial, houter⟩, allLoose_cons.2 ⟨trivial, hinner⟩⟩
    | _ => exact ⟨houter, allLoose_cons.2 ⟨hm, hinner⟩⟩

theorem allLoose_ofComprehension {isLazy : Bool} (hloops : ∀ m ∈ ms, Part.loop.Allows m)
    (hitems : AllLoose ns) : AllLoose (ofComprehension isLazy ms ns) := by
  obtain ⟨hsources, hloops⟩ := allLoose_splitSource hloops
  obtain ⟨houter, -⟩ := allLoose_splitAssigned (allLoose_append.2 ⟨hloops, hitems⟩)
  exact allLoose_cons.2 ⟨trivial, allLoose_append.2 ⟨hsources, houter⟩⟩

theorem allLoose_map_inExpression (h : AllLoose ms) : AllLoose (ms.map inExpression) := by
  refine List.forall_mem_map.2 fun m hm => ?_
  have := h m hm
  cases m <;> exact this

end Mention

/-- Slots whose parts mention what they may. -/
abbrev SlotsAllow (ps : List Part) (slots : List (List Mention)) : Prop :=
  List.Forall₂ (fun p ms => ∀ m ∈ ms, p.Allows m) ps slots

/-- Slots whose parts mention loosely do so together. -/
theorem allLoose_flatten {ps : List Part} {slots : List (List Mention)} (h : SlotsAllow ps slots)
    (hps : ∀ p ∈ ps, ∀ m, p.Allows m → m.IsLoose) : AllLoose slots.flatten := by
  induction h with
  | nil => exact fun m hm => (List.not_mem_nil hm).elim
  | cons hms _ ih =>
    obtain ⟨hp, hps⟩ := List.forall_mem_cons.1 hps
    exact allLoose_append.2 ⟨fun m hm => hp m (hms m hm), ih hps⟩

/-- **What a node mentions its part may**, where this goes for its slots. -/
theorem allows_ofKind (k : Kind) {slots : List (List Mention)} (h : SlotsAllow k.slotParts slots) :
    ∀ m ∈ Mention.ofKind k slots, k.part.Allows m := by
  cases k with
  | name id ctx => cases ctx <;> exact List.forall_mem_singleton.2 trivial
  | importedName name asname => exact List.forall_mem_singleton.2 trivial
  | arg name =>
    rcases h with _ | ⟨hhint, _ | _⟩
    refine List.forall_mem_append.2 ⟨fun m hm => .inl (hhint m ?_), ?_⟩
    · simpa using hm
    · exact List.forall_mem_singleton.2 (.inr ⟨name, rfl⟩)
  | arguments =>
    intro m hmem
    obtain ⟨ms, hms, hm⟩ := List.mem_flatten.1 hmem
    rcases h with _ | ⟨h₁, _ | ⟨h₂, _ | ⟨h₃, _ | ⟨h₄, _ | ⟨h₅, _ | ⟨h₆, _ | ⟨h₇, _ | _⟩⟩⟩⟩⟩⟩⟩
    simp only [List.mem_cons, List.not_mem_nil, or_false] at hms
    rcases hms with rfl | rfl | rfl | rfl | rfl | rfl | rfl
    · exact h₁ m hm
    · exact h₂ m hm
    · exact h₃ m hm
    · exact h₄ m hm
    · exact .inl (h₅ m hm)
    · exact h₆ m hm
    · exact .inl (h₇ m hm)
  | lambda =>
    rcases h with _ | ⟨hparameters, _ | ⟨hbody, _ | _⟩⟩
    exact allLoose_append.2
      ⟨(allLoose_splitParameters hparameters).1, List.forall_mem_singleton.2 trivial⟩
  | listComp | setComp | generatorExp =>
    rcases h with _ | ⟨helement, _ | ⟨hloops, _ | _⟩⟩
    exact allLoose_ofComprehension hloops helement
  | dictComp =>
    rcases h with _ | ⟨hkey, _ | ⟨hvalue, _ | ⟨hloops, _ | _⟩⟩⟩
    exact allLoose_ofComprehension hloops (allLoose_append.2 ⟨hkey, hvalue⟩)
  | comprehension isAsync =>
    rcases h with _ | ⟨htarget, _ | ⟨hiter, _ | ⟨hifs, _ | _⟩⟩⟩
    refine List.forall_mem_cons.2 ⟨.inr ⟨_, rfl, hiter⟩, fun m hm => .inl ?_⟩
    rcases List.mem_append.1 hm with hm | hm
    · rcases List.mem_append.1 hm with hm | hm
      · cases isAsync <;> simp_all [IsLoose]
      · exact htarget m hm
    · exact hifs m hm
  | namedExpr =>
    rcases h with _ | ⟨htarget, _ | ⟨hvalue, _ | _⟩⟩
    exact allLoose_append.2 ⟨allLoose_map_inExpression htarget, hvalue⟩
  | await =>
    exact allLoose_cons.2 ⟨trivial, allLoose_flatten h (by simp [Kind.slotParts, Part.Allows])⟩
  | functionDef | classDef | returnStmt | delete | assign | augAssign | annAssign | forStmt
  | whileStmt | ifStmt | withStmt | raise | tryStmt | assertStmt | importStmt | importFrom
  | globalStmt | nonlocalStmt | exprStmt | pass | breakStmt | continueStmt | exceptHandler =>
    exact fun _ _ => trivial
  | _ => exact allLoose_flatten h (by simp [Kind.slotParts, Part.Allows])

namespace Node

theorem mentionsOfAll_append (ms ns : List Node) :
    mentionsOfAll (ms ++ ns) = mentionsOfAll ms ++ mentionsOfAll ns := by
  induction ms with
  | nil => rfl
  | cons m ms ih => rw [List.cons_append, mentionsOfAll, mentionsOfAll, ih, List.append_assoc]

mutual

/-- **What a part of code mentions.** -/
theorem allows_of_is : (p : Part) → (n : Node) → n.Is p → ∀ m ∈ n.mentions, p.Allows m
  | p, .mk k slots, h => by
    have hallows := allows_ofKind k (slotsAllow_of_slotsAre _ slots h.2)
    rw [h.1] at hallows
    exact hallows

theorem slotsAllow_of_slotsAre : (ps : List Part) → (ss : List (List Node)) → SlotsAre ps ss →
    SlotsAllow ps (mentionsOfSlots ss)
  | [], [], _ => .nil
  | p :: ps, ns :: ss, h => .cons (allAllow_of_allAre p ns h.1) (slotsAllow_of_slotsAre ps ss h.2)

theorem allAllow_of_allAre : (p : Part) → (ns : List Node) → AllAre p ns →
    ∀ m ∈ mentionsOfAll ns, p.Allows m
  | _, [], _ => fun _ hm => (List.not_mem_nil hm).elim
  | p, n :: ns, h =>
    List.forall_mem_append.2 ⟨allows_of_is p n h.1, allAllow_of_allAre p ns h.2⟩

end

end Node

/-! ## Taking declarations out -/

/-- Mentions without declarations. -/
abbrev Mention.undeclared (ms : List Mention) : List Mention := ms.filter fun m => !m.declares

theorem Mention.undeclared_eq_self {ms : List Mention} (h : ∀ m ∈ ms, m.declares = false) :
    undeclared ms = ms :=
  List.filter_eq_self.2 fun m hm => by rw [h m hm]; rfl

/-- A part of code that no statement is below in the same scope. -/
def Part.IsInner (p : Part) : Prop := p ≠ .statement ∧ p ≠ .handler

theorem Part.IsInner.declares {p : Part} (hp : p.IsInner) {m : Mention} (h : p.Allows m) :
    m.declares = false := by
  cases p with
  | statement => exact absurd rfl hp.1
  | handler => exact absurd rfl hp.2
  | parameters | parameter =>
    rcases h with h | ⟨name, rfl⟩
    · exact h.declares
    · rfl
  | loop =>
    rcases h with h | ⟨ms, rfl, -⟩
    · exact h.declares
    · rfl
  | _ => exact Mention.IsLoose.declares h

theorem Kind.isInner_slotParts {k : Kind} (h : k.part.IsInner) : ∀ p ∈ k.slotParts, p.IsInner := by
  cases k <;> first | exact absurd rfl h.1 | exact absurd rfl h.2 |
    simp [Kind.slotParts, Part.IsInner]

theorem Declared.mem_addNew {name : String} {known names : List String} :
    name ∈ addNew known names ↔ name ∈ known ∨ name ∈ names := by
  unfold addNew
  induction names generalizing known with
  | nil => simp
  | cons n names ih =>
    rw [List.foldl_cons, ih]
    by_cases h : n ∈ known
    · rw [if_pos (by simpa using h)]
      grind
    · rw [if_neg (by simpa using h)]
      grind

theorem Declared.addNew_append (known names more : List String) :
    addNew known (names ++ more) = addNew (addNew known names) more := List.foldl_append

/-- Whether a node is a statement that declares names. -/
def Kind.isDeclaration : Kind → Bool
  | .globalStmt _ | .nonlocalStmt _ => true
  | _ => false

namespace Node

variable {k : Kind}

theorem hoist_of_keeps (hkeeps : k.keepsDeclarations) (d : Declared) (slots : List (List Node)) :
    hoist d (.mk k slots) = (.mk k slots, d) := by
  cases k <;> first | rfl | cases hkeeps

theorem hoist_eq (hdeclaration : k.isDeclaration = false) (hkeeps : k.keepsDeclarations = false)
    (d : Declared) (slots : List (List Node)) :
    hoist d (.mk k slots) = (.mk k (hoistSlots d slots).1, (hoistSlots d slots).2) := by
  cases k <;> first | cases hdeclaration; done | cases hkeeps; done | simp [hoist, Kind.keepsDeclarations]

mutual

/-- No declaration is taken out of an expression. -/
theorem hoist_eq_self : (p : Part) → (n : Node) → (d : Declared) → p.IsInner → n.Is p →
    hoist d n = (n, d)
  | p, .mk k slots, d, hp, h => by
    have hk : k.part.IsInner := h.1 ▸ hp
    have hslots := hoistSlots_eq_self _ slots d (Kind.isInner_slotParts hk) h.2
    cases hkeeps : k.keepsDeclarations with
    | true => exact hoist_of_keeps hkeeps d slots
    | false =>
      have hdeclaration : k.isDeclaration = false := by
        cases k <;> first | rfl | exact absurd rfl hk.1
      rw [hoist_eq hdeclaration hkeeps, hslots]

theorem hoistSlots_eq_self : (ps : List Part) → (ss : List (List Node)) → (d : Declared) →
    (∀ p ∈ ps, p.IsInner) → SlotsAre ps ss → hoistSlots d ss = (ss, d)
  | [], [], _, _, _ => rfl
  | p :: ps, ns :: ss, d, hps, h => by
    obtain ⟨hp, hps⟩ := List.forall_mem_cons.1 hps
    rw [hoistSlots, hoistList_eq_self p ns d hp h.1]
    dsimp only
    rw [hoistSlots_eq_self ps ss d hps h.2]

theorem hoistList_eq_self : (p : Part) → (ns : List Node) → (d : Declared) → p.IsInner →
    AllAre p ns → hoistList d ns = (ns, d)
  | _, [], _, _, _ => rfl
  | p, n :: ns, d, hp, h => by
    rw [hoistList, hoist_eq_self p n d hp h.1]
    dsimp only
    rw [hoistList_eq_self p ns d hp h.2]

end

end Node

/-- **What taking declarations out does**: the mentions stay but for the declarations, and
the names declared are added to those known, in order. -/
structure Declared.Collects (d d' : Declared) (ms' ms : List Mention) : Prop where
  mentions : ms' = undeclared ms
  globals : d'.globals = addNew d.globals (Mention.globals ms)
  nonlocals : d'.nonlocals = addNew d.nonlocals (ms.filterMap nonlocal?)

namespace Declared.Collects

variable {d d' d'' : Declared} {ms ms' ns ns' : List Mention}

theorem none (h : ∀ m ∈ ms, m.declares = false) : Collects d d ms ms := by
  have hnone : Mention.globals ms = [] ∧ ms.filterMap nonlocal? = [] := by
    constructor <;> refine List.filterMap_eq_nil_iff.2 fun m hm => ?_ <;>
      have hm := h m hm <;> cases m <;> first | rfl | cases hm
  refine ⟨(undeclared_eq_self h).symm, ?_, ?_⟩
  · rw [hnone.1]
    rfl
  · rw [hnone.2]
    rfl

theorem append (h : Collects d d' ms' ms) (h' : Collects d' d'' ns' ns) :
    Collects d d'' (ms' ++ ns') (ms ++ ns) := by
  refine ⟨?_, ?_, ?_⟩
  · rw [h.mentions, h'.mentions, undeclared, undeclared, undeclared, List.filter_append]
  · rw [h'.globals, h.globals, Mention.globals, Mention.globals, Mention.globals,
      List.filterMap_append, addNew_append]
  · rw [h'.nonlocals, h.nonlocals, List.filterMap_append, addNew_append]

theorem mem_globals (h : Collects d d' ms' ms) {name : String} :
    name ∈ d'.globals ↔ name ∈ d.globals ∨ .declaresGlobal name ∈ ms := by
  rw [h.globals, mem_addNew, Mention.mem_globals]

theorem mem_nonlocals (h : Collects d d' ms' ms) {name : String} :
    name ∈ d'.nonlocals ↔ name ∈ d.nonlocals ∨ .declaresNonlocal name ∈ ms := by
  rw [h.nonlocals, mem_addNew, Mention.mem_nonlocals]

end Declared.Collects

namespace Node

/-- What an expression mentions declares nothing. -/
theorem declares_of_isInner {p : Part} {n : Node} (hp : p.IsInner) (h : n.Is p) :
    ∀ m ∈ n.mentions, m.declares = false :=
  fun m hm => hp.declares (allows_of_is p n h m hm)

/-- Neither does what a definition mentions. -/
theorem declares_of_keeps {p : Part} {slots : List (List Node)} (hkeeps : k.keepsDeclarations)
    (h : (Node.mk k slots).Is p) : ∀ m ∈ (Node.mk k slots).mentions, m.declares = false := by
  have hslots := slotsAllow_of_slotsAre _ _ h.2
  cases k with
  | functionDef name isAsync =>
    show ∀ m ∈ Mention.ofKind _ (mentionsOfSlots slots), _
    generalize mentionsOfSlots slots = ms at hslots
    rcases hslots with _ | ⟨hparameters, _ | ⟨-, _ | ⟨hdecorators, _ | ⟨hreturns, _ | _⟩⟩⟩⟩
    have houter := (allLoose_splitParameters hparameters).1
    simp only [Mention.ofKind, List.forall_mem_append, List.forall_mem_cons]
    exact ⟨⟨⟨fun m hm => IsLoose.declares (hdecorators m hm), fun m hm => (houter m hm).declares⟩,
      fun m hm => IsLoose.declares (hreturns m hm)⟩, rfl, rfl, fun m hm => by cases hm⟩
  | classDef name =>
    show ∀ m ∈ Mention.ofKind _ (mentionsOfSlots slots), _
    generalize mentionsOfSlots slots = ms at hslots
    rcases hslots with _ | ⟨hbases, _ | ⟨hkeywords, _ | ⟨-, _ | ⟨hdecorators, _ | _⟩⟩⟩⟩
    simp only [Mention.ofKind, List.forall_mem_append, List.forall_mem_cons]
    exact ⟨⟨⟨fun m hm => IsLoose.declares (hdecorators m hm),
      fun m hm => IsLoose.declares (hbases m hm)⟩,
      fun m hm => IsLoose.declares (hkeywords m hm)⟩, rfl, rfl, fun m hm => by cases hm⟩
  | lambda =>
    have hp : p.IsInner := h.1 ▸ ⟨by decide, by decide⟩
    exact declares_of_isInner hp h
  | _ => cases hkeeps

/-- A statement that declares names becomes one that does nothing. -/
theorem hoist_declaration {p : Part} {slots : List (List Node)} {d : Declared}
    (hdeclaration : k.isDeclaration) (h : (Node.mk k slots).Is p) :
    (hoist d (.mk k slots)).1.Is p ∧
      Declared.Collects d (hoist d (.mk k slots)).2 (hoist d (.mk k slots)).1.mentions
        (Node.mk k slots).mentions := by
  cases k with
  | globalStmt names =>
    refine ⟨⟨h.1, trivial⟩, ?_, ?_, ?_⟩
    · show [] = undeclared (names.map declaresGlobal)
      simp [Mention.declares, global?]
    · show Declared.addNew d.globals names = Declared.addNew _ ((names.map declaresGlobal).filterMap _)
      simp [List.filterMap_map, Function.comp_def, global?]
    · show d.nonlocals = Declared.addNew _ ((names.map declaresGlobal).filterMap _)
      simp [List.filterMap_map, Function.comp_def, nonlocal?, Declared.addNew]
  | nonlocalStmt names =>
    refine ⟨⟨h.1, trivial⟩, ?_, ?_, ?_⟩
    · show [] = undeclared (names.map declaresNonlocal)
      simp [Mention.declares, nonlocal?]
    · show d.globals = Declared.addNew _ ((names.map declaresNonlocal).filterMap _)
      simp [List.filterMap_map, Function.comp_def, global?, Declared.addNew]
    · show Declared.addNew d.nonlocals names =
        Declared.addNew _ ((names.map declaresNonlocal).filterMap _)
      simp [List.filterMap_map, Function.comp_def, nonlocal?]
  | _ => cases hdeclaration

/-- Other statements, and handlers, mention what their slots do, besides the names that
handlers bind. -/
theorem collects_ofKind {d d' : Declared} {slots' slots : List (List Mention)}
    (hp : ¬k.part.IsInner) (hkeeps : k.keepsDeclarations = false)
    (hdeclaration : k.isDeclaration = false)
    (h : Declared.Collects d d' slots'.flatten slots.flatten) :
    Declared.Collects d d' (Mention.ofKind k slots') (Mention.ofKind k slots) := by
  cases k with
  | exceptHandler name =>
    refine h.append (.none fun m hm => ?_)
    obtain ⟨id, -, rfl⟩ := List.mem_map.1 hm
    rfl
  | functionDef | classDef => cases hkeeps
  | globalStmt | nonlocalStmt => cases hdeclaration
  | _ => first | exact h | exact absurd ⟨nofun, nofun⟩ hp

mutual

/-- **Taking the declarations out of a statement.** -/
theorem hoist_spec : (p : Part) → (n : Node) → (d : Declared) → n.Is p →
    (hoist d n).1.Is p ∧ Declared.Collects d (hoist d n).2 (hoist d n).1.mentions n.mentions
  | p, .mk k slots, d, h => by
    obtain ⟨hslots, hcollects⟩ := hoistSlots_spec _ slots d h.2
    cases hkeeps : k.keepsDeclarations with
    | true =>
      rw [hoist_of_keeps hkeeps]
      exact ⟨h, .none (declares_of_keeps hkeeps h)⟩
    | false =>
      cases hdeclaration : k.isDeclaration with
      | true => exact hoist_declaration hdeclaration h
      | false =>
        rw [hoist_eq hdeclaration hkeeps]
        refine ⟨⟨h.1, hslots⟩, ?_⟩
        by_cases hp : k.part.IsInner
        · rw [hoistSlots_eq_self _ slots d (Kind.isInner_slotParts hp) h.2]
          exact .none (declares_of_isInner (h.1 ▸ hp) h)
        · exact collects_ofKind hp hkeeps hdeclaration hcollects

theorem hoistSlots_spec : (ps : List Part) → (ss : List (List Node)) → (d : Declared) →
    SlotsAre ps ss → SlotsAre ps (hoistSlots d ss).1 ∧
      Declared.Collects d (hoistSlots d ss).2 (mentionsOfSlots (hoistSlots d ss).1).flatten
        (mentionsOfSlots ss).flatten
  | [], [], d, _ => ⟨trivial, .none fun _ hm => (List.not_mem_nil hm).elim⟩
  | p :: ps, ns :: ss, d, h => by
    obtain ⟨hns, hcollects⟩ := hoistList_spec p ns d h.1
    obtain ⟨hss, hrest⟩ := hoistSlots_spec ps ss (hoistList d ns).2 h.2
    exact ⟨⟨hns, hss⟩, hcollects.append hrest⟩

theorem hoistList_spec : (p : Part) → (ns : List Node) → (d : Declared) → AllAre p ns →
    AllAre p (hoistList d ns).1 ∧
      Declared.Collects d (hoistList d ns).2 (mentionsOfAll (hoistList d ns).1) (mentionsOfAll ns)
  | _, [], d, _ => ⟨trivial, .none fun _ hm => (List.not_mem_nil hm).elim⟩
  | p, n :: ns, d, h => by
    obtain ⟨hn, hcollects⟩ := hoist_spec p n d h.1
    obtain ⟨hns, hrest⟩ := hoistList_spec p ns (hoist d n).2 h.2
    exact ⟨⟨hn, hns⟩, hcollects.append hrest⟩

end

end Node

/-- **Declarations that stand in front** declare what was collected. -/
theorem Declared.mentions_statements (d : Declared) :
    Node.mentionsOfAll d.statements =
      d.globals.map .declaresGlobal ++ d.nonlocals.map .declaresNonlocal := by
  have hglobals : Node.mentionsOfAll (if d.globals.isEmpty then [] else [.globalStmt d.globals]) =
      d.globals.map .declaresGlobal := by
    cases hd : d.globals with
    | nil => rfl
    | cons => exact List.append_nil _
  have hnonlocals : Node.mentionsOfAll
      (if d.nonlocals.isEmpty then [] else [.nonlocalStmt d.nonlocals]) =
        d.nonlocals.map .declaresNonlocal := by
    cases hd : d.nonlocals with
    | nil => rfl
    | cons => exact List.append_nil _
  rw [statements, Node.mentionsOfAll_append, hglobals, hnonlocals]

theorem Declared.mem_mentions_statements {d : Declared} {m : Mention} :
    m ∈ Node.mentionsOfAll d.statements ↔
      (∃ name ∈ d.globals, m = .declaresGlobal name) ∨
        ∃ name ∈ d.nonlocals, m = .declaresNonlocal name := by
  rw [mentions_statements, List.mem_append, List.mem_map, List.mem_map]
  simp only [eq_comm]

end Narrowing.Code
