import Mathlib.Data.List.Forall2
import Narrowing.Code.Binding
import Narrowing.Code.Scope
/-!
# Mentions that get fewer

A change of some code may drop names that the code reads or binds, and may read a few new
ones. What is mentioned then **gets thin** (`Mention.Thins`): mentions are lost, but no
parameter, no declaration and none of the scopes in a place of its own; the order of the
others stays, and below a scope the same goes for what is mentioned there.

What is mentioned in a node is put together from what is mentioned in its slots, and
getting thin goes along with each step of that (`Mention.Thins.ofKind`). So a change of
some nodes of a tree thins what the tree mentions.

What is bound after mentions got thin was bound before (`Mention.Thins.mem_cases`), and what
was declared is declared (`Mention.Thins.mem_of_declares`).
-/

namespace Narrowing.Code

namespace Mention

/-- A mention that the rest does not hang on: no parameter, no declaration, and not what
the items of a loop come from. -/
def IsLoose : Mention → Prop
  | parameter _ | declaresGlobal _ | declaresNonlocal _ | source _ => False
  | _ => True

/-- Whether a mention declares a name. -/
def declares (m : Mention) : Bool := m.global?.isSome || m.nonlocal?.isSome

theorem IsLoose.declares {m : Mention} (h : m.IsLoose) : m.declares = false := by
  cases m <;> first | rfl | exact h.elim

/-- **Mentions that get thin**: some loose ones are lost, some names are read that may be,
and the code may wait. -/
inductive Thins (gained : String → Prop) : List Mention → List Mention → Prop
  | nil : Thins gained [] []
  | keep (m : Mention) {ms' ms} (h : Thins gained ms' ms) : Thins gained (m :: ms') (m :: ms)
  | scope (kind : ScopeKind) {inner' inner ms' ms} (hinner : Thins gained inner' inner)
      (h : Thins gained ms' ms) :
      Thins gained (.scope kind inner' :: ms') (.scope kind inner :: ms)
  | source {inner' inner ms' ms} (hinner : Thins gained inner' inner)
      (h : Thins gained ms' ms) : Thins gained (.source inner' :: ms') (.source inner :: ms)
  | reads {name ms' ms} (hname : gained name) (h : Thins gained ms' ms) :
      Thins gained (.reads name :: ms') ms
  | waits {ms' ms} (h : Thins gained ms' ms) : Thins gained (.waits :: ms') ms
  | lose {m ms' ms} (hm : m.IsLoose) (h : Thins gained ms' ms) : Thins gained ms' (m :: ms)

namespace Thins

variable {gained : String → Prop} {ms ms' ns ns' : List Mention} {slots slots' : List (List Mention)}

theorem refl (ms : List Mention) : Thins gained ms ms := by
  induction ms with
  | nil => exact .nil
  | cons m ms ih => exact ih.keep m

theorem append (h : Thins gained ms' ms) (hns : Thins gained ns' ns) :
    Thins gained (ms' ++ ns') (ms ++ ns) := by
  induction h with
  | nil => exact hns
  | keep m _ ih => exact ih.keep m
  | scope kind hinner _ _ ih => exact .scope kind hinner ih
  | source hinner _ _ ih => exact .source hinner ih
  | reads hname _ ih => exact ih.reads hname
  | waits _ ih => exact ih.waits
  | lose hm _ ih => exact ih.lose hm

/-- Loose mentions may all be lost. -/
theorem loseAll (hms : ∀ m ∈ ms, m.IsLoose) (h : Thins gained ns' ns) :
    Thins gained ns' (ms ++ ns) := by
  induction ms with
  | nil => exact h
  | cons m ms ih =>
    obtain ⟨hm, hms⟩ := List.forall_mem_cons.1 hms
    exact (ih hms).lose hm

theorem flatten (h : List.Forall₂ (Thins gained) slots' slots) : Thins gained slots'.flatten slots.flatten := by
  induction h with
  | nil => exact .nil
  | cons h _ ih => exact h.append ih

/-! ## Splitting -/

theorem splitParameters (h : Thins gained ms' ms) :
    Thins gained (splitParameters ms').1 (splitParameters ms).1 ∧
      Thins gained (splitParameters ms').2 (splitParameters ms).2 := by
  induction h with
  | nil => exact ⟨.nil, .nil⟩
  | keep m _ ih =>
    cases m with
    | parameter name => exact ⟨ih.1, ih.2.keep _⟩
    | _ => exact ⟨ih.1.keep _, ih.2⟩
  | scope kind hinner _ _ ih => exact ⟨.scope kind hinner ih.1, ih.2⟩
  | source hinner _ _ ih => exact ⟨.source hinner ih.1, ih.2⟩
  | reads hname _ ih => exact ⟨ih.1.reads hname, ih.2⟩
  | waits _ ih => exact ⟨ih.1.waits, ih.2⟩
  | @lose m _ _ hm _ ih =>
    cases m with
    | parameter name => exact hm.elim
    | _ => exact ⟨ih.1.lose hm, ih.2⟩

theorem openSources (h : Thins gained ms' ms) :
    Thins gained (splitSource.openSources ms') (splitSource.openSources ms) := by
  induction h with
  | nil => exact .nil
  | keep m _ ih =>
    cases m with
    | source ms => exact (refl ms).append ih
    | _ => exact ih.keep _
  | scope kind hinner _ _ ih => exact .scope kind hinner ih
  | source hinner _ _ ih => exact hinner.append ih
  | reads hname _ ih => exact ih.reads hname
  | waits _ ih => exact ih.waits
  | @lose m _ _ hm _ ih =>
    cases m with
    | source ms => exact hm.elim
    | _ => exact ih.lose hm

theorem splitSource (h : Thins gained ms' ms) :
    Thins gained (splitSource ms').1 (splitSource ms).1 ∧
      Thins gained (splitSource ms').2 (splitSource ms).2 := by
  induction h with
  | nil => exact ⟨.nil, .nil⟩
  | keep m h ih =>
    cases m with
    | source ms => exact ⟨refl ms, h.openSources⟩
    | _ => exact ⟨ih.1, ih.2.keep _⟩
  | scope kind hinner _ _ ih => exact ⟨ih.1, .scope kind hinner ih.2⟩
  | source hinner h _ _ => exact ⟨hinner, h.openSources⟩
  | reads hname _ ih => exact ⟨ih.1, ih.2.reads hname⟩
  | waits _ ih => exact ⟨ih.1, ih.2.waits⟩
  | @lose m _ _ hm _ ih =>
    cases m with
    | source ms => exact hm.elim
    | _ => exact ⟨ih.1, ih.2.lose hm⟩

theorem splitAssigned (h : Thins gained ms' ms) :
    Thins gained (splitAssigned ms').1 (splitAssigned ms).1 ∧
      Thins gained (splitAssigned ms').2 (splitAssigned ms).2 := by
  induction h with
  | nil => exact ⟨.nil, .nil⟩
  | keep m _ ih =>
    cases m with
    | assigns name => exact ⟨ih.1.keep _, ih.2.keep _⟩
    | _ => exact ⟨ih.1, ih.2.keep _⟩
  | scope kind hinner _ _ ih => exact ⟨ih.1, .scope kind hinner ih.2⟩
  | source hinner _ _ ih => exact ⟨ih.1, .source hinner ih.2⟩
  | reads hname _ ih => exact ⟨ih.1, ih.2.reads hname⟩
  | waits _ ih => exact ⟨ih.1, ih.2.waits⟩
  | @lose m _ _ hm _ ih =>
    cases m with
    | assigns name => exact ⟨ih.1.lose trivial, ih.2.lose trivial⟩
    | _ => exact ⟨ih.1, ih.2.lose hm⟩

theorem map_inExpression (h : Thins gained ms' ms) :
    Thins gained (ms'.map inExpression) (ms.map inExpression) := by
  induction h with
  | nil => exact .nil
  | keep m _ ih => exact ih.keep _
  | scope kind hinner _ _ ih => exact .scope kind hinner ih
  | source hinner _ _ ih => exact .source hinner ih
  | reads hname _ ih => exact ih.reads hname
  | waits _ ih => exact ih.waits
  | @lose m _ _ hm _ ih => cases m <;> exact ih.lose hm

theorem ofComprehension {isLazy : Bool} (hloops : Thins gained ms' ms)
    (hitems : Thins gained ns' ns) :
    Thins gained (ofComprehension isLazy ms' ns') (ofComprehension isLazy ms ns) := by
  obtain ⟨hsources, hloops⟩ := hloops.splitSource
  obtain ⟨houter, hinner⟩ := (hloops.append hitems).splitAssigned
  exact .scope _ hinner (hsources.append houter)

/-- In a class, where the names that may be read are also read by what they stand for. -/
theorem allInClass (owner : String) (hgained : ∀ name, gained name → gained (privateName owner name))
    (h : Thins gained ms' ms) : Thins gained (allInClass owner ms') (allInClass owner ms) := by
  induction h with
  | nil => exact .nil
  | keep m _ ih => exact ih.keep _
  | scope kind hinner _ ihinner ih =>
    cases kind with
    | classBody => exact .scope _ hinner ih
    | _ => exact .scope _ ihinner ih
  | source _ _ ihinner ih => exact .source ihinner ih
  | reads hname _ ih => exact ih.reads (hgained _ hname)
  | waits _ ih => exact ih.waits
  | @lose m _ _ hm _ ih =>
    refine ih.lose ?_
    rcases m with _ | _ | _ | _ | _ | _ | _ | _ | _ | ⟨kind, ms⟩
    case scope => cases kind <;> trivial
    all_goals exact hm

/-! ## Nodes -/

/-- **What a node mentions gets thin** where what its slots mention does. -/
theorem ofKind (hgained : ∀ owner name, gained name → gained (privateName owner name)) (k : Kind)
    (h : List.Forall₂ (Thins gained) slots' slots) :
    Thins gained (Mention.ofKind k slots') (Mention.ofKind k slots) := by
  cases k with
  | name id ctx => cases ctx <;> exact refl _
  | globalStmt names => exact refl _
  | nonlocalStmt names => exact refl _
  | importedName name asname => exact refl _
  | arg name => exact (flatten h).append (refl _)
  | exceptHandler name => exact (flatten h).append (refl _)
  | await => exact (flatten h).keep _
  | functionDef name isAsync =>
    have hflat := flatten h
    rcases h with _ | ⟨hparameters, _ | ⟨hbody, _ | ⟨hdecorators, _ | ⟨hreturns, _ | _⟩⟩⟩⟩
    case cons.cons.cons.cons.nil =>
      obtain ⟨houter, hinner⟩ := hparameters.splitParameters
      exact ((hdecorators.append houter).append hreturns).append
        (.keep _ (.scope _ (hinner.append hbody) .nil))
    all_goals exact hflat
  | lambda =>
    have hflat := flatten h
    rcases h with _ | ⟨hparameters, _ | ⟨hbody, _ | _⟩⟩
    case cons.cons.nil =>
      obtain ⟨houter, hinner⟩ := hparameters.splitParameters
      exact houter.append (.scope _ (hinner.append hbody) .nil)
    all_goals exact hflat
  | classDef name =>
    have hflat := flatten h
    rcases h with _ | ⟨hbases, _ | ⟨hkeywords, _ | ⟨hbody, _ | ⟨hdecorators, _ | _⟩⟩⟩⟩
    case cons.cons.cons.cons.nil =>
      exact ((hdecorators.append hbases).append hkeywords).append
        (.keep _ (.scope _ (hbody.allInClass name (hgained name)) .nil))
    all_goals exact hflat
  | comprehension isAsync =>
    have hflat := flatten h
    rcases h with _ | ⟨htarget, _ | ⟨hiter, _ | ⟨hifs, _ | _⟩⟩⟩
    case cons.cons.cons.nil => exact .source hiter (((refl _).append htarget).append hifs)
    all_goals exact hflat
  | listComp | setComp | generatorExp =>
    have hflat := flatten h
    rcases h with _ | ⟨helement, _ | ⟨hloops, _ | _⟩⟩
    case cons.cons.nil => exact hloops.ofComprehension helement
    all_goals exact hflat
  | dictComp =>
    have hflat := flatten h
    rcases h with _ | ⟨hkey, _ | ⟨hvalue, _ | ⟨hloops, _ | _⟩⟩⟩
    case cons.cons.cons.nil => exact hloops.ofComprehension (hkey.append hvalue)
    all_goals exact hflat
  | namedExpr =>
    have hflat := flatten h
    rcases h with _ | ⟨htarget, _ | ⟨hvalue, _ | _⟩⟩
    case cons.cons.nil => exact htarget.map_inExpression.append hvalue
    all_goals exact hflat
  | _ => exact flatten h

/-! ## What is there and what was there -/

/-- **What is mentioned was mentioned before**, but for what is gained, and for scopes, where
less may be mentioned now. -/
theorem mem_cases (h : Thins gained ms' ms) {m : Mention} (hm : m ∈ ms') :
    m ∈ ms ∨ m = .waits ∨ (∃ name, m = .reads name ∧ gained name) ∨
      (∃ kind inner' inner, m = .scope kind inner' ∧ .scope kind inner ∈ ms ∧
        Thins gained inner' inner) ∨ ∃ inner', m = .source inner' := by
  induction h with
  | nil => cases hm
  | keep n _ ih =>
    rcases List.mem_cons.1 hm with rfl | hm
    · exact .inl List.mem_cons_self
    · grind
  | scope kind hinner _ _ ih =>
    rcases List.mem_cons.1 hm with rfl | hm
    · exact .inr (.inr (.inr (.inl ⟨kind, _, _, rfl, List.mem_cons_self, hinner⟩)))
    · grind
  | source hinner _ _ ih =>
    rcases List.mem_cons.1 hm with rfl | hm
    · exact .inr (.inr (.inr (.inr ⟨_, rfl⟩)))
    · grind
  | reads hname _ ih =>
    rcases List.mem_cons.1 hm with rfl | hm
    · exact .inr (.inr (.inl ⟨_, rfl, hname⟩))
    · exact ih hm
  | waits _ ih =>
    rcases List.mem_cons.1 hm with rfl | hm
    · exact .inr (.inl rfl)
    · exact ih hm
  | lose _ _ ih => grind

/-- No declaration is new, and no name is newly bound. -/
theorem mem_of_mem (h : Thins gained ms' ms) {m : Mention} (hkind : m.declares ∨ m.bound?.isSome)
    (hm : m ∈ ms') : m ∈ ms := by
  rcases h.mem_cases hm with hm | rfl | ⟨_, rfl, -⟩ | ⟨_, _, _, rfl, -⟩ | ⟨_, rfl⟩
  · exact hm
  all_goals exact hkind.elim nofun nofun

/-- No declaration is lost. -/
theorem mem_of_declares (h : Thins gained ms' ms) {m : Mention}
    (hdeclares : m.declares) (hm : m ∈ ms) : m ∈ ms' := by
  induction h with
  | nil => exact hm
  | keep n _ ih => exact (List.mem_cons.1 hm).elim (· ▸ List.mem_cons_self) fun hm =>
      List.mem_cons_of_mem _ (ih hm)
  | scope kind _ _ _ ih =>
    rcases List.mem_cons.1 hm with rfl | hm
    · cases hdeclares
    · exact List.mem_cons_of_mem _ (ih hm)
  | source _ _ _ ih =>
    rcases List.mem_cons.1 hm with rfl | hm
    · cases hdeclares
    · exact List.mem_cons_of_mem _ (ih hm)
  | reads _ _ ih => exact List.mem_cons_of_mem _ (ih hm)
  | waits _ ih => exact List.mem_cons_of_mem _ (ih hm)
  | @lose n _ _ hn _ ih =>
    rcases List.mem_cons.1 hm with rfl | hm
    · rw [hn.declares] at hdeclares
      cases hdeclares
    · exact ih hm

/-- What is bound now was bound before, in the same order. -/
theorem sublist_bound (h : Thins gained ms' ms) :
    (ms'.filterMap bound?).Sublist (ms.filterMap bound?) := by
  induction h with
  | nil => exact .slnil
  | @keep m _ _ _ ih =>
    cases hm : m.bound? with
    | none => rwa [List.filterMap_cons_none hm, List.filterMap_cons_none hm]
    | some name =>
      rw [List.filterMap_cons_some hm, List.filterMap_cons_some hm]
      exact ih.cons_cons name
  | scope _ _ _ _ ih => exact ih
  | source _ _ _ ih => exact ih
  | reads _ _ ih => exact ih
  | waits _ ih => exact ih
  | @lose m _ _ _ _ ih =>
    cases hm : m.bound? with
    | none => rwa [List.filterMap_cons_none hm]
    | some name =>
      rw [List.filterMap_cons_some hm]
      exact ih.cons name

/-- Mentions that get thin back and forth bind the same names. -/
theorem bound_eq {gained' : String → Prop} (h : Thins gained ms' ms) (h' : Thins gained' ms ms') :
    ms'.filterMap bound? = ms.filterMap bound? := h.sublist_bound.antisymm h'.sublist_bound

/-- What declarations say stays as it is. -/
theorem declared_eq {f : Mention → Option String} (hf : ∀ m : Mention, m.declares = false → f m = none)
    (h : Thins gained ms' ms) : ms'.filterMap f = ms.filterMap f := by
  induction h with
  | nil => rfl
  | keep m _ ih => rw [List.filterMap_cons, List.filterMap_cons, ih]
  | scope kind _ _ _ ih =>
    rw [List.filterMap_cons_none (hf _ rfl), List.filterMap_cons_none (hf _ rfl), ih]
  | source _ _ _ ih =>
    rw [List.filterMap_cons_none (hf _ rfl), List.filterMap_cons_none (hf _ rfl), ih]
  | reads _ _ ih => rw [List.filterMap_cons_none (hf _ rfl), ih]
  | waits _ ih => rw [List.filterMap_cons_none (hf _ rfl), ih]
  | lose hm _ ih => rw [List.filterMap_cons_none (hf _ hm.declares), ih]

theorem globals_eq (h : Thins gained ms' ms) : globals ms' = globals ms :=
  h.declared_eq fun m hm => by cases m <;> first | rfl | cases hm

/-- The same names belong to a scope. -/
theorem locals_eq {gained' : String → Prop} (h : Thins gained ms' ms) (h' : Thins gained' ms ms') :
    locals ms' = locals ms := by
  have hnonlocals : ms'.filterMap nonlocal? = ms.filterMap nonlocal? :=
    h.declared_eq fun m hm => by cases m <;> first | rfl | cases hm
  have hglobals : ms'.filterMap global? = ms.filterMap global? := h.globals_eq
  rw [locals, locals, h.bound_eq h', hglobals, hnonlocals]

/-- **What a comprehension mentions in its own scope gets thin** where what its slots mention does. -/
theorem functionMentions {k : Kind} {slots slots' : List (List Node)} (hopens : k.opensScope)
    (hkeeps : k.keepsCode = false) (hlength : slots.length = k.arities.length)
    (hlength' : slots'.length = k.arities.length)
    (h : List.Forall₂ (Thins gained) (Node.mentionsOfSlots slots') (Node.mentionsOfSlots slots)) :
    Thins gained (Node.mk k slots').functionMentions (Node.mk k slots).functionMentions := by
  have hinner : ∀ {loops' loops items' items : List Mention}, Thins gained loops' loops →
      Thins gained items' items →
        Thins gained (Mention.splitAssigned ((Mention.splitSource loops').2 ++ items')).2
          (Mention.splitAssigned ((Mention.splitSource loops).2 ++ items)).2 :=
    fun hloops hitems => (hloops.splitSource.2.append hitems).splitAssigned.2
  cases k with
  | listComp | setComp =>
    match slots, slots', hlength, hlength' with
    | [_, _], [_, _], _, _ =>
      rcases h with _ | ⟨helement, _ | ⟨hloops, _⟩⟩
      exact hinner hloops helement
  | dictComp =>
    match slots, slots', hlength, hlength' with
    | [_, _, _], [_, _, _], _, _ =>
      rcases h with _ | ⟨hkey, _ | ⟨hvalue, _ | ⟨hloops, _⟩⟩⟩
      exact hinner hloops (hkey.append hvalue)
  | functionDef | classDef | lambda | generatorExp => cases hkeeps
  | _ => cases hopens

end Thins

end Mention

end Narrowing.Code
