import Narrowing.Proofs.Dispatch.Names
import Narrowing.Proofs.Dispatch.Run
import Narrowing.Proofs.Run.Following
/-!
# What a specialized function chooses its branch by

The chain of a specialized function stands where the body of the original stood, among the names
of the original. Most of what it refers to it has under names of its own, which the function around
it binds. No class gives these another meaning, so they stand for what is bound there unless the
original binds or declares one of them, or is itself called so (`Variant.Installed.gives_binding`).

But instances are checked by the name `isinstance`, which nothing binds for the chain. It stands for
whatever the original makes of it: for a parameter or another local name, for the specialized
function itself if that is its name, and else for what the module holds under it
(`Variant.checker?`). Only if that is the check of the language does the branch go by the class of
the value (`specialize_chooses`).
-/

namespace Narrowing

open Code Run

/-! ## The names that a chain uses -/

/-- The names of a chain mean the same in all classes, since they end with two underscores. -/
theorem Dispatch.not_isRenamed_of_mem {α κ π : Type} {d : Dispatch α κ π}
    {b : String × Binding α κ π} (h : b ∈ d.bindings) : ¬ IsRenamed b.1 := fun hrenamed =>
  hrenamed.not_suffix (suffix_of_mem_bindings h)

theorem not_isRenamed_isinstance : ¬ IsRenamed "isinstance" := by
  intro h
  cases h.head

/-- The function around a specialized one has no other name for the check than that of the
specialized one. -/
theorem Variant.isinstance_mem_factoryNames {w : Variant} :
    "isinstance" ∈ w.factoryNames ↔ "isinstance" = w.subject.function.name := by
  rw [factoryNames, List.mem_append, List.mem_singleton]
  refine or_iff_right fun hmem => ?_
  obtain ⟨b, hb, hname⟩ := List.mem_map.1 hmem
  have hsuffix := Dispatch.suffix_of_mem_bindings hb
  rw [hname] at hsuffix
  exact absurd hsuffix (by decide)

/-! ## Names in a call of a specialized function -/

/-- **The frame around a specialized function**, where a call of it begins: it has the names of the
function around it and holds what they stood for when the function was made. -/
structure Variant.IsAround (w : Variant) (new : Function) (itself : Value) (r : Ref) (σ : Store) :
    Prop where
  inner : new.site.inner = [r]
  shows : ∀ name, σ.Shows name [w.factoryScope] [r]
  holds : ∃ fr, σ.frame? r = some fr ∧ w.Holds fr itself

section Calls

variable {w : Variant} {new : Function} {v : Value} {r : Ref} {ρ σ τ : Store}
  {bindings : List (String × Value)} {there : Site} {name : String}

theorem Variant.Installed.isAround {fr : Frame} (hw : w.Installed ρ new)
    (hr : new.site.inner = [r]) (hfr : ρ.frame? r = some fr) (hholds : w.Holds fr v)
    (hframe : σ.frame? r = ρ.frame? r) : w.IsAround new v r σ := by
  refine ⟨hr, fun name => ?_, fr, hframe.trans hfr, hholds⟩
  obtain ⟨r', hr', hshows⟩ := hw.around
  obtain rfl : r' = r := List.head_eq_of_cons_eq (hr'.symm.trans hr)
  show List.Forall₂ (fun S q => ∃ f, σ.frame? q = some f ∧ f.Shows name S) _ _
  rw [List.forall₂_cons, hframe]
  exact ⟨(List.forall₂_cons.1 (hshows name)).1, .nil⟩

/-- It is there in the call. -/
theorem Variant.IsAround.enter (ha : w.IsAround new v r σ)
    (h : Run.enter new bindings σ = .done there τ) : w.IsAround new v r τ := by
  obtain ⟨fr, hfr, hholds⟩ := ha.holds
  obtain ⟨fr', -, rfl, -⟩ := exists_of_enter h
  refine ⟨ha.inner, fun name => (ha.shows name).alloc _, fr, ?_, hholds⟩
  rw [Store.frame?_eq_some] at hfr ⊢
  exact Store.get?_alloc_of_some hfr _

namespace Variant.Installed

variable (hw : w.Installed ρ new) (h : enter new bindings σ = .done there τ)

include hw h

/-- In a specialized function names stand for themselves. -/
theorem mangled_eq : there.mangled name = name := by
  obtain ⟨fr, rfl, -⟩ := exists_of_enter h
  show new.site.mangled name = name
  rw [Site.mangled, hw.owner]

/-- A name of its own gives what it is given. -/
theorem gives_own (hscope : resolve name [new.site.scopeOf new.definition] = .scope) {u : Value}
    (hu : bindings.lookup name = some u) : Gives τ there name u := by
  unfold Gives
  rw [hw.mangled_eq h, readName_of_scope hw.hasScope h hscope, hu]

variable (ha : w.IsAround new v r σ)

include ha

/-- What it leaves to what is around has its place in the frame around it, or in the module. -/
theorem place_eq (hne : resolve name [new.site.scopeOf new.definition] ≠ .scope) :
    τ.place name there.chain =
      if resolve name [new.site.scopeOf new.definition] = .around ∧ name ∈ w.factoryNames
      then .frame r else .module := by
  have hstands : there.StandsIn τ name [new.site.scopeOf new.definition] new.site.inner :=
    enter_standsIn hw.hasScope ⟨[], rfl, .nil⟩ h
  rw [hstands.place_eq hne, ha.inner, Variant.place_of_shows ((ha.enter h).shows name)]
  by_cases haround : resolve name [new.site.scopeOf new.definition] = .around
  · simp [visible, haround]
  · simp [visible, haround]

/-- **What the frame around it holds** is what a name gives that is left to it. -/
theorem gives_around (haround : resolve name [new.site.scopeOf new.definition] = .around)
    (hname : name ∈ w.factoryNames) {u : Value}
    (hu : ∀ fr, w.Holds fr v → fr.bindings.lookup name = some u) : Gives τ there name u := by
  have hne : resolve name [new.site.scopeOf new.definition] ≠ .scope := by
    rw [haround]
    nofun
  have hplace := hw.place_eq h ha hne
  rw [if_pos ⟨haround, hname⟩] at hplace
  obtain ⟨fr, hfr, hholds⟩ := (ha.enter h).holds
  unfold Gives
  rw [hw.mangled_eq h]
  exact readName_of_frame hplace hfr (hu fr hholds)

end Variant.Installed

end Calls

/-! ## Names that the original spares -/

/-- **A function spares a name** if the name is none of its scope, is not declared there, and is
not its own. -/
def Subject.Spares (t : Subject) (n : Node) (name : String) : Prop :=
  resolve name [t.function.site.scopeOf n] = .around ∧ name ≠ t.function.name

/-- **What instances are checked by** in a call of a specialized function, where some variables have
values and the module holds something under the name of the check, or nothing: what that name
stands for in the function. There may be nothing. -/
def Variant.checker? (w : Variant) (new : Function) (itself : Value)
    (bindings : List (String × Value)) (global? : Option Value) : Option Value :=
  match resolve "isinstance" [new.site.scopeOf new.definition] with
  | .scope => bindings.lookup "isinstance"
  | .around =>
    if "isinstance" = w.subject.function.name then some itself
    else some (global?.getD (.builtin .isinstance))
  | .module => some (global?.getD (.builtin .isinstance))

/-- What the name of the check is in a module, or in the language. -/
theorem readGlobal_isinstance (c : Site) (σ : Store) :
    readGlobal c "isinstance" σ =
      .done ((σ.binding? c.globals "isinstance").getD (.builtin .isinstance)) σ := by
  have hlanguage : languageName? "isinstance" = some (.builtin .isinstance) := rfl
  unfold readGlobal
  rw [get_bind, hlanguage]
  cases σ.binding? c.globals "isinstance" <;> rfl

namespace Variant.Installed

variable {w : Variant} {new : Function} {n : Node} {ρ σ τ : Store} {r : Ref} {v : Value}
  {bindings : List (String × Value)} {there : Site}

/-- **The check has a name** that gives what it is said to. -/
theorem readName_isinstance (hw : w.Installed ρ new) (h : enter new bindings σ = .done there τ)
    (ha : w.IsAround new v r σ) :
    readName there (there.mangled "isinstance") τ =
      match w.checker? new v bindings (τ.binding? new.site.globals "isinstance") with
      | some u => .done u τ
      | none => .failed .unboundLocal τ := by
  have hmodule : resolve "isinstance" [new.site.scopeOf new.definition] ≠ .scope →
      ¬ (resolve "isinstance" [new.site.scopeOf new.definition] = .around ∧
        "isinstance" = w.subject.function.name) →
      readName there "isinstance" τ =
        .done ((τ.binding? new.site.globals "isinstance").getD (.builtin .isinstance)) τ := by
    intro hne hnot
    have hplace := hw.place_eq h ha hne
    rw [if_neg fun hboth => hnot ⟨hboth.1, isinstance_mem_factoryNames.1 hboth.2⟩] at hplace
    rw [readName_of_module hplace, readGlobal_isinstance]
    obtain ⟨fr, rfl, -⟩ := exists_of_enter h
    rfl
  unfold checker?
  cases hresolve : resolve "isinstance" [new.site.scopeOf new.definition] with
  | scope =>
    rw [hw.mangled_eq h]
    exact readName_of_scope hw.hasScope h hresolve
  | module =>
    rw [hw.mangled_eq h]
    exact hmodule (by rw [hresolve]; nofun) (by rw [hresolve]; nofun)
  | around =>
    by_cases hown : "isinstance" = w.subject.function.name
    · rw [if_pos hown]
      exact hw.gives_around h ha hresolve (isinstance_mem_factoryNames.2 hown)
        fun fr hholds => hown ▸ hholds.own
    · rw [if_neg hown, hw.mangled_eq h]
      exact hmodule (by rw [hresolve]; nofun) fun hboth => hown hboth.2

variable (hw : w.Installed ρ new) (hread : w.subject.IsRead)
  (hn : w.subject.function.readDefinition = .ok n) (hcopies : w.IsThin)

include hw hread hn hcopies

/-- What the original leaves to the module or to what is around it is left so by the specialized
function. -/
theorem resolve_eq {name : String} (hname : ¬ IsRenamed name)
    (hne : resolve name [w.subject.function.site.scopeOf n] ≠ .scope) :
    resolve name [new.site.scopeOf new.definition] =
      resolve name [w.subject.function.site.scopeOf n] := by
  rw [hw.definition]
  exact resolve_eq_of_atMost (.cons (Variant.atMost_scopeOf hread hn hcopies hw.owner
    (leavesAlone_of_not_isRenamed hname _)) .nil) hne

/-- **The names of the chain** give what they are bound to, if the original spares them. -/
theorem gives_binding (h : enter new bindings σ = .done there τ) (ha : w.IsAround new v r σ)
    {b : String × Binding Spelling Class Predicate} (hb : b ∈ w.dispatch.bindings)
    (hspares : w.subject.Spares n b.1) : Gives τ there b.1 b.2.value := by
  have haround := hw.resolve_eq hread hn hcopies (Dispatch.not_isRenamed_of_mem hb)
    (by rw [hspares.1]; nofun)
  exact hw.gives_around h ha (haround.trans hspares.1)
    (List.mem_append_left _ (List.mem_map_of_mem hb)) fun fr hholds =>
      hholds.chain b.1 b.2 (Dispatch.lookup_bindings hb) hspares.2

/-- If the original spares its name, the check is that of the module, or of the language. -/
theorem checker?_of_spares (hspares : w.subject.Spares n "isinstance")
    (bindings : List (String × Value)) (global? : Option Value) :
    w.checker? new v bindings global? = some (global?.getD (.builtin .isinstance)) := by
  have haround := hw.resolve_eq hread hn hcopies not_isRenamed_isinstance
    (by rw [hspares.1]; nofun)
  unfold checker?
  rw [haround, hspares.1]
  exact if_neg hspares.2

/-- If it is the name of a parameter, the check is the argument. -/
theorem checker?_of_parameter (hparameter : "isinstance" ∈ (Signature.ofFunction n).variableNames)
    (hglobal : .declaresGlobal "isinstance" ∉ n.functionMentions)
    (bindings : List (String × Value)) (global? : Option Value) :
    w.checker? new v bindings global? = bindings.lookup "isinstance" := by
  obtain ⟨hsignature, hdeclares, -⟩ := Variant.names_spec hread hn hcopies
  have hnot : "isinstance" ∉ Mention.globals (bareDefinition w.definition).functionMentions := by
    rw [Mention.mem_globals, hdeclares _ rfl]
    exact hglobal
  have hscope : resolve "isinstance" [new.site.scopeOf new.definition] = .scope := by
    rw [hw.definition, Site.scopeOf_of_outside hw.owner, hsignature]
    simp [resolve, hnot, hparameter]
  unfold checker?
  rw [hscope]

end Variant.Installed

/-! ## From the call to the chain -/

/-- A statement that does nothing. -/
def Meaning.IsIdle (m : Meaning) : Prop := ∀ c, m.effect c = pure .next

/-- Idle statements come to what stands behind them. -/
theorem inOrder_of_idle {ms : List Meaning} (hms : ∀ m ∈ ms, m.IsIdle) (ns : List Meaning) (c : Site) :
    inOrder c (ms ++ ns) = inOrder c ns := by
  induction ms with
  | nil => rfl
  | cons m ms ih =>
    obtain ⟨hm, hms⟩ := List.forall_mem_cons.1 hms
    rw [List.cons_append, inOrder, hm, pure_bind]
    exact ih hms

theorem meaningsOfAll_eq_map (ns : List Node) : Node.meaningsOfAll ns = ns.map Node.meaning := by
  induction ns with
  | nil => rfl
  | cons n ns ih => rw [Node.meaningsOfAll, ih, List.map_cons]

/-- Declarations do nothing when they run. -/
theorem isIdle_statements (d : Declared) : ∀ n ∈ d.statements, n.meaning.IsIdle := by
  intro n hn
  unfold Declared.statements at hn
  rcases List.mem_append.1 hn with hn | hn
  · split at hn
    · cases hn
    · obtain rfl := List.mem_singleton.1 hn
      exact fun c => rfl
  · split at hn
    · cases hn
    · obtain rfl := List.mem_singleton.1 hn
      exact fun c => rfl

/-- Documentation does nothing either. -/
theorem isIdle_documentation (body : List Node) :
    ∀ n ∈ (splitDocumentation body).1, n.meaning.IsIdle := by
  intro n hn
  unfold splitDocumentation at hn
  split at hn
  · split at hn
    · obtain rfl := List.mem_singleton.1 hn
      exact fun c => rfl
    · cases hn
  · cases hn

/-- What a call gives whose body ends so. -/
def Signal.result : Signal → Value
  | .returned v => v
  | _ => .none

/-- What a call of a definition gives. -/
theorem body_functionDef (name : String) (isAsync : Bool) (parameters : Node) (body : List Node)
    (decorators returns : List Node) (c : Site) :
    (Node.functionDef name isAsync parameters body decorators returns).meaning.body c = (do
      return (← inOrder c (Node.meaningsOfAll body)).result) := by
  show (inOrder c (Node.meaningsOfAll body) >>= fun signal => match signal with
    | .returned v => (pure v : Run Value)
    | _ => pure .none) = _
  refine congrArg (inOrder c (Node.meaningsOfAll body) >>= ·) (funext fun signal => ?_)
  cases signal <;> rfl

/-- **A call of a specialized function comes to its chain**, and gives what that returns. -/
theorem Variant.body_eq {w : Variant} {new : Function} (hw : w.subject.IsRead)
    (hdefinition : new.definition = bareDefinition w.definition) (c : Site) :
    new.definition.meaning.body c = (do return (← w.dispatch.node.meaning.effect c).result) := by
  obtain ⟨isAsync, parameters, body, _, returns, -, hsubject, hdocumentation, -⟩ := hw
  have hidle : ∀ m ∈ Node.meaningsOfAll (w.subject.documentation ++ w.subject.declared.statements),
      m.IsIdle := by
    rw [meaningsOfAll_eq_map, List.forall_mem_map, List.forall_mem_append]
    exact ⟨hdocumentation ▸ isIdle_documentation body, isIdle_statements _⟩
  rw [hdefinition, Variant.bareDefinition_eq hsubject, body_functionDef, meaningsOfAll_eq_map,
    List.map_append, ← meaningsOfAll_eq_map, inOrder_of_idle hidle, List.map_singleton,
    inOrder_singleton]

/-! ## What the choice goes by -/

namespace Dispatch

/-- **A dispatch goes by classes**: it runs as the copy of its first branch that accepts the value,
and comes to the refusal if no branch does. -/
def GoesByClasses (d : Dispatch Spelling Class Predicate) (s : Session) (c : Site) (v : Value) :
    Prop :=
  (∃ before b after, d.branches = before ++ b :: after ∧
    (∀ b' ∈ before, s.store.accepts b'.test v = .ok false) ∧ s.store.accepts b.test v = .ok true ∧
    s.run (d.node.meaning.effect c) = s.run (inOrder c.deeper (Node.meaningsOfAll b.body))) ∨
  (∀ b ∈ d.branches, s.store.accepts b.test v = .ok false) ∧
    ∃ margin line, s.run (d.node.meaning.effect c) =
      s.run ((refusal d.var).meaning.effect { c with margin, line })

/-- **A dispatch goes by a checker**: it calls that on the value and on what its first branch tests
for, and runs as the copy of this branch if the answer is true. -/
def GoesBy (d : Dispatch Spelling Class Predicate) (checker : Value) (s : Session) (c : Site)
    (v : Value) : Prop :=
  ∀ b bs, d.branches = b :: bs → ∃ rest : Run Signal, s.run (d.node.meaning.effect c) = s.run do
    let answer ← aside c (invoke checker [v, (Binding.test b.test).value] >>= tellApart)
    if ← aside c (isTrue answer) then inOrder c.deeper (Node.meaningsOfAll b.body) else rest

variable {d : Dispatch Spelling Class Predicate} {s : Session} {c : Site} {v u : Value}

/-- **The first condition** is a call of whatever has the name of the check. -/
theorem goesBy_of_gives (hisinstance : Gives s.store c "isinstance" u)
    (hnames : ∀ b ∈ d.bindings, Gives s.store c b.1 b.2.value) (hvar : Gives s.store c d.var v)
    (hclass : ∀ b ∈ d.branches, b.test.isClassTest) : d.GoesBy u s c v := by
  intro b bs hbs
  have hb : (testName 0, Binding.test b.test) ∈ d.bindings := by
    simp [bindings, hbs]
  have hargs : ∀ a ∈ [(d.var, v), (testName 0, (Binding.test b.test).value)],
      Gives s.store (c.at_ (headLine c)) a.1 a.2 := by
    intro a ha
    rcases List.mem_pair.1 ha with rfl | rfl
    · exact gives_at hvar _
    · exact gives_at (hnames _ hb) _
  have hcondition := run_call_names (gives_at hisinstance (headLine c)) hargs
  simp only [List.map_cons, List.map_nil, callHere_pair, aside_at] at hcondition
  refine ⟨alternative c [chainFrom d.var 1 bs], ?_⟩
  rw [node, hbs, chainFrom, condition, if_pos (hclass b (hbs ▸ List.mem_cons_self)), effect_ifStmt,
    Session.run_bind, hcondition, ← Session.run_bind]

/-- Where the name has no value, that is how the dispatch fails. -/
theorem fails_of_isinstance {e : Failure} {σ : Store} (hbranches : d.branches ≠ [])
    (hclass : ∀ b ∈ d.branches, b.test.isClassTest)
    (h : readName c (c.mangled "isinstance") s.store = .failed e σ) :
    (s.run (d.node.meaning.effect c)).1 = .error e := by
  obtain ⟨b, bs, hbs⟩ := List.exists_cons_of_ne_nil hbranches
  rw [node, hbs, chainFrom, condition, if_pos (hclass b (hbs ▸ List.mem_cons_self)), effect_ifStmt]
  refine Session.run_bind_error (Session.run_bind_error ?_ _) _
  show (Session.settle (readName c (c.mangled "isinstance") s.store) s.interrupted).1 = _
  rw [h]
  rfl

end Dispatch

/-- **What a specialized function chooses its branch by.** A call of it comes to the chain, with all
that the store holds. If the original spares the names of the chain, the chain asks what
`isinstance` stands for in the call, and so the branch is the first one of whose class the value is
if that is the check of the language. It is what the module holds under the name, or else the check
of the language, if the original spares the name. But a parameter of that name is asked instead, and
so are another local variable, which may have no value yet, and the specialized function itself if
that is its name. -/
theorem specialize_chooses {s s' : Session} {g : Generator Spelling Class Predicate}
    {counters counters' : Counters} {c : Site} {hasSource : Bool} {original v : Value}
    {var : String} {types : List TypeDescriptor} {notes : List (Note Spelling)}
    (h : s.run (g.specialize counters c hasSource original var types) =
      (.ok (⟨notes, .ok v⟩, counters'), s')) :
    ∃ (w : Variant) (new : Function) (n : Node) (r : Ref),
      s.store.cell? original = some (.function w.subject.function) ∧ w.subject.IsRead ∧
      w.subject.function.readDefinition = .ok n ∧ s'.store.cell? v = some (.function new) ∧
      w.Installed s'.store new ∧ new.site.inner = [r] ∧ w.dispatch.types = types ∧
      (∀ b ∈ w.dispatch.branches, g.Makes var w.subject.body b) ∧
      (w.subject.Spares n "isinstance" → ∀ bindings global?,
        w.checker? new v bindings global? = some (global?.getD (.builtin .isinstance))) ∧
      ("isinstance" ∈ (Signature.ofFunction n).variableNames →
        .declaresGlobal "isinstance" ∉ n.functionMentions → ∀ bindings global?,
          w.checker? new v bindings global? = bindings.lookup "isinstance") ∧
      ∀ {t : Session} {bindings : List (String × Value)} {there : Site} {τ : Store} {x : Value},
        enter new bindings t.store = .done there τ → t.store.frame? r = s'.store.frame? r →
        Gives τ there var x → (∀ b ∈ w.dispatch.branches, b.test.isClassTest) →
        (∀ b ∈ w.dispatch.bindings, w.subject.Spares n b.1) →
        ∃ u : Session, u.store.cells = τ.cells ∧
          t.run (runBody new bindings) =
            u.run (do return (← w.dispatch.node.meaning.effect there).result) ∧
          match w.checker? new v bindings (τ.binding? new.site.globals "isinstance") with
          | some checker => w.dispatch.GoesBy checker u there x ∧
              (checker = .builtin .isinstance → w.dispatch.GoesByClasses u there x)
          | none => (u.run (w.dispatch.node.meaning.effect there)).1 = .error .unboundLocal := by
  obtain ⟨w, t₀, hf, hread, hdispatch, hinstall⟩ := install_of_specialize h
  obtain ⟨new, hnew, hw, -, -, r, fr, hr, hfr, hholds⟩ := install_spec hread hinstall
  obtain ⟨n, hn⟩ : ∃ n, w.subject.function.readDefinition = .ok n := by
    obtain ⟨_, _, _, _, _, hn, -⟩ := hread
    exact ⟨_, hn⟩
  obtain ⟨htypes, hmakes⟩ := Generator.generate_makes hdispatch
  obtain ⟨hvariable, hsome⟩ := Generator.generate_over hdispatch
  have hcopies : w.IsThin := by
    intro b hb
    obtain ⟨a, -, hthins⟩ := (hmakes b hb).thins (hread.allAre hn)
    exact ⟨_, hthins⟩
  refine ⟨w, new, n, r, hf, hread, hn, hnew, hw, hr, htypes, hmakes,
    hw.checker?_of_spares hread hn hcopies, hw.checker?_of_parameter hread hn hcopies, ?_⟩
  intro t bindings there τ x hthere hframe hvar hclass hspares
  have haround := hw.isAround hr hfr hholds hframe
  have hrun : t.run (runBody new bindings) = Session.run ⟨τ, t.interrupted⟩
      (do return (← w.dispatch.node.meaning.effect there).result) := by
    unfold runBody
    rw [Session.run_bind, Session.run_of_done hthere]
    exact congrArg (Session.run ⟨τ, t.interrupted⟩) (Variant.body_eq hread hw.definition there)
  refine ⟨⟨τ, t.interrupted⟩, rfl, hrun, ?_⟩
  have hchecker := hw.readName_isinstance hthere haround
  cases hcheck : w.checker? new v bindings (τ.binding? new.site.globals "isinstance") with
  | some checker =>
    rw [hcheck] at hchecker
    have hisinstance : Gives τ there "isinstance" checker := hchecker
    have hnames : ∀ b ∈ w.dispatch.bindings, Gives τ there b.1 b.2.value := fun b hb =>
      hw.gives_binding hread hn hcopies hthere haround hb (hspares b hb)
    have hvar' : Gives τ there w.dispatch.var x := hvariable ▸ hvar
    refine ⟨Dispatch.goesBy_of_gives hisinstance hnames hvar' hclass, ?_⟩
    rintro rfl
    exact w.dispatch.run_node ⟨hisinstance, hnames, hvar'⟩ fun b hb =>
      Dispatch.exists_accepts (hclass b hb) τ x
  | none =>
    rw [hcheck] at hchecker
    refine Dispatch.fails_of_isinstance (fun hnone => hsome ?_) hclass hchecker
    rw [← htypes, Dispatch.types, hnone, List.map_nil]

/-! ## A parameter with the name of the check -/

/-- The definition of a function `f` of `v` and `isinstance` that gives the latter. -/
def shadowing : Node :=
  .functionDef "f" false (.arguments [] [.arg "v" [], .arg "isinstance" []] [] [] [] [] [])
    [.returnStmt [.load "isinstance"]] [] []

/-- A session in which it is defined in a module. -/
def shadowingSession : Session := (Session.run {} (loadModule "m" [] [shadowing])).2

/-- Whether a function has a parameter with the name of the check, and spares some names. -/
def Store.shadows (σ : Store) (v : Value) (names : List String) : Bool :=
  match σ.cell? v with
  | some (.function f) =>
    match f.readDefinition with
    | .ok n => (Signature.ofFunction n).variableNames.contains "isinstance" &&
        !(Mention.globals n.functionMentions).contains "isinstance" &&
        names.all fun name => resolve name [f.site.scopeOf n] = .around && name ≠ f.name
    | .error _ => false
  | _ => false

theorem shadowing_evaluated : (match shadowingSession.run specializeGiving with
      | (.ok (⟨_, .ok v⟩, _), s') => s'.store.resolved? v "v"
      | _ => none) = some .scope ∧
    shadowingSession.store.shadows (.ref ⟨1⟩) [typesName, unmatchedName, testName 0] = true := by
  decide +kernel

/-- A call of it for an integer and another value does not come to its only branch: it calls the
other value. -/
theorem specialize_chooses_shadowing : ∃ notes v counters s' new,
    shadowingSession.run specializeGiving = (.ok (⟨notes, .ok v⟩, counters), s') ∧
      s'.store.cell? v = some (.function new) ∧
      (s'.run (runBody new [("v", .ofInt 3), ("isinstance", .ofInt 7)])).1 = .error .wrongType := by
  have hresolved := shadowing_evaluated.1
  rcases hrun : shadowingSession.run specializeGiving with ⟨_ | ⟨⟨notes, _ | v⟩, counters⟩, s'⟩
  · rw [hrun] at hresolved
    cases hresolved
  · rw [hrun] at hresolved
    cases hresolved
  rw [hrun] at hresolved
  obtain ⟨w, new, n, r, hf, -, hn, hnew, hinstalled, -, htypes, hmakes, -, hparameter, hcall⟩ :=
    specialize_chooses hrun
  refine ⟨notes, v, counters, s', new, rfl, hnew, ?_⟩
  -- the only branch is that of the integers
  obtain ⟨b, hb, hint⟩ : ∃ b, w.dispatch.branches = [b] ∧ b.test = .instanceOf (.standard .int) := by
    obtain ⟨b, hb, htype⟩ := List.map_eq_singleton_iff.1 htypes
    have htest := (hmakes b (hb ▸ List.mem_cons_self)).test
    rw [htype] at htest
    exact ⟨b, hb, (Except.ok.inj htest).symm⟩
  have hshadows := shadowing_evaluated.2
  unfold Store.shadows at hshadows
  rw [hf] at hshadows
  dsimp only at hshadows
  rw [hn] at hshadows
  simp only [Bool.and_eq_true, List.contains_iff_mem, Bool.not_eq_true', List.all_eq_true,
    decide_eq_true_eq] at hshadows
  obtain ⟨⟨hname, hglobal⟩, hspared⟩ := hshadows
  have hnames : ∀ b' ∈ w.dispatch.bindings, b'.1 ∈ [typesName, unmatchedName, testName 0] := by
    simp [Dispatch.bindings, hb]
  obtain ⟨fr, henter, -⟩ :=
    enter_spec new [("v", .ofInt 3), ("isinstance", .ofInt 7)] s'.store
  have hvar : resolve "v" [new.site.scopeOf new.definition] = .scope := by
    unfold Store.resolved? at hresolved
    dsimp only at hresolved
    rw [hnew] at hresolved
    exact Option.some.inj hresolved
  obtain ⟨u, -, hbody, hchoice⟩ := hcall henter rfl (hinstalled.gives_own henter hvar rfl)
    (by simp [hb, hint, RuntimeTest.isClassTest]) fun b' hb' => hspared b'.1 (hnames b' hb')
  rw [hparameter hname fun h => by simp [Mention.mem_globals, h] at hglobal] at hchoice
  obtain ⟨hgoes, -⟩ := hchoice
  obtain ⟨rest, hrest⟩ := hgoes b [] hb
  rw [hbody]
  refine Session.run_bind_error ?_ _
  rw [hrest]
  refine Session.run_bind_error (run_aside_error (Session.run_bind_error ?_ _)) _
  exact run_invoke_of_failed rfl rfl

end Narrowing
