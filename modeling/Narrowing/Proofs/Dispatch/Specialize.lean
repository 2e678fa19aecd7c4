import Narrowing.Dispatch.Specialize
import Narrowing.Oracle.Classes
import Narrowing.Proofs.Code.Parser
import Narrowing.Proofs.Run.Names
/-!
# How a specialized function is made

Specialization makes its function by running a definition inside of another function,
and then gives the result what it takes over from the original: its defaults and
annotations, its documentation, its module and its qualified name
(`Function.TakesOver`). What is not taken over is the site of the function: it was made
inside of the function around it, and so the frame of that is all that comes between it and
the module, and the names of all that its body defines begin with the name of that function
(`Variant.Installed`, `install_spec`).

So a definition in the body keeps its qualified name only if the original was itself made
in a function of that name (`specialize_qualify_iff`).
-/

namespace Narrowing

open Code Run

/-! ## Definitions without decorators, defaults and annotations -/

namespace Code

namespace Mention

/-- Parameters declare nothing, and outside of their function they mention nothing. -/
theorem splitParameters_parameters (names : List String) :
    splitParameters (names.map parameter) = ([], names.map binds) := by
  induction names with
  | nil => rfl
  | cons name names ih => rw [List.map_cons, splitParameters, ih, List.map_cons]

end Mention

namespace Signature

variable {α : Type} {filled defaults bs : List (String × α)} {names : List String} {name : String}
  {v : α}

/-- What fills a parameter is its value. -/
theorem lookup_of_complete (h : complete filled defaults names = some bs) (hname : name ∈ names)
    (hv : filled.lookup name = some v) : bs.lookup name = some v := by
  induction names generalizing bs with
  | nil => cases hname
  | cons other names ih =>
    rw [complete] at h
    obtain ⟨u, hu, h⟩ := Option.bind_eq_some_iff.1 h
    obtain ⟨rest, hrest, h⟩ := Option.bind_eq_some_iff.1 h
    obtain rfl := Option.some.inj h
    by_cases hother : name = other
    · subst hother
      rw [hv, Option.some_or] at hu
      rw [List.lookup_cons_self, ← hu]
    · have hne : (name == other) = false := by simpa using hother
      rw [List.lookup_cons, hne]
      exact ih hrest ((List.mem_cons.1 hname).resolve_left hother)

/-- **Arguments by position** are the values of parameters that take nothing else. -/
theorem lookup_of_bind? {defaults : List α} {keywordDefaults : List (String × α)} {args : List α}
    {call : BoundCall α}
    (h : bind? ⟨[], names, none, [], none⟩ defaults keywordDefaults args [] = some call)
    (hv : (names.zip args).lookup name = some v) : call.named.lookup name = some v := by
  unfold bind? at h
  dsimp only at h
  split at h
  · cases h
  · obtain ⟨⟨filled, left⟩, hfilled, h⟩ := Option.bind_eq_some_iff.1 h
    obtain ⟨rfl, -⟩ := Prod.mk.inj (Option.some.inj hfilled)
    obtain ⟨bs, hbs, h⟩ := Option.bind_eq_some_iff.1 h
    obtain rfl := Option.some.inj h
    obtain ⟨before, after, heq, -⟩ := List.lookup_eq_some_iff.1 hv
    have hmem : (name, v) ∈ names.zip args := heq ▸ List.mem_append_right _ List.mem_cons_self
    exact lookup_of_complete hbs (List.mem_append_left _ (List.of_mem_zip hmem).1) hv

end Signature

end Code

theorem mentions_withoutHint {ns : List Node} (h : ∀ n ∈ ns, n.IsParameter) :
    Node.mentionsOfAll (ns.map withoutHint) = (Signature.namesOf ns).map Mention.parameter := by
  induction ns with
  | nil => rfl
  | cons n ns ih =>
    obtain ⟨name, hint, rfl⟩ := Node.exists_of_isParameter (h n List.mem_cons_self)
    have hrest := ih fun m hm => h m (List.mem_cons_of_mem _ hm)
    show Mention.parameter name :: Node.mentionsOfAll (ns.map withoutHint) = _
    rw [hrest]
    rfl

theorem mentions_absent (ns : List Node) :
    Node.mentionsOfAll (ns.map fun _ => Node.absent) = [] := by
  induction ns with
  | nil => rfl
  | cons n ns ih => exact ih

/-- Bare parameters mention nothing but themselves. -/
theorem mentions_bareParameters {n : Node} (h : n.IsParameterList) :
    ∃ names : List String, (bareParameters n).mentions = names.map Mention.parameter := by
  obtain ⟨posonly, args, vararg, kwonly, kwDefaults, kwarg, defaults, rfl, hall⟩ := h
  simp only [List.forall_mem_append] at hall
  obtain ⟨⟨⟨⟨hposonly, hargs⟩, hvararg⟩, hkwonly⟩, hkwarg⟩ := hall
  refine ⟨Signature.namesOf posonly ++ (Signature.namesOf args ++ (Signature.namesOf vararg ++
    (Signature.namesOf kwonly ++ Signature.namesOf kwarg))), ?_⟩
  show [Node.mentionsOfAll (posonly.map withoutHint), Node.mentionsOfAll (args.map withoutHint),
    Node.mentionsOfAll (vararg.map withoutHint), Node.mentionsOfAll (kwonly.map withoutHint),
    Node.mentionsOfAll (kwonly.map fun _ => Node.absent),
    Node.mentionsOfAll (kwarg.map withoutHint), Node.mentionsOfAll []].flatten = _
  rw [mentions_withoutHint hposonly, mentions_withoutHint hargs, mentions_withoutHint hvararg,
    mentions_withoutHint hkwonly, mentions_withoutHint hkwarg, mentions_absent]
  simp [Node.mentionsOfAll]

theorem namedAll_withoutHint {ns : List Node} (h : ∀ n ∈ ns, n.IsParameter) (c : Site)
    (ms : List Meaning) :
    namedAll c (Node.meaningsOfAll (ns.map withoutHint) ++ ms) = namedAll c ms := by
  induction ns with
  | nil => rfl
  | cons n ns ih =>
    obtain ⟨name, hint, rfl⟩ := Node.exists_of_isParameter (h n List.mem_cons_self)
    have hrest := ih fun m hm => h m (List.mem_cons_of_mem _ hm)
    show (do
      let vs ← (pure [] : Run (List (String × Value)))
      return vs ++ (← namedAll c (Node.meaningsOfAll (ns.map withoutHint) ++ ms))) = _
    rw [hrest]
    simp

theorem keywordDefaults_absent (c : Site) (ps ns : List Node) (ms : List Meaning) :
    keywordDefaults c ps (ns.map fun _ => Node.absent) ms = pure [] := by
  induction ns generalizing ps ms with
  | nil =>
    unfold keywordDefaults
    split
    · next h => cases h
    · next h => cases h
    · rfl
  | cons n ns ih =>
    rw [List.map_cons]
    unfold keywordDefaults
    split
    · next h =>
      obtain ⟨-, rfl⟩ := List.cons.inj h
      exact ih _ _
    · next hno h =>
      exact (hno (List.cons.inj h).1.symm).elim
    · rfl

/-- **Bare parameters evaluate nothing.** -/
theorem meaning_bareParameters {n : Node} (h : n.IsParameterList) (c : Site) :
    (bareParameters n).meaning.defaults c = pure ([], []) ∧
      (bareParameters n).meaning.named c = pure [] := by
  obtain ⟨posonly, args, vararg, kwonly, kwDefaults, kwarg, defaults, rfl, hall⟩ := h
  simp only [List.forall_mem_append] at hall
  obtain ⟨⟨⟨⟨hposonly, hargs⟩, hvararg⟩, hkwonly⟩, hkwarg⟩ := hall
  constructor
  · show (do
      let values ← ([] : List Meaning).mapM fun m : Meaning => m.value c
      return (values, ← keywordDefaults c (kwonly.map withoutHint)
        (kwonly.map fun _ => Node.absent) (Node.meaningsOfAll (kwonly.map fun _ => Node.absent)))) = _
    rw [keywordDefaults_absent]
    simp
  · show namedAll c (Node.meaningsOfAll (args.map withoutHint) ++
      Node.meaningsOfAll (posonly.map withoutHint) ++ Node.meaningsOfAll (vararg.map withoutHint) ++
      Node.meaningsOfAll (kwonly.map withoutHint) ++ Node.meaningsOfAll (kwarg.map withoutHint)) = _
    have hlast := namedAll_withoutHint hkwarg c []
    rw [List.append_nil] at hlast
    rw [List.append_assoc, List.append_assoc, List.append_assoc, namedAll_withoutHint hargs,
      namedAll_withoutHint hposonly, namedAll_withoutHint hvararg, namedAll_withoutHint hkwonly, hlast]
    rfl

/-- A bare definition reads the text that documents it, makes a function and gives it to its
name; it has nothing to evaluate before. -/
theorem effect_bareDefinition_eq (c : Site) (name : String) (isAsync : Bool) {parameters : Node}
    (body : List Node) (hparameters : parameters.IsParameterList) :
    (Node.functionDef name isAsync (bareParameters parameters) body [] []).meaning.effect c = (do
      let σ ← read
      let doc ← documentationOf c body
      let f ← newFunction c (.functionDef name isAsync (bareParameters parameters) body [] []) {
        name, qualname := σ.qualify c name, doc
        isSuspending := isAsync || Node.someYields body }
      writeName c (c.mangled name) f
      return .next) := by
  let n : Node := .functionDef name isAsync (bareParameters parameters) body [] []
  let line := c.at_ (.statement n)
  show (do
    let wrappers ← ([] : List Meaning).mapM fun d : Meaning => d.value line
    let given ← (bareParameters parameters).meaning.defaults line
    let hints ← (bareParameters parameters).meaning.named line
    let result ← ([] : List Meaning).mapM fun r : Meaning => return ("return", ← r.value line)
    let f ← newFunction c n {
      name, qualname := (← read).qualify c name, doc := ← documentationOf c body
      isSuspending := isAsync || Node.someYields body
      defaults := given.1, kwDefaults := given.2, annotations := hints ++ result }
    writeName c (c.mangled name) (← wrappers.foldrM (fun w v => invoke w [v]) f)
    return Signal.next) = _
  obtain ⟨hdefaults, hnamed⟩ := meaning_bareParameters hparameters line
  rw [hdefaults, hnamed]
  simp [n]

/-- **What a bare definition does**: it makes a function with a name inside of what it
stands in, and gives it to that name. -/
theorem effect_bareDefinition {c : Site} {σ : Store} {r : Ref} {rs : List Ref} {fr : Frame}
    {name : String} {isAsync : Bool} {parameters : Node} {body : List Node}
    (hparameters : parameters.IsParameterList) (hchain : c.chain = r :: rs)
    (hf : σ.frame? r = some fr) (hglobals : fr.globals = []) (hlocal : c.mangled name ∈ fr.locals) :
    ((Node.functionDef name isAsync (bareParameters parameters) body [] []).meaning.effect c σ).Ends
      fun signal τ => signal = .next ∧ ∃ q f m bs, τ.get? q = some (.function f) ∧
        MadeBy f c (.functionDef name isAsync (bareParameters parameters) body [] []) m ∧
        m.name = name ∧ m.qualname = c.inside ++ name ∧
        τ.frame? r = some { fr with bindings := bs } ∧
        bs.lookup (c.mangled name) = some (.ref q) ∧
        (∀ id, id ≠ c.mangled name → bs.lookup id = fr.bindings.lookup id) ∧
        f.IsAsDefined := by
  rw [effect_bareDefinition_eq c name isAsync body hparameters, get_bind]
  refine ends_bind (documentationOf_ends c body σ) ?_
  intro doc τ hτ
  -- neither the text nor the new function touches the frame
  have hframe : τ.frame? r = some fr := by
    rw [Store.frame?_eq_some] at hf ⊢
    rw [← hf]
    unfold Store.get?
    rw [hτ]
  obtain ⟨f, hmade, hnew⟩ := newFunction_spec c
    (.functionDef name isAsync (bareParameters parameters) body [] [])
    { name, qualname := σ.qualify c name, doc, isSuspending := isAsync || Node.someYields body } τ
  rw [bind_apply, hnew]
  show Outcome.Ends _ ((writeName c (c.mangled name) _ >>= fun _ => pure Signal.next) _)
  have hglobal : c.mangled name ∉ fr.globals := by simp [hglobals]
  have hframe' : (τ.alloc (.function f)).2.frame? r = some fr := by
    rw [Store.frame?_eq_some] at hframe ⊢
    exact Store.get?_alloc_of_some hframe _
  rw [bind_apply, writeName_spec hchain hframe' hglobal hlocal]
  have hne : r ≠ (τ.alloc (.function f)).1 :=
    (Store.alloc_fst_ne (Store.frame?_eq_some.1 hframe)).symm
  refine ⟨rfl, (τ.alloc (.function f)).1, f, _, _, ?_, hmade, rfl, qualify_of_frame hchain hf hglobal,
    Store.frame?_eq_some.2 (Store.get?_set (Store.frame?_eq_some.1 hframe')),
    lookup_bindName_self _ _ _, fun id hid => lookup_bindName_of_ne hid _ _,
    hmade.isAsDefined rfl⟩
  rw [Store.get?_set_of_ne _ hne]
  exact Store.get?_alloc_self τ _

/-! ## The function around a specialized one -/

/-- What a bare definition mentions where it stands. -/
theorem mentions_bareDefinition (name : String) (isAsync : Bool) {parameters : Node}
    (body : List Node) (hparameters : parameters.IsParameterList) :
    ∃ ms, (Node.functionDef name isAsync (bareParameters parameters) body [] []).mentions =
      [Mention.binds name, Mention.scope (.function isAsync) ms] := by
  obtain ⟨names, hnames⟩ := mentions_bareParameters hparameters
  refine ⟨names.map Mention.binds ++ Node.mentionsOfAll body, ?_⟩
  let split := Mention.splitParameters ((bareParameters parameters).mentions ++ [])
  have hsplit : split = ([], names.map Mention.binds) := by
    show Mention.splitParameters ((bareParameters parameters).mentions ++ []) = _
    rw [List.append_nil, hnames, Mention.splitParameters_parameters]
  show Node.mentionsOfAll [] ++ split.1 ++ Node.mentionsOfAll [] ++
    [Mention.binds name,
      Mention.scope (.function isAsync) (split.2 ++ Node.mentionsOfAll body)] = _
  rw [hsplit]
  rfl

/-- A function with the given parameters around a definition that it returns. -/
def around (parameters : List String) (definition : Node) (name : String) : Node :=
  .functionDef factoryName false (.arguments [] (parameters.map fun p => .arg p []) [] [] [] [] [])
    [definition, .returnStmt [.load name]] [] []

/-- It takes its parameters by position or by name. -/
theorem signature_around (names : List String) (n : Node) (name : String) :
    Signature.ofFunction (around names n name) = ⟨[], names, none, [], none⟩ := by
  have h : Signature.namesOf (names.map fun p => .arg p []) = names := by
    induction names with
    | nil => rfl
    | cons p names ih => exact congrArg (p :: ·) ih
  show Signature.mk [] (Signature.namesOf (names.map fun p => .arg p [])) none [] none = _
  rw [h]

section Around

variable {name : String} {isAsync : Bool} {parameters : Node} {body : List Node}
  {names : List String} {n : Node}

/-- The function around a definition binds its parameters and the name of the definition. -/
theorem mentions_around (names : List String) (hparameters : parameters.IsParameterList)
    (hn : n = .functionDef name isAsync (bareParameters parameters) body [] []) :
    ∃ ms, (around names n name).functionMentions = (names ++ [name]).map Mention.binds ++
      [Mention.scope (.function isAsync) ms, Mention.reads name] := by
  obtain ⟨ms, hms⟩ := mentions_bareDefinition name isAsync body hparameters
  refine ⟨ms, ?_⟩
  have hnames : Node.mentionsOfAll (names.map fun p => Node.arg p []) =
      names.map Mention.parameter := by
    induction names with
    | nil => rfl
    | cons p names ih =>
      show Mention.parameter p :: Node.mentionsOfAll (names.map fun p => Node.arg p []) = _
      rw [ih]
      rfl
  show (Mention.splitParameters ([Node.mentionsOfAll [],
      Node.mentionsOfAll (names.map fun p => Node.arg p []), [], [], [], [], []].flatten)).2 ++
    (n.mentions ++ ([Mention.reads name] ++ [])) = _
  rw [hn, hms, hnames]
  simp [Node.mentionsOfAll, Mention.splitParameters_parameters]

/-- Outside of a class, these are all names of its calls, and none of them is declared. -/
theorem names_around {f : Function} {c : Site} {m : Making} (hc : c.owner = none)
    (hparameters : parameters.IsParameterList)
    (hn : n = .functionDef name isAsync (bareParameters parameters) body [] [])
    (hf : MadeBy f c (around names n name) m) :
    f.globals = [] ∧ ∀ id, id ∈ f.locals ↔ id ∈ names ∨ id = name := by
  obtain ⟨ms, hms⟩ := mentions_around names hparameters hn
  have hmangled : c.mangled = id := by
    funext id
    rw [Site.mangled, hc]
    rfl
  have hmentions : c.mangledMentions (around names n name).functionMentions =
      (around names n name).functionMentions := by
    rw [Site.mangledMentions, hc]
  have hnames : (Signature.ofFunction (around names n name)).variableNames = names := by
    rw [signature_around]
    simp [Signature.variableNames, Signature.positional]
  constructor
  · rw [hf.globals, hmentions]
    have hnone : Mention.globals (around names n name).functionMentions = [] := by
      refine List.eq_nil_iff_forall_not_mem.2 fun id => ?_
      rw [Mention.mem_globals, hms]
      simp
    rw [hnone]
    rfl
  · intro id
    rw [hf.locals, hmangled, hmentions, hnames, List.map_id, List.mem_eraseDups, List.mem_append,
      Mention.mem_locals, Mention.mem_bound, hms]
    simp

/-- Outside of a class such a function takes its arguments by position alone, which is quiet,
and each name has its argument. -/
theorem arguments_around {f : Function} (howner : f.site.owner = none)
    (hf : f.definition = around names n name) (args : List Value) (σ : Store) :
    (arguments f args [] σ).Ends fun bindings _ => ∀ id v,
      (names.zip args).lookup id = some v → bindings.lookup id = some v := by
  have hmangled : f.site.mangled = id := by
    funext id
    rw [Site.mangled, howner]
    rfl
  unfold arguments
  rw [hf, signature_around, hmangled]
  have hrename : Signature.rename id ⟨[], names, none, [], none⟩ = ⟨[], names, none, [], none⟩ := by
    simp [Signature.rename]
  rw [hrename]
  dsimp only
  cases hcall : Signature.bind? ⟨[], names, none, [], none⟩ (f.defaults.getD [])
    (f.kwDefaults.getD []) args [] with
  | none => trivial
  | some call =>
    rintro id v hv
    show List.lookup id (call.named ++ []) = some v
    rw [List.append_nil]
    exact Signature.lookup_of_bind? hcall hv

/-- **The body of the function around a definition** makes the function of the definition
and returns it, in a frame to which the name is local. -/
theorem inOrder_around {here : Site} {σ : Store} {r : Ref} {rs : List Ref} {fr : Frame}
    (hparameters : parameters.IsParameterList)
    (hn : n = .functionDef name isAsync (bareParameters parameters) body [] [])
    (hchain : here.chain = r :: rs) (hframe : σ.frame? r = some fr) (hglobals : fr.globals = [])
    (hlocal : here.mangled name ∈ fr.locals) :
    (inOrder here [n.meaning, (Node.returnStmt [.load name]).meaning] σ).Ends fun signal τ =>
      ∃ q new m bs, signal = .returned (.ref q) ∧ τ.get? q = some (.function new) ∧
        MadeBy new here n m ∧ m.name = name ∧ m.qualname = here.inside ++ name ∧
        τ.frame? r = some { fr with bindings := bs } ∧
        bs.lookup (here.mangled name) = some (.ref q) ∧
        (∀ id, id ≠ here.mangled name → bs.lookup id = fr.bindings.lookup id) ∧
        new.IsAsDefined := by
  show Outcome.Ends _ ((n.meaning.effect here >>= _ : Run Signal) _)
  rw [hn]
  refine ends_bind (effect_bareDefinition hparameters hchain hframe hglobals hlocal) ?_
  rintro _ τ ⟨rfl, q, new, m, bs, hq, hmade, hname, hqualname, hframe', hlookup, hothers,
    hdefined⟩
  -- what the definition gave to the name is what the last statement reads
  have hread := readName_of_local (c := here.at_ (.statement (.returnStmt [.load name]))) hchain
    hframe' (by simp [hglobals]) hlocal hlookup
  show Outcome.Ends _ (((do
    return .returned (← readName (here.at_ (.statement (.returnStmt [.load name])))
      (here.mangled name)) : Run Signal) >>= _ : Run Signal) τ)
  rw [bind_apply, bind_apply, hread]
  exact ⟨q, new, m, bs, rfl, hq, hmade, hname, hqualname, hframe', hlookup, hothers, hdefined⟩

/-- **A call of the function around a definition** makes the function of the definition in
a frame that has the names of the function around it, with the arguments of the call. -/
theorem callFunction_around {f : Function} {c : Site} {m : Making} (hc : c.owner = none)
    (hparameters : parameters.IsParameterList)
    (hn : n = .functionDef name isAsync (bareParameters parameters) body [] [])
    (hf : MadeBy f c (around names n name) m) (hm : m.isSuspending = false)
    (args : List Value) (σ : Store) :
    (callFunction f args [] σ).Ends fun v τ => ∃ q new m' r fr, v = .ref q ∧
      τ.get? q = some (.function new) ∧ MadeBy new (f.siteIn r) n m' ∧ m'.name = name ∧
      m'.qualname = m.qualname ++ ".<locals>." ++ name ∧
      τ.frame? r = some fr ∧ fr.locals = f.locals ∧ fr.globals = [] ∧ fr.isClassBody = false ∧
      fr.bindings.lookup name = some v ∧ new.IsAsDefined ∧ ∀ id u, id ≠ name →
        (names.zip args).lookup id = some u → fr.bindings.lookup id = some u := by
  obtain ⟨hnone, hlocal⟩ := names_around hc hparameters hn hf
  have howner : f.site.owner = none := by rw [hf.site, hc]
  unfold callFunction
  refine ends_bind (arguments_around howner hf.definition args σ) fun bindings τ hgiven => ?_
  rw [hf.isSuspending, hm]
  show (runBody f bindings τ).Ends _
  unfold runBody
  rw [bind_apply]
  obtain ⟨fr, henter, hlocals, hglobals, hbindings, -, hkind⟩ := enter_spec f bindings τ
  rw [henter, hf.definition]
  let here := f.siteIn (τ.alloc (.frame fr)).1
  have hmangled : here.mangled name = name := by
    show f.site.mangled name = name
    rw [Site.mangled, howner]
  have hframe : (τ.alloc (.frame fr)).2.frame? (τ.alloc (.frame fr)).1 = some fr :=
    Store.frame?_eq_some.2 (Store.get?_alloc_self τ _)
  have hnoGlobals : fr.globals = [] := hglobals.trans hnone
  have hmem : here.mangled name ∈ fr.locals := by
    rw [hlocals, hmangled]
    exact (hlocal name).2 (.inr rfl)
  have hinside : here.inside = m.qualname ++ ".<locals>." := by
    show f.site.inside = _
    rw [hf.site]
  show Outcome.Ends _ ((inOrder here [n.meaning, (Node.returnStmt [.load name]).meaning] >>= _ :
    Run Value) _)
  refine ends_bind (inOrder_around hparameters hn rfl hframe hnoGlobals hmem) ?_
  rintro _ υ ⟨q, new, m', bs, rfl, hq, hmade, hname, hqualname, hframe', hlookup, hothers,
    hdefined⟩
  rw [hinside] at hqualname
  rw [hmangled] at hlookup hothers
  refine ⟨q, new, m', _, _, rfl, hq, hmade, hname, hqualname, hframe', hlocals, hnoGlobals, hkind,
    hlookup, hdefined, fun id u hid hu => ?_⟩
  rw [hothers id hid, hbindings]
  exact hgiven id u hu

end Around

/-! ## Installing a specialized function -/

/-- **What a function takes over** from the one that it is specialized from. -/
structure Function.TakesOver (new f : Function) : Prop where
  qualname : new.qualname = f.qualname
  module : new.module = f.module
  doc : new.doc = f.doc
  defaults : new.defaults = f.defaults
  kwDefaults : new.kwDefaults = f.kwDefaults
  annotations : new.annotations = f.annotations

/-- **A subject as it is read**: its body is that of the definition of its function, without
documentation and with the declarations taken out. -/
def Subject.IsRead (t : Subject) : Prop :=
  ∃ isAsync parameters body decorators returns,
    t.function.readDefinition =
      .ok (.functionDef t.function.name isAsync parameters body decorators returns) ∧
    t.definition = .functionDef t.function.name isAsync parameters t.body [] returns ∧
    t.documentation = (splitDocumentation body).1 ∧
    hoistList {} (splitDocumentation body).2 = (t.body, t.declared)

/-- What the names in the body of a specialized function begin with. -/
def insideFactory (name : String) : String :=
  factoryName ++ ".<locals>." ++ name ++ ".<locals>."

theorem definitionOf?_spec {name : String} {ns : List Node} {n : Node}
    (h : definitionOf? name ns = some n) :
    n ∈ ns ∧ ∃ isAsync parameters body decorators returns,
      n = .functionDef name isAsync parameters body decorators returns := by
  fun_induction definitionOf? name ns with
  | case1 => cases h
  | case2 =>
    obtain rfl := Option.some.inj h
    exact ⟨List.mem_cons_self, _, _, _, _, _, rfl⟩
  | case3 isAsync parameters body decorators returns rest id hid ih =>
    exact ⟨List.mem_cons_of_mem _ (ih h).1, (ih h).2⟩
  | case4 m rest hm ih => exact ⟨List.mem_cons_of_mem _ (ih h).1, (ih h).2⟩

/-- **The definition that is read** has the name of the function and is a statement. -/
theorem readDefinition_spec {f : Function} {n : Node} (h : f.readDefinition = .ok n) :
    n.Is .statement ∧ ∃ isAsync parameters body decorators returns,
      n = .functionDef f.name isAsync parameters body decorators returns := by
  unfold Function.readDefinition at h
  split at h
  · cases h
  · next statements hread =>
    split at h
    · next m hm =>
      obtain rfl := Except.ok.inj h
      obtain ⟨hmem, isAsync, parameters, body, decorators, returns, rfl⟩ := definitionOf?_spec hm
      refine ⟨?_, isAsync, parameters, body, decorators, returns, rfl⟩
      cases htext : f.sourceText with
      | error e =>
        rw [htext] at hread
        cases hread
      | ok text =>
        rw [htext, Except.bind, parseBody] at hread
        exact Node.allAre_iff.1 (parse_are hread) _ hmem
    · cases h

/-- The body of a variant. -/
def Variant.body (w : Variant) : List Node :=
  w.subject.documentation ++ w.subject.declared.statements ++ [w.dispatch.node]

/-- The factory of a variant is a function around a bare definition. -/
theorem Variant.factory_eq {w : Variant} (hw : w.subject.IsRead) :
    ∃ isAsync parameters, w.factory = around (w.dispatch.bindings.map Prod.fst)
        (bareDefinition w.definition) w.subject.function.name ∧
      bareDefinition w.definition = .functionDef w.subject.function.name isAsync
        (bareParameters parameters) w.body [] [] ∧
      parameters.IsParameterList := by
  obtain ⟨isAsync, parameters, _, _, returns, hread, hdefinition, -, -⟩ := hw
  refine ⟨isAsync, parameters, ?_, ?_,
    Node.isParameterList_of_is (readDefinition_spec hread).1.2.1.1⟩
  · unfold Variant.factory around
    rw [List.map_map]
    rfl
  · unfold Variant.definition
    rw [hdefinition]
    rfl

/-- The names of the function around a specialized one. -/
def Variant.factoryNames (w : Variant) : List String :=
  w.dispatch.bindings.map Prod.fst ++ [w.subject.function.name]

/-- Its scope. -/
def Variant.factoryScope (w : Variant) : Scope := ⟨.function false, w.factoryNames, []⟩

/-- **A function installed for a variant**: it takes over from the original and was made
inside of the function around it, whose frame is the only one between it and the module. -/
structure Variant.Installed (w : Variant) (σ : Store) (new : Function) : Prop where
  takesOver : new.TakesOver w.subject.function
  name : new.name = w.subject.function.name
  definition : new.definition = bareDefinition w.definition
  inside : new.site.inside = insideFactory w.subject.function.name
  globals : new.site.globals = w.subject.function.site.globals
  owner : new.site.owner = none
  hasScope : new.HasScope (new.site.scopeOf new.definition)
  around : ∃ r, new.site.inner = [r] ∧ ∀ name, σ.Shows name [w.factoryScope] [r]

/-- **What the frame around a specialized function holds**: the function under its own name,
and under their names the values that the chain refers to. -/
structure Variant.Holds (w : Variant) (fr : Frame) (new : Value) : Prop where
  ofFunction : fr.isClassBody = false
  own : fr.bindings.lookup w.subject.function.name = some new
  chain : ∀ name b, w.dispatch.bindings.lookup name = some b → name ≠ w.subject.function.name →
    fr.bindings.lookup name = some b.value

/-- A frame with the names of the function around a specialized one shows its scope. -/
theorem Variant.shows_factoryScope {w : Variant} {fr : Frame} (hglobals : fr.globals = [])
    (hkind : fr.isClassBody = false) (hlocals : ∀ name, name ∈ fr.locals ↔ name ∈ w.factoryNames)
    (name : String) : fr.Shows name w.factoryScope := by
  refine ⟨by simp [hglobals, factoryScope, Mention.globals], ?_⟩
  simp [Frame.has, hkind, hlocals, factoryScope, Mention.locals]

theorem lookup_map_value (bs : List (String × Binding Spelling Class Predicate)) (name : String) :
    (bs.map fun b => (b.1, b.2.value)).lookup name = (bs.lookup name).map Binding.value := by
  induction bs with
  | nil => rfl
  | cons b bs ih =>
    obtain ⟨other, b⟩ := b
    rw [List.map_cons, List.lookup_cons, List.lookup_cons, ih]
    cases name == other <;> rfl

/-- **What a call of the function around leaves**: a function with the code of the variant, which
sees the frame of the call and no other, and that frame. -/
structure Variant.Made (w : Variant) (σ : Store) (q ρ : Ref) (made : Function) (fr : Frame) :
    Prop where
  isAt : σ.get? q = some (.function made)
  frame : σ.frame? ρ = some fr
  name : made.name = w.subject.function.name
  definition : made.definition = bareDefinition w.definition
  isAsDefined : made.IsAsDefined
  hasScope : made.HasScope (made.site.scopeOf made.definition)
  inside : made.site.inside = insideFactory w.subject.function.name
  module : made.site.module = w.subject.function.site.module
  globals : made.site.globals = w.subject.function.site.globals
  owner : made.site.owner = none
  inner : made.site.inner = [ρ]
  shows : ∀ name, fr.Shows name w.factoryScope
  holds : w.Holds fr (.ref q)

/-- **The function around makes the function**, wherever its code is from. -/
theorem Variant.made_of_run {s s' s'' : Session} {w : Variant} (hw : w.subject.IsRead)
    {textUnit : Nat} {factory v : Value}
    (hnew : s.run (newFunction ({ module := w.subject.function.site.module
                                  globals := w.subject.function.site.globals
                                  textUnit } : Site) w.factory
      { name := factoryName, qualname := factoryName }) = (.ok factory, s'))
    (hcall : s'.run (invoke factory (w.dispatch.bindings.map fun b => b.2.value)) = (.ok v, s'')) :
    ∃ q ρ made fr, v = .ref q ∧ w.Made s''.store q ρ made fr := by
  obtain ⟨isAsync, parameters, hfactory, hn, hparameters⟩ := Variant.factory_eq hw
  generalize hc : ({ module := _, globals := _, textUnit } : Site) = top at hnew
  have hfun : ∃ r g, factory = .ref r ∧ s'.store.get? r = some (.function g) ∧
      MadeBy g top w.factory { name := factoryName, qualname := factoryName } := by
    obtain ⟨g, hg, hnewFunction⟩ := newFunction_spec top w.factory
      { name := factoryName, qualname := factoryName } s.store
    refine Session.run_quiet (P := fun v τ => ∃ r g, v = .ref r ∧ τ.get? r = some (.function g) ∧
      MadeBy g top w.factory { name := factoryName, qualname := factoryName }) ?_ hnew
    rw [hnewFunction]
    exact ⟨_, g, rfl, Store.get?_alloc_self s.store _, hg⟩
  obtain ⟨r, g, rfl, hr, hg⟩ := hfun
  rw [hfactory] at hg
  have howner : top.owner = none := by rw [← hc]
  have hbody := callFunction_around howner hparameters hn hg rfl
    (w.dispatch.bindings.map fun b => b.2.value) s'.store
  rw [← perform_function hr] at hbody
  obtain ⟨q, made, m, ρ, fr, rfl, hq, hmade, hname, hqualname, hframe, hlocals, hglobals, hkind,
    hown, hdefined, hgiven⟩ := Session.run_call hbody hcall
  have hsite := hmade.site
  unfold Function.siteIn at hsite
  rw [hg.site, ← hc] at hsite
  refine ⟨q, ρ, made, fr, rfl, {
    isAt := hq
    frame := hframe
    name := hmade.name.trans hname
    definition := hmade.definition
    isAsDefined := hdefined
    hasScope := hmade.hasScope
    inside := by rw [hsite, hqualname]; rfl
    module := by rw [hsite]; rfl
    globals := by rw [hsite]; rfl
    owner := by rw [hsite]; rfl
    inner := by rw [hsite]; rfl
    shows := Variant.shows_factoryScope hglobals hkind fun name => ?_
    holds := ⟨hkind, hown, fun name b hb hname => hgiven name b.value hname ?_⟩ }⟩
  · rw [hlocals, (names_around howner hparameters hn hg).2, Variant.factoryNames, List.mem_append,
      List.mem_singleton]
  · rw [List.zip_map', lookup_map_value, hb, Option.map_some]

/-- A function with what another one has besides its code. -/
def Function.takingOver (made f : Function) (attributes : List (String × Value)) : Function :=
  { made with
    defaults := f.defaults, kwDefaults := f.kwDefaults, annotations := f.annotations
    doc := f.doc, qualname := f.qualname, module := f.module, attributes }

/-- **The function is installed** once it has taken over from the original, and the frame around it
stays. -/
theorem Variant.Made.installed {w : Variant} {σ : Store} {q ρ : Ref} {made : Function} {fr : Frame}
    (h : w.Made σ q ρ made fr) {new : Function} {attributes : List (String × Value)}
    (hnew : made.takingOver w.subject.function attributes = new) :
    w.Installed (σ.set q (.function new)) new ∧ new.IsAsDefined ∧
      (σ.set q (.function new)).frame? ρ = some fr := by
  have hne : q ≠ ρ := by
    rintro rfl
    have hframe := h.frame
    rw [Store.frame?_eq_some, h.isAt] at hframe
    cases hframe
  have hframe : (σ.set q (.function new)).frame? ρ = some fr := by
    rw [Store.frame?_eq_some, Store.get?_set_of_ne _ hne]
    exact Store.frame?_eq_some.1 h.frame
  obtain ⟨hfunction, hscopeGlobals, hscopeLocals⟩ := h.hasScope
  obtain ⟨hlocals, hglobals, hsuspending, hprivate⟩ := h.isAsDefined
  subst hnew
  exact ⟨⟨⟨rfl, rfl, rfl, rfl, rfl, rfl⟩, h.name, h.definition, h.inside, h.globals, h.owner,
    ⟨hfunction, hscopeGlobals, hscopeLocals⟩, ρ, h.inner,
    fun name => .cons ⟨fr, hframe, h.shows name⟩ .nil⟩, ⟨hlocals, hglobals, hsuspending, hprivate⟩,
    hframe⟩

/-- **What is installed**, and what the frame around it holds. -/
theorem install_spec {s s' : Session} {c : Site} {original v : Value} {w : Variant}
    (hw : w.subject.IsRead) (h : s.run (Run.install c original w) = (.ok v, s')) :
    ∃ new, s'.store.cell? v = some (.function new) ∧ w.Installed s'.store new ∧
      new.IsAsDefined ∧ new.site.module = w.subject.function.site.module ∧
      ∃ r fr, new.site.inner = [r] ∧ s'.store.frame? r = some fr ∧ w.Holds fr v := by
  unfold Run.install at h
  obtain ⟨c', s₁, htext, h⟩ := Session.exists_of_run_bind h
  obtain ⟨factory, s₂, hnew, h⟩ := Session.exists_of_run_bind h
  obtain ⟨specialized, s₃, hcall, h⟩ := Session.exists_of_run_bind h
  -- the function around stands at the top of the module
  obtain ⟨textUnit, rfl⟩ : ∃ textUnit, c' = { module := w.subject.function.site.module
                                              globals := w.subject.function.site.globals
                                              textUnit } :=
    ⟨_, (Except.ok.inj (Prod.mk.inj htext).1).symm⟩
  obtain ⟨q, ρ, made, fr, rfl, hmade⟩ := Variant.made_of_run hw hnew hcall
  rw [Session.run_get_bind] at h
  dsimp only at h
  rw [Store.cell?_function hmade.isAt] at h
  obtain ⟨_, s₄, hupdate, h⟩ := Session.exists_of_run_bind h
  obtain ⟨rfl, rfl⟩ := Session.run_pure h
  refine Session.run_quiet (P := fun _ τ => ∃ new, τ.cell? (.ref q) = some (.function new) ∧
    w.Installed τ new ∧ new.IsAsDefined ∧ new.site.module = w.subject.function.site.module ∧
      ∃ r fr, new.site.inner = [r] ∧ τ.frame? r = some fr ∧ w.Holds fr (.ref q)) ?_ hupdate
  show ∃ new, (s₃.store.replace q _).cell? (.ref q) = some (.function new) ∧
    w.Installed (s₃.store.replace q _) new ∧ new.IsAsDefined ∧
      new.site.module = w.subject.function.site.module ∧ ∃ r fr, new.site.inner = [r] ∧
      (s₃.store.replace q _).frame? r = some fr ∧ w.Holds fr (.ref q)
  rw [Store.replace_function hmade.isAt]
  obtain ⟨hinstalled, hdefined, hframe⟩ := hmade.installed rfl
  exact ⟨_, Store.cell?_function (Store.get?_set hmade.isAt), hinstalled, hdefined, hmade.module, ρ,
    fr, hmade.inner, hframe, hmade.holds⟩

/-! ## Reading what is specialized -/

theorem subject_spec {σ : Store} {hasSource : Bool} {f : Function} {var : String} {t : Subject}
    (h : σ.subject hasSource f var = .ok t) : t.function = f ∧ t.IsRead := by
  unfold Store.subject at h
  dsimp only at h
  split at h
  · cases h
  split at h
  · cases h
  split at h
  · cases h
  cases hn : f.readDefinition with
  | error e =>
    rw [hn] at h
    cases h
  | ok n =>
    obtain ⟨-, isAsync, parameters, body, decorators, returns, rfl⟩ := readDefinition_spec hn
    rw [hn] at h
    change (if (splitDocumentation body).2.isEmpty = true then _ else _) = _ at h
    split at h
    · cases h
    · obtain rfl := Except.ok.inj h
      exact ⟨rfl, isAsync, parameters, body, decorators, returns, hn, rfl, rfl, rfl⟩

/-- **What a variant is of**: the function that a value is, as it is read, and the dispatch
that is generated over its body. -/
theorem variant_spec {s s' : Session} {g : Generator Spelling Class Predicate}
    {counters counters' : Counters} {hasSource : Bool} {v : Value} {var : String}
    {types : List TypeDescriptor} {notes : List (Note Spelling)} {w : Variant}
    (h : s.run (g.variant counters hasSource v var types) =
      (.ok (⟨notes, .ok w⟩, counters'), s')) :
    s.store.cell? v = some (.function w.subject.function) ∧ w.subject.IsRead ∧
      (g.generate counters var types w.subject.body).1.result = .ok w.dispatch := by
  unfold Generator.variant at h
  obtain ⟨subject, s₁, hsubject, h⟩ := Session.exists_of_run_bind h
  cases subject with
  | error f =>
    obtain ⟨h, -⟩ := Session.run_pure h
    cases h
  | ok t =>
    have ⟨ht, hdispatch⟩ : t = w.subject ∧
        (g.generate counters var types t.body).1.result = .ok w.dispatch := by
      dsimp only at h
      obtain ⟨h, -⟩ := Session.run_pure h
      have hresult := (Logged.mk.inj (Prod.mk.inj h).1).2
      cases hd : (g.generate counters var types t.body).1.result with
      | error e =>
        rw [hd] at hresult
        cases hresult
      | ok d =>
        rw [hd] at hresult
        obtain rfl := Except.ok.inj hresult
        exact ⟨rfl, rfl⟩
    subst ht
    unfold Run.subject at hsubject
    rw [Session.run_cell?_bind] at hsubject
    split at hsubject
    · next f hf =>
      rw [Session.run_get_bind] at hsubject
      obtain ⟨hsubject, -⟩ := Session.run_pure hsubject
      obtain ⟨hfunction, hread⟩ := subject_spec hsubject
      rw [hfunction]
      exact ⟨hf, hread, hdispatch⟩
    · obtain ⟨text, s₂, -, hsubject⟩ := Session.exists_of_run_bind hsubject
      obtain ⟨h, -⟩ := Session.run_pure hsubject
      cases h

/-! ## What the names in a specialized function become -/

/-- **Specializing installs a variant** of the original. -/
theorem install_of_specialize {s s' : Session} {g : Generator Spelling Class Predicate}
    {counters counters' : Counters} {c : Site} {hasSource : Bool} {original v : Value}
    {var : String} {types : List TypeDescriptor} {notes : List (Note Spelling)}
    (h : s.run (g.specialize counters c hasSource original var types) =
      (.ok (⟨notes, .ok v⟩, counters'), s')) :
    ∃ (w : Variant) (t : Session), s.store.cell? original = some (.function w.subject.function) ∧
      w.subject.IsRead ∧
      (g.generate counters var types w.subject.body).1.result = .ok w.dispatch ∧
      t.run (Run.install c original w) = (.ok v, s') := by
  unfold Generator.specialize at h
  obtain ⟨⟨variant, counters₁⟩, s₁, hvariant, h⟩ := Session.exists_of_run_bind h
  dsimp only at h
  rcases variant with ⟨notes₁, result⟩
  cases result with
  | error f =>
    obtain ⟨h, -⟩ := Session.run_pure h
    cases h
  | ok w =>
    dsimp only at h
    split at h
    · obtain ⟨h, -⟩ := Session.run_pure h
      cases h
    · obtain ⟨installed, s₂, hinstall, h⟩ := Session.exists_of_run_bind h
      obtain ⟨hresult, rfl⟩ := Session.run_pure h
      obtain rfl : installed = v := Except.ok.inj (Logged.mk.inj (Prod.mk.inj hresult).1).2
      obtain ⟨hf, hw, hdispatch⟩ := variant_spec hvariant
      exact ⟨w, s₁, hf, hw, hdispatch, hinstall⟩

/-- **A specialized function** is installed for a variant of the original. -/
theorem specialize_spec {s s' : Session} {g : Generator Spelling Class Predicate}
    {counters counters' : Counters} {c : Site} {hasSource : Bool} {original v : Value}
    {var : String} {types : List TypeDescriptor} {notes : List (Note Spelling)}
    (h : s.run (g.specialize counters c hasSource original var types) =
      (.ok (⟨notes, .ok v⟩, counters'), s')) :
    ∃ (w : Variant) (new : Function),
      s.store.cell? original = some (.function w.subject.function) ∧ w.subject.IsRead ∧
      (g.generate counters var types w.subject.body).1.result = .ok w.dispatch ∧
      s'.store.cell? v = some (.function new) ∧ w.Installed s'.store new := by
  obtain ⟨w, t, hf, hw, hdispatch, hinstall⟩ := install_of_specialize h
  obtain ⟨new, hnew, hinstalled, -⟩ := install_spec hw hinstall
  exact ⟨w, new, hf, hw, hdispatch, hnew, hinstalled⟩

/-- What is defined in a call keeps its qualified name exactly if the original was made in a function
that is named like the one around the specialized function. -/
theorem Variant.Installed.qualify_iff {w : Variant} {ρ : Store} {new : Function}
    (h : w.Installed ρ new) {σ τ σ' τ' : Store} {here there : Site}
    {bindings bindings' : List (String × Value)} {name : String}
    (hhere : enter w.subject.function bindings σ = .done here τ)
    (hthere : enter new bindings' σ' = .done there τ')
    (hglobal : w.subject.function.site.mangled name ∉ w.subject.function.globals)
    (hglobal' : new.site.mangled name ∉ new.globals) :
    τ'.qualify there name = τ.qualify here name ↔
      w.subject.function.site.inside = insideFactory w.subject.function.name := by
  rw [qualify_enter hhere hglobal, qualify_enter hthere hglobal', h.inside, String.append_left_inj]
  exact eq_comm

/-- **A definition in the body keeps its qualified name** exactly if the original was made
in a function that is named like the one around the specialized function: what is defined
under a name in a call of the one is named like in a call of the other only then, as long
as neither declares the name global. -/
theorem specialize_qualify_iff {s s' : Session} {g : Generator Spelling Class Predicate}
    {counters counters' : Counters} {c : Site} {hasSource : Bool} {original v : Value}
    {var : String} {types : List TypeDescriptor} {notes : List (Note Spelling)}
    (h : s.run (g.specialize counters c hasSource original var types) =
      (.ok (⟨notes, .ok v⟩, counters'), s')) :
    ∃ f new, s.store.cell? original = some (.function f) ∧
      s'.store.cell? v = some (.function new) ∧ new.TakesOver f ∧
      ∀ {σ τ σ' τ' : Store} {here there : Site} {bindings bindings' : List (String × Value)}
        {name : String}, enter f bindings σ = .done here τ →
        enter new bindings' σ' = .done there τ' → f.site.mangled name ∉ f.globals →
        new.site.mangled name ∉ new.globals →
        (τ'.qualify there name = τ.qualify here name ↔ f.site.inside = insideFactory f.name) := by
  obtain ⟨w, new, hf, -, -, hnew, hinstalled⟩ := specialize_spec h
  exact ⟨w.subject.function, new, hf, hnew, hinstalled.takesOver, hinstalled.qualify_iff⟩

/-! ## A function that asks for the name of one defined in it -/

/-- The definition of a function `f` of `v` that gives the qualified name of a function `g`
defined in it. -/
def nesting : Node :=
  .functionDef "f" false (.arguments [] [.arg "v" []] [] [] [] [] [])
    [.functionDef "g" false .noArguments [.pass] [] [],
      .returnStmt [.member (.load "g") "__qualname__" .load]] [] []

/-- A session in which that function is defined in a module. -/
def nestingSession : Session := (Session.run {} (loadModule "m" [] [nesting])).2

/-- The function in that session. -/
def nestingFunction : Value := .ref ⟨1⟩

/-- The function is specialized on its parameter for integers. -/
def specializeNesting : Run (Logged (Note Spelling) SpecializeFault Value × Counters) :=
  Generator.specialize { oracle := defaultDecider, table := defaultTable } {}
    { module := "m", globals := ⟨0⟩ } true nestingFunction "v" [StandardClass.int.descriptor]

/-- What the names in the body of a function begin with, unless it is what the names in the
body of a specialized one begin with. -/
def Store.keptInside? (σ : Store) (v : Value) : Option String :=
  match σ.cell? v with
  | some (.function f) =>
    if f.site.inside = insideFactory f.name then none else some f.site.inside
  | _ => none

theorem nesting_evaluated : ((nestingSession.run specializeNesting).1.toOption.bind
      fun r => r.1.result.toOption).isSome = true ∧
    nestingSession.store.keptInside? nestingFunction = some "f.<locals>." := by
  decide +kernel

theorem nesting_specialized : ∃ notes v counters s', nestingSession.run specializeNesting =
    (.ok (⟨notes, .ok v⟩, counters), s') := by
  have hok := nesting_evaluated.1
  rcases hrun : nestingSession.run specializeNesting with ⟨_ | ⟨⟨notes, _ | v⟩, counters⟩, s'⟩
  · rw [hrun] at hok
    cases hok
  · rw [hrun] at hok
    cases hok
  · exact ⟨notes, v, counters, s', rfl⟩

/-- The name of `g` is not kept. -/
theorem specialize_qualify_iff_nesting :
    ∃ f new, nestingSession.store.cell? nestingFunction = some (.function f) ∧ new.TakesOver f ∧
      ∀ {σ τ σ' τ' : Store} {here there : Site} {bindings bindings' : List (String × Value)}
        {name : String}, enter f bindings σ = .done here τ →
        enter new bindings' σ' = .done there τ' → f.site.mangled name ∉ f.globals →
        new.site.mangled name ∉ new.globals → τ'.qualify there name ≠ τ.qualify here name := by
  obtain ⟨notes, v, counters, s', h⟩ := nesting_specialized
  obtain ⟨f, new, hf, -, hover, hiff⟩ := specialize_qualify_iff h
  refine ⟨f, new, hf, hover, fun hhere hthere hglobal hglobal' heq => ?_⟩
  have hkept := nesting_evaluated.2
  unfold Store.keptInside? at hkept
  rw [hf] at hkept
  dsimp only at hkept
  rw [if_pos ((hiff hhere hthere hglobal hglobal').1 heq)] at hkept
  cases hkept

/-- The text that a run gives. -/
def Session.text? (s : Session) (x : Run Value) : Option String :=
  match s.run x with
  | (.ok (.str t _), _) => some t
  | _ => none

example : nestingSession.text? (invoke nestingFunction [.ofInt 3]) = some "f.<locals>.g" ∧
    nestingSession.text? (do
      match (← specializeNesting).1.result with
      | .ok v => invoke v [.ofInt 3]
      | .error _ => throw .unsupported) =
        some "__typecase_factory__.<locals>.f.<locals>.g" := by
  decide +kernel

end Narrowing
