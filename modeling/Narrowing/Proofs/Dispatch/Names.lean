import Narrowing.Proofs.Access.Mentions
import Narrowing.Proofs.Dispatch.Chain
import Narrowing.Proofs.Dispatch.Specialize
/-!
# What names stand for in a specialized function

The copies in a dispatch read the names that the body reads, besides the functions that
rewritten accesses call, and each scope in them has at most the names that it has in the body
(`Generator.Makes.thins`). Nor does the specialized function itself have more names than the
original (`Variant.atMost_scopeOf`): declarations are taken out of the body and stand in
front again, and the chain binds nothing.

So a name that the original leaves to the module is left by the specialized function to what
is around. That is the function around it, and then the module. The function around has names
of its own, which are those that the chain refers to, and the name of the specialized function
itself. **These names alone change their meaning**: they are not those of the module any more
(`specialize_reads`).

A specialized function stands outside of any class, so this leaves out the names that stand
for others in the class of the original.
-/

namespace Narrowing

open Code Run

/-! ## Parameters -/

namespace Code.Mention

/-- Inside of a function its parameters are bound, and nothing else is mentioned by them. -/
theorem mem_splitParameters {m : Mention} {ms : List Mention} :
    m ∈ (splitParameters ms).2 ↔ ∃ name, m = .binds name ∧ .parameter name ∈ ms := by
  fun_induction splitParameters ms with
  | case1 => simp
  | case2 name ms outer inner hsplit ih =>
    rw [hsplit] at ih
    simp only [List.mem_cons, ih, Mention.parameter.injEq]
    grind
  | case3 m' ms hm outer inner hsplit ih =>
    rw [hsplit] at ih
    have hne : ∀ name, Mention.parameter name ≠ m' := fun name h => hm name h.symm
    simp [ih, hne]

end Code.Mention

theorem namesOf_withoutHint {ns : List Node} (h : ∀ n ∈ ns, n.IsParameter) :
    Signature.namesOf (ns.map withoutHint) = Signature.namesOf ns := by
  induction ns with
  | nil => rfl
  | cons n ns ih =>
    obtain ⟨name, hint, rfl⟩ := Node.exists_of_isParameter (h n List.mem_cons_self)
    exact congrArg (name :: ·) (ih fun m hm => h m (List.mem_cons_of_mem _ hm))

/-- What bare parameters mention the parameters do. -/
theorem mem_mentions_of_withoutHint {m : Mention} {ns : List Node}
    (h : ∀ n ∈ ns, n.IsParameter) (hm : m ∈ Node.mentionsOfAll (ns.map withoutHint)) :
    m ∈ Node.mentionsOfAll ns := by
  induction ns with
  | nil => exact hm
  | cons n ns ih =>
    obtain ⟨name, hint, rfl⟩ := Node.exists_of_isParameter (h n List.mem_cons_self)
    rcases List.mem_append.1 hm with hm | hm
    · obtain rfl : m = .parameter name := List.mem_singleton.1 hm
      exact List.mem_append_left _ (List.mem_append_right _ List.mem_cons_self)
    · exact List.mem_append_right _ (ih (fun n hn => h n (List.mem_cons_of_mem _ hn)) hm)

/-- **Parameters keep their names** when they are bare, and what they mention was mentioned
before. -/
theorem bareParameters_spec {n : Node} (h : n.IsParameterList) :
    Signature.ofParameters (bareParameters n) = Signature.ofParameters n ∧
      ∀ m ∈ (bareParameters n).mentions, m ∈ n.mentions := by
  obtain ⟨posonly, args, vararg, kwonly, kwDefaults, kwarg, defaults, rfl, hall⟩ := h
  simp only [List.forall_mem_append] at hall
  obtain ⟨⟨⟨⟨hposonly, hargs⟩, hvararg⟩, hkwonly⟩, hkwarg⟩ := hall
  constructor
  · show Signature.mk (Signature.namesOf _) (Signature.namesOf _) (Signature.namesOf _).head?
      (Signature.namesOf _) (Signature.namesOf _).head? = _
    rw [namesOf_withoutHint hposonly, namesOf_withoutHint hargs, namesOf_withoutHint hvararg,
      namesOf_withoutHint hkwonly, namesOf_withoutHint hkwarg]
    rfl
  · intro m hm
    change m ∈ [Node.mentionsOfAll (posonly.map withoutHint), Node.mentionsOfAll (args.map withoutHint),
      Node.mentionsOfAll (vararg.map withoutHint), Node.mentionsOfAll (kwonly.map withoutHint),
      Node.mentionsOfAll (kwonly.map fun _ => Node.absent),
      Node.mentionsOfAll (kwarg.map withoutHint), Node.mentionsOfAll []].flatten at hm
    show m ∈ [Node.mentionsOfAll posonly, Node.mentionsOfAll args, Node.mentionsOfAll vararg,
      Node.mentionsOfAll kwonly, Node.mentionsOfAll kwDefaults, Node.mentionsOfAll kwarg,
      Node.mentionsOfAll defaults].flatten
    rw [mentions_absent] at hm
    simp only [List.flatten_cons, List.flatten_nil, List.mem_append, List.append_nil,
      List.not_mem_nil, false_or, Node.mentionsOfAll] at hm ⊢
    rcases hm with hm | hm | hm | hm | hm
    · exact .inl (mem_mentions_of_withoutHint hposonly hm)
    · exact .inr (.inl (mem_mentions_of_withoutHint hargs hm))
    · exact .inr (.inr (.inl (mem_mentions_of_withoutHint hvararg hm)))
    · exact .inr (.inr (.inr (.inl (mem_mentions_of_withoutHint hkwonly hm))))
    · exact .inr (.inr (.inr (.inr (.inr (.inl (mem_mentions_of_withoutHint hkwarg hm))))))

/-! ## The body that is copied -/

theorem mentions_splitDocumentation (body : List Node) :
    Node.mentionsOfAll (splitDocumentation body).1 = [] ∧
      Node.mentionsOfAll (splitDocumentation body).2 = Node.mentionsOfAll body := by
  unfold splitDocumentation
  split
  · split <;> exact ⟨rfl, rfl⟩
  · exact ⟨rfl, rfl⟩

theorem allAre_splitDocumentation {p : Part} {body : List Node} (h : Node.AllAre p body) :
    Node.AllAre p (splitDocumentation body).2 := by
  unfold splitDocumentation
  split
  · split
    · exact h.2
    · exact h
  · exact h

/-- **The body of a subject** is that of its definition without the declarations, which are
collected. -/
theorem Subject.IsRead.collects {t : Subject} {n : Node} (ht : t.IsRead)
    (hn : t.function.readDefinition = .ok n) :
    ∃ isAsync parameters body decorators returns,
      n = .functionDef t.function.name isAsync parameters body decorators returns ∧
      t.definition = .functionDef t.function.name isAsync parameters t.body [] returns ∧
      parameters.IsParameterList ∧ Node.mentionsOfAll t.documentation = [] ∧
      Node.AllAre .statement t.body ∧
      Declared.Collects {} t.declared (Node.mentionsOfAll t.body) (Node.mentionsOfAll body) := by
  obtain ⟨isAsync, parameters, body, decorators, returns, hread, hdefinition, hdocumentation,
    hbody⟩ := ht
  rw [hread] at hn
  obtain rfl := Except.ok.inj hn
  obtain ⟨-, ⟨hparameters, -⟩, hstatements, -⟩ := (readDefinition_spec hread).1
  obtain ⟨hnothing, hsame⟩ := mentions_splitDocumentation body
  obtain ⟨hare, hcollects⟩ := Node.hoistList_spec .statement (splitDocumentation body).2 {}
    (allAre_splitDocumentation hstatements)
  rw [hbody] at hare hcollects
  rw [hsame] at hcollects
  exact ⟨isAsync, parameters, body, decorators, returns, rfl, hdefinition,
    Node.isParameterList_of_is hparameters, hdocumentation ▸ hnothing, hare, hcollects⟩

theorem Subject.IsRead.allAre {t : Subject} {n : Node} (ht : t.IsRead)
    (hn : t.function.readDefinition = .ok n) : Node.AllAre .statement t.body := by
  obtain ⟨_, _, _, _, _, -, -, -, -, hbody, -⟩ := ht.collects hn
  exact hbody

/-- **What a copy mentions** is what the body mentions, but thin. -/
theorem Generator.Makes.thins {g : Generator Spelling Class Predicate} {var : String}
    {body : List Node} {b : Branch Spelling Class Predicate} (hb : g.Makes var body b)
    (hbody : Node.AllAre .statement body) :
    ∃ a, g.table.lookup b.type = .ok a ∧
      Mention.Thins a.Calls (Node.mentionsOfAll b.body) (Node.mentionsOfAll body) := by
  obtain ⟨a, ha, -, hcopy⟩ := hb.copy
  refine ⟨a, ha, ?_⟩
  rw [hcopy]
  exact Rewriter.applyList_thins ⟨var, a, g.accessorNames⟩ .statement body hbody

/-! ## The names of a specialized function -/

/-- **A chain mentions** what its copies mention, and reads some names. -/
theorem Dispatch.mem_mentions_chainFrom {α κ π : Type} {var : String} {i : Nat}
    {bs : List (Branch α κ π)} {m : Mention} (h : m ∈ (chainFrom var i bs).mentions) :
    (∃ name, m = .reads name) ∨ ∃ b ∈ bs, m ∈ Node.mentionsOfAll b.body := by
  induction bs generalizing i with
  | nil =>
    have hrefusal : (refusal var).mentions =
        [.reads unmatchedName, .reads var, .reads typesName] := rfl
    rw [chainFrom, hrefusal] at h
    simp only [List.mem_cons, List.not_mem_nil, or_false] at h
    rcases h with rfl | rfl | rfl <;> exact .inl ⟨_, rfl⟩
  | cons b bs ih =>
    have hchoice : (chainFrom var i (b :: bs)).mentions =
        ((condition var i b.test).mentions ++ []) ++ (Node.mentionsOfAll b.body ++
          (((chainFrom var (i + 1) bs).mentions ++ []) ++ [])) := rfl
    rw [hchoice] at h
    simp only [List.append_nil, List.mem_append] at h
    rcases h with h | h | h
    · left
      unfold condition at h
      split at h
      · change m ∈ [Mention.reads "isinstance", .reads var, .reads (testName i)] at h
        simp only [List.mem_cons, List.not_mem_nil, or_false] at h
        rcases h with rfl | rfl | rfl <;> exact ⟨_, rfl⟩
      · change m ∈ [Mention.reads (testName i), .reads var] at h
        simp only [List.mem_cons, List.not_mem_nil, or_false] at h
        rcases h with rfl | rfl <;> exact ⟨_, rfl⟩
    · exact .inr ⟨b, List.mem_cons_self, h⟩
    · refine (ih h).imp_right ?_
      rintro ⟨b', hb', hm⟩
      exact ⟨b', List.mem_cons_of_mem b hb', hm⟩

namespace Variant

variable {w : Variant} {n : Node} {m : Mention}

/-- The definition of a specialized function: the parameters are those of the original, and
the chain stands behind the declarations. -/
theorem bareDefinition_eq {isAsync : Bool} {parameters : Node} {returns : List Node}
    (h : w.subject.definition =
      .functionDef w.subject.function.name isAsync parameters w.subject.body [] returns) :
    bareDefinition w.definition = .functionDef w.subject.function.name isAsync
      (bareParameters parameters)
      (w.subject.documentation ++ w.subject.declared.statements ++ [w.dispatch.node]) [] [] := by
  unfold Variant.definition
  rw [h]
  rfl

/-- **Thin copies**: those of a variant mention what its body mentions, or less, but for names
that they read. -/
def IsThin (w : Variant) : Prop := ∀ b ∈ w.dispatch.branches, ∃ gained,
  Mention.Thins gained (Node.mentionsOfAll b.body) (Node.mentionsOfAll w.subject.body)

/-- What a chain binds is bound in the body, and the chain declares nothing. -/
theorem IsThin.mem_of_mem_node (hcopies : w.IsThin) {body : List Mention}
    (hbody : Node.mentionsOfAll w.subject.body = Mention.undeclared body)
    (hm : m.declares ∨ m.bound?.isSome) (h : m ∈ w.dispatch.node.mentions) :
    m ∈ body ∧ m.declares = false := by
  rcases Dispatch.mem_mentions_chainFrom h with ⟨name, rfl⟩ | ⟨b, hb, hmem⟩
  · exact hm.elim nofun nofun
  · obtain ⟨gained, hthins⟩ := hcopies b hb
    have hundeclared := hthins.mem_of_mem hm hmem
    rw [hbody] at hundeclared
    simpa using hundeclared

/-- **A specialized function has the names of the original**: the same parameters and the same
declarations, and it binds no other names. -/
theorem names_spec (hw : w.subject.IsRead) (hn : w.subject.function.readDefinition = .ok n)
    (hcopies : w.IsThin) :
    Signature.ofFunction (bareDefinition w.definition) = Signature.ofFunction n ∧
      (∀ m : Mention, m.declares →
        (m ∈ (bareDefinition w.definition).functionMentions ↔ m ∈ n.functionMentions)) ∧
      ∀ m : Mention, m.bound?.isSome → m ∈ (bareDefinition w.definition).functionMentions →
        m ∈ n.functionMentions := by
  obtain ⟨isAsync, parameters, body, decorators, returns, rfl, hdefinition, hparameters, hnothing,
    -, hcollects⟩ := hw.collects hn
  obtain ⟨hsignature, hsub⟩ := bareParameters_spec hparameters
  have hmem : ∀ m : Mention, m ∈ (bareDefinition w.definition).functionMentions ↔
      (∃ id, m = .binds id ∧ .parameter id ∈ (bareParameters parameters).mentions) ∨
        m ∈ Node.mentionsOfAll w.subject.declared.statements ∨ m ∈ w.dispatch.node.mentions := by
    intro m
    rw [bareDefinition_eq hdefinition, Node.functionMentions, List.mem_append,
      Mention.mem_splitParameters, Node.mentionsOfAll_append, Node.mentionsOfAll_append, hnothing,
      List.nil_append, List.mem_append]
    simp [Node.mentionsOfAll]
  have hmem' : ∀ m : Mention,
      m ∈ (Node.functionDef w.subject.function.name isAsync parameters body decorators
        returns).functionMentions ↔
      (∃ id, m = .binds id ∧ .parameter id ∈ parameters.mentions) ∨ m ∈ Node.mentionsOfAll body := by
    intro m
    rw [Node.functionMentions, List.mem_append, Mention.mem_splitParameters]
  have hdeclared : ∀ m : Mention, m ∈ Node.mentionsOfAll w.subject.declared.statements ↔
      m.declares ∧ m ∈ Node.mentionsOfAll body := by
    intro m
    rw [Declared.mem_mentions_statements]
    cases m <;>
      simp [Mention.declares, Mention.global?, Mention.nonlocal?, hcollects.mem_globals,
        hcollects.mem_nonlocals]
  refine ⟨?_, fun m hm => ?_, fun m hm h => ?_⟩
  · rw [bareDefinition_eq hdefinition]
    exact hsignature
  · have hnot : ∀ id, m ≠ .binds id := by
      rintro id rfl
      cases hm
    rw [hmem, hmem', hdeclared]
    simp only [hnot, false_and, exists_false, false_or, hm, true_and]
    refine ⟨fun h => h.elim id fun h => ?_, .inl⟩
    exact (hcopies.mem_of_mem_node hcollects.mentions (.inl hm) h).1
  · rw [hmem']
    rcases (hmem m).1 h with ⟨id, rfl, hparameter⟩ | h | h
    · exact .inl ⟨id, rfl, hsub _ hparameter⟩
    · exact .inr ((hdeclared m).1 h).2
    · exact .inr (hcopies.mem_of_mem_node hcollects.mentions (.inr hm) h).1

/-- So its scope has at most what that of the original has of a name that is no other one
there. -/
theorem atMost_scopeOf (hw : w.subject.IsRead) (hn : w.subject.function.readDefinition = .ok n)
    (hcopies : w.IsThin)
    {c c' : Site} (hc' : c'.owner = none) {name : String} (hname : LeavesAlone c.owner name) :
    Scope.AtMost name (c'.scopeOf (bareDefinition w.definition)) (c.scopeOf n) := by
  obtain ⟨hsignature, hdeclares, hbound⟩ := names_spec hw hn hcopies
  rw [Site.scopeOf_of_outside hc', hsignature]
  exact (Scope.AtMost.of_mentions hdeclares hbound _ _).trans (Site.atMost_scopeOf hname n)

end Variant

/-! ## Reads in a specialized function -/

/-- **A read in thin code of a body** was a read of the function, or comes from what was put
into the code. The scopes around it had no less of the name. -/
theorem Subject.IsRead.exists_read {t : Subject} {n : Node} (ht : t.IsRead)
    (hn : t.function.readDefinition = .ok n) {gained : String → Prop} {ms : List Mention}
    (hthins : Mention.Thins gained ms (Node.mentionsOfAll t.body)) {path' : List Scope}
    {name : String} (hread : ReadAt (fun _ => False) name path' ms)
    (hname : LeavesAlone t.function.site.owner name) :
    ∃ path, ReadAt gained name path (t.function.site.mangledMentions n.functionMentions) ∧
      List.Forall₂ (Scope.AtMost name) path' path := by
  obtain ⟨isAsync, parameters, body, decorators, returns, rfl, -, -, -, -, hcollects⟩ :=
    ht.collects hn
  obtain ⟨path₁, hread₁, hpath₁⟩ := hread.gain.of_thins hthins
  have hsub : ∀ m ∈ Node.mentionsOfAll t.body, m ∈ (Node.functionDef t.function.name isAsync
      parameters body decorators returns).functionMentions := by
    intro m hm
    rw [hcollects.mentions] at hm
    exact List.mem_append_right _ (List.mem_of_mem_filter hm)
  obtain ⟨path, hread, hpath⟩ := (hread₁.mono hsub).allMeantIn hname
  rw [← Site.mangledMentions_eq] at hread
  exact ⟨path, hread, atMost_trans hpath₁ hpath⟩

/-- A name of the function around a specialized one has its place in the frame of that. -/
theorem Variant.place_of_shows {w : Variant} {σ : Store} {name : String} {r : Ref}
    (h : σ.Shows name [w.factoryScope] [r]) :
    σ.place name [r] = if name ∈ w.factoryNames then .frame r else .module := by
  have hplace := Store.place_of_shows h []
  have hresolve : resolve name [w.factoryScope] =
      if name ∈ w.factoryNames then .scope else .around := by
    simp [resolve, factoryScope, Mention.globals, Mention.locals]
  rw [hresolve] at hplace
  split
  · next hname =>
    rw [if_pos hname] at hplace
    obtain ⟨r', hr', hplace⟩ := hplace
    obtain rfl := List.mem_singleton.1 hr'
    exact hplace
  · next hname =>
    rw [if_neg hname] at hplace
    exact hplace

/-- **What names stand for in a specialized function.** Each read in the copy of a branch is a
read in the body of the original, or in a call that was put in the place of an access. Where
the original leaves the name to the module, as long as the name is no other one in the class of
the original, the specialized function reads the module as well, which is the same module, and
so whatever it holds by then. But the names of the function around the specialized one, its own
name among them, are read there instead, unless they are declared global. -/
theorem specialize_reads {s s' : Session} {g : Generator Spelling Class Predicate}
    {counters counters' : Counters} {c : Site} {hasSource : Bool} {original v : Value}
    {var : String} {types : List TypeDescriptor} {notes : List (Note Spelling)}
    (h : s.run (g.specialize counters c hasSource original var types) =
      (.ok (⟨notes, .ok v⟩, counters'), s')) :
    ∃ (w : Variant) (new : Function) (n : Node) (r : Ref),
      s.store.cell? original = some (.function w.subject.function) ∧ w.subject.IsRead ∧
      w.subject.function.readDefinition = .ok n ∧ s'.store.cell? v = some (.function new) ∧
      w.Installed s'.store new ∧ new.site.inner = [r] ∧ w.dispatch.types = types ∧
      ∀ b ∈ w.dispatch.branches, g.Makes var w.subject.body b ∧
        ∃ a, g.table.lookup b.type = .ok a ∧ ∀ {path' : List Scope} {name : String},
          ReadAt (fun _ => False) name path' (Node.mentionsOfAll b.body) →
          LeavesAlone w.subject.function.site.owner name →
          ∃ path, ReadAt a.Calls name path
              (w.subject.function.site.mangledMentions n.functionMentions) ∧
            ∀ {σ σ' : Store} {here there : Site},
              here.StandsIn σ name (path ++ [w.subject.function.site.scopeOf n])
                w.subject.function.site.inner →
              σ.place name here.chain = .module →
              there.StandsIn σ' name (path' ++ [new.site.scopeOf new.definition]) [r] →
              σ'.Shows name [w.factoryScope] [r] →
              if name ∈ w.factoryNames ∧
                  resolve name (visible (path' ++ [new.site.scopeOf new.definition])) = .around
              then σ'.place name there.chain = .frame r
              else readName there name σ' = readGlobal there name σ' := by
  obtain ⟨w, new, hf, hw, hdispatch, hnew, hinstalled⟩ := specialize_spec h
  obtain ⟨r, hr, -⟩ := hinstalled.around
  obtain ⟨n, hn⟩ : ∃ n, w.subject.function.readDefinition = .ok n := by
    obtain ⟨_, _, _, _, _, hn, -⟩ := hw
    exact ⟨_, hn⟩
  obtain ⟨htypes, hmakes⟩ := Generator.generate_makes hdispatch
  have hcopies : w.IsThin := by
    intro b hb
    obtain ⟨a, -, hthins⟩ := (hmakes b hb).thins (hw.allAre hn)
    exact ⟨_, hthins⟩
  refine ⟨w, new, n, r, hf, hw, hn, hnew, hinstalled, hr, htypes, fun b hb => ⟨hmakes b hb, ?_⟩⟩
  obtain ⟨a, ha, hthins⟩ := (hmakes b hb).thins (hw.allAre hn)
  refine ⟨a, ha, fun {path' name} hread hname => ?_⟩
  obtain ⟨path, hread, hpath⟩ := hw.exists_read hn hthins hread hname
  refine ⟨path, hread, fun {σ σ' here there} hhere hmodule hthere hfactory => ?_⟩
  -- the scopes around the read in the copy have at most what those in the original have
  have hown := Variant.atMost_scopeOf hw hn hcopies hinstalled.owner hname
  rw [← hinstalled.definition] at hown
  have hplace := hhere.place_of_atMost hmodule hthere (List.rel_append hpath (.cons hown .nil))
  rw [Variant.place_of_shows hfactory] at hplace
  by_cases hcaptured : name ∈ w.factoryNames ∧
      resolve name (visible (path' ++ [new.site.scopeOf new.definition])) = .around
  · rw [if_pos hcaptured, hplace, if_pos hcaptured.2, if_pos hcaptured.1]
  · rw [if_neg hcaptured]
    refine readName_of_module (hplace.trans ?_)
    split
    · next haround => rw [if_neg fun hname => hcaptured ⟨hname, haround⟩]
    · rfl

/-! ## A function that gives itself -/

/-- The definition of a function of one parameter that gives what a name stands for. -/
def giving (function parameter name : String) : Node :=
  .functionDef function false (.arguments [] [.arg parameter []] [] [] [] [] [])
    [.returnStmt [.load name]] [] []

/-- The names in such a definition. -/
def giving? : Node → Option (List String)
  | .functionDef function false (.arguments [] [.arg parameter []] [] [] [] [] [])
      [.returnStmt [.load name]] [] [] => some [function, parameter, name]
  | _ => none

theorem eq_of_giving? {n : Node} {function parameter name : String}
    (h : giving? n = some [function, parameter, name]) : n = giving function parameter name := by
  unfold giving? at h
  split at h
  · simp only [Option.some.injEq, List.cons.injEq, and_true] at h
    obtain ⟨rfl, rfl, rfl⟩ := h
    rfl
  · cases h

/-- A session in which a function `f` of `v` is defined that gives what `f` stands for. -/
def givingSession : Session := (Session.run {} (loadModule "m" [] [giving "f" "v" "f"])).2

/-- The function is specialized on its parameter for integers. -/
def specializeGiving : Run (Logged (Note Spelling) SpecializeFault Value × Counters) :=
  Generator.specialize { oracle := defaultDecider, table := defaultTable } {}
    { module := "m", globals := ⟨0⟩ } true (.ref ⟨1⟩) "v" [StandardClass.int.descriptor]

/-- What the scope of a function makes of a name. -/
def Store.resolved? (σ : Store) (v : Value) (name : String) : Option Resolution :=
  match σ.cell? v with
  | some (.function f) => some (resolve name [f.site.scopeOf f.definition])
  | _ => none

/-- The names in the definition of a function that stands at the top of its module and has one
local name. -/
def Store.giving? (σ : Store) (v : Value) : Option (List String) :=
  match σ.cell? v with
  | some (.function f) =>
    if f.site.owner = none ∧ f.site.inner.isEmpty ∧ f.globals = [] ∧ f.locals = ["v"] then
      f.readDefinition.toOption.bind Narrowing.giving?
    else none
  | _ => none

theorem giving_evaluated : (match givingSession.run specializeGiving with
      | (.ok (⟨_, .ok v⟩, _), s') => s'.store.resolved? v "f"
      | _ => none) = some .around ∧
    givingSession.store.giving? (.ref ⟨1⟩) = some ["f", "v", "f"] := by
  decide +kernel

theorem giving_specialized : ∃ notes v counters s',
    givingSession.run specializeGiving = (.ok (⟨notes, .ok v⟩, counters), s') ∧
      s'.store.resolved? v "f" = some .around := by
  have hresolved := giving_evaluated.1
  rcases hrun : givingSession.run specializeGiving with ⟨_ | ⟨⟨notes, _ | v⟩, counters⟩, s'⟩
  · rw [hrun] at hresolved
    cases hresolved
  · rw [hrun] at hresolved
    cases hresolved
  · rw [hrun] at hresolved
    exact ⟨notes, v, counters, s', rfl, hresolved⟩

/-- In that function the name stands for what is held under it in the function around. -/
theorem specialize_reads_giving : ∃ notes v counters s' new r,
    givingSession.run specializeGiving = (.ok (⟨notes, .ok v⟩, counters), s') ∧
      s'.store.cell? v = some (.function new) ∧ new.site.inner = [r] ∧
      ∀ {bindings : List (String × Value)} {there : Site} {τ : Store},
        enter new bindings s'.store = .done there τ → τ.place "f" there.chain = .frame r := by
  obtain ⟨notes, v, counters, s', hrun, hresolved⟩ := giving_specialized
  obtain ⟨w, new, n, r, hf, hw, hn, hnew, hinstalled, hr, htypes, hbranches⟩ :=
    specialize_reads hrun
  refine ⟨notes, v, counters, s', new, r, hrun, hnew, hr, fun {bindings there τ} hthere => ?_⟩
  have hgiving := giving_evaluated.2
  unfold Store.giving? at hgiving
  rw [hf] at hgiving
  dsimp only at hgiving
  split at hgiving
  case isFalse => cases hgiving
  rename_i hsite
  rw [hn] at hgiving
  obtain rfl := eq_of_giving? hgiving
  obtain ⟨howner, hinner, hglobals, hlocals⟩ := hsite
  rw [List.isEmpty_iff] at hinner
  -- the only branch holds a copy of the body, which reads the name
  obtain ⟨b, hb⟩ : ∃ b, w.dispatch.branches = [b] := by
    obtain ⟨b, hb, -⟩ := List.map_eq_singleton_iff.1 htypes
    exact ⟨b, hb⟩
  obtain ⟨hmakes, a, -, hall⟩ := hbranches b (hb ▸ List.mem_cons_self)
  obtain ⟨_, _, body, _, _, hsame, -, -, hhoisted⟩ := hw
  rw [hn] at hsame
  obtain ⟨⟨hname, -⟩, -, hbody, -, -⟩ : ("f" = w.subject.function.name ∧ _) ∧ _ ∧
      [.returnStmt [.load "f"]] = body ∧ _ ∧ _ := by
    simpa [giving] using Except.ok.inj hsame
  subst hbody
  obtain ⟨hcopied, -⟩ := Prod.mk.inj hhoisted
  have hread : ReadAt (fun _ => False) "f" [] (Node.mentionsOfAll b.body) := by
    obtain ⟨a', -, -, hcopy⟩ := hmakes.copy
    rw [hcopy, ← hcopied]
    exact .here (.inl List.mem_cons_self)
  -- in the original it is read at the top of the body, and is left to the module
  have hmentions : w.subject.function.site.mangledMentions (giving "f" "v" "f").functionMentions =
      [.binds "v", .reads "f"] := by
    rw [Site.mangledMentions, howner]
    rfl
  obtain ⟨path, hpath, hnames⟩ := hall hread (howner ▸ leavesAlone_none "f")
  rw [hmentions] at hpath
  obtain rfl : path = [] := by
    cases hpath with
    | here => rfl
    | inside S h _ => simp at h
  have hscope : w.subject.function.HasScope (w.subject.function.site.scopeOf (giving "f" "v" "f")) := by
    rw [Site.scopeOf_of_outside howner]
    refine ⟨by decide, fun name => ?_, fun name => ?_⟩
    · rw [hglobals]
      rfl
    · rw [hlocals]
      exact (or_iff_left_of_imp id).symm
  obtain ⟨fr, henter, -⟩ := enter_spec w.subject.function [] givingSession.store
  have hhere : Site.StandsIn _ "f" [w.subject.function.site.scopeOf (giving "f" "v" "f")]
      w.subject.function.site.inner _ := enter_standsIn hscope ⟨[], rfl, .nil⟩ henter
  have hmodule := hhere.place_eq (by rw [Site.scopeOf_of_outside howner]; decide)
  rw [hinner] at hmodule
  -- in the specialized function nothing else comes before the function around it
  obtain ⟨r', hr', hshows⟩ := hinstalled.around
  obtain rfl : r' = r := List.head_eq_of_cons_eq (hr'.symm.trans hr)
  have hthere' : there.StandsIn τ "f" [new.site.scopeOf new.definition] new.site.inner :=
    enter_standsIn hinstalled.hasScope ⟨[], rfl, .nil⟩ hthere
  rw [hr] at hthere'
  have hfactory : τ.Shows "f" [w.factoryScope] [r'] := by
    obtain ⟨fr', henter', -⟩ := enter_spec new bindings s'.store
    rw [henter'] at hthere
    obtain ⟨-, rfl⟩ := Outcome.done.inj hthere
    exact (hshows "f").alloc _
  have haround : resolve "f" [new.site.scopeOf new.definition] = .around := by
    unfold Store.resolved? at hresolved
    rw [hnew] at hresolved
    exact Option.some.inj hresolved
  have hmem : "f" ∈ w.factoryNames := by
    rw [Variant.factoryNames, ← hname]
    exact List.mem_append_right _ List.mem_cons_self
  have hplace := hnames hhere (hmodule.trans (ite_self _)) hthere' hfactory
  rwa [if_pos ⟨hmem, haround⟩] at hplace

end Narrowing
