import Narrowing.Proofs.Code.Hoisting
import Narrowing.Proofs.Dispatch.Arguments
import Narrowing.Proofs.Run.Meaning
/-!
# The frames of a specialized function

A call runs in a frame that says which names belong to it, and they are read off the code. The code
of a specialized function is another one than that of the original: its declarations stand in front,
and the body stands there once for each branch. But the copies bind what the body binds, as long as
no access is hidden behind an attribute (`Rewriter.thins_applyList`), and what stands there again
adds no name. So if no name is private to a class, calls of both functions begin in frames with the
same names, in the same order, and take their arguments alike (`Variant.Installed.beginsLike`).
-/

namespace Narrowing

open Code Run

/-! ## Parameters -/

namespace Code

namespace Mention

theorem splitParameters_append (ms ns : List Mention) :
    (splitParameters (ms ++ ns)).2 = (splitParameters ms).2 ++ (splitParameters ns).2 := by
  induction ms with
  | nil => rfl
  | cons m ms ih =>
    cases m with
    | parameter name => exact congrArg (binds name :: ·) ih
    | _ => exact ih

theorem splitParameters_of_allLoose {ms : List Mention} (h : AllLoose ms) :
    (splitParameters ms).2 = [] := by
  induction ms with
  | nil => rfl
  | cons m ms ih =>
    obtain ⟨hm, hms⟩ := allLoose_cons.1 h
    cases m with
    | parameter name => exact hm.elim
    | _ => exact ih hms

end Mention

namespace Node

open Mention

theorem allLoose_of_allAre {ns : List Node} (h : AllAre .expression ns) :
    AllLoose (mentionsOfAll ns) := allAllow_of_allAre .expression ns h

/-- Parameters bind the same names when they are bare. -/
theorem splitParameters_withoutHint {ns : List Node} (h : AllAre .parameter ns) :
    (splitParameters (mentionsOfAll (ns.map withoutHint))).2 =
      (splitParameters (mentionsOfAll ns)).2 := by
  induction ns with
  | nil => rfl
  | cons n ns ih =>
    obtain ⟨name, hint, rfl⟩ := exists_of_isParameter (isParameter_of_is h.1)
    obtain ⟨⟨-, hhint, -⟩, hns⟩ := h
    have hmentions : (Node.arg name hint).mentions = mentionsOfAll hint ++ [.parameter name] := by
      show [mentionsOfAll hint].flatten ++ _ = _
      simp
    rw [List.map_cons, mentionsOfAll, mentionsOfAll, splitParameters_append, splitParameters_append,
      ih hns, hmentions, splitParameters_append,
      splitParameters_of_allLoose (allLoose_of_allAre hhint)]
    rfl

theorem splitParameters_bareParameters {n : Node} (h : n.Is .parameters) :
    (splitParameters (bareParameters n).mentions).2 = (splitParameters n.mentions).2 := by
  obtain ⟨posonly, args, vararg, kwonly, kwDefaults, kwarg, defaults, rfl, -⟩ :=
    isParameterList_of_is h
  obtain ⟨-, hposonly, hargs, hvararg, hkwonly, hkwDefaults, hkwarg, hdefaults, -⟩ := h
  show (splitParameters [mentionsOfAll (posonly.map withoutHint), mentionsOfAll (args.map withoutHint),
      mentionsOfAll (vararg.map withoutHint), mentionsOfAll (kwonly.map withoutHint),
      mentionsOfAll (kwonly.map fun _ => .absent), mentionsOfAll (kwarg.map withoutHint),
      mentionsOfAll []].flatten).2 =
    (splitParameters [mentionsOfAll posonly, mentionsOfAll args, mentionsOfAll vararg,
      mentionsOfAll kwonly, mentionsOfAll kwDefaults, mentionsOfAll kwarg,
      mentionsOfAll defaults].flatten).2
  simp only [List.flatten_cons, List.flatten_nil, splitParameters_append, mentions_absent,
    splitParameters_withoutHint hposonly, splitParameters_withoutHint hargs,
    splitParameters_withoutHint hvararg, splitParameters_withoutHint hkwonly,
    splitParameters_withoutHint hkwarg,
    splitParameters_of_allLoose (allLoose_of_allAre hkwDefaults),
    splitParameters_of_allLoose (allLoose_of_allAre hdefaults)]
  rfl

end Node

end Code

/-! ## The names of a chain -/

theorem eraseDups_eq_self {names : List String} (h : names.Nodup) : names.eraseDups = names := by
  induction names with
  | nil => rfl
  | cons name names ih =>
    obtain ⟨hname, hnames⟩ := List.nodup_cons.1 h
    have hothers : names.filter (fun other => !other == name) = names := by
      refine List.filter_eq_self.2 fun other hother => ?_
      have hne : other ≠ name := fun heq => hname (heq ▸ hother)
      simpa using hne
    rw [List.eraseDups_cons, hothers, ih hnames]

theorem eraseDups_append_of_subset {as bs : List String} (h : bs ⊆ as) :
    (as ++ bs).eraseDups = as.eraseDups := by
  have hnone : bs.removeAll as = [] := by
    rw [List.removeAll, List.filter_eq_nil_iff]
    intro b hb
    simp [h hb]
  rw [List.eraseDups_append, hnone]
  simp

namespace Dispatch

variable {α κ π : Type} {var : String}

/-- **A chain binds** what its copies bind, one after another. -/
theorem bound_chainFrom (i : Nat) (bs : List (Branch α κ π)) :
    (chainFrom var i bs).mentions.filterMap Mention.bound? =
      bs.flatMap fun b => (Node.mentionsOfAll b.body).filterMap Mention.bound? := by
  induction bs generalizing i with
  | nil => rfl
  | cons b bs ih =>
    have hchoice : (chainFrom var i (b :: bs)).mentions =
        ((condition var i b.test).mentions ++ []) ++ (Node.mentionsOfAll b.body ++
          (((chainFrom var (i + 1) bs).mentions ++ []) ++ [])) := rfl
    have hcondition : (condition var i b.test).mentions.filterMap Mention.bound? = [] := by
      unfold condition
      split <;> rfl
    rw [hchoice]
    simp [hcondition, ih]

end Dispatch

namespace Code

/-- Where names are bound again and the declarations are the same, names belong to the scope again. -/
theorem Mention.locals_again {ms ms' : List Mention} {again : List String}
    (hbound : ms'.filterMap bound? = ms.filterMap bound? ++ again)
    (hagain : again ⊆ ms.filterMap bound?)
    (hdeclares : ∀ m : Mention, m.declares → (m ∈ ms' ↔ m ∈ ms)) :
    ∃ again', locals ms' = locals ms ++ again' ∧ again' ⊆ locals ms := by
  let isOwn (ms : List Mention) (name : String) : Bool :=
    !(ms.filterMap global?).contains name && !(ms.filterMap nonlocal?).contains name
  have hown : isOwn ms' = isOwn ms := by
    funext name
    have hglobal : name ∈ ms'.filterMap global? ↔ name ∈ ms.filterMap global? :=
      mem_globals.trans ((hdeclares _ rfl).trans mem_globals.symm)
    have hnonlocal : name ∈ ms'.filterMap nonlocal? ↔ name ∈ ms.filterMap nonlocal? :=
      mem_nonlocals.trans ((hdeclares _ rfl).trans mem_nonlocals.symm)
    simp only [isOwn, List.contains_eq_mem, hglobal, hnonlocal]
  refine ⟨again.filter (isOwn ms), ?_, fun name hname => ?_⟩
  · show List.filter (isOwn ms') _ = _
    rw [hown, hbound, List.filter_append]
    rfl
  · obtain ⟨hmem, hown⟩ := List.mem_filter.1 hname
    exact List.mem_filter.2 ⟨hagain hmem, hown⟩

/-- Declarations bind nothing. -/
theorem Mention.bound_undeclared (ms : List Mention) :
    (undeclared ms).filterMap bound? = ms.filterMap bound? := by
  rw [undeclared, List.filterMap_filter]
  refine List.filterMap_congr fun m _ => ?_
  cases m <;> rfl

theorem Declared.bound_statements (d : Declared) :
    (Node.mentionsOfAll d.statements).filterMap Mention.bound? = [] ∧
      Mention.globals (Node.mentionsOfAll d.statements) = d.globals := by
  rw [mentions_statements]
  constructor
  · simp [List.filterMap_map, Function.comp_def, Mention.bound?]
  · simp [Mention.globals, List.filterMap_map, Function.comp_def, Mention.global?]

end Code

namespace Variant

variable {w : Variant} {n : Node}

/-- **Faithful copies** bind what the body binds. -/
def IsFaithful (w : Variant) : Prop := ∀ b ∈ w.dispatch.branches,
  (Node.mentionsOfAll b.body).filterMap Mention.bound? =
    (Node.mentionsOfAll w.subject.body).filterMap Mention.bound?

/-- **A specialized function binds** what the original binds, and then again for each further
copy. It declares the same names global, each of them once. -/
theorem bound_spec (hw : w.subject.IsRead) (hn : w.subject.function.readDefinition = .ok n)
    (hcopies : w.IsThin) (hfaithful : w.IsFaithful) (hsome : w.dispatch.branches ≠ []) :
    (∃ again, (bareDefinition w.definition).functionMentions.filterMap Mention.bound? =
        n.functionMentions.filterMap Mention.bound? ++ again ∧
      again ⊆ n.functionMentions.filterMap Mention.bound?) ∧
    Mention.globals (bareDefinition w.definition).functionMentions =
      (Mention.globals n.functionMentions).eraseDups := by
  obtain ⟨isAsync, parameters, body, decorators, returns, rfl, hdefinition, -, hnothing, -,
    hcollects⟩ := hw.collects hn
  have hparameters := Node.splitParameters_bareParameters (readDefinition_spec hn).1.2.1.1
  have hmentions : (bareDefinition w.definition).functionMentions =
      (Mention.splitParameters parameters.mentions).2 ++
        (Node.mentionsOfAll w.subject.declared.statements ++ w.dispatch.node.mentions) := by
    rw [bareDefinition_eq hdefinition, Node.functionMentions, hparameters,
      Node.mentionsOfAll_append, Node.mentionsOfAll_append, hnothing]
    simp [Node.mentionsOfAll]
  have hbody : (Node.mentionsOfAll w.subject.body).filterMap Mention.bound? =
      (Node.mentionsOfAll body).filterMap Mention.bound? := by
    rw [hcollects.mentions, Mention.bound_undeclared]
  obtain ⟨hnone, hglobals⟩ := Declared.bound_statements w.subject.declared
  constructor
  · obtain ⟨b, bs, hbs⟩ := List.exists_cons_of_ne_nil hsome
    refine ⟨bs.flatMap fun b => (Node.mentionsOfAll b.body).filterMap Mention.bound?, ?_, ?_⟩
    · rw [hmentions, List.filterMap_append, List.filterMap_append, hnone, List.nil_append,
        Dispatch.node, Dispatch.bound_chainFrom, hbs, List.flatMap_cons,
        hfaithful b (hbs ▸ List.mem_cons_self), hbody, Node.functionMentions, List.filterMap_append,
        List.append_assoc]
    · intro name hname
      obtain ⟨b', hb', hname⟩ := List.mem_flatMap.1 hname
      rw [hfaithful b' (hbs ▸ List.mem_cons_of_mem b hb'), hbody] at hname
      rw [Node.functionMentions, List.filterMap_append]
      exact List.mem_append_right _ hname
  · have hparameters : Mention.globals (Mention.splitParameters parameters.mentions).2 = [] := by
      refine List.filterMap_eq_nil_iff.2 fun m hm => ?_
      obtain ⟨name, rfl, -⟩ := Mention.mem_splitParameters.1 hm
      rfl
    have hchain : Mention.globals w.dispatch.node.mentions = [] := by
      refine List.filterMap_eq_nil_iff.2 fun m hm => ?_
      by_contra hglobal
      have hdeclares : m.declares := by
        rw [Mention.declares, Option.isSome_iff_ne_none.2 hglobal]
        rfl
      rw [(hcopies.mem_of_mem_node hcollects.mentions (.inl hdeclares) hm).2] at hdeclares
      cases hdeclares
    have happend : ∀ ms ns : List Mention,
        Mention.globals (ms ++ ns) = Mention.globals ms ++ Mention.globals ns :=
      fun _ _ => List.filterMap_append
    rw [hmentions, Node.functionMentions, happend, happend, happend, hparameters, hchain, hglobals,
      hcollects.globals, Declared.addNew_nil]
    simp

end Variant

/-! ## Calls that begin alike -/

/-- **Functions whose calls begin alike**: they take their arguments under the same names and run in
frames to which the same names belong. -/
structure Function.BeginsLike (new f : Function) : Prop where
  signature : new.signature = f.signature
  defaults : new.defaults = f.defaults
  kwDefaults : new.kwDefaults = f.kwDefaults
  locals : new.locals = f.locals
  globals : new.globals = f.globals
  isPrivate : new.isPrivate = f.isPrivate

namespace Function.BeginsLike

variable {new f : Function} (h : new.BeginsLike f)

include h

/-- They take the same arguments. -/
theorem arguments_eq (args : List Value) (keywords : List (String × Value)) :
    arguments new args keywords = arguments f args keywords := by
  rw [Narrowing.arguments_eq, Narrowing.arguments_eq, Function.bound?, Function.bound?, h.signature,
    h.defaults, h.kwDefaults]

/-- They run in the same frame, each at its own site. -/
theorem enter_eq (bindings : List (String × Value)) (σ : Store) :
    ∃ r τ, enter f bindings σ = .done (f.siteIn r) τ ∧
      enter new bindings σ = .done (new.siteIn r) τ := by
  let frame (g : Function) : Frame := {
    locals := g.locals, globals := g.globals, instance? := g.signature.positional.head?
    isPrivate := g.isPrivate, bindings }
  have hframe : frame new = frame f := by
    simp only [frame, h.locals, h.globals, h.signature, h.isPrivate]
  refine ⟨(σ.alloc (.frame (frame f))).1, (σ.alloc (.frame (frame f))).2, rfl, ?_⟩
  show Outcome.done (new.siteIn (σ.alloc (.frame (frame new))).1)
    (σ.alloc (.frame (frame new))).2 = _
  rw [hframe]

end Function.BeginsLike

/-- **A function without private names**: the class around it, if there is one, gives no other
meaning to its parameters, to the names that it mentions or to those in its body, also where its
scopes mention them. -/
structure Subject.IsPublic (t : Subject) : Prop where
  parameters : ∀ name ∈ (Signature.ofFunction t.function.definition).variableNames,
    t.function.site.mangled name = name
  mentions : t.function.site.mangledMentions t.function.definition.functionMentions =
    t.function.definition.functionMentions
  names : ∀ p ∈ Node.placesOfBody t.body, ∀ name, p.node.kind.ownName? = some name →
    t.function.site.mangled name = name
  loops : ∀ p ∈ Node.placesOfBody t.body, p.node.kind.opensScope →
    t.function.site.mangledMentions p.node.functionMentions = p.node.functionMentions

/-- Outside of a class no name is private. -/
theorem Subject.isPublic_of_outside {t : Subject} (h : t.function.site.owner = none) :
    t.IsPublic := by
  have hmangled : ∀ name, t.function.site.mangled name = name := fun name => by
    rw [Site.mangled, h]
  have hmentions : ∀ ms, t.function.site.mangledMentions ms = ms := fun ms => by
    rw [Site.mangledMentions, h]
  exact ⟨fun name _ => hmangled name, hmentions _, fun _ _ name _ => hmangled name,
    fun _ _ _ => hmentions _⟩

theorem Code.Signature.rename_eq_self {s : Signature} {g : String → String}
    (h : ∀ name ∈ s.variableNames, g name = name) : s.rename g = s := by
  simp only [Signature.variableNames, Signature.positional, List.forall_mem_append,
    Option.mem_toList] at h
  obtain ⟨⟨⟨⟨hpositionalOnly, hordinary⟩, hkeywordOnly⟩, hrest⟩, hkeywordRest⟩ := h
  unfold Signature.rename
  rw [List.map_congr_left hpositionalOnly, List.map_congr_left hordinary,
    List.map_congr_left hkeywordOnly, Option.map_congr hrest, Option.map_congr hkeywordRest]
  simp

/-- **The calls of a specialized function begin like those of the original**, if that has no private
names. -/
theorem Variant.Installed.beginsLike {w : Variant} {new : Function} {ρ : Store}
    (h : w.Installed ρ new) (hnew : new.IsAsDefined) (hw : w.subject.IsRead)
    (hn : w.subject.function.readDefinition = .ok w.subject.function.definition)
    (hdefined : w.subject.function.IsAsDefined) (hpublic : w.subject.IsPublic)
    (hcopies : w.IsThin) (hfaithful : w.IsFaithful) (hsome : w.dispatch.branches ≠ [])
    (hprivate : new.isPrivate = w.subject.function.isPrivate) :
    new.BeginsLike w.subject.function := by
  obtain ⟨⟨again, hbound, hagain⟩, hglobals⟩ := bound_spec hw hn hcopies hfaithful hsome
  obtain ⟨hsignature, hdeclares, -⟩ := names_spec hw hn hcopies
  obtain ⟨again', hlocals, hagain'⟩ := Mention.locals_again hbound hagain hdeclares
  have hmangled : new.site.mangled = id := by
    funext name
    rw [Site.mangled, h.owner]
    rfl
  have hmentions : ∀ ms, new.site.mangledMentions ms = ms := fun ms => by
    rw [Site.mangledMentions, h.owner]
  have hnames : (Signature.ofFunction w.subject.function.definition).variableNames.map
      w.subject.function.site.mangled =
        (Signature.ofFunction w.subject.function.definition).variableNames :=
    (List.map_congr_left hpublic.parameters).trans (List.map_id _)
  refine ⟨?_, h.takesOver.defaults, h.takesOver.kwDefaults, ?_, ?_, hprivate⟩
  · rw [(h.signature_eq hw hn).1, Function.signature, Signature.rename_eq_self hpublic.parameters]
  · rw [hnew.locals, hdefined.locals, hpublic.mentions, hnames, hmentions, hmangled, List.map_id,
      h.definition, hsignature, hlocals, ← List.append_assoc]
    exact eraseDups_append_of_subset fun name hname => List.mem_append_right _ (hagain' hname)
  · rw [hnew.globals, hdefined.globals, hpublic.mentions, hmentions, h.definition, hglobals]
    refine eraseDups_eq_self ?_
    rw [← Declared.addNew_nil]
    exact Declared.nodup_addNew List.nodup_nil

end Narrowing
