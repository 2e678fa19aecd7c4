import Narrowing.Proofs.Access.Own
import Narrowing.Proofs.Access.Subscripts
import Narrowing.Proofs.Dispatch.Frames
import Narrowing.Proofs.Dispatch.Hygiene
import Narrowing.Proofs.Dispatch.Rebinding
import Narrowing.Proofs.Run.Hoisting
/-!
# What calls of a specialized function do

A specialized function is to do what the original does, wherever a branch accepts its argument. A
call of it takes the arguments and enters the frame that a call of the original does
(`Variant.Installed.begins`), comes to the chain, and so to the copy of the body in the first branch
that accepts. The copy follows the body from there on (`Rewriter.follows_body_elsewhere`). So **the
call follows that of the original** (`specialize_follows`), up to where it makes a difference that
the code stands in another function now.

That is the case for whatever the body defines. A function that is made in a call keeps the
place where its code stands, and has the name of the function around in its qualified name. A
comprehension that runs at once keeps nothing, so calls are followed through it.

A simple function makes no function, class or generator and keeps the value of its variable, so its
calls and those of the specialized one are alike for as long as they last, but for a few things that
code can do (`Variant.Installed.alike`).
-/

namespace Narrowing

open Code Run

/-! ## Functions that run at once -/

/-- **A chain yields** only where one of its copies does. -/
theorem Dispatch.exists_yields_of_chainFrom {α κ π : Type} {var : String} {i : Nat}
    {bs : List (Branch α κ π)} (h : (chainFrom var i bs).yields) :
    ∃ b ∈ bs, Node.someYields b.body := by
  induction bs generalizing i with
  | nil => cases h
  | cons b bs ih =>
    have hcondition : (condition var i b.test).yields = false := by
      unfold condition
      split <;> rfl
    have hchoice : (chainFrom var i (b :: bs)).yields =
        (((condition var i b.test).yields || false) || (Node.someYields b.body ||
          (((chainFrom var (i + 1) bs).yields || false) || false))) := rfl
    rw [hchoice, hcondition] at h
    simp only [Bool.or_false, Bool.false_or, Bool.or_eq_true] at h
    rcases h with h | h
    · exact ⟨b, List.mem_cons_self, h⟩
    · obtain ⟨b', hb', hyields⟩ := ih h
      exact ⟨b', List.mem_cons_of_mem b hb', hyields⟩

/-- It keeps the code that its copies keep. -/
theorem Dispatch.keepsCode_chainFrom {α κ π : Type} {var : String} {i : Nat}
    {bs : List (Branch α κ π)} : (chainFrom var i bs).anyKind Kind.keepsCode =
      bs.any fun b => Node.anyKindList Kind.keepsCode b.body := by
  induction bs generalizing i with
  | nil => rfl
  | cons b bs ih =>
    have hcondition : (condition var i b.test).anyKind Kind.keepsCode = false := by
      unfold condition
      split <;> rfl
    have hchoice : (chainFrom var i (b :: bs)).anyKind Kind.keepsCode =
        (((condition var i b.test).anyKind Kind.keepsCode || false) ||
          (Node.anyKindList Kind.keepsCode b.body ||
            (((chainFrom var (i + 1) bs).anyKind Kind.keepsCode || false) || false))) := rfl
    rw [hchoice, hcondition, ih, List.any_cons]
    simp

theorem someYields_append (ms ns : List Node) :
    Node.someYields (ms ++ ns) = (Node.someYields ms || Node.someYields ns) := by
  induction ms with
  | nil => rfl
  | cons m ms ih => rw [List.cons_append, Node.someYields, Node.someYields, ih, Bool.or_assoc]

theorem splitDocumentation_append (body : List Node) :
    (splitDocumentation body).1 ++ (splitDocumentation body).2 = body := by
  unfold splitDocumentation
  split
  · split <;> rfl
  · rfl

/-- Neither documentation nor declarations yield. -/
theorem someYields_front (body : List Node) (d : Declared) :
    Node.someYields (splitDocumentation body).1 = false ∧ Node.someYields d.statements = false := by
  constructor
  · unfold splitDocumentation
    split
    · split <;> rfl
    · rfl
  · unfold Declared.statements
    rw [someYields_append]
    split <;> split <;> rfl

/-- Nor do they keep code. -/
theorem keepsCode_front (body : List Node) (d : Declared) :
    Node.anyKindList Kind.keepsCode (splitDocumentation body).1 = false ∧
      Node.anyKindList Kind.keepsCode d.statements = false := by
  constructor
  · unfold splitDocumentation
    split
    · split <;> rfl
    · rfl
  · unfold Declared.statements
    rw [Node.anyKindList_append]
    split <;> split <;> rfl

/-- **A function makes nothing** if its body makes nothing as it is read. -/
theorem Subject.IsRead.isSelfContained_eq {t : Subject} {n : Node} (ht : t.IsRead)
    (hn : t.function.readDefinition = .ok n) :
    n.isSelfContained = !Node.anyKindList Kind.keepsCode t.body := by
  obtain ⟨isAsync, parameters, body, decorators, returns, hread, -, -, hbody⟩ := ht
  have hare := allAre_splitDocumentation (readDefinition_spec hread).1.2.2.1
  rw [hread] at hn
  obtain rfl := Except.ok.inj hn
  have htaken : Node.anyKindList Kind.keepsCode t.body =
      Node.anyKindList Kind.keepsCode (splitDocumentation body).2 := by
    rw [show t.body = (hoistList {} (splitDocumentation body).2).1 by rw [hbody]]
    exact Node.keepsCode_hoistList .statement _ _ hare
  rw [htaken, Node.isSelfContained, ← splitDocumentation_append body, Node.anyKindList_append,
    (keepsCode_front body t.declared).1, Bool.false_or, splitDocumentation_append]

namespace Variant

variable {w : Variant} {n : Node}

/-- **A specialized function runs at once** if the original does. -/
theorem suspends_eq_false (hw : w.subject.IsRead) (hn : w.subject.function.readDefinition = .ok n)
    (hcopies : ∀ b ∈ w.dispatch.branches, Node.someYields b.body → Node.someYields w.subject.body)
    (h : n.suspends = false) : (bareDefinition w.definition).suspends = false := by
  obtain ⟨isAsync, parameters, body, decorators, returns, hread, hdefinition, hdocumentation,
    hbody⟩ := hw
  rw [hread] at hn
  obtain rfl := Except.ok.inj hn
  obtain ⟨hasync, hyields⟩ := Bool.or_eq_false_iff.1 h
  rw [bareDefinition_eq hdefinition]
  refine Bool.or_eq_false_iff.2 ⟨hasync, ?_⟩
  obtain ⟨hfront, hdeclared⟩ := someYields_front body w.subject.declared
  rw [someYields_append, someYields_append, hdocumentation, hfront, hdeclared, Bool.false_or,
    Bool.false_or]
  refine Bool.eq_false_iff.2 fun hnode => ?_
  rw [Node.someYields, Node.someYields, Bool.or_false] at hnode
  obtain ⟨b, hb, hcopy⟩ := Dispatch.exists_yields_of_chainFrom hnode
  have hkept := hcopies b hb hcopy
  have htaken : w.subject.body = (hoistList {} (splitDocumentation body).2).1 := by rw [hbody]
  rw [htaken] at hkept
  have hbehind := Node.someYields_hoist _ _ hkept
  rw [← splitDocumentation_append body, someYields_append, hbehind, Bool.or_true] at hyields
  cases hyields

/-- **It makes nothing that the original does not make.** -/
theorem isSelfContained_eq (hw : w.subject.IsRead) (hn : w.subject.function.readDefinition = .ok n)
    (hsome : w.dispatch.branches ≠ [])
    (hcopies : ∀ b ∈ w.dispatch.branches, Node.anyKindList Kind.keepsCode b.body =
      Node.anyKindList Kind.keepsCode w.subject.body) :
    (bareDefinition w.definition).isSelfContained = n.isSelfContained := by
  have hwhole := hw.isSelfContained_eq hn
  obtain ⟨isAsync, parameters, body, decorators, returns, -, hdefinition, hdocumentation, -⟩ := hw
  obtain ⟨hfront, hdeclared⟩ := keepsCode_front body w.subject.declared
  have hnode : w.dispatch.node.anyKind Kind.keepsCode =
      Node.anyKindList Kind.keepsCode w.subject.body := by
    obtain ⟨b, hb⟩ := List.exists_mem_of_ne_nil _ hsome
    rw [Dispatch.node, Dispatch.keepsCode_chainFrom, Bool.eq_iff_iff, List.any_eq_true]
    constructor
    · rintro ⟨b, hb, h⟩
      exact hcopies b hb ▸ h
    · exact fun h => ⟨b, hb, (hcopies b hb).trans h⟩
  rw [hwhole, bareDefinition_eq hdefinition, Node.isSelfContained, Node.anyKindList_append,
    Node.anyKindList_append, hdocumentation, hfront, hdeclared, Node.anyKindList, hnode]
  simp [Node.anyKindList]

end Variant

/-! ## What the body of a function does -/

/-- Documentation does nothing when its turn comes. -/
theorem inOrder_splitDocumentation (c : Site) (body : List Node) :
    inOrder c (Node.meaningsOfAll (splitDocumentation body).2) =
      inOrder c (Node.meaningsOfAll body) := by
  have hidle : ∀ m ∈ Node.meaningsOfAll (splitDocumentation body).1, m.IsIdle := by
    rw [meaningsOfAll_eq_map, List.forall_mem_map]
    exact isIdle_documentation body
  conv_rhs => rw [← splitDocumentation_append body]
  rw [meaningsOfAll_eq_map (_ ++ _), List.map_append, ← meaningsOfAll_eq_map,
    ← meaningsOfAll_eq_map, inOrder_of_idle hidle]

/-- **What a call of the original gives** is what its body gives as it is read. -/
theorem Subject.IsRead.body_eq {t : Subject} {n : Node} (ht : t.IsRead)
    (hn : t.function.readDefinition = .ok n) (c : Site) :
    n.meaning.body c = (do return (← inOrder c (Node.meaningsOfAll t.body)).result) := by
  obtain ⟨isAsync, parameters, body, decorators, returns, hread, -, -, hbody⟩ := ht
  rw [hread] at hn
  have hare := allAre_splitDocumentation (readDefinition_spec hread).1.2.2.1
  have hmeanings : Node.meaningsOfAll t.body = Node.meaningsOfAll (splitDocumentation body).2 := by
    rw [show t.body = (hoistList {} (splitDocumentation body).2).1 by rw [hbody]]
    exact Node.meaningsOfAll_hoist .statement _ _ hare
  obtain rfl := Except.ok.inj hn
  rw [body_functionDef, hmeanings, inOrder_splitDocumentation]

/-! ## Plain functions -/

/-- **The generator in use.** -/
abbrev defaultGenerator : Generator Spelling Class Predicate :=
  { oracle := defaultDecider, table := defaultTable }

/-- **A variant of a plain function.** Its text reads as the code that runs, and its calls run at
once. No class around it has private names for it, the variable is its own, accesses call a plain
name, and it spares the names that the chain asks for. The types are classes, or unions of classes. -/
structure Variant.IsPlain (w : Variant) : Prop where
  source : w.subject.function.readDefinition = .ok w.subject.function.definition
  asDefined : w.subject.function.IsAsDefined
  runs : w.subject.function.isSuspending = false
  isPublic : w.subject.IsPublic
  owns : w.dispatch.var ∈ w.subject.function.locals ∧ w.dispatch.var ∉ w.subject.function.globals
  calls : ∀ p ∈ Node.placesOfBody w.subject.body, ∀ a,
    (⟨w.dispatch.var, a, ["elt"]⟩ : Rewriter).isPlain p.node
  spares : ∀ name ∈ "isinstance" :: w.dispatch.bindings.map Prod.fst,
    w.subject.Spares w.subject.function.definition name
  classes : ∀ b ∈ w.dispatch.branches, b.test.isClassTest

namespace Variant

variable {w : Variant} {new : Function} {ρ : Store}

/-- **What a variant is generated from**, by the generator in use. -/
structure IsGenerated (w : Variant) : Prop where
  read : w.subject.IsRead
  makes : ∀ b ∈ w.dispatch.branches, defaultGenerator.Makes w.dispatch.var w.subject.body b
  hasBranches : w.dispatch.branches ≠ []

theorem IsGenerated.isThin (hw : w.IsGenerated) {n : Node}
    (hn : w.subject.function.readDefinition = .ok n) : w.IsThin := by
  intro b hb
  obtain ⟨a, -, hthins⟩ := (hw.makes b hb).thins (hw.read.allAre hn)
  exact ⟨_, hthins⟩

/-- **A copy follows the body** in its place. -/
theorem IsGenerated.copy_follows (hw : w.IsGenerated) {b : Branch Spelling Class Predicate}
    (hb : b ∈ w.dispatch.branches) {a : Accessor} (hlookup : defaultTable.lookup b.type = .ok a)
    (c : Site) :
    Run.Follows (Rewriter.parting ⟨w.dispatch.var, a, ["elt"]⟩ w.subject.body)
      (inOrder c (Node.meaningsOfAll w.subject.body)) (inOrder c (Node.meaningsOfAll b.body)) := by
  obtain ⟨a', hlookup', -, hcopy⟩ := (hw.makes b hb).copy
  obtain rfl : a' = a := Except.ok.inj (hlookup'.symm.trans hlookup)
  rw [hcopy]
  exact Rewriter.follows_body (form_of_defaultTable hlookup) w.subject.body c

theorem IsGenerated.isFaithful (hw : w.IsGenerated) (hplain : w.IsPlain) : w.IsFaithful := by
  intro b hb
  obtain ⟨a, hlookup, -, hcopy⟩ := (hw.makes b hb).copy
  have hform := form_of_defaultTable hlookup
  rw [hcopy]
  exact (Rewriter.applyList_thins _ .statement _ (hw.read.allAre hplain.source)).bound_eq
    (Rewriter.thins_applyList hform _ _ fun p hp => hplain.calls p hp a)

/-- **Its calls begin like those of the original**, and run at once. -/
theorem Installed.begins (h : w.Installed ρ new) (hnew : new.IsAsDefined) (hw : w.IsGenerated)
    (hplain : w.IsPlain) :
    new.BeginsLike w.subject.function ∧ new.isSuspending = false := by
  have hprivate : new.isPrivate = w.subject.function.isPrivate := by
    rw [hnew.isPrivate, hplain.asDefined.isPrivate, h.definition]
    refine isSelfContained_eq hw.read hplain.source hw.hasBranches fun b hb => ?_
    obtain ⟨a, hlookup, -, hcopy⟩ := (hw.makes b hb).copy
    rw [hcopy]
    exact Rewriter.keepsCode_applyList (form_of_defaultTable hlookup) _ _ fun p hp =>
      hplain.calls p hp a
  refine ⟨h.beginsLike hnew hw.read hplain.source hplain.asDefined hplain.isPublic
    (hw.isThin hplain.source) (hw.isFaithful hplain) hw.hasBranches hprivate, ?_⟩
  rw [hnew.isSuspending, h.definition]
  refine suspends_eq_false hw.read hplain.source (fun b hb hyields => ?_) ?_
  · obtain ⟨a, hlookup, -, hcopy⟩ := (hw.makes b hb).copy
    rw [hcopy] at hyields
    exact Rewriter.someYields_apply (form_of_defaultTable hlookup) _ hyields
  · rw [← hplain.asDefined.isSuspending, hplain.runs]

/-- **What the chain refers to is bound** in a call, where the check of the language is what the
module has under its name, and the variable has a value. -/
theorem Installed.isBound (h : w.Installed ρ new) (hnew : new.IsAsDefined) (hw : w.IsGenerated)
    (hplain : w.IsPlain) {v x : Value} {r : Ref} {σ τ : Store} {there : Site}
    {bindings : List (String × Value)} (hthere : enter new bindings σ = .done there τ)
    (haround : w.IsAround new v r σ)
    (hcheck : (τ.binding? new.site.globals "isinstance").getD (.builtin .isinstance) =
      .builtin .isinstance)
    (hvar : bindings.lookup w.dispatch.var = some x) : w.dispatch.IsBound τ there x := by
  have hthin := hw.isThin hplain.source
  refine ⟨?_, fun b hb => ?_, ?_⟩
  · have hread := h.readName_isinstance hthere haround
    rw [h.checker?_of_spares hw.read hplain.source hthin
      (hplain.spares _ List.mem_cons_self), hcheck] at hread
    exact hread
  · exact h.gives_binding hw.read hplain.source hthin hthere haround hb
      (hplain.spares _ (List.mem_cons_of_mem _ (List.mem_map_of_mem hb)))
  · obtain ⟨hlike, -⟩ := h.begins hnew hw hplain
    obtain ⟨fr, rfl, rfl, hlocals, hglobals, hbindings, -⟩ := exists_of_enter hthere
    have hframe := Store.frame?_eq_some.2 (Store.get?_alloc_self σ (.frame fr))
    unfold Gives
    rw [h.mangled_eq hthere]
    refine readName_of_local rfl hframe ?_ ?_ (hbindings ▸ hvar)
    · rw [hglobals, hlike.globals]
      exact hplain.owns.2
    · rw [hlocals, hlike.locals]
      exact hplain.owns.1

end Variant

/-! ## Calls that follow each other -/

/-- A function whose code stands in some text, so that its constants are those of that text. -/
def Function.inText (f : Function) (textUnit : Nat) : Function :=
  { f with site := { f.site with textUnit } }

/-- **A branch that the chain chooses** for a value, and how accesses are rewritten in it: no branch
before it accepts the value. -/
structure Variant.Chooses (w : Variant) (σ : Store) (x : Value) (b : Branch Spelling Class Predicate)
    (a : Accessor) : Prop where
  first : ∃ before after, w.dispatch.branches = before ++ b :: after ∧
    ∀ b' ∈ before, σ.accepts b'.test x = .ok false
  accepts : σ.accepts b.test x = .ok true
  lookup : defaultTable.lookup b.type = .ok a

/-- **A call of a specialized function** for arguments of the original: it begins at a site in a
store with a value of the variable that a branch accepts, and the check of instances is that of the
language. -/
structure Variant.Takes (w : Variant) (new : Function) (t : Session) (args : List Value)
    (keywords : List (String × Value)) (u : Session) (there : Site) (τ : Store) (x : Value) :
    Prop where
  begins : ∃ bindings, t.run (arguments w.subject.function args keywords) = (.ok bindings, u) ∧
    enter new bindings u.store = .done there τ ∧ bindings.lookup w.dispatch.var = some x
  check : (τ.binding? new.site.globals "isinstance").getD (.builtin .isinstance) =
    .builtin .isinstance
  accepted : ∃ b ∈ w.dispatch.branches, τ.accepts b.test x = .ok true

/-- **A variant of a simple function** in a store. A name that calls of the function do not have is
left to the module by the frames around the function, and is none of the names of the function
around the specialized one. -/
structure Variant.IsSimple (w : Variant) (σ : Store) : Prop where
  body : Code.IsSimple w.dispatch.var w.subject.body
  names : ∀ p ∈ Node.placesOfBody w.subject.body, ∀ id ctx, p.node.kind = .name id ctx →
    id ∉ w.subject.function.globals → id ∉ w.subject.function.locals →
      id ∉ w.factoryNames ∧ σ.Lack w.subject.function.site.inner id

/-- The frame around a specialized function lacks all other names than its own. -/
theorem Variant.IsAround.lack {w : Variant} {new : Function} {v : Value} {r : Ref} {σ : Store}
    (h : w.IsAround new v r σ) {name : String} (hname : name ∉ w.factoryNames) :
    σ.Lack new.site.inner name := by
  obtain ⟨fr, hfr, hholds⟩ := h.holds
  obtain ⟨⟨f, hf, hshows⟩, -⟩ := List.forall₂_cons.1 (h.shows name)
  obtain rfl : f = fr := Option.some.inj (hf.symm.trans hfr)
  rw [h.inner]
  refine List.forall_mem_singleton.2 ⟨f, hf, hholds.ofFunction, fun hlocal => ?_⟩
  have hown := hshows.isOwn.1 (by simp [Frame.has, hlocal])
  simp [Variant.factoryScope, Mention.locals, hname] at hown

namespace Variant

variable {w : Variant} {new : Function} {ρ τ : Store} {t u : Session} {v x : Value} {r : Ref}
  {args : List Value} {keywords : List (String × Value)} {there : Site}

/-- **The body of a plain function can run** in a specialized one. -/
theorem Installed.transplants (h : w.Installed ρ new)
    (hmodule : new.site.module = w.subject.function.site.module) (hw : w.IsGenerated)
    (hplain : w.IsPlain) {a : Accessor} {d : TypeDescriptor}
    (hlookup : defaultTable.lookup d = .ok a) (textUnit : Nat) :
    Rewriter.Transplants ⟨w.dispatch.var, a, ["elt"]⟩ w.subject.body
      (w.subject.function.inText textUnit).site new.site where
  form := form_of_defaultTable hlookup
  statements := hw.read.allAre hplain.source
  plain p hp := hplain.calls p hp a
  module := hmodule
  globals := h.globals
  outside := h.owner
  names := hplain.isPublic.names
  mentions := hplain.isPublic.loops

/-- **A call of a specialized function goes on** as the copy in a branch does, in the frame in which
a call of the original goes on as its body does. So if the copy follows the body, the one call
follows the other. -/
theorem Installed.goes_on (h : w.Installed ρ new) (hnew : new.IsAsDefined) (hw : w.IsGenerated)
    (hplain : w.IsPlain) (hcall : w.Takes new t args keywords u there τ x)
    (haround : w.IsAround new v r u.store) (textUnit : Nat) :
    ∃ b a q fr, w.Chooses τ x b a ∧ there = new.siteIn q ∧ τ.frame? q = some fr ∧
      fr.locals = w.subject.function.locals ∧ fr.globals = w.subject.function.globals ∧
      fr.isPrivate = w.subject.function.isPrivate ∧ fr.bindings.lookup w.dispatch.var = some x ∧
      ∀ D : Parting, Session.Follows D ⟨τ, u.interrupted⟩
          (inOrder ((w.subject.function.inText textUnit).siteIn q)
            (Node.meaningsOfAll w.subject.body))
          (inOrder there.deeper (Node.meaningsOfAll
            (Rewriter.applyList ⟨w.dispatch.var, a, ["elt"]⟩ w.subject.body).1)) →
        t.Follows D (callFunction (w.subject.function.inText textUnit) args keywords)
          (callFunction new args keywords) := by
  obtain ⟨hlike, hruns⟩ := h.begins hnew hw hplain
  obtain ⟨bindings, harguments, hthere, hvar⟩ := hcall.begins
  let s : Session := ⟨τ, u.interrupted⟩
  have hbound : w.dispatch.IsBound s.store there x :=
    h.isBound hnew hw hplain hthere haround hcall.check hvar
  obtain ⟨before, b, after, hbranches, hbefore, hb, hrun⟩ | ⟨hreject, -⟩ :=
    w.dispatch.run_node hbound fun b hb => Dispatch.exists_accepts (hplain.classes b hb) τ x
  swap
  · obtain ⟨b, hmem, hb⟩ := hcall.accepted
    rw [hreject b hmem] at hb
    cases hb
  obtain ⟨a, hlookup, -, hcopy⟩ :=
    (hw.makes b (hbranches ▸ List.mem_append_right _ List.mem_cons_self)).copy
  -- both calls take their arguments alike and enter the same frame
  let f := w.subject.function.inText textUnit
  have hlike' : new.BeginsLike f :=
    ⟨hlike.signature, hlike.defaults, hlike.kwDefaults, hlike.locals, hlike.globals, hlike.isPrivate⟩
  obtain ⟨q, τ', hhere, hthere'⟩ := hlike'.enter_eq bindings u.store
  obtain ⟨rfl, rfl⟩ := Outcome.done.inj (hthere.symm.trans hthere')
  obtain ⟨fr, hsite, hτ, hlocals, hglobals, hbindings, hprivate, -⟩ := exists_of_enter hhere
  obtain rfl : q = (u.store.alloc (.frame fr)).1 :=
    List.head_eq_of_cons_eq (congrArg Site.chain hsite)
  refine ⟨b, a, _, fr, ⟨⟨before, after, hbranches, hbefore⟩, hb, hlookup⟩, rfl, ?_, hlocals, hglobals,
    hprivate, by rw [hbindings, hvar], fun D hfollows => ?_⟩
  · rw [hτ]
    exact Store.frame?_eq_some.2 (Store.get?_alloc_self u.store _)
  have hbegin : t.run (arguments new args keywords) = (.ok bindings, u) := by
    rw [hlike.arguments_eq, harguments]
  unfold callFunction
  refine .bind_apart harguments hbegin ?_
  rw [hruns, show f.isSuspending = false from hplain.runs]
  show u.Follows _ (runBody _ bindings) (runBody _ bindings)
  unfold runBody
  refine .bind_apart (t := s) (Session.run_of_done hhere) (Session.run_of_done hthere') ?_
  rw [show f.definition = w.subject.function.definition from rfl, hw.read.body_eq hplain.source,
    Variant.body_eq hw.read h.definition]
  refine .bind_at ?_ fun _ _ _ => .same rfl
  rw [← hcopy] at hfollows
  exact hfollows.congr hrun

/-- **A call of a specialized function follows one of the original** if a branch accepts the value
that the variable begins with. -/
theorem Installed.follows (h : w.Installed ρ new) (hnew : new.IsAsDefined)
    (hmodule : new.site.module = w.subject.function.site.module) (hw : w.IsGenerated)
    (hplain : w.IsPlain) (hcall : w.Takes new t args keywords u there τ x)
    (haround : w.IsAround new v r u.store) (textUnit : Nat) :
    ∃ b a, w.Chooses τ x b a ∧
      t.Follows (Rewriter.partingElsewhere ⟨w.dispatch.var, a, ["elt"]⟩ w.subject.body
          (w.subject.function.inText textUnit).site new.site)
        (callFunction (w.subject.function.inText textUnit) args keywords)
        (callFunction new args keywords) := by
  obtain ⟨b, a, q, fr, hchooses, rfl, -, -, -, -, -, hgoes⟩ :=
    h.goes_on hnew hw hplain hcall haround textUnit
  refine ⟨b, a, hchooses, hgoes _ ?_⟩
  exact Rewriter.follows_body_elsewhere (h.transplants hmodule hw hplain hchooses.lookup textUnit)
    ((w.subject.function.inText textUnit).siteIn_isCallOf q) (new.siteIn_isCallOf q).deeper _

/-- **A call of a specialized function does what the original does** if that is simple: the variable
keeps its value there, and both calls end alike and leave the same session, up to where the copy
goes astray. -/
theorem Installed.alike (h : w.Installed ρ new) (hnew : new.IsAsDefined)
    (hmodule : new.site.module = w.subject.function.site.module) (hw : w.IsGenerated)
    (hplain : w.IsPlain) (hcall : w.Takes new t args keywords u there τ x)
    (haround : w.IsAround new v r u.store) (hsimple : w.IsSimple u.store)
    (hcalls : Interrupted.Grow t.interrupted) (textUnit : Nat) :
    ∃ b a q, w.Chooses τ x b a ∧ there = new.siteIn q ∧
      (inOrder ((w.subject.function.inText textUnit).siteIn q)
        (Node.meaningsOfAll w.subject.body)).Keeps (Session.HasOwn τ q w.dispatch.var x) ∧
      t.Follows (Rewriter.partingAstray ⟨w.dispatch.var, a, ["elt"]⟩ w.subject.body
          (w.subject.function.inText textUnit).site new.site τ x)
        (callFunction (w.subject.function.inText textUnit) args keywords)
        (callFunction new args keywords) := by
  obtain ⟨b, a, q, fr, hchooses, rfl, hframe, hlocals, hglobals, hprivate, hvar, hgoes⟩ :=
    h.goes_on hnew hw hplain hcall haround textUnit
  obtain ⟨bindings, harguments, hthere, -⟩ := hcall.begins
  have hgrows : u.store.Grows τ := by
    obtain ⟨fr', -, rfl, -⟩ := exists_of_enter hthere
    exact .alloc u.store _
  have hb : b ∈ w.dispatch.branches := by
    obtain ⟨before, after, hbranches, -⟩ := hchooses.first
    exact hbranches ▸ List.mem_append_right _ List.mem_cons_self
  have hfollows := Rewriter.follows_simple (x := x)
    (h.transplants hmodule hw hplain hchooses.lookup textUnit) hsimple.body hframe
    (hlocals ▸ hplain.owns.1) (hglobals ▸ hplain.owns.2)
    (fun p hp id ctx hname hglobal hlocal => by
      obtain ⟨haway, hlack⟩ :=
        hsimple.names p hp id ctx hname (hglobals ▸ hglobal) (hlocals ▸ hlocal)
      exact ⟨hlack.grows hgrows, (haround.lack haway).grows hgrows⟩)
    (fun hform hlasting => hasSubscript_of_accepts hchooses.lookup hform (hw.makes b hb).test
      (Store.isBuiltIn_of_isLasting hlasting) hchooses.accepts)
    ((w.subject.function.inText textUnit).siteIn_isCallOf q) (new.siteIn_isCallOf q).deeper
  refine ⟨b, a, q, hchooses, rfl, hfollows.keeps,
    hgoes _ (hfollows.follows _ ⟨.refl τ, ?_, fr, hframe, ?_, hvar⟩)⟩
  · exact (Session.run_grows harguments hcalls).2
  · rw [hprivate, hplain.asDefined.isPrivate, hw.read.isSelfContained_eq hplain.source,
      hsimple.body.keepsNothing]
    rfl

end Variant

/-- **The names of the function around a specialized one** are all that it adds to those of the
module. -/
theorem Variant.IsAround.place_eq {w : Variant} {new : Function} {v : Value} {r : Ref} {σ : Store}
    (h : w.IsAround new v r σ) {name : String} (hname : name ∉ w.factoryNames) (q : Ref) :
    σ.place name [q, r] = σ.place name [q] := by
  have hmodule : σ.place name [r] = σ.place name [] := by
    rw [Variant.place_of_shows (h.shows name), if_neg hname]
    rfl
  rw [Store.place, hmodule]
  rfl

/-- **A specialized function simulates the original**, as it is installed in a store with a frame
around it. Calls of both take their arguments alike. If a branch accepts the value that the variable
begins with, a call of the specialized function follows one of the original, whatever text the
constants of the original belong to: both end alike and leave the same session, unless the original
comes to one of these.

* An access, while its variable has a value without subscripts: there the other call fails. A value
  that the branch accepts has them, unless it is an object of a class.
* A rewritten call of something else than the generic access.
* A name that has its place in another frame. In a function at the top of its module only the names
  of the function around the specialized one can be such.
* A constant that is one value in its own text alone, or a call that looks around.
* Something that keeps its code. So do all definitions, and what they define is not called the
  same, unless the original was made in a function named like the one around the specialized one.
  Comprehensions that run at once keep nothing, and are followed.

It is the place alone that counts there: at the place of the body, its copies follow it through
definitions as well, if these have no access in them that is rewritten.

If the original is simple, the variable keeps the value that it begins with, and there is less that
can make a difference: the calls are alike, comprehensions included, unless the original stops at the
bounds of what can be run here, an access calls something else than the generic access, the value is
an object whose class has no subscripts when it comes to an access, or something looks around. -/
structure Variant.Simulation (w : Variant) (new : Function) (r : Ref) (ρ : Store) : Prop where
  takesOver : new.TakesOver w.subject.function
  takes (hplain : w.IsPlain) (args : List Value) (keywords : List (String × Value)) :
    arguments new args keywords = arguments w.subject.function args keywords
  follows (hplain : w.IsPlain) {t u : Session} {args : List Value}
    {keywords : List (String × Value)} {there : Site} {τ : Store} {x : Value}
    (hcall : w.Takes new t args keywords u there τ x) (hframe : u.store.frame? r = ρ.frame? r)
    (textUnit : Nat) :
    ∃ b a, w.Chooses τ x b a ∧
      t.Follows (Rewriter.partingElsewhere ⟨w.dispatch.var, a, ["elt"]⟩ w.subject.body
          (w.subject.function.inText textUnit).site new.site)
        (callFunction (w.subject.function.inText textUnit) args keywords)
        (callFunction new args keywords)
  alike (hplain : w.IsPlain) {t u : Session} {args : List Value}
    {keywords : List (String × Value)} {there : Site} {τ : Store} {x : Value}
    (hcall : w.Takes new t args keywords u there τ x) (hframe : u.store.frame? r = ρ.frame? r)
    (hsimple : w.IsSimple u.store) (hcalls : Interrupted.Grow t.interrupted) (textUnit : Nat) :
    ∃ b a q, w.Chooses τ x b a ∧ there = new.siteIn q ∧
      (inOrder ((w.subject.function.inText textUnit).siteIn q)
        (Node.meaningsOfAll w.subject.body)).Keeps (Session.HasOwn τ q w.dispatch.var x) ∧
      (t.run (callFunction new args keywords) =
          t.run (callFunction (w.subject.function.inText textUnit) args keywords) ∨
        (∃ e, (t.run (callFunction (w.subject.function.inText textUnit) args keywords)).1 = .error e ∧
          e.isBound) ∨
        ∃ (β : Type) (s : Session) (y : Run β),
          s.ComesTo y t (callFunction (w.subject.function.inText textUnit) args keywords) ∧
          Rewriter.Astray ⟨w.dispatch.var, a, ["elt"]⟩ w.subject.body
            (w.subject.function.inText textUnit).site new.site τ x s y)
  copies {b : Branch Spelling Class Predicate} (hb : b ∈ w.dispatch.branches) {a : Accessor}
    (hlookup : defaultTable.lookup b.type = .ok a) (c : Site) :
    Run.Follows (Rewriter.parting ⟨w.dispatch.var, a, ["elt"]⟩ w.subject.body)
      (inOrder c (Node.meaningsOfAll w.subject.body)) (inOrder c (Node.meaningsOfAll b.body))
  subscripts {b : Branch Spelling Class Predicate} (hb : b ∈ w.dispatch.branches) {a : Accessor}
    (hlookup : defaultTable.lookup b.type = .ok a) (ha : a.form = .subscript) {σ : Store}
    {x : Value} (hbuiltIn : (σ.cell? x).all Cell.isBuiltIn)
    (haccepted : σ.accepts b.test x = .ok true) : σ.hasSubscript x
  place {σ : Store} {name : String} (hframe : σ.frame? r = ρ.frame? r)
    (hname : name ∉ w.factoryNames) (q : Ref) : σ.place name [q, r] = σ.place name [q]
  qualify {σ τ σ' τ' : Store} {here there : Site} {bindings bindings' : List (String × Value)}
    {name : String} (hhere : enter w.subject.function bindings σ = .done here τ)
    (hthere : enter new bindings' σ' = .done there τ')
    (hname : w.subject.function.site.mangled name ∉ w.subject.function.globals)
    (hname' : new.site.mangled name ∉ new.globals) :
    τ'.qualify there name = τ.qualify here name ↔
      w.subject.function.site.inside = insideFactory w.subject.function.name

/-- The definition of a function of one parameter that returns an item of it. -/
def accessing (function parameter called accessed : String) (i : Int) : Node :=
  .functionDef function false (.arguments [] [.arg parameter []] [] [] [] [] [])
    [.returnStmt [.call (.load called) [.load accessed, .constant (.int i)] []]] [] []

/-- The names in such a definition, and the index. -/
def accessing? : Node → Option (List String × Int)
  | .functionDef function false (.arguments [] [.arg parameter []] [] [] [] [] [])
      [.returnStmt [.call (.load called) [.load accessed, .constant (.int i)] []]] [] [] =>
    some ([function, parameter, called, accessed], i)
  | _ => none

theorem eq_of_accessing? {n : Node} {function parameter called accessed : String} {i : Int}
    (h : accessing? n = some ([function, parameter, called, accessed], i)) :
    n = accessing function parameter called accessed i := by
  unfold accessing? at h
  split at h
  · simp only [Option.some.injEq, Prod.mk.injEq, List.cons.injEq, and_true] at h
    obtain ⟨⟨rfl, rfl, rfl, rfl⟩, rfl⟩ := h
    rfl
  · cases h

/-- A session with a list, and a module in which a function `f` of `v` is defined that returns the
first item of it. -/
def accessingSession : Session :=
  (Session.run {} (do
    let _ ← alloc (.list [.ofInt 5])
    loadModule "m" [("elt", .builtin .elt)] [accessing "f" "v" "elt" "v" 0])).2

/-- That function is specialized for lists. -/
def specializeAccessing : Run (Logged (Note Spelling) SpecializeFault Value × Counters) :=
  defaultGenerator.specialize {} { module := "m", globals := ⟨1⟩ } true (.ref ⟨2⟩) "v"
    [StandardClass.list.descriptor]

/-- Whether a function is that one as it is made outside of a class, and reads so. -/
def Store.accesses (σ : Store) (v : Value) : Bool :=
  match σ.cell? v with
  | some (.function f) =>
    accessing? f.definition = some (["f", "v", "elt", "v"], 0) &&
      f.readDefinition.toOption.bind accessing? = some (["f", "v", "elt", "v"], 0) &&
      f.locals = ["v"] && f.globals = [] && !f.isSuspending && f.isPrivate && f.site.owner = none &&
      f.site.inner.isEmpty && f.defaults.isNone && f.kwDefaults.isNone
  | _ => false

/-- Whether a function of one parameter can be called for the list, while the check of instances is
that of the language. -/
def Store.takesList (σ : Store) (v : Value) : Bool :=
  match σ.cell? v with
  | some (.function new) =>
    match enter new [("v", .ref ⟨0⟩)] σ with
    | .done _ τ =>
      (τ.binding? new.site.globals "isinstance").isNone &&
        (τ.accepts (.instanceOf (.standard .list)) (.ref ⟨0⟩)).toOption = some true
    | _ => false
  | _ => false

/-- The number that a call of a function for the list gives. -/
def Session.accessed? (s : Session) (v : Value) : Option Int :=
  match s.store.cell? v with
  | some (.function f) =>
    match s.run (callFunction f [.ref ⟨0⟩] []) with
    | (.ok (.int i _), _) => some i
    | _ => none
  | _ => none

theorem accessing_evaluated : (match accessingSession.run specializeAccessing with
      | (.ok (⟨_, .ok v⟩, _), s') =>
        s'.store.takesList v && s'.accessed? v = some 5 && s'.accessed? (.ref ⟨2⟩) = some 5
      | _ => false) = true ∧
    accessingSession.store.accesses (.ref ⟨2⟩) = true := by
  decide +kernel

theorem accessing_specialized : ∃ notes v counters s',
    accessingSession.run specializeAccessing = (.ok (⟨notes, .ok v⟩, counters), s') ∧
      (s'.store.takesList v && s'.accessed? v = some 5 &&
        s'.accessed? (.ref ⟨2⟩) = some 5) = true := by
  have htakes := accessing_evaluated.1
  rcases hrun : accessingSession.run specializeAccessing with ⟨_ | ⟨⟨notes, _ | v⟩, counters⟩, s'⟩
  · rw [hrun] at htakes
    cases htakes
  · rw [hrun] at htakes
    cases htakes
  · rw [hrun] at htakes
    exact ⟨notes, v, counters, s', rfl, htakes⟩

/-- **Functions like that one.** -/
structure Function.IsAccessing (f : Function) : Prop where
  definition : f.definition = accessing "f" "v" "elt" "v" 0
  source : f.readDefinition = .ok f.definition
  locals : f.locals = ["v"]
  globals : f.globals = []
  runs : f.isSuspending = false
  isPrivate : f.isPrivate = true
  outside : f.site.owner = none
  inner : f.site.inner = []
  defaults : f.defaults = none
  kwDefaults : f.kwDefaults = none

theorem Function.isAccessing_of_accesses {σ : Store} {v : Value} {f : Function}
    (h : σ.accesses v) (hf : σ.cell? v = some (.function f)) : f.IsAccessing := by
  unfold Store.accesses at h
  rw [hf] at h
  simp only [Bool.and_eq_true, decide_eq_true_eq, Bool.not_eq_true', Option.isNone_iff_eq_none,
    List.isEmpty_iff] at h
  obtain ⟨⟨⟨⟨⟨⟨⟨⟨⟨hdefinition, hread⟩, hlocals⟩, hglobals⟩, hruns⟩, hprivate⟩, houtside⟩, hinner⟩,
    hdefaults⟩, hkeywords⟩ := h
  have hdefinition := eq_of_accessing? hdefinition
  refine ⟨hdefinition, ?_, hlocals, hglobals, hruns, hprivate, houtside, hinner, hdefaults, hkeywords⟩
  cases hn : f.readDefinition with
  | error e =>
    rw [hn] at hread
    cases hread
  | ok n =>
    rw [hn] at hread
    rw [hdefinition, eq_of_accessing? hread]

namespace Function.IsAccessing

variable {f : Function} (h : f.IsAccessing)

include h

theorem mangled_eq : f.site.mangled = id := by
  funext name
  rw [Site.mangled, h.outside]
  rfl

theorem mangledMentions_eq (ms : List Mention) : f.site.mangledMentions ms = ms := by
  rw [Site.mangledMentions, h.outside]

theorem isAsDefined : f.IsAsDefined := by
  refine ⟨?_, ?_, ?_, ?_⟩
  · rw [h.locals, h.definition, h.mangled_eq, h.mangledMentions_eq]
    rfl
  · rw [h.globals, h.definition, h.mangledMentions_eq]
    rfl
  · rw [h.runs, h.definition]
    rfl
  · rw [h.isPrivate, h.definition]
    rfl

/-- A call for one value gives it to the parameter. -/
theorem arguments_eq (x : Value) : arguments f [x] [] = pure [("v", x)] := by
  have hsignature : f.signature = ⟨[], ["v"], none, [], none⟩ := by
    rw [Function.signature, h.definition, h.mangled_eq]
    rfl
  rw [Narrowing.arguments_eq, Function.bound?, hsignature, h.defaults, h.kwDefaults]
  rfl

end Function.IsAccessing

/-- What is copied of it, and its name. -/
theorem Subject.IsRead.of_accessing {t : Subject} (ht : t.IsRead) (h : t.function.IsAccessing) :
    t.function.name = "f" ∧
      t.body = [.returnStmt [.call (.load "elt") [.load "v", .constant (.int 0)] []]] := by
  obtain ⟨_, _, body, _, _, hsame, -, -, hbody⟩ := ht
  rw [h.source, h.definition] at hsame
  obtain ⟨⟨hname, -⟩, -, rfl, -, -⟩ : ("f" = t.function.name ∧ _) ∧ _ ∧
      [Node.returnStmt [.call (.load "elt") [.load "v", .constant (.int 0)] []]] = body ∧ _ ∧ _ := by
    simpa [accessing] using Except.ok.inj hsame
  exact ⟨hname.symm, (Prod.mk.inj hbody).1.symm⟩

/-- It is a plain function. -/
theorem Variant.isPlain_accessing {w : Variant} (hw : w.IsGenerated)
    (h : w.subject.function.IsAccessing) (hvar : w.dispatch.var = "v")
    (htypes : w.dispatch.types = [StandardClass.list.descriptor]) : w.IsPlain := by
  obtain ⟨hname, hbody⟩ := hw.read.of_accessing h
  obtain ⟨b, hb, htype⟩ := List.map_eq_singleton_iff.1 htypes
  have htest := (hw.makes b (hb ▸ List.mem_cons_self)).test
  rw [htype] at htest
  refine ⟨h.source, h.isAsDefined, h.runs, Subject.isPublic_of_outside h.outside, ?_, ?_, ?_, ?_⟩
  · rw [hvar, h.locals, h.globals]
    exact ⟨List.mem_cons_self, List.not_mem_nil⟩
  · rw [hbody, hvar]
    intro p hp a
    have hall : (Node.placesOfBody [.returnStmt [.call (.load "elt")
        [.load "v", .constant (.int 0)] []]]).all (fun p =>
          (⟨"v", a, ["elt"]⟩ : Rewriter).isPlain p.node) = true := rfl
    exact List.all_eq_true.1 hall p hp
  · have hnames : "isinstance" :: w.dispatch.bindings.map Prod.fst =
        ["isinstance", typesName, unmatchedName, testName 0] := by
      simp [Dispatch.bindings, hb]
    rw [hnames, h.definition]
    unfold Subject.Spares
    rw [Site.scopeOf_of_outside h.outside, hname]
    decide
  · intro b' hb'
    rw [hb] at hb'
    obtain rfl := List.mem_singleton.1 hb'
    rw [← Except.ok.inj htest]
    rfl

/-- It is simple. -/
theorem Variant.isSimple_accessing {w : Variant} (hw : w.IsGenerated)
    (h : w.subject.function.IsAccessing) (hvar : w.dispatch.var = "v")
    (htypes : w.dispatch.types = [StandardClass.list.descriptor]) (σ : Store) : w.IsSimple σ := by
  obtain ⟨hname, hbody⟩ := hw.read.of_accessing h
  obtain ⟨b, hb, -⟩ := List.map_eq_singleton_iff.1 htypes
  have hnames : w.factoryNames = [typesName, unmatchedName, testName 0, "f"] := by
    simp [Variant.factoryNames, Dispatch.bindings, hb, hname]
  refine ⟨⟨?_, ?_, ?_, by rw [hvar]; decide⟩, ?_⟩
  · rw [hbody]
    rfl
  · rw [hbody, hvar]
    rfl
  · rw [hbody, hvar]
    rintro p hp func ctx index hnode
    have hall : (Node.placesOfBody [.returnStmt [.call (.load "elt")
        [.load "v", .constant (.int 0)] []]]).all (fun p =>
          !p.node.slots.any fun ns => ns.any Node.isStarred) = true := rfl
    have hp' := List.all_eq_true.1 hall p hp
    rw [hnode] at hp'
    simp only [Node.slots, List.any_cons, List.any_nil, Bool.or_false, Bool.not_eq_true',
      Bool.or_eq_false_iff] at hp'
    exact hp'.2.2
  · rw [hbody, hnames, h.inner, h.locals]
    intro p hp id ctx hkind hglobal hlocal
    have hall : (Node.placesOfBody [.returnStmt [.call (.load "elt")
        [.load "v", .constant (.int 0)] []]]).all (fun p =>
          p.node.kind.ownName?.all fun id => id = "elt" || id = "v") = true := rfl
    have hp' := List.all_eq_true.1 hall p hp
    rw [hkind] at hp'
    refine ⟨?_, fun _ hr => absurd hr List.not_mem_nil⟩
    rcases Bool.or_eq_true_iff.1 hp' with hid | hid
    · rw [of_decide_eq_true hid]
      decide
    · rw [of_decide_eq_true hid] at hlocal
      exact absurd List.mem_cons_self hlocal

end Narrowing
