import Narrowing.Proofs.Access.Copy
/-!
# Copies in calls that have their names for themselves

A call whose code makes no function, class or generator has its names for itself: no other
code gives values to them. So a variable that the code itself never assigns keeps the value that it
begins with (`Session.HasOwn`), and it is enough to know of this value alone that it has subscripts.
Comprehensions that run at once do so in frames of their own before that of the call, which leave the
variable to it (`Rewriter.Nesting`).

A copy of such code does what the code does, also in another call (`Rewriter.follows_simple`),
unless an access calls something else, the value is of a class that loses its subscripts, or the code
looks at the place where it stands (`Rewriter.Astray`).
-/

namespace Narrowing

open Code Run List

/-- **Simple code** as far as a variable is concerned: it keeps no code, never gives the variable
another meaning, and what may be an access to it has one index. The variable has a name that is none
of an iterator, as every name in a text. -/
structure Code.IsSimple (var : String) (body : List Node) : Prop where
  keepsNothing : Node.anyKindList Kind.keepsCode body = false
  takesNothing : Node.anyKindList (Kind.takes var) body = false
  indices : ∀ p ∈ Node.placesOfBody body, ∀ func ctx index,
    p.node = .call func [.name var ctx, index] [] → index.isStarred = false
  named : var ≠ Signature.iteratorName

namespace Code.IsSimple

variable {var : String} {body : List Node} (h : IsSimple var body) {p : Code.Place}

include h

/-- It has no place for what would keep its code. -/
theorem isKept_eq_false (hp : p ∈ Node.placesOfBody body) : p.node.isKept = false := by
  have hbelow := Node.anyKind_eq_false_of_mem_placesOfBody h.keepsNothing hp
  rw [Code.Node.isKept, hbelow, Bool.and_false, Bool.or_false]
  exact Bool.eq_false_iff.2 fun hkeeps => Bool.eq_false_iff.1 h.keepsNothing
    (Node.anyKindList_iff_exists_place.2 ⟨p, hp, hkeeps⟩)

/-- Where it mentions the variable, it reads it. -/
theorem context_eq (hp : p ∈ Node.placesOfBody body) {ctx : Context}
    (hname : p.node.kind = .name var ctx) : ctx = .load := by
  by_contra hctx
  refine Bool.eq_false_iff.1 h.takesNothing (Node.anyKindList_iff_exists_place.2 ⟨p, hp, ?_⟩)
  rw [hname]
  simpa [Kind.takes, Kind.bindsVar, Kind.bindsUnseen, Kind.assigns] using hctx

/-- **The loops of comprehensions in it leave the variable** to the frames around them. -/
theorem notMem_loopFrame {r : Rewriter} {a b c : Site} {ρs : List Ref}
    (hplace : r.Transplants body a b) (hp : p ∈ Node.placesOfBody body)
    (hopens : p.node.kind.opensScope) (hc : c.IsCallOf a ρs) (i : Value) :
    var ∉ (loopFrame c p.node i).locals ∧ var ∉ (loopFrame c p.node i).globals := by
  have hnone := Node.anyKind_eq_false_of_mem_placesOfBody h.takesNothing hp
  have hkeeps : p.node.kind.keepsCode = false :=
    (Bool.or_eq_false_iff.1 (h.isKept_eq_false hp)).1
  rw [Rewriter.loopFrame_eq hopens hkeeps, hc.mangledMentions, hplace.mentions p hp hopens]
  dsimp only
  rw [List.mem_eraseDups, List.mem_eraseDups, List.mem_cons, not_or]
  obtain ⟨part, his⟩ := Node.exists_is_of_mem_placesOfBody hplace.statements hp
  obtain ⟨above, k, slots⟩ := p
  have htaken : var ∉ Mention.takenByAll (Node.mk k slots).functionMentions := fun htaken =>
    Bool.eq_false_iff.1 hnone
      (Node.anyKind_of_functionMentions hopens hkeeps (Node.length_slots his) htaken)
  exact ⟨⟨h.named, fun hlocal => htaken (Mention.mem_takenByAll_of_mem_locals (.inr hlocal))⟩,
    fun hglobal => htaken (Mention.mem_takenByAll_of_mem_locals (.inl hglobal))⟩

end Code.IsSimple

namespace Rewriter

variable {r : Rewriter} {body : List Node}

/-! ## Copies of simple code -/

/-- **Where a copy may go another way** than simple code that begins with a value of its variable:
the function of an access is not the generic access, the value is not one that keeps its class and
has no subscripts in an access, or something looks at the place. -/
inductive Astray (r : Rewriter) (body : List Node) (a b : Site) (σ : Store) (x : Value) :
    {α : Type} → Session → Run α → Prop
  | function {func index : Node} {ctx : Context} {c : Site} {ρs : List Ref} {s : Session}
      (hc : c.IsCallOf a ρs) (hn : r.Replaces body (.call func [.name r.var ctx, index] []))
      (h : s.run (func.meaning.value c) ≠ (.ok (.builtin .elt), s)) :
      Astray r body a b σ x s ((Node.call func [.name r.var ctx, index] []).meaning.value c)
  | object {func index : Node} {ctx : Context} {c : Site} {ρs : List Ref} {s t : Session} {i : Value}
      (hc : c.IsCallOf a ρs) (hn : r.Replaces body (.call func [.name r.var ctx, index] []))
      (hindex : s.run (index.meaning.value c) = (.ok i, t))
      (hx : σ.isLasting x = false) (hsubscript : t.store.hasSubscript x = false) :
      Astray r body a b σ x s ((Node.call func [.name r.var ctx, index] []).meaning.value c)
  | looks {α : Type} {s : Session} {y : Run α} (h : a.LooksAround b s y) : Astray r body a b σ x s y

/-- Parting there alone. -/
def partingAstray (r : Rewriter) (body : List Node) (a b : Site) (σ : Store) (x : Value) :
    Parting :=
  ⟨r.Astray body a b σ x, r.Astray body a b σ x⟩

/-- What is replaced is a subscript in the copy, if accesses are rewritten into subscripts, or not
at all. -/
theorem Replaces.form_eq (hform : r.accessor.form = .subscript ∨ r.accessor.form = .keep) {n : Node}
    (h : r.Replaces body n) : r.accessor.form = .subscript := by
  refine hform.resolve_right fun hkeep => ?_
  obtain ⟨p, -, -, hreplaces⟩ := h
  obtain ⟨m, hm⟩ := Option.isSome_iff_exists.1 (Bool.and_eq_true_iff.1 hreplaces).2
  unfold Rewriter.replacement? Accessor.replacement? at hm
  rw [hkeep] at hm
  split at hm <;> cases hm

/-- Its variable is mentioned in the body. -/
theorem Replaces.exists_name {func index : Node} {ctx : Context}
    (h : r.Replaces body (.call func [.name r.var ctx, index] [])) :
    ∃ p ∈ Node.placesOfBody body, p.node.kind = .name r.var ctx := by
  obtain ⟨p, hp, hnode, -⟩ := h
  have hchild : p.node.child? 1 0 = some (.name r.var ctx) := by
    rw [hnode]
    rfl
  have hmem := Node.places_subset_of_mem_placesOfBody hp
    (Node.child_mem_places hchild (Node.self_mem_places _ _))
  exact ⟨_, hmem, rfl⟩

/-- **A nesting of comprehensions** in a call whose store has been this one: the frames of their
loops, which leave a name to those around them, in the store that there is then. -/
structure Nesting (σ : Store) (name : String) where
  store : Store
  loops : List Ref
  grows : σ.Grows store
  leave : store.Leave loops name

section Own

variable {a b : Site} {ρ : Ref} {σ : Store} {fr : Frame} {x : Value}

/-- **A nesting in a nesting**: where a session goes on in one more frame. -/
def Nesting.enter {name : String} (w : Nesting σ name) {s : Session} (hs : s.HasOwn w.store ρ name x)
    (f : Frame) (hbody : f.isClassBody = false) (hlocal : name ∉ f.locals)
    (hglobal : name ∉ f.globals) : Nesting σ name where
  store := (s.store.alloc (.frame f)).2
  loops := (s.store.alloc (.frame f)).1 :: w.loops
  grows := (w.grows.trans hs.grows).trans (.alloc _ _)
  leave := List.forall_mem_cons.2
    ⟨⟨f, Store.frame?_eq_some.2 (Store.get?_alloc_self _ _), hbody, hlocal, hglobal⟩,
      w.leave.grows (hs.grows.trans (.alloc _ _))⟩

/-- What a call has for itself, it has in the store with one more cell. -/
theorem hasOwn_alloc {name : String} {τ : Store} {s : Session} (hs : s.HasOwn τ ρ name x) (c : Cell) :
    Session.HasOwn (s.store.alloc c).2 ρ name x ⟨(s.store.alloc c).2, s.interrupted⟩ := by
  obtain ⟨f, hf, hprivate, hx⟩ := hs.frame
  exact ⟨.refl _, hs.calls, f,
    Store.frame?_eq_some.2 (Store.get?_alloc_of_some (Store.frame?_eq_some.1 hf) c), hprivate, hx⟩

/-- **Loops are entered alike** in calls that have a name for themselves, if their frames are the same
and leave the name. -/
theorem entersLike_nesting {D : Parting} {name : String} {n n' : Node}
    (hloops : ∀ {c c' : Site} {ρs : List Ref}, c.IsCallOf a ρs → c'.IsCallOf b ρs →
      ∀ i, loopFrame c' n' i = loopFrame c n i)
    (hleave : ∀ {c : Site} {ρs : List Ref}, c.IsCallOf a ρs →
      ∀ i, name ∉ (loopFrame c n i).locals ∧ name ∉ (loopFrame c n i).globals) :
    EntersLike D (fun w : Nesting σ name => Session.HasOwn w.store ρ name x)
      (fun w => Site.Beside a b (w.loops ++ [ρ])) n n' := by
  refine ⟨fun {w _ c c'} hc qualname i s hs => ?_⟩
  obtain ⟨d, d', hd, hbeside, hd'⟩ := enterLoops_beside hc qualname n n' i s
  obtain ⟨hlocal, hglobal⟩ := hleave hc.1 i
  refine ⟨w.enter hs (loopFrame c n i) rfl hlocal hglobal, d, d', _, hd, hasOwn_alloc hs _, hbeside,
    fun u hu => ?_, .inl (hd' (hloops hc.1 hc.2 i))⟩
  exact ⟨(hs.grows.trans (.alloc _ _)).trans hu.grows, hu.calls, hu.frame⟩

/-- **The copy of simple code follows it**, in a call beside that of the code, and the variable keeps
its value. The names in the code that the call does not have are left to the module at both
places. -/
theorem follows_simple (h : r.Transplants body a b) (hsimple : IsSimple r.var body)
    (hframe : σ.frame? ρ = some fr) (hlocal : r.var ∈ fr.locals) (hglobal : r.var ∉ fr.globals)
    (hlack : ∀ p ∈ Node.placesOfBody body, ∀ id ctx, p.node.kind = .name id ctx →
      id ∉ fr.globals → id ∉ fr.locals → σ.Lack a.inner id ∧ σ.Lack b.inner id)
    (hsubscript : r.accessor.form = .subscript → σ.isLasting x → σ.hasSubscript x)
    {c c' : Site} (hc : c.IsCallOf a [ρ]) (hc' : c'.IsCallOf b [ρ]) :
    FollowsWhile (r.partingAstray body a b σ x) (Session.HasOwn σ ρ r.var x)
      (inOrder c (Node.meaningsOfAll body))
      (inOrder c' (Node.meaningsOfAll (r.applyList body).1)) := by
  let P : Kind → Prop := fun k => ∃ p ∈ Node.placesOfBody body, p.node.kind = k
  have hname : ∀ {id ctx}, P (.name id ctx) → a.mangled id = id := fun ⟨p, hp, hkind⟩ =>
    h.names p hp _ (by rw [hkind]; rfl)
  have hkeeps : ∀ w : Nesting σ r.var,
      a.Keeps (w.loops ++ [ρ]) (Session.HasOwn w.store ρ r.var x) P := fun w => by
    refine .hasOwn (List.mem_append_right _ List.mem_cons_self) fun id ctx hk hctx heq => hctx ?_
    rw [hname hk] at heq
    obtain ⟨p, hp, hkind⟩ := hk
    exact hsimple.context_eq hp (heq ▸ hkind)
  have hplace : ∀ {w : Nesting σ r.var} {s : Session} {id : String} {ctx : Context},
      s.HasOwn w.store ρ r.var x → P (.name id ctx) →
        s.store.place (a.mangled id) ((w.loops ++ [ρ]) ++ b.inner) =
          s.store.place (a.mangled id) ((w.loops ++ [ρ]) ++ a.inner) := by
    intro w s id ctx hs hk
    rw [hname hk, List.append_assoc, List.append_assoc]
    have hgrows := w.grows.trans hs.grows
    obtain ⟨bs, hbs⟩ := hgrows.frame? hframe
    refine Store.place_append (Store.place_congr hbs fun hglobal hlocal => ?_) w.loops
    obtain ⟨p, hp, hkind⟩ := hk
    obtain ⟨ha, hb⟩ := hlack p hp id ctx hkind hglobal hlocal
    exact ⟨ha.grows hgrows, hb.grows hgrows⟩
  refine Carries.follows (D := r.partingAstray body a b σ x)
    (I := fun w : Nesting σ r.var => Session.HasOwn w.store ρ r.var x)
    (K := fun w => Site.Beside a b (w.loops ++ [ρ])) (P := P) {
      form := h.form
      relocation := fun w => .elsewhere h.module h.globals ?_ (hkeeps w)
        (fun hs hk hne => absurd (hplace hs hk) hne) Astray.looks
      own := fun ⟨hc, hc'⟩ => hc.own_eq hc'
      function := fun ⟨hc, _⟩ _ _ _ _ hn h => .function hc hn h
      starred := ?_
      fails := ?_
      kinds := fun p hp => ⟨p, hp, rfl⟩
      enters := fun p hp hopens hkeeps => entersLike_nesting (h.loopFrame_become hp hopens hkeeps)
        (hsimple.notMem_loopFrame h hp hopens)
      kept := fun p hp hkept => ?_ } (w := ⟨σ, [], .refl σ, List.forall_mem_nil _⟩) ⟨hc, hc'⟩
  · rintro k name ⟨p, hp, rfl⟩ hown
    exact h.mangled_eq hp hown
  · rintro _ _ _ _ _ _ _ _ _ ⟨p, hp, hnode, -⟩ hstarred
    rw [hsimple.indices p hp _ _ _ hnode] at hstarred
    cases hstarred
  · rintro w _ c _ ⟨hc, _⟩ func index ctx s t v i hs ht hn - hread hindex hv
    obtain ⟨bs, hbs⟩ := w.grows.frame? hframe
    -- the variable still has the value that it began with
    have hown : s.run (readName c (c.mangled r.var)) = (.ok x, s) := by
      rw [hc.mangled, hname hn.exists_name]
      exact Session.run_of_done (hs.readName hbs hlocal hglobal w.leave
        (by rw [hc.chain, List.append_assoc]; rfl))
    obtain rfl : x = v := Except.ok.inj (Prod.mk.inj (hown.symm.trans hread)).1
    refine .object hc hn hindex (Bool.eq_false_iff.2 fun hlasting => ?_) hv
    have hhas := Store.hasSubscript_of_grows (w.grows.trans ht.grows) hlasting
      (hsubscript (hn.form_eq h.form) hlasting)
    rw [hv] at hhas
    cases hhas
  · rw [hsimple.isKept_eq_false hp] at hkept
    cases hkept

end Own

end Rewriter

end Narrowing
