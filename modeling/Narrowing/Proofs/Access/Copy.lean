import Narrowing.Proofs.Access.Element
import Narrowing.Proofs.Access.Mentions
import Narrowing.Proofs.Access.Remains
import Narrowing.Proofs.Run.Elsewhere
/-!
# Copies that follow their code

The place of an access says which variable is accessed, but not which value the variable has when
the access is run: what has been assigned before and what the index does on the way both count. So
where accesses are rewritten into subscripts, the copy follows the code that it is made of until
the variable is found to have a value without subscripts, and then it fails
(`Rewriter.follows_body`). This is an induction on the tree: a node that stays follows because
those below it do, and one that is replaced is an access.

The copy also loses the code where something else than the generic access is called, and where a
function or class is made that has accesses in it: what is made keeps its code, so it is another one
from there on. A function expression even keeps the statement that it stands in. A comprehension that
runs at once is followed as well, unless its copy reaches other names.
-/

namespace Narrowing

open Code Run List

/-- Whether something made in some code would keep the code: it is what makes something, or a
statement on a line of its own that has such a thing inside. -/
def Code.Node.isKept (n : Node) : Bool :=
  n.kind.keepsCode || n.kind.hasOwnLine && n.anyKind Kind.keepsCode

theorem Code.Node.opensScope_or_hasOwnLine {n : Node} (h : n.isKept) :
    n.kind.opensScope || n.kind.hasOwnLine := by
  obtain ⟨k, slots⟩ := n
  rcases Bool.or_eq_true_iff.1 h with h | h
  · refine Bool.or_eq_true_iff.2 (.inl ?_)
    cases k <;> first | rfl | cases h
  · exact Bool.or_eq_true_iff.2 (.inr (Bool.and_eq_true_iff.1 h).1)

namespace Rewriter

/-! ## Where copies part from their code -/

/-- A call of some code that is replaced. -/
def Replaces (r : Rewriter) (body : List Node) (n : Node) : Prop :=
  ∃ p ∈ Node.placesOfBody body, p.node = n ∧ r.replaces p

/-- A node of some code that would be kept and has a call in it that is replaced. -/
def Keeps (r : Rewriter) (body : List Node) (n : Node) : Prop :=
  ∃ p ∈ Node.placesOfBody body, p.node = n ∧ n.isKept ∧ ∃ q ∈ n.places p.above, r.replaces q

/-- **Where a copy loses its code**: it comes to an access whose function is not the generic access
or whose index is not one value, to something that keeps its code, or to the loops of a comprehension
that are entered in another way in the copy. -/
inductive Loses (r : Rewriter) (body : List Node) : {α : Type} → Session → Run α → Prop
  | function {func index : Node} {ctx : Context} {c : Site} {s : Session}
      (hn : r.Replaces body (.call func [.name r.var ctx, index] []))
      (h : s.run (func.meaning.value c) ≠ (.ok (.builtin .elt), s)) :
      Loses r body s ((Node.call func [.name r.var ctx, index] []).meaning.value c)
  | starred {func index : Node} {ctx : Context} {c : Site} {s : Session}
      (hn : r.Replaces body (.call func [.name r.var ctx, index] [])) (h : index.isStarred) :
      Loses r body s ((Node.call func [.name r.var ctx, index] []).meaning.value c)
  | value {n : Node} {c : Site} {s : Session} (hn : r.Keeps body n) :
      Loses r body s (n.meaning.value c)
  | effect {n : Node} {c : Site} {s : Session} (hn : r.Keeps body n) :
      Loses r body s (n.meaning.effect c)
  | loops {p : Code.Place} {c : Site} {name : String} {i : Value} {s : Session}
      (hp : p ∈ Node.placesOfBody body)
      (h : s.run (enterLoops c name (r.become p) i) ≠ s.run (enterLoops c name p.node i)) :
      Loses r body s (enterLoops c name p.node i)

/-- **Where a copy fails**: it comes to an access to the variable while this has a value without
subscripts, once the index is known. -/
inductive Fails (r : Rewriter) (body : List Node) : {α : Type} → Session → Run α → Prop
  | access {func index : Node} {ctx : Context} {c : Site} {s t : Session} {v i : Value}
      (hn : r.Replaces body (.call func [.name r.var ctx, index] []))
      (hfunc : s.run (func.meaning.value c) = (.ok (.builtin .elt), s))
      (hname : s.run (readName c (c.mangled r.var)) = (.ok v, s))
      (hindex : s.run (index.meaning.value c) = (.ok i, t))
      (hv : t.store.hasSubscript v = false) :
      Fails r body s ((Node.call func [.name r.var ctx, index] []).meaning.value c)

/-- **Where a copy parts from its code.** -/
def parting (r : Rewriter) (body : List Node) : Parting := ⟨r.Loses body, r.Fails body⟩

variable {r : Rewriter} {body : List Node}

/-! ## One access -/

section Access

variable {func index index' : Node} {ctx : Context} {s t : Session} {c : Site} {v : Value}
  {D : Parting}

/-- The steps of a call of two arguments. -/
theorem value_call (func first index : Node) (c : Site) :
    (Node.call func [first, index] []).meaning.value c =
      (func.meaning.value c >>= fun g =>
        (first.meaning.spread c >>= fun vs =>
          (index.meaning.spread c >>= fun ws => (pure [] : Run (List Value)) >>= fun us =>
            pure (ws ++ us)) >>= fun ws => pure (vs ++ ws)) >>= fun vs =>
        (pure [] : Run (List (String × Value))) >>= fun keywords =>
          aside c (callHere c g vs keywords)) := rfl

theorem value_name (id : String) (ctx : Context) (c : Site) :
    (Node.name id ctx).meaning.value c = readName c (c.mangled id) := by
  cases ctx <;> rfl

theorem spread_name (id : String) (ctx : Context) (c : Site) :
    (Node.name id ctx).meaning.spread c = (readName c (c.mangled id) >>= fun v => pure [v]) := by
  cases ctx <;> rfl

/-- The steps of a subscript of a name. -/
theorem value_subscript (id : String) (ctx : Context) (index : Node) (c : Site) :
    (Node.subscript (.name id ctx) index .load).meaning.value c =
      (readName c (c.mangled id) >>= fun v => index.meaning.value c >>= fun i =>
        aside c (subscript v i >>= tellApart)) := by
  rw [← value_name id ctx]
  rfl

section Known

variable (hfunc : s.run (func.meaning.value c) = (.ok (.builtin .elt), s))
include hfunc

/-- What the variable comes to, the access comes to, once its function is known. -/
theorem comesTo_variable {α : Type} {y : Run α}
    (h : Session.ComesTo t y s (readName c (c.mangled r.var))) :
    Session.ComesTo t y s ((Node.call func [.name r.var ctx, index] []).meaning.value c) := by
  rw [value_call, spread_name]
  exact .next hfunc (((h.first _).first _).first _)

variable (hindex : index.isStarred = false)
include hindex

/-- An access whose function is known reads its variable, runs its index and then calls. -/
theorem run_access :
    s.run ((Node.call func [.name r.var ctx, index] []).meaning.value c) =
      s.run (readName c (c.mangled r.var) >>= fun v => index.meaning.value c >>= fun i =>
        aside c (invoke (.builtin .elt) [v, i] >>= tellApart)) := by
  rw [value_call, spread_name, Node.spread_eq hindex, Session.run_bind, hfunc]
  simp only [bind_assoc, pure_bind]
  rfl

variable (hname : s.run (readName c (c.mangled r.var)) = (.ok v, s))
include hname

/-- What its index comes to, the access comes to, once its variable is known. -/
theorem comesTo_access {α : Type} {y : Run α} (h : Session.ComesTo t y s (index.meaning.value c)) :
    Session.ComesTo t y s ((Node.call func [.name r.var ctx, index] []).meaning.value c) := by
  have hspread : s.run ((Node.name r.var ctx).meaning.spread c) = (.ok [v], s) := by
    rw [spread_name, Session.run_bind, hname]
    rfl
  have hspread' : Session.ComesTo t y s (index.meaning.spread c) := by
    rw [Node.spread_eq hindex]
    exact h.first _
  rw [value_call]
  exact .next hfunc (.first _ (.next hspread ((hspread'.first _).first _)))

/-- A subscript follows an access whose function and variable are known, if its index follows and
the runs part where the value has no subscripts. -/
theorem follows_known {c' : Site} (hown : c'.own = c.own)
    (h : s.Follows D (index.meaning.value c) (index'.meaning.value c'))
    (hfails : ∀ i t, s.run (index.meaning.value c) = (.ok i, t) → t.store.hasSubscript v = false →
      D.fails s ((Node.call func [.name r.var ctx, index] []).meaning.value c)) :
    s.Follows D ((Node.call func [.name r.var ctx, index] []).meaning.value c)
      (index'.meaning.value c' >>= fun i => aside c' (subscript v i >>= tellApart)) := by
  have hrun : s.run ((Node.call func [.name r.var ctx, index] []).meaning.value c) =
      s.run (index.meaning.value c >>= fun i =>
        aside c (invoke (.builtin .elt) [v, i] >>= tellApart)) := by
    rw [run_access hfunc hindex, Session.run_bind, hname]
  cases h with
  | same heq =>
    rcases hi : s.run (index.meaning.value c) with ⟨e | i, t⟩
    · refine .same ?_
      rw [hrun, Session.run_bind, Session.run_bind, heq, hi]
    · have hgeneric : s.run ((Node.call func [.name r.var ctx, index] []).meaning.value c) =
          t.run (aside c (invoke (.builtin .elt) [v, i] >>= tellApart)) := by
        rw [hrun, Session.run_bind, hi]
      have hcopy : s.run (index'.meaning.value c' >>= fun i =>
          aside c' (subscript v i >>= tellApart)) = t.run (aside c (subscript v i >>= tellApart)) := by
        rw [Session.run_bind, heq, hi]
        exact congrArg t.run (aside_congr hown _)
      cases hsub : t.store.hasSubscript v with
      | true =>
        rcases run_elt hsub i with hcall | hcall
        · refine .same ?_
          rw [hgeneric, hcopy]
          exact run_aside_congr (by rw [Session.run_bind, Session.run_bind, hcall])
        · refine .bound (e := .tooDeep) ?_ rfl
          rw [hgeneric]
          exact run_aside_error (Session.run_bind_error hcall _)
      | false =>
        refine .fails .here (hfails i t hi hsub) ?_
        rw [hcopy]
        refine run_aside_error (Session.run_bind_error ?_ _)
        rw [Session.run, subscript_fails hsub]
        rfl
  | bound he hbound => exact .bound (by rw [hrun]; exact Session.run_bind_error he _) hbound
  | loses h hloses => exact .loses (comesTo_access hfunc hindex hname h) hloses
  | fails h hfails he =>
    exact .fails (comesTo_access hfunc hindex hname h) hfails (Session.run_bind_error he _)

end Known

end Access

/-! ## Trees -/

/-- What is rewritten into subscripts, or not at all, looks alike to the node above it. -/
theorem alike_rebuild (hform : r.accessor.form = .subscript ∨ r.accessor.form = .keep)
    (above : List Step) (n : Node) : Meaning.Follows.Alike n (n.rebuild r.change above) := by
  cases hn : r.replaces ⟨above, n⟩ with
  | true =>
    obtain ⟨func, ctx, index, rfl, h⟩ := rebuild_of_replaces (form_of_replaces hform hn) hn
    rw [h]
    exact ⟨rfl, by simp, rfl, rfl⟩
  | false =>
    obtain ⟨k, slots⟩ := n
    rw [Node.rebuild, change_eq_self hn]
    refine ⟨rfl, ?_, rfl, ?_⟩
    · rcases slots with _ | ⟨ns, ss⟩ <;> simp [Node.rebuildSlots]
    cases k <;> try rfl
    -- whether a choice stands in the place of a further condition hangs on its slots
    rcases slots with _ | ⟨_ | ⟨t, _ | ⟨_, _⟩⟩, _ | ⟨b, _ | ⟨o, _ | ⟨_, _⟩⟩⟩⟩ <;> rfl

/-- **What a copy of a body needs to follow it** from a site to one that corresponds to it: the
sites do for the nodes in the body, also in the loops of comprehensions, runs part where a copy loses
its code or fails, and what would be kept follows by itself. -/
structure Carries {W : Type} (r : Rewriter) (body : List Node) (D : Parting)
    (I : W → Session → Prop) (K : W → Bool → Site → Site → Prop) (P : Kind → Prop) : Prop where
  form : r.accessor.form = .subscript ∨ r.accessor.form = .keep
  relocation (w : W) : Relocation D (I w) (K w) P
  own {w : W} {loose : Bool} {c c' : Site} (hc : K w loose c c') : c'.own = c.own
  function {w : W} {loose : Bool} {c c' : Site} (hc : K w loose c c') {func index : Node}
    {ctx : Context} {s : Session} (hn : r.Replaces body (.call func [.name r.var ctx, index] []))
    (h : s.run (func.meaning.value c) ≠ (.ok (.builtin .elt), s)) :
    D.loses s ((Node.call func [.name r.var ctx, index] []).meaning.value c)
  starred {w : W} {loose : Bool} {c c' : Site} (hc : K w loose c c') {func index : Node}
    {ctx : Context} {s : Session} (hn : r.Replaces body (.call func [.name r.var ctx, index] []))
    (h : index.isStarred) :
    D.loses s ((Node.call func [.name r.var ctx, index] []).meaning.value c)
  fails {w : W} {loose : Bool} {c c' : Site} (hc : K w loose c c') {func index : Node}
    {ctx : Context} {s t : Session} {v i : Value} (hs : I w s) (ht : I w t)
    (hn : r.Replaces body (.call func [.name r.var ctx, index] []))
    (hfunc : s.run (func.meaning.value c) = (.ok (.builtin .elt), s))
    (hname : s.run (readName c (c.mangled r.var)) = (.ok v, s))
    (hindex : s.run (index.meaning.value c) = (.ok i, t))
    (hv : t.store.hasSubscript v = false) :
    D.fails s ((Node.call func [.name r.var ctx, index] []).meaning.value c)
  kinds : ∀ p ∈ Node.placesOfBody body, P p.node.kind
  enters : ∀ p ∈ Node.placesOfBody body, p.node.kind.opensScope → p.node.kind.keepsCode = false →
    EntersLike D I K p.node (r.become p)
  kept : ∀ p ∈ Node.placesOfBody body, p.node.isKept → ∀ w,
    p.node.meaning.Follows D (I w) (K w false) (r.become p).meaning

section Carried

variable {W : Type} {func index index' : Node} {ctx : Context} {w : W} {loose : Bool} {D : Parting}
  {I : W → Session → Prop} {K : W → Bool → Site → Site → Prop} {P : Kind → Prop}

/-- **A subscript follows the access that it replaces**, if its variable and its index follow. -/
theorem follows_access (h : r.Carries body D I K P)
    (hn : r.Replaces body (.call func [.name r.var ctx, index] []))
    (hvar : (Node.name r.var ctx).meaning.Follows D (I w) (K w loose) (Node.name r.var ctx).meaning)
    (hindex' : index.meaning.Follows D (I w) (K w loose) index'.meaning)
    (hkeeps : ∀ {c c' : Site}, K w loose c c' →
      ((Node.call func [.name r.var ctx, index] []).meaning.value c).Keeps (I w)) :
    (Node.call func [.name r.var ctx, index] []).meaning.Follows D (I w) (K w loose)
      (Node.subscript (.name r.var ctx) index' .load).meaning := by
  have hvalue : ∀ {c c' : Site}, K w loose c c' → FollowsWhile D (I w)
      ((Node.call func [.name r.var ctx, index] []).meaning.value c)
      ((Node.subscript (.name r.var ctx) index' .load).meaning.value c') := by
    intro c c' hc
    refine ⟨fun s hs => ?_, hkeeps hc⟩
    by_cases hfunc : s.run (func.meaning.value c) = (.ok (.builtin .elt), s)
    swap
    · exact .loses .here (h.function hc hn hfunc)
    cases hindex : index.isStarred with
    | true => exact .loses .here (h.starred hc hn hindex)
    | false =>
      have hname : s.Follows D (readName c (c.mangled r.var)) (readName c' (c'.mangled r.var)) := by
        rw [← value_name r.var ctx, ← value_name r.var ctx]
        exact (hvar.value hc).follows s hs
      cases hname with
      | same heq =>
        rcases readName_cases c (c.mangled r.var) s.store with ⟨v, hv⟩ | ⟨e, he⟩
        · have hname : s.run (readName c (c.mangled r.var)) = (.ok v, s) := Session.run_of_done hv
          refine (follows_known hfunc hindex hname (h.own hc) ((hindex'.value hc).follows s hs)
            fun i t hi hsub => ?_).congr ?_
          · exact h.fails hc hs ((hindex'.value hc).keeps s i t hs hi) hn hfunc hname hi hsub
          · rw [value_subscript, Session.run_bind, heq, hname]
        · have hname : s.run (readName c (c.mangled r.var)) = (.error e, s) := by
            rw [Session.run, he]
            rfl
          refine .same ?_
          rw [value_subscript, run_access hfunc hindex, Session.run_bind, Session.run_bind, heq, hname]
      | bound he hbound =>
        refine .bound ?_ hbound
        rw [run_access hfunc hindex]
        exact Session.run_bind_error he _
      | loses h hloses => exact .loses (comesTo_variable hfunc h) hloses
      | fails h hfails he =>
        refine .fails (comesTo_variable hfunc h) hfails ?_
        rw [value_subscript]
        exact Session.run_bind_error he _
  -- a call is no target, so nothing is promised where it stands as one
  exact {
    value := hvalue
    effect := fun _ => .throw _
    store := fun _ _ => .of_unsupported _
    remove := fun _ => .of_unsupported _
    update := fun _ _ _ _ => .of_unsupported _
    spread := fun hc => (hvalue hc).map _
    named := fun _ => .pure _
    loop := fun _ _ _ _ _ _ => .of_unsupported _
    isConstant := rfl }

end Carried

/-- What would be kept stays what it is, though it may be rewritten below. -/
theorem exists_become_of_isKept {p : Code.Place} (h : p.node.isKept) :
    ∃ slots, r.become p = .mk p.node.kind slots := by
  obtain ⟨above, k, slots⟩ := p
  have hk := Node.opensScope_or_hasOwnLine h
  refine ⟨_, change_eq_self (Bool.eq_false_iff.2 fun hr => ?_) _⟩
  obtain ⟨target, index, haccess⟩ := exists_access?_of_replaces hr
  obtain rfl : k = .call := r.kind_of_access? (Option.isSome_of_eq_some haccess)
  cases hk

section Trees

variable {W : Type} {above : List Step} {k : Kind} {slots : List (List Node)} {loose : Bool}
  {D : Parting} {I : W → Session → Prop} {K : W → Bool → Site → Site → Prop} {P : Kind → Prop}

/-- **A node follows the one it is rewritten from** if the nodes below it do. -/
theorem follows_mk (h : r.Carries body D I K P)
    (hbody : (⟨above, .mk k slots⟩ : Code.Place) ∈ Node.placesOfBody body)
    (hloose : loose = true → (Node.mk k slots).anyKind Kind.keepsCode = false)
    (hbelow : (Node.mk k slots).isKept = false → ∀ w,
      Forall₂ (Forall₂ (Meaning.Follows D (I w) (K w (k.hasOwnLine || loose))))
        (Node.meaningsOfSlots slots) (Node.meaningsOfSlots
          (Node.rebuildSlots r.change (fun i j => ⟨.mk k slots, i, j⟩ :: above) slots))) (w : W) :
    (Node.mk k slots).meaning.Follows D (I w) (K w loose)
      (r.become ⟨above, .mk k slots⟩).meaning := by
  cases hkept : (Node.mk k slots).isKept with
  | true =>
    have hstrict : loose = false := by
      refine Bool.eq_false_iff.2 fun h => ?_
      have hnone := hloose h
      rw [Code.Node.isKept, hnone, Bool.and_false, Bool.or_false] at hkept
      rw [Node.anyKind, show k.keepsCode = true from hkept] at hnone
      cases hnone
    rw [hstrict]
    exact h.kept _ hbody hkept w
  | false =>
    have hbelow := hbelow hkept
    cases hreplaces : r.replaces ⟨above, .mk k slots⟩ with
    | false =>
      have hbecome : r.become ⟨above, .mk k slots⟩ = .mk k
          (Node.rebuildSlots r.change (fun i j => ⟨.mk k slots, i, j⟩ :: above) slots) :=
        change_eq_self hreplaces _
      have hkeeps : k.keepsCode = false := (Bool.or_eq_false_iff.1 hkept).1
      have henters := fun hopens => h.enters _ hbody hopens hkeeps
      rw [hbecome] at henters ⊢
      exact .ofKindAt h.relocation hkeeps (h.kinds _ hbody)
        (Node.forall₂_rebuildSlots (alike_rebuild h.form) _ _) henters hbelow w
    | true =>
      obtain ⟨func, ctx, index, hcall, hbecome⟩ :=
        rebuild_of_replaces (form_of_replaces h.form hreplaces) hreplaces
      obtain ⟨rfl, rfl⟩ := Node.mk.inj hcall
      have hcall : Meaning.Follows D (I w) (K w loose)
          (.ofKind .call [[func], [.name r.var ctx, index], []]
            (Node.meaningsOfSlots [[func], [.name r.var ctx, index], []]))
          (.ofKind .call [] (Node.meaningsOfSlots (Node.rebuildSlots r.change _ _))) :=
        .call (h.relocation w) (hbelow w)
      rw [become, hbecome]
      rcases hbelow w with _ | ⟨_, _ | ⟨_ | ⟨hvar, _ | ⟨hindex, _⟩⟩, _⟩⟩
      rw [rebuild_name] at hvar
      exact follows_access h ⟨_, hbody, rfl, hreplaces⟩ hvar hindex fun hc => (hcall.value hc).keeps

end Trees

section Bodies

variable {W : Type} {D : Parting} {I : W → Session → Prop} {K : W → Bool → Site → Site → Prop}
  {P : Kind → Prop}

mutual

/-- **A tree follows the one it is rewritten from.** Below a statement on a line of its own the line
differs, so nothing may be made there that remembers it. -/
theorem follows_rebuild (h : r.Carries body D I K P) : (above : List Step) → (n : Node) →
    (loose : Bool) → (∀ p ∈ n.places above, p ∈ Node.placesOfBody body) →
    (loose = true → n.anyKind Kind.keepsCode = false) → ∀ w,
      n.meaning.Follows D (I w) (K w loose) (n.rebuild r.change above).meaning
  | above, .mk k slots, loose, hbody, hloose => by
    refine follows_mk h (hbody _ mem_cons_self) hloose fun hkept => ?_
    refine follows_rebuildSlots h (fun i j => ⟨.mk k slots, i, j⟩ :: above) slots _
      (fun p hp => hbody p (mem_cons_of_mem _ hp)) fun h => ?_
    have hnone : (Node.mk k slots).anyKind Kind.keepsCode = false := by
      rcases Bool.or_eq_true_iff.1 h with h | h
      · have hline : (k.hasOwnLine && (Node.mk k slots).anyKind Kind.keepsCode) = false :=
          (Bool.or_eq_false_iff.1 hkept).2
        rw [h, Bool.true_and] at hline
        exact hline
      · exact hloose h
    rw [Node.anyKind] at hnone
    exact (Bool.or_eq_false_iff.1 hnone).2

theorem follows_rebuildSlots (h : r.Carries body D I K P) : (way : Nat → Nat → List Step) →
    (ss : List (List Node)) → (loose : Bool) →
    (∀ p ∈ Node.placesOfSlots way ss, p ∈ Node.placesOfBody body) →
    (loose = true → Node.anyKindSlots Kind.keepsCode ss = false) → ∀ w,
      Forall₂ (Forall₂ (Meaning.Follows D (I w) (K w loose))) (Node.meaningsOfSlots ss)
        (Node.meaningsOfSlots (Node.rebuildSlots r.change way ss))
  | _, [], _, _, _, _ => .nil
  | way, ns :: ss, loose, hbody, hloose, w =>
    .cons
      (follows_rebuildAll h (way 0) ns loose (fun p hp => hbody p (mem_append_left _ hp))
        (fun h => (Bool.or_eq_false_iff.1 (hloose h)).1) w)
      (follows_rebuildSlots h _ ss loose (fun p hp => hbody p (mem_append_right _ hp))
        (fun h => (Bool.or_eq_false_iff.1 (hloose h)).2) w)

theorem follows_rebuildAll (h : r.Carries body D I K P) : (way : Nat → List Step) →
    (ns : List Node) → (loose : Bool) →
    (∀ p ∈ Node.placesOfAll way ns, p ∈ Node.placesOfBody body) →
    (loose = true → Node.anyKindList Kind.keepsCode ns = false) → ∀ w,
      Forall₂ (Meaning.Follows D (I w) (K w loose)) (Node.meaningsOfAll ns)
        (Node.meaningsOfAll (Node.rebuildAll r.change way ns))
  | _, [], _, _, _, _ => .nil
  | way, n :: ns, loose, hbody, hloose, w =>
    .cons
      (follows_rebuild h (way 0) n loose (fun p hp => hbody p (mem_append_left _ hp))
        (fun h => (Bool.or_eq_false_iff.1 (hloose h)).1) w)
      (follows_rebuildAll h _ ns loose (fun p hp => hbody p (mem_append_right _ hp))
        (fun h => (Bool.or_eq_false_iff.1 (hloose h)).2) w)

end

/-- **The copy of a body follows the body** at a site that corresponds to that of the body. -/
theorem Carries.follows (h : r.Carries body D I K P) {w : W} {c c' : Site} (hc : K w false c c') :
    FollowsWhile D (I w) (inOrder c (Node.meaningsOfAll body))
      (inOrder c' (Node.meaningsOfAll (r.applyList body).1)) := by
  rw [r.applyList_body]
  exact Meaning.Follows.inOrder
    (follows_rebuildAll h (fun _ => []) body false (fun _ hp => hp) (fun h => Bool.noConfusion h) w)
    hc

end Bodies

/-! ## Copies at one site -/

/-- What would be kept is left as it is, or the copy loses the code there. -/
theorem follows_of_isKept {p : Code.Place} (hbody : p ∈ Node.placesOfBody body)
    (hkept : p.node.isKept) :
    p.node.meaning.Follows (r.parting body) (fun _ => True) (Site.Near false)
      (r.become p).meaning := by
  by_cases hreplaces : ∃ q ∈ p.node.places p.above, r.replaces q
  · have hn : r.Keeps body p.node := ⟨_, hbody, rfl, hkept, hreplaces⟩
    obtain ⟨slots', heq⟩ := exists_become_of_isKept (r := r) hkept
    rw [heq]
    obtain ⟨above, k, slots⟩ := p
    exact .ofDefaults (Node.opensScope_or_hasOwnLine hkept)
      (fun _ => ⟨fun _ _ => .loses .here (.value hn), fun _ _ _ _ _ => trivial⟩)
      fun _ => ⟨fun _ _ => .loses .here (.effect hn), fun _ _ _ _ _ => trivial⟩
  · have hsame : r.become p = p.node := Node.rebuild_eq_self p.above _ fun q hq =>
      change_eq_self (Bool.eq_false_iff.2 fun hr => hreplaces ⟨q, hq, hr⟩)
    rw [hsame]
    obtain ⟨above, k, slots⟩ := p
    refine .ofDefaults (Node.opensScope_or_hasOwnLine hkept)
      (fun hc => .of_eq ?_ fun _ _ _ _ _ => trivial)
      fun hc => .of_eq ?_ fun _ _ _ _ _ => trivial <;>
        rw [hc.eq_of_strict]

/-- The loops of a comprehension are entered as in the copy, or the copy loses the code there. -/
theorem entersLike_near {p : Code.Place} (hbody : p ∈ Node.placesOfBody body) :
    EntersLike (r.parting body) (fun (_ : Unit) _ => True) (fun _ => Site.Near) p.node
      (r.become p) := by
  refine ⟨fun {_ _ c _} hc name i s _ => ?_⟩
  obtain ⟨d, hd, -⟩ := enterLoops_spec c name p.node i s.store
  refine ⟨(), d, d, _, Session.run_of_done hd, trivial, .refl, fun _ _ => trivial, ?_⟩
  by_cases hsame : s.run (enterLoops c name (r.become p) i) = s.run (enterLoops c name p.node i)
  · refine .inl ?_
    rw [hc.eq_of (fun c => enterLoops c name (r.become p) i) fun _ _ => rfl, hsame]
    exact Session.run_of_done hd
  · exact .inr (Loses.loops hbody hsame)

/-- **The copy of a body follows the body**, if accesses are rewritten into subscripts, or not at
all. -/
theorem follows_body (hform : r.accessor.form = .subscript ∨ r.accessor.form = .keep)
    (body : List Node) (c : Site) :
    Run.Follows (r.parting body) (inOrder c (Node.meaningsOfAll body))
      (inOrder c (Node.meaningsOfAll (r.applyList body).1)) :=
  FollowsWhile.always (Carries.follows (W := Unit) (I := fun _ _ => True) {
    form := hform
    relocation := fun _ => .near _
    own := fun hc => hc.eq_of Site.own fun _ _ => rfl
    function := fun _ => Loses.function
    starred := fun _ => Loses.starred
    fails := fun _ _ _ _ _ _ _ _ _ _ hn hfunc hname hindex hv =>
      Fails.access hn hfunc hname hindex hv
    kinds := fun _ _ => trivial
    enters := fun _ hp _ _ => entersLike_near hp
    kept := fun _ hp hkept _ => follows_of_isKept hp hkept } (w := ()) .refl)

/-! ## Copies elsewhere -/

/-- The iterator of a loop is private to no class. -/
theorem mangled_iteratorName (c : Site) :
    c.mangled Signature.iteratorName = Signature.iteratorName := by
  rw [Site.mangled]
  cases c.owner <;> rfl

/-- **A comprehension that runs at once** takes the iterator of its first loop. -/
theorem ofFunction_comprehension {n : Node} (hopens : n.kind.opensScope)
    (hkeeps : n.kind.keepsCode = false) :
    Signature.ofFunction n = ⟨[], [Signature.iteratorName], none, [], none⟩ ∧
      n.isSelfContained = !n.anyKind Kind.keepsCode := by
  obtain ⟨k, slots⟩ := n
  cases k with
  | listComp | setComp | dictComp => exact ⟨rfl, rfl⟩
  | functionDef | classDef | lambda | generatorExp => cases hkeeps
  | _ => cases hopens

/-- What its loops run in. -/
theorem loopFrame_eq {n : Node} (hopens : n.kind.opensScope) (hkeeps : n.kind.keepsCode = false)
    (c : Site) (i : Value) : loopFrame c n i =
      { locals := (Signature.iteratorName ::
          Mention.locals (c.mangledMentions n.functionMentions)).eraseDups
        globals := (Mention.globals (c.mangledMentions n.functionMentions)).eraseDups
        instance? := some Signature.iteratorName
        isPrivate := !n.anyKind Kind.keepsCode, bindings := [(Signature.iteratorName, i)] } := by
  obtain ⟨hsignature, hprivate⟩ := ofFunction_comprehension hopens hkeeps
  simp only [loopFrame, hsignature, hprivate, Signature.variableNames, Signature.positional,
    Signature.rename, List.map_cons, List.map_nil, Option.map_none, Option.toList_none,
    List.nil_append, List.append_nil, List.cons_append, mangled_iteratorName, List.head?_cons]

/-- **A body whose copy can run elsewhere**: it is made of statements, its accesses call plain names,
and become subscripts if they are rewritten. Both places are in one module. No name is private to a
class at the one, and the other is outside of classes. -/
structure Transplants (r : Rewriter) (body : List Node) (a b : Site) : Prop where
  form : r.accessor.form = .subscript ∨ r.accessor.form = .keep
  statements : Node.AllAre .statement body
  plain : ∀ p ∈ Node.placesOfBody body, r.isPlain p.node
  module : b.module = a.module
  globals : b.globals = a.globals
  outside : b.owner = none
  names : ∀ p ∈ Node.placesOfBody body, ∀ name, p.node.kind.ownName? = some name →
    a.mangled name = name
  mentions : ∀ p ∈ Node.placesOfBody body, p.node.kind.opensScope →
    a.mangledMentions p.node.functionMentions = p.node.functionMentions

namespace Transplants

variable {a b : Site} (h : r.Transplants body a b) {p : Code.Place}

include h

theorem mangled_eq (hp : p ∈ Node.placesOfBody body) {name : String}
    (hname : p.node.kind.ownName? = some name) : b.mangled name = a.mangled name := by
  rw [h.names p hp name hname, Site.mangled, h.outside]

/-- **The loops of the copy are for the same names** as those of the body. -/
theorem loopFrame_become (hp : p ∈ Node.placesOfBody body) (hopens : p.node.kind.opensScope)
    (hkeeps : p.node.kind.keepsCode = false) {c c' : Site} {ρs : List Ref} (hc : c.IsCallOf a ρs)
    (hc' : c'.IsCallOf b ρs) (i : Value) : loopFrame c' (r.become p) i = loopFrame c p.node i := by
  have hreplaces : r.replaces p = false := by
    refine Bool.eq_false_iff.2 fun hr => ?_
    obtain ⟨target, index, haccess⟩ := exists_access?_of_replaces hr
    rw [r.kind_of_access? (Option.isSome_of_eq_some haccess)] at hopens
    cases hopens
  have hkind := kind_become hreplaces
  rw [loopFrame_eq hopens hkeeps, loopFrame_eq (hkind ▸ hopens) (hkind ▸ hkeeps), hc.mangledMentions,
    hc'.mangledMentions, h.mentions p hp hopens, Site.mangledMentions, h.outside]
  by_cases hopen : r.IsOpen p.above
  · obtain ⟨part, his⟩ := Node.exists_is_of_mem_placesOfBody h.statements hp
    have hbelow : ∀ q ∈ p.node.places p.above, r.isPlain q.node := fun q hq =>
      h.plain q (Node.places_subset_of_mem_placesOfBody hp hq)
    rw [become, ← fst_apply hopen, keepsCode_apply h.form p.above p.node hbelow]
    obtain ⟨hlocals, hglobals⟩ := names_apply h.form his hopens hkeeps p.above hbelow
    simp only [hlocals, hglobals]
  · obtain ⟨s, hs, hshields⟩ : ∃ s ∈ p.above, r.shields s.node := by simpa [IsOpen] using hopen
    have hsame : r.become p = p.node := Node.rebuild_eq_self p.above _ fun q hq =>
      change_eq_self (replaces_eq_false ((Node.above_suffix_of_mem_places hq).mem hs) hshields)
    rw [hsame]

end Transplants

/-- **Where a copy that runs elsewhere loses its code**: it comes to an access whose function is not
the generic access or whose index is not one value, to something that does another thing elsewhere,
or to something that keeps its code and with that the place. -/
inductive LosesElsewhere (r : Rewriter) (body : List Node) (a b : Site) :
    {α : Type} → Session → Run α → Prop
  | function {func index : Node} {ctx : Context} {c : Site} {s : Session}
      (hn : r.Replaces body (.call func [.name r.var ctx, index] []))
      (h : s.run (func.meaning.value c) ≠ (.ok (.builtin .elt), s)) :
      LosesElsewhere r body a b s ((Node.call func [.name r.var ctx, index] []).meaning.value c)
  | starred {func index : Node} {ctx : Context} {c : Site} {s : Session}
      (hn : r.Replaces body (.call func [.name r.var ctx, index] [])) (h : index.isStarred) :
      LosesElsewhere r body a b s ((Node.call func [.name r.var ctx, index] []).meaning.value c)
  | place {α : Type} {s : Session} {x : Run α} (h : Site.Differs a b s x) :
      LosesElsewhere r body a b s x
  | value {p : Code.Place} {c : Site} {s : Session} (hp : p ∈ Node.placesOfBody body)
      (hkept : p.node.isKept) : LosesElsewhere r body a b s (p.node.meaning.value c)
  | effect {p : Code.Place} {c : Site} {s : Session} (hp : p ∈ Node.placesOfBody body)
      (hkept : p.node.isKept) : LosesElsewhere r body a b s (p.node.meaning.effect c)

/-- **Where a copy parts from its code** that runs elsewhere. -/
def partingElsewhere (r : Rewriter) (body : List Node) (a b : Site) : Parting :=
  ⟨r.LosesElsewhere body a b, r.Fails body⟩

/-- **The copy of a body that runs elsewhere follows the body**, in a call beside that of the body. -/
theorem follows_body_elsewhere {a b : Site} (h : r.Transplants body a b) {c c' : Site}
    {ρs : List Ref} (hc : c.IsCallOf a ρs) (hc' : c'.IsCallOf b ρs) :
    Run.Follows (r.partingElsewhere body a b) (inOrder c (Node.meaningsOfAll body))
      (inOrder c' (Node.meaningsOfAll (r.applyList body).1)) := by
  refine FollowsWhile.always (Carries.follows (D := r.partingElsewhere body a b)
    (I := fun _ _ => True) (K := Site.Beside a b)
    (P := fun k => ∀ name, k.ownName? = some name → b.mangled name = a.mangled name) {
      form := h.form
      relocation := fun ρs => .elsewhere h.module h.globals (fun _ name hk => hk name)
        (.always a ρs _) (fun _ _ _ _ _ h => LosesElsewhere.place h)
        fun h => LosesElsewhere.place (.looks h)
      own := fun ⟨hc, hc'⟩ => hc.own_eq hc'
      function := fun _ _ _ _ _ hn h => .function hn h
      starred := fun _ _ _ _ _ hn h => .starred hn h
      fails := fun _ _ _ _ _ _ _ _ _ _ hn hfunc hname hindex hv =>
        Fails.access hn hfunc hname hindex hv
      kinds := fun _ hp _ hname => h.mangled_eq hp hname
      enters := fun _ hp hopens hkeeps => .elsewhere (h.loopFrame_become hp hopens hkeeps)
      kept := fun p hp hkept _ => ?_ } (w := ρs) ⟨hc, hc'⟩)
  obtain ⟨slots, heq⟩ := exists_become_of_isKept (r := r) hkept
  rw [heq]
  obtain ⟨above, k, slots'⟩ := p
  exact .ofDefaults (Node.opensScope_or_hasOwnLine hkept)
    (fun _ => ⟨fun _ _ => .loses .here (LosesElsewhere.value hp hkept), fun _ _ _ _ _ => trivial⟩)
    fun _ => ⟨fun _ _ => .loses .here (LosesElsewhere.effect hp hkept), fun _ _ _ _ _ => trivial⟩

end Rewriter

end Narrowing
