import Narrowing.Proofs.Access.Rewrite
import Narrowing.Proofs.Code.Declarations
/-!
# What rewritten code mentions

An accessor puts in place of an access what mentions less: the call is gone, with all that
the expression called mentions, and so may be the variable and the index. Only a call of
another function reads a name that was not there (`Accessor.Calls`). So what code mentions
gets thin by rewriting (`Rewriter.applyList_thins`).

Where accesses call a plain name and become subscripts, nothing gets lost but the reads of that
name (`Rewriter.thins_applyList`). Then the same names are bound.
-/

namespace Narrowing

open Code Node Mention

/-- **The names that an accessor reads** where it replaces an access: that of the function
that it calls, and what this stands for in classes. -/
inductive Accessor.Calls (a : Accessor) : String → Prop
  | function {f : String} (h : a.form = .call f) : a.Calls f
  | inClass (owner : String) {name : String} (h : a.Calls name) : a.Calls (privateName owner name)

namespace Rewriter

variable (r : Rewriter)

/-- What replaces an access mentions less. -/
theorem replacement?_thins {func index index' n : Node} {ctx : Context}
    (hfunc : AllLoose func.mentions) (hindex : AllLoose index.mentions)
    (hthins : Thins r.accessor.Calls (mentionsOfAll [.name r.var ctx, index'])
      (mentionsOfAll [.name r.var ctx, index]))
    (h : r.accessor.replacement? (.name r.var ctx) index' = some n) :
    Thins r.accessor.Calls n.mentions (Node.call func [.name r.var ctx, index] []).mentions := by
  have hcall : (Node.call func [.name r.var ctx, index] []).mentions =
      func.mentions ++ mentionsOfAll [.name r.var ctx, index] := by
    show [mentionsOfAll [func], mentionsOfAll [.name r.var ctx, index], []].flatten = _
    simp [mentionsOfAll]
  have hname : AllLoose (Node.name r.var ctx).mentions := by
    cases ctx <;> exact List.forall_mem_singleton.2 trivial
  have hparts : mentionsOfAll [.name r.var ctx, index] =
      (Node.name r.var ctx).mentions ++ index.mentions := by
    simp [mentionsOfAll]
  rw [hcall]
  refine .loseAll hfunc ?_
  unfold Accessor.replacement? at h
  split at h
  · obtain rfl := Option.some.inj h
    have hsubscript : (Node.subscript (.name r.var ctx) index' .load).mentions =
        mentionsOfAll [.name r.var ctx, index'] := by
      show [mentionsOfAll [.name r.var ctx], mentionsOfAll [index']].flatten = _
      simp [mentionsOfAll]
    rw [hsubscript]
    exact hthins
  · cases h
  · obtain rfl := Option.some.inj h
    have hnone : Thins r.accessor.Calls [] _ := Thins.nil.loseAll (allLoose_append.2 ⟨hname, hindex⟩)
    rw [List.append_nil] at hnone
    rw [hparts]
    exact hnone
  · next f hform =>
    obtain rfl := Option.some.inj h
    have hcalled : (Node.call (.load f) [.name r.var ctx, index'] []).mentions =
        .reads f :: mentionsOfAll [.name r.var ctx, index'] := by
      show [mentionsOfAll [.load f], mentionsOfAll [.name r.var ctx, index'], []].flatten = _
      simp [mentionsOfAll]
      rfl
    rw [hcalled]
    exact hthins.reads (.function hform)
  · obtain rfl := Option.some.inj h
    have hawait : (Node.await (.name r.var ctx)).mentions =
        .waits :: ((Node.name r.var ctx).mentions ++ []) := by
      show .waits :: [mentionsOfAll [.name r.var ctx]].flatten = _
      simp [mentionsOfAll]
    have hlost : Thins r.accessor.Calls [] _ := Thins.nil.loseAll hindex
    rw [List.append_nil] at hlost
    rw [hawait, hparts]
    exact ((Thins.refl _).append hlost).waits

mutual

/-- **What rewritten code mentions** is what was mentioned, but thin. -/
theorem apply_thins : (p : Part) → (n : Node) → n.Is p →
    Thins r.accessor.Calls (r.apply n).1.mentions n.mentions
  | p, .mk k slots, h => by
    have hslots := applySlots_thins _ slots h.2
    have hkind := Thins.ofKind (fun owner name => Accessor.Calls.inClass owner) k hslots
    rw [apply]
    split
    · exact .refl _
    · dsimp only
      split
      · next n hn =>
        unfold replacement? at hn
        split at hn
        · next target index haccess =>
          obtain ⟨func', ctx, hcall, rfl, -⟩ := r.access?_eq_some_iff.1 haccess
          obtain ⟨func, i, heq, rfl, rfl⟩ := r.mk_eq_call_iff.1 hcall
          obtain ⟨rfl, rfl⟩ := Node.mk.inj heq
          obtain ⟨-, hfunc, ⟨-, hindex, -⟩, -⟩ := h
          cases hslots with
          | cons _ hrest =>
            cases hrest with
            | cons hargs _ =>
              exact r.replacement?_thins (allows_of_is _ _ hfunc.1) (allows_of_is _ _ hindex) hargs hn
        · cases hn
      · exact hkind

theorem applySlots_thins : (ps : List Part) → (ss : List (List Node)) → SlotsAre ps ss →
    List.Forall₂ (Thins r.accessor.Calls) (mentionsOfSlots (r.applySlots ss).1)
      (mentionsOfSlots ss)
  | [], [], _ => .nil
  | p :: ps, ns :: ss, h => .cons (applyList_thins p ns h.1) (applySlots_thins ps ss h.2)

theorem applyList_thins : (p : Part) → (ns : List Node) → AllAre p ns →
    Thins r.accessor.Calls (mentionsOfAll (r.applyList ns).1) (mentionsOfAll ns)
  | _, [], _ => .nil
  | p, n :: ns, h => (apply_thins p n h.1).append (applyList_thins p ns h.2)

end

/-! ## Accesses by plain names -/

/-- Whether a node is no access, or one whose function is a plain name. -/
def isPlain (n : Node) : Bool :=
  match n with
  | .call (.name _ .load) _ _ => true
  | n => (r.access? n).isNone

variable {r}

theorem exists_of_isPlain {func index : Node} {ctx : Context}
    (hplain : r.isPlain (.call func [.name r.var ctx, index] []))
    (h : (r.access? (.call func [.name r.var ctx, index] [])).isSome) : ∃ id, func = .load id := by
  unfold isPlain at hplain
  split at hplain
  · next id _ _ hcall =>
    refine ⟨id, ?_⟩
    simp only [Node.mk.injEq, List.cons.injEq] at hcall
    exact hcall.2.1.1
  · rw [Option.isNone_iff_eq_none.1 hplain] at h
    cases h

/-- **What replaces such an access** is the subscript of the variable by what its index becomes. -/
theorem exists_of_replacement?_of_isPlain {k : Kind} {slots : List (List Node)} {m : Node}
    (hform : r.accessor.form = .subscript ∨ r.accessor.form = .keep)
    (hplain : r.isPlain (.mk k slots)) (hm : r.replacement? (.mk k (r.applySlots slots).1) = some m) :
    ∃ id i ctx, k = .call ∧ slots = [[.load id], [.name r.var ctx, i], []] ∧
      m = .subscript (.name r.var ctx) (r.apply i).1 .load := by
  obtain ⟨target, index, hi, rfl⟩ := exists_of_replacement? hform hm
  obtain ⟨func', ctx, hcall, rfl, -⟩ := r.access?_eq_some_iff.1 hi
  obtain ⟨func, i, heq, rfl, rfl⟩ := r.mk_eq_call_iff.1 hcall
  obtain ⟨rfl, rfl⟩ := Node.mk.inj heq
  have haccess : (r.access? (.call func [.name r.var ctx, i] [])).isSome := by
    have hsame := r.access?_mk .call [[func], [.name r.var ctx, i], []]
    rw [hi] at hsame
    obtain ⟨parts, hparts, -⟩ := Option.map_eq_some_iff.1 hsame.symm
    rw [hparts]
    rfl
  obtain ⟨id, rfl⟩ := exists_of_isPlain hplain haccess
  exact ⟨id, i, ctx, rfl, rfl, rfl⟩

/-- What a call of a plain name mentions, and what a subscript in its place does. -/
theorem mentions_call_load (id : String) (target index : Node) :
    (Node.call (.load id) [target, index] []).mentions =
        .reads id :: mentionsOfAll [target, index] ∧
      (Node.subscript target index .load).mentions = mentionsOfAll [target, index] := by
  constructor
  · show [mentionsOfAll [.load id], mentionsOfAll [target, index], []].flatten = _
    simp [mentionsOfAll]
    rfl
  · show [mentionsOfAll [target], mentionsOfAll [index]].flatten = _
    simp [mentionsOfAll]

mutual

/-- **Code whose accesses call plain names mentions** what is made of it, and reads those names
besides, if accesses are rewritten into subscripts. -/
theorem thins_apply (hform : r.accessor.form = .subscript ∨ r.accessor.form = .keep) :
    (above : List Step) → (n : Node) → (∀ p ∈ n.places above, r.isPlain p.node) →
      Thins (fun _ => True) n.mentions (r.apply n).1.mentions
  | above, .mk k slots, h => by
    have hslots := thins_applySlots hform (fun i j => ⟨.mk k slots, i, j⟩ :: above) slots
      fun p hp => h p (List.mem_cons_of_mem _ hp)
    have hkind := Thins.ofKind (fun _ _ _ => trivial) k hslots
    have hplain := h _ List.mem_cons_self
    rw [apply]
    split
    · exact .refl _
    dsimp only
    split
    swap
    · exact hkind
    next m hm =>
    obtain ⟨id, i, ctx, rfl, rfl, rfl⟩ := exists_of_replacement?_of_isPlain hform hplain hm
    obtain ⟨hcall, -⟩ := mentions_call_load id (.name r.var ctx) i
    obtain ⟨-, hsubscript⟩ := mentions_call_load id (.name r.var ctx) (r.apply i).1
    rw [hcall, hsubscript]
    rcases hslots with _ | ⟨-, _ | ⟨hargs, -⟩⟩
    exact hargs.reads trivial

theorem thins_applySlots (hform : r.accessor.form = .subscript ∨ r.accessor.form = .keep) :
    (way : Nat → Nat → List Step) → (ss : List (List Node)) →
    (∀ p ∈ placesOfSlots way ss, r.isPlain p.node) →
      List.Forall₂ (Thins fun _ => True) (mentionsOfSlots ss) (mentionsOfSlots (r.applySlots ss).1)
  | _, [], _ => .nil
  | way, ns :: ss, h =>
    .cons (thins_applyList hform (way 0) ns fun p hp => h p (List.mem_append_left _ hp))
      (thins_applySlots hform _ ss fun p hp => h p (List.mem_append_right _ hp))

theorem thins_applyList (hform : r.accessor.form = .subscript ∨ r.accessor.form = .keep) :
    (way : Nat → List Step) → (ns : List Node) →
    (∀ p ∈ placesOfAll way ns, r.isPlain p.node) →
      Thins (fun _ => True) (mentionsOfAll ns) (mentionsOfAll (r.applyList ns).1)
  | _, [], _ => .nil
  | way, n :: ns, h =>
    (thins_apply hform (way 0) n fun p hp => h p (List.mem_append_left _ hp)).append
      (thins_applyList hform _ ns fun p hp => h p (List.mem_append_right _ hp))

end

/-- **A comprehension whose accesses call plain names** has the names that what is made of it has. -/
theorem names_apply (hform : r.accessor.form = .subscript ∨ r.accessor.form = .keep) {n : Node}
    {part : Part} (his : n.Is part) (hopens : n.kind.opensScope) (hkeeps : n.kind.keepsCode = false)
    (above : List Step) (h : ∀ p ∈ n.places above, r.isPlain p.node) :
    Mention.locals (r.apply n).1.functionMentions = Mention.locals n.functionMentions ∧
      Mention.globals (r.apply n).1.functionMentions = Mention.globals n.functionMentions := by
  obtain ⟨k, slots⟩ := n
  rcases r.apply_cases (.mk k slots) with hsame | hsame | ⟨hcall, -⟩
  · rw [hsame]
    exact ⟨rfl, rfl⟩
  · have hthin := r.applySlots_thins k.slotParts slots his.2
    have hthick := thins_applySlots hform (fun i j => ⟨.mk k slots, i, j⟩ :: above) slots
      fun p hp => h p (List.mem_cons_of_mem _ hp)
    have hlength := Node.length_slots his
    have hlength' : (r.applySlots slots).1.length = k.arities.length := by
      rw [r.applySlots_fst, List.length_map, hlength]
    have hthins := Thins.functionMentions hopens hkeeps hlength hlength' hthin
    rw [hsame]
    exact ⟨hthins.locals_eq (Thins.functionMentions hopens hkeeps hlength' hlength hthick),
      hthins.globals_eq⟩
  · cases hcall
    cases hopens

/-! ## Code that is kept -/

mutual

/-- **Code whose accesses call plain names keeps code** where what is made of it does. -/
theorem keepsCode_apply (hform : r.accessor.form = .subscript ∨ r.accessor.form = .keep) :
    (above : List Step) → (n : Node) → (∀ p ∈ n.places above, r.isPlain p.node) →
      (r.apply n).1.anyKind Kind.keepsCode = n.anyKind Kind.keepsCode
  | above, .mk k slots, h => by
    have hslots := keepsCode_applySlots hform (fun i j => ⟨.mk k slots, i, j⟩ :: above) slots
      fun p hp => h p (List.mem_cons_of_mem _ hp)
    have hplain := h _ List.mem_cons_self
    rw [apply]
    split
    · rfl
    dsimp only
    split
    swap
    · rw [anyKind, anyKind, hslots]
    next m hm =>
    obtain ⟨id, i, ctx, rfl, rfl, rfl⟩ := exists_of_replacement?_of_isPlain hform hplain hm
    have hname : ∀ id ctx, (r.apply (.name id ctx)).1 = .name id ctx := fun _ _ => rfl
    simpa [applySlots, applyList, hname, anyKind, anyKindSlots, anyKindList, Kind.keepsCode] using
      hslots

theorem keepsCode_applySlots (hform : r.accessor.form = .subscript ∨ r.accessor.form = .keep) :
    (way : Nat → Nat → List Step) → (ss : List (List Node)) →
    (∀ p ∈ placesOfSlots way ss, r.isPlain p.node) →
      anyKindSlots Kind.keepsCode (r.applySlots ss).1 = anyKindSlots Kind.keepsCode ss
  | _, [], _ => rfl
  | way, ns :: ss, h => by
    rw [applySlots, anyKindSlots, anyKindSlots,
      keepsCode_applyList hform (way 0) ns fun p hp => h p (List.mem_append_left _ hp),
      keepsCode_applySlots hform _ ss fun p hp => h p (List.mem_append_right _ hp)]

theorem keepsCode_applyList (hform : r.accessor.form = .subscript ∨ r.accessor.form = .keep) :
    (way : Nat → List Step) → (ns : List Node) →
    (∀ p ∈ placesOfAll way ns, r.isPlain p.node) →
      anyKindList Kind.keepsCode (r.applyList ns).1 = anyKindList Kind.keepsCode ns
  | _, [], _ => rfl
  | way, n :: ns, h => by
    rw [applyList, anyKindList, anyKindList,
      keepsCode_apply hform (way 0) n fun p hp => h p (List.mem_append_left _ hp),
      keepsCode_applyList hform _ ns fun p hp => h p (List.mem_append_right _ hp)]

end

/-! ## Yielding -/

mutual

/-- **Rewritten code yields only where the code does**, if accesses are rewritten into subscripts. -/
theorem yields_apply (hform : r.accessor.form = .subscript ∨ r.accessor.form = .keep) :
    (n : Node) → (r.apply n).1.yields → n.yields
  | .mk k slots, h => by
    have hslots := slotsYield_apply hform slots
    have hbelow : (Node.mk k (r.applySlots slots).1).yields → (Node.mk k slots).yields := by
      intro h
      cases k <;> first | exact h | exact hslots h
    rw [apply] at h
    split at h
    · exact h
    dsimp only at h
    split at h
    swap
    · exact hbelow h
    next m hm =>
    obtain ⟨target, index, hi, rfl⟩ := exists_of_replacement? hform hm
    obtain ⟨func', ctx, hcall, rfl, -⟩ := r.access?_eq_some_iff.1 hi
    refine hbelow ?_
    rw [hcall]
    have hyields : someYields [index] := by
      simpa [yields, slotsYield, someYields] using h
    simp only [someYields, Bool.or_false] at hyields
    simp [yields, slotsYield, someYields, hyields]

theorem slotsYield_apply (hform : r.accessor.form = .subscript ∨ r.accessor.form = .keep) :
    (ss : List (List Node)) → slotsYield (r.applySlots ss).1 → slotsYield ss
  | [], h => h
  | ns :: ss, h => by
    rw [applySlots] at h
    rw [slotsYield, Bool.or_eq_true] at h ⊢
    exact h.imp (someYields_apply hform ns) (slotsYield_apply hform ss)

theorem someYields_apply (hform : r.accessor.form = .subscript ∨ r.accessor.form = .keep) :
    (ns : List Node) → someYields (r.applyList ns).1 → someYields ns
  | [], h => h
  | n :: ns, h => by
    rw [applyList] at h
    rw [someYields, Bool.or_eq_true] at h ⊢
    exact h.imp (yields_apply hform n) (someYields_apply hform ns)

end

end Rewriter

end Narrowing
