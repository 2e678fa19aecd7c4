import Narrowing.Proofs.Access.Rewrite
/-!
# No access is left

A rewriter goes through a tree once and does not look again at what it has put in place of an
access. Where accesses become subscripts that is enough. A subscript is no access, and the index in
it has been rewritten before. Nor does rewriting change which scopes are shielded: one that is
shielded is left alone, bindings and all, and to any other a subscript brings no binding.

So the accesses in the open (`Rewriter.openAccesses`) are all replaced, a second rewriting finds
nothing to do, and the count is that of the accesses there were, also of those that stood in the
function of another access and are gone with it (`Rewriter.complete_of_apply`).
-/

namespace Narrowing

open Code Node

namespace Rewriter

variable {r : Rewriter}

/-! ## The accesses in the open -/

/-- **A call that is recognized** as an access to the variable: one of the names is called,
plainly or as an attribute of anything, with the variable and an index and nothing else. -/
inductive Recognizes (r : Rewriter) : Node → Prop where
  | plain {f : String} (hf : f ∈ r.names) (ctx ctx' : Context) (index : Node) :
    Recognizes r (.call (.name f ctx) [.name r.var ctx', index] [])
  | member {f : String} (hf : f ∈ r.names) (value : Node) (ctx ctx' : Context) (index : Node) :
    Recognizes r (.call (.member value f ctx) [.name r.var ctx', index] [])

theorem recognizes_iff {n : Node} : r.Recognizes n ↔ (r.access? n).isSome := by
  rw [Option.isSome_iff_exists]
  constructor
  · intro h
    cases h with
    | plain hf ctx ctx' index =>
      exact ⟨_, r.access?_eq_some_iff.2 ⟨_, ctx', rfl, rfl, _, rfl, hf⟩⟩
    | member hf value ctx ctx' index =>
      exact ⟨_, r.access?_eq_some_iff.2 ⟨_, ctx', rfl, rfl, _, rfl, hf⟩⟩
  · rintro ⟨⟨target, index⟩, h⟩
    obtain ⟨func, ctx', rfl, -, f, hcalled, hf⟩ := r.access?_eq_some_iff.1 h
    unfold calledName at hcalled
    split at hcalled
    · obtain rfl := Option.some.inj hcalled
      exact .plain hf _ ctx' index
    · obtain rfl := Option.some.inj hcalled
      exact .member hf _ _ ctx' index
    · cases hcalled

instance : DecidablePred r.Recognizes := fun _ => decidable_of_iff _ recognizes_iff.symm

instance : DecidablePred r.IsOpen := fun above =>
  inferInstanceAs (Decidable (∀ s ∈ above, r.shields s.node = false))

/-- **The accesses in the open**: the places of recognized calls that stand in no scope in which
the variable is bound. -/
def openAccesses (r : Rewriter) (n : Node) : List Place :=
  (n.places []).filter fun p => r.IsOpen p.above ∧ r.Recognizes p.node

/-- Where accesses become subscripts, those in the open are replaced. -/
theorem replaces_eq_decide (hform : r.accessor.form = .subscript) (p : Place) :
    r.replaces p = decide (r.IsOpen p.above ∧ r.Recognizes p.node) := by
  have hsome : (r.replacement? p.node).isSome = (r.access? p.node).isSome := by
    unfold replacement? Accessor.replacement?
    rw [hform]
    cases r.access? p.node <;> rfl
  rw [Bool.eq_iff_iff, decide_eq_true_iff, replaces, Bool.and_eq_true, List.all_eq_true, hsome,
    recognizes_iff]
  refine and_congr_left fun _ => forall₂_congr fun s _ => ?_
  rw [Bool.not_eq_true']

/-- **Rewriting a tree changes the accesses in the open**, and counts them. -/
theorem apply_eq_rebuild (hform : r.accessor.form = .subscript) (n : Node) :
    r.apply n = (n.rebuild r.change [], (r.openAccesses n).length) := by
  rw [apply_eq [] n fun _ hs => absurd hs List.not_mem_nil, List.countP_eq_length_filter,
    openAccesses, List.filter_congr fun p _ => replaces_eq_decide hform p]

/-! ## What rewriting brings in -/

section Kinds

variable {q : Kind → Bool}

mutual

/-- No kind of nodes is brought in but that of subscripts. -/
theorem anyKind_of_apply (hform : r.accessor.form = .subscript)
    (hq : q (.subscript .load) = false) :
    (n : Node) → (r.apply n).1.anyKind q → n.anyKind q
  | .mk k slots, h => by
    have hbelow := anyKindSlots_of_applySlots hform hq slots
    rw [apply] at h
    split at h
    · exact h
    · dsimp only at h
      rw [anyKind, Bool.or_eq_true]
      split at h
      · next m hm =>
        obtain ⟨target, index, haccess, rfl⟩ := exists_of_replacement? (.inl hform) hm
        obtain ⟨func, ctx, hcall, rfl, -⟩ := r.access?_eq_some_iff.1 haccess
        rw [(Node.mk.inj hcall).2] at hbelow
        -- the target and the index of the subscript were the arguments of the call
        refine .inr (hbelow ?_)
        simpa [anyKind, anyKindSlots, anyKindList, hq, or_assoc] using Or.inr h
      · rw [anyKind, Bool.or_eq_true] at h
        exact h.imp_right hbelow

theorem anyKindSlots_of_applySlots (hform : r.accessor.form = .subscript)
    (hq : q (.subscript .load) = false) :
    (ss : List (List Node)) → anyKindSlots q (r.applySlots ss).1 → anyKindSlots q ss
  | [], h => h
  | ns :: ss, h => by
    rw [applySlots, anyKindSlots, Bool.or_eq_true] at h
    rw [anyKindSlots, Bool.or_eq_true]
    exact h.imp (anyKindList_of_applyList hform hq ns) (anyKindSlots_of_applySlots hform hq ss)

theorem anyKindList_of_applyList (hform : r.accessor.form = .subscript)
    (hq : q (.subscript .load) = false) :
    (ns : List Node) → anyKindList q (r.applyList ns).1 → anyKindList q ns
  | [], h => h
  | n :: ns, h => by
    rw [applyList, anyKindList, Bool.or_eq_true] at h
    rw [anyKindList, Bool.or_eq_true]
    exact h.imp (anyKind_of_apply hform hq n) (anyKindList_of_applyList hform hq ns)

end

end Kinds

/-- **A scope that is not shielded stays so** when what is below it is rewritten. -/
theorem shields_mk_applySlots (hform : r.accessor.form = .subscript) {k : Kind}
    {slots : List (List Node)} (h : r.shields (.mk k slots) = false) :
    r.shields (.mk k (r.applySlots slots).1) = false := by
  rw [shields, Bool.and_eq_false_iff] at h ⊢
  refine h.imp_right fun hbinds => ?_
  rw [bindsVar, anyKind, Bool.or_eq_false_iff] at hbinds ⊢
  refine hbinds.imp_right fun hbelow => Bool.eq_false_iff.2 fun hrewritten => ?_
  rw [anyKindSlots_of_applySlots hform rfl slots hrewritten] at hbelow
  cases hbelow

/-! ## A second rewriting -/

theorem applyList_eq_self_iff {ns : List Node} :
    r.applyList ns = (ns, 0) ↔ ∀ n ∈ ns, r.apply n = (n, 0) := by
  induction ns with
  | nil => simp [applyList]
  | cons n ns ih =>
    rw [List.forall_mem_cons, ← ih, applyList]
    simp only [Prod.ext_iff, List.cons.injEq, Nat.add_eq_zero_iff, and_and_and_comm]

theorem applySlots_eq_self_iff {ss : List (List Node)} :
    r.applySlots ss = (ss, 0) ↔ ∀ ns ∈ ss, ∀ n ∈ ns, r.apply n = (n, 0) := by
  induction ss with
  | nil => simp [applySlots]
  | cons ns ss ih =>
    rw [List.forall_mem_cons, ← ih, ← applyList_eq_self_iff, applySlots]
    simp only [Prod.ext_iff, List.cons.injEq, Nat.add_eq_zero_iff, and_and_and_comm]

/-- A name is settled. -/
theorem apply_name (id : String) (ctx : Context) : r.apply (.name id ctx) = (.name id ctx, 0) := rfl

/-- A subscript of a name is settled if its index is. -/
theorem apply_subscript {id : String} {ctx ctx' : Context} {index : Node}
    (h : r.apply index = (index, 0)) :
    r.apply (.subscript (.name id ctx) index ctx') = (.subscript (.name id ctx) index ctx', 0) := by
  have hslots : r.applySlots [[.name id ctx], [index]] = ([[.name id ctx], [index]], 0) := by
    simp [applySlots, applyList, apply_name, h]
  rw [apply, if_neg (by simp [shields, Node.kind, Kind.opensScope]), hslots]
  rfl

mutual

/-- **What has been rewritten is settled.** -/
theorem apply_apply (hform : r.accessor.form = .subscript) :
    (n : Node) → r.apply (r.apply n).1 = ((r.apply n).1, 0)
  | .mk k slots => by
    have hslots := applySlots_applySlots hform slots
    by_cases hn : r.shields (.mk k slots)
    · have hsame : r.apply (.mk k slots) = (.mk k slots, 0) := by rw [apply, if_pos hn]
      rw [hsame, hsame]
    · have hn' := shields_mk_applySlots hform (Bool.not_eq_true _ ▸ hn)
      rw [apply, if_neg hn]
      dsimp only
      cases hreplacement : r.replacement? (.mk k (r.applySlots slots).1) with
      | none =>
        dsimp only
        rw [apply, if_neg (Bool.eq_false_iff.1 hn'), hslots]
        dsimp only
        rw [hreplacement]
      | some m =>
        obtain ⟨target, index, haccess, rfl⟩ := exists_of_replacement? (.inl hform) hreplacement
        obtain ⟨func, ctx, hcall, rfl, -⟩ := r.access?_eq_some_iff.1 haccess
        rw [(Node.mk.inj hcall).2, applySlots_eq_self_iff] at hslots
        -- what is put in place of the call is not looked at, but all in it is settled
        exact apply_subscript (hslots [.name r.var ctx, index] (by simp) index (by simp))

theorem applySlots_applySlots (hform : r.accessor.form = .subscript) :
    (ss : List (List Node)) → r.applySlots (r.applySlots ss).1 = ((r.applySlots ss).1, 0)
  | [] => rfl
  | ns :: ss => by
    show r.applySlots ((r.applyList ns).1 :: (r.applySlots ss).1) = _
    rw [applySlots, applyList_applyList hform ns, applySlots_applySlots hform ss]
    rfl

theorem applyList_applyList (hform : r.accessor.form = .subscript) :
    (ns : List Node) → r.applyList (r.applyList ns).1 = ((r.applyList ns).1, 0)
  | [] => rfl
  | n :: ns => by
    show r.applyList ((r.apply n).1 :: (r.applyList ns).1) = _
    rw [applyList, apply_apply hform n, applyList_applyList hform ns]
    rfl

end

/-- **Rewriting is complete, confined and done in one go**, if accesses become subscripts. It
changes the accesses in the open and counts them; none is left, and to rewrite the tree once more
changes nothing. A scope in which the variable is bound is left as it is. What leaves accesses as
they are changes nothing at all. -/
theorem complete_of_apply (r : Rewriter) (hform : r.accessor.form = .subscript) (n : Node) :
    r.apply n = (n.rebuild r.change [], (r.openAccesses n).length) ∧
    r.openAccesses (r.apply n).1 = [] ∧
    r.apply (r.apply n).1 = ((r.apply n).1, 0) ∧
    (∀ s : Node, s.kind.opensScope → s.bindsVar r.var → r.apply s = (s, 0)) ∧
    ∀ a : Accessor, a.form = .keep → { r with accessor := a }.apply n = (n, 0) := by
  refine ⟨apply_eq_rebuild hform n, ?_, apply_apply hform n, fun s hopens hbinds => ?_,
    fun a ha => apply_eq_self fun p _ => replaces_of_keep ha p⟩
  · -- a second rewriting would have counted those that are left
    have hcount := congrArg Prod.snd (apply_eq_rebuild hform (r.apply n).1)
    rw [apply_apply hform] at hcount
    exact List.length_eq_zero_iff.1 hcount.symm
  · obtain ⟨k, slots⟩ := s
    rw [apply, if_pos (by rw [shields, hopens, hbinds]; rfl)]

/-! ## An instance

One access stands in the function of another and a third in its index; a fourth is to the parameter
of a function expression. -/

/-- The list `[elt(s, 0).elt(s, elt(s, 1)), lambda s: elt(s, 2)]`. -/
def nestedAccesses : Node :=
  .list [.call (.member (.call (.load "elt") [.load "s", .constant (.int 0)] []) "elt" .load)
      [.load "s", .call (.load "elt") [.load "s", .constant (.int 1)] []] [],
    .lambda (.arguments [] [.arg "s" []] [] [] [] [] [])
      (.call (.load "elt") [.load "s", .constant (.int 2)] [])] .load

/-- The list `[s[s[1]], lambda s: elt(s, 2)]`. -/
def nestedSubscripts : Node :=
  .list [.subscript (.load "s") (.subscript (.load "s") (.constant (.int 1)) .load) .load,
    .lambda (.arguments [] [.arg "s" []] [] [] [] [] [])
      (.call (.load "elt") [.load "s", .constant (.int 2)] [])] .load

/-- Three accesses are counted, though two subscripts are left of them. -/
theorem complete_of_apply_nested :
    let r : Rewriter := ⟨"s", .arrayIndex, ["elt"]⟩
    r.accessor.form = .subscript ∧ (r.openAccesses nestedAccesses).length = 3 ∧
      r.apply nestedAccesses = (nestedSubscripts, 3) ∧ r.openAccesses nestedSubscripts = [] ∧
      r.apply nestedSubscripts = (nestedSubscripts, 0) ∧
      { r with accessor := .generic }.apply nestedAccesses = (nestedAccesses, 0) := by
  intro r
  have happly : r.apply nestedAccesses = (nestedSubscripts, 3) := rfl
  obtain ⟨hcount, hnone, hagain, -, hkeep⟩ := r.complete_of_apply rfl nestedAccesses
  rw [happly] at hcount hnone hagain
  exact ⟨rfl, (congrArg Prod.snd hcount).symm, happly, hnone, hagain, hkeep .generic rfl⟩

end Rewriter

end Narrowing
