import Narrowing.Access.Rewrite
import Narrowing.Proofs.Code.Place
/-!
# Which accesses are rewritten

The rewriter looks for an access after it has rewritten the arguments, so what it
replaces depends, as it is written, on what it has made so far. It does not in the end:
an access is told by the name called, the variable and the number of arguments, and none
of these is changed by a rewriting below (`Rewriter.access?_mk`). So whether a call is
replaced is settled by its place in the code as it was (`Rewriter.replaces`), and
rewriting is one walk that changes these places and counts them
(`Rewriter.applyList_eq`).
-/

namespace Narrowing

open Code Node

namespace Rewriter

variable (r : Rewriter)

/-! ## Shapes that rewriting keeps -/

/-- What an accessor puts in place of a call is neither a name nor an attribute. -/
theorem calledName_of_replacement? {a : Accessor} {target index n : Node}
    (h : a.replacement? target index = some n) :
    calledName n = none ∧ ∀ id ctx, n ≠ .name id ctx := by
  unfold Accessor.replacement? at h
  cases hform : a.form <;> rw [hform] at h <;> cases h <;> exact ⟨rfl, nofun⟩

theorem applyList_fst (ns : List Node) : (r.applyList ns).1 = ns.map fun n => (r.apply n).1 := by
  induction ns with
  | nil => rfl
  | cons n ns ih => rw [List.map_cons, ← ih]; rfl

theorem applySlots_fst (ss : List (List Node)) :
    (r.applySlots ss).1 = ss.map (List.map fun n => (r.apply n).1) := by
  induction ss with
  | nil => rfl
  | cons s ss ih => rw [List.map_cons, ← ih, ← r.applyList_fst]; rfl

/-- What is replaced is a call. -/
theorem kind_of_access? {n : Node} (h : (r.access? n).isSome) : n.kind = .call := by
  unfold access? at h
  split at h
  · rfl
  · cases h

/-- A node stays, is replaced, or keeps its kind. -/
theorem apply_cases (n : Node) :
    (r.apply n).1 = n ∨ (r.apply n).1 = .mk n.kind (r.applySlots n.slots).1 ∨
      n.kind = .call ∧ ∃ target index, r.accessor.replacement? target index = some (r.apply n).1 := by
  obtain ⟨k, slots⟩ := n
  rw [apply]
  split
  · exact .inl rfl
  · dsimp only [kind, Node.slots]
    rcases h : r.replacement? (.mk k (r.applySlots slots).1) with _ | m
    · exact .inr (.inl rfl)
    · unfold replacement? at h
      split at h
      · next target index haccess =>
        have hk := r.kind_of_access? (Option.isSome_of_eq_some haccess)
        exact .inr (.inr ⟨hk, target, index, h⟩)
      · cases h

/-- The name that is called does not change. -/
theorem calledName_apply (n : Node) : calledName (r.apply n).1 = calledName n := by
  rcases r.apply_cases n with h | h | ⟨hkind, target, index, h⟩
  · rw [h]
  · rw [h]
    obtain ⟨k, slots⟩ := n
    dsimp only [kind, Node.slots]
    rcases slots with _ | ⟨_ | ⟨v, _ | ⟨w, ns⟩⟩, _ | ⟨s, ss⟩⟩ <;> cases k <;> rfl
  · rw [(calledName_of_replacement? h).1]
    obtain ⟨k, slots⟩ := n
    obtain rfl : k = .call := hkind
    rfl

/-- A name is what only a name becomes. -/
theorem apply_eq_name_iff {n : Node} {id : String} {ctx : Context} :
    (r.apply n).1 = .name id ctx ↔ n = .name id ctx := by
  constructor
  · intro hname
    rcases r.apply_cases n with h | h | ⟨hkind, target, index, h⟩
    · rw [← h, hname]
    · rw [h] at hname
      obtain ⟨k, slots⟩ := n
      obtain ⟨hk, hslots⟩ := Node.mk.inj hname
      obtain rfl : k = .name id ctx := hk
      rcases slots with _ | ⟨s, ss⟩
      · rfl
      · cases hslots
    · exact absurd hname ((calledName_of_replacement? h).2 id ctx)
  · rintro rfl
    rfl

/-- **What an access is.** -/
theorem access?_eq_some_iff {n target index : Node} :
    r.access? n = some (target, index) ↔
      ∃ func ctx, n = .call func [.name r.var ctx, index] [] ∧ target = .name r.var ctx ∧
        ∃ f, calledName func = some f ∧ f ∈ r.names := by
  constructor
  · intro h
    unfold access? at h
    split at h
    · next func id ctx i =>
      split at h
      · next f hf =>
        split at h
        · next hcond =>
          obtain ⟨rfl, rfl⟩ := Prod.mk.inj (Option.some.inj h)
          obtain ⟨hmem, rfl⟩ : f ∈ r.names ∧ id = r.var := by simpa using hcond
          exact ⟨func, ctx, rfl, rfl, f, hf, hmem⟩
        · cases h
      · cases h
    · cases h
  · rintro ⟨func, ctx, rfl, rfl, f, hf, hmem⟩
    rw [access?, hf]
    exact if_pos (by simp [hmem])

/-- A call of two arguments, the first of which is a name, is what only such a call
becomes. -/
theorem mk_eq_call_iff {k : Kind} {slots : List (List Node)} {func index : Node} {id : String}
    {ctx : Context} :
    Node.mk k (r.applySlots slots).1 = .call func [.name id ctx, index] [] ↔
      ∃ f i, Node.mk k slots = .call f [.name id ctx, i] [] ∧ func = (r.apply f).1 ∧
        index = (r.apply i).1 := by
  simp only [Node.mk.injEq, applySlots_fst, List.map_eq_cons_iff, List.map_eq_nil_iff,
    apply_eq_name_iff]
  constructor
  · rintro ⟨rfl, _, _, rfl, ⟨f, _, rfl, rfl, rfl⟩, _, _, rfl, ⟨_, _, rfl, rfl, i, _, rfl, rfl, rfl⟩,
      _, _, rfl, rfl, rfl⟩
    exact ⟨f, i, ⟨rfl, rfl⟩, rfl, rfl⟩
  · rintro ⟨f, i, ⟨rfl, rfl⟩, rfl, rfl⟩
    exact ⟨rfl, _, _, rfl, ⟨f, _, rfl, rfl, rfl⟩, _, _, rfl,
      ⟨_, _, rfl, rfl, i, _, rfl, rfl, rfl⟩, _, _, rfl, rfl, rfl⟩

/-- **Whether a node is an access does not change** with what is rewritten below it. -/
theorem access?_mk (k : Kind) (slots : List (List Node)) :
    r.access? (.mk k (r.applySlots slots).1) =
      (r.access? (.mk k slots)).map fun (target, index) => (target, (r.apply index).1) := by
  refine Option.ext fun parts => ?_
  obtain ⟨target, index⟩ := parts
  rw [Option.map_eq_some_iff]
  constructor
  · intro h
    obtain ⟨_, ctx, hcall, rfl, f, hf, hmem⟩ := r.access?_eq_some_iff.1 h
    obtain ⟨func, i, heq, rfl, rfl⟩ := r.mk_eq_call_iff.1 hcall
    rw [r.calledName_apply] at hf
    exact ⟨(_, i), r.access?_eq_some_iff.2 ⟨func, ctx, heq, rfl, f, hf, hmem⟩, rfl⟩
  · rintro ⟨⟨_, i⟩, h, rfl, rfl⟩
    obtain ⟨func, ctx, heq, rfl, f, hf, hmem⟩ := r.access?_eq_some_iff.1 h
    refine r.access?_eq_some_iff.2
      ⟨_, ctx, r.mk_eq_call_iff.2 ⟨func, i, heq, rfl, rfl⟩, rfl, f, ?_, hmem⟩
    rw [r.calledName_apply, hf]

/-- Whether a call is replaced does not change either. -/
theorem isSome_replacement?_mk (k : Kind) (slots : List (List Node)) :
    (r.replacement? (.mk k (r.applySlots slots).1)).isSome =
      (r.replacement? (.mk k slots)).isSome := by
  unfold replacement?
  rw [r.access?_mk]
  cases r.access? (.mk k slots) with
  | none => rfl
  | some parts =>
    obtain ⟨target, index⟩ := parts
    dsimp only [Option.map]
    unfold Accessor.replacement?
    cases r.accessor.form <;> rfl

/-! ## Rewriting by places -/

/-- **Whether the call at a place is replaced**: it is an access to the variable, the
accessor puts something in its place, and no node above it is a scope that shields it. -/
def replaces (p : Place) : Bool :=
  (p.above.all fun s => !r.shields s.node) && (r.replacement? p.node).isSome

/-- What a node at a place becomes, once those below it have been rewritten. -/
def change (p : Place) (n : Node) : Node :=
  if r.replaces p then (r.replacement? n).getD n else n

variable {r}

/-- What replaces a node is a subscript, if that is the form of the accessor. -/
theorem exists_of_replacement? (hform : r.accessor.form = .subscript ∨ r.accessor.form = .keep)
    {n m : Node} (h : r.replacement? n = some m) :
    ∃ target index, r.access? n = some (target, index) ∧ m = .subscript target index .load := by
  unfold replacement? at h
  split at h
  · next target index haccess =>
    unfold Accessor.replacement? at h
    rcases hform with hform | hform
    · rw [hform] at h
      exact ⟨target, index, haccess, (Option.some.inj h).symm⟩
    · rw [hform] at h
      cases h
  · cases h

/-- What leaves accesses as they are replaces none. -/
theorem replaces_of_keep (hform : r.accessor.form = .keep) (p : Place) : r.replaces p = false := by
  have hnone : r.replacement? p.node = none := by
    unfold replacement? Accessor.replacement?
    rw [hform]
    split <;> rfl
  rw [replaces, hnone]
  exact Bool.and_false _

/-- Where something is replaced, the form is that of subscripts. -/
theorem form_of_replaces (hform : r.accessor.form = .subscript ∨ r.accessor.form = .keep) {p : Place}
    (h : r.replaces p) : r.accessor.form = .subscript :=
  hform.resolve_right fun hkeep => by
    rw [replaces_of_keep hkeep] at h
    cases h

/-- Below a scope that is shielded nothing is replaced. -/
theorem replaces_eq_false {p : Place} {s : Step} (hs : s ∈ p.above) (h : r.shields s.node) :
    r.replaces p = false := by
  unfold replaces
  rw [Bool.and_eq_false_iff, List.all_eq_false]
  exact .inl ⟨s, hs, by simp [h]⟩

theorem change_eq_self {p : Place} (h : r.replaces p = false) (n : Node) : r.change p n = n := by
  rw [change, h]
  rfl

/-- What shields is a scope, and a scope is no call. -/
theorem replacement?_of_shields {n : Node} (h : r.shields n) : r.replacement? n = none := by
  have hscope : n.kind.opensScope := (Bool.and_eq_true_iff.1 h).1
  cases haccess : r.access? n with
  | none => rw [replacement?, haccess]
  | some parts =>
    rw [r.kind_of_access? (Option.isSome_of_eq_some haccess)] at hscope
    cases hscope

/-- A way down that meets no shielded scope. -/
def IsOpen (r : Rewriter) (above : List Step) : Prop := ∀ s ∈ above, r.shields s.node = false

theorem IsOpen.cons {above : List Step} {s : Step} (hs : r.shields s.node = false)
    (h : r.IsOpen above) : r.IsOpen (s :: above) := List.forall_mem_cons.2 ⟨hs, h⟩

theorem replaces_of_isOpen {above : List Step} (h : r.IsOpen above) (n : Node) :
    r.replaces ⟨above, n⟩ = (r.replacement? n).isSome := by
  have : (above.all fun s => !r.shields s.node) = true :=
    List.all_eq_true.2 fun s hs => by rw [h s hs]; rfl
  rw [replaces, this, Bool.true_and]

/-- A shielded scope is left as it is, and so is all below it. -/
theorem replaces_of_shields {above : List Step} {n : Node} (hn : r.shields n) :
    ∀ p ∈ n.places above, r.replaces p = false := by
  intro p hp
  rcases eq_or_exists_of_mem_places hp with rfl | ⟨s, hs, rfl⟩
  · rw [replaces, replacement?_of_shields hn]
    exact Bool.and_false _
  · exact replaces_eq_false hs hn

mutual

theorem apply_eq : (above : List Step) → (n : Node) → r.IsOpen above →
    r.apply n = (n.rebuild r.change above, (n.places above).countP r.replaces)
  | above, .mk k slots, h => by
    by_cases hn : r.shields (.mk k slots)
    · have hnone : ∀ p ∈ (Node.mk k slots).places above, r.replaces p = false :=
        replaces_of_shields hn
      rw [apply, if_pos hn,
        rebuild_eq_self above _ fun p hp => change_eq_self (hnone p hp),
        List.countP_eq_zero.2 fun p hp => by simp [hnone p hp]]
    · have hopen : ∀ i j, r.IsOpen (⟨.mk k slots, i, j⟩ :: above) :=
        fun i j => h.cons (s := ⟨.mk k slots, i, j⟩) (Bool.eq_false_iff.2 hn)
      have hbelow := applySlots_eq (fun i j => ⟨.mk k slots, i, j⟩ :: above) slots hopen
      have hsome := r.isSome_replacement?_mk k slots
      rw [apply, if_neg hn, places, List.countP_cons, rebuild, change, replaces_of_isOpen h,
        ← hsome]
      rw [hbelow] at hsome ⊢
      dsimp only
      cases r.replacement? (.mk k (rebuildSlots r.change _ slots)) <;> rfl

theorem applySlots_eq : (way : Nat → Nat → List Step) → (ss : List (List Node)) →
    (∀ i j, r.IsOpen (way i j)) →
      r.applySlots ss = (rebuildSlots r.change way ss, (placesOfSlots way ss).countP r.replaces)
  | _, [], _ => rfl
  | way, ns :: ss, h => by
    rw [applySlots, applyList_eq (way 0) ns (h 0), applySlots_eq _ ss fun i => h (i + 1),
      placesOfSlots, List.countP_append]
    rfl

theorem applyList_eq : (way : Nat → List Step) → (ns : List Node) →
    (∀ j, r.IsOpen (way j)) →
      r.applyList ns = (rebuildAll r.change way ns, (placesOfAll way ns).countP r.replaces)
  | _, [], _ => rfl
  | way, n :: ns, h => by
    rw [applyList, apply_eq (way 0) n (h 0), applyList_eq _ ns fun j => h (j + 1),
      placesOfAll, List.countP_append]
    rfl

end

/-- Where no place is replaced a tree stays as it is. -/
theorem apply_eq_self {n : Node} (h : ∀ p ∈ n.places [], r.replaces p = false) :
    r.apply n = (n, 0) := by
  rw [apply_eq [] n (fun _ hs => absurd hs List.not_mem_nil),
    rebuild_eq_self [] n fun p hp => change_eq_self (h p hp),
    List.countP_eq_zero.2 fun p hp => by simp [h p hp]]

/-- **Rewriting a body changes the places that are replaced**, and counts them. -/
theorem applyList_body (r : Rewriter) (body : List Node) :
    r.applyList body =
      (rebuildBody r.change body, (placesOfBody body).countP r.replaces) :=
  applyList_eq _ body fun _ _ hs => absurd hs List.not_mem_nil

end Rewriter

end Narrowing
