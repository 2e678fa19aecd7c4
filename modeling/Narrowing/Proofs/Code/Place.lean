import Mathlib.Data.List.Forall2
import Narrowing.Code.Node
/-!
# Places in code

A **place** is a node together with the way down to it. What is said of a name in
code is said of a place, since the same node stands for different things below
different scopes: the way down tells which.

`Node.places` lists the places of a tree, a node before those below it, and
`Node.rebuild` makes a tree anew, changing each node as its place says after those
below it have been changed. The trees of a list are walked with the way to each of
them, so that the statements of a body, which hang on no node, are walked as the
children of a node are.
-/

namespace Narrowing.Code

/-- **One step down**: from a node, through a slot, to the child at an index. -/
structure Step where
  /-- The node above. -/
  node : Node
  /-- The slot. -/
  slot : Nat
  /-- The index in the slot. -/
  index : Nat

/-- **A node and the way down to it.** -/
structure Place where
  /-- The steps, the last one first. -/
  above : List Step
  /-- The node. -/
  node : Node

namespace Node

mutual

/-- **The places of a tree** to which some steps lead down. -/
def places (above : List Step) : Node → List Place
  | .mk k slots =>
    ⟨above, .mk k slots⟩ :: placesOfSlots (fun i j => ⟨.mk k slots, i, j⟩ :: above) slots

/-- The places below some slots, with the way to each child. -/
def placesOfSlots (way : Nat → Nat → List Step) : List (List Node) → List Place
  | [] => []
  | s :: ss => placesOfAll (way 0) s ++ placesOfSlots (fun i => way (i + 1)) ss

/-- The places of a list of trees, with the way to each of them. -/
def placesOfAll (way : Nat → List Step) : List Node → List Place
  | [] => []
  | n :: ns => places (way 0) n ++ placesOfAll (fun j => way (j + 1)) ns

end

/-- **The places of a body**, to whose statements no step leads. -/
abbrev placesOfBody (body : List Node) : List Place := placesOfAll (fun _ => []) body

mutual

/-- **Makes a tree anew**: each node, with what has become of those below it, is
changed as its place says. -/
def rebuild (f : Place → Node → Node) (above : List Step) : Node → Node
  | .mk k slots =>
    f ⟨above, .mk k slots⟩
      (.mk k (rebuildSlots f (fun i j => ⟨.mk k slots, i, j⟩ :: above) slots))

/-- Makes the trees of some slots anew. -/
def rebuildSlots (f : Place → Node → Node) (way : Nat → Nat → List Step) :
    List (List Node) → List (List Node)
  | [] => []
  | s :: ss => rebuildAll f (way 0) s :: rebuildSlots f (fun i => way (i + 1)) ss

/-- Makes a list of trees anew. -/
def rebuildAll (f : Place → Node → Node) (way : Nat → List Step) : List Node → List Node
  | [] => []
  | n :: ns => rebuild f (way 0) n :: rebuildAll f (fun j => way (j + 1)) ns

end

/-- **Makes a body anew.** -/
abbrev rebuildBody (f : Place → Node → Node) (body : List Node) : List Node :=
  rebuildAll f (fun _ => []) body

/-- **Induction over trees**: what a node inherits from those directly below it holds of
all nodes. -/
@[elab_as_elim]
theorem induction {P : Node → Prop}
    (mk : ∀ k slots, (∀ ns ∈ slots, ∀ n ∈ ns, P n) → P (.mk k slots)) : ∀ n, P n
  | .mk k slots => mk k slots fun ns (_ : ns ∈ slots) n (_ : n ∈ ns) => induction mk n
termination_by n => sizeOf n
decreasing_by
  have := List.sizeOf_lt_of_mem ‹ns ∈ slots›
  have := List.sizeOf_lt_of_mem ‹n ∈ ns›
  simp only [Node.mk.sizeOf_spec]
  omega

/-! ## The way down -/

/-- The node directly below, through a slot at an index. -/
def child? (n : Node) (i j : Nat) : Option Node := n.slots[i]?.bind (·[j]?)

variable {p : Place} {n : Node} {above : List Step}

theorem mem_of_child? {k : Kind} {slots : List (List Node)} {i j : Nat} {c : Node}
    (h : (mk k slots).child? i j = some c) : ∃ ns ∈ slots, c ∈ ns := by
  obtain ⟨ns, hns, hc⟩ := Option.bind_eq_some_iff.1 h
  exact ⟨ns, List.mem_of_getElem? hns, List.mem_of_getElem? hc⟩

theorem exists_child? {k : Kind} {slots : List (List Node)} {ns : List Node} {c : Node}
    (hns : ns ∈ slots) (hc : c ∈ ns) : ∃ i j, (mk k slots).child? i j = some c := by
  obtain ⟨i, hi⟩ := List.getElem?_of_mem hns
  obtain ⟨j, hj⟩ := List.getElem?_of_mem hc
  exact ⟨i, j, Option.bind_eq_some_iff.2 ⟨ns, hi, hj⟩⟩

theorem mem_placesOfAll {way : Nat → List Step} {ns : List Node} :
    p ∈ placesOfAll way ns ↔ ∃ j, ∃ c : Node, ns[j]? = some c ∧ p ∈ c.places (way j) := by
  induction ns generalizing way with
  | nil => simp [placesOfAll]
  | cons n ns ih =>
    rw [placesOfAll, List.mem_append, ih]
    constructor
    · rintro (h | ⟨j, c, hc, h⟩)
      · exact ⟨0, n, rfl, h⟩
      · exact ⟨j + 1, c, hc, h⟩
    · rintro ⟨_ | j, c, hc, h⟩
      · exact .inl (Option.some.inj hc ▸ h)
      · exact .inr ⟨j, c, hc, h⟩

theorem mem_placesOfSlots {way : Nat → Nat → List Step} {ss : List (List Node)} :
    p ∈ placesOfSlots way ss ↔ ∃ i ns, ss[i]? = some ns ∧ p ∈ placesOfAll (way i) ns := by
  induction ss generalizing way with
  | nil => simp [placesOfSlots]
  | cons s ss ih =>
    rw [placesOfSlots, List.mem_append, ih]
    constructor
    · rintro (h | ⟨i, ns, hns, h⟩)
      · exact ⟨0, s, rfl, h⟩
      · exact ⟨i + 1, ns, hns, h⟩
    · rintro ⟨_ | i, ns, hns, h⟩
      · exact .inl (Option.some.inj hns ▸ h)
      · exact .inr ⟨i, ns, hns, h⟩

/-- **A place of a tree** is the tree or one of a child of it. -/
theorem mem_places :
    p ∈ n.places above ↔
      p = ⟨above, n⟩ ∨ ∃ i j c, n.child? i j = some c ∧ p ∈ c.places (⟨n, i, j⟩ :: above) := by
  obtain ⟨k, slots⟩ := n
  rw [places, List.mem_cons, mem_placesOfSlots]
  refine or_congr_right ⟨?_, ?_⟩
  · rintro ⟨i, ns, hns, h⟩
    obtain ⟨j, c, hc, hp⟩ := mem_placesOfAll.1 h
    exact ⟨i, j, c, Option.bind_eq_some_iff.2 ⟨ns, hns, hc⟩, hp⟩
  · rintro ⟨i, j, c, hchild, hp⟩
    obtain ⟨ns, hns, hc⟩ := Option.bind_eq_some_iff.1 hchild
    exact ⟨i, ns, hns, mem_placesOfAll.2 ⟨j, c, hc, hp⟩⟩

/-- A place of a body is one of a statement of it. -/
theorem mem_placesOfBody {body : List Node} :
    p ∈ placesOfBody body ↔ ∃ n ∈ body, p ∈ n.places [] := by
  rw [mem_placesOfAll]
  constructor
  · rintro ⟨j, c, hc, h⟩
    exact ⟨c, List.mem_of_getElem? hc, h⟩
  · rintro ⟨n, hn, h⟩
    obtain ⟨j, hj⟩ := List.getElem?_of_mem hn
    exact ⟨j, n, hj, h⟩

theorem self_mem_places (above : List Step) (n : Node) : ⟨above, n⟩ ∈ n.places above :=
  mem_places.2 (.inl rfl)

/-- A child is a place of the tree. -/
theorem child_mem_places {i j : Nat} {c : Node} (h : n.child? i j = some c) :
    c.places (⟨n, i, j⟩ :: above) ⊆ n.places above :=
  fun _ hp => mem_places.2 (.inr ⟨i, j, c, h, hp⟩)

/-- The way to a place below goes on from the way to the tree. -/
theorem above_suffix_of_mem_places (h : p ∈ n.places above) : above <:+ p.above := by
  induction n using induction generalizing above with
  | mk k slots ih =>
    obtain rfl | ⟨i, j, c, hchild, hp⟩ := mem_places.1 h
    · exact List.suffix_refl _
    · obtain ⟨ns, hns, hc⟩ := mem_of_child? hchild
      have hsuffix := ih ns hns c hc hp
      exact (List.suffix_cons _ _).trans hsuffix

/-- A place of a tree is the tree or below it. -/
theorem eq_or_exists_of_mem_places (h : p ∈ n.places above) :
    p = ⟨above, n⟩ ∨ ∃ s ∈ p.above, s.node = n := by
  refine (mem_places.1 h).imp_right ?_
  rintro ⟨i, j, c, -, hp⟩
  exact ⟨_, (above_suffix_of_mem_places hp).mem List.mem_cons_self, rfl⟩

/-- **The places of a subtree** are places of the tree. -/
theorem places_subset_of_mem_places {q : Place} (h : q ∈ n.places above) :
    q.node.places q.above ⊆ n.places above := by
  induction n using induction generalizing above with
  | mk k slots ih =>
    obtain rfl | ⟨i, j, c, hchild, hq⟩ := mem_places.1 h
    · exact List.Subset.refl _
    · obtain ⟨ns, hns, hc⟩ := mem_of_child? hchild
      have hsubset := ih ns hns c hc hq
      exact List.Subset.trans hsubset (child_mem_places hchild)

/-- **Every step of the way down starts at a place**, and goes to a child there, below
which the way goes on. -/
theorem mem_places_of_suffix {s : Step} {rest : List Step} (h : p ∈ n.places above)
    (hstep : s :: rest <:+ p.above) (hrest : above <:+ rest) :
    ⟨rest, s.node⟩ ∈ n.places above ∧
      ∃ c, s.node.child? s.slot s.index = some c ∧ p ∈ c.places (s :: rest) := by
  induction n using induction generalizing above with
  | mk k slots ih =>
    obtain rfl | ⟨i, j, c, hchild, hp⟩ := mem_places.1 h
    · exact absurd (hstep.trans hrest).length_le (by simp)
    · have hway := above_suffix_of_mem_places hp
      by_cases hlength : rest.length = above.length
      · -- the step is the first one down from the tree
        obtain rfl := hrest.eq_of_length hlength.symm
        obtain ⟨rfl, -⟩ := List.cons.inj
          ((List.suffix_of_suffix_length_le hstep hway (by simp)).eq_of_length (by simp))
        exact ⟨self_mem_places _ _, c, hchild, hp⟩
      · obtain ⟨ns, hns, hc⟩ := mem_of_child? hchild
        have hlt : above.length < rest.length :=
          Nat.lt_of_le_of_ne hrest.length_le (Ne.symm hlength)
        have hbelow := ih ns hns c hc hp
          (List.suffix_of_suffix_length_le hway ((List.suffix_cons _ _).trans hstep) hlt)
        exact ⟨child_mem_places hchild hbelow.1, hbelow.2⟩

/-- The same below the statements of a body, to which no step leads. -/
theorem mem_placesOfBody_of_suffix {body : List Node} {s : Step} {rest : List Step}
    (h : p ∈ placesOfBody body) (hstep : s :: rest <:+ p.above) :
    ⟨rest, s.node⟩ ∈ placesOfBody body ∧
      ∃ c, s.node.child? s.slot s.index = some c ∧ p ∈ c.places (s :: rest) := by
  obtain ⟨n, hn, hp⟩ := mem_placesOfBody.1 h
  obtain ⟨hplace, hchild⟩ := mem_places_of_suffix hp hstep List.nil_suffix
  exact ⟨mem_placesOfBody.2 ⟨n, hn, hplace⟩, hchild⟩

/-- **What a place hangs on** is a place as well, and the place is a child there. -/
theorem child?_eq_of_mem_placesOfBody {body : List Node} {s : Step} {rest : List Step}
    (h : ⟨s :: rest, n⟩ ∈ placesOfBody body) :
    ⟨rest, s.node⟩ ∈ placesOfBody body ∧ s.node.child? s.slot s.index = some n := by
  obtain ⟨hplace, c, hchild, hp⟩ := mem_placesOfBody_of_suffix h (List.suffix_refl _)
  refine ⟨hplace, ?_⟩
  rcases mem_places.1 hp with hself | ⟨i, j, d, -, hbelow⟩
  · rw [hchild, (Place.mk.inj hself).2]
  · exact absurd (above_suffix_of_mem_places hbelow).length_le (by simp)

theorem places_subset_of_mem_placesOfBody {body : List Node} {q : Place}
    (h : q ∈ placesOfBody body) : q.node.places q.above ⊆ placesOfBody body := by
  obtain ⟨n, hn, hq⟩ := mem_placesOfBody.1 h
  exact fun p hp => mem_placesOfBody.2 ⟨n, hn, places_subset_of_mem_places hq hp⟩

/-! ## Kinds that occur -/

section Kinds

variable {q : Kind → Bool}

theorem anyKindList_iff {ns : List Node} : anyKindList q ns ↔ ∃ n ∈ ns, n.anyKind q := by
  induction ns with
  | nil => simp [anyKindList]
  | cons n ns ih => simp [anyKindList, ih]

theorem anyKindList_append (ms ns : List Node) :
    anyKindList q (ms ++ ns) = (anyKindList q ms || anyKindList q ns) := by
  induction ms with
  | nil => rfl
  | cons m ms ih => rw [List.cons_append, anyKindList, anyKindList, ih, Bool.or_assoc]

theorem anyKindSlots_iff {ss : List (List Node)} :
    anyKindSlots q ss ↔ ∃ ns ∈ ss, anyKindList q ns := by
  induction ss with
  | nil => simp [anyKindSlots]
  | cons ns ss ih => simp [anyKindSlots, ih]

/-- **A kind occurs in a tree** at some place. -/
theorem anyKind_iff (above : List Step) :
    n.anyKind q ↔ ∃ p ∈ n.places above, q p.node.kind := by
  induction n using induction generalizing above with
  | mk k slots ih =>
    rw [anyKind, Bool.or_eq_true, anyKindSlots_iff]
    constructor
    · rintro (h | ⟨ns, hns, h⟩)
      · exact ⟨_, self_mem_places above _, h⟩
      · obtain ⟨c, hc, h⟩ := anyKindList_iff.1 h
        obtain ⟨i, j, hchild⟩ := exists_child? (k := k) hns hc
        obtain ⟨p, hp, hq⟩ := (ih ns hns c hc _).1 h
        exact ⟨p, child_mem_places hchild hp, hq⟩
    · rintro ⟨p, hp, hq⟩
      obtain rfl | ⟨i, j, c, hchild, hp⟩ := mem_places.1 hp
      · exact .inl hq
      · obtain ⟨ns, hns, hc⟩ := mem_of_child? hchild
        exact .inr ⟨ns, hns, anyKindList_iff.2 ⟨c, hc, (ih ns hns c hc _).2 ⟨p, hp, hq⟩⟩⟩

/-- A kind occurs in a body at some place. -/
theorem anyKindList_iff_exists_place {body : List Node} :
    anyKindList q body ↔ ∃ p ∈ placesOfBody body, q p.node.kind := by
  rw [anyKindList_iff]
  constructor
  · rintro ⟨n, hn, h⟩
    obtain ⟨p, hp, hq⟩ := (anyKind_iff []).1 h
    exact ⟨p, mem_placesOfBody.2 ⟨n, hn, hp⟩, hq⟩
  · rintro ⟨p, hp, hq⟩
    obtain ⟨n, hn, hp⟩ := mem_placesOfBody.1 hp
    exact ⟨n, hn, (anyKind_iff []).2 ⟨p, hp, hq⟩⟩

/-- What occurs nowhere in a body does not occur below a place of it. -/
theorem anyKind_eq_false_of_mem_placesOfBody {body : List Node} (h : anyKindList q body = false)
    (hp : p ∈ placesOfBody body) : p.node.anyKind q = false := by
  refine Bool.eq_false_iff.2 fun hany => Bool.eq_false_iff.1 h ?_
  obtain ⟨p', hp', hq⟩ := (anyKind_iff p.above).1 hany
  exact anyKindList_iff_exists_place.2 ⟨p', places_subset_of_mem_placesOfBody hp hp', hq⟩

end Kinds

/-! ## Trees that stay -/

variable {f : Place → Node → Node}

mutual

/-- What changes no place of a tree leaves the tree as it is. -/
theorem rebuild_eq_self (above : List Step) :
    (n : Node) → (∀ p ∈ n.places above, ∀ m, f p m = m) → n.rebuild f above = n
  | .mk k slots, h => by
    rw [rebuild, h _ List.mem_cons_self,
      rebuildSlots_eq_self _ slots fun p hp => h p (List.mem_cons_of_mem _ hp)]

theorem rebuildSlots_eq_self (way : Nat → Nat → List Step) :
    (ss : List (List Node)) → (∀ p ∈ placesOfSlots way ss, ∀ m, f p m = m) →
      rebuildSlots f way ss = ss
  | [], _ => rfl
  | ns :: ss, h => by
    rw [rebuildSlots, rebuildAll_eq_self (way 0) ns fun p hp => h p (List.mem_append_left _ hp),
      rebuildSlots_eq_self _ ss fun p hp => h p (List.mem_append_right _ hp)]

theorem rebuildAll_eq_self (way : Nat → List Step) :
    (ns : List Node) → (∀ p ∈ placesOfAll way ns, ∀ m, f p m = m) → rebuildAll f way ns = ns
  | [], _ => rfl
  | n :: ns, h => by
    rw [rebuildAll, rebuild_eq_self (way 0) n fun p hp => h p (List.mem_append_left _ hp),
      rebuildAll_eq_self _ ns fun p hp => h p (List.mem_append_right _ hp)]

end

/-! ## Trees made anew, one by one -/

section

variable {R : Node → Node → Prop} (h : ∀ above n, R n (rebuild f above n))
include h

/-- What a tree made anew has to do with the tree, the trees of a list have to do with each other, -/
theorem forall₂_rebuildAll (way : Nat → List Step) (ns : List Node) :
    List.Forall₂ R ns (rebuildAll f way ns) := by
  induction ns generalizing way with
  | nil => exact .nil
  | cons n ns ih => exact .cons (h _ n) (ih _)

/-- and those of some slots. -/
theorem forall₂_rebuildSlots (way : Nat → Nat → List Step) (ss : List (List Node)) :
    List.Forall₂ (List.Forall₂ R) ss (rebuildSlots f way ss) := by
  induction ss generalizing way with
  | nil => exact .nil
  | cons ns ss ih => exact .cons (forall₂_rebuildAll h _ ns) (ih _)

end

end Node

end Narrowing.Code
