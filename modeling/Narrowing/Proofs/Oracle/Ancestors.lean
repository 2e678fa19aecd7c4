import Narrowing.Oracle.Hierarchy
import Narrowing.Proofs.Equality
import Mathlib.Data.List.Perm.Subperm
import Mathlib.Data.List.Nodup
/-!
# What the search for ancestors finds

The ancestors of a name are exactly the names reached from it along parents
(`Hierarchy.contains_ancestors_iff`), whatever the declaration looks like: it may
be cyclic and mention names that it does not declare. Names count up to equality.

The search follows one name per round and has as many rounds as there can be names.
Its state is described by `Hierarchy.Searching`: what was seen is either still to be
followed or has all its parents among what was seen; and there are rounds enough
left, since every round but one per name seen is still to come.
-/

namespace Narrowing

/-! ## Lists without equal entries -/

section Distinct

variable {β : Type} [BEq β]

/-- No entry of a list equals a later one. -/
def Distinct (l : List β) : Prop := l.Pairwise fun a b => (a == b) = false

variable [EquivBEq β]

/-- A list without equal entries is no longer than one in which each of them has an
equal. -/
theorem Distinct.length_le {l m : List β} (hl : Distinct l)
    (hm : ∀ a ∈ l, ∃ b ∈ m, (a == b) = true) : l.length ≤ m.length := by
  have hlt : ∀ a ∈ l, m.findIdx (a == ·) < m.length := fun a ha =>
    List.findIdx_lt_length_of_exists (hm a ha)
  have hnodup : (l.map fun a => m.findIdx (a == ·)).Nodup := by
    refine List.pairwise_map.2 ((List.Pairwise.imp_of_mem ?_) hl)
    intro a b ha hb hab heq
    -- two entries with one equal would be equal
    have hia := List.findIdx_getElem (w := hlt a ha)
    have hib := List.findIdx_getElem (w := hlt b hb)
    simp only [heq] at hia
    rw [BEq.trans hia (BEq.symm hib)] at hab
    cases hab
  have hsub : (l.map fun a => m.findIdx (a == ·)) ⊆ List.range m.length := by
    intro i hi
    obtain ⟨a, ha, rfl⟩ := List.mem_map.1 hi
    exact List.mem_range.2 (hlt a ha)
  simpa using (hnodup.subperm hsub).length_le

omit [EquivBEq β] in
/-- Induction along the removal of repeated entries. -/
theorem filter_induction {P : List β → Prop} (nil : P [])
    (cons : ∀ b l, P (l.filter fun c => !c == b) → P (b :: l)) (l : List β) : P l := by
  induction hn : l.length using Nat.strongRecOn generalizing l with
  | ind n ih =>
    cases l with
    | nil => exact nil
    | cons b l =>
      have hle := List.length_filter_le (fun c => !c == b) l
      rw [List.length_cons] at hn
      exact cons b l (ih _ (by omega) _ rfl)

omit [EquivBEq β] in
theorem mem_of_mem_eraseDups {l : List β} {a : β} (h : a ∈ l.eraseDups) : a ∈ l := by
  induction l using filter_induction with
  | nil => exact h
  | cons b l ih =>
    rw [List.eraseDups_cons] at h
    rcases List.mem_cons.1 h with rfl | h
    · exact List.mem_cons_self
    · exact List.mem_cons_of_mem b (List.mem_of_mem_filter (ih h))

theorem exists_mem_eraseDups {l : List β} {a : β} (h : a ∈ l) :
    ∃ b ∈ l.eraseDups, (a == b) = true := by
  induction l using filter_induction with
  | nil => exact absurd h List.not_mem_nil
  | cons b l ih =>
    rw [List.eraseDups_cons]
    by_cases hab : (a == b) = true
    · exact ⟨b, List.mem_cons_self, hab⟩
    · have hmem : a ∈ l.filter fun c => !c == b := by
        rcases List.mem_cons.1 h with rfl | h
        · exact absurd BEq.rfl hab
        · exact List.mem_filter.2 ⟨h, by simpa using hab⟩
      obtain ⟨c, hc, hac⟩ := ih hmem
      exact ⟨c, List.mem_cons_of_mem b hc, hac⟩

theorem distinct_eraseDups (l : List β) : Distinct l.eraseDups := by
  induction l using filter_induction with
  | nil => exact List.Pairwise.nil
  | cons b l ih =>
    rw [List.eraseDups_cons]
    refine List.pairwise_cons.2 ⟨fun c hc => ?_, ih⟩
    have hcb := (List.mem_filter.1 (mem_of_mem_eraseDups hc)).2
    rw [BEq.comm]
    simpa using hcb

end Distinct

namespace Hierarchy

variable {β : Type} [BEq β]

/-- **Reached along parents**, where equal names are one. -/
inductive Reaches (h : Hierarchy β) : β → β → Prop where
  | same {x y : β} (e : (x == y) = true) : Reaches h x y
  | parent {x p y : β} (hp : p ∈ h.parentsOf x) (r : Reaches h p y) : Reaches h x y

variable {h : Hierarchy β} [EquivBEq β]

theorem parentsOf_congr {x y : β} (e : (x == y) = true) : h.parentsOf x = h.parentsOf y := by
  rw [parentsOf, parentsOf, lastDeclared_congr e]

theorem Reaches.congr_left {x x' y : β} (e : (x == x') = true) (r : h.Reaches x' y) :
    h.Reaches x y := by
  cases r with
  | same e' => exact .same (BEq.trans e e')
  | parent hp r => exact .parent (parentsOf_congr e ▸ hp) r

theorem Reaches.trans {x y z : β} (r : h.Reaches x y) (s : h.Reaches y z) : h.Reaches x z := by
  induction r with
  | same e => exact s.congr_left e
  | parent hp _ ih => exact .parent hp (ih s)

theorem Reaches.of_parent {x p : β} (hp : p ∈ h.parentsOf x) : h.Reaches x p :=
  .parent hp (.same BEq.rfl)

/-! ## What is found is reached -/

/-- The parents that are new in a round. -/
def fresh (h : Hierarchy β) (x : β) (seen : List β) : List β :=
  ((h.parentsOf x).filter fun p => !seen.contains p).eraseDups

omit [EquivBEq β] in
theorem reachWithin_succ_cons (rounds : Nat) (x : β) (pending seen : List β) :
    h.reachWithin (rounds + 1) (x :: pending) seen
      = h.reachWithin rounds (h.fresh x seen ++ pending) (seen ++ h.fresh x seen) := by
  rw [reachWithin]
  rfl

omit [EquivBEq β] in
theorem mem_parentsOf_of_mem_fresh {x p : β} {seen : List β} (hp : p ∈ h.fresh x seen) :
    p ∈ h.parentsOf x :=
  List.mem_of_mem_filter (mem_of_mem_eraseDups hp)

theorem reaches_of_mem_reachWithin {x : β} {rounds : Nat} {pending seen : List β}
    (hpending : pending ⊆ seen) (hseen : ∀ y ∈ seen, h.Reaches x y) :
    ∀ y ∈ h.reachWithin rounds pending seen, h.Reaches x y := by
  induction rounds generalizing pending seen with
  | zero => rwa [reachWithin]
  | succ rounds ih =>
    cases pending with
    | nil => rwa [reachWithin]; simp
    | cons z pending =>
      rw [reachWithin_succ_cons]
      refine ih (fun y hy => ?_) fun y hy => ?_
      · rcases List.mem_append.1 hy with hy | hy
        · exact List.mem_append_right _ hy
        · exact List.mem_append_left _ (hpending (List.mem_cons_of_mem z hy))
      · rcases List.mem_append.1 hy with hy | hy
        · exact hseen y hy
        · have hz := hseen z (hpending List.mem_cons_self)
          exact hz.trans (.of_parent (mem_parentsOf_of_mem_fresh hy))

/-! ## What is reached is found -/

/-- All names that stand as parents. -/
def declaredParents (h : Hierarchy β) : List β := h.parents.flatMap Prod.snd

omit [BEq β] [EquivBEq β] in
theorem nameBound_eq (h : Hierarchy β) : h.nameBound = h.declaredParents.length + 1 := by
  unfold nameBound declaredParents
  generalize h.parents = ps
  suffices hgen : ∀ n, ps.foldl (fun n (e : β × List β) => n + e.2.length) n
      = (ps.flatMap Prod.snd).length + n by exact hgen 1
  induction ps with
  | nil => simp
  | cons e ps ih =>
    intro n
    rw [List.foldl_cons, ih, List.flatMap_cons, List.length_append]
    omega

omit [EquivBEq β] in
theorem mem_declaredParents {x p : β} (hp : p ∈ h.parentsOf x) : p ∈ h.declaredParents := by
  unfold parentsOf at hp
  cases hd : lastDeclared x h.parents with
  | none => simp [hd] at hp
  | some ps =>
    obtain ⟨k, hmem, _⟩ := exists_of_lastDeclared hd
    rw [hd] at hp
    exact List.mem_flatMap.2 ⟨(k, ps), hmem, hp⟩

/-- **A search that is under way.** -/
structure Searching (h : Hierarchy β) (x : β) (rounds : Nat) (pending seen : List β) : Prop where
  /-- What is still to be followed was seen. -/
  pending_subset : pending ⊆ seen
  /-- What was followed has its parents among what was seen. -/
  followed : ∀ y ∈ seen, y ∈ pending ∨ ∀ p ∈ h.parentsOf y, seen.contains p = true
  /-- Nothing was seen twice. -/
  distinct : Distinct seen
  /-- Nothing was seen but the first name and parents. -/
  known : ∀ y ∈ seen, ∃ z ∈ x :: h.declaredParents, (y == z) = true
  /-- There are rounds for all that can still be seen. -/
  enough : h.nameBound + pending.length ≤ rounds + seen.length

namespace Searching

variable {x : β} {rounds : Nat} {pending seen : List β}

theorem init (h : Hierarchy β) (x : β) : h.Searching x h.nameBound [x] [x] where
  pending_subset := List.Subset.refl _
  followed := fun _ hy => .inl hy
  distinct := List.pairwise_singleton _ x
  known := fun _ hy => ⟨x, List.mem_cons_self, List.mem_singleton.1 hy ▸ BEq.rfl⟩
  enough := Nat.le_refl _

/-- A round keeps the description. -/
theorem step {z : β} (hs : h.Searching x (rounds + 1) (z :: pending) seen) :
    h.Searching x rounds (h.fresh z seen ++ pending) (seen ++ h.fresh z seen) where
  pending_subset := by
    intro y hy
    rcases List.mem_append.1 hy with hy | hy
    · exact List.mem_append_right _ hy
    · exact List.mem_append_left _ (hs.pending_subset (List.mem_cons_of_mem z hy))
  followed := by
    intro y hy
    rcases List.mem_append.1 hy with hy | hy
    · rcases hs.followed y hy with hy | hy
      · rcases List.mem_cons.1 hy with rfl | hy
        · refine .inr fun p hp => ?_
          by_cases hseen : seen.contains p = true
          · simp [hseen]
          · have hfilter : p ∈ (h.parentsOf y).filter fun p => !seen.contains p :=
              List.mem_filter.2 ⟨hp, by simpa using hseen⟩
            obtain ⟨q, hq, hpq⟩ := exists_mem_eraseDups hfilter
            exact List.contains_iff_exists_mem_beq.2 ⟨q, List.mem_append_right _ hq, hpq⟩
        · exact .inl (List.mem_append_right _ hy)
      · exact .inr fun p hp => by simp [hy p hp]
    · exact .inl (List.mem_append_left _ hy)
  distinct := by
    refine List.pairwise_append.2 ⟨hs.distinct, distinct_eraseDups _, fun a ha b hb => ?_⟩
    have hnew := (List.mem_filter.1 (mem_of_mem_eraseDups hb)).2
    by_contra hab
    have hcontains : seen.contains b = true :=
      List.contains_iff_exists_mem_beq.2 ⟨a, ha, BEq.symm (by simpa using hab)⟩
    simp [hcontains] at hnew
  known := by
    intro y hy
    rcases List.mem_append.1 hy with hy | hy
    · exact hs.known y hy
    · have hdeclared := mem_declaredParents (mem_parentsOf_of_mem_fresh hy)
      exact ⟨y, List.mem_cons_of_mem x hdeclared, BEq.rfl⟩
  enough := by
    have h1 := hs.enough
    simp only [List.length_cons, List.length_append] at h1 ⊢
    omega

theorem length_le (hs : h.Searching x rounds pending seen) : seen.length ≤ h.nameBound := by
  rw [nameBound_eq]
  exact hs.distinct.length_le hs.known

/-- When no rounds are left nothing is to be followed. -/
theorem pending_eq_nil (hs : h.Searching x 0 pending seen) : pending = [] := by
  have h1 := hs.enough
  have h2 := hs.length_le
  exact List.length_eq_zero_iff.1 (by omega)

/-- **What a search ends with** contains what was seen and the parents of all that it
contains. -/
theorem closed (hs : h.Searching x rounds pending seen) :
    seen ⊆ h.reachWithin rounds pending seen ∧
      ∀ y ∈ h.reachWithin rounds pending seen, ∀ p ∈ h.parentsOf y,
        (h.reachWithin rounds pending seen).contains p = true := by
  induction rounds generalizing pending seen with
  | zero =>
    have hnil := hs.pending_eq_nil
    rw [reachWithin]
    refine ⟨List.Subset.refl _, fun y hy => ?_⟩
    rcases hs.followed y hy with hy | hy
    · exact absurd (hnil ▸ hy) List.not_mem_nil
    · exact hy
  | succ rounds ih =>
    cases pending with
    | nil =>
      rw [reachWithin]
      · refine ⟨List.Subset.refl _, fun y hy => ?_⟩
        rcases hs.followed y hy with hy | hy
        · exact absurd hy List.not_mem_nil
        · exact hy
      · simp
    | cons z pending =>
      rw [reachWithin_succ_cons]
      obtain ⟨hsub, hclosed⟩ := ih hs.step
      exact ⟨fun y hy => hsub (List.mem_append_left _ hy), hclosed⟩

end Searching

theorem contains_of_reaches {all : List β}
    (hclosed : ∀ y ∈ all, ∀ p ∈ h.parentsOf y, all.contains p = true) {x y : β}
    (hx : all.contains x = true) (r : h.Reaches x y) : all.contains y = true := by
  induction r with
  | same e => rwa [← List.contains_congr e]
  | parent hp _ ih =>
    obtain ⟨z, hz, e⟩ := List.contains_iff_exists_mem_beq.1 hx
    exact ih (hclosed z hz _ (parentsOf_congr e ▸ hp))

/-- **The ancestors of a name are the names reached from it along parents.** -/
theorem contains_ancestors_iff {x y : β} :
    (h.ancestors x).contains y = true ↔ h.Reaches x y := by
  unfold ancestors
  constructor
  · intro hy
    obtain ⟨z, hz, e⟩ := List.contains_iff_exists_mem_beq.1 hy
    have hself : ∀ y ∈ [x], h.Reaches x y := fun y hy =>
      .same (List.mem_singleton.1 hy ▸ BEq.rfl)
    exact (reaches_of_mem_reachWithin (List.Subset.refl _) hself z hz).trans (.same (BEq.symm e))
  · intro r
    obtain ⟨hsub, hclosed⟩ := (Searching.init h x).closed
    refine contains_of_reaches hclosed ?_ r
    exact List.contains_iff_exists_mem_beq.2 ⟨x, hsub (List.mem_singleton_self x), BEq.rfl⟩

end Hierarchy

end Narrowing
