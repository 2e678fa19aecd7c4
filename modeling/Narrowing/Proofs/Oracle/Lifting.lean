import Narrowing.Proofs.Oracle.Asking
/-!
# What the recursion comes to

A question that is asked level by level has an answer once there are enough levels, and more
levels do not change it (`subtypeWithin_mono`). So there is one relation that the recursion comes
to. A decider is **lifted** from an oracle if its answers are those that the recursion comes to
(`Oracle.LiftsTo`); the levels up to the bound are such a decider wherever all questions come to an
end (`Ends.liftsTo_byLevels`).

One level of the recursion is an equation of the lifted relation (`Lifts.level`). Nothing is known
of how an oracle reads its spellings, and reading what is left of one may go on. But where the
lifted relation is a preorder, a descriptor and what it is read as are subtypes of each other
(`Lifts.le_normalize`, `Lifts.normalize_le`): a union with the one for its only member is
equivalent to a union with the other. Therefore unions and joins are least upper bounds
(`Lifts.joining`).
-/

namespace Narrowing

/-! ## Answers that stay -/

section Answers

variable {β γ ε : Type} {xs : List β}

theorem anyOrFail_mono {p q : β → Except ε Bool} {r : Bool}
    (h : ∀ x ∈ xs, ∀ r, p x = .ok r → q x = .ok r) (hp : anyOrFail p xs = .ok r) :
    anyOrFail q xs = .ok r := by
  induction xs with
  | nil => exact hp
  | cons x xs ih =>
    rw [List.forall_mem_cons] at h
    rw [anyOrFail] at hp ⊢
    split at hp
    · next hx =>
      rw [h.1 _ hx]
      exact ih h.2 hp
    · next hx =>
      rw [h.1 _ hp]
      cases r with
      | true => rfl
      | false => exact absurd hp hx

theorem allOrFail_mono {p q : β → Except ε Bool} {r : Bool}
    (h : ∀ x ∈ xs, ∀ r, p x = .ok r → q x = .ok r) (hp : allOrFail p xs = .ok r) :
    allOrFail q xs = .ok r := by
  induction xs with
  | nil => exact hp
  | cons x xs ih =>
    rw [List.forall_mem_cons] at h
    rw [allOrFail] at hp ⊢
    split at hp
    · next hx =>
      rw [h.1 _ hx]
      exact ih h.2 hp
    · next hx =>
      rw [h.1 _ hp]
      cases r with
      | true => exact absurd hp hx
      | false => rfl

theorem allOrFail_eq_true_iff {p : β → Except ε Bool} :
    allOrFail p xs = .ok true ↔ ∀ x ∈ xs, p x = .ok true := by
  induction xs with
  | nil => simp [allOrFail]
  | cons x xs ih =>
    rw [allOrFail, List.forall_mem_cons]
    split
    · next hx => simp [hx, ih]
    · next hx => exact iff_of_false hx fun h => hx h.1

theorem mapM_mono {f g : β → Except ε γ} {ys : List γ}
    (h : ∀ x ∈ xs, ∀ y, f x = .ok y → g x = .ok y) (hf : xs.mapM f = .ok ys) :
    xs.mapM g = .ok ys := by
  induction xs generalizing ys with
  | nil => exact hf
  | cons x xs ih =>
    rw [List.forall_mem_cons] at h
    rw [List.mapM_cons] at hf ⊢
    obtain ⟨y, hy, hf⟩ := exists_of_bind_eq_ok hf
    obtain ⟨zs, hzs, hf⟩ := exists_of_bind_eq_ok hf
    rw [h.1 y hy, ih h.2 hzs]
    exact hf

end Answers

namespace Oracle

variable {α κ π : Type} [BEq α] {o : Oracle α κ π}

section Monotone

variable {ask ask' : Question α} {askUniversal askUniversal' : Descriptor α → Except (Fault α) Bool}

theorem partsWithin_mono {x : α} {b : Descriptor α} {r : Bool}
    (hask : ∀ a b r, ask a b = .ok r → ask' a b = .ok r) (h : o.partsWithin ask x b = .ok r) :
    o.partsWithin ask' x b = .ok r := by
  unfold partsWithin at h ⊢
  split at h
  · exact h
  · exact allOrFail_mono (fun p _ => hask p b) h

/-- **One level keeps its answers** where those of the level below are kept. -/
theorem subtypeLevel_mono {a b : Descriptor α} {r : Bool}
    (hask : ∀ a b r, ask a b = .ok r → ask' a b = .ok r)
    (huniversal : ∀ d r, askUniversal d = .ok r → askUniversal' d = .ok r)
    (h : o.subtypeLevel ask askUniversal a b = .ok r) :
    o.subtypeLevel ask' askUniversal' a b = .ok r := by
  by_cases htop : o.normalize b = .top
  · rwa [subtypeLevel_top htop] at h ⊢
  cases ha : o.normalize a with
  | bottom => rwa [subtypeLevel_bottom ha] at h ⊢
  | top =>
    rw [subtypeLevel_everything ha htop] at h ⊢
    exact huniversal _ r h
  | union ms =>
    rw [subtypeLevel_members ha htop] at h ⊢
    exact allOrFail_mono (fun m _ => hask m _) h
  | atom x =>
    cases hb : o.normalize b with
    | top => exact absurd hb htop
    | bottom => rwa [subtypeLevel_nothing ha hb] at h ⊢
    | atom y =>
      rw [subtypeLevel_atoms ha hb] at h ⊢
      split at h
      · next hxy => rwa [if_pos hxy]
      · next hxy =>
        rw [if_neg hxy]
        exact partsWithin_mono hask h
    | union ms =>
      rw [subtypeLevel_member ha hb] at h ⊢
      split at h
      · next hnone =>
        rw [anyOrFail_mono (fun m _ => hask (.atom x) m) hnone]
        exact partsWithin_mono hask h
      · next hsome =>
        rw [anyOrFail_mono (fun m _ => hask (.atom x) m) h]
        cases r with
        | true => rfl
        | false => exact absurd h hsome

omit [BEq α] in
theorem universalWithin_mono {n m : Nat} (hnm : n ≤ m) {d : Descriptor α} {r : Bool}
    (h : o.universalWithin n d = .ok r) : o.universalWithin m d = .ok r := by
  induction n generalizing m d r with
  | zero => cases h
  | succ n ih =>
    obtain ⟨m, rfl⟩ := Nat.exists_eq_add_of_le' (Nat.one_le_of_lt hnm)
    rw [universalWithin] at h ⊢
    split at h
    · exact h
    · exact h
    · exact h
    · exact anyOrFail_mono (fun d _ r => ih (Nat.le_of_succ_le_succ hnm)) h

/-- **More levels do not change an answer.** -/
theorem subtypeWithin_mono {n m : Nat} (hnm : n ≤ m) {a b : Descriptor α} {r : Bool}
    (h : o.subtypeWithin n a b = .ok r) : o.subtypeWithin m a b = .ok r := by
  induction n generalizing m a b r with
  | zero => cases h
  | succ n ih =>
    obtain ⟨m, rfl⟩ := Nat.exists_eq_add_of_le' (Nat.one_le_of_lt hnm)
    have hle := Nat.le_of_succ_le_succ hnm
    exact subtypeLevel_mono (fun _ _ _ => ih hle) (fun _ _ => universalWithin_mono hle) h

omit [BEq α] in
theorem testWithin_mono [Named α] {n m : Nat} (hnm : n ≤ m) {d : Descriptor α}
    {t : RuntimeTest κ π} (h : o.testWithin n d = .ok t) : o.testWithin m d = .ok t := by
  induction n generalizing m d t with
  | zero => cases h
  | succ n ih =>
    obtain ⟨m, rfl⟩ := Nat.exists_eq_add_of_le' (Nat.one_le_of_lt hnm)
    simp only [testWithin] at h ⊢
    split at h
    · exact h
    · exact h
    · exact h
    · next ms _ =>
      cases hms : ms.mapM (o.testWithin n) with
      | error f => rw [hms] at h; cases h
      | ok ts =>
        rw [hms] at h
        rw [mapM_mono (fun d _ _ => ih (Nat.le_of_succ_le_succ hnm)) hms]
        exact h

end Monotone

/-! ## Lifted relations -/

/-- **A question that is lifted from an oracle**: its answers are those that the recursion comes
to. -/
def Lifts (o : Oracle α κ π) (ask : Question α) : Prop :=
  ∀ a b r, ask a b = .ok r ↔ ∃ n, o.subtypeWithin n a b = .ok r

/-- **A decider that is lifted from an oracle.** -/
structure LiftsTo [Named α] (o : Oracle α κ π) (c : Decider α κ π) : Prop where
  subtype : o.Lifts c.subtype
  universal : ∀ d r, c.universal d = .ok r ↔ ∃ n, o.universalWithin n d = .ok r
  test : ∀ d t, c.test d = .ok t ↔ ∃ n, o.testWithin n d = .ok t

/-- Where all questions come to an end the levels up to the bound are lifted. -/
theorem Ends.lifts_subtypeByLevels {size : α → Nat} (h : o.Ends size) :
    o.Lifts (o.subtypeByLevels size) := by
  intro a b r
  refine ⟨fun hr => ⟨_, hr⟩, fun ⟨n, hn⟩ => ?_⟩
  obtain ⟨s, hs⟩ := h.subtype a b
  have hboth := subtypeWithin_mono (le_max_left n (o.levelBound size a b)) hn
  rw [hs _ (le_max_right n _)] at hboth
  exact (hs _ le_rfl).trans hboth

omit [BEq α] in
/-- A runtime test needs as many levels as a descriptor is deep, and one. -/
theorem ReadsWithin.testWithin_of_lt [Named α] {size : α → Nat} (h : o.ReadsWithin size)
    {n m : Nat} {d : Descriptor α} (hm : d.depthOver size < m) {t : RuntimeTest κ π}
    (ht : o.testWithin n d = .ok t) : o.testWithin m d = .ok t := by
  induction n generalizing m d t with
  | zero => cases ht
  | succ n ih =>
    obtain ⟨m, rfl⟩ := Nat.exists_eq_add_of_le' (Nat.one_le_of_lt hm)
    simp only [testWithin] at ht ⊢
    split at ht
    · exact ht
    · exact ht
    · exact ht
    · next ms hread =>
      cases hms : ms.mapM (o.testWithin n) with
      | error f => rw [hms] at ht; cases ht
      | ok ts =>
        rw [hms] at ht
        rw [mapM_mono (fun e he _ => ih ?_) hms]
        · exact ht
        · exact lt_of_lt_of_le (h.depthOver_lt hread he) (Nat.le_of_lt_succ hm)

omit [BEq α] in
/-- So many levels give the test of its normal form to a layered descriptor, or the report that
there is none. -/
theorem ReadsWithin.testWithin_eq [Named α] {size : α → Nat} (h : o.ReadsWithin size) {n : Nat}
    {d : Descriptor α} (hd : o.Layered d) (hn : d.depthOver size < n) :
    o.testWithin n d = o.reportedTest d := by
  induction n generalizing d with
  | zero => exact absurd hn (Nat.not_lt_zero _)
  | succ n ih =>
    refine hd.testWithin_succ fun ms hread m hm => ih ?_ ?_
    · have hlayered := hd.normalize.1
      rw [hread] at hlayered
      exact layered_union_iff.1 hlayered m hm
    · exact lt_of_lt_of_le (h.depthOver_lt hread hm) (Nat.le_of_lt_succ hn)

/-- **The levels up to the bound are a lifted decider** where all questions come to an end. -/
theorem Ends.liftsTo_byLevels [Named α] {size : α → Nat} (h : o.Ends size)
    (hreads : o.ReadsWithin size) : o.LiftsTo (o.byLevels size) where
  subtype := h.lifts_subtypeByLevels
  universal d r := by
    refine ⟨fun hr => ⟨_, hr⟩, fun ⟨n, hn⟩ => ?_⟩
    obtain ⟨s, hs⟩ := h.universal d
    have hboth := universalWithin_mono (le_max_left n (d.depthOver size + 1)) hn
    rw [hs _ (lt_of_lt_of_le (Nat.lt_succ_self _) (le_max_right n _))] at hboth
    exact (hs _ (Nat.lt_succ_self _)).trans hboth
  test d t := ⟨fun ht => ⟨_, ht⟩, fun ⟨_, hn⟩ =>
    hreads.testWithin_of_lt (Nat.lt_succ_self _) hn⟩

/-! ## One level -/

omit [BEq α] in
theorem normalize_union_ne_top {ms : List (Descriptor α)} : o.normalize (.union ms) ≠ .top := by
  rintro ⟨⟩

namespace Lifts

variable {ask : Question α} (hask : o.Lifts ask) {a b : Descriptor α}
include hask

/-- **An answer is given by one level** from the answers below. -/
theorem level {r : Bool} (h : ask a b = .ok r) :
    ∃ n, o.subtypeLevel ask (o.universalWithin n) a b = .ok r := by
  obtain ⟨n, hn⟩ := (hask a b r).1 h
  cases n with
  | zero => cases hn
  | succ n => exact ⟨n, subtypeLevel_mono (fun a b r h => (hask a b r).2 ⟨n, h⟩) (fun _ _ h => h) hn⟩

/-- **Between layered descriptors a lifted question decides the relation of normal forms**, if it
has an answer. -/
theorem eq_true_iff_below (hparts : o.LayeredParts) (ha : o.Layered a) (hb : o.Layered b)
    (hanswer : ∃ r, ask a b = .ok r) :
    ask a b = .ok true ↔ o.Below (o.normalForm a) (o.normalForm b) := by
  obtain ⟨r, hr⟩ := hanswer
  obtain ⟨n, hn⟩ := (hask a b r).1 hr
  rw [hr, Except.ok.injEq]
  exact subtypeWithin_tells hparts ha hb r hn

section Preordered

variable (ho : ask.Preordered)
include ho

theorem le_of_normalize_top (hb : o.normalize b = .top) : ask a b = .ok true := by
  obtain ⟨r, hr⟩ := ho.answers a b
  obtain ⟨n, hn⟩ := hask.level hr
  rw [subtypeLevel_top hb] at hn
  rw [hr, ← hn]

theorem le_of_normalize_bottom (ha : o.normalize a = .bottom) : ask a b = .ok true := by
  obtain ⟨r, hr⟩ := ho.answers a b
  obtain ⟨n, hn⟩ := hask.level hr
  rw [subtypeLevel_bottom ha] at hn
  rw [hr, ← hn]

/-- What is read as a union is below what its members are below, as that is read. -/
theorem members_le_iff {ms : List (Descriptor α)} (ha : o.normalize a = .union ms)
    (hb : o.normalize b ≠ .top) :
    ask a b = .ok true ↔ ∀ m ∈ ms, ask m (o.normalize b) = .ok true := by
  obtain ⟨r, hr⟩ := ho.answers a b
  obtain ⟨n, hn⟩ := hask.level hr
  rw [subtypeLevel_members ha hb] at hn
  rw [hr, ← hn, allOrFail_eq_true_iff]

/-- Where something is read as an atom, it is below a union that has the atom for a member. -/
theorem le_singleton {x : α} (ha : o.normalize a = .atom x) :
    ask a (.union [.atom x]) = .ok true := by
  obtain ⟨r, hr⟩ := ho.answers a (.union [.atom x])
  obtain ⟨n, hn⟩ := hask.level hr
  rw [subtypeLevel_member ha rfl, anyOrFail, ho.refl] at hn
  rw [hr, ← hn]

/-- A union with a single member is below what is read as that member. -/
theorem singleton_le {x : α} (hb : o.normalize b = .atom x) :
    ask (.union [.atom x]) b = .ok true := by
  rw [hask.members_le_iff ho rfl (by simp [hb]), List.forall_mem_singleton, hb]
  exact ho.refl _

theorem le_union_self {ms : List (Descriptor α)} : ∀ m ∈ ms, ask m (.union ms) = .ok true :=
  (hask.members_le_iff ho rfl normalize_union_ne_top).1 (ho.refl _)

/-- **What a descriptor is read as is a subtype of it.** -/
theorem normalize_le (b : Descriptor α) : ask (o.normalize b) b = .ok true := by
  cases hb : o.normalize b with
  | top => exact hask.le_of_normalize_top ho hb
  | bottom => exact hask.le_of_normalize_bottom ho rfl
  | atom x =>
    exact ho.trans (hask.le_union_self ho _ (List.mem_singleton_self _)) (hask.singleton_le ho hb)
  | union ms =>
    rw [hask.members_le_iff ho rfl (by simp [hb]), hb]
    exact hask.le_union_self ho

/-- **A descriptor is a subtype of what it is read as.** -/
theorem le_normalize (b : Descriptor α) : ask b (o.normalize b) = .ok true := by
  by_cases htop : o.normalize b = .top
  · rw [htop]
    exact hask.le_of_normalize_top ho rfl
  · -- a union with nothing else is a subtype, and it is asked about its member
    have hsingle : ask (.union [b]) b = .ok true := by
      cases hb : o.normalize b with
      | top => exact absurd hb htop
      | bottom =>
        rw [hask.members_le_iff ho rfl htop, List.forall_mem_singleton]
        exact hask.le_of_normalize_bottom ho hb
      | atom x =>
        refine ho.trans ?_ (hask.singleton_le ho hb)
        rw [hask.members_le_iff ho rfl normalize_union_ne_top, List.forall_mem_singleton]
        exact hask.le_singleton ho hb
      | union ms =>
        rw [hask.members_le_iff ho rfl htop, List.forall_mem_singleton, hb,
          hask.members_le_iff ho hb normalize_union_ne_top]
        exact hask.le_union_self ho
    rw [hask.members_le_iff ho rfl htop, List.forall_mem_singleton] at hsingle
    exact hsingle

/-- **A union is a least upper bound.** -/
theorem union_le_iff {ms : List (Descriptor α)} :
    ask (.union ms) b = .ok true ↔ ∀ m ∈ ms, ask m b = .ok true := by
  by_cases htop : o.normalize b = .top
  · exact iff_of_true (hask.le_of_normalize_top ho htop) fun _ _ =>
      hask.le_of_normalize_top ho htop
  · rw [hask.members_le_iff ho rfl htop]
    exact forall₂_congr fun m _ => ⟨fun h => ho.trans h (hask.normalize_le ho b),
      fun h => ho.trans h (hask.le_normalize ho b)⟩

/-- What is contributed to a join is below what all the joined descriptors are below. -/
theorem contribution_le_iff {d : Descriptor α} :
    (∀ m ∈ d.contribution, ask m b = .ok true) ↔ ask d b = .ok true := by
  cases d with
  | atom x => exact List.forall_mem_singleton
  | top => exact List.forall_mem_singleton
  | bottom =>
    refine iff_of_true (fun m hm => ?_) (hask.le_of_normalize_bottom ho rfl)
    exact absurd hm List.not_mem_nil
  | union ms => exact (hask.union_le_iff ho).symm

theorem ofMembers_le_iff {ms : List (Descriptor α)} :
    ask (.ofMembers ms) b = .ok true ↔ ∀ m ∈ ms, ask m b = .ok true := by
  rcases ms with _ | ⟨m, _ | ⟨n, rest⟩⟩
  · refine iff_of_true (hask.le_of_normalize_bottom ho rfl) fun m hm => ?_
    exact absurd hm List.not_mem_nil
  · rw [List.forall_mem_singleton]
    rfl
  · exact hask.union_le_iff ho

theorem join_le_iff {ds : List (Descriptor α)} :
    ask (.join ds) b = .ok true ↔ ∀ d ∈ ds, ask d b = .ok true := by
  unfold Descriptor.join
  split
  · next htop =>
    refine ⟨fun h d _ => ho.trans (hask.le_of_normalize_top ho rfl) h, fun h => ?_⟩
    exact h _ (Descriptor.exists_mem_isTop_iff.1 htop)
  · rw [hask.ofMembers_le_iff ho, List.forall_mem_flatMap]
    exact forall₂_congr fun _ _ => hask.contribution_le_iff ho

/-- **Joins are least upper bounds of a lifted preorder.** -/
theorem joining : ask.Joining where
  toPreordered := ho
  join_le_iff := hask.join_le_iff ho

end Preordered

end Lifts

/-- **Over a lifted preorder what is universal contains everything.** What it is read as may be read
again before it is asked whether it is universal, but a union with it for its only member contains
everything at once. -/
theorem LiftsTo.le_of_universal [Named α] {c : Decider α κ π} (hc : o.LiftsTo c)
    (ho : c.subtype.Preordered) {d : Descriptor α} (hd : c.universal d = .ok true)
    (a : Descriptor α) : c.subtype a d = .ok true := by
  obtain ⟨n, hn⟩ := (hc.universal d true).1 hd
  have hsingle : c.subtype .top (.union [d]) = .ok true := by
    obtain ⟨r, hr⟩ := ho.answers .top (.union [d])
    obtain ⟨m, hm⟩ := hc.subtype.level hr
    have hunion : o.universalWithin (n + 1) (o.normalize (.union [d])) = .ok true := by
      show anyOrFail (o.universalWithin n) [d] = .ok true
      rw [anyOrFail, hn]
    rw [subtypeLevel_everything rfl normalize_union_ne_top] at hm
    rw [hr, ← universalWithin_mono (le_max_left m (n + 1)) hm,
      universalWithin_mono (le_max_right m (n + 1)) hunion]
  have hmember := (hc.subtype.union_le_iff ho).2 (List.forall_mem_singleton.2 (ho.refl d))
  exact ho.trans (hc.subtype.le_of_normalize_top ho rfl) (ho.trans hsingle hmember)

/-! ## Atoms that stand for themselves -/

/-- **An oracle without spellings**: every atom stands for itself. -/
structure Plain (o : Oracle α κ π) : Prop where
  read : o.read = .atom
  spell : o.spell = .atom

namespace Plain

variable (ho : o.Plain)
include ho

omit [BEq α] in
theorem readsWithin : o.ReadsWithin fun _ => 0 := fun a => by
  rw [ho.read, Descriptor.depthOver_atom]

omit [BEq α] in
/-- Every descriptor is layered. -/
theorem layered (d : Descriptor α) : o.Layered d := by
  induction d with
  | atom a => exact layered_atom (congrFun ho.read a) (congrFun ho.spell a)
  | top => exact layered_top
  | bottom => exact layered_bottom
  | union ms ih => exact layered_union ih

theorem layeredParts : o.LayeredParts := fun _ p _ => ho.layered p

variable [EquivBEq α] (hacyclic : o.Acyclic)
include hacyclic

theorem ends : o.Ends fun _ => 0 :=
  ((levelAcyclic_iff ho.layeredParts).2 hacyclic).ends ho.readsWithin

theorem liftsTo_byLevels [Named α] : o.LiftsTo (o.byLevels fun _ => 0) :=
  (ho.ends hacyclic).liftsTo_byLevels ho.readsWithin

/-- Asked level by level it gives the answers of the search. -/
theorem subtypeByLevels_eq : (o.subtypeByLevels fun _ => 0) = o.isSubtype :=
  funext₂ fun a b =>
    (ho.layered a).subtypeByLevels_eq ho.readsWithin hacyclic ho.layeredParts (ho.layered b)

end Plain

end Oracle

end Narrowing
