import Narrowing.Proofs.Oracle.Levels
/-!
# How far a question goes

A question that is asked level by level leads to others (`Oracle.Asks`): about the members of
the left-hand side, about those of the right-hand side, and about the declared parts of the
left-hand side, where the right-hand side is back to what it was. No size of the two
descriptors falls in all three. What falls is a number of levels made of three (`Suffices`):
first the depth of the right-hand side; while that stays, the rank of the atoms met in the
left-hand side, which falls with every expansion; and between two expansions the depth of the
left-hand side, which may begin anew after one, up to that of the deepest part.

So if no sealed atom comes back to itself through the atoms met in its parts
(`LevelAcyclic`), there is no endless chain of questions, and each has one answer at every
number of levels from `Oracle.levelBound` on (`LevelAcyclic.ends`).
-/

namespace Narrowing

/-! ## Depth -/

namespace Descriptor

variable {α : Type} {size : α → Nat}

@[simp] theorem depthOver_atom (a : α) : (atom a).depthOver size = size a := by
  rw [depthOver]

@[simp] theorem depthOver_top : (top : Descriptor α).depthOver size = 0 := by
  rw [depthOver]

@[simp] theorem depthOver_bottom : (bottom : Descriptor α).depthOver size = 0 := by
  rw [depthOver]

theorem depthOverAll_le_iff {ms : List (Descriptor α)} {k : Nat} :
    depthOverAll size ms ≤ k ↔ ∀ m ∈ ms, m.depthOver size ≤ k := by
  induction ms with
  | nil => simp [depthOverAll]
  | cons m ms ih => rw [depthOverAll, max_le_iff, ih, List.forall_mem_cons]

/-- A union is deeper than its members. -/
theorem depthOver_lt_of_mem {m : Descriptor α} {ms : List (Descriptor α)} (hm : m ∈ ms) :
    m.depthOver size < (union ms).depthOver size := by
  rw [depthOver]
  exact Nat.lt_succ_of_le (depthOverAll_le_iff.1 le_rfl m hm)

theorem depthOver_union_le {ms : List (Descriptor α)} {k : Nat}
    (h : ∀ m ∈ ms, m.depthOver size ≤ k) : (union ms).depthOver size ≤ k + 1 := by
  rw [depthOver]
  exact Nat.succ_le_succ (depthOverAll_le_iff.2 h)

/-- A join is deeper than the joined descriptors by at most one. -/
theorem depthOver_join_le {ds : List (Descriptor α)} {k : Nat}
    (h : ∀ d ∈ ds, d.depthOver size ≤ k) : (join ds).depthOver size ≤ k + 1 := by
  have hadded : ∀ m ∈ ds.flatMap contribution, m.depthOver size ≤ k := by
    intro m hm
    obtain ⟨d, hd, hm⟩ := List.mem_flatMap.1 hm
    refine le_trans ?_ (h d hd)
    cases d with
    | atom a => rw [List.mem_singleton.1 hm]
    | top => rw [List.mem_singleton.1 hm]
    | bottom => exact absurd hm List.not_mem_nil
    | union ms => exact (depthOver_lt_of_mem hm).le
  unfold join
  split
  · simp
  · rcases hms : ds.flatMap contribution with _ | ⟨d, _ | ⟨e, rest⟩⟩
    · simp [ofMembers]
    · rw [hms] at hadded
      exact Nat.le_succ_of_le (hadded d (List.mem_singleton_self d))
    · rw [hms] at hadded
      exact depthOver_union_le hadded

end Descriptor

namespace Oracle

variable {α κ π : Type} {o : Oracle α κ π} {size : α → Nat}

/-- **Reading a spelling gives nothing deeper.** -/
def ReadsWithin (o : Oracle α κ π) (size : α → Nat) : Prop :=
  ∀ a, (o.read a).depthOver size ≤ size a

theorem ReadsWithin.normalize (h : o.ReadsWithin size) (d : Descriptor α) :
    (o.normalize d).depthOver size ≤ d.depthOver size := by
  cases d with
  | atom a =>
    rw [Descriptor.depthOver_atom]
    exact h a
  | top => exact le_rfl
  | bottom => exact le_rfl
  | union ms => exact le_rfl

/-- The members of what is read are less deep. -/
theorem ReadsWithin.depthOver_lt (h : o.ReadsWithin size) {d m : Descriptor α}
    {ms : List (Descriptor α)} (hread : o.normalize d = .union ms) (hm : m ∈ ms) :
    m.depthOver size < d.depthOver size := by
  have hle := h.normalize d
  rw [hread] at hle
  exact lt_of_lt_of_le (Descriptor.depthOver_lt_of_mem hm) hle

theorem ReadsWithin.size_le (h : o.ReadsWithin size) {d : Descriptor α} {x : α}
    (hread : o.normalize d = .atom x) : size x ≤ d.depthOver size := by
  have hle := h.normalize d
  rwa [hread, Descriptor.depthOver_atom] at hle

/-! ## Answers from some number of levels on -/

/-- **One answer from some number of levels on.** -/
def AnswersFrom (n : Nat) (answer : Nat → Except (Fault α) Bool) : Prop :=
  ∃ r, ∀ m ≥ n, answer m = .ok r

namespace AnswersFrom

variable {β : Type} {n : Nat} {p : Nat → β → Except (Fault α) Bool} {xs : List β}

theorem ok (r : Bool) : AnswersFrom (α := α) n fun _ => .ok r :=
  ⟨r, fun _ _ => rfl⟩

/-- One more level above. -/
theorem succ {answer : Nat → Except (Fault α) Bool} (h : AnswersFrom n fun m => answer (m + 1)) :
    AnswersFrom (n + 1) answer := by
  obtain ⟨r, hr⟩ := h
  refine ⟨r, fun m hm => ?_⟩
  obtain ⟨m, rfl⟩ := Nat.exists_eq_add_of_le' (Nat.one_le_of_lt hm)
  exact hr m (Nat.le_of_succ_le_succ hm)

theorem all (h : ∀ x ∈ xs, AnswersFrom n fun m => p m x) :
    AnswersFrom n fun m => allOrFail (p m) xs := by
  induction xs with
  | nil => exact ok true
  | cons x xs ih =>
    rw [List.forall_mem_cons] at h
    obtain ⟨r, hr⟩ := h.1
    cases r with
    | false => exact ⟨false, fun m hm => by simp only [allOrFail, hr m hm]⟩
    | true =>
      obtain ⟨s, hs⟩ := ih h.2
      exact ⟨s, fun m hm => by simp only [allOrFail, hr m hm, hs m hm]⟩

theorem any (h : ∀ x ∈ xs, AnswersFrom n fun m => p m x) :
    AnswersFrom n fun m => anyOrFail (p m) xs := by
  induction xs with
  | nil => exact ok false
  | cons x xs ih =>
    rw [List.forall_mem_cons] at h
    obtain ⟨r, hr⟩ := h.1
    cases r with
    | true => exact ⟨true, fun m hm => by simp only [anyOrFail, hr m hm]⟩
    | false =>
      obtain ⟨s, hs⟩ := ih h.2
      exact ⟨s, fun m hm => by simp only [anyOrFail, hr m hm, hs m hm]⟩

end AnswersFrom

/-- Universality needs as many levels as a descriptor is deep, and one. -/
theorem ReadsWithin.universalWithin_answers (h : o.ReadsWithin size) {n : Nat}
    {d : Descriptor α} (hn : d.depthOver size < n) :
    AnswersFrom n fun m => o.universalWithin m d := by
  induction n generalizing d with
  | zero => exact absurd hn (Nat.not_lt_zero _)
  | succ n ih =>
    refine AnswersFrom.succ ?_
    simp only [universalWithin]
    cases hread : o.normalize d with
    | atom a => exact .ok _
    | top => exact .ok true
    | bottom => exact .ok false
    | union ms =>
      refine AnswersFrom.any fun m hm => ih ?_
      have hlt := h.depthOver_lt hread hm
      omega

/-! ## The atoms that are met -/

/-- **An atom is met in a descriptor**, read level by level. -/
inductive Meets (o : Oracle α κ π) : Descriptor α → α → Prop
  | atom {d : Descriptor α} {a : α} (hread : o.normalize d = .atom a) : Meets o d a
  | member {d m : Descriptor α} {ms : List (Descriptor α)} {a : α}
    (hread : o.normalize d = .union ms) (hm : m ∈ ms) (h : Meets o m a) : Meets o d a

/-- In a layered descriptor the atoms of the normal form are met. -/
theorem Layered.meets_iff {d : Descriptor α} (h : o.Layered d) {x : α} :
    o.Meets d x ↔ x ∈ (o.normalForm d).atoms := by
  induction h with
  | atom hread hform =>
    rw [hform, Descriptor.mem_atoms_atom]
    constructor
    · rintro (h | ⟨h, -, -⟩)
      · exact (Descriptor.atom.inj (hread.symm.trans h)).symm
      · cases hread.symm.trans h
    · rintro rfl
      exact .atom hread
  | top hread hform =>
    rw [hform]
    refine iff_of_false ?_ List.not_mem_nil
    rintro (h | ⟨h, -, -⟩) <;> cases hread.symm.trans h
  | bottom hread hform =>
    rw [hform]
    refine iff_of_false ?_ List.not_mem_nil
    rintro (h | ⟨h, -, -⟩) <;> cases hread.symm.trans h
  | @union d ms hread hform _ ih =>
    rw [hform, Descriptor.mem_atoms_union]
    simp only [List.mem_map, exists_exists_and_eq_and]
    constructor
    · rintro (h | ⟨h, hm, hx⟩)
      · cases hread.symm.trans h
      · obtain rfl := Descriptor.union.inj (hread.symm.trans h)
        exact ⟨_, hm, (ih _ hm).1 hx⟩
    · rintro ⟨m, hm, hx⟩
      exact .member hread hm ((ih m hm).2 hx)

section Relation

variable [BEq α]

/-- **No sealed atom comes back to itself** through the atoms met in its parts. -/
def LevelAcyclic (o : Oracle α κ π) : Prop :=
  ∀ a, ¬ Relation.TransGen (o.ExpandsBy o.Meets) a a

/-- Where the parts are layered it does not matter how they are read. -/
theorem levelAcyclic_iff (hparts : o.LayeredParts) : o.LevelAcyclic ↔ o.Acyclic := by
  have hsame : o.ExpandsBy o.Meets = o.ExpandsTo := by
    funext a b
    refine propext (exists_congr fun p => and_congr_right fun hp => ?_)
    exact (hparts a p hp).meets_iff
  rw [LevelAcyclic, Acyclic, hsame]

/-! ## The questions that are asked -/

/-- **A question leads to another** one level below. -/
inductive Asks (o : Oracle α κ π) :
    Descriptor α × Descriptor α → Descriptor α × Descriptor α → Prop
  /-- About a member of the left-hand side. -/
  | left {a b m : Descriptor α} {ms : List (Descriptor α)} (hread : o.normalize a = .union ms)
    (hm : m ∈ ms) : Asks o (a, b) (m, o.normalize b)
  /-- About a member of the right-hand side. -/
  | right {a b m : Descriptor α} {x : α} {ms : List (Descriptor α)}
    (ha : o.normalize a = .atom x) (hb : o.normalize b = .union ms) (hm : m ∈ ms) :
    Asks o (a, b) (.atom x, m)
  /-- About a part of the left-hand side. -/
  | part {a b p : Descriptor α} {x : α} (ha : o.normalize a = .atom x)
    (hp : p ∈ o.expand (.atom x)) : Asks o (a, b) (p, o.normalize b)

theorem partsWithin_answers {n : Nat} {ask : Nat → Question α} {x : α} {b : Descriptor α}
    (h : ∀ p ∈ o.expand (.atom x), AnswersFrom n fun m => ask m p b) :
    AnswersFrom n fun m => o.partsWithin (ask m) x b := by
  unfold partsWithin
  split
  · exact .ok false
  · exact .all h

/-- **A question has an answer where those it leads to have one.** -/
theorem subtypeLevel_answers {n : Nat} {ask : Nat → Question α}
    {askUniversal : Nat → Descriptor α → Except (Fault α) Bool} {a b : Descriptor α}
    (hask : ∀ q, o.Asks (a, b) q → AnswersFrom n fun m => ask m q.1 q.2)
    (huniversal : AnswersFrom n fun m => askUniversal m (o.normalize b)) :
    AnswersFrom n fun m => o.subtypeLevel (ask m) (askUniversal m) a b := by
  by_cases htop : o.normalize b = .top
  · simp only [subtypeLevel_top htop]
    exact .ok true
  cases ha : o.normalize a with
  | bottom =>
    simp only [subtypeLevel_bottom ha]
    exact .ok true
  | top =>
    simp only [subtypeLevel_everything ha htop]
    exact huniversal
  | union ms =>
    simp only [subtypeLevel_members ha htop]
    exact .all fun m hm => hask _ (.left ha hm)
  | atom x =>
    have hparts : AnswersFrom n fun m => o.partsWithin (ask m) x (o.normalize b) :=
      partsWithin_answers fun p hp => hask _ (.part ha hp)
    cases hb : o.normalize b with
    | top => exact absurd hb htop
    | bottom =>
      simp only [subtypeLevel_nothing ha hb]
      exact .ok false
    | atom y =>
      rw [hb] at hparts
      simp only [subtypeLevel_atoms ha hb]
      split
      · exact .ok true
      · exact hparts
    | union ms =>
      rw [hb] at hparts
      simp only [subtypeLevel_member ha hb]
      obtain ⟨r, hr⟩ := AnswersFrom.any fun m hm => hask _ (.right ha hb hm)
      cases r with
      | true => exact ⟨true, fun m hm => by simp only [hr m hm]⟩
      | false =>
        obtain ⟨s, hs⟩ := hparts
        exact ⟨s, fun m hm => by simp only [hr m hm, hs m hm]⟩

/-! ## Enough levels -/

/-- **So many levels are enough for a question.** The left-hand side is less deep than `width`.
There is a block of `width` levels for each depth below that of the right-hand side and each
declaration, there is one for each rank up to the greatest of an atom met on the left, and then
the left-hand side is gone down. -/
def Suffices (o : Oracle α κ π) (size : α → Nat) (width n : Nat) (a b : Descriptor α) : Prop :=
  a.depthOver size < width ∧
  ∃ r, (∀ x, o.Meets a x → o.rankBy o.Meets x ≤ r) ∧
    (b.depthOver size * (o.sealedParts.length + 1) + r) * width + a.depthOver size + 2 ≤ n

section Enough

variable {width n : Nat} {a b : Descriptor α}

/-- A block of levels is left where one block less is to come. -/
theorem block_le {c c' k k' : Nat} (hc : c' < c) (hk : k' < width)
    (h : c * width + k + 2 ≤ n + 1) : c' * width + k' + 2 ≤ n := by
  have hblock : (c' + 1) * width ≤ c * width := Nat.mul_le_mul_right width hc
  rw [Nat.add_mul, Nat.one_mul] at hblock
  omega

/-- About a member on the left, one level less is enough. -/
theorem Suffices.left (hreads : o.ReadsWithin size) {m : Descriptor α}
    {ms : List (Descriptor α)} (h : o.Suffices size width (n + 1) a b)
    (hread : o.normalize a = .union ms) (hm : m ∈ ms) :
    o.Suffices size width n m (o.normalize b) := by
  obtain ⟨hwidth, r, hrank, henough⟩ := h
  have hlt := hreads.depthOver_lt hread hm
  have hright := Nat.mul_le_mul_right (o.sealedParts.length + 1) (hreads.normalize b)
  have hblocks := Nat.mul_le_mul_right width (Nat.add_le_add_right hright r)
  refine ⟨lt_trans hlt hwidth, r, fun x hx => hrank x (.member hread hm hx), ?_⟩
  omega

/-- About a member on the right. The left-hand side is read again, and its rank may be any,
but the right-hand side is less deep. -/
theorem Suffices.right (hreads : o.ReadsWithin size) {m : Descriptor α} {x : α}
    {ms : List (Descriptor α)} (h : o.Suffices size width (n + 1) a b)
    (ha : o.normalize a = .atom x) (hb : o.normalize b = .union ms) (hm : m ∈ ms) :
    o.Suffices size width n (.atom x) m := by
  obtain ⟨hwidth, r, -, henough⟩ := h
  have hx : (Descriptor.atom x).depthOver size < width := by
    rw [Descriptor.depthOver_atom]
    exact lt_of_le_of_lt (hreads.size_le ha) hwidth
  have hright : (m.depthOver size + 1) * (o.sealedParts.length + 1) ≤
      b.depthOver size * (o.sealedParts.length + 1) :=
    Nat.mul_le_mul_right _ (hreads.depthOver_lt hb hm)
  rw [Nat.add_mul, Nat.one_mul] at hright
  refine ⟨hx, o.sealedParts.length, fun y _ => o.rankBy_le _ y, block_le ?_ hx henough⟩
  omega

/-- About a part. The right-hand side stays, and the rank falls. -/
theorem Suffices.part [EquivBEq α] (hreads : o.ReadsWithin size) (hacyclic : o.LevelAcyclic)
    {p : Descriptor α} {x : α} (hwidth : p.depthOver size < width)
    (h : o.Suffices size width (n + 1) a b) (ha : o.normalize a = .atom x)
    (hp : p ∈ o.expand (.atom x)) : o.Suffices size width n p (o.normalize b) := by
  obtain ⟨-, r, hrank, henough⟩ := h
  have hx : o.rankBy o.Meets x ≤ r := hrank x (.atom ha)
  have hpos : o.rankBy o.Meets x ≠ 0 := fun hzero => by
    rw [expand_eq_nil_of_rankBy_eq_zero hzero] at hp
    exact List.not_mem_nil hp
  have hright := Nat.mul_le_mul_right (o.sealedParts.length + 1) (hreads.normalize b)
  refine ⟨hwidth, r - 1, fun y hy => ?_, block_le ?_ hwidth henough⟩
  · have hlt : o.rankBy o.Meets y < o.rankBy o.Meets x := rankBy_lt hacyclic ⟨p, hp, hy⟩
    omega
  · omega

/-- **With each question one level less is enough.** -/
theorem Suffices.asks [EquivBEq α] (hreads : o.ReadsWithin size) (hacyclic : o.LevelAcyclic)
    (hwidth : ∀ x, ∀ p ∈ o.expand (.atom x), p.depthOver size < width)
    {q q' : Descriptor α × Descriptor α} (h : o.Suffices size width (n + 1) q.1 q.2)
    (hasks : o.Asks q q') : o.Suffices size width n q'.1 q'.2 := by
  cases hasks with
  | left hread hm => exact h.left hreads hread hm
  | right ha hb hm => exact h.right hreads ha hb hm
  | part ha hp => exact h.part hreads hacyclic (hwidth _ _ hp) ha hp

end Enough

/-- The bound is enough. -/
theorem suffices_levelBound (o : Oracle α κ π) (size : α → Nat) (a b : Descriptor α) :
    o.Suffices size ((Descriptor.union (a :: o.sealedParts.flatMap Prod.snd)).depthOver size)
      (o.levelBound size a b) a b := by
  have ha : a.depthOver size <
      (Descriptor.union (a :: o.sealedParts.flatMap Prod.snd)).depthOver size :=
    Descriptor.depthOver_lt_of_mem List.mem_cons_self
  refine ⟨ha, o.sealedParts.length, fun x _ => o.rankBy_le _ x, ?_⟩
  refine block_le (c := (b.depthOver size + 1) * (o.sealedParts.length + 1)) (k := 0) ?_ ha
    (le_of_eq rfl)
  rw [Nat.add_mul]
  omega

/-- The declared parts of an atom are among those of all declarations. -/
theorem mem_parts_of_expand {x : α} {p : Descriptor α} (hp : p ∈ o.expand (.atom x)) :
    p ∈ o.sealedParts.flatMap Prod.snd := by
  unfold expand at hp
  cases hd : lastDeclared (Descriptor.atom x) o.sealedParts with
  | none => simp [hd] at hp
  | some ps =>
    obtain ⟨k, hmem, -⟩ := exists_of_lastDeclared hd
    rw [hd] at hp
    exact List.mem_flatMap.2 ⟨(k, ps), hmem, hp⟩

/-! ## Questions end -/

/-- **Questions asked level by level come to an end**: none leads to an endless chain of others,
and each has one answer at every number of levels from the bound on. -/
structure Ends (o : Oracle α κ π) (size : α → Nat) : Prop where
  asks : WellFounded fun q' q => o.Asks q q'
  subtype : ∀ a b, ∃ r, ∀ n ≥ o.levelBound size a b, o.subtypeWithin n a b = .ok r
  universal : ∀ d, ∃ r, ∀ n > d.depthOver size, o.universalWithin n d = .ok r
  compare : ∀ c a b, ∃ r, o.compareByLevels size c a b = .ok r

variable [EquivBEq α] {width : Nat}

/-- **Enough levels give an answer.** The induction is on their number. -/
theorem Suffices.answers (hreads : o.ReadsWithin size) (hacyclic : o.LevelAcyclic)
    (hwidth : ∀ x, ∀ p ∈ o.expand (.atom x), p.depthOver size < width) {n : Nat}
    {a b : Descriptor α} (h : o.Suffices size width n a b) :
    AnswersFrom n fun m => o.subtypeWithin m a b := by
  induction n generalizing a b with
  | zero =>
    obtain ⟨-, r, -, henough⟩ := h
    omega
  | succ n ih =>
    refine AnswersFrom.succ (subtypeLevel_answers (fun q hq => ?_) ?_)
    · exact ih (h.asks hreads hacyclic hwidth hq)
    · -- the depth of the right-hand side is less than the levels that are left
      obtain ⟨hpos, r, -, henough⟩ := h
      have hdepth : b.depthOver size ≤ b.depthOver size * (o.sealedParts.length + 1) :=
        Nat.le_mul_of_pos_right _ (Nat.succ_pos _)
      have hblocks := Nat.le_mul_of_pos_right
        (b.depthOver size * (o.sealedParts.length + 1) + r) (Nat.zero_lt_of_lt hpos)
      have hright := hreads.normalize b
      exact hreads.universalWithin_answers (by omega)

theorem Suffices.acc (hreads : o.ReadsWithin size) (hacyclic : o.LevelAcyclic)
    (hwidth : ∀ x, ∀ p ∈ o.expand (.atom x), p.depthOver size < width) {n : Nat}
    {q : Descriptor α × Descriptor α} (h : o.Suffices size width n q.1 q.2) :
    Acc (fun q' q => o.Asks q q') q := by
  induction n generalizing q with
  | zero =>
    obtain ⟨-, r, -, henough⟩ := h
    omega
  | succ n ih => exact ⟨_, fun q' hq => ih (h.asks hreads hacyclic hwidth hq)⟩

/-- **Without cyclic declarations all questions come to an end**, about any descriptors. -/
theorem LevelAcyclic.ends (hacyclic : o.LevelAcyclic) (hreads : o.ReadsWithin size) :
    o.Ends size := by
  have hwidth : ∀ (a : Descriptor α) x, ∀ p ∈ o.expand (.atom x), p.depthOver size <
      (Descriptor.union (a :: o.sealedParts.flatMap Prod.snd)).depthOver size := fun a x p hp =>
    Descriptor.depthOver_lt_of_mem (List.mem_cons_of_mem a (mem_parts_of_expand hp))
  have hsubtype : ∀ a b, AnswersFrom (o.levelBound size a b) fun m => o.subtypeWithin m a b :=
    fun a b => (o.suffices_levelBound size a b).answers hreads hacyclic (hwidth a)
  exact {
    asks := ⟨fun q => (o.suffices_levelBound size q.1 q.2).acc hreads hacyclic (hwidth q.1)⟩
    subtype := hsubtype
    universal := fun d => hreads.universalWithin_answers (Nat.lt_succ_self (d.depthOver size))
    compare := fun c => Question.Answering.asking (fun a b => by
      obtain ⟨r, hr⟩ := hsubtype a b
      exact ⟨r, hr _ le_rfl⟩) c }

/-- **Between layered descriptors the levels up to the bound give the answer of the search.** -/
theorem Layered.subtypeByLevels_eq (hreads : o.ReadsWithin size)
    (hacyclic : o.Acyclic) (hparts : o.LayeredParts) {a b : Descriptor α} (ha : o.Layered a)
    (hb : o.Layered b) : o.subtypeByLevels size a b = o.isSubtype a b := by
  obtain ⟨r, hr⟩ := (((levelAcyclic_iff hparts).2 hacyclic).ends hreads).subtype a b
  obtain ⟨k, hk⟩ := ha.subtypeWithin_eq hacyclic hparts hb
  rw [← hk _ (le_max_left k (o.levelBound size a b)), hr _ (le_max_right k _)]
  exact hr _ le_rfl

end Relation

end Oracle

end Narrowing
