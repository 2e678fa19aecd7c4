import Narrowing.Oracle.Levels
import Narrowing.Proofs.Branches.Order
import Narrowing.Proofs.Oracle.Expansion
/-!
# What is asked level by level

A question is asked of normal forms, in which the spellings have been replaced at every
depth, or level by level, of descriptors as they are written. What is passed on is then read
once more at each level, and it must not matter that this has been done before.

This module says when the two ways come to the same. A descriptor is **layered**
(`Layered`) if reading level by level arrives at its normal form: what a level leaves is a
bound, a union of layered descriptors, or an atom that stands for itself. Between layered
descriptors the recursion gives the answer of the search on normal forms at every
sufficient depth (`Layered.subtypeWithin_eq`), and so it does for universality
(`Layered.universalWithin_eq`) and for runtime tests (`Layered.testWithin_eq`).
-/

namespace Narrowing

namespace Oracle

variable {α κ π : Type}

/-! ## Layered descriptors -/

/-- **A descriptor whose levels lead to its normal form.** -/
inductive Layered (o : Oracle α κ π) : Descriptor α → Prop
  | atom {d : Descriptor α} {a : α} (hread : o.normalize d = .atom a)
    (hform : o.normalForm d = .atom a) (hagain : o.read a = .atom a)
    (hspell : o.spell a = .atom a) : Layered o d
  | top {d : Descriptor α} (hread : o.normalize d = .top) (hform : o.normalForm d = .top) :
    Layered o d
  | bottom {d : Descriptor α} (hread : o.normalize d = .bottom)
    (hform : o.normalForm d = .bottom) : Layered o d
  | union {d : Descriptor α} {ms : List (Descriptor α)} (hread : o.normalize d = .union ms)
    (hform : o.normalForm d = .union (ms.map o.normalForm)) (hmembers : ∀ m ∈ ms, Layered o m) :
    Layered o d

section Layered

variable {o : Oracle α κ π}

theorem normalForm_top : o.normalForm .top = .top := by
  rw [normalForm, Descriptor.bind_top]

theorem normalForm_bottom : o.normalForm .bottom = .bottom := by
  rw [normalForm, Descriptor.bind_bottom]

theorem normalForm_union (ms : List (Descriptor α)) :
    o.normalForm (.union ms) = .union (ms.map o.normalForm) := by
  rw [normalForm, Descriptor.bind_union]
  rfl

/-- An atom that stands for itself is in normal form. -/
theorem normalForm_atom {a : α} (hspell : o.spell a = .atom a) :
    o.normalForm (.atom a) = .atom a := by
  rw [normalForm, Descriptor.bind_atom, hspell]

theorem layered_atom {a : α} (hread : o.read a = .atom a) (hspell : o.spell a = .atom a) :
    o.Layered (.atom a) :=
  .atom hread (normalForm_atom hspell) hread hspell

theorem layered_top : o.Layered .top :=
  .top rfl normalForm_top

theorem layered_bottom : o.Layered .bottom :=
  .bottom rfl normalForm_bottom

theorem layered_union {ms : List (Descriptor α)} (h : ∀ m ∈ ms, o.Layered m) :
    o.Layered (.union ms) :=
  .union rfl (normalForm_union ms) h

theorem layered_union_iff {ms : List (Descriptor α)} :
    o.Layered (.union ms) ↔ ∀ m ∈ ms, o.Layered m := by
  refine ⟨fun h => ?_, layered_union⟩
  cases h with
  | atom hread => cases hread
  | top hread => cases hread
  | bottom hread => cases hread
  | union hread _ hmembers =>
    obtain rfl := Descriptor.union.inj hread
    exact hmembers

/-- What is left of a layered descriptor is layered, with the same normal form, and reading
it again leaves it. -/
theorem Layered.normalize {d : Descriptor α} (h : o.Layered d) :
    o.Layered (o.normalize d) ∧ o.normalForm (o.normalize d) = o.normalForm d ∧
      o.normalize (o.normalize d) = o.normalize d := by
  cases h with
  | atom hread hform hagain hspell =>
    rw [hread, hform]
    exact ⟨layered_atom hagain hspell, normalForm_atom hspell, hagain⟩
  | top hread hform =>
    rw [hread, hform]
    exact ⟨layered_top, normalForm_top, rfl⟩
  | bottom hread hform =>
    rw [hread, hform]
    exact ⟨layered_bottom, normalForm_bottom, rfl⟩
  | union hread hform hmembers =>
    rw [hread, hform]
    exact ⟨layered_union hmembers, normalForm_union _, rfl⟩

/-- A join of layered descriptors is layered. -/
theorem Layered.join {ds : List (Descriptor α)} (h : ∀ d ∈ ds, o.Layered d) :
    o.Layered (.join ds) := by
  have hadded : ∀ m ∈ ds.flatMap Descriptor.contribution, o.Layered m := by
    intro m hm
    obtain ⟨d, hd, hm⟩ := List.mem_flatMap.1 hm
    cases d with
    | bottom => exact absurd hm List.not_mem_nil
    | union ms => exact layered_union_iff.1 (h _ hd) m hm
    | atom a => exact List.mem_singleton.1 hm ▸ h _ hd
    | top => exact List.mem_singleton.1 hm ▸ h _ hd
  rw [Descriptor.join]
  split
  · exact layered_top
  · rcases hms : ds.flatMap Descriptor.contribution with _ | ⟨d, _ | ⟨e, rest⟩⟩
    · exact layered_bottom
    · exact hadded d (by simp [hms])
    · rw [hms] at hadded
      exact layered_union hadded

theorem Layered.accumulated {ds : List (Descriptor α)} (h : ∀ d ∈ ds, o.Layered d) :
    o.Layered (.accumulated ds) := by
  induction ds using List.reverseRecOn with
  | nil => exact layered_bottom
  | append_singleton ds d ih =>
    rw [List.forall_mem_append, List.forall_mem_singleton] at h
    rw [Descriptor.accumulated_concat]
    exact .join (List.forall_mem_cons.2 ⟨ih h.1, List.forall_mem_singleton.2 h.2⟩)

/-- What holds of each of some descriptors from some depth on holds of all from one on. -/
theorem exists_depth {β : Type} {P : Nat → β → Prop} {xs : List β}
    (h : ∀ x ∈ xs, ∃ depth, ∀ n ≥ depth, P n x) : ∃ depth, ∀ n ≥ depth, ∀ x ∈ xs, P n x := by
  induction xs with
  | nil => exact ⟨0, fun _ _ x hx => absurd hx List.not_mem_nil⟩
  | cons x xs ih =>
    rw [List.forall_mem_cons] at h
    obtain ⟨k, hk⟩ := h.1
    obtain ⟨l, hl⟩ := ih h.2
    refine ⟨max k l, fun n hn => List.forall_mem_cons.2 ⟨hk n ?_, hl n ?_⟩⟩
    · exact le_trans (le_max_left k l) hn
    · exact le_trans (le_max_right k l) hn

/-- From one level below on. -/
theorem exists_depth_succ {P : Nat → Prop} (h : ∃ depth, ∀ n ≥ depth, P (n + 1)) :
    ∃ depth, ∀ n ≥ depth, P n := by
  obtain ⟨k, hk⟩ := h
  refine ⟨k + 1, fun n hn => ?_⟩
  obtain ⟨m, rfl⟩ := Nat.exists_eq_add_of_le' (Nat.one_le_of_lt hn)
  exact hk m (Nat.le_of_succ_le_succ hn)

/-! ## Universality and tests -/

theorem anyOrFail_eq_ok_of_forall {β ε : Type} {p : β → Except ε Bool} {q : β → Bool}
    {xs : List β} (h : ∀ x ∈ xs, p x = .ok (q x)) : anyOrFail p xs = .ok (xs.any q) := by
  induction xs with
  | nil => rfl
  | cons x xs ih =>
    rw [List.forall_mem_cons] at h
    rw [anyOrFail, h.1, List.any_cons]
    cases q x with
    | true => rfl
    | false => exact ih h.2

theorem someHoldsAll_eq_any (ds : List (Descriptor α)) :
    o.someHoldsAll ds = ds.any o.holdsAll := by
  induction ds with
  | nil => rw [someHoldsAll, List.any_nil]
  | cons d ds ih => rw [someHoldsAll, ih, List.any_cons]

/-- **Level by level a layered descriptor is universal if its normal form is.** -/
theorem Layered.universalWithin_eq {d : Descriptor α} (h : o.Layered d) :
    ∃ depth, ∀ n ≥ depth, o.universalWithin n d = .ok (o.isUniversal d) := by
  induction h with
  | atom hread hform =>
    refine exists_depth_succ ⟨0, fun n _ => ?_⟩
    rw [universalWithin, hread, isUniversal, hform, holdsAll]
  | top hread hform =>
    refine exists_depth_succ ⟨0, fun n _ => ?_⟩
    rw [universalWithin, hread, isUniversal, hform, holdsAll]
  | bottom hread hform =>
    refine exists_depth_succ ⟨0, fun n _ => ?_⟩
    rw [universalWithin, hread, isUniversal, hform, holdsAll]
  | @union d ms hread hform _ ih =>
    obtain ⟨k, hk⟩ := exists_depth ih
    refine exists_depth_succ ⟨k, fun n hn => ?_⟩
    rw [universalWithin, hread, isUniversal, hform, holdsAll, someHoldsAll_eq_any, List.any_map]
    exact anyOrFail_eq_ok_of_forall (hk n hn)

theorem testsOf_map_eq {ms : List (Descriptor α)}
    {f : Descriptor α → Except (Fault α) (RuntimeTest κ π)} {g : MissingTest α → Fault α}
    (h : ∀ m ∈ ms, f m = (o.runtimeTest m).mapError g) :
    ms.mapM f = (o.testsOf (ms.map o.normalForm)).mapError g := by
  induction ms with
  | nil => rw [List.map_nil, testsOf]; rfl
  | cons m ms ih =>
    rw [List.forall_mem_cons] at h
    rw [List.mapM_cons, h.1, ih h.2, List.map_cons, testsOf, runtimeTest]
    cases o.testOf (o.normalForm m) with
    | error e => rfl
    | ok t => cases o.testsOf (ms.map o.normalForm) <;> rfl

/-- The runtime test of the normal form of a descriptor; that it is missing is reported. -/
def reportedTest [Named α] (o : Oracle α κ π) (d : Descriptor α) :
    Except (Fault α) (RuntimeTest κ π) :=
  (o.runtimeTest d).mapError fun missing => (Fault.untestable missing).reported

/-- A level gives the test of the normal form where the level below does so for the members. -/
theorem Layered.testWithin_succ [Named α] {d : Descriptor α} (h : o.Layered d) {n : Nat}
    (hms : ∀ ms, o.normalize d = .union ms → ∀ m ∈ ms, o.testWithin n m = o.reportedTest m) :
    o.testWithin (n + 1) d = o.reportedTest d := by
  cases h with
  | atom hread hform =>
    rw [testWithin, hread, reportedTest, runtimeTest, hform, testOf]
    rfl
  | top hread hform =>
    rw [testWithin, hread, reportedTest, runtimeTest, hform, testOf]
    rfl
  | bottom hread hform =>
    rw [testWithin, hread, reportedTest, runtimeTest, hform, testOf]
    rfl
  | @union _ ms hread hform =>
    rw [testWithin, hread, reportedTest, runtimeTest, hform, testOf]
    dsimp only
    rw [testsOf_map_eq (hms ms hread)]
    cases o.testsOf (ms.map o.normalForm) <;> rfl

/-- **Level by level a layered descriptor has the test of its normal form.** -/
theorem Layered.testWithin_eq [Named α] {d : Descriptor α} (h : o.Layered d) :
    ∃ depth, ∀ n ≥ depth, o.testWithin n d = o.reportedTest d := by
  suffices hms : ∃ depth, ∀ n ≥ depth, ∀ ms, o.normalize d = .union ms →
      ∀ m ∈ ms, o.testWithin n m = o.reportedTest m by
    obtain ⟨k, hk⟩ := hms
    exact exists_depth_succ ⟨k, fun n hn => h.testWithin_succ (hk n hn)⟩
  induction h with
  | @union d ms hread _ hmembers ih =>
    have hdeep : ∀ m ∈ ms, ∃ depth, ∀ n ≥ depth, o.testWithin n m = o.reportedTest m := by
      intro m hm
      obtain ⟨k, hk⟩ := ih m hm
      exact exists_depth_succ ⟨k, fun n hn => (hmembers m hm).testWithin_succ (hk n hn)⟩
    obtain ⟨k, hk⟩ := exists_depth hdeep
    refine ⟨k, fun n hn ns hns => ?_⟩
    obtain rfl := Descriptor.union.inj (hread.symm.trans hns)
    exact hk n hn
  | atom hread => exact ⟨0, fun _ _ _ h => by cases hread.symm.trans h⟩
  | top hread => exact ⟨0, fun _ _ _ h => by cases hread.symm.trans h⟩
  | bottom hread => exact ⟨0, fun _ _ _ h => by cases hread.symm.trans h⟩

end Layered

/-! ## The relation -/

section Relation

variable [BEq α] {o : Oracle α κ π}

/-- **The parts of every sealed atom are layered.** -/
def LayeredParts (o : Oracle α κ π) : Prop :=
  ∀ a, ∀ p ∈ o.expand (.atom a), o.Layered p

/-- An answer level by level is the truth about what the normal form holds. -/
theorem universalWithin_tells {n : Nat} {d : Descriptor α} (h : o.Layered d) :
    TellsTruth (o.universalWithin n d) (o.Below .top (o.normalForm d)) := by
  induction n generalizing d with
  | zero => exact TellsTruth.error
  | succ n ih =>
    rw [below_top_iff, universalWithin]
    cases h with
    | atom hread hform =>
      rw [hread, hform, holdsAll]
      exact TellsTruth.ok Iff.rfl
    | top hread hform =>
      rw [hread, hform, holdsAll]
      exact TellsTruth.ok Iff.rfl
    | bottom hread hform =>
      rw [hread, hform, holdsAll]
      exact TellsTruth.ok Iff.rfl
    | @union _ ms hread hform hmembers =>
      rw [hread, hform, holdsAll_union]
      refine (TellsTruth.anyOrFail fun m hm => ih (hmembers m hm)).congr ?_
      simp only [below_top_iff, List.mem_map, exists_exists_and_eq_and]

/-- An answer about the parts of an atom is the truth. -/
theorem partsWithin_tells (hparts : o.LayeredParts) {ask : Question α}
    {b : Descriptor α} (a : α)
    (hask : ∀ p, o.Layered p → TellsTruth (ask p b) (o.Below (o.normalForm p) (o.normalForm b))) :
    TellsTruth (o.partsWithin ask a b) (o.PartsBelow a (o.normalForm b)) := by
  unfold partsWithin PartsBelow
  split
  · next h => exact TellsTruth.ok (by simp [h])
  · next hne =>
    refine (TellsTruth.allOrFail fun p hp => hask p (hparts a p hp)).congr ?_
    exact ⟨fun h => ⟨hne, h⟩, fun h => h.2⟩

/-! ### One level -/

section Level

variable {ask : Question α} {askUniversal : Descriptor α → Except (Fault α) Bool}
  {a b : Descriptor α} {x y : α} {ms : List (Descriptor α)}

theorem subtypeLevel_bottom (ha : o.normalize a = .bottom) :
    o.subtypeLevel ask askUniversal a b = .ok true := by
  unfold subtypeLevel
  rw [ha]

theorem subtypeLevel_top (hb : o.normalize b = .top) :
    o.subtypeLevel ask askUniversal a b = .ok true := by
  unfold subtypeLevel
  rw [hb]
  cases o.normalize a <;> rfl

theorem subtypeLevel_members (ha : o.normalize a = .union ms) (hb : o.normalize b ≠ .top) :
    o.subtypeLevel ask askUniversal a b = allOrFail (fun m => ask m (o.normalize b)) ms := by
  unfold subtypeLevel
  rw [ha]
  cases h : o.normalize b with
  | top => exact absurd h hb
  | _ => rfl

theorem subtypeLevel_everything (ha : o.normalize a = .top) (hb : o.normalize b ≠ .top) :
    o.subtypeLevel ask askUniversal a b = askUniversal (o.normalize b) := by
  unfold subtypeLevel
  rw [ha]
  cases h : o.normalize b with
  | top => exact absurd h hb
  | _ => rfl

theorem subtypeLevel_nothing (ha : o.normalize a = .atom x) (hb : o.normalize b = .bottom) :
    o.subtypeLevel ask askUniversal a b = .ok false := by
  unfold subtypeLevel
  rw [ha, hb]

theorem subtypeLevel_member (ha : o.normalize a = .atom x) (hb : o.normalize b = .union ms) :
    o.subtypeLevel ask askUniversal a b =
      match anyOrFail (fun m => ask (.atom x) m) ms with
      | .ok false => o.partsWithin ask x (.union ms)
      | answer => answer := by
  unfold subtypeLevel
  generalize o.normalize a = a' at ha ⊢
  generalize o.normalize b = b' at hb ⊢
  subst ha hb
  rfl

theorem subtypeLevel_atoms (ha : o.normalize a = .atom x) (hb : o.normalize b = .atom y) :
    o.subtypeLevel ask askUniversal a b =
      if o.universal y || o.atomicSubtype x y then .ok true
      else o.partsWithin ask x (.atom y) := by
  unfold subtypeLevel
  rw [ha, hb]

end Level

/-- **An answer level by level is the truth** about the relation of normal forms. -/
theorem subtypeWithin_tells (hparts : o.LayeredParts) {n : Nat} {a b : Descriptor α}
    (ha : o.Layered a) (hb : o.Layered b) :
    TellsTruth (o.subtypeWithin n a b) (o.Below (o.normalForm a) (o.normalForm b)) := by
  induction n generalizing a b with
  | zero => exact TellsTruth.error
  | succ n ih =>
    -- what is left of the right side is passed on
    obtain ⟨hleft, hsame, -⟩ := hb.normalize
    by_cases htop : o.normalize b = .top
    · rw [subtypeWithin, subtypeLevel_top htop, ← hsame, htop, normalForm_top]
      exact TellsTruth.ok (iff_of_true rfl (.top _))
    cases ha with
    | bottom hread hform =>
      rw [subtypeWithin, subtypeLevel_bottom hread, hform]
      exact TellsTruth.ok (iff_of_true rfl (.bottom _))
    | top hread hform =>
      rw [subtypeWithin, subtypeLevel_everything hread htop, hform, ← hsame]
      exact universalWithin_tells hleft
    | @union _ ms hread hform hmembers =>
      rw [subtypeWithin, subtypeLevel_members hread htop, hform, ← hsame, below_union_iff]
      refine (TellsTruth.allOrFail fun m hm => ih (hmembers m hm) hleft).congr ?_
      rw [List.forall_mem_map]
    | @atom _ x hread hform hagain hspell =>
      have htells : TellsTruth (o.partsWithin (o.subtypeWithin n) x (o.normalize b))
          (o.PartsBelow x (o.normalForm b)) := by
        rw [← hsame]
        exact partsWithin_tells hparts x fun p hp => ih hp hleft
      cases hb with
      | top hreadb _ => exact absurd hreadb htop
      | bottom hreadb hformb =>
        rw [subtypeWithin, subtypeLevel_nothing hread hreadb, hform, hformb]
        exact TellsTruth.ok (iff_of_false Bool.false_ne_true not_atom_below_bottom)
      | @atom _ y hreadb hformb _ _ =>
        rw [hreadb, hformb] at htells
        rw [subtypeWithin, subtypeLevel_atoms hread hreadb, hform, hformb, atom_below_atom_iff]
        split
        · next h => exact TellsTruth.ok (iff_of_true rfl (.inl (by simpa using h)))
        · next h =>
          have hnone : ¬ (o.universal y = true ∨ o.atomicSubtype x y = true) := by simpa using h
          exact htells.congr (by simp only [hnone, false_or])
      | @union _ ms hreadb hformb hmembers =>
        rw [hreadb, hformb] at htells
        rw [subtypeWithin, subtypeLevel_member hread hreadb, hform, hformb, atom_below_union_iff]
        have hsome : TellsTruth (anyOrFail (fun m => o.subtypeWithin n (.atom x) m) ms)
            (∃ m ∈ ms.map o.normalForm, o.Below (.atom x) m) := by
          have hx := layered_atom hagain hspell
          refine (TellsTruth.anyOrFail fun m hm => ih hx (hmembers m hm)).congr ?_
          rw [normalForm_atom hspell]
          simp only [List.mem_map, exists_exists_and_eq_and]
        split
        · next hd => exact hsome.or_of_denied hd htells
        · next hd => exact hsome.or_of_not_denied hd

/-! ### Depth -/

/-- The recursion has an answer at every sufficient depth. -/
def Settles (o : Oracle α κ π) (a b : Descriptor α) : Prop :=
  ∃ depth, ∀ n ≥ depth, ∃ r, o.subtypeWithin n a b = .ok r

/-- Every question about the parts of an atom is settled. -/
def SettlesParts (o : Oracle α κ π) (x : α) : Prop :=
  ∀ p ∈ o.expand (.atom x), ∀ b, o.Layered b → o.Settles p b

theorem SettlesParts.partsWithin {x : α} (h : o.SettlesParts x) {b : Descriptor α}
    (hb : o.Layered b) :
    ∃ depth, ∀ n ≥ depth, ∃ r, o.partsWithin (o.subtypeWithin n) x b = .ok r := by
  obtain ⟨k, hk⟩ := exists_depth fun p hp => h p hp b hb
  refine ⟨k, fun n hn => ?_⟩
  unfold Oracle.partsWithin
  split
  · exact ⟨false, rfl⟩
  · exact exists_allOrFail_eq_ok (hk n hn)

/-- An atom is settled against everything where its parts are. -/
theorem settles_atom {a : Descriptor α} {x : α} (ha : o.normalize a = .atom x)
    (hx : o.read x = .atom x) (h : o.SettlesParts x) {b : Descriptor α} (hb : o.Layered b) :
    o.Settles a b := by
  induction hb generalizing a with
  | top hread _ => exact exists_depth_succ ⟨0, fun n _ => ⟨true, subtypeLevel_top hread⟩⟩
  | bottom hread _ =>
    exact exists_depth_succ ⟨0, fun n _ => ⟨false, subtypeLevel_nothing ha hread⟩⟩
  | atom hread _ hagain hspell =>
    obtain ⟨k, hk⟩ := h.partsWithin (layered_atom hagain hspell)
    refine exists_depth_succ ⟨k, fun n hn => ?_⟩
    rw [subtypeWithin, subtypeLevel_atoms ha hread]
    split
    · exact ⟨true, rfl⟩
    · exact hk n hn
  | union hread _ hmembers ih =>
    obtain ⟨k, hk⟩ := h.partsWithin (layered_union hmembers)
    obtain ⟨l, hl⟩ := exists_depth fun m hm => ih m hm (a := .atom x) hx
    refine exists_depth_succ ⟨max k l, fun n hn => ?_⟩
    obtain ⟨r, hr⟩ := exists_anyOrFail_eq_ok _ (hl n (le_trans (le_max_right k l) hn))
    rw [subtypeWithin, subtypeLevel_member ha hread, hr]
    cases r with
    | true => exact ⟨true, rfl⟩
    | false => exact hk n (le_trans (le_max_left k l) hn)

/-- **A question is settled where those about the parts of its atoms are.** -/
theorem settles_of_parts {a b : Descriptor α} (ha : o.Layered a) (hb : o.Layered b)
    (h : ∀ x ∈ (o.normalForm a).atoms, o.SettlesParts x) : o.Settles a b := by
  induction ha generalizing b with
  | atom hread hform hagain _ =>
    rw [hform] at h
    exact settles_atom hread hagain (h _ (Descriptor.mem_atoms_atom.2 rfl)) hb
  | bottom hread _ => exact exists_depth_succ ⟨0, fun n _ => ⟨true, subtypeLevel_bottom hread⟩⟩
  | top hread _ =>
    by_cases htop : o.normalize b = .top
    · exact exists_depth_succ ⟨0, fun n _ => ⟨true, subtypeLevel_top htop⟩⟩
    · obtain ⟨k, hk⟩ := hb.normalize.1.universalWithin_eq
      refine exists_depth_succ ⟨k, fun n hn => ?_⟩
      rw [subtypeWithin, subtypeLevel_everything hread htop]
      exact ⟨_, hk n hn⟩
  | union hread hform _ ih =>
    by_cases htop : o.normalize b = .top
    · exact exists_depth_succ ⟨0, fun n _ => ⟨true, subtypeLevel_top htop⟩⟩
    · obtain ⟨k, hk⟩ := exists_depth fun m hm => ih m hm hb.normalize.1 fun x hx => h x (by
        rw [hform, Descriptor.mem_atoms_union]
        exact ⟨_, List.mem_map_of_mem hm, hx⟩)
      refine exists_depth_succ ⟨k, fun n hn => ?_⟩
      rw [subtypeWithin, subtypeLevel_members hread htop]
      exact exists_allOrFail_eq_ok (hk n hn)

/-- A question is settled if only so many expansions nest. -/
theorem settles_of_nestsAtMost (hparts : o.LayeredParts) {n : Nat} {a b : Descriptor α}
    (ha : o.Layered a) (hb : o.Layered b)
    (h : ∀ x ∈ (o.normalForm a).atoms, o.NestsAtMost n x) : o.Settles a b := by
  induction n generalizing a b with
  | zero =>
    refine settles_of_parts ha hb fun x hx p hp => ?_
    rw [show o.expand (.atom x) = [] from h x hx] at hp
    exact absurd hp List.not_mem_nil
  | succ n ih =>
    exact settles_of_parts ha hb fun x hx p hp c hc =>
      ih (hparts x p hp) hc fun y hy => h x hx y ⟨p, hp, hy⟩

/-- **Between layered descriptors the recursion answers as the search does.** -/
theorem Layered.subtypeWithin_eq [EquivBEq α] (hacyclic : o.Acyclic) (hparts : o.LayeredParts)
    {a b : Descriptor α} (ha : o.Layered a) (hb : o.Layered b) :
    ∃ depth, ∀ n ≥ depth, o.subtypeWithin n a b = o.isSubtype a b := by
  obtain ⟨k, hk⟩ := settles_of_nestsAtMost hparts ha hb fun x _ => hacyclic.nestsAtMost (o.rank_le x)
  refine ⟨k, fun n hn => ?_⟩
  obtain ⟨r, hr⟩ := hk n hn
  obtain ⟨s, hs⟩ := hacyclic.isSubtype_answers a b
  have hiff := (subtypeWithin_tells hparts ha hb r hr).trans (isSubtype_tells o a b s hs).symm
  rw [hr, hs, Bool.eq_iff_iff.2 hiff]

/-- **Descriptors that an oracle does not tell from their normal forms**: level by level it
gives the same answers for both, and they are those of the questions about normal forms. -/
structure Interchangeable [Named α] (o : Oracle α κ π) (a b : Descriptor α) : Prop where
  subtype : ∃ depth, ∀ n ≥ depth,
    o.subtypeWithin n a b = o.subtypeWithin n (o.normalForm a) (o.normalForm b) ∧
      o.subtypeWithin n a b = o.isSubtype a b
  answer : ∃ r, o.isSubtype a b = .ok r
  universal : ∃ depth, ∀ n ≥ depth,
    o.universalWithin n a = o.universalWithin n (o.normalForm a) ∧
      o.universalWithin n a = .ok (o.isUniversal a)
  test : ∃ depth, ∀ n ≥ depth,
    o.testWithin n a = o.testWithin n (o.normalForm a) ∧
      o.testWithin n a = o.reportedTest a

/-- **Layered descriptors are interchangeable with their normal forms** if these are layered
and their own normal forms. -/
theorem Layered.interchangeable [EquivBEq α] [Named α] (hacyclic : o.Acyclic) (hparts : o.LayeredParts)
    (hforms : ∀ d, o.Layered (o.normalForm d))
    (hsame : ∀ d, o.normalForm (o.normalForm d) = o.normalForm d) {a b : Descriptor α}
    (ha : o.Layered a) (hb : o.Layered b) : o.Interchangeable a b where
  subtype := by
    obtain ⟨k, hk⟩ := ha.subtypeWithin_eq hacyclic hparts hb
    obtain ⟨l, hl⟩ := (hforms a).subtypeWithin_eq hacyclic hparts (hforms b)
    have hanswers : o.isSubtype (o.normalForm a) (o.normalForm b) = o.isSubtype a b := by
      rw [isSubtype, isSubtype, hsame, hsame]
    refine ⟨max k l, fun n hn => ?_⟩
    rw [hk n (le_trans (le_max_left k l) hn), hl n (le_trans (le_max_right k l) hn), hanswers]
    exact ⟨rfl, rfl⟩
  answer := hacyclic.isSubtype_answers a b
  universal := by
    obtain ⟨k, hk⟩ := ha.universalWithin_eq
    obtain ⟨l, hl⟩ := (hforms a).universalWithin_eq
    have hanswers : o.isUniversal (o.normalForm a) = o.isUniversal a := by
      rw [isUniversal, isUniversal, hsame]
    refine ⟨max k l, fun n hn => ?_⟩
    rw [hk n (le_trans (le_max_left k l) hn), hl n (le_trans (le_max_right k l) hn), hanswers]
    exact ⟨rfl, rfl⟩
  test := by
    obtain ⟨k, hk⟩ := ha.testWithin_eq
    obtain ⟨l, hl⟩ := (hforms a).testWithin_eq
    have hanswers : o.reportedTest (o.normalForm a) = o.reportedTest a := by
      rw [reportedTest, reportedTest, runtimeTest, runtimeTest, hsame]
    refine ⟨max k l, fun n hn => ?_⟩
    rw [hk n (le_trans (le_max_left k l) hn), hl n (le_trans (le_max_right k l) hn), hanswers]
    exact ⟨rfl, rfl⟩

end Relation

end Oracle

end Narrowing
