import Narrowing.Proofs.Access.OneShot
import Mathlib.Data.List.Forall2
/-!
# Walking and subscripting a list of the items

What has no subscripts may be put into a list first, and the list subscripted in place of the
walk. Both find one item, or both say that the index is out of range, for every index that a
walk can count to (`element_agrees_iff`). Beyond it a subscript still says that the index is out of
range, and a walk from the front refuses to count: this is the only difference, and indexes
from the end do not have it.

What is put into a list is **told apart** on the way, so the two items are one up to that
(`Value.ReadAs`).
-/

namespace Narrowing

open Run

/-! ## Items told apart -/

/-- **A value as it may be read again**: told apart from all others, if it was not yet. -/
def Value.ReadAs (y z : Value) : Prop := z = y ∨ ∃ σ : Store, z = (σ.tellApart y).1

namespace Value

theorem withTag_withTag (t u : Tag) (y : Value) : (y.withTag t).withTag u = y.withTag u := by
  cases y <;> rfl

/-- What is told apart twice is told apart once. -/
theorem ReadAs.trans {x y z : Value} (hxy : x.ReadAs y) (hyz : y.ReadAs z) : x.ReadAs z := by
  obtain rfl | ⟨σ, rfl⟩ := hxy
  · exact hyz
  obtain rfl | ⟨τ, rfl⟩ := hyz
  · exact .inr ⟨σ, rfl⟩
  -- only what has no tag yet is given one, and of two tags the later one stays
  by_cases hx : (x.tag? = some .none && !x.isShared) = true
  · have hxσ : (σ.tellApart x).1 = x.withTag σ.nextTag := by rw [Store.tellApart, if_pos hx]
    have hxτ : (τ.tellApart x).1 = x.withTag τ.nextTag := by rw [Store.tellApart, if_pos hx]
    rw [hxσ]
    unfold Store.tellApart
    split
    · exact .inr ⟨τ, (withTag_withTag _ _ x).trans hxτ.symm⟩
    · exact .inr ⟨σ, hxσ.symm⟩
  · have hxσ : (σ.tellApart x).1 = x := by rw [Store.tellApart, if_neg hx]
    rw [hxσ]
    exact .inr ⟨τ, rfl⟩

end Value

/-- **Two accesses that answer alike**: with one item, or both with an error of the index. -/
def AnswerAlike : Except Failure Value → Except Failure Value → Prop
  | .ok y, .ok z => y.ReadAs z
  | .error f, .error g => f.kind = "IndexError" ∧ g.kind = "IndexError"
  | _, _ => False

variable {xs ys : List Value} {i : Int} {s t u : Session} {v : Value}

theorem AnswerAlike.trans {a b c : Except Failure Value} (hab : AnswerAlike a b)
    (hbc : AnswerAlike b c) : AnswerAlike a c := by
  cases a <;> cases b <;> cases c <;> try exact hab.elim
  all_goals try exact hbc.elim
  · exact ⟨hab.1, hbc.2⟩
  · exact Value.ReadAs.trans hab hbc

/-- What answers for some items answers alike for the same items read again. -/
theorem AnswersTo.alike {a b : Except Failure Value} (ha : AnswersTo ys i a)
    (hb : AnswersTo xs i b) (h : List.Forall₂ Value.ReadAs ys xs) : AnswerAlike a b := by
  have hlength := h.length_eq
  unfold AnswersTo at ha hb
  rw [hlength] at ha
  split at ha
  · rw [if_pos ‹_›] at hb
    obtain ⟨y, hy, rfl⟩ := ha
    obtain ⟨x, hx, rfl⟩ := hb
    obtain ⟨hltx, rfl⟩ := List.getElem?_eq_some_iff.1 hx
    obtain ⟨hlty, rfl⟩ := List.getElem?_eq_some_iff.1 hy
    exact h.get hlty hltx
  · rw [if_neg ‹_›] at hb
    obtain ⟨f, rfl, hf⟩ := ha
    obtain ⟨g, rfl, hg⟩ := hb
    exact ⟨hf, hg⟩

/-- Items that are told apart one after another. -/
theorem mapM_tellApart (ys : List Value) (σ : Store) :
    ∃ xs τ, ys.mapM tellApart σ = .done xs τ ∧ List.Forall₂ Value.ReadAs ys xs := by
  induction ys generalizing σ with
  | nil => exact ⟨[], σ, rfl, .nil⟩
  | cons y ys ih =>
    obtain ⟨xs, τ, hrest, hxs⟩ := ih (σ.tellApart y).2
    refine ⟨(σ.tellApart y).1 :: xs, τ, ?_, .cons (.inr ⟨σ, rfl⟩) hxs⟩
    rw [List.mapM_cons, bind_apply]
    show ((ys.mapM tellApart >>= _ : Run (List Value)) (σ.tellApart y).2) = _
    rw [bind_apply, hrest]
    rfl

/-! ## Walks along what gives its items -/

/-- What is drained may be followed to any item. The induction is on the rounds. -/
theorem itemAfter_of_drain {j : Value} {rounds : Nat} {given zs : List Value}
    (h : s.run (drain j rounds given) = (.ok zs, u)) :
    ∃ ys, zs = given.reverse ++ ys ∧ ∀ n, (s.run (itemAfter j n)).1 = .ok ys[n]? := by
  induction rounds generalizing s given with
  | zero => cases h
  | succ rounds ih =>
    obtain ⟨r, t, hnext, hrest⟩ := Session.exists_of_run_bind h
    cases r with
    | none =>
      refine ⟨[], ?_, fun n => ?_⟩
      · rw [List.append_nil]
        exact (Session.run_pure hrest).1.symm
      · cases n with
        | zero =>
          show (s.run (next? j)).1 = _
          rw [hnext]
          rfl
        | succ n =>
          unfold itemAfter
          rw [Session.run_bind, hnext]
          rfl
    | some y =>
      obtain ⟨ys, hzs, hitem⟩ := ih hrest
      refine ⟨y :: ys, by rw [hzs, List.reverse_cons, List.append_assoc]; rfl, fun n => ?_⟩
      cases n with
      | zero =>
        show (s.run (next? j)).1 = _
        rw [hnext]
        rfl
      | succ n =>
        unfold itemAfter
        rw [Session.run_bind, hnext]
        exact hitem n

/-- **Items that are given on asking** are walked to as a list of them is. -/
theorem walkAlong_answers (hwalk : s.store.walk? v = none)
    (hitems : s.run (items v) = (.ok xs, u)) (hi : i ≤ Walk.greatestIndex) :
    AnswersTo xs i (s.run (walkAlong v (.ofInt i))).1 := by
  by_cases hneg : i < 0
  · rw [run_walkAlong_back hneg, Session.run_bind, hitems]
    have hback : AnswersTo xs i _ := answersTo_back (f := .outOfRange) hneg rfl
    refine cast (congrArg _ ?_) hback
    dsimp only
    cases itemAt? xs i <;> rfl
  · -- the walk takes from the same iterator as the list would, and stops on the way
    have hdrain : s.run (iterator v >>= fun j => drain j greatestRounds []) = (.ok xs, u) :=
      (congrArg (Session.settle · s.interrupted) (items_of_walk_none hwalk)).symm.trans hitems
    obtain ⟨j, t, hj, hdrain⟩ := Session.exists_of_run_bind hdrain
    obtain ⟨ys, hys, hitem⟩ := itemAfter_of_drain hdrain
    obtain rfl : xs = ys := hys
    have hfront : AnswersTo xs i _ := answersTo_front (f := .pastEnd i) (Int.not_lt.1 hneg) rfl
    rw [run_walkAlong_front (by omega) hi, Session.run_bind, hj]
    refine cast (congrArg _ ?_) hfront
    dsimp only
    rcases hrun : t.run (itemAfter j i.toNat) with ⟨r, w⟩
    obtain rfl : r = .ok xs[i.toNat]? := by rw [← hitem, hrun]
    rw [Session.run_bind, hrun]
    dsimp only
    cases xs[i.toNat]? <;> rfl

/-! ## Walks along what is all there -/

/-- What is walked over has its items all there. -/
theorem items?_of_walk? {σ : Store} {w : Walk Value} (h : σ.walk? v = some w) :
    (σ.special? v "__iter__").isSome = false ∧ σ.items? v = some w.items := by
  unfold Store.walk? at h
  split at h
  case h_1 => cases h
  case h_2 items name hspecial hcell =>
    obtain rfl := Option.some.inj h
    refine ⟨by rw [hspecial]; rfl, ?_⟩
    have hcontent : σ.content v = v := by simp [Store.content, hcell]
    cases v <;> first | cases hcell | simp [Store.items?, hcontent, hcell]
  case h_3 => cases h
  case h_4 hspecial _ _ =>
    obtain ⟨items, hitems, rfl⟩ := Option.map_eq_some_iff.1 h
    exact ⟨by rw [hspecial]; rfl, hitems⟩

/-- The items of what is all there are those it is walked by, told apart. -/
theorem items_of_walk {w : Walk Value} (hwalk : s.store.walk? v = some w)
    (hitems : s.run (items v) = (.ok xs, u)) : List.Forall₂ Value.ReadAs w.items xs := by
  obtain ⟨hspecial, hthere⟩ := items?_of_walk? hwalk
  unfold items at hitems
  rw [Session.run_get_bind, if_neg (by rw [hspecial]; exact Bool.false_ne_true), hthere] at hitems
  obtain ⟨t, hitems⟩ : ∃ t : Session, t.run (w.items.mapM tellApart) = (.ok xs, u) := by
    dsimp only at hitems
    split at hitems
    · -- an iterator is emptied before its items are read
      obtain ⟨-, t, -, hitems⟩ := Session.exists_of_run_bind hitems
      exact ⟨t, hitems⟩
    · exact ⟨s, hitems⟩
  obtain ⟨zs, τ, hread, hzs⟩ := mapM_tellApart w.items t.store
  rw [Session.run_of_done hread] at hitems
  obtain rfl := Except.ok.inj (Prod.mk.inj hitems).1
  exact hzs

/-- What a walk leaves can be put back. -/
theorem run_leave_ends (s : Session) (v : Value) (w : Walk Value) :
    ∃ t, s.run (leave v w) = (.ok (), t) := by
  unfold leave
  split
  · rw [Session.run_cell?_bind]
    split
    · cases w.oneShot <;> exact ⟨_, rfl⟩
    · exact ⟨s, rfl⟩
  · exact ⟨s, rfl⟩

/-- **A walk to an element** answers for what it goes along. -/
theorem walkTo_answers (w : Walk Value) (hi : i ≤ Walk.greatestIndex) :
    AnswersTo w.items i (s.run (walkTo v w (.ofInt i) i)).1 := by
  obtain ⟨t, hleave⟩ := run_leave_ends s v (w.elementAt i).2
  rw [run_walkTo hleave]
  exact answersTo_elementAt w.oneShot hi

/-- No walk goes further than a word counts. -/
theorem walkTo_uncountable (w : Walk Value) (hi : Walk.greatestIndex < i) :
    (s.run (walkTo v w (.ofInt i) i)).1 = .error .badValue := by
  obtain ⟨t, hleave⟩ := run_leave_ends s v (w.elementAt i).2
  have hneg := Int.not_lt.2 (nonneg_of_uncountable hi)
  have hcount : (w.elementAt i).1 = .error .uncountable := by
    unfold Walk.elementAt
    rw [if_neg hneg, if_pos hi]
  rw [run_walkTo hleave, hcount]
  rfl

/-! ## The generic access to what has no subscripts -/

/-- **The generic access walks** along what is all there, or asks for its items. -/
theorem run_element_of_lacks (hlacks : s.store.hasSubscript v = false) (i : Int) :
    s.run (element v (.ofInt i)) = s.run (match s.store.walk? v with
      | some w => walkTo v w (.ofInt i) i
      | none => walkAlong v (.ofInt i)) := by
  refine congrArg (Session.settle · s.interrupted) ?_
  unfold element
  rw [get_bind, if_neg (by rw [hlacks]; exact Bool.false_ne_true)]
  cases s.store.walk? v <;> rfl

/-- It answers for the items as they are read. -/
theorem element_answers (hlacks : s.store.hasSubscript v = false)
    (hitems : s.run (items v) = (.ok xs, u)) (hi : i ≤ Walk.greatestIndex) :
    ∃ ys, AnswersTo ys i (s.run (element v (.ofInt i))).1 ∧ List.Forall₂ Value.ReadAs ys xs := by
  rw [run_element_of_lacks hlacks]
  cases hwalk : s.store.walk? v with
  | some w => exact ⟨w.items, walkTo_answers w hi, items_of_walk hwalk hitems⟩
  | none =>
    exact ⟨xs, walkAlong_answers hwalk hitems hi, List.forall₂_same.2 fun _ _ => .inl rfl⟩

/-- It refuses to count to what no word holds. -/
theorem element_uncountable (hlacks : s.store.hasSubscript v = false)
    (hi : Walk.greatestIndex < i) : (s.run (element v (.ofInt i))).1 = .error .badValue := by
  rw [run_element_of_lacks hlacks]
  cases s.store.walk? v with
  | some w => exact walkTo_uncountable w hi
  | none => exact congrArg Prod.fst (run_walkAlong_uncountable hi)

/-! ## Lists -/

section
variable {r : Ref} (hr : s.store.get? r = some (.list xs))
include hr

theorem cell?_list : s.store.cell? (.ref r) = some (.list xs) := by
  simp [Store.cell?, Store.shown?, hr, Store.shared?]

/-- A list is subscripted by position. -/
theorem plainSubscript_list :
    plainSubscript (.ref r) (.ofInt i) s.store = position xs (.ofInt i) s.store := by
  have hcell := cell?_list hr
  have hcontent : s.store.content (.ref r) = .ref r := by simp [Store.content, hcell]
  unfold plainSubscript
  rw [get_bind]
  simp only [hcontent, hcell, Value.ofInt]

/-- **An access to a list** reads the item at the position. -/
theorem element_list :
    element (.ref r) (.ofInt i) s.store = (match itemAt? xs i with
      | some y => tellApart y s.store
      | none => .failed .outOfRange s.store) := by
  have hcell := cell?_list hr
  have hcontent : s.store.content (.ref r) = .ref r := by simp [Store.content, hcell]
  have hsubscripts : s.store.hasSubscript (.ref r) := by
    simp [Store.hasSubscript, hcontent, hcell]
  have hnew : makesElements s.store (.ref r) = false := by
    simp [makesElements, hcontent, hcell, Value.isMachine]
  have hnone : callSpecial? (.ref r) Store.subscriptMember [.ofInt i] s.store =
      .done none s.store := by
    simp [callSpecial?, Run.get_bind, Store.special?, hcell]
    rfl
  rw [element_of_hasSubscript hsubscripts]
  unfold subscript
  rw [bind_apply, hnone]
  show (plainSubscript (.ref r) (.ofInt i) >>= _ : Run Value) s.store = _
  rw [bind_apply, plainSubscript_list hr]
  show Outcome.bind ((match itemAt? xs i with
    | some y => pure y
    | none => throw .outOfRange : Run Value) s.store) _ = _
  cases itemAt? xs i with
  | none => rfl
  | some y =>
    show (if makesElements s.store (.ref r) then _ else tellApart y : Run Value) s.store = _
    rw [hnew]
    rfl

/-- It answers for the items of the list, read again. -/
theorem element_list_answers :
    ∃ a, AnswersTo xs i a ∧ AnswerAlike a (s.run (element (.ref r) (.ofInt i))).1 := by
  have hrun : s.run (element (.ref r) (.ofInt i)) =
      Session.settle (element (.ref r) (.ofInt i) s.store) s.interrupted := rfl
  rw [hrun, element_list hr]
  by_cases hneg : i < 0
  · refine ⟨_, answersTo_back (f := .outOfRange) hneg rfl, ?_⟩
    cases itemAt? xs i with
    | some y => exact .inr ⟨s.store, rfl⟩
    | none => exact ⟨rfl, rfl⟩
  · refine ⟨_, answersTo_front (f := .outOfRange) (Int.not_lt.1 hneg) rfl, ?_⟩
    rw [itemAt?, if_neg hneg]
    cases xs[i.toNat]? with
    | some y => exact .inr ⟨s.store, rfl⟩
    | none => exact ⟨rfl, rfl⟩

end

/-! ## Both accesses -/

/-- **Walking and subscripting a list of the items agree** on the indexes that a walk can count
to, and on no others: from there on the walk has an error of its value. The list answers
for its items at every index. -/
theorem element_agrees_iff {r : Ref} (hlacks : s.store.hasSubscript v = false)
    (hitems : s.run (items v) = (.ok xs, u)) (hr : t.store.get? r = some (.list xs)) (i : Int) :
    (AnswerAlike (s.run (perform (.builtin .elt) [v, .ofInt i] [])).1
        (t.run (perform (.builtin .elt) [.ref r, .ofInt i] [])).1 ↔ i ≤ Walk.greatestIndex) ∧
      (∃ a, AnswersTo xs i a ∧
        AnswerAlike a (t.run (perform (.builtin .elt) [.ref r, .ofInt i] [])).1) ∧
      (Walk.greatestIndex < i →
        ∃ f, (s.run (perform (.builtin .elt) [v, .ofInt i] [])).1 = .error f ∧
          f.kind = "ValueError") := by
  show (AnswerAlike (s.run (element v (.ofInt i))).1 (t.run (element (.ref r) (.ofInt i))).1 ↔ _) ∧
    (∃ a, AnswersTo xs i a ∧ AnswerAlike a (t.run (element (.ref r) (.ofInt i))).1) ∧
    (_ → ∃ f, (s.run (element v (.ofInt i))).1 = .error f ∧ f.kind = "ValueError")
  obtain ⟨a, ha, hlisted⟩ := element_list_answers (i := i) hr
  have hfar : Walk.greatestIndex < i → (s.run (element v (.ofInt i))).1 = .error .badValue :=
    element_uncountable hlacks
  refine ⟨⟨fun halike => ?_, fun hi => ?_⟩, ⟨a, ha, hlisted⟩, fun hi => ⟨_, hfar hi, rfl⟩⟩
  · by_contra hi
    rw [hfar (Int.not_le.1 hi)] at halike
    revert halike
    cases (t.run (element (.ref r) (.ofInt i))).1 with
    | ok y => exact id
    | error g => exact fun halike => absurd halike.1 (by decide)
  · obtain ⟨ys, hwalked, hread⟩ := element_answers hlacks hitems hi
    exact (hwalked.alike ha hread).trans hlisted

/-- A session with one list. -/
def listSession (xs : List Value) : Session := ⟨{ cells := #[.list xs] }, []⟩

/-- So an iterator that has yet to give two numbers agrees with the list of them at the second
and before the first, and not at the first index that no word holds. -/
theorem element_agrees_iff_counting :
    (∀ i ∈ ([1, -3] : List Int), AnswerAlike
      ((countingSession 0 2).run (perform (.builtin .elt) [.ref ⟨0⟩, .ofInt i] [])).1
      ((listSession [.ofInt 0, .ofInt 1]).run
        (perform (.builtin .elt) [.ref ⟨0⟩, .ofInt i] [])).1) ∧
      ¬ AnswerAlike
        ((countingSession 0 2).run
          (perform (.builtin .elt) [.ref ⟨0⟩, .ofInt (Word.count 63)] [])).1
        ((listSession [.ofInt 0, .ofInt 1]).run
          (perform (.builtin .elt) [.ref ⟨0⟩, .ofInt (Word.count 63)] [])).1 := by
  have hitems : ((countingSession 0 2).run (items (.ref ⟨0⟩))).1 = .ok [.ofInt 0, .ofInt 1] := rfl
  have hlacks : (countingSession 0 2).store.hasSubscript (.ref ⟨0⟩) = false := rfl
  have hlist : (listSession [.ofInt 0, .ofInt 1]).store.get? ⟨0⟩ =
      some (.list [.ofInt 0, .ofInt 1]) := rfl
  have hagree := fun i => (element_agrees_iff hlacks (Prod.ext hitems rfl) hlist i).1
  exact ⟨fun i hi => (hagree i).2 (by revert i; decide),
    fun halike => absurd ((hagree _).1 halike) (by decide)⟩

end Narrowing
