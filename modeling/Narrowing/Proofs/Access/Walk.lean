import Narrowing.Proofs.Access.Element
import Narrowing.Proofs.Run.Function
/-!
# Accesses that walk

A generic access to what has no subscripts walks to the element, and what a walk goes
past it takes from a one-shot container for good. An access from the front takes all up
to its element and the element, one from the end takes everything before it counts, and
so does one that finds nothing (`unreadAfter`).

A container of the language that is gone through anew each time has a list of items
(`Store.Rewalks`), and so has an iterator over a list (`Store.Holds`). A walk along either
is the walk along the list, and differs in what it puts back.
-/

namespace Narrowing

/-! ## What accesses answer and leave -/

/-- **What an access to some items answers**: the item at the index, which counts from
the end if it is negative, or an error of the index where there is no such item. -/
def AnswersTo (ys : List Value) (i : Int) (r : Except Failure Value) : Prop :=
  if -ys.length ≤ i ∧ i < ys.length then
    ∃ y, ys[(i % ys.length).toNat]? = some y ∧ r = .ok y
  else ∃ f, r = .error f ∧ f.kind = "IndexError"

/-- **What an access leaves** of the items that a one-shot container has not given. -/
def unreadAfter (ys : List Value) (i : Int) : List Value :=
  if 0 ≤ i ∧ i < ys.length then ys.drop (i.toNat + 1) else []

variable {ys : List Value} {i : Int}

theorem answersTo_ok {y : Value} (hlow : -ys.length ≤ i) (hhigh : i < ys.length)
    (hy : ys[(i % ys.length).toNat]? = some y) : AnswersTo ys i (.ok y) := by
  rw [AnswersTo, if_pos ⟨hlow, hhigh⟩]
  exact ⟨y, hy, rfl⟩

theorem answersTo_error {f : Failure} (h : ¬ (-ys.length ≤ i ∧ i < ys.length))
    (hf : f.kind = "IndexError") : AnswersTo ys i (.error f) := by
  rw [AnswersTo, if_neg h]
  exact ⟨f, rfl, hf⟩

/-- An index that is not negative counts from the front. -/
theorem answersTo_front {f : Failure} (hi : 0 ≤ i) (hf : f.kind = "IndexError") :
    AnswersTo ys i (match ys[i.toNat]? with
      | some y => .ok y
      | none => .error f) := by
  cases hy : ys[i.toNat]? with
  | some y =>
    have hlt : i < ys.length := by
      have := (List.getElem?_eq_some_iff.1 hy).1
      omega
    refine answersTo_ok (by omega) hlt ?_
    rw [Int.emod_eq_of_lt hi hlt, hy]
  | none =>
    refine answersTo_error (fun h => ?_) hf
    have := List.getElem?_eq_none_iff.1 hy
    omega

/-- A negative index counts from the end. -/
theorem answersTo_back {f : Failure} (hi : i < 0) (hf : f.kind = "IndexError") :
    AnswersTo ys i (match itemAt? ys i with
      | some y => .ok y
      | none => .error f) := by
  unfold itemAt?
  rw [if_pos hi]
  by_cases hlow : -i ≤ ys.length
  · have hmod : i % ys.length = ys.length + i := by
      rw [← Int.add_emod_left, Int.emod_eq_of_lt (by omega) (by omega)]
    have hlt : (ys.length + i).toNat < ys.length := by omega
    rw [if_pos hlow, List.getElem?_eq_getElem hlt]
    refine answersTo_ok (by omega) (by omega) ?_
    rw [hmod, List.getElem?_eq_getElem hlt]
  · rw [if_neg hlow]
    exact answersTo_error (fun h => hlow (by omega)) hf

theorem unreadAfter_front (hi : 0 ≤ i) : unreadAfter ys i = ys.drop (i.toNat + 1) := by
  unfold unreadAfter
  split
  · rfl
  · exact (List.drop_eq_nil_of_le (by omega)).symm

theorem unreadAfter_back (hi : i < 0) : unreadAfter ys i = [] :=
  if_neg fun h => absurd h.1 (by omega)

open Run

/-! ## Walks along a list -/

theorem compare_int (i : Int) (σ : Store) :
    compare .lt (.ofInt i) (.ofInt 0) σ = .done (.bool (decide (i < 0))) σ := by
  show Outcome.done (Value.bool (some (Ord.compare i 0) == some .lt)) σ = _
  congr 2
  rw [Bool.eq_iff_iff, decide_eq_true_iff, beq_iff_eq, Option.some.injEq, Int.compare_eq_lt]

/-- A walk answers for what it goes along. -/
theorem answersTo_elementAt (oneShot : Bool) (hi : i ≤ Walk.greatestIndex) :
    AnswersTo ys i (match (Walk.elementAt ⟨ys, oneShot⟩ i).1 with
      | .ok y => .ok y
      | .error fault => .error (walkFailure (.ofInt i) fault)) := by
  unfold Walk.elementAt
  by_cases hneg : i < 0
  · rw [if_pos hneg]
    have hback : AnswersTo ys i _ := answersTo_back (f := .outOfRange) hneg rfl
    refine cast (congrArg _ ?_) hback
    dsimp only
    cases itemAt? ys i <;> rfl
  · rw [if_neg hneg, if_neg (by omega)]
    have hfront : AnswersTo ys i _ := answersTo_front (f := .pastEnd i) (by omega) rfl
    refine cast (congrArg _ ?_) hfront
    dsimp only
    cases ys[i.toNat]? <;> rfl

/-- A walk along a one-shot container leaves what it has not reached. -/
theorem elementAt_snd (hi : i ≤ Walk.greatestIndex) :
    (Walk.elementAt ⟨ys, true⟩ i).2 = ⟨unreadAfter ys i, true⟩ := by
  unfold Walk.elementAt
  by_cases hneg : i < 0
  · rw [if_pos hneg, unreadAfter_back hneg]
    simp [Walk.advance]
  · rw [if_neg hneg, if_neg (by omega), unreadAfter_front (by omega)]
    rfl

/-- A walk along another container leaves it as it is. -/
theorem elementAt_snd_again : (Walk.elementAt ⟨ys, false⟩ i).2 = ⟨ys, false⟩ := by
  unfold Walk.elementAt
  split
  · rfl
  · split <;> rfl

/-! ## Containers whose items are all there -/

namespace Store

variable {σ : Store} {v : Value}

/-- **A container of the language that is gone through anew each time**, with its items. -/
structure Rewalks (σ : Store) (v : Value) (xs : List Value) : Prop where
  lacks : σ.hasSubscript v = false
  walk : σ.walk? v = some ⟨xs, false⟩

/-- **An iterator over a list of items**, with those that it has not given. -/
def Holds (σ : Store) (v : Value) (ys : List Value) : Prop :=
  ∃ r name, v = .ref r ∧ σ.get? r = some (.iterator (.items ys name))

theorem cell?_iterator {r : Ref} {i : Iteration} (h : σ.get? r = some (.iterator i)) :
    σ.cell? (.ref r) = some (.iterator i) := by
  simp [cell?, shown?, h, shared?]

theorem replace_iterator {r : Ref} {i j : Iteration} (h : σ.get? r = some (.iterator i)) :
    σ.replace r (.iterator j) = σ.set r (.iterator j) := by
  simp [replace, put, h, Cell.admits, Cell.containerKind?]

theorem Holds.hasSubscript (h : σ.Holds v ys) : σ.hasSubscript v = false := by
  obtain ⟨r, name, rfl, hr⟩ := h
  simp [Store.hasSubscript, Store.special?, Store.content, cell?_iterator hr]

theorem Holds.walk? (h : σ.Holds v ys) : σ.walk? v = some ⟨ys, true⟩ := by
  obtain ⟨r, name, rfl, hr⟩ := h
  simp [Store.walk?, Store.special?, cell?_iterator hr]

/-- A set is gone through anew each time. -/
theorem rewalks_set {r : Ref} {items : Slotted Value} (h : σ.cell? (.ref r) = some (.set items)) :
    σ.Rewalks (.ref r) items.items :=
  ⟨by simp [hasSubscript, special?, content, h], by simp [walk?, special?, items?, content, h]⟩

/-- So is a set that never changes. -/
theorem rewalks_frozenset (items : List Value) (slots : Slots) (tag : Tag) :
    σ.Rewalks (.frozenset items slots tag) items := ⟨rfl, rfl⟩

/-- So is a view on a dictionary. -/
theorem rewalks_view {r : Ref} {kind : ViewKind} {d : Value} {entries : List (Value × Value)}
    (h : σ.cell? (.ref r) = some (.view kind d)) (hd : σ.entries? d = some entries) :
    σ.Rewalks (.ref r) (viewItems kind entries) :=
  ⟨by simp [hasSubscript, special?, content, h],
    by simp [walk?, special?, items?, content, h, hd]⟩

end Store

variable {s : Session} {v : Value}

/-- A whole number is an index. -/
theorem element_of_walk {σ : Store} {w : Walk Value} (hlacks : σ.hasSubscript v = false)
    (hwalk : σ.walk? v = some w) : element v (.ofInt i) σ = walkTo v w (.ofInt i) i σ := by
  unfold element
  rw [get_bind, if_neg (by rw [hlacks]; exact Bool.false_ne_true), hwalk]
  rfl

theorem walkTo_eq (w : Walk Value) (i : Int) :
    walkTo v w (.ofInt i) i = (do
      leave v (w.elementAt i).2
      match (w.elementAt i).1 with
      | .ok x => return x
      | .error fault => throw (walkFailure (.ofInt i) fault)) := rfl

/-- **A walk in a session** leaves what it has not reached. -/
theorem run_walkTo {w : Walk Value} {t : Session}
    (h : s.run (leave v (w.elementAt i).2) = (.ok (), t)) :
    s.run (walkTo v w (.ofInt i) i) = (match (w.elementAt i).1 with
      | .ok y => .ok y
      | .error fault => .error (walkFailure (.ofInt i) fault), t) := by
  rw [walkTo_eq, Session.run_bind, h]
  dsimp only
  cases (w.elementAt i).1 <;> rfl

theorem run_leave_again (w : Walk Value) (hw : w.oneShot = false) :
    s.run (leave v w) = (.ok (), s) := by
  unfold leave
  split
  · rw [Session.run_cell?_bind]
    split
    · rw [hw]
      rfl
    · rfl
  · rfl

theorem run_leave {r : Ref} {items left : List Value} {name : String}
    (hr : s.store.get? r = some (.iterator (.items items name))) :
    s.run (leave (.ref r) ⟨left, true⟩) =
      (.ok (), ⟨s.store.set r (.iterator (.items left name)), s.interrupted⟩) := by
  show s.run (cell? (.ref r) >>= _) = _
  rw [Session.run_cell?_bind, Store.cell?_iterator hr]
  rw [← Store.replace_iterator hr]
  rfl

/-- **An access to a container that is gone through anew** leaves everything as it is. -/
theorem Store.Rewalks.element (h : s.store.Rewalks v xs) (hi : i ≤ Walk.greatestIndex) :
    ∃ r, s.run (Run.element v (.ofInt i)) = (r, s) ∧ AnswersTo xs i r := by
  refine ⟨_, ?_, answersTo_elementAt false hi⟩
  refine (Session.run_congr (element_of_walk h.lacks h.walk)).trans (run_walkTo (run_leave_again _ ?_))
  rw [elementAt_snd_again]

/-- **An access to an iterator over a list** leaves what stands behind the element. -/
theorem Store.Holds.element (h : s.store.Holds v ys) (hi : i ≤ Walk.greatestIndex) :
    ∃ r t, s.run (Run.element v (.ofInt i)) = (r, t) ∧ AnswersTo ys i r ∧
      t.store.Holds v (unreadAfter ys i) := by
  obtain ⟨r, name, rfl, hr⟩ := id h
  have hleft : s.run (leave (.ref r) (Walk.elementAt ⟨ys, true⟩ i).2) =
      (.ok (), ⟨s.store.set r (.iterator (.items (unreadAfter ys i) name)), s.interrupted⟩) := by
    rw [elementAt_snd hi]
    exact run_leave hr
  refine ⟨_, ⟨s.store.set r (.iterator (.items (unreadAfter ys i) name)), s.interrupted⟩, ?_,
    answersTo_elementAt true hi, r, name, rfl, Store.get?_set hr⟩
  exact (Session.run_congr (element_of_walk h.hasSubscript h.walk?)).trans (run_walkTo hleft)

end Narrowing
