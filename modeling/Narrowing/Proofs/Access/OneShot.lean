import Narrowing.Proofs.Access.Walk
/-!
# One-shot iterators

An iterator that does not go over a list works its items out when it is asked for them,
so a walk along it is a run of code, which is followed item by item: what the iterator
has yet to give is known by what it gives when it is asked again and again (`OneShot`).
Iterators of the language are of this kind, and so is a call that runs by halves
(`Session.Draws`).

Whichever it is, an access answers for the items that the one before has left. That is
the step of an induction over accesses in a row (`elements_answered`).
-/

namespace Narrowing

open Run

variable {ys : List Value} {i : Int} {s : Session} {v : Value}

/-! ## Iterators that work their items out -/

/-- What is not all there is asked for its items. -/
theorem items_of_walk_none {σ : Store} (h : σ.walk? v = none) :
    items v σ = (do drain (← iterator v) greatestRounds [] : Run (List Value)) σ := by
  unfold items
  rw [get_bind]
  by_cases hspecial : (σ.special? v "__iter__").isSome
  · rw [if_pos hspecial]
  · have hitems : σ.items? v = none := by
      rw [Bool.not_eq_true, Option.isSome_eq_false_iff, Option.isNone_iff_eq_none] at hspecial
      unfold Store.walk? at h
      rw [hspecial] at h
      cases hcell : σ.cell? v with
      | none => simpa [hcell] using h
      | some c =>
        rw [hcell] at h
        cases c with
        | iterator i =>
          cases i with
          | items items name => cases h
          | _ =>
            have hcontent : σ.content v = v := by simp [Store.content, hcell]
            cases v <;> first | cases hcell | simp [Store.items?, hcontent, hcell]
        | _ => simpa using h
    rw [if_neg hspecial, hitems]

/-- An index from the end needs all the items. -/
theorem run_walkAlong_back (hi : i < 0) :
    s.run (walkAlong v (.ofInt i)) = s.run (do
      match itemAt? (← items v) i with
      | some y => return y
      | none => throw .outOfRange) := by
  unfold walkAlong
  rw [Session.run_bind, Session.run_of_done (compare_int i s.store)]
  dsimp only
  rw [Session.run_bind, Session.run_of_done (Run.isTrue_bool _ s.store)]
  dsimp only
  rw [if_pos (decide_eq_true hi)]
  rfl

/-- Another index is counted off, if a word holds it. -/
theorem run_walkAlong_counting (hi : 0 ≤ i) :
    s.run (walkAlong v (.ofInt i)) = s.run (do
      if i > Walk.greatestIndex then throw .badValue
      match ← itemAfter (← iterator v) i.toNat with
      | some y => return y
      | none => throw (.pastEnd i)) := by
  have hneg : decide (i < 0) = false := decide_eq_false (Int.not_lt.2 hi)
  unfold walkAlong
  rw [Session.run_bind, Session.run_of_done (compare_int i s.store)]
  dsimp only
  rw [Session.run_bind, Session.run_of_done (Run.isTrue_bool _ s.store)]
  dsimp only
  rw [if_neg (by rw [hneg]; exact Bool.false_ne_true)]
  show s.run (do
    if decide (i < 0) || decide (i > Walk.greatestIndex) then throw .badValue
    match ← itemAfter (← iterator v) i.toNat with
    | some y => return y
    | none => throw (.pastEnd i)) = _
  rw [hneg, Bool.false_or]
  simp only [decide_eq_true_iff]

theorem run_walkAlong_front (hi : 0 ≤ i) (hword : i ≤ Walk.greatestIndex) :
    s.run (walkAlong v (.ofInt i)) = s.run (do
      match ← itemAfter (← iterator v) i.toNat with
      | some y => return y
      | none => throw (.pastEnd i)) := by
  rw [run_walkAlong_counting hi, if_neg (Int.not_lt.2 hword)]

theorem nonneg_of_uncountable (hi : Walk.greatestIndex < i) : 0 ≤ i := by
  have : (0 : Int) ≤ Walk.greatestIndex := by decide
  omega

/-- No walk counts further than a word does. -/
theorem run_walkAlong_uncountable (hi : Walk.greatestIndex < i) :
    s.run (walkAlong v (.ofInt i)) = (.error .badValue, s) := by
  rw [run_walkAlong_counting (nonneg_of_uncountable hi), if_pos hi]
  rfl

/-- **A one-shot iterator as it is seen by who goes along it**: `yet ys` is what holds of a
session in which it has yet to give just `ys`. It is its own iterator, gives these items one
at a time, and once it has ended it stays so. -/
structure OneShot (v : Value) (yet : List Value → Session → Prop) : Prop where
  lacks : ∀ {ys s}, yet ys s → s.store.hasSubscript v = false
  walk : ∀ {ys s}, yet ys s → s.store.walk? v = none
  again : ∀ {ys s}, yet ys s → ∃ t, s.run (iterator v) = (.ok v, t) ∧ yet ys t
  gives : ∀ {y ys s}, yet (y :: ys) s → ∃ t, s.run (next? v) = (.ok (some y), t) ∧ yet ys t
  ends : ∀ {s}, yet [] s →
    ∃ t, s.run (next? v) = (.ok none, t) ∧ (yet [] t ∨ t.store.Holds v [])

namespace OneShot

variable {yet : List Value → Session → Prop} (hv : OneShot v yet)
include hv

/-- **All that is left is given in order.** The induction is on what is left. -/
theorem run_drain (given : List Value) {rounds : Nat} (h : yet ys s)
    (hrounds : ys.length < rounds) :
    ∃ t, s.run (drain v rounds given) = (.ok (given.reverse ++ ys), t) ∧
      (yet [] t ∨ t.store.Holds v []) := by
  induction ys generalizing s given rounds with
  | nil =>
    obtain ⟨rounds, rfl⟩ : ∃ n, rounds = n + 1 := ⟨rounds - 1, by simp at hrounds; omega⟩
    obtain ⟨t, hnext, ht⟩ := hv.ends h
    refine ⟨t, ?_, ht⟩
    unfold drain
    rw [Session.run_bind, hnext, List.append_nil]
    rfl
  | cons y ys ih =>
    -- what has been given is kept in reverse
    obtain ⟨rounds, rfl⟩ : ∃ n, rounds = n + 1 := ⟨rounds - 1, by simp at hrounds; omega⟩
    obtain ⟨t, hnext, ht⟩ := hv.gives h
    obtain ⟨u, hu, hleft⟩ := ih (y :: given) ht (by simpa using hrounds)
    refine ⟨u, ?_, hleft⟩
    unfold drain
    rw [Session.run_bind, hnext]
    dsimp only
    rw [hu, List.reverse_cons, List.append_assoc, List.singleton_append]

/-- **The item so far on** is found by going past those before it. The induction is on how
many these are. -/
theorem run_itemAfter (n : Nat) (h : yet ys s) :
    ∃ t, s.run (itemAfter v n) = (.ok ys[n]?, t) ∧
      (yet (ys.drop (n + 1)) t ∨ t.store.Holds v (ys.drop (n + 1))) := by
  induction n generalizing s ys with
  | zero =>
    cases ys with
    | nil => exact hv.ends h
    | cons y ys =>
      obtain ⟨t, hnext, ht⟩ := hv.gives h
      exact ⟨t, hnext, .inl ht⟩
  | succ n ih =>
    cases ys with
    | nil =>
      obtain ⟨t, hnext, ht⟩ := hv.ends h
      refine ⟨t, ?_, ht⟩
      unfold itemAfter
      rw [Session.run_bind, hnext]
      rfl
    | cons y ys =>
      obtain ⟨t, hnext, ht⟩ := hv.gives h
      obtain ⟨u, hu, hleft⟩ := ih ht
      refine ⟨u, ?_, hleft⟩
      unfold itemAfter
      rw [Session.run_bind, hnext]
      exact hu

/-- An access to it walks along. -/
theorem run_element (h : yet ys s) :
    s.run (Run.element v (.ofInt i)) = s.run (walkAlong v (.ofInt i)) := by
  refine congrArg (Session.settle · s.interrupted) ?_
  unfold Run.element
  rw [get_bind, if_neg (by rw [hv.lacks h]; exact Bool.false_ne_true), hv.walk h]
  rfl

/-- **An access to a one-shot iterator that works its items out** leaves what stands behind
the element. -/
theorem element (h : yet ys s) (hrounds : ys.length < greatestRounds)
    (hi : i ≤ Walk.greatestIndex) :
    ∃ r t, s.run (Run.element v (.ofInt i)) = (r, t) ∧ AnswersTo ys i r ∧
      (yet (unreadAfter ys i) t ∨ t.store.Holds v (unreadAfter ys i)) := by
  rw [hv.run_element h]
  obtain ⟨t, hagain, ht⟩ := hv.again h
  -- from the back all items are needed, from the front only those up to the index
  by_cases hneg : i < 0
  · obtain ⟨u, hdrain, hu⟩ := hv.run_drain [] ht hrounds
    have hitems : s.run (items v) = (.ok ys, u) := by
      refine (congrArg (Session.settle · s.interrupted) (items_of_walk_none (hv.walk h))).trans ?_
      show s.run (iterator v >>= fun j => drain j greatestRounds []) = _
      rw [Session.run_bind, hagain]
      exact hdrain
    rw [run_walkAlong_back hneg, unreadAfter_back hneg]
    refine ⟨_, u, ?_, answersTo_back (f := .outOfRange) hneg rfl, hu⟩
    rw [Session.run_bind, hitems]
    dsimp only
    cases itemAt? ys i <;> rfl
  · obtain ⟨u, hitem, hu⟩ := hv.run_itemAfter i.toNat ht
    rw [run_walkAlong_front (by omega) hi, unreadAfter_front (by omega)]
    refine ⟨_, u, ?_, answersTo_front (f := .pastEnd i) (by omega) rfl, hu⟩
    rw [Session.run_bind, hagain]
    dsimp only
    rw [Session.run_bind, hitem]
    dsimp only
    cases ys[i.toNat]? <;> rfl

end OneShot

/-! ## What works its items out -/

namespace Store

variable {σ : Store}

/-- **What works its items out when it is asked for them**: an iterator that does not go over
a list, or a call that runs by halves. -/
def IsLazy (σ : Store) (v : Value) : Prop :=
  ∃ r, v = .ref r ∧
    ((∃ i, σ.get? r = some (.iterator i) ∧ ∀ items name, i ≠ .items items name) ∨
      ∃ f bindings progress, σ.get? r = some (.activation f bindings progress) ∧
        f.isAwaited = false)

theorem cell?_activation {r : Ref} {f : Function} {bindings : List (String × Value)}
    {progress : Progress} (h : σ.get? r = some (.activation f bindings progress)) :
    σ.cell? (.ref r) = some (.activation f bindings progress) := by
  simp [cell?, shown?, h, shared?]

theorem IsLazy.hasSubscript (h : σ.IsLazy v) : σ.hasSubscript v = false := by
  obtain ⟨r, rfl, ⟨i, hr, -⟩ | ⟨f, bindings, progress, hr, -⟩⟩ := h
  · simp [Store.hasSubscript, special?, content, cell?_iterator hr]
  · simp [Store.hasSubscript, special?, content, cell?_activation hr]

theorem IsLazy.walk? (h : σ.IsLazy v) : σ.walk? v = none := by
  obtain ⟨r, rfl, ⟨i, hr, hi⟩ | ⟨f, bindings, progress, hr, -⟩⟩ := h
  · unfold Store.walk?
    simp only [special?, cell?_iterator hr]
  · simp [Store.walk?, special?, items?, content, cell?_activation hr]

/-- It is its own iterator. -/
theorem IsLazy.iterator {s : Session} (h : s.store.IsLazy v) :
    s.run (Run.iterator v) = (.ok v, s) := by
  unfold Run.iterator
  rw [Session.run_get_bind]
  obtain ⟨r, rfl, ⟨i, hr, -⟩ | ⟨f, bindings, progress, hr, hf⟩⟩ := h
  · rw [cell?_iterator hr]
    rfl
  · rw [cell?_activation hr]
    dsimp only
    rw [hf]
    rfl

end Store

/-- What has no more items to give, however often it is asked. -/
def Session.IsSpent (v : Value) (s : Session) : Prop :=
  s.store.Holds v [] ∨ s.store.IsLazy v ∧ s.run (next? v) = (.ok none, s)

/-- **The items that are worked out**: those given when they are asked for one after
another. -/
inductive Session.Draws (v : Value) : List Value → Session → Prop
  | ends {s t : Session} : s.store.IsLazy v → s.run (next? v) = (.ok none, t) → t.IsSpent v →
      Draws v [] s
  | gives {s t : Session} {y : Value} {ys : List Value} : s.store.IsLazy v →
      s.run (next? v) = (.ok (some y), t) → Draws v ys t → Draws v (y :: ys) s

theorem Session.Draws.isLazy (h : s.Draws v ys) : s.store.IsLazy v := by
  cases h <;> assumption

/-- **What works its items out is a one-shot iterator.** -/
theorem oneShot_draws (v : Value) : OneShot v (Session.Draws v) where
  lacks h := h.isLazy.hasSubscript
  walk h := h.isLazy.walk?
  again h := ⟨_, h.isLazy.iterator, h⟩
  gives
    | .gives _ hnext hrest => ⟨_, hnext, hrest⟩
  ends
    | .ends _ hnext hspent => ⟨_, hnext, match hspent with
      | .inl hholds => .inr hholds
      | .inr ⟨hlazy, hover⟩ => .inl (.ends hlazy hover (.inr ⟨hlazy, hover⟩))⟩

/-! ## Accesses in a row -/

/-- **What accesses in a row answer** if each leaves so many of the items that it finds. -/
def Answered (left : List Value → Int → List Value) :
    List Value → List Int → List (Except Failure Value) → Prop
  | _, [], [] => True
  | ys, i :: is, r :: rs => AnswersTo ys i r ∧ Answered left (left ys i) is rs
  | _, _, _ => False

/-- **Generic accesses in a row** to one value: their results, and the session after
them. -/
def Session.elements (v : Value) : List Int → Session → List (Except Failure Value) × Session
  | [], s => ([], s)
  | i :: is, s =>
    let (r, t) := s.run (Run.perform (.builtin .elt) [v, .ofInt i] [])
    let (rs, u) := elements v is t
    (r :: rs, u)

/-- What is gone along has its items all there, or works them out. -/
def Unread (v : Value) (yet : List Value → Session → Prop) (ys : List Value) (s : Session) :
    Prop :=
  s.store.Holds v ys ∨ yet ys s ∧ ys.length < greatestRounds

theorem length_unreadAfter_le : (unreadAfter ys i).length ≤ ys.length := by
  unfold unreadAfter
  split
  · rw [List.length_drop]
    omega
  · exact Nat.zero_le _

/-- **An access to a one-shot iterator**: what it answers, and what is unread after it. -/
theorem Unread.element {yet : List Value → Session → Prop} (hv : OneShot v yet)
    (h : Unread v yet ys s) (hi : i ≤ Walk.greatestIndex) :
    ∃ r t, s.run (Run.element v (.ofInt i)) = (r, t) ∧ AnswersTo ys i r ∧
      Unread v yet (unreadAfter ys i) t := by
  obtain hholds | ⟨hyet, hrounds⟩ := h
  · obtain ⟨r, t, hrun, hr, ht⟩ := hholds.element hi
    exact ⟨r, t, hrun, hr, .inl ht⟩
  · obtain ⟨r, t, hrun, hr, ht | ht⟩ := hv.element hyet hrounds hi
    · exact ⟨r, t, hrun, hr, .inr ⟨ht, Nat.lt_of_le_of_lt length_unreadAfter_le hrounds⟩⟩
    · exact ⟨r, t, hrun, hr, .inl ht⟩

/-- **The accesses of a row answer one after another.** Each answers for what the ones
before it have left, whether or not they found an item. The induction is on the row. -/
theorem elements_answered {yet : List Value → Session → Prop} (hv : OneShot v yet)
    (is : List Int) (his : ∀ i ∈ is, i.natAbs < Word.count 63) :
    (∀ xs s, Unread v yet xs s →
      Answered unreadAfter xs is (s.elements v is).1 ∧
        Unread v yet (is.foldl unreadAfter xs) (s.elements v is).2) ∧
    ∀ (xs) (s : Session), s.store.Rewalks v xs →
      Answered (fun xs _ => xs) xs is (s.elements v is).1 ∧ (s.elements v is).2 = s := by
  induction is with
  | nil => exact ⟨fun xs s h => ⟨trivial, h⟩, fun xs s h => ⟨trivial, rfl⟩⟩
  | cons i is ih =>
    obtain ⟨ihonce, ihagain⟩ := ih fun j hj => his j (List.mem_cons_of_mem _ hj)
    have hi : i ≤ Walk.greatestIndex := by
      have := his i List.mem_cons_self
      unfold Walk.greatestIndex
      omega
    constructor
    · intro xs s h
      obtain ⟨r, t, hrun, hr, ht⟩ := h.element hv hi
      have hrun : s.run (perform (.builtin .elt) [v, .ofInt i] []) = (r, t) := hrun
      obtain ⟨hrs, hleft⟩ := ihonce _ t ht
      rw [Session.elements, hrun]
      exact ⟨⟨hr, hrs⟩, hleft⟩
    · intro xs s h
      obtain ⟨r, hrun, hr⟩ := h.element hi
      have hrun : s.run (perform (.builtin .elt) [v, .ofInt i] []) = (r, s) := hrun
      obtain ⟨hrs, hleft⟩ := ihagain xs s h
      rw [Session.elements, hrun]
      exact ⟨⟨hr, hrs⟩, hleft⟩

/-! ## An iterator and a set -/

/-- A session with a set of one number and an iterator that has yet to count off so many. -/
def countingSession (n : Int) (left : Nat) : Session :=
  ⟨{ cells := #[.iterator (.numbers n 1 left), .set ⟨[.ofInt 7], {}⟩] }, []⟩

theorem countingSession_draws : (countingSession 0 2).Draws (.ref ⟨0⟩) [.ofInt 0, .ofInt 1] := by
  have hlazy : ∀ n left, (countingSession n left).store.IsLazy (.ref ⟨0⟩) :=
    fun n left => ⟨⟨0⟩, rfl, .inl ⟨.numbers n 1 left, rfl, by simp⟩⟩
  have hspent : Session.IsSpent (.ref ⟨0⟩)
      ⟨(countingSession 2 0).store.set ⟨0⟩ (.iterator (.items [] "range_iterator")), []⟩ :=
    .inl ⟨⟨0⟩, _, rfl, rfl⟩
  exact .gives (hlazy 0 2) rfl (.gives (hlazy 1 1) rfl (.ends (hlazy 2 0) rfl hspent))

/-- So accesses use the iterator up, and leave the set as it is. -/
theorem elements_answered_counting :
    (∀ i ∈ [0, -1, 0], i.natAbs < Word.count 63) ∧
      Answered unreadAfter [.ofInt 0, .ofInt 1] [0, -1, 0]
        ((countingSession 0 2).elements (.ref ⟨0⟩) [0, -1, 0]).1 ∧
      Unread (.ref ⟨0⟩) (Session.Draws (.ref ⟨0⟩)) []
        ((countingSession 0 2).elements (.ref ⟨0⟩) [0, -1, 0]).2 ∧
      Answered (fun xs _ => xs) [.ofInt 7] [0, -1, 0]
        ((countingSession 0 2).elements (.ref ⟨1⟩) [0, -1, 0]).1 := by
  have hword : ∀ i ∈ [0, -1, 0], i.natAbs < Word.count 63 := by decide
  have hunread : Unread (.ref ⟨0⟩) (Session.Draws (.ref ⟨0⟩)) _ (countingSession 0 2) :=
    .inr ⟨countingSession_draws, by decide⟩
  have hiterator := (elements_answered (oneShot_draws (.ref ⟨0⟩)) _ hword).1 _ _ hunread
  have hset := (elements_answered (oneShot_draws (.ref ⟨1⟩)) _ hword).2 _ (countingSession 0 2)
    (Store.rewalks_set rfl)
  exact ⟨hword, hiterator.1, hiterator.2, hset.1⟩

end Narrowing
