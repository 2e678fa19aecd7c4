import Narrowing.Oracle.Recall
import Narrowing.Proofs.Oracle.Search
import Narrowing.Proofs.Oracle.Valuation
import Mathlib.Data.List.Forall2
/-!
# What a hierarchy remembers is what it would find

An oracle that keeps the ancestors it has found answers as one that keeps nothing. What carries
this is that the names found are found for good: whatever is kept of a name is all its
ancestors (`Sound`), at every point of every question, also of one that comes to no answer.

So a question is followed from any sound findings at once (`Recalling.Gives`): it answers what
the relation without findings answers and leaves sound findings behind. The questions in the
middle are taken from the recursion on the two descriptors, and the nested expansions from
the induction on how many are at hand.
-/

namespace Narrowing

/-- **Findings that are sound**: what is kept of a name is all its ancestors. -/
def Sound {β : Type} [BEq β] (h : Hierarchy β) (found : Findings β) : Prop :=
  ∀ e ∈ found, e.2 = h.ancestors e.1

theorem sound_nil {β : Type} [BEq β] (h : Hierarchy β) : Sound h [] :=
  fun _ he => absurd he List.not_mem_nil

namespace Hierarchy

variable {β : Type} [BEq β] {h : Hierarchy β}

/-- **The names reached from one along parents**, and no others. -/
def IsClosure (h : Hierarchy β) (x : β) (xs : List β) : Prop :=
  ∀ y, xs.contains y = true ↔ h.Reaches x y

theorem recall_of_none {x : β} {found : Findings β} (hlookup : found.lookup x = none) :
    (h.recall x).run found = (h.ancestors x, (x, h.ancestors x) :: found) := by
  unfold Hierarchy.recall
  rw [StateT.run_bind, StateT.run_get, pure_bind, hlookup]
  rfl

theorem recall_of_some {x : β} {xs : List β} {found : Findings β}
    (hlookup : found.lookup x = some xs) : (h.recall x).run found = (xs, found) := by
  unfold Hierarchy.recall
  rw [StateT.run_bind, StateT.run_get, pure_bind, hlookup]
  rfl

/-- What is kept of a name by sound findings are the names reached from it. -/
theorem contains_of_lookup [EquivBEq β] {x : β} {xs : List β} {found : Findings β}
    (hfound : Sound h found) (hlookup : found.lookup x = some xs) (y : β) :
    xs.contains y = (h.ancestors x).contains y := by
  have hdeclared : lastDeclared x found.reverse = some xs := by
    rwa [lastDeclared, List.reverse_reverse]
  obtain ⟨z, hmem, hxz⟩ := exists_of_lastDeclared hdeclared
  obtain rfl : xs = h.ancestors z := hfound _ (List.mem_reverse.1 hmem)
  rw [Bool.eq_iff_iff, contains_ancestors_iff, contains_ancestors_iff]
  exact ⟨.congr_left hxz, .congr_left (BEq.symm hxz)⟩

/-- **What is recalled of a name** is what is reached from it, and it is kept. -/
theorem recall_sound [EquivBEq β] (x : β) {found : Findings β} (hfound : Sound h found) :
    ∃ xs found', (h.recall x).run found = (xs, found') ∧
      (∀ y, xs.contains y = (h.ancestors x).contains y) ∧ Sound h found' := by
  cases hlookup : found.lookup x with
  | some xs => exact ⟨xs, found, recall_of_some hlookup, contains_of_lookup hfound hlookup, hfound⟩
  | none =>
    refine ⟨_, _, recall_of_none hlookup, fun _ => rfl, fun e he => ?_⟩
    rcases List.mem_cons.1 he with rfl | he
    · rfl
    · exact hfound e he

end Hierarchy

/-- **A question that answers the same from all sound findings**, and keeps them sound. -/
def Recalling.Gives {α β : Type} [BEq α] (h : Hierarchy (Descriptor α)) (x : Recalling α β)
    (r : Except (Fault α) β) : Prop :=
  ∀ found, Sound h found → ∃ found', x.run.run found = (r, found') ∧ Sound h found'

namespace Recalling

variable {α β γ : Type} [BEq α] {h : Hierarchy (Descriptor α)}

theorem gives_pure (b : β) : Gives h (pure b) (.ok b) := fun found hfound => ⟨found, rfl, hfound⟩

theorem gives_throw (e : Fault α) : Gives h (throw e : Recalling α β) (.error e) :=
  fun found hfound => ⟨found, rfl, hfound⟩

/-- Questions in sequence. -/
theorem Gives.bind {x : Recalling α β} {f : β → Recalling α γ} {r : Except (Fault α) β}
    {g : β → Except (Fault α) γ} (hx : Gives h x r) (hf : ∀ b, r = .ok b → Gives h (f b) (g b)) :
    Gives h (x >>= f) (r >>= g) := by
  intro found hfound
  obtain ⟨found', hrun, hfound'⟩ := hx found hfound
  rw [ExceptT.run_bind, StateT.run_bind, hrun]
  cases r with
  | error e => exact ⟨found', rfl, hfound'⟩
  | ok b => exact hf b rfl found' hfound'

section Connectives

variable {x y : Recalling α Bool} {p q : Except (Fault α) Bool}

/-- One question, or the other if it says no. -/
theorem Gives.or : Gives h x p → Gives h y q → Gives h (do if ← x then return true else y)
    (match p with
      | .ok false => q
      | answer => answer) := by
  have hp : (match p with
      | .ok false => q
      | answer => answer) = p >>= fun b => if b then .ok true else q := by
    rcases p with e | _ | _ <;> rfl
  intro hx hy
  rw [hp]
  refine hx.bind fun b _ => ?_
  cases b with
  | false => exact hy
  | true => exact gives_pure true

/-- One question, and the other if it says yes. -/
theorem Gives.and : Gives h x p → Gives h y q → Gives h (do if ← x then y else return false)
    (match p with
      | .ok true => q
      | answer => answer) := by
  have hp : (match p with
      | .ok true => q
      | answer => answer) = p >>= fun b => if b then q else .ok false := by
    rcases p with e | _ | _ <;> rfl
  intro hx hy
  rw [hp]
  refine hx.bind fun b _ => ?_
  cases b with
  | false => exact gives_pure false
  | true => exact hy

end Connectives

/-- All of some questions, up to the first that fails or says no. -/
theorem gives_allM {γ : Type} {x : γ → Recalling α Bool} {p : γ → Except (Fault α) Bool}
    (l : List γ) (hx : ∀ c ∈ l, Gives h (x c) (p c)) : Gives h (l.allM x) (allOrFail p l) := by
  induction l with
  | nil => exact gives_pure true
  | cons c l ih =>
    have hc := (hx c List.mem_cons_self).and (ih fun d hd => hx d (List.mem_cons_of_mem c hd))
    have hallM : (c :: l).allM x = do if ← x c then l.allM x else return false := by
      rw [List.allM]
      congr
      funext b
      cases b <;> rfl
    have hall : allOrFail p (c :: l) = (match p c with
        | .ok true => allOrFail p l
        | answer => answer) := by
      rw [allOrFail]
      rcases p c with e | _ | _ <;> rfl
    rw [hallM, hall]
    exact hc

end Recalling

namespace NominalTypes

open Recalling

variable {α κ π : Type} [BEq α] (t : NominalTypes α κ π) (everything : κ)

/-- **Whether a name is above another** is recalled as it is. -/
theorem recallAbove_sound [EquivBEq α] (a b : Descriptor α) {found : Findings (Descriptor α)}
    (hfound : Sound t.hierarchy found) :
    ∃ found', (t.recallAbove a b).run found = ((t.hierarchy.ancestors a).contains b, found') ∧
      Sound t.hierarchy found' := by
  obtain ⟨xs, found', hrun, hxs, hfound'⟩ := t.hierarchy.recall_sound a hfound
  refine ⟨found', ?_, hfound'⟩
  rw [recallAbove, StateT.run_bind, hrun, ← hxs]
  rfl

theorem gives_recallAbove [EquivBEq α] (a b : α) :
    Gives t.hierarchy (liftM (t.recallAbove (.atom a) (.atom b)))
      (.ok ((t.oracle everything).atomicSubtype a b)) := by
  intro found hfound
  obtain ⟨found', hrun, hfound'⟩ := recallAbove_sound t (.atom a) (.atom b) hfound
  refine ⟨found', ?_, hfound'⟩
  show StateT.run (Except.ok <$> t.recallAbove (.atom a) (.atom b)) found = _
  rw [StateT.run_map, hrun]
  rfl

section Lifted

variable {ask : Descriptor α → Descriptor α → Recalling α Bool} {q : Question α}

theorem gives_recallPartsBelow (hask : ∀ a b, Gives t.hierarchy (ask a b) (q a b)) (a : α)
    (b : Descriptor α) :
    Gives t.hierarchy (t.recallPartsBelow everything ask a b)
      ((t.oracle everything).partsBelow q a b) := by
  unfold recallPartsBelow Oracle.partsBelow
  cases (t.oracle everything).expand (.atom a) with
  | nil => exact gives_pure false
  | cons part parts => exact gives_allM _ fun part _ => hask _ b

theorem gives_recallAtomBelowSome {a : α} {ms : List (Descriptor α)}
    (hms : ∀ m ∈ ms, Gives t.hierarchy (t.recallAtomBelow everything ask a m)
      ((t.oracle everything).atomBelow q a m)) :
    Gives t.hierarchy (t.recallAtomBelowSome everything ask a ms)
      ((t.oracle everything).atomBelowSome q a ms) := by
  induction ms with
  | nil =>
    rw [recallAtomBelowSome, Oracle.atomBelowSome]
    exact gives_pure false
  | cons m ms ih =>
    rw [recallAtomBelowSome, Oracle.atomBelowSome]
    exact (hms m List.mem_cons_self).or (ih fun n hn => hms n (List.mem_cons_of_mem m hn))

/-- **An atom is below a descriptor** as it is without findings. -/
theorem gives_recallAtomBelow [EquivBEq α]
    (hask : ∀ a b, Gives t.hierarchy (ask a b) (q a b)) (a : α) (b : Descriptor α) :
    Gives t.hierarchy (t.recallAtomBelow everything ask a b)
      ((t.oracle everything).atomBelow q a b) := by
  induction b with
  | atom b =>
    have hparts := gives_recallPartsBelow t everything hask a (.atom b)
    rw [recallAtomBelow, Oracle.atomBelow]
    by_cases hu : (t.oracle everything).universal b = true
    · rw [if_pos hu, hu, Bool.true_or, if_pos rfl]
      exact gives_pure true
    · have habove := gives_recallAbove t everything a b
      rw [if_neg hu, Bool.eq_false_of_not_eq_true hu, Bool.false_or]
      cases hab : (t.oracle everything).atomicSubtype a b <;> rw [hab] at habove
      · exact habove.or hparts
      · exact habove.or hparts
  | top =>
    rw [recallAtomBelow, Oracle.atomBelow]
    exact gives_pure true
  | bottom =>
    rw [recallAtomBelow, Oracle.atomBelow]
    exact gives_pure false
  | union members ih =>
    rw [recallAtomBelow, Oracle.atomBelow]
    exact (gives_recallAtomBelowSome t everything ih).or
      (gives_recallPartsBelow t everything hask a (.union members))

theorem gives_recallAllBelow {ms : List (Descriptor α)} {b : Descriptor α}
    (hms : ∀ m ∈ ms, Gives t.hierarchy (t.recallBelow everything ask m b)
      ((t.oracle everything).descriptorBelow q m b)) :
    Gives t.hierarchy (t.recallAllBelow everything ask ms b)
      ((t.oracle everything).allBelow q ms b) := by
  induction ms with
  | nil =>
    rw [recallAllBelow, Oracle.allBelow]
    exact gives_pure true
  | cons m ms ih =>
    rw [recallAllBelow, Oracle.allBelow]
    exact (hms m List.mem_cons_self).and (ih fun n hn => hms n (List.mem_cons_of_mem m hn))

/-- **A descriptor is below another** as it is without findings. -/
theorem gives_recallBelow [EquivBEq α] (hask : ∀ a b, Gives t.hierarchy (ask a b) (q a b))
    (d b : Descriptor α) :
    Gives t.hierarchy (t.recallBelow everything ask d b)
      ((t.oracle everything).descriptorBelow q d b) := by
  induction d with
  | atom a =>
    rw [recallBelow, Oracle.descriptorBelow]
    exact gives_recallAtomBelow t everything hask a b
  | top =>
    rw [recallBelow, Oracle.descriptorBelow]
    exact gives_pure _
  | bottom =>
    rw [recallBelow, Oracle.descriptorBelow]
    exact gives_pure true
  | union members ih =>
    rw [recallBelow, Oracle.descriptorBelow]
    split
    · exact gives_pure true
    · exact gives_recallAllBelow t everything ih

end Lifted

variable [EquivBEq α]

/-- So it is with any number of nested expansions at hand. -/
theorem gives_recallBelowWithin (n : Nat) (a b : Descriptor α) :
    Gives t.hierarchy (t.recallBelowWithin everything n a b)
      ((t.oracle everything).belowWithin n a b) := by
  induction n generalizing a b with
  | zero => exact gives_recallBelow t everything (fun _ _ => gives_throw .endless) a b
  | succ n ih => exact gives_recallBelow t everything ih a b

theorem gives_recallSubtype (a b : Descriptor α) :
    Gives t.hierarchy (t.recallSubtype everything a b) ((t.oracle everything).isSubtype a b) :=
  gives_recallBelowWithin t everything _ _ _

/-- **Two descriptors compare** as they do without findings. -/
theorem gives_recallCompare (c : Comparison) (a b : Descriptor α) :
    Gives t.hierarchy (t.recallCompare everything c a b) ((t.oracle everything).compare c a b) := by
  have hab := gives_recallSubtype t everything a b
  have hba := gives_recallSubtype t everything b a
  cases c with
  | subtype => exact hab
  | equivalent => exact hab.and hba
  | proper =>
    have hnot : Gives t.hierarchy (do return !(← t.recallSubtype everything b a))
        (((t.oracle everything).isSubtype b a).map (!·)) :=
      hba.bind fun verdict _ => gives_pure !verdict
    exact hab.and hnot

/-! ## Questions in a row -/

/-- **The answer that needs no findings.** -/
def answer : Inquiry α → Reply α
  | .ancestors x => .names (t.hierarchy.ancestors x)
  | .above a b => .verdict (.ok ((t.hierarchy.ancestors a).contains b))
  | .compare c a b => .verdict ((t.oracle everything).compare c a b)

/-- **Answers that say the same**, where names count as a set. -/
def Reply.Same : Reply α → Reply α → Prop
  | .names xs, .names ys => ∀ y, xs.contains y = ys.contains y
  | .verdict r, .verdict r' => r = r'
  | _, _ => False

omit [EquivBEq α] in
theorem Reply.Same.trans_symm {r r' s : Reply α} (hr : r.Same s) (hr' : r'.Same s) :
    r.Same r' := by
  cases s with
  | names zs =>
    cases r with
    | names xs =>
      cases r' with
      | names ys => exact fun y => (hr y).trans (hr' y).symm
      | verdict v => exact hr'.elim
    | verdict v => exact hr.elim
  | verdict w =>
    cases r with
    | names xs => exact hr.elim
    | verdict v =>
      cases r' with
      | names ys => exact hr'.elim
      | verdict v' => exact Eq.trans hr (Eq.symm hr')

/-- **One question** is answered by what has been found as it is without, and findings
stay sound. -/
theorem reply_sound (q : Inquiry α) {found : Findings (Descriptor α)}
    (hfound : Sound t.hierarchy found) :
    ∃ r found', (t.reply everything q).run found = (r, found') ∧
      r.Same (t.answer everything q) ∧ Sound t.hierarchy found' := by
  cases q with
  | ancestors x =>
    obtain ⟨xs, found', hrun, hxs, hfound'⟩ := t.hierarchy.recall_sound x hfound
    refine ⟨.names xs, found', ?_, hxs, hfound'⟩
    rw [reply, StateT.run_bind, hrun]
    rfl
  | above a b =>
    obtain ⟨found', hrun, hfound'⟩ := recallAbove_sound t a b hfound
    refine ⟨t.answer everything (.above a b), found', ?_, Eq.refl _, hfound'⟩
    rw [reply, StateT.run_bind, hrun]
    rfl
  | compare c a b =>
    obtain ⟨found', hrun, hfound'⟩ := gives_recallCompare t everything c a b found hfound
    refine ⟨t.answer everything (.compare c a b), found', ?_, Eq.refl _, hfound'⟩
    rw [reply, StateT.run_bind, hrun]
    rfl

/-- **Questions in a row** are answered each as it is without findings. The induction is on
the questions; the findings of one are those that the next is answered by. -/
theorem replies_sound (qs : List (Inquiry α)) {found : Findings (Descriptor α)}
    (hfound : Sound t.hierarchy found) :
    ∃ rs found', (t.replies everything qs).run found = (rs, found') ∧
      List.Forall₂ (fun q r => r.Same (t.answer everything q)) qs rs ∧
      Sound t.hierarchy found' := by
  induction qs generalizing found with
  | nil => exact ⟨[], found, rfl, .nil, hfound⟩
  | cons q qs ih =>
    obtain ⟨r, found', hrun, hr, hfound'⟩ := reply_sound t everything q hfound
    obtain ⟨rs, found'', hrest, hrs, hfound''⟩ := ih hfound'
    refine ⟨r :: rs, found'', ?_, .cons hr hrs, hfound''⟩
    have hcons : t.replies everything (q :: qs) = do
        let r ← t.reply everything q
        let rs ← t.replies everything qs
        return r :: rs := List.mapM_cons
    rw [hcons, StateT.run_bind, hrun]
    show StateT.run (t.replies everything qs >>= fun rs => pure (r :: rs)) found' = _
    rw [StateT.run_bind, hrest]
    rfl

/-- Two names that are parents of each other, and one that is its own parent and has one that
is not declared. -/
def mutualNames : NominalTypes String Unit Unit where
  hierarchy := ⟨[(.atom "a", [.atom "b"]), (.atom "b", [.atom "a"]),
    (.atom "s", [.atom "s", .atom "u"])]⟩

end NominalTypes

end Narrowing
