import Narrowing.Run.Calls
/-!
# Runs in a session

A run that asks for nothing comes to its end by itself: a **quiet** run. What holds at
its end is said by a predicate of the value and the store (`Outcome.Ends`), which goes
along sequencing. A session answers what a run asks for, so a run in a session is taken
apart at each step (`Session.exists_of_run_bind`), and a call whose body is quiet leaves
behind what its body does (`Session.run_call`).
-/

namespace Narrowing

variable {α β : Type}

/-! ## Quiet runs -/

namespace Outcome

/-- **A quiet outcome with an end**: if there is a value, it and the store have a
property; nothing is asked for. -/
def Ends (P : α → Store → Prop) : Outcome α → Prop
  | done a σ => P a σ
  | failed _ _ => True
  | asks .. => False

variable {P : α → Store → Prop} {R : β → Store → Prop} {o : Outcome α}

theorem Ends.bind {f : α → Store → Outcome β} (h : o.Ends P)
    (hf : ∀ a σ, P a σ → (f a σ).Ends R) : (o.bind f).Ends R := by
  cases o with
  | done a σ => exact hf a σ h
  | failed f σ => trivial
  | asks q σ k => exact h.elim

end Outcome

namespace Run

variable {P : α → Store → Prop} {R : β → Store → Prop} {σ : Store}

/-- **Quiet runs in sequence.** -/
theorem ends_bind {x : Run α} {f : α → Run β} (hx : (x σ).Ends P)
    (hf : ∀ a τ, P a τ → (f a τ).Ends R) : ((x >>= f) σ).Ends R := by
  rw [bind_apply]
  exact hx.bind hf

/-- The store is at hand. -/
theorem get_bind (f : Store → Run β) : ((read : Run Store) >>= f) σ = f σ σ := rfl

/-- A truth value counts as what it is. -/
theorem isTrue_bool (b : Bool) (σ : Store) : isTrue (.bool b) σ = .done b σ := by
  cases b <;> rfl

end Run

/-- What is asked for is called if there is room for it. The cases are those the carrying out
looks at before it sees the call. -/
theorem carryOut_call (n : Nat) (calls : Interrupted) (d : Nat) (σ : Store) (ws : List Waiting)
    (f : Value) (args : List Value) (keywords : List (String × Value)) (k : Resumption) :
    carryOut (n + 1) calls ws d (.asks (.call f args keywords) σ k) =
      if d + (if σ.isCode f then 1 else 0) > greatestStack then
        carryOut n calls ws d (k (.error .tooDeep) σ)
      else
        carryOut n calls (.caller k (if σ.isCode f then 1 else 0) :: ws)
          (d + if σ.isCode f then 1 else 0) (Run.perform f args keywords σ) := by
  rcases ws with _ | ⟨_ | _, ws⟩ <;> rfl

/-! ## Sessions -/

namespace Session

open Run

theorem settle_bind (o : Outcome α) (f : α → Store → Outcome β) (calls : Interrupted) :
    settle (o.bind f) calls =
      match settle o calls with
      | (.ok a, s) => settle (f a s.store) s.interrupted
      | (.error e, s) => (.error e, s) := by
  induction o generalizing calls with
  | done a σ => rfl
  | failed e σ => rfl
  | asks q σ k ih =>
    simp only [Outcome.bind, settle]
    exact ih _ _ _

/-- **Runs in sequence** in a session. -/
theorem run_bind (s : Session) (x : Run α) (f : α → Run β) :
    s.run (x >>= f) =
      match s.run x with
      | (.ok a, t) => t.run (f a)
      | (.error e, t) => (.error e, t) := by
  unfold run
  rw [bind_apply]
  exact settle_bind (x s.store) (fun a => f a) s.interrupted

/-- **A run is taken apart**: if it ends in a value, its first part does. -/
theorem exists_of_run_bind {s s' : Session} {x : Run α} {f : α → Run β} {b : β}
    (h : s.run (x >>= f) = (.ok b, s')) :
    ∃ a t, s.run x = (.ok a, t) ∧ t.run (f a) = (.ok b, s') := by
  rw [run_bind] at h
  rcases hx : s.run x with ⟨r, t⟩
  rw [hx] at h
  cases r with
  | error e => cases h
  | ok a => exact ⟨a, t, rfl, h⟩

/-- A run that fails at its beginning fails. -/
theorem run_bind_error {s : Session} {x : Run α} {e : Failure} (h : (s.run x).1 = .error e) (f : α → Run β) :
    (s.run (x >>= f)).1 = .error e := by
  rw [run_bind]
  rcases hx : s.run x with ⟨r, t⟩
  rw [hx] at h
  obtain rfl : r = .error e := h
  rfl

/-- Only what a run does in the session counts. -/
theorem run_congr {s : Session} {x y : Run α} (h : x s.store = y s.store) : s.run x = s.run y := by
  rw [run, run, h]

/-- A run that ends at once leaves the calls that are interrupted alone. -/
theorem run_of_done {s : Session} {x : Run α} {a : α} {σ : Store} (h : x s.store = .done a σ) :
    s.run x = (.ok a, ⟨σ, s.interrupted⟩) := by
  rw [run, h]
  rfl

theorem run_pure {s s' : Session} {a b : α} (h : s.run (pure a) = (.ok b, s')) :
    a = b ∧ s = s' := by
  obtain ⟨hab, rfl⟩ := Prod.mk.inj h
  exact ⟨Except.ok.inj hab, rfl⟩

theorem run_get_bind (s : Session) (f : Store → Run β) :
    s.run ((read : Run Store) >>= f) = s.run (f s.store) := rfl

theorem run_cell?_bind (s : Session) (v : Value) (f : Option Cell → Run β) :
    s.run (cell? v >>= f) = s.run (f (s.store.cell? v)) := rfl

/-- A quiet run leaves behind in a session what holds at its end. -/
theorem run_quiet {s s' : Session} {x : Run α} {P : α → Store → Prop} {a : α}
    (hx : (x s.store).Ends P) (h : s.run x = (.ok a, s')) : P a s'.store := by
  unfold run at h
  revert hx h
  cases x s.store with
  | done b σ =>
    intro hx h
    obtain ⟨hb, rfl⟩ := Prod.mk.inj h
    obtain rfl := Except.ok.inj hb
    exact hx
  | failed e σ =>
    intro hx h
    cases (Prod.mk.inj h).1
  | asks q σ k => exact fun hx => hx.elim

/-- **A call with a quiet body** leaves behind what holds at the end of the body. -/
theorem run_call {s s' : Session} {f w : Value} {args : List Value}
    {keywords : List (String × Value)} {P : Value → Store → Prop}
    (hbody : (perform f args keywords s.store).Ends P)
    (h : s.run (ask (.call f args keywords)) = (.ok w, s')) : P w s'.store := by
  have hroom : ¬ 0 + (if s.store.isCode f then 1 else 0) > greatestStack := by
    unfold greatestStack
    split <;> omega
  have hsteps : greatestSteps = 999999999 + 1 := rfl
  unfold run ask at h
  rw [settle, answer, hsteps, carryOut_call, if_neg hroom] at h
  revert hbody h
  cases perform f args keywords s.store with
  | done v σ =>
    intro hbody h
    obtain ⟨hv, rfl⟩ := Prod.mk.inj h
    obtain rfl := Except.ok.inj hv
    exact hbody
  | failed e σ =>
    intro hbody h
    cases (Prod.mk.inj h).1
  | asks q σ k => exact fun hbody => hbody.elim

end Session

end Narrowing
