import Narrowing.Proofs.Run.Session
/-!
# What goes on after an answer

Two runs that begin in the same way and then differ, such as two calls that both need the
text of a value, ask for the same things until they part. Carrying them out does not
show this at once: what a run goes on with waits below whatever it has asked for, so the
stacks of the two differ all the time, if only in one place. That place is not looked at
before the common part has come to its end (`exists_of_carryOut_bind`).

So how a call goes that works on the outcome of another is settled by the other
(`Session.run_calls`). Whatever is asked for on the way, a run in a session only makes its store
grow (`Session.run_grows`).
-/

namespace Narrowing

variable {α : Type}

/-! ## What stays -/

/-- **What is interrupted goes on like any run**: it only makes a store grow. -/
def Interrupted.Grow (calls : Interrupted) : Prop := ∀ c ∈ calls, ∀ r σ, (c.2 r σ).Grows σ

theorem Store.Grows.progressed (σ : Store) (r : Ref) (progress : Progress) :
    σ.Grows (σ.progressed r progress) := by
  unfold Store.progressed
  split
  · next hr =>
    refine .set fun c hc => ?_
    rw [hr] at hc
    obtain rfl := Option.some.inj hc
    exact ⟨nofun, nofun⟩
  · exact .refl σ

theorem Waiting.grows_leave (w : Waiting) (σ : Store) : σ.Grows (w.leave σ) := by
  cases w with
  | caller => exact .refl σ
  | consumer r => exact .progressed σ r .over

/-! ## Single steps -/

section Steps

variable (n : Nat) (calls : Interrupted) (d : Nat) (σ : Store)

/-- An activation that is asked for its next value refuses or goes on, in a store that has grown. -/
theorem carryOut_resume (r : Ref) (given : Except Failure Value) :
    (∃ answer τ, σ.Grows τ ∧ ∀ (n : Nat) (ws : List Waiting) (k : Resumption),
      carryOut (n + 1) calls ws d (.asks (.resume r given) σ k) =
        carryOut n calls ws d (k answer τ)) ∨
    ∃ calls' o, calls' ⊆ calls ∧ (Interrupted.Grow calls → o.Grows σ) ∧
      ∀ (n : Nat) (ws : List Waiting) (k : Resumption),
        carryOut (n + 1) calls ws d (.asks (.resume r given) σ k) =
          carryOut n calls' (.consumer r k :: ws) (d + 1) o := by
  have hprogress : ∀ progress, σ.Grows (σ.progressed r progress) := .progressed σ r
  by_cases hactivation : ∃ f bindings progress, σ.get? r = some (.activation f bindings progress)
  · obtain ⟨f, bindings, progress, hr⟩ := hactivation
    cases progress with
    | running =>
      exact .inl ⟨.error .badValue, σ, .refl σ, fun n ws k => by rw [carryOut.eq_def]; simp only [hr]⟩
    | paused =>
      cases hfind : calls.find? (fun c => c.1 = r) with
      | some c =>
        refine .inr ⟨calls.filter fun c => c.1 ≠ r, c.2 given (σ.progressed r .running),
          fun _ hc => (List.mem_filter.1 hc).1, fun hcalls => ?_,
          fun n ws k => by rw [carryOut.eq_def]; simp only [hr, hfind]⟩
        exact (hcalls c (List.mem_of_find?_eq_some hfind) _ _).after (hprogress _)
      | none =>
        cases given with
        | ok v =>
          exact .inl ⟨.error (.stopped .none), σ, .refl σ,
            fun n ws k => by simp [carryOut, hr, hfind]⟩
        | error e =>
          exact .inl ⟨.error e, σ, .refl σ, fun n ws k => by simp [carryOut, hr, hfind]⟩
    | fresh =>
      cases given with
      | error e =>
        -- an activation that ends must not end by saying so itself
        obtain ⟨answer, hanswer⟩ : ∃ answer, ∀ k : Resumption,
            (Waiting.consumer r k).answer (.error e) = answer := by
          cases e <;> exact ⟨_, fun _ => rfl⟩
        refine .inl ⟨answer, σ.progressed r .over, hprogress _, fun n ws k => ?_⟩
        rw [carryOut.eq_def, ← hanswer k]
        simp only [hr]
      | ok v =>
        by_cases hv : v.isNull
        · by_cases hroom : d + 1 > greatestStack
          · exact .inl ⟨.error .tooDeep, σ, .refl σ, fun n ws k => by
              rw [carryOut.eq_def]
              simp [hr, hv, hroom]⟩
          · exact .inr ⟨calls, Run.runBody f bindings (σ.progressed r .running),
              List.Subset.refl calls,
              fun _ => ((Run.runBody f bindings).grows _).after (hprogress _),
              fun n ws k => by
                rw [carryOut.eq_def]
                simp [hr, hv, hroom]⟩
        · exact .inl ⟨.error .wrongType, σ, .refl σ, fun n ws k => by
            rw [carryOut.eq_def]
            simp [hr, hv]⟩
    | _ =>
      cases given with
      | ok v =>
        exact .inl ⟨.error (.stopped .none), σ, .refl σ, fun n ws k => by simp [carryOut, hr]⟩
      | error e => exact .inl ⟨.error e, σ, .refl σ, fun n ws k => by simp [carryOut, hr]⟩
  · have hno : ∀ f bindings progress, σ.get? r ≠ some (.activation f bindings progress) :=
      fun f bindings progress h => hactivation ⟨f, bindings, progress, h⟩
    cases given with
    | ok v =>
      exact .inl ⟨.error (.stopped .none), σ, .refl σ, fun n ws k => by simp [carryOut, hno]⟩
    | error e => exact .inl ⟨.error e, σ, .refl σ, fun n ws k => by simp [carryOut, hno]⟩

theorem carryOut_yield_consumer (ws : List Waiting) (r : Ref) (v : Value) (k next : Resumption) :
    carryOut (n + 1) calls (.consumer r k :: ws) d (.asks (.yield v) σ next) =
      carryOut n ((r, next) :: calls) ws (d - 1) (k (.ok v) (σ.progressed r .paused)) := rfl

/-- Nothing consumes what a call yields. -/
def IsCalled : List Waiting → Prop
  | .consumer .. :: _ => False
  | _ => True

theorem isCalled_caller (k : Resumption) (depth : Nat) (ws : List Waiting) :
    IsCalled (.caller k depth :: ws) := trivial

theorem carryOut_yield {ws : List Waiting} (hws : IsCalled ws) (v : Value) (k : Resumption) :
    carryOut (n + 1) calls ws d (.asks (.yield v) σ k) =
      carryOut n calls ws d (k (.error .unsupported) σ) := by
  rcases ws with _ | ⟨_ | _, ws⟩
  · rfl
  · rfl
  · exact hws.elim

/-- What ends is the answer to what waits for it. -/
theorem carryOut_done (w : Waiting) (ws : List Waiting) (v : Value) :
    carryOut (n + 1) calls (w :: ws) d (.done v σ) =
      carryOut n calls ws (d - w.depth) (w.resumption (w.answer (.ok v)) (w.leave σ)) := by
  cases w <;> rfl

theorem carryOut_failed (w : Waiting) (ws : List Waiting) (e : Failure) :
    carryOut (n + 1) calls (w :: ws) d (.failed e σ) =
      carryOut n calls ws (d - w.depth) (w.resumption (w.answer (.error e)) (w.leave σ)) := by
  cases w <;> rfl

end Steps

/-- **Carrying out only makes a store grow**, and what it interrupts goes on in this way. -/
theorem carryOut_grows (n : Nat) {calls : Interrupted} {ws : List Waiting} (d : Nat)
    {o : Outcome Value} {σ : Store} (hcalls : Interrupted.Grow calls)
    (hws : ∀ w ∈ ws, ∀ r τ, (w.resumption r τ).Grows τ) (ho : o.Grows σ) :
    σ.Grows (carryOut n calls ws d o).2.1 ∧
      Interrupted.Grow (carryOut n calls ws d o).2.2 := by
  induction n generalizing calls ws d o σ with
  | zero =>
    cases o with
    | done => exact ⟨ho, hcalls⟩
    | failed => exact ⟨ho, hcalls⟩
    | asks => exact ⟨ho.1, hcalls⟩
  | succ n ih =>
    -- each step goes on from a store that has grown
    cases o with
    | done v τ =>
      cases ws with
      | nil => exact ⟨ho, hcalls⟩
      | cons w ws =>
        obtain ⟨hw, hws⟩ := List.forall_mem_cons.1 hws
        rw [carryOut_done]
        exact ih _ hcalls hws ((hw _ _).after (ho.trans (w.grows_leave τ)))
    | failed e τ =>
      cases ws with
      | nil => exact ⟨ho, hcalls⟩
      | cons w ws =>
        obtain ⟨hw, hws⟩ := List.forall_mem_cons.1 hws
        rw [carryOut_failed]
        exact ih _ hcalls hws ((hw _ _).after (ho.trans (w.grows_leave τ)))
    | asks q τ k =>
      obtain ⟨hτ, hk⟩ := ho
      cases q with
      | call g args keywords =>
        rw [carryOut_call]
        by_cases hroom : d + (if τ.isCode g then 1 else 0) > greatestStack
        · rw [if_pos hroom]
          exact ih _ hcalls hws ((hk _ _).after hτ)
        · rw [if_neg hroom]
          exact ih _ hcalls (List.forall_mem_cons.2 ⟨hk, hws⟩)
            (((Run.perform g args keywords).grows τ).after hτ)
      | resume r given =>
        rcases carryOut_resume calls d τ r given with ⟨answer, υ, hυ, h⟩ | ⟨calls', o, hsub, ho, h⟩
        · rw [h]
          exact ih _ hcalls hws ((hk _ _).after (hτ.trans hυ))
        · rw [h]
          exact ih _ (fun c hc => hcalls c (hsub hc)) (List.forall_mem_cons.2 ⟨hk, hws⟩)
            ((ho hcalls).after hτ)
      | yield v =>
        rcases ws with _ | ⟨_ | ⟨r, next⟩, ws⟩
        · rw [carryOut_yield n calls d τ (show IsCalled [] from trivial)]
          exact ih _ hcalls hws ((hk _ _).after hτ)
        · rw [carryOut_yield n calls d τ (isCalled_caller _ _ _)]
          exact ih _ hcalls hws ((hk _ _).after hτ)
        · obtain ⟨hw, hws⟩ := List.forall_mem_cons.1 hws
          rw [carryOut_yield_consumer]
          exact ih _ (List.forall_mem_cons.2 ⟨hk, hcalls⟩) hws
            ((hw _ _).after (hτ.trans (.progressed τ r .paused)))

/-! ## The common part of two runs -/

namespace Waiting

/-- The same waiting, with something else to go on with. -/
def refill (w : Waiting) (k : Resumption) : Waiting :=
  match w with
  | caller _ depth => caller k depth
  | consumer r _ => consumer r k

@[simp] theorem resumption_refill (w : Waiting) (k : Resumption) :
    (w.refill k).resumption = k := by
  cases w <;> rfl

@[simp] theorem depth_refill (w : Waiting) (k : Resumption) : (w.refill k).depth = w.depth := by
  cases w <;> rfl

@[simp] theorem answer_refill (w : Waiting) (k : Resumption) (r : Except Failure Value) :
    (w.refill k).answer r = w.answer r := by
  cases w with
  | caller => rfl
  | consumer =>
    rcases r with e | v
    · cases e <;> rfl
    · rfl

@[simp] theorem leave_refill (w : Waiting) (k : Resumption) (σ : Store) :
    (w.refill k).leave σ = w.leave σ := by
  cases w <;> rfl

end Waiting

/-- How many functions of code end with all that waits. -/
def stackDepth : List Waiting → Nat
  | [] => 0
  | w :: ws => w.depth + stackDepth ws

/-- **Carrying out comes to an answer**, whatever goes on with it below: it runs out of steps, or
what goes on has the answer, and is as deep as it was. If there are more steps, more are left. -/
def ComesBack (P : List Waiting → Prop) (n d : Nat)
    (run : Nat → List Waiting → Resumption → Except Failure Value × Store × Interrupted) : Prop :=
  (∀ ws k, P ws → (run n ws k).1 = .error .tooDeep) ∨
    ∃ n' calls r σ, n' ≤ n ∧
      ∀ m ws k, P ws → run (n + m) ws k = carryOut (n' + m) calls ws d (k r σ)

/-- One step more. -/
theorem ComesBack.step {P : List Waiting → Prop} {n d : Nat}
    {run run' : Nat → List Waiting → Resumption → Except Failure Value × Store × Interrupted}
    (h : ComesBack P n d run)
    (heq : ∀ n ws k, P ws → run' (n + 1) ws k = run n ws k) : ComesBack P (n + 1) d run' := by
  rcases h with h | ⟨n', calls, r, σ, hn, h⟩
  · exact .inl fun ws k hws => by rw [heq n ws k hws, h ws k hws]
  · refine .inr ⟨n', calls, r, σ, Nat.le_succ_of_le hn, fun m ws k hws => ?_⟩
    rw [Nat.add_right_comm, heq (n + m) ws k hws, h m ws k hws]

/-- The answer is there after one step. -/
theorem ComesBack.now {P : List Waiting → Prop} {n d : Nat}
    {run : Nat → List Waiting → Resumption → Except Failure Value × Store × Interrupted}
    (calls : Interrupted) (r : Except Failure Value) (σ : Store)
    (heq : ∀ n ws k, P ws → run (n + 1) ws k = carryOut n calls ws d (k r σ)) :
    ComesBack P (n + 1) d run := by
  refine .inr ⟨n, calls, r, σ, Nat.le_succ n, fun m ws k hws => ?_⟩
  rw [Nat.add_right_comm, heq (n + m) ws k hws]

/-- What runs above a waiting ends with an answer to it, if there are steps enough. -/
theorem comesBack_above {P : List Waiting → Prop} (n : Nat) (calls : Interrupted) (above : List Waiting) (w : Waiting)
    (d : Nat) (o : Outcome Value) :
    ComesBack P n d fun n ws k =>
      carryOut n calls (above ++ w.refill k :: ws) (stackDepth above + w.depth + d) o := by
  induction n generalizing calls above o with
  | zero =>
    refine .inl fun ws k _ => ?_
    cases o <;> rfl
  | succ n ih =>
    cases o with
    | done v σ =>
      cases above with
      | nil =>
        refine .now calls (w.answer (.ok v)) (w.leave σ) fun n ws k _ => ?_
        rw [List.nil_append, carryOut_done]
        simp [stackDepth]
      | cons w' above =>
        refine (ih calls above (w'.resumption (w'.answer (.ok v)) (w'.leave σ))).step
          fun n ws k _ => ?_
        rw [List.cons_append, carryOut_done, stackDepth]
        congr 1
        omega
    | failed e σ =>
      cases above with
      | nil =>
        refine .now calls (w.answer (.error e)) (w.leave σ) fun n ws k _ => ?_
        rw [List.nil_append, carryOut_failed]
        simp [stackDepth]
      | cons w' above =>
        refine (ih calls above (w'.resumption (w'.answer (.error e)) (w'.leave σ))).step
          fun n ws k _ => ?_
        rw [List.cons_append, carryOut_failed, stackDepth]
        congr 1
        omega
    | asks q σ k₀ =>
      cases q with
      | call g args keywords =>
        by_cases hroom : stackDepth above + w.depth + d + (if σ.isCode g then 1 else 0) >
            greatestStack
        · refine (ih calls above (k₀ (.error .tooDeep) σ)).step fun n ws k _ => ?_
          rw [carryOut_call, if_pos hroom]
        · refine (ih calls (.caller k₀ (if σ.isCode g then 1 else 0) :: above)
            (Run.perform g args keywords σ)).step fun n ws k _ => ?_
          rw [carryOut_call, if_neg hroom, stackDepth, List.cons_append]
          congr 1
          show _ = (if σ.isCode g then 1 else 0) + _ + _ + _
          omega
      | resume r given =>
        rcases carryOut_resume calls (stackDepth above + w.depth + d) σ r given with
          ⟨answer, τ, -, h⟩ | ⟨calls', o', -, -, h⟩
        · exact (ih calls above (k₀ answer τ)).step fun n ws k _ => h n _ k₀
        · refine (ih calls' (.consumer r k₀ :: above) o').step fun n ws k _ => ?_
          rw [h n, stackDepth, List.cons_append]
          congr 1
          show _ = 1 + _ + _ + _
          omega
      | yield v =>
        rcases above with _ | ⟨_ | ⟨r, next⟩, above⟩
        · cases w with
          | caller next depth =>
            exact (ih calls [] (k₀ (.error .unsupported) σ)).step fun n ws k _ =>
              carryOut_yield n calls _ σ (isCalled_caller k depth ws) v k₀
          | consumer r next =>
            refine .now ((r, k₀) :: calls) (.ok v) (σ.progressed r .paused)
              fun n ws k _ => ?_
            refine (carryOut_yield_consumer n calls _ σ ws r v k k₀).trans ?_
            congr 1
            show 0 + 1 + d - 1 = d
            omega
        · exact (ih calls (_ :: above) (k₀ (.error .unsupported) σ)).step fun n ws k _ =>
            carryOut_yield n calls _ σ (isCalled_caller _ _ _) v k₀
        · refine (ih ((r, k₀) :: calls) above (next (.ok v) (σ.progressed r .paused))).step
            fun n ws k _ => ?_
          rw [List.cons_append, carryOut_yield_consumer, stackDepth]
          congr 1
          show 1 + _ + _ + _ - 1 = _
          omega

/-- **A request comes to an answer**, which hangs neither on what goes on with it nor on what
waits below, as long as nothing there consumes what a call yields. -/
theorem comesBack_asks (n : Nat) (calls : Interrupted) (d : Nat) (q : Request) (σ : Store) :
    ComesBack IsCalled n d fun n ws k => carryOut n calls ws d (.asks q σ k) := by
  cases n with
  | zero => exact .inl fun ws k _ => rfl
  | succ n =>
    cases q with
    | call g args keywords =>
      by_cases hroom : d + (if σ.isCode g then 1 else 0) > greatestStack
      · refine .now calls (.error .tooDeep) σ fun n ws k _ => ?_
        rw [carryOut_call, if_pos hroom]
      · refine (comesBack_above n calls [] (.caller Outcome.ofAnswer (if σ.isCode g then 1 else 0))
          d (Run.perform g args keywords σ)).step fun n ws k _ => ?_
        rw [carryOut_call, if_neg hroom, Nat.add_comm d]
        simp [stackDepth, Waiting.refill, Waiting.depth]
    | resume r given =>
      rcases carryOut_resume calls d σ r given with ⟨answer, τ, -, h⟩ | ⟨calls', o', -, -, h⟩
      · exact .now calls answer τ fun n ws k _ => h n ws k
      · refine (comesBack_above n calls' [] (.consumer r Outcome.ofAnswer) d o').step
          fun n ws k _ => ?_
        rw [h n, Nat.add_comm d]
        simp [stackDepth, Waiting.refill, Waiting.depth]
    | yield v =>
      exact .now calls (.error .unsupported) σ fun n ws k hws => carryOut_yield n calls d σ hws v k

/-- What is done in the end, if there is something to do it with. -/
def inTheEnd (f : α → Store → Outcome Value) (r : Except Failure α) (σ : Store) : Outcome Value :=
  match r with
  | .ok a => f a σ
  | .error e => .failed e σ

/-- **Carrying out comes to one point** whatever is done in the end: it runs out of steps, or
comes to where it is to be done. -/
theorem exists_of_carryOut_bind {ws : List Waiting} (hws : IsCalled ws) (n : Nat)
    (calls : Interrupted) (d : Nat) (o : Outcome α) :
    (∀ f, (carryOut n calls ws d (o.bind f)).1 = .error .tooDeep) ∨
      ∃ n' calls' r σ, ∀ f,
        carryOut n calls ws d (o.bind f) = carryOut n' calls' ws d (inTheEnd f r σ) := by
  induction o generalizing n calls with
  | done a σ => exact .inr ⟨n, calls, .ok a, σ, fun f => rfl⟩
  | failed e σ => exact .inr ⟨n, calls, .error e, σ, fun f => rfl⟩
  | asks q σ k ih =>
    rcases comesBack_asks n calls d q σ with h | ⟨n', calls', r, τ, -, h⟩
    · exact .inl fun f => h ws _ hws
    · have hstep : ∀ f, carryOut n calls ws d ((Outcome.asks q σ k).bind f) =
          carryOut n' calls' ws d ((k r τ).bind f) := fun f => h 0 ws _ hws
      exact (ih r τ n' calls').imp
        (fun h' f => by rw [hstep, h' f])
        fun h' => by
          obtain ⟨n'', calls'', r', τ', h'⟩ := h'
          exact ⟨n'', calls'', r', τ', fun f => (hstep f).trans (h' f)⟩

namespace Session

open Run

theorem settle_grows {o : Outcome α} {σ : Store} {calls : Interrupted} (ho : o.Grows σ)
    (hcalls : Interrupted.Grow calls) :
    σ.Grows (settle o calls).2.store ∧ Interrupted.Grow (settle o calls).2.interrupted := by
  induction o generalizing σ calls with
  | done => exact ⟨ho, hcalls⟩
  | failed => exact ⟨ho, hcalls⟩
  | asks q τ k ih =>
    obtain ⟨hτ, hk⟩ := ho
    have hasked : (Outcome.asks q τ Outcome.ofAnswer).Grows σ :=
      ⟨hτ, fun r υ => by cases r <;> exact .refl υ⟩
    obtain ⟨hgrows, hcalls⟩ := carryOut_grows greatestSteps 0 hcalls
      (fun _ (hw : _ ∈ []) => absurd hw List.not_mem_nil) hasked
    exact ih _ _ ((hk _ _).after hgrows) hcalls

/-- **A run in a session** only makes its store grow. -/
theorem run_grows {s t : Session} {x : Run α} {r : Except Failure α} (h : s.run x = (r, t))
    (hcalls : Interrupted.Grow s.interrupted) :
    s.store.Grows t.store ∧ Interrupted.Grow t.interrupted := by
  have hgrows := settle_grows (x.grows s.store) hcalls
  rw [show settle (x s.store) s.interrupted = (r, t) from h] at hgrows
  exact hgrows

/-! ## Two calls -/

/-- What is run for a call is what answers it. -/
theorem run_invoke (s : Session) (g : Value) (args : List Value) :
    s.run (invoke g args) =
      let (r, σ, calls) := answer s.interrupted (.call g args []) s.store
      (r, ⟨σ, calls⟩) := by
  unfold run invoke ask
  rw [settle]
  rcases answer s.interrupted (.call g args []) s.store with ⟨_ | _, σ, calls⟩ <;> rfl

/-- The end of a call that nothing else waits for. -/
theorem carryOut_last (n : Nat) (calls : Interrupted) (d : Nat) (r : Except Failure Value)
    (σ : Store) :
    carryOut n calls [.caller Outcome.ofAnswer 0] d (Outcome.ofAnswer r σ) =
      (if n < 2 then .error .tooDeep else r, σ, calls) := by
  rcases n with _ | _ | n <;> cases r <;> rfl

/-- An outcome that is carried out for a call settles by itself, if there are steps enough. -/
theorem carryOut_eq_settle (o : Outcome Value) (n : Nat) (calls : Interrupted)
    (hn : n < greatestSteps) :
    (carryOut n calls [.caller Outcome.ofAnswer 0] 0 o).1 = .error .tooDeep ∨
      carryOut n calls [.caller Outcome.ofAnswer 0] 0 o =
        ((settle o calls).1, (settle o calls).2.store, (settle o calls).2.interrupted) := by
  induction o generalizing n calls with
  | done v σ =>
    rcases n with _ | _ | n
    · exact .inl rfl
    · exact .inl rfl
    · exact .inr rfl
  | failed e σ =>
    rcases n with _ | _ | n
    · exact .inl rfl
    · exact .inl rfl
    · exact .inr rfl
  | asks q σ k ih =>
    rcases comesBack_asks n calls 0 q σ with h | ⟨n', calls', r, τ, hle, h⟩
    · exact .inl (h _ k (isCalled_caller Outcome.ofAnswer 0 []))
    · -- by itself, the outcome makes the same request with the steps of a session
      have hsteps : n + (greatestSteps - n) = greatestSteps := by omega
      have hanswer : answer calls q σ = (r, τ, calls') := by
        obtain ⟨m, hm⟩ : ∃ m, n' + (greatestSteps - n) = m + 1 := ⟨_, (Nat.succ_pred (by omega)).symm⟩
        have := h (greatestSteps - n) [] Outcome.ofAnswer trivial
        dsimp only at this
        rw [hsteps, hm] at this
        rw [answer, this]
        cases r <;> rfl
      have hsettle : settle (.asks q σ k) calls = settle (k r τ) calls' := by
        rw [settle, hanswer]
      have hcarry : carryOut n calls [.caller Outcome.ofAnswer 0] 0 (.asks q σ k) =
          carryOut n' calls' [.caller Outcome.ofAnswer 0] 0 (k r τ) :=
        h 0 _ k (isCalled_caller Outcome.ofAnswer 0 [])
      rw [hcarry, hsettle]
      exact ih r τ n' calls' (Nat.lt_of_le_of_lt hle hn)

/-- What is no code is carried out with all steps but one. -/
theorem answer_call {s : Session} {g : Value} {args : List Value} {o : Outcome Value}
    (hcode : s.store.isCode g = false) (hperform : perform g args [] s.store = o) :
    answer s.interrupted (.call g args []) s.store =
      carryOut 999999999 s.interrupted [.caller Outcome.ofAnswer 0] 0 o := by
  have hsteps : greatestSteps = 999999999 + 1 := rfl
  have hroom : ¬ 0 + (if s.store.isCode g then 1 else 0) > greatestStack := by
    rw [hcode]
    decide
  rw [answer, hsteps, carryOut_call, if_neg hroom, hcode, hperform]
  rfl

/-- **A call of what is no code** runs as what it does, or it takes too many steps. -/
theorem run_invoke_eq {s : Session} {g : Value} {args : List Value} {x : Run Value}
    (hcode : s.store.isCode g = false) (hperform : perform g args [] s.store = x s.store) :
    s.run (invoke g args) = s.run x ∨ (s.run (invoke g args)).1 = .error .tooDeep := by
  rw [run_invoke, answer_call hcode hperform]
  rcases carryOut_eq_settle (x s.store) 999999999 s.interrupted (by decide) with h | h
  · exact .inr h
  · refine .inl ?_
    rw [h]
    rfl

/-- **How calls go that work on one outcome** is settled by the outcome: they all fail alike,
or they all have their value and leave their store. -/
theorem run_calls (s : Session) (o : Outcome α) :
    (∃ e, ∀ (g : Value) (args : List Value) (f : α → Store → Value × Store),
      s.store.isCode g = false →
      perform g args [] s.store = o.bind (fun a σ => .done (f a σ).1 (f a σ).2) →
        (s.run (invoke g args)).1 = .error e) ∨
    ∃ (a : α) (t : Session), ∀ (g : Value) (args : List Value) (f : α → Store → Value × Store),
      s.store.isCode g = false →
      perform g args [] s.store = o.bind (fun a σ => .done (f a σ).1 (f a σ).2) →
        s.run (invoke g args) = (.ok (f a t.store).1, ⟨(f a t.store).2, t.interrupted⟩) := by
  have hanswer : ∀ (g : Value) (args : List Value) (f : α → Store → Value × Store),
      s.store.isCode g = false →
      perform g args [] s.store = o.bind (fun a σ => .done (f a σ).1 (f a σ).2) →
        answer s.interrupted (.call g args []) s.store =
          carryOut 999999999 s.interrupted [.caller Outcome.ofAnswer 0] 0
            (o.bind fun a σ => .done (f a σ).1 (f a σ).2) :=
    fun g args f => answer_call
  rcases exists_of_carryOut_bind (isCalled_caller Outcome.ofAnswer 0 []) 999999999 s.interrupted 0 o
    with h | ⟨n, calls, r, σ, h⟩
  · refine .inl ⟨.tooDeep, fun g args f hcode hperform => ?_⟩
    rw [run_invoke, hanswer g args f hcode hperform, h]
  · cases r with
    | error e =>
      refine .inl ⟨if n < 2 then .tooDeep else e, fun g args f hcode hperform => ?_⟩
      rw [run_invoke, hanswer g args f hcode hperform, h]
      show (carryOut n calls _ 0 (Outcome.ofAnswer (.error e) σ)).1 = _
      rw [carryOut_last]
      dsimp only
      split <;> rfl
    | ok a =>
      have hend : ∀ f : α → Store → Value × Store,
          carryOut n calls [.caller Outcome.ofAnswer 0] 0
            (inTheEnd (fun a σ => .done (f a σ).1 (f a σ).2) (.ok a) σ) =
            (if n < 2 then .error .tooDeep else .ok (f a σ).1, (f a σ).2, calls) :=
        fun f => carryOut_last n calls 0 (.ok (f a σ).1) (f a σ).2
      by_cases hn : n < 2
      · refine .inl ⟨.tooDeep, fun g args f hcode hperform => ?_⟩
        rw [run_invoke, hanswer g args f hcode hperform, h, hend, if_pos hn]
      · refine .inr ⟨a, ⟨σ, calls⟩, fun g args f hcode hperform => ?_⟩
        rw [run_invoke, hanswer g args f hcode hperform, h, hend, if_neg hn]

end Session

end Narrowing
