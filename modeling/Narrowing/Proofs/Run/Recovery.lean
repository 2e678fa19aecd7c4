import Narrowing.Proofs.Run.Session
import Narrowing.Run.Callback
import Narrowing.Value.Assertion
/-!
# What an assertion recovers from

An assertion checks a value, hands the failure of a refused one to a callback, and goes on with
what the callback gives back. A callback may keep in mind what it was given, so what it gives
back hangs on all failures so far and on the session (`Replacing`).

The values that come up are refused one after another, up to the one at which the assertion
ends (`Tried`). It ends in one of six ways (`Ends`), and whichever it is, the callback has been
given the refused values in order, each with its number: those before the last value, and the
last as well if the callback itself fails (`assertType_ends`).
-/

namespace Narrowing

/-! ## Runs beside a session -/

namespace Beside

variable {h α β : Type}

/-- What is done beside a session, from a session and a memory on. -/
def run (x : Beside h α) (s : Session) (memory : h) : Except Failure α × Session × h :=
  x (s, memory)

theorem run_bind (x : Beside h α) (f : α → Beside h β) (s : Session) (memory : h) :
    (x >>= f).run s memory =
      match x.run s memory with
      | (.ok a, t, memory) => (f a).run t memory
      | (.error e, t, memory) => (.error e, t, memory) := by
  show (match x (s, memory) with
    | (r, p) => ExceptT.bindCont f r p) = _
  unfold run
  rcases x (s, memory) with ⟨_ | a, t, memory'⟩ <;> rfl

theorem run_ofRun (x : Run α) (s : Session) (memory : h) :
    (liftM x : Beside h α).run s memory = ((s.run x).1, (s.run x).2, memory) := rfl

end Beside

/-! ## A round of the loop -/

/-- **What the check of a value answers** in a session. -/
def Session.checks (s : Session) (o : TypeDecider) (expected : TypeDescriptor) (v : Value) :
    Except (Decider.CheckFault Spelling PredicateFailure) Bool :=
  o.check (s.store.isInstance v) (s.store.holds v) expected

variable {o : TypeDecider} {expected : TypeDescriptor} {s t : Session} {v w : Value}

/-- Checking a value leaves the session alone. -/
theorem run_checkType :
    s.run (Run.checkType o expected v) =
      match s.checks o expected v with
      | .ok true => (.ok none, s)
      | .ok false => (.ok (some ⟨v, expected, 0⟩), s)
      | .error f => (.error (Run.checkFailure f), s) := by
  have hrun : Run.checkType o expected v s.store =
      ((Run.ofExcept ((s.checks o expected v).mapError Run.checkFailure) >>= fun belongs =>
        pure (if belongs then none else some ⟨v, expected, 0⟩) : Run _)) s.store := rfl
  unfold Session.run
  rw [hrun]
  rcases s.checks o expected v with f | _ | _ <;> rfl

/-- The loop of an assertion, with a callback, after so many recoveries. -/
abbrev assertFrom {h : Type} (o : TypeDecider) (expected : TypeDescriptor)
    (recover : TypeFailure → Beside h Value) (limit : Int) (made : Nat) (v : Value) :
    Beside h Value :=
  recoverFrom expected (fun v => liftM (Run.checkType o expected v)) recover
    (fun v attempts => liftM (Run.refuse expected v attempts)) limit made v

variable {h : Type} {recover : TypeFailure → Beside h Value} {limit : Int} {made : Nat}
  {memory : h}

/-- A value that is accepted is given back at once. -/
theorem run_assertFrom_accepted (hv : s.checks o expected v = .ok true) :
    (assertFrom o expected recover limit made v).run s memory = (.ok v, s, memory) := by
  unfold assertFrom
  rw [recoverFrom, Beside.run_bind, Beside.run_ofRun, run_checkType, hv]
  rfl

theorem run_assertFrom_undecided {f : Decider.CheckFault Spelling PredicateFailure}
    (hv : s.checks o expected v = .error f) :
    (assertFrom o expected recover limit made v).run s memory =
      (.error (Run.checkFailure f), s, memory) := by
  unfold assertFrom
  rw [recoverFrom, Beside.run_bind, Beside.run_ofRun, run_checkType, hv]

/-- A refused value is the last if no recovery is left. -/
theorem run_assertFrom_refused (hv : s.checks o expected v = .ok false)
    (hmade : limit ≤ made) :
    (assertFrom o expected recover limit made v).run s memory =
      ((s.run (Run.refuse expected v made)).1, (s.run (Run.refuse expected v made)).2, memory) := by
  unfold assertFrom
  rw [recoverFrom, Beside.run_bind, Beside.run_ofRun, run_checkType, hv]
  dsimp only
  rw [if_pos hmade]
  rfl

/-- **A value is refused** with the beginning of its literal, if it has one and what was expected
can be written. -/
theorem run_refuse :
    s.run (Run.refuse expected v made) =
      match s.run (Run.literal v) with
      | (.ok text, t) =>
        (.error (if expected.isWritable then
          .refused v expected made (String.ofList (text.toList.take LibraryError.excerptLength))
          else .badValue), t)
      | (.error e, t) => (.error e, t) := by
  unfold Run.refuse Run.excerpt Descriptor.isWritable
  rw [Session.run_bind, Session.run_bind]
  rcases s.run (Run.literal v) with ⟨_ | text, t⟩
  · rfl
  · show t.run (Run.writable (typeText? expected) >>= _) = _
    rw [Session.run_bind]
    unfold typeText?
    cases expected.name? <;> rfl

/-- **A refused value is handed to the callback** if there is, with the number of the recovery;
what it gives back takes the place of the value. -/
theorem run_assertFrom_recovering (hv : s.checks o expected v = .ok false)
    (hmade : ¬ limit ≤ made) :
    (assertFrom o expected recover limit made v).run s memory =
      match (recover ⟨v, expected, made + 1⟩).run s memory with
      | (.ok w, t, memory) => (assertFrom o expected recover limit (made + 1) w).run t memory
      | (.error e, t, memory) => (.error e, t, memory) := by
  unfold assertFrom
  rw [recoverFrom, Beside.run_bind, Beside.run_ofRun, run_checkType, hv]
  dsimp only
  rw [if_neg hmade]
  rw [Beside.run_bind]
  rcases (recover ⟨v, expected, made + 1⟩).run s memory with ⟨_ | w, t, memory'⟩ <;> rfl

/-! ## Callbacks that keep in mind what they are given -/

/-- **What a callback gives back**, by all failures that it has been given, the present one
last, and by the session. -/
abbrev Replacing := List TypeFailure → Session → Except Failure Value × Session

/-- **A callback** that keeps the failures it is given in mind. -/
def Replacing.callback (next : Replacing) (f : TypeFailure) : Beside (List TypeFailure) Value :=
  fun (s, seen) =>
    let (r, t) := next (seen ++ [f]) s
    (r, (t, seen ++ [f]))

/-- **The failures of refused values**, numbered in order. -/
def failuresOf (expected : TypeDescriptor) (vs : List Value) : List TypeFailure :=
  vs.mapIdx fun i v => ⟨v, expected, i + 1⟩

theorem failuresOf_concat (vs : List Value) :
    failuresOf expected (vs ++ [v]) = failuresOf expected vs ++ [⟨v, expected, vs.length + 1⟩] := by
  simp only [failuresOf, List.mapIdx_concat]

/-- The limit of recoveries: none without a callback. -/
def recoveryLimit (recover : Option Replacing) (limit : Int) : Int :=
  if recover.isSome then limit else 0

/-- **How many recoveries there may be**; a limit below zero is none. -/
def recoveries (recover : Option Replacing) (limit : Int) : Nat :=
  (recoveryLimit recover limit).toNat

/-- **Values refused one after another** from the first one on, with the value that stands in
the place of the last of them, and the session in which it does. -/
inductive Tried (o : TypeDecider) (expected : TypeDescriptor) (recover : Option Replacing)
    (v₀ : Value) (s₀ : Session) : List Value → Value → Session → Prop
  | first : Tried o expected recover v₀ s₀ [] v₀ s₀
  | again {vs : List Value} {v w : Value} {s t : Session} {next : Replacing}
      (h : Tried o expected recover v₀ s₀ vs v s) (hv : s.checks o expected v = .ok false)
      (hrecover : recover = some next)
      (hnext : next (failuresOf expected (vs ++ [v])) s = (.ok w, t)) :
      Tried o expected recover v₀ s₀ (vs ++ [v]) w t

/-- **How an assertion ends** at a value, after some that were refused: in a result, a session,
and the failures that the callback was given. -/
inductive Ends (o : TypeDecider) (expected : TypeDescriptor) (recover : Option Replacing)
    (limit : Int) (vs : List Value) (v : Value) (s : Session) :
    Except Failure Value × Session × List TypeFailure → Prop
  /-- The value is accepted. -/
  | accepted (hv : s.checks o expected v = .ok true) :
      Ends o expected recover limit vs v s (.ok v, s, failuresOf expected vs)
  /-- It is refused after all recoveries, and reported with the beginning of its literal. -/
  | refused {text : String} {t : Session} (hv : s.checks o expected v = .ok false)
      (hlast : vs.length = recoveries recover limit)
      (hliteral : s.run (Run.literal v) = (.ok text, t)) (hexpected : expected.isWritable) :
      Ends o expected recover limit vs v s
        (.error (.refused v expected vs.length
          (String.ofList (text.toList.take LibraryError.excerptLength))),
          t, failuresOf expected vs)
  /-- It is refused after all recoveries, but has no literal to be reported with. -/
  | unreported {e : Failure} {t : Session} (hv : s.checks o expected v = .ok false)
      (hlast : vs.length = recoveries recover limit)
      (hliteral : s.run (Run.literal v) = (.error e, t)) :
      Ends o expected recover limit vs v s (.error e, t, failuresOf expected vs)
  /-- It is refused after all recoveries, but what was expected cannot be written. -/
  | unnamed {text : String} {t : Session} (hv : s.checks o expected v = .ok false)
      (hlast : vs.length = recoveries recover limit)
      (hliteral : s.run (Run.literal v) = (.ok text, t)) (hexpected : ¬ expected.isWritable) :
      Ends o expected recover limit vs v s (.error .badValue, t, failuresOf expected vs)
  /-- Checking it comes to no answer. -/
  | undecided {f : Decider.CheckFault Spelling PredicateFailure}
      (hv : s.checks o expected v = .error f) :
      Ends o expected recover limit vs v s
        (.error (Run.checkFailure f), s, failuresOf expected vs)
  /-- It is refused, and the callback fails on it. -/
  | abandoned {next : Replacing} {e : Failure} {t : Session}
      (hv : s.checks o expected v = .ok false) (hleft : vs.length < recoveries recover limit)
      (hrecover : recover = some next)
      (hnext : next (failuresOf expected (vs ++ [v])) s = (.error e, t)) :
      Ends o expected recover limit vs v s (.error e, t, failuresOf expected (vs ++ [v]))

/-- An assertion from a session on, with nothing in mind. -/
def Session.asserting (s : Session) (o : TypeDecider) (expected : TypeDescriptor)
    (recover : Option Replacing) (limit : Int) (v : Value) :
    Except Failure Value × Session × List TypeFailure :=
  Beside.run (assertType o expected (recover.map Replacing.callback) limit v) s []

variable {recover : Option Replacing} {limit : Int} {v₀ : Value} {s₀ : Session}
  {vs : List Value} {out : Except Failure Value × Session × List TypeFailure}

/-- The loop that an assertion runs, after so many recoveries. Without a callback there is
nothing to ask, and no recovery. -/
def assertLoop (o : TypeDecider) (expected : TypeDescriptor) (recover : Option Replacing)
    (limit : Int) (made : Nat) (v : Value) : Beside (List TypeFailure) Value :=
  assertFrom o expected ((recover.map Replacing.callback).getD fun f => return f.value)
    (recoveryLimit recover limit) made v

theorem asserting_eq :
    s₀.asserting o expected recover limit v₀ =
      (assertLoop o expected recover limit 0 v₀).run s₀ (failuresOf expected []) := by
  cases recover <;> rfl

/-- **A callback is given a refused value** with those before it in mind. -/
theorem run_callback (next : Replacing) :
    (next.callback ⟨v, expected, vs.length + 1⟩).run s (failuresOf expected vs) =
      ((next (failuresOf expected (vs ++ [v])) s).1, (next (failuresOf expected (vs ++ [v])) s).2,
        failuresOf expected (vs ++ [v])) := by
  rw [failuresOf_concat]
  rfl

section Handing

variable {next : Replacing} (hv : s.checks o expected v = .ok false)
  (hleft : vs.length < recoveries recover limit) (hrecover : recover = some next)

include hleft in
theorem not_recoveryLimit_le : ¬ recoveryLimit recover limit ≤ vs.length := by
  unfold recoveries at hleft
  omega

include hv hleft hrecover

/-- What the callback gives back takes the place of a refused value. -/
theorem run_assertLoop_again (hnext : next (failuresOf expected (vs ++ [v])) s = (.ok w, t)) :
    (assertLoop o expected recover limit vs.length v).run s (failuresOf expected vs) =
      (assertLoop o expected recover limit (vs.length + 1) w).run t
        (failuresOf expected (vs ++ [v])) := by
  have hlimit := not_recoveryLimit_le hleft
  subst hrecover
  simp only [assertLoop, Option.map_some, Option.getD_some]
  rw [run_assertFrom_recovering hv hlimit, run_callback, hnext]

/-- What the callback fails with is what the assertion fails with. -/
theorem run_assertLoop_abandoned {e : Failure}
    (hnext : next (failuresOf expected (vs ++ [v])) s = (.error e, t)) :
    (assertLoop o expected recover limit vs.length v).run s (failuresOf expected vs) =
      (.error e, t, failuresOf expected (vs ++ [v])) := by
  have hlimit := not_recoveryLimit_le hleft
  subst hrecover
  simp only [assertLoop, Option.map_some, Option.getD_some]
  rw [run_assertFrom_recovering hv hlimit, run_callback, hnext]

end Handing

/-- **An assertion comes to each value that is tried**, as long as there are recoveries. The
induction is on the values refused before. -/
theorem asserting_of_tried (h : Tried o expected recover v₀ s₀ vs v s)
    (hvs : vs.length ≤ recoveries recover limit) :
    s₀.asserting o expected recover limit v₀ =
      (assertLoop o expected recover limit vs.length v).run s (failuresOf expected vs) := by
  induction h with
  | first => exact asserting_eq
  | again h hv hrecover hnext ih =>
    rw [List.length_append, List.length_singleton] at hvs ⊢
    rw [ih (by omega), run_assertLoop_again hv (by omega) hrecover hnext]

/-- **It ends there** as it may. -/
theorem asserting_of_ends (h : Tried o expected recover v₀ s₀ vs v s)
    (hvs : vs.length ≤ recoveries recover limit) (hout : Ends o expected recover limit vs v s out) :
    s₀.asserting o expected recover limit v₀ = out := by
  rw [asserting_of_tried h hvs]
  -- a limit below zero is passed before the first recovery
  have hlast : vs.length = recoveries recover limit → recoveryLimit recover limit ≤ vs.length := by
    unfold recoveries
    omega
  cases hout with
  | accepted hv => exact run_assertFrom_accepted hv
  | undecided hv => exact run_assertFrom_undecided hv
  | refused hv hlen hliteral hexpected =>
    rw [assertLoop, run_assertFrom_refused hv (hlast hlen), run_refuse, hliteral]
    simp only [if_pos hexpected]
  | unnamed hv hlen hliteral hexpected =>
    rw [assertLoop, run_assertFrom_refused hv (hlast hlen), run_refuse, hliteral]
    simp only [if_neg hexpected]
  | unreported hv hlen hliteral =>
    rw [assertLoop, run_assertFrom_refused hv (hlast hlen), run_refuse, hliteral]
  | abandoned hv hlen hrecover hnext => exact run_assertLoop_abandoned hv hlen hrecover hnext

/-- **Some value is the last.** The induction is on the recoveries that are left. -/
theorem exists_ends (h : Tried o expected recover v₀ s₀ vs v s)
    (hvs : vs.length ≤ recoveries recover limit) :
    ∃ vs v s out, Tried o expected recover v₀ s₀ vs v s ∧
      vs.length ≤ recoveries recover limit ∧ Ends o expected recover limit vs v s out := by
  induction hleft : recoveries recover limit - vs.length generalizing vs v s with
  | zero =>
    have hlen : vs.length = recoveries recover limit := by omega
    rcases hv : s.checks o expected v with f | _ | _
    · exact ⟨vs, v, s, _, h, hvs, .undecided hv⟩
    · rcases hliteral : s.run (Run.literal v) with ⟨e | text, t⟩
      · exact ⟨vs, v, s, _, h, hvs, .unreported hv hlen hliteral⟩
      · by_cases hexpected : expected.isWritable
        · exact ⟨vs, v, s, _, h, hvs, .refused hv hlen hliteral hexpected⟩
        · exact ⟨vs, v, s, _, h, hvs, .unnamed hv hlen hliteral hexpected⟩
    · exact ⟨vs, v, s, _, h, hvs, .accepted hv⟩
  | succ left ih =>
    have hlen : vs.length < recoveries recover limit := by omega
    rcases hv : s.checks o expected v with f | _ | _
    · exact ⟨vs, v, s, _, h, hvs, .undecided hv⟩
    · obtain ⟨next, hrecover⟩ : ∃ next, recover = some next := by
        cases recover with
        | none => exact absurd hlen (Nat.not_lt_zero _)
        | some next => exact ⟨next, rfl⟩
      rcases hnext : next (failuresOf expected (vs ++ [v])) s with ⟨e | w, t⟩
      · exact ⟨vs, v, s, _, h, hvs, .abandoned hv hlen hrecover hnext⟩
      · -- one value more was refused, and one recovery less is left
        refine ih (.again h hv hrecover hnext) ?_ ?_ <;>
          rw [List.length_append, List.length_singleton] <;> omega
    · exact ⟨vs, v, s, _, h, hvs, .accepted hv⟩

/-- **What an assertion does**, for any value, descriptor, oracle, callback and limit. It ends at
one of the values that are tried, and there as it may; and wherever it may end, it does. What
it gives back has been accepted. -/
theorem assertType_ends (o : TypeDecider) (expected : TypeDescriptor) (recover : Option Replacing)
    (limit : Int) (v₀ : Value) (s₀ : Session) :
    (∃ vs v s, Tried o expected recover v₀ s₀ vs v s ∧ vs.length ≤ recoveries recover limit ∧
      Ends o expected recover limit vs v s (s₀.asserting o expected recover limit v₀)) ∧
    (∀ vs v s out, Tried o expected recover v₀ s₀ vs v s →
      vs.length ≤ recoveries recover limit → Ends o expected recover limit vs v s out →
        s₀.asserting o expected recover limit v₀ = out) ∧
    ∀ w t seen, s₀.asserting o expected recover limit v₀ = (.ok w, t, seen) →
      t.checks o expected w = .ok true := by
  have hfirst : Tried o expected recover v₀ s₀ [] v₀ s₀ := .first
  have hzero : ([] : List Value).length ≤ recoveries recover limit := Nat.zero_le _
  obtain ⟨vs, v, s, out, htried, hvs, hends⟩ := exists_ends hfirst hzero
  have hout := asserting_of_ends htried hvs hends
  refine ⟨⟨vs, v, s, htried, hvs, hout ▸ hends⟩, fun _ _ _ _ => asserting_of_ends, ?_⟩
  intro w t seen hok
  rw [← hout, hok] at hends
  cases hends with
  | accepted hv => exact hv

/-- So the null value is replaced by an integer where there may be a recovery, and refused at
once where the limit is below zero. -/
theorem assertType_ends_null :
    Session.asserting {} defaultDecider StandardClass.int.descriptor
        (some fun _ s => (.ok (.ofInt 3), s)) 1 .none =
      (.ok (.ofInt 3), {}, [⟨.none, StandardClass.int.descriptor, 1⟩]) ∧
    Session.asserting {} defaultDecider StandardClass.int.descriptor
        (some fun _ s => (.ok (.ofInt 3), s)) (-2) .none =
      (.error (.refused .none StandardClass.int.descriptor 0 "None"), {}, []) := by
  have hliteral : Session.run {} (Run.literal .none) = (.ok "None", {}) := rfl
  have htext : String.ofList ("None".toList.take LibraryError.excerptLength) = "None" := by decide
  exact ⟨(assertType_ends _ _ _ _ _ _).2.1 [.none] (.ofInt 3) {} _ (.again .first rfl rfl rfl)
    (by decide) (.accepted rfl),
    (assertType_ends _ _ _ _ _ _).2.1 [] .none {} _ .first (by decide)
      (htext ▸ .refused rfl rfl hliteral (by rfl))⟩

end Narrowing
