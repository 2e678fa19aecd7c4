import Narrowing.Proofs.Run.Answer
/-!
# Runs that follow another run

Two pieces of code may do the same until one of them comes to something that the other does in
another way. What is in between is put together from runs by sequencing alone, so it is enough
to say which run was come to, and in which session (`Session.ComesTo`).

A run **follows** another if it ends as the other does and leaves the same session, unless the
other has come to one of two kinds of runs: one from which on nothing is promised, and one that
makes the follower fail (`Session.Follows`). Nor is anything promised if the other run fails
because of the bounds of what can be run here. Where a run is only followed while something holds of
the session, the run keeps that (`Run.FollowsWhile`).
-/

namespace Narrowing

variable {α β γ : Type}

/-- Whether code stopped at the bounds of what can be run here: it takes too much, or is not
supported. -/
def Failure.isBound : Failure → Bool
  | tooDeep | unsupported => true
  | _ => false

/-- **Where runs part.** -/
structure Parting where
  /-- From here on nothing is promised. -/
  loses : {α : Type} → Session → Run α → Prop
  /-- What follows fails with a value of a wrong class. -/
  fails : {α : Type} → Session → Run α → Prop

namespace Session

/-- **A run comes to another one** in the session that it has led to. -/
inductive ComesTo (t : Session) (y : Run β) : {α : Type} → Session → Run α → Prop
  | here : ComesTo t y t y
  | first {α γ : Type} {s : Session} {x : Run α} (f : α → Run γ) :
      ComesTo t y s x → ComesTo t y s (x >>= f)
  | next {α γ : Type} {s u : Session} {x : Run α} {f : α → Run γ} {a : α} :
      s.run x = (.ok a, u) → ComesTo t y u (f a) → ComesTo t y s (x >>= f)

/-- **How one run follows another** in a session. -/
inductive Follows (D : Parting) (s : Session) (x x' : Run α) : Prop
  | same (h : s.run x' = s.run x)
  | bound {e : Failure} (h : (s.run x).1 = .error e) (he : e.isBound)
  | loses {β : Type} {t : Session} {y : Run β} (h : ComesTo t y s x) (hy : D.loses t y)
  | fails {β : Type} {t : Session} {y : Run β} (h : ComesTo t y s x) (hy : D.fails t y)
      (hx : (s.run x').1 = .error .wrongType)

variable {D : Parting} {s : Session}

/-- **Runs that part nowhere are alike**, within the bounds of what can be run here. -/
theorem Follows.alike {P : {α : Type} → Session → Run α → Prop} {x x' : Run α}
    (h : s.Follows ⟨P, P⟩ x x') :
    s.run x' = s.run x ∨ (∃ e, (s.run x).1 = .error e ∧ e.isBound) ∨
      ∃ (β : Type) (t : Session) (y : Run β), t.ComesTo y s x ∧ P t y := by
  cases h with
  | same h => exact .inl h
  | bound he hbound => exact .inr (.inl ⟨_, he, hbound⟩)
  | loses h hy => exact .inr (.inr ⟨_, _, _, h, hy⟩)
  | fails h hy => exact .inr (.inr ⟨_, _, _, h, hy⟩)

/-- What follows may be any run that ends alike. -/
theorem Follows.congr {x x' x'' : Run α} (h : s.Follows D x x') (heq : s.run x'' = s.run x') :
    s.Follows D x x'' := by
  cases h with
  | same h => exact .same (heq.trans h)
  | bound he hbound => exact .bound he hbound
  | loses h hloses => exact .loses h hloses
  | fails h hfails he => exact .fails h hfails (by rw [heq, he])

/-- **Following goes along sequencing.** -/
theorem Follows.bind_at {x x' : Run α} {f f' : α → Run β} (h : s.Follows D x x')
    (hf : ∀ a t, s.run x = (.ok a, t) → t.Follows D (f a) (f' a)) :
    s.Follows D (x >>= f) (x' >>= f') := by
  cases h with
  | same heq =>
    rcases hx : s.run x with ⟨e | a, t⟩
    · exact .same (by rw [run_bind, run_bind, heq, hx])
    · cases hf a t hx with
      | same heq' => exact .same (by rw [run_bind, run_bind, heq, hx]; exact heq')
      | bound he hbound => exact .bound (by rw [run_bind, hx]; exact he) hbound
      | loses hy hloses => exact .loses (.next hx hy) hloses
      | fails hy hfails he => exact .fails (.next hx hy) hfails (by rw [run_bind, heq, hx]; exact he)
  | bound he hbound => exact .bound (run_bind_error he f) hbound
  | loses hy hloses => exact .loses (hy.first f) hloses
  | fails hy hfails he => exact .fails (hy.first f) hfails (run_bind_error he f')

/-- Runs that begin with a step each, which leads to the same session. -/
theorem Follows.bind_apart {γ : Type} {x : Run α} {x' : Run γ} {f : α → Run β} {f' : γ → Run β}
    {a : α} {a' : γ} {t : Session} (hx : s.run x = (.ok a, t)) (hx' : s.run x' = (.ok a', t))
    (h : t.Follows D (f a) (f' a')) : s.Follows D (x >>= f) (x' >>= f') := by
  have hstep : s.run (x' >>= f') = t.run (f' a') := by rw [run_bind, hx']
  cases h with
  | same heq => exact .same (by rw [hstep, heq, run_bind, hx])
  | bound he hbound => exact .bound (by rw [run_bind, hx]; exact he) hbound
  | loses hy hloses => exact .loses (.next hx hy) hloses
  | fails hy hfails he => exact .fails (.next hx hy) hfails (by rw [hstep]; exact he)

end Session

namespace Run

/-- **One run follows another** in every session. -/
def Follows (D : Parting) (x x' : Run α) : Prop := ∀ s : Session, s.Follows D x x'

/-- **What holds before a run holds after it**, if that has a value. -/
def Keeps (x : Run α) (I : Session → Prop) : Prop :=
  ∀ s a t, I s → s.run x = (.ok a, t) → I t

/-- **One run follows another while something holds**: it does in every session where that holds,
and it still holds where they go on. -/
structure FollowsWhile (D : Parting) (I : Session → Prop) (x x' : Run α) : Prop where
  follows : ∀ s, I s → s.Follows D x x'
  keeps : x.Keeps I

variable {D : Parting} {I : Session → Prop} {x x' : Run α}

/-- What always holds says nothing. -/
theorem FollowsWhile.always (h : FollowsWhile D (fun _ => True) x x') : Follows D x x' :=
  fun s => h.follows s trivial

theorem Keeps.pure (a : α) : (pure a : Run α).Keeps I := by
  intro s b t hs h
  obtain ⟨-, rfl⟩ := Session.run_pure h
  exact hs

theorem Keeps.throw (e : Failure) : (throw e : Run α).Keeps I :=
  fun _ _ _ _ h => nomatch (Prod.mk.inj h).1

theorem Keeps.bind {f : α → Run β} (h : x.Keeps I) (hf : ∀ a, (f a).Keeps I) :
    (x >>= f).Keeps I := by
  intro s b u hs hu
  obtain ⟨a, t, ht, hu⟩ := Session.exists_of_run_bind hu
  exact hf a t b u (h s a t hs ht) hu

namespace FollowsWhile

/-- A run that keeps what holds follows itself. -/
theorem refl (h : x.Keeps I) : FollowsWhile D I x x := ⟨fun _ _ => .same rfl, h⟩

theorem of_eq (heq : x' = x) (h : x.Keeps I) : FollowsWhile D I x x' := by
  rw [heq]
  exact refl h

protected theorem pure (a : α) : FollowsWhile D I (pure a) (pure a) := refl (.pure a)

protected theorem throw (e : Failure) : FollowsWhile D I (throw e : Run α) (throw e) :=
  refl (.throw e)

/-- **Following goes along sequencing.** -/
theorem bind {f f' : α → Run β} (h : FollowsWhile D I x x')
    (hf : ∀ a, FollowsWhile D I (f a) (f' a)) : FollowsWhile D I (x >>= f) (x' >>= f') where
  follows s hs :=
    (h.follows s hs).bind_at fun a t ht => (hf a).follows t (h.keeps s a t hs ht)
  keeps := h.keeps.bind fun a => (hf a).keeps

/-- What is made of the value hangs on nothing else. -/
theorem map (h : FollowsWhile D I x x') (f : α → β) :
    FollowsWhile D I (x >>= fun a => pure (f a)) (x' >>= fun a => pure (f a)) :=
  h.bind fun a => .pure (f a)

/-- What is not supported is followed by everything. -/
theorem of_unsupported (x' : Run α) : FollowsWhile D I (throw .unsupported) x' :=
  ⟨fun _ _ => .bound rfl rfl, .throw _⟩

theorem ite {p : Prop} [Decidable p] {y y' : Run α} (hx : FollowsWhile D I x x')
    (hy : FollowsWhile D I y y') :
    FollowsWhile D I (if p then x else y) (if p then x' else y') := by
  split
  · exact hx
  · exact hy

/-- **Rounds that follow rounds.** -/
theorem iterate {step step' : α → Run (α ⊕ β)} (h : ∀ a, FollowsWhile D I (step a) (step' a))
    (rounds : Nat) (a : α) :
    FollowsWhile D I (Run.iterate step rounds a) (Run.iterate step' rounds a) := by
  induction rounds generalizing a with
  | zero => exact .throw _
  | succ rounds ih =>
    rw [iterate_succ, iterate_succ]
    refine (h a).bind fun next => ?_
    cases next with
    | inl a => exact ih a
    | inr b => exact .pure b

end FollowsWhile

end Run

end Narrowing
