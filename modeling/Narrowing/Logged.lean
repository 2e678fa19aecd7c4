/-!
# Computations that keep a log

A computation that may fail and that notes down what it does. The notes made
before a failure are kept, which is what tells this apart from a failing
computation over a log: a caller sees what happened up to the failure.
-/

namespace Narrowing

/-- **The notes of a computation and its result.** -/
structure Logged (ν ε α : Type) where
  /-- What was noted, in order, whether or not the result is a failure. -/
  notes : List ν
  /-- The value or the failure. -/
  result : Except ε α

namespace Logged

variable {ν ε α β : Type}

/-- A value without notes. -/
def pure (a : α) : Logged ν ε α := ⟨[], .ok a⟩

/-- Goes on after a success; the notes of both are kept in order. -/
def bind (x : Logged ν ε α) (f : α → Logged ν ε β) : Logged ν ε β :=
  match x.result with
  | .ok a => ⟨x.notes ++ (f a).notes, (f a).result⟩
  | .error e => ⟨x.notes, .error e⟩

instance : Monad (Logged ν ε) where
  pure := Logged.pure
  bind := Logged.bind

/-- Notes one thing. -/
def note (n : ν) : Logged ν ε Unit := ⟨[n], .ok ()⟩

/-- A result without notes. -/
def ofExcept (r : Except ε α) : Logged ν ε α := ⟨[], r⟩

/-- Replaces the failure by another. -/
def mapError {δ : Type} (f : ε → δ) (x : Logged ν ε α) : Logged ν δ α :=
  ⟨x.notes, x.result.mapError f⟩

@[simp] theorem result_pure (a : α) : (Pure.pure a : Logged ν ε α).result = .ok a := rfl

@[simp] theorem notes_pure (a : α) : (Pure.pure a : Logged ν ε α).notes = [] := rfl

@[simp] theorem result_bind (x : Logged ν ε α) (f : α → Logged ν ε β) :
    (x >>= f).result = x.result >>= fun a => (f a).result := by
  change (Logged.bind x f).result = _
  unfold Logged.bind
  cases x.result <;> rfl

@[simp] theorem result_ofExcept (r : Except ε α) :
    (ofExcept r : Logged ν ε α).result = r := rfl

@[simp] theorem result_note (n : ν) : (note n : Logged ν ε Unit).result = .ok () := rfl

end Logged

end Narrowing
