import Narrowing.Value.ErrorClass
import Narrowing.Value.Store
/-!
# Failures and runs of code

Why code that runs stops without a value, and what a run of code is. A run works on a
store and ends in a value or a failure. It may also stop to **ask** for something that
it cannot do itself, such as the value of a call, and goes on with the answer; what it
did to the store before stays done in any case.

Asking keeps apart what a piece of code does and what the code does that it calls: the
run of a piece of code is given by the piece alone, and runs are put together
elsewhere.
-/

namespace Narrowing

/-- **Why code stopped.** -/
inductive Failure where
  /-- An operation is not defined on the class of an operand, or a call does not
  fit the parameters. -/
  | wrongType
  /-- An index lies outside a container. -/
  | outOfRange
  /-- A walk ended before it came to the index. -/
  | pastEnd (index : Int)
  /-- A dictionary lacks a key. -/
  | missingKey
  /-- A value is of the right class and still not fit. -/
  | badValue
  /-- A number is too large. -/
  | tooLarge
  /-- A container would have more items than there is room for. -/
  | outOfRoom
  /-- A division by zero. -/
  | divisionByZero
  /-- A name has no value anywhere. -/
  | unboundName
  /-- A name of a running function has no value yet. -/
  | unboundLocal
  /-- A value lacks an attribute. -/
  | missingAttribute
  /-- No branch of a dispatch accepts a value, whose literal begins like this. -/
  | unmatched (value : Value) (types : List TypeDescriptor) (excerpt : String)
  /-- A value, whose literal begins like this, failed an assertion and so many recoveries
  from it failed. -/
  | refused (value : Value) (expected : TypeDescriptor) (attempts : Nat) (excerpt : String)
  /-- There is no runtime test to check a value by. -/
  | untestable (missing : MissingTest Spelling)
  /-- Calls nest too deep. -/
  | tooDeep
  /-- Bytes are in use and cannot be resized. -/
  | inUse
  /-- An operation is not defined on the kinds of machine numbers. -/
  | noLoop
  /-- Something happened in a state where it cannot. -/
  | badState
  /-- An iterator has no more items. -/
  | stopped (value : Value)
  /-- A check does not hold. -/
  | refuted
  /-- An error of the language with the names of what its class inherits from. -/
  | raised (name : String) (lineage : List String) (error : Value)
  /-- The code is outside what can be run here. -/
  | unsupported

namespace Failure

/-- The name of the error that a failure is reported as. -/
def kind : Failure → String
  | wrongType => "TypeError"
  | outOfRange | pastEnd _ => "IndexError"
  | missingKey => "KeyError"
  | badValue => "ValueError"
  | tooLarge => "OverflowError"
  | outOfRoom => "MemoryError"
  | divisionByZero => "ZeroDivisionError"
  | unboundName => "NameError"
  | unboundLocal => "UnboundLocalError"
  | missingAttribute => "AttributeError"
  | unmatched .. => "UnmatchedTypeError"
  | refused .. => "TypeAssertionError"
  | untestable _ => "SpecializationError"
  | tooDeep => "RecursionError"
  | inUse => "BufferError"
  | noLoop => "UFuncTypeError"
  | badState => "RuntimeError"
  | stopped _ => "StopIteration"
  | refuted => "AssertionError"
  | raised name .. => name
  | unsupported => "NotImplementedError"

/-- The message of a walk that ended too early; the others need none. -/
def message? : Failure → Option String
  | pastEnd index => some ("index " ++ toString index ++ " out of range")
  | _ => none

/-- Whether a failure is an error of a name, or one of a class below it. -/
def isA (f : Failure) (name : String) : Bool :=
  f.kind = name || (ErrorClass.inherited f.kind).contains name ||
    match f with
    | raised _ lineage _ => lineage.contains name
    | _ => false

end Failure

/-! ## Runs -/

/-- **What code asks for.** -/
inductive Request where
  /-- The value of a call. -/
  | call (f : Value) (args : List Value) (keywords : List (String × Value))
  /-- The next value of a call that runs by halves, which goes on with a value or a
  failure. -/
  | resume (activation : Ref) (given : Except Failure Value)
  /-- To be interrupted with a value until more is wanted. -/
  | yield (v : Value)

/-- **How a run of code ends**: in a value or a failure, each with the store, or in a
request, with what to do on the answer. -/
inductive Outcome (α : Type) where
  | done (a : α) (σ : Store)
  | failed (f : Failure) (σ : Store)
  | asks (q : Request) (σ : Store) (k : Except Failure Value → Store → Outcome α)

namespace Outcome

variable {α β : Type}

/-- Goes on with the value of an outcome, once there is one. -/
def bind : Outcome α → (α → Store → Outcome β) → Outcome β
  | done a σ, f => f a σ
  | failed e σ, _ => failed e σ
  | asks q σ k, f => asks q σ fun r σ => (k r σ).bind f

/-- Goes on with the failure of an outcome, if there is one. -/
def rescue : Outcome α → (Failure → Store → Outcome α) → Outcome α
  | done a σ, _ => done a σ
  | failed e σ, f => f e σ
  | asks q σ k, f => asks q σ fun r σ => (k r σ).rescue f

theorem bind_done (x : Outcome α) : x.bind done = x := by
  induction x with
  | done => rfl
  | failed => rfl
  | asks q σ k ih => simp only [bind, ih]

theorem bind_assoc {γ : Type} (x : Outcome α) (f : α → Store → Outcome β)
    (g : β → Store → Outcome γ) :
    (x.bind f).bind g = x.bind fun a σ => (f a σ).bind g := by
  induction x with
  | done => rfl
  | failed => rfl
  | asks q σ k ih => simp only [bind, ih]

end Outcome

/-- **An outcome that only makes a store grow**, whatever the answers to what is asked are and what
has become of the store meanwhile. -/
def Outcome.Grows {α : Type} : Outcome α → Store → Prop
  | .done _ τ, σ => σ.Grows τ
  | .failed _ τ, σ => σ.Grows τ
  | .asks _ τ k, σ => σ.Grows τ ∧ ∀ r υ, (k r υ).Grows υ

namespace Outcome.Grows

variable {α β : Type} {σ τ : Store} {o : Outcome α}

theorem after (h : o.Grows τ) (hστ : σ.Grows τ) : o.Grows σ := by
  cases o with
  | done => exact hστ.trans h
  | failed => exact hστ.trans h
  | asks => exact ⟨hστ.trans h.1, h.2⟩

theorem bind {f : α → Store → Outcome β} (h : o.Grows σ) (hf : ∀ a τ, (f a τ).Grows τ) :
    (o.bind f).Grows σ := by
  induction o generalizing σ with
  | done a τ => exact (hf a τ).after h
  | failed => exact h
  | asks q τ k ih => exact ⟨h.1, fun r υ => ih r υ (h.2 r υ)⟩

theorem rescue {f : Failure → Store → Outcome α} (h : o.Grows σ) (hf : ∀ e τ, (f e τ).Grows τ) :
    (o.rescue f).Grows σ := by
  induction o generalizing σ with
  | done => exact h
  | failed e τ => exact (hf e τ).after h
  | asks q τ k ih => exact ⟨h.1, fun r υ => ih r υ (h.2 r υ)⟩

end Outcome.Grows

/-- **A run of code**: what it comes to, from a store on, which it only makes grow. -/
structure Run (α : Type) where
  outcome : Store → Outcome α
  grows : ∀ σ, (outcome σ).Grows σ

namespace Run

variable {α β : Type}

instance : CoeFun (Run α) fun _ => Store → Outcome α := ⟨outcome⟩

@[ext]
theorem ext {x y : Run α} (h : ∀ σ, x σ = y σ) : x = y := by
  cases x
  cases y
  congr
  exact funext h

/-- The run that has its value at once. -/
@[always_inline, inline] protected def pure (a : α) : Run α := ⟨fun σ => .done a σ, Store.Grows.refl⟩

/-- What one outcome goes on with is the run that another value gives. -/
theorem bind_eq (x : Run α) (f : α → Run β) (σ : Store) :
    (match x σ with
      | .done a σ => f a σ
      | .failed e σ => .failed e σ
      | .asks q σ k => .asks q σ fun r σ => (k r σ).bind fun a => f a) =
      (x σ).bind fun a => f a := by
  cases x σ <;> rfl

/-- One run after another. -/
@[always_inline, inline] protected def bind (x : Run α) (f : α → Run β) : Run β where
  outcome σ :=
    match x σ with
    | .done a σ => f a σ
    | .failed e σ => .failed e σ
    | .asks q σ k => .asks q σ fun r σ => (k r σ).bind fun a => f a
  grows σ := bind_eq x f σ ▸ (x.grows σ).bind fun a => (f a).grows

instance : Monad Run where
  pure := Run.pure
  bind := Run.bind

/-- The store can be looked at, but changed in some ways only. -/
instance : MonadReaderOf Store Run where
  read := ⟨fun σ => .done σ σ, Store.Grows.refl⟩

instance : MonadExceptOf Failure Run where
  throw e := ⟨fun σ => .failed e σ, Store.Grows.refl⟩
  tryCatch x handle := ⟨fun σ => (x σ).rescue fun e => handle e,
    fun σ => (x.grows σ).rescue fun e => (handle e).grows⟩

theorem bind_apply (x : Run α) (f : α → Run β) (σ : Store) :
    (x >>= f) σ = (x σ).bind fun a => f a := bind_eq x f σ

instance : LawfulMonad Run := LawfulMonad.mk' Run
  (fun x => ext fun σ => (bind_apply x _ σ).trans (Outcome.bind_done (x σ)))
  (fun _ _ => rfl)
  (fun x f g => ext fun σ => by
    have hg : (fun a => (f a >>= g).outcome) = fun a σ => ((f a) σ).bind fun b => g b :=
      funext fun a => funext fun τ => bind_apply (f a) g τ
    rw [bind_apply, bind_apply x f, Outcome.bind_assoc, bind_apply x, hg])

/-- Asks for something. -/
def ask (q : Request) : Run Value where
  outcome σ :=
    .asks q σ fun
      | .ok v, σ => .done v σ
      | .error f, σ => .failed f σ
  grows σ := ⟨.refl σ, fun
    | .ok _, υ => Store.Grows.refl υ
    | .error _, υ => Store.Grows.refl υ⟩

/-- **The value of a call.** -/
def invoke (f : Value) (args : List Value) : Run Value := ask (.call f args [])

/-- The value of a computation that may fail. -/
def ofExcept : Except Failure α → Run α
  | .ok a => return a
  | .error f => throw f

/-- The result of a question about the store. -/
def question (q : Store → Except Failure α) : Run α := do ofExcept (q (← read))

/-- A run that has no value after a certain kind of failure. -/
def orNone (x : Run α) (isExpected : Failure → Bool) : Run (Option α) :=
  tryCatch (some <$> x) fun f => if isExpected f then return none else throw f

/-! ## Rounds -/

/-- Goes on with an outcome that is a state to go on from, or a value. -/
@[always_inline, inline] def continued (next : α → Store → Outcome β) :
    Outcome (α ⊕ β) → Outcome β
  | .done (.inl a) σ => next a σ
  | .done (.inr b) σ => .done b σ
  | .failed e σ => .failed e σ
  | .asks q σ k => .asks q σ fun r σ => (k r σ).bind fun
    | .inl a => next a
    | .inr b => .done b

theorem continued_eq_bind (next : α → Store → Outcome β) (o : Outcome (α ⊕ β)) :
    continued next o = o.bind fun
      | .inl a => next a
      | .inr b => .done b := by
  cases o with
  | done x σ => cases x <;> rfl
  | failed e σ => rfl
  | asks q σ k => rfl

/-- What comes of going on from one state to the next. -/
def iteration (step : α → Run (α ⊕ β)) : Nat → α → Store → Outcome β
  | 0, _, σ => .failed .outOfRoom σ
  | rounds + 1, a, σ => continued (iteration step rounds) (step a σ)

theorem iteration_grows (step : α → Run (α ⊕ β)) (rounds : Nat) (a : α) (σ : Store) :
    (iteration step rounds a σ).Grows σ := by
  induction rounds generalizing a σ with
  | zero => exact Store.Grows.refl σ
  | succ rounds ih =>
    rw [iteration, continued_eq_bind]
    refine ((step a).grows σ).bind fun x τ => ?_
    cases x with
    | inl a => exact ih a τ
    | inr b => exact Store.Grows.refl τ

/-- **Goes on from one state to the next**, as long as a step gives another state and for at
most so many rounds. -/
def iterate (step : α → Run (α ⊕ β)) (rounds : Nat) (a : α) : Run β :=
  ⟨iteration step rounds a, iteration_grows step rounds a⟩

theorem iterate_succ (step : α → Run (α ⊕ β)) (rounds : Nat) (a : α) :
    iterate step (rounds + 1) a = (step a >>= fun
      | .inl a => iterate step rounds a
      | .inr b => pure b) := by
  ext σ
  rw [bind_apply]
  refine (continued_eq_bind _ _).trans (congrArg _ (funext fun x => ?_))
  cases x <;> rfl

/-! ## Places -/

/-- What a value refers to. -/
def cell? (v : Value) : Run (Option Cell) := return (← read).cell? v

/-- Puts something at a new place. -/
def newPlace (c : Cell) : Run Ref :=
  ⟨fun σ => .done (σ.alloc c).1 (σ.alloc c).2, fun σ => .alloc σ c⟩

/-- A value that refers to something new. -/
def alloc (c : Cell) : Run Value := return .ref (← newPlace c)

/-- Puts something at a place that is in use, if it may stand there. -/
def update (r : Ref) (c : Cell) : Run Unit :=
  ⟨fun σ => .done () (σ.replace r c), fun σ => .replace σ r c⟩

/-- Gives other values to the names of a frame. -/
def rebindIn (r : Ref) (g : List (String × Value) → List (String × Value)) : Run Unit :=
  ⟨fun σ => .done () (σ.rebind r g), fun σ => .rebind σ r g⟩

/-- **Tells a value apart from all others.** -/
def tellApart (v : Value) : Run Value :=
  ⟨fun σ => .done (σ.tellApart v).1 (σ.tellApart v).2, fun σ => .tellApart σ v⟩

end Run

end Narrowing
