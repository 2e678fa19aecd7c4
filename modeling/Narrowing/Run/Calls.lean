import Narrowing.Run.Meaning
/-!
# Carrying out calls

What is asked for by a run is carried out here. A call runs what is called while the
caller waits, and so calls stack up; there is a bound on how many functions of code may
wait at once. A function that runs by halves only makes an **activation** when it is
called. Each time its next value is asked for the activation goes on to where it is
interrupted next, or comes to its end.

What an interrupted call goes on with is kept beside the store, in a **session**, which
also outlives the single run.
-/

namespace Narrowing

open Code

namespace Run

/-! ## What is called -/

/-- What the body of a function gives. -/
def runBody (f : Function) (bindings : List (String × Value)) : Run Value := do
  f.definition.meaning.body (← enter f bindings)

/-- **A call of a function of code.** -/
def callFunction (f : Function) (args : List Value) (keywords : List (String × Value)) :
    Run Value := do
  let bindings ← arguments f args keywords
  if f.isSuspending then alloc (.activation f bindings .fresh) else runBody f bindings

/-- A call of an object, in the way that its class says, if it says one. -/
def callObject (v : Value) (args : List Value) (keywords : List (String × Value)) :
    Run Value := do
  match (← read).special? v "__call__" with
  | none => throw .wrongType
  | some member => do
    let σ ← read
    match σ.cell? member with
    | some (.staticMethod f) => ask (.call f args keywords)
    | some (.classMethod f) => ask (.call f (.cls (σ.typeOf v) :: args) keywords)
    | _ => do
      let self : List Value := if ← takesInstance member then [v] else []
      ask (.call member (self ++ args) keywords)

/-- **What a call does.** -/
def perform (f : Value) (args : List Value) (keywords : List (String × Value)) : Run Value := do
  match f, ← cell? f with
  | .builtin (.operationOf t name), _ => callOperationOf t name args keywords
  | .builtin b, _ => callBuiltin b args keywords
  | .cls t, _ => construct t args keywords
  | .test t, _ => callTest t args keywords
  | .unmatched, _ => newUnmatched args keywords
  | _, some (.function g) => callFunction g args keywords
  | _, some (.bound g self) => ask (.call g (self :: args) keywords)
  | _, some (.staticMethod g) => ask (.call g args keywords)
  | _, some (.method name self) => callAnyMethod self name args keywords
  | v, some (.object ..) => callObject v args keywords
  | _, _ => throw .wrongType

end Run

/-! ## Sessions -/

/-- What goes on with an answer. -/
abbrev Resumption := Except Failure Value → Store → Outcome Value

/-- **The calls that are interrupted**, with what they go on with. -/
abbrev Interrupted := List (Ref × Resumption)

/-- **What waits for what runs.** -/
inductive Waiting where
  /-- A caller, and how many functions of code end with the call. -/
  | caller (k : Resumption) (depth : Nat)
  /-- What asked an activation for its next value. -/
  | consumer (activation : Ref) (k : Resumption)

namespace Waiting

/-- What goes on. -/
def resumption : Waiting → Resumption
  | caller k _ | consumer _ k => k

/-- How many functions of code end. -/
def depth : Waiting → Nat
  | caller _ d => d
  | consumer .. => 1

end Waiting

namespace Store

/-- Whether a call of a value runs a function of code. -/
def isCode (σ : Store) (f : Value) : Bool :=
  match σ.cell? f with
  | some (.function _) => true
  | _ => false

/-- Notes how far an activation has come. -/
def progressed (σ : Store) (r : Ref) (progress : Progress) : Store :=
  match σ.get? r with
  | some (.activation f bindings _) => σ.set r (.activation f bindings progress)
  | _ => σ

end Store

/-- What the end of a run is to what waits for it. An activation that ends has no more
values, and must not end by saying so itself. -/
def Waiting.answer (w : Waiting) (r : Except Failure Value) : Except Failure Value :=
  match w, r with
  | caller .., r => r
  | consumer .., .ok v => .error (.stopped v)
  | consumer .., .error (.stopped _) => .error .badState
  | consumer .., .error f => .error f

/-- The store after the end of a run that something waits for. -/
def Waiting.leave (w : Waiting) (σ : Store) : Store :=
  match w with
  | caller .. => σ
  | consumer r _ => σ.progressed r .over

/-- How many functions of code may wait at once. -/
def greatestStack : Nat := 980

/-- How many steps a session may take for one answer. -/
def greatestSteps : Nat := 1000000000

/-- What an outcome becomes that ends. -/
def Outcome.ofAnswer (r : Except Failure Value) (σ : Store) : Outcome Value :=
  match r with
  | .ok v => .done v σ
  | .error f => .failed f σ

/-- **Carries out what is asked for** until the first of those that wait has its answer. -/
def carryOut : Nat → Interrupted → List Waiting → Nat → Outcome Value →
    Except Failure Value × Store × Interrupted
  | 0, calls, _, _, .done _ σ | 0, calls, _, _, .failed _ σ | 0, calls, _, _, .asks _ σ _ =>
    (.error .tooDeep, σ, calls)
  | _ + 1, calls, [], _, .done v σ => (.ok v, σ, calls)
  | _ + 1, calls, [], _, .failed f σ => (.error f, σ, calls)
  | steps + 1, calls, w :: ws, depth, .done v σ =>
    carryOut steps calls ws (depth - w.depth) (w.resumption (w.answer (.ok v)) (w.leave σ))
  | steps + 1, calls, w :: ws, depth, .failed f σ =>
    carryOut steps calls ws (depth - w.depth) (w.resumption (w.answer (.error f)) (w.leave σ))
  | steps + 1, calls, ws, depth, .asks (.call f args keywords) σ k =>
    let more := if σ.isCode f then 1 else 0
    if depth + more > greatestStack then carryOut steps calls ws depth (k (.error .tooDeep) σ)
    else
      carryOut steps calls (.caller k more :: ws) (depth + more) (Run.perform f args keywords σ)
  | steps + 1, calls, ws, depth, .asks (.resume r given) σ k =>
    match σ.get? r, calls.find? (fun c => c.1 = r), given with
    | some (.activation _ _ .running), _, _ =>
      carryOut steps calls ws depth (k (.error .badValue) σ)
    | some (.activation _ _ .fresh), _, .error f =>
      carryOut steps calls ws depth
        (k (Waiting.answer (.consumer r k) (.error f)) (σ.progressed r .over))
    | some (.activation f bindings .fresh), _, .ok v =>
      if !v.isNull then carryOut steps calls ws depth (k (.error .wrongType) σ)
      else if depth + 1 > greatestStack then carryOut steps calls ws depth (k (.error .tooDeep) σ)
      else
        carryOut steps calls (.consumer r k :: ws) (depth + 1)
          (Run.runBody f bindings (σ.progressed r .running))
    | some (.activation _ _ .paused), some (_, resumption), given =>
      carryOut steps (calls.filter fun c => c.1 ≠ r) (.consumer r k :: ws) (depth + 1)
        (resumption given (σ.progressed r .running))
    | _, _, .ok _ => carryOut steps calls ws depth (k (.error (.stopped .none)) σ)
    | _, _, .error f => carryOut steps calls ws depth (k (.error f) σ)
  | steps + 1, calls, .consumer r k :: ws, depth, .asks (.yield v) σ resumption =>
    carryOut steps ((r, resumption) :: calls) ws (depth - 1) (k (.ok v) (σ.progressed r .paused))
  | steps + 1, calls, ws, depth, .asks (.yield _) σ k =>
    carryOut steps calls ws depth (k (.error .unsupported) σ)

/-- **What code runs in**: a store and the calls that are interrupted. -/
structure Session where
  store : Store := {}
  interrupted : Interrupted := []

namespace Session

/-- What a request gives. -/
def answer (calls : Interrupted) (q : Request) (σ : Store) :
    Except Failure Value × Store × Interrupted :=
  carryOut greatestSteps calls [] 0 (.asks q σ Outcome.ofAnswer)

/-- The end of an outcome. -/
def settle {α : Type} : Outcome α → Interrupted → Except Failure α × Session
  | .done a σ, calls => (.ok a, ⟨σ, calls⟩)
  | .failed f σ, calls => (.error f, ⟨σ, calls⟩)
  | .asks q σ k, calls =>
    let (r, σ, calls) := answer calls q σ
    settle (k r σ) calls

/-- **Runs code in a session.** -/
def run {α : Type} (s : Session) (x : Run α) : Except Failure α × Session :=
  settle (x s.store) s.interrupted

end Session

end Narrowing
