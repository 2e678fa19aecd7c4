import Narrowing.Proofs.Descriptor
import Narrowing.Proofs.Dispatch.Chain
import Narrowing.Proofs.Run.Answer
import Narrowing.Proofs.Run.Function
import Narrowing.Dispatch.Specialize
/-!
# Running a dispatch chain

A dispatch chain is code that names its tests, and a name gives whatever the place where
the chain runs has under it. Where that is what the chain refers to (`Dispatch.IsBound`),
each condition gives the verdict of the test of its branch and leaves everything alone
(`Dispatch.run_condition`). So the chain runs exactly as the copy of the body of the first
branch that accepts (`Dispatch.run_node`).

Where no branch accepts, the chain raises, but not always what it is meant to raise. The
error of an unmatched value keeps the beginning of its literal, and the literal of an
object is what code of its class says. If that code fails, the chain fails in the same way
(`Dispatch.run_refusal`).
-/

namespace Narrowing

open Code Run

/-! ## Calls by name -/

section Calls

variable {s : Session} {c : Site}

/-- A name gives a value and leaves everything alone. -/
def Gives (σ : Store) (c : Site) (name : String) (v : Value) : Prop :=
  readName c (c.mangled name) σ = .done v σ

/-- What a name gives does not hang on the line that runs. -/
theorem gives_at {σ : Store} {name : String} {v : Value} (h : Gives σ c name v) (line : SourceLine) :
    Gives σ (c.at_ line) name v := h

/-- Names as arguments. -/
theorem spreadAll_loads {σ : Store} {as : List (String × Value)} (h : ∀ a ∈ as, Gives σ c a.1 a.2) :
    spreadAll c (Node.meaningsOfAll (as.map fun a => Node.load a.1)) σ =
      .done (as.map Prod.snd) σ := by
  induction as with
  | nil => rfl
  | cons a as ih =>
    obtain ⟨ha, has⟩ := List.forall_mem_cons.1 h
    show (((do return [← readName c (c.mangled a.1)]) >>= fun vs => do
      return vs ++ (← spreadAll c (Node.meaningsOfAll (as.map fun a => Node.load a.1))) :
        Run _)) σ = _
    rw [bind_apply, bind_apply, ha]
    show ((spreadAll c (Node.meaningsOfAll (as.map fun a => Node.load a.1)) >>= _ : Run _)) σ = _
    rw [bind_apply, ih has]
    rfl

/-- What is called like any other value. -/
def IsPlain (g : Value) : Prop := ∀ c vs, callHere c g vs [] = invoke g vs >>= tellApart

theorem isPlain_isinstance : IsPlain (.builtin .isinstance) := fun _ _ => rfl

theorem isPlain_test (t : TypeTest) : IsPlain (.test t) := fun _ _ => rfl

theorem isPlain_unmatched : IsPlain .unmatched := fun _ _ => rfl

/-- **A call of a name on names** is a call of what the names give. -/
theorem run_call_names {f : String} {g : Value} {as : List (String × Value)}
    (hf : Gives s.store c f g) (has : ∀ a ∈ as, Gives s.store c a.1 a.2) :
    s.run ((Node.call (.load f) (as.map fun a => Node.load a.1) []).meaning.value c) =
      s.run (aside c (callHere c g (as.map Prod.snd) [])) := by
  show s.run (readName c (c.mangled f) >>= fun g =>
    spreadAll c (Node.meaningsOfAll (as.map fun a => Node.load a.1)) >>= fun vs =>
      namedAll c [] >>= fun keywords => aside c (callHere c g vs keywords)) = _
  rw [Session.run_bind, Session.run_of_done hf]
  dsimp only
  rw [Session.run_bind, Session.run_of_done (spreadAll_loads has)]
  rfl

theorem run_call_loads {f : String} {g : Value} {as : List (String × Value)}
    (hf : Gives s.store c f g) (hplain : IsPlain g) (has : ∀ a ∈ as, Gives s.store c a.1 a.2) :
    s.run ((Node.call (.load f) (as.map fun a => Node.load a.1) []).meaning.value c) =
      s.run (aside c (invoke g (as.map Prod.snd) >>= tellApart)) := by
  rw [run_call_names hf has, hplain]

/-- On two values everything is called alike. -/
theorem callHere_pair (g v w : Value) : callHere c g [v, w] [] = invoke g [v, w] >>= tellApart := by
  unfold callHere
  -- the calls of other kinds take no values, or three
  split
  case h_2 heq => simp at heq
  all_goals first | rfl | contradiction

/-- A call that ends at once. -/
theorem run_invoke_of_done {g w : Value} {args : List Value} {σ : Store}
    (hcode : s.store.isCode g = false) (h : perform g args [] s.store = .done w σ) :
    s.run (invoke g args) = (.ok w, ⟨σ, s.interrupted⟩) := by
  have hsteps : greatestSteps = 999999997 + 3 := rfl
  have hroom : ¬ 0 + (if s.store.isCode g then 1 else 0) > greatestStack := by
    rw [hcode]
    decide
  rw [Session.run_invoke, Session.answer, hsteps, carryOut_call, if_neg hroom, h]
  rfl

/-- A call that fails at once. -/
theorem run_invoke_of_failed {g : Value} {args : List Value} {e : Failure} {σ : Store}
    (hcode : s.store.isCode g = false) (h : perform g args [] s.store = .failed e σ) :
    (s.run (invoke g args)).1 = .error e := by
  have hsteps : greatestSteps = 999999997 + 3 := rfl
  have hroom : ¬ 0 + (if s.store.isCode g then 1 else 0) > greatestStack := by
    rw [hcode]
    decide
  rw [Session.run_invoke, Session.answer, hsteps, carryOut_call, if_neg hroom, h]
  rfl

end Calls

/-! ## Conditions -/

/-- Instance checks against several classes. -/
theorem someClassOf_named (v : Value) (isUnmatched : Run Bool) (cs : List Class) (σ : Store) :
    someClassOf (isInstanceOf v) isUnmatched (cs.map fun c => .cls (.named c)) σ =
      .done (cs.any (σ.isInstance v)) σ := by
  induction cs with
  | nil => rw [List.map_nil, someClassOf]; rfl
  | cons c cs ih =>
    rw [List.map_cons, someClassOf, bind_apply, someClass]
    show (if σ.isInstance v c then pure true
      else someClassOf (isInstanceOf v) isUnmatched (cs.map fun c => .cls (.named c)) : Run Bool) σ
        = _
    rw [List.any_cons]
    cases σ.isInstance v c with
    | true => rfl
    | false => exact ih

/-- A test that is called gives its verdict. -/
theorem perform_called {σ : Store} {t : TypeTest} {v : Value} {r : Bool}
    (h : σ.accepts t v = .ok r) : perform (.test t) [v] [] σ = .done (.bool r) σ := by
  show callTest t [v] [] σ = _
  unfold callTest
  dsimp only
  rw [get_bind, h]
  rfl

/-- **What a test is bound to** is to be called, if it is no class test, -/
theorem Binding.value_of_called {t : TypeTest} (h : t.isClassTest = false) :
    (Binding.test t).value = .test t := by
  cases t <;> first | rfl | cases h

/-- and else what the language checks instances by. -/
theorem perform_isinstance {σ : Store} {t : TypeTest} {v : Value} (h : t.isClassTest) {r : Bool}
    (ht : σ.accepts t v = .ok r) :
    perform (.builtin .isinstance) [v, (Binding.test t).value] [] σ = .done (.bool r) σ := by
  have hcheck : instanceCheck v (Binding.test t).value σ = .done r σ := by
    cases t with
    | instanceOf c =>
      obtain rfl := Except.ok.inj ht
      show someClass _ _ (.cls (.named c)) σ = _
      rw [someClass]
      rfl
    | instanceOfAny cs =>
      obtain rfl := Except.ok.inj ht
      show someClass _ _ (.tuple (cs.map fun c => .cls (.named c)) _) σ = _
      rw [someClass]
      exact someClassOf_named v _ cs σ
    | check p => cases h
    | never => cases h
    | anyOf ts => cases h
  show ((instanceCheck v (Binding.test t).value >>= fun b => pure (.bool b) : Run Value)) σ = _
  rw [bind_apply, hcheck]
  rfl

/-- **A condition gives the verdict of its test** and leaves everything alone. -/
theorem run_condition {s : Session} {c : Site} {var : String} {i : Nat} {t : TypeTest}
    {v : Value} {r : Bool} (hisinstance : Gives s.store c "isinstance" (.builtin .isinstance))
    (hname : Gives s.store c (testName i) (Binding.test t).value) (hvar : Gives s.store c var v)
    (ht : s.store.accepts t v = .ok r) :
    s.run ((Dispatch.condition var i t).meaning.value c) = (.ok (.bool r), s) := by
  unfold Dispatch.condition
  split
  · next hclass =>
    have hargs : ∀ a ∈ [(var, v), (testName i, (Binding.test t).value)], Gives s.store c a.1 a.2 := by
      simp [hvar, hname]
    refine (run_call_loads hisinstance isPlain_isinstance hargs).trans ?_
    simp only [List.map_cons, List.map_nil]
    refine run_aside_of_same ?_
    rw [Session.run_bind, run_invoke_of_done rfl (perform_isinstance hclass ht)]
    rfl
  · next hcalled =>
    rw [Binding.value_of_called (Bool.eq_false_iff.2 hcalled)] at hname
    have hargs : ∀ a ∈ [(var, v)], Gives s.store c a.1 a.2 := by simp [hvar]
    refine (run_call_loads hname (isPlain_test t) hargs).trans ?_
    simp only [List.map_cons, List.map_nil]
    refine run_aside_of_same ?_
    rw [Session.run_bind, run_invoke_of_done rfl (perform_called ht)]
    rfl

/-! ## Chains -/

/-- The alternative of a choice, which may continue it. -/
def alternative (c : Site) (orelse : List Node) : Run Signal :=
  if isContinued orelse then inOrder (c.at_ (.head true)) (Node.meaningsOfAll orelse)
  else inOrder c.deeper (Node.meaningsOfAll orelse)

/-- **A choice** evaluates its condition and goes on with a block. -/
theorem effect_ifStmt (test : Node) (body orelse : List Node) (c : Site) :
    (Node.ifStmt test body orelse).meaning.effect c = (do
      let v ← test.meaning.value (c.at_ (headLine c))
      if ← aside c (isTrue v) then inOrder c.deeper (Node.meaningsOfAll body)
      else alternative c orelse) := by
  unfold alternative
  rfl

/-- A choice whose condition leaves everything alone. -/
theorem run_ifStmt {s : Session} {c : Site} {test : Node} {body orelse : List Node} {b : Bool}
    (h : s.run (test.meaning.value (c.at_ (headLine c))) = (.ok (.bool b), s)) :
    s.run ((Node.ifStmt test body orelse).meaning.effect c) =
      if b then s.run (inOrder c.deeper (Node.meaningsOfAll body))
      else if isContinued orelse then s.run (inOrder (c.at_ (.head true)) (Node.meaningsOfAll orelse))
      else s.run (inOrder c.deeper (Node.meaningsOfAll orelse)) := by
  rw [effect_ifStmt, Session.run_bind, h]
  dsimp only
  rw [Session.run_bind, run_aside_of_same (Session.run_of_done (isTrue_bool b s.store))]
  cases b with
  | true => rfl
  | false =>
    show s.run (alternative c orelse) = _
    unfold alternative
    split <;> rfl

/-- One statement in order is that statement. -/
theorem inOrder_singleton (c : Site) (m : Meaning) : inOrder c [m] = m.effect c := by
  rw [← bind_pure (m.effect c), inOrder]
  refine congrArg (m.effect c >>= ·) (funext fun signal => ?_)
  cases signal <;> rfl

namespace Dispatch

/-- **What a dispatch refers to is bound** where it runs: the names of its chain to what
they stand for, its variable to a value, and the check of instances to that of the
language. -/
structure IsBound (d : Dispatch Spelling Class Predicate) (σ : Store) (c : Site) (v : Value) :
    Prop where
  isinstance : Gives σ c "isinstance" (.builtin .isinstance)
  names : ∀ b ∈ d.bindings, Gives σ c b.1 b.2.value
  var : Gives σ c d.var v

variable {s : Session} {c : Site} {v : Value} {var : String}

section Chain

variable {i : Nat} (hisinstance : Gives s.store c "isinstance" (.builtin .isinstance))
  (hvar : Gives s.store c var v)

include hisinstance hvar

/-- **A chain with a branch that accepts**, and whose branches before that one reject, runs
as the copy of that branch. -/
theorem run_chainFrom {before after : List (Branch Spelling Class Predicate)}
    {b : Branch Spelling Class Predicate}
    (hnames : ∀ j b', (before ++ b :: after)[j]? = some b' →
      Gives s.store c (testName (i + j)) (Binding.test b'.test).value)
    (hbefore : ∀ b' ∈ before, s.store.accepts b'.test v = .ok false)
    (hb : s.store.accepts b.test v = .ok true) :
    s.run ((chainFrom var i (before ++ b :: after)).meaning.effect c) =
      s.run (inOrder c.deeper (Node.meaningsOfAll b.body)) := by
  induction before generalizing i c with
  | nil => exact run_ifStmt (run_condition hisinstance (hnames 0 b rfl) hvar hb)
  | cons b' before ih =>
    have hreject := hbefore b' List.mem_cons_self
    rw [List.cons_append, chainFrom]
    refine (run_ifStmt (run_condition hisinstance (hnames 0 b' rfl) hvar hreject)).trans ?_
    have hcontinued : isContinued [chainFrom var (i + 1) (before ++ b :: after)] = true := by
      cases before <;> rfl
    rw [if_neg (by decide), if_pos hcontinued]
    show s.run (inOrder _ [_]) = _
    rw [inOrder_singleton]
    refine ih (c := c.at_ (.head true)) hisinstance hvar (fun j b'' hj => ?_)
      fun b'' hb'' => hbefore b'' (List.mem_cons_of_mem b' hb'')
    rw [Nat.add_assoc, Nat.add_comm 1 j]
    exact hnames (j + 1) b'' hj

/-- **A chain whose branches reject** comes to the refusal, somewhere below. -/
theorem run_chainFrom_refusal {bs : List (Branch Spelling Class Predicate)}
    (hnames : ∀ j b, bs[j]? = some b →
      Gives s.store c (testName (i + j)) (Binding.test b.test).value)
    (hbs : ∀ b ∈ bs, s.store.accepts b.test v = .ok false) :
    ∃ margin line, s.run ((chainFrom var i bs).meaning.effect c) =
      s.run ((refusal var).meaning.effect { c with margin, line }) := by
  induction bs generalizing i c with
  | nil => exact ⟨c.margin, c.line, rfl⟩
  | cons b bs ih =>
    have hreject := hbs b List.mem_cons_self
    have hstep : s.run ((chainFrom var i (b :: bs)).meaning.effect c) = _ :=
      run_ifStmt (run_condition (c := c.at_ (headLine c)) hisinstance (hnames 0 b rfl) hvar hreject)
    rw [Nat.add_zero, if_neg (by decide)] at hstep
    have hbelow : ∀ j b', bs[j]? = some b' →
        Gives s.store c (testName (i + 1 + j)) (Binding.test b'.test).value := by
      intro j b' hj
      rw [Nat.add_assoc, Nat.add_comm 1 j]
      exact hnames (j + 1) b' hj
    have hrest : ∀ b' ∈ bs, s.store.accepts b'.test v = .ok false :=
      fun b' hb' => hbs b' (List.mem_cons_of_mem b hb')
    rw [hstep]
    split
    · rw [Node.meaningsOfAll, Node.meaningsOfAll, inOrder_singleton]
      exact ih (c := c.at_ (.head true)) hisinstance hvar hbelow hrest
    · rw [Node.meaningsOfAll, Node.meaningsOfAll, inOrder_singleton]
      exact ih (c := c.deeper) hisinstance hvar hbelow hrest

end Chain

/-! ## Refusals -/

/-- The beginning of a literal that an error keeps. -/
def kept (literal : String) : String := String.ofList (literal.toList.take unmatchedExcerpt)

/-- The error of a value that no branch accepts, and the store in which it is made. -/
def refused (v : Value) (ds : List TypeDescriptor) (literal : String) (σ : Store) :
    Value × Store :=
  let (r, σ) := σ.alloc (.unmatchedError v ds (kept literal))
  (.ref r, σ)

/-- The error is raised as what it is. -/
theorem raised_refused (v : Value) (ds : List TypeDescriptor) (literal : String) (σ : Store) :
    raised (refused v ds literal σ).1 (refused v ds literal σ).2 =
      .done (.unmatched v ds (kept literal)) (refused v ds literal σ).2 := by
  have hcell : (refused v ds literal σ).2.cell? (refused v ds literal σ).1 =
      some (.unmatchedError v ds (kept literal)) := by
    show (σ.alloc (.unmatchedError v ds (kept literal))).2.shown?
      (σ.alloc (.unmatchedError v ds (kept literal))).1 = _
    rw [Store.shown?, Store.get?_alloc_self]
    rfl
  show ((read : Run Store) >>= _) _ = _
  rw [get_bind, hcell]
  rfl

theorem perform_repr (v : Value) (σ : Store) :
    perform (.builtin .repr) [v] [] σ =
      (literal v σ).bind fun text σ => .done (.ofText text) σ := by
  show ((literal v >>= fun text => pure (.ofText text) : Run Value)) σ = _
  rw [bind_apply]
  rfl

theorem perform_unmatched (v : Value) {ds : List TypeDescriptor}
    (hds : ∀ d ∈ ds, d.isWritable) (σ : Store) :
    perform .unmatched [v, .types ds] [] σ =
      (literal v σ).bind fun text σ => .done (refused v ds text σ).1 (refused v ds text σ).2 := by
  obtain ⟨texts, htexts⟩ := Option.isSome_iff_exists.1 (Descriptor.texts?_isSome_iff.2 hds)
  show ((Run.writable (Descriptor.texts? Named.name? ds) >>= fun _ =>
    (literal v >>= fun text => pure (kept text)) >>= fun text =>
      alloc (.unmatchedError v ds text) : Run Value)) σ = _
  rw [htexts]
  show (((literal v >>= fun text => pure (kept text)) >>= fun text =>
    alloc (.unmatchedError v ds text) : Run Value)) σ = _
  rw [bind_apply, bind_apply]
  exact Outcome.bind_assoc _ _ _

/-- The error is made beside the names of the call. -/
theorem refused_withOwn (v : Value) (ds : List TypeDescriptor) (literal : String) (τ : Store)
    (c : Site) (σ : Store) :
    (refused v ds literal (τ.withOwn c σ)).1 = (refused v ds literal τ).1 ∧
      (refused v ds literal (τ.withOwn c σ)).2 = (refused v ds literal τ).2.withOwn c σ := by
  have hframe : ∀ (τ : Store) (r : Ref),
      (refused v ds literal (σ.withPrivate τ r)).1 = (refused v ds literal τ).1 ∧
        (refused v ds literal (σ.withPrivate τ r)).2 =
          σ.withPrivate (refused v ds literal τ).2 r := by
    intro τ r
    unfold Store.withPrivate
    split
    · split
      · have herror : ∀ f, Cell.unmatchedError v ds (kept literal) ≠ .frame f := nofun
        exact ⟨congrArg Value.ref (Store.alloc_fst_rebind (.unmatchedError v ds (kept literal)) _),
          (Store.rebind_alloc herror _).symm⟩
      · exact ⟨rfl, rfl⟩
    · exact ⟨rfl, rfl⟩
  unfold Store.withOwn
  induction c.own generalizing τ with
  | nil => exact ⟨rfl, rfl⟩
  | cons r rs ih =>
    obtain ⟨hvalue, hstore⟩ := hframe τ r
    obtain ⟨hvalues, hstores⟩ := ih (σ.withPrivate τ r)
    rw [List.foldl_cons, List.foldl_cons, hvalues, hvalue, hstores, hstore]
    exact ⟨rfl, rfl⟩

/-- **What a refusal raises** hangs on the literal of the value, where the types can be written:
the error of an unmatched value, if there is a literal, and else what the literal fails with. -/
theorem run_refusal {ds : List TypeDescriptor} (hds : ∀ d ∈ ds, d.isWritable)
    (hunmatched : Gives s.store c unmatchedName .unmatched) (hvar : Gives s.store c var v)
    (htypes : Gives s.store c typesName (.types ds)) :
    (∃ e, (s.run (invoke (.builtin .repr) [v])).1 = .error e ∧
      (s.run ((refusal var).meaning.effect c)).1 = .error e) ∨
    ∃ literal t, s.run (aside c (invoke (.builtin .repr) [v])) = (.ok (.ofText literal), t) ∧
      s.run ((refusal var).meaning.effect c) =
        (.error (.unmatched v ds (kept literal)),
          ⟨(refused v ds literal t.store).2, t.interrupted⟩) := by
  have hargs : ∀ a ∈ [(var, v), (typesName, .types ds)], Gives s.store c a.1 a.2 := by
    simp [hvar, htypes]
  have hcall := run_call_loads (c := c.at_ (.statement (refusal var))) hunmatched
    isPlain_unmatched hargs
  simp only [List.map_cons, List.map_nil] at hcall
  rw [aside_at] at hcall
  have hrefusal : s.run ((refusal var).meaning.effect c) =
      match s.run (aside c (invoke .unmatched [v, .types ds] >>= tellApart)) with
      | (.ok w, t) => t.run (aside c (raised w) >>= throw)
      | (.error e, t) => (.error e, t) := by
    rw [← hcall]
    have heffect : (refusal var).meaning.effect c =
        ((Node.call (.load unmatchedName) [.load var, .load typesName] []).meaning.value
            (c.at_ (.statement (refusal var))) >>= fun w =>
          (pure .none : Run Value) >>= fun _ => aside c (raised w) >>= throw) := rfl
    rw [heffect, Session.run_bind]
    simp only [pure_bind]
    rcases s.run ((Node.call (.load unmatchedName) [.load var, .load typesName] []).meaning.value
      (c.at_ (.statement (refusal var)))) with ⟨_ | w, t⟩ <;> rfl
  rw [hrefusal]
  rcases s.run_calls (literal v s.store) with ⟨e, h⟩ | ⟨text, t, h⟩
  · refine .inl ⟨e, h _ _ (fun text σ => (.ofText text, σ)) rfl (perform_repr v _), ?_⟩
    have hnew := run_aside_error (c := c) (Session.run_bind_error
      (h _ _ (refused v ds) rfl (perform_unmatched v hds _)) tellApart)
    rcases hrun : s.run (aside c (invoke .unmatched [v, .types ds] >>= tellApart)) with ⟨r, t⟩
    rw [hrun] at hnew
    obtain rfl : r = .error e := hnew
    rfl
  · -- the error is made after the literal, and the names of the call are what they were in between
    let u : Session := ⟨t.store.withOwn c s.store, t.interrupted⟩
    refine .inr ⟨text, u, ?_, ?_⟩
    · rw [run_aside, h _ _ (fun text σ => (.ofText text, σ)) rfl (perform_repr v _)]
    · obtain ⟨hvalue, hstore⟩ := refused_withOwn v ds text t.store c s.store
      have herror : s.run (aside c (invoke .unmatched [v, .types ds] >>= tellApart)) =
          (.ok (refused v ds text u.store).1, ⟨(refused v ds text u.store).2, u.interrupted⟩) := by
        have htold : tellApart (refused v ds text t.store).1 (refused v ds text t.store).2 =
            .done (refused v ds text t.store).1 (refused v ds text t.store).2 := rfl
        rw [run_aside, Session.run_bind, h _ _ (refused v ds) rfl (perform_unmatched v hds _)]
        dsimp only
        rw [Session.run_of_done (s := ⟨(refused v ds text t.store).2, t.interrupted⟩) htold, hvalue,
          hstore]
      rw [herror]
      dsimp only
      rw [Session.run_bind, run_aside_of_same (Session.run_of_done
        (s := ⟨(refused v ds text u.store).2, u.interrupted⟩) (raised_refused v ds text u.store))]
      rfl

/-! ## Dispatches -/

/-- The tests of a dispatch are bound to their names. -/
theorem IsBound.gives_test {d : Dispatch Spelling Class Predicate} (h : d.IsBound s.store c v)
    (j : Nat) (b : Branch Spelling Class Predicate) (hb : d.branches[j]? = some b) :
    Gives s.store c (testName j) (Binding.test b.test).value := by
  refine h.names (testName j, .test b.test) ?_
  refine List.mem_cons_of_mem _ (List.mem_cons_of_mem _ (List.mem_iff_getElem?.2 ⟨j, ?_⟩))
  rw [List.getElem?_mapIdx, hb]
  rfl

/-- A class test does not fail. -/
theorem exists_accepts {t : TypeTest} (h : t.isClassTest) (σ : Store) (v : Value) :
    ∃ r, σ.accepts t v = .ok r := by
  cases t with
  | instanceOf | instanceOfAny => exact ⟨_, rfl⟩
  | _ => cases h

/-- Where no test fails, there is a first branch that accepts, or all branches reject. -/
theorem exists_first_accepting {σ : Store} {bs : List (Branch Spelling Class Predicate)}
    (h : ∀ b ∈ bs, ∃ r, σ.accepts b.test v = .ok r) :
    (∀ b ∈ bs, σ.accepts b.test v = .ok false) ∨
    ∃ before b after, bs = before ++ b :: after ∧
      (∀ b' ∈ before, σ.accepts b'.test v = .ok false) ∧ σ.accepts b.test v = .ok true := by
  induction bs with
  | nil => exact .inl fun b hb => absurd hb List.not_mem_nil
  | cons b bs ih =>
    obtain ⟨⟨r, hr⟩, hbs⟩ := List.forall_mem_cons.1 h
    cases r with
    | true => exact .inr ⟨[], b, bs, rfl, fun b' hb' => absurd hb' List.not_mem_nil, hr⟩
    | false =>
      refine (ih hbs).imp (fun hreject => List.forall_mem_cons.2 ⟨hr, hreject⟩) ?_
      rintro ⟨before, b', after, rfl, hbefore, hb'⟩
      exact ⟨b :: before, b', after, rfl, List.forall_mem_cons.2 ⟨hr, hbefore⟩, hb'⟩

/-- **A dispatch runs as its first branch that accepts**, where what it refers to is bound and
no test fails. If no branch accepts it comes to the refusal. -/
theorem run_node {d : Dispatch Spelling Class Predicate} (hbound : d.IsBound s.store c v)
    (htests : ∀ b ∈ d.branches, ∃ r, s.store.accepts b.test v = .ok r) :
    (∃ before b after, d.branches = before ++ b :: after ∧
      (∀ b' ∈ before, s.store.accepts b'.test v = .ok false) ∧
      s.store.accepts b.test v = .ok true ∧
      s.run (d.node.meaning.effect c) = s.run (inOrder c.deeper (Node.meaningsOfAll b.body))) ∨
    (∀ b ∈ d.branches, s.store.accepts b.test v = .ok false) ∧
      ∃ margin line, s.run (d.node.meaning.effect c) =
        s.run ((refusal d.var).meaning.effect { c with margin, line }) := by
  have htest : ∀ j b, d.branches[j]? = some b →
      Gives s.store c (testName (0 + j)) (Binding.test b.test).value := by
    intro j b hj
    rw [Nat.zero_add]
    exact hbound.gives_test j b hj
  rcases exists_first_accepting htests with hreject | ⟨before, b, after, heq, hbefore, hb⟩
  · exact .inr ⟨hreject, run_chainFrom_refusal hbound.isinstance hbound.var htest hreject⟩
  · refine .inl ⟨before, b, after, heq, hbefore, hb, ?_⟩
    rw [Dispatch.node, heq]
    rw [heq] at htest
    exact run_chainFrom hbound.isinstance hbound.var htest hbefore hb

end Dispatch

/-- **What the code of a generated dispatch does**, where what it refers to is bound and no
test fails. It has a branch for each type, made of the test of the type and the copy of the
body that is rewritten for it, and runs exactly as the copy of the first branch that accepts
the value. If none accepts, it raises the error of an unmatched value, which carries the
value and all types in order; but if the value has no literal, it raises what the literal
fails with. -/
theorem run_generated {g : Generator Spelling Class Predicate} {counters : Counters}
    {var : String} {types : List TypeDescriptor} {body : List Node}
    {d : Dispatch Spelling Class Predicate}
    (hd : (g.generate counters var types body).1.result = .ok d) {s : Session} {c : Site}
    {v : Value} (hbound : d.IsBound s.store c v)
    (htests : ∀ b ∈ d.branches, ∃ r, s.store.accepts b.test v = .ok r) :
    (d.types = types ∧ ∀ b ∈ d.branches, g.Makes var body b) ∧
    ((∃ before b after, d.branches = before ++ b :: after ∧
        (∀ b' ∈ before, s.store.accepts b'.test v = .ok false) ∧
        s.store.accepts b.test v = .ok true ∧
        s.run (d.node.meaning.effect c) = s.run (inOrder c.deeper (Node.meaningsOfAll b.body))) ∨
      (∀ b ∈ d.branches, s.store.accepts b.test v = .ok false) ∧
        ((∃ literal t, s.run (aside c (invoke (.builtin .repr) [v])) = (.ok (.ofText literal), t) ∧
          s.run (d.node.meaning.effect c) =
            (.error (.unmatched v types (Dispatch.kept literal)),
              ⟨(Dispatch.refused v types literal t.store).2, t.interrupted⟩)) ∨
        ∃ e, (s.run (invoke (.builtin .repr) [v])).1 = .error e ∧
          (s.run (d.node.meaning.effect c)).1 = .error e)) := by
  have hmakes := Generator.generate_makes hd
  refine ⟨hmakes, (d.run_node hbound htests).imp_right ?_⟩
  rintro ⟨hreject, margin, line, hrun⟩
  have hunmatched := hbound.names (unmatchedName, .unmatched)
    (List.mem_cons_of_mem _ List.mem_cons_self)
  have htypes := hbound.names (typesName, .types d.types) List.mem_cons_self
  rw [hmakes.1] at htypes
  rw [hrun]
  have hwritable := (Generator.branches_of_generate hd).2.1
  exact ⟨hreject, (Dispatch.run_refusal (c := { c with margin, line }) hwritable hunmatched
    hbound.var htypes).symm⟩

/-! ## A dispatch over the integers -/

/-- The dispatch of `v` over the integers, whose body is `return 1`. -/
def onIntegers : Dispatch Spelling Class Predicate :=
  ⟨"v", [⟨StandardClass.int.descriptor, .instanceOf (.standard .int),
    [.returnStmt [.constant (.int 1)]], "elt"⟩]⟩

/-- A session in which a module holds an integer and what that dispatch refers to. -/
def integerSession : Session :=
  (Session.run {} (loadModule "m"
    (("v", .ofInt 3) :: onIntegers.bindings.map fun (name, b) => (name, b.value)) [])).2

/-- That module. -/
def integerSite : Site := { module := "m", globals := ⟨0⟩ }

theorem onIntegers_generated :
    (Generator.generate { oracle := defaultDecider, table := defaultTable } {} "v"
      [StandardClass.int.descriptor] [.returnStmt [.constant (.int 1)]]).1.result =
        .ok onIntegers := rfl

theorem onIntegers_isBound : onIntegers.IsBound integerSession.store integerSite (.ofInt 3) where
  isinstance := rfl
  names := by
    intro b hb
    simp only [Dispatch.bindings, onIntegers, List.mapIdx_cons, List.mapIdx_nil, List.mem_cons,
      List.not_mem_nil, or_false] at hb
    rcases hb with rfl | rfl | rfl <;> rfl
  var := rfl

/-- An integer comes to the branch. -/
theorem run_generated_onIntegers :
    integerSession.run (onIntegers.node.meaning.effect integerSite) =
      integerSession.run (inOrder integerSite.deeper
        (Node.meaningsOfAll [.returnStmt [.constant (.int 1)]])) := by
  have haccepts : ∀ b ∈ onIntegers.branches,
      integerSession.store.accepts b.test (.ofInt 3) = .ok true := by
    intro b hb
    obtain rfl := List.mem_singleton.1 hb
    rfl
  obtain ⟨-, ⟨before, b, after, hbranches, -, -, hrun⟩ | ⟨hreject, -⟩⟩ :=
    run_generated onIntegers_generated onIntegers_isBound fun b hb => ⟨true, haccepts b hb⟩
  · have hb : b ∈ onIntegers.branches := hbranches ▸ List.mem_append_right _ List.mem_cons_self
    obtain rfl := List.mem_singleton.1 hb
    exact hrun
  · have hfalse := hreject _ List.mem_cons_self
    rw [haccepts _ List.mem_cons_self] at hfalse
    cases hfalse

end Narrowing
