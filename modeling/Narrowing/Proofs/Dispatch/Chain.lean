import Narrowing.Dispatch.Generate
/-!
# What a dispatch chain comes to

A dispatch chain is code, and it refers to its tests by name. To say what it comes to
for a value takes no more than its conditions and what their names are bound to: a
condition is an instance check against a bound class test or a call of a bound test
(`Dispatch.outcome`), and the chain is followed from condition to condition until one
holds (`Dispatch.reached`).

The names of the tests are told apart by their numbers, so each condition asks the
test of its own branch (`Dispatch.lookup_testName`). What is reached is then the copy
of the first branch that accepts (`Dispatch.reached_node`).
-/

namespace Narrowing

open Code

/-! ## Names of tests -/

theorem testName_injective : Function.Injective testName := by
  intro i j h
  have hrepr : toString i = toString j :=
    (String.append_right_inj _).1 ((String.append_left_inj _).1 h)
  have hdigits : Nat.toDigits 10 i = Nat.toDigits 10 j := by
    rw [← Nat.toList_repr, ← Nat.toList_repr]
    exact congrArg String.toList hrepr
  rw [← Nat.ofDigitChars_ten_toDigits (n := i), hdigits, Nat.ofDigitChars_ten_toDigits]

/-- The number in the name of a test is followed by something else than letters. -/
theorem testName_ne_typesName (i : Nat) : testName i ≠ typesName := by
  intro h
  have hlist := congrArg String.toList h
  obtain ⟨c, cs, hcs⟩ : ∃ c cs, Nat.toDigits 10 i = c :: cs :=
    List.exists_cons_of_ne_nil Nat.toDigits_ne_nil
  have hdigit : c.isDigit = true :=
    Nat.isDigit_of_mem_toDigits (n := i) (by decide) (by decide) (hcs ▸ List.mem_cons_self)
  have hc : c = 'y' := by
    simp [testName, typesName, hcs] at hlist
    exact hlist.1
  rw [hc] at hdigit
  cases hdigit

theorem testName_ne_unmatchedName (i : Nat) : testName i ≠ unmatchedName := by
  intro h
  have hlist := congrArg String.toList h
  simp [testName, unmatchedName] at hlist

namespace Dispatch

variable {α κ π ε : Type}

/-! ## Following a chain -/

section Following

variable (names : List (String × Binding α κ π)) (isInstance : κ → Bool)
  (holds : π → Except ε Bool) (var : String)

/-- The test that a name is bound to. -/
def boundTest (name : String) : Except (Option ε) (RuntimeTest κ π) :=
  match names.lookup name with
  | some (.test t) => .ok t
  | _ => .error none

/-- **How a condition on the variable comes out** for a value; what is no condition of a
chain has no outcome. -/
def outcome : Node → Except (Option ε) Bool
  | .call (.load f) [.load v, .load name] [] => do
    let t ← boundTest names name
    if f = "isinstance" && v = var && t.isClassTest then
      (t.accepts isInstance holds).mapError some
    else .error none
  | .call (.load name) [.load v] [] => do
    let t ← boundTest names name
    if v = var then (t.accepts isInstance holds).mapError some else .error none
  | _ => .error none

/-- **What a chain comes to**: the block of the first condition that holds, or what
stands in the place of a further condition. -/
def reached : Node → Except (Option ε) (List Node)
  | .ifStmt test body [rest] => do
    if ← outcome names isInstance holds var test then return body else reached rest
  | n => return [n]

variable {names isInstance holds var}

theorem outcome_condition {i : Nat} {t : RuntimeTest κ π} {r : Bool}
    (hname : names.lookup (testName i) = some (.test t))
    (ht : t.accepts isInstance holds = .ok r) :
    outcome names isInstance holds var (condition var i t) = .ok r := by
  have hbound : boundTest names (testName i) = (.ok t : Except (Option ε) _) := by
    rw [boundTest, hname]
  unfold condition
  split
  · next hclass =>
    rw [outcome, hbound]
    show (if ("isinstance" = "isinstance" && var = var && t.isClassTest) = true then _ else _) = _
    rw [if_pos (by simp [hclass]), ht]
    rfl
  · rw [outcome, hbound]
    show (if var = var then _ else _) = _
    rw [if_pos rfl, ht]
    rfl

/-- A chain with a branch that accepts, and whose branches before that one reject, comes
to the copy of that branch. -/
theorem reached_chainFrom {i : Nat} {before after : List (Branch α κ π)} {b : Branch α κ π}
    (hnames : ∀ j c, (before ++ b :: after)[j]? = some c →
      names.lookup (testName (i + j)) = some (.test c.test))
    (hbefore : ∀ c ∈ before, c.test.accepts isInstance holds = .ok false)
    (hb : b.test.accepts isInstance holds = .ok true) :
    reached names isInstance holds var (chainFrom var i (before ++ b :: after)) = .ok b.body := by
  induction before generalizing i with
  | nil =>
    have hname : names.lookup (testName i) = some (.test b.test) := hnames 0 b rfl
    rw [List.nil_append, chainFrom, reached, outcome_condition hname hb]
    rfl
  | cons c before ih =>
    have hname : names.lookup (testName i) = some (.test c.test) := hnames 0 c rfl
    rw [List.cons_append, chainFrom, reached,
      outcome_condition hname (hbefore c List.mem_cons_self)]
    refine ih (fun j d hj => ?_) fun d hd => hbefore d (List.mem_cons_of_mem c hd)
    rw [Nat.add_assoc, Nat.add_comm 1 j]
    exact hnames (j + 1) d hj

end Following

/-! ## The names of a chain -/

/-- Each test name is bound to the test of its branch. -/
theorem lookup_testName (d : Dispatch α κ π) {i : Nat} {b : Branch α κ π}
    (h : d.branches[i]? = some b) : d.bindings.lookup (testName i) = some (.test b.test) := by
  have hnumbered : ∀ (k : Nat) (bs : List (Branch α κ π)) (j : Nat), bs[j]? = some b →
      (bs.mapIdx fun n c => (testName (k + n), Binding.test (α := α) c.test)).lookup
        (testName (k + j)) = some (.test b.test) := by
    intro k bs
    induction bs generalizing k with
    | nil => intro j h; cases h
    | cons c bs ih =>
      intro j h
      rw [List.mapIdx_cons]
      cases j with
      | zero =>
        cases h
        exact List.lookup_cons_self
      | succ j =>
        have hne : (testName (k + (j + 1)) == testName (k + 0)) = false :=
          beq_eq_false_iff_ne.2 fun e => by have := testName_injective e; omega
        have := ih (k + 1) j h
        rw [List.lookup_cons, hne]
        simpa [Nat.add_assoc, Nat.add_comm 1] using this
  have htypes : (testName i == typesName) = false := beq_eq_false_iff_ne.2 (testName_ne_typesName i)
  have hunmatched : (testName i == unmatchedName) = false :=
    beq_eq_false_iff_ne.2 (testName_ne_unmatchedName i)
  have := hnumbered 0 d.branches i h
  rw [bindings, List.lookup_cons, htypes, List.lookup_cons, hunmatched]
  simpa using this

/-- **A chain has each name once.** -/
theorem lookup_bindings {d : Dispatch α κ π} {b : String × Binding α κ π}
    (h : b ∈ d.bindings) : d.bindings.lookup b.1 = some b.2 := by
  rcases List.mem_cons.1 h with rfl | h
  · exact List.lookup_cons_self
  rcases List.mem_cons.1 h with rfl | h
  · have hne : (unmatchedName == typesName) = false := by decide
    rw [bindings, List.lookup_cons, hne]
    exact List.lookup_cons_self
  · obtain ⟨i, hi, rfl⟩ := List.mem_mapIdx.1 h
    exact d.lookup_testName (List.getElem?_eq_getElem hi)

/-- These names end with two underscores. -/
theorem suffix_of_mem_bindings {d : Dispatch α κ π} {b : String × Binding α κ π}
    (h : b ∈ d.bindings) : ['_', '_'] <:+ b.1.toList := by
  rcases List.mem_cons.1 h with rfl | h
  · show ['_', '_'] <:+ typesName.toList
    decide
  rcases List.mem_cons.1 h with rfl | h
  · show ['_', '_'] <:+ unmatchedName.toList
    decide
  · obtain ⟨i, hi, rfl⟩ := List.mem_mapIdx.1 h
    rw [testName, String.toList_append]
    exact List.suffix_append _ _

/-- **A dispatch comes to the copy of its first branch that accepts.** -/
theorem reached_node {d : Dispatch α κ π} {isInstance : κ → Bool} {holds : π → Except ε Bool}
    {before after : List (Branch α κ π)} {b : Branch α κ π}
    (hd : d.branches = before ++ b :: after)
    (hbefore : ∀ c ∈ before, c.test.accepts isInstance holds = .ok false)
    (hb : b.test.accepts isInstance holds = .ok true) :
    reached d.bindings isInstance holds d.var d.node = .ok b.body := by
  rw [node, hd]
  refine reached_chainFrom (fun j c hj => ?_) hbefore hb
  rw [Nat.zero_add]
  exact d.lookup_testName (hd ▸ hj)

end Dispatch

/-! ## Generated chains -/

namespace Generator

variable {α κ π : Type} [Named α] {g : Generator α κ π}

/-- **What a branch is made of**: the test of its type, and the copy of the body that is
rewritten with the accessor which serves its type. -/
structure Makes (g : Generator α κ π) (var : String) (body : List Node) (b : Branch α κ π) :
    Prop where
  test : g.oracle.test b.type = .ok b.test
  copy : ∃ a, g.table.lookup b.type = .ok a ∧ b.accessorName = a.name ∧
    b.body = (Rewriter.applyList ⟨var, a, g.accessorNames⟩ body).1

theorem branch_spec {var : String} {body : List Node} {d : Descriptor α} {b : Branch α κ π}
    {n : Nat} (h : g.branch var body d = (.ok b, n)) : b.type = d ∧ g.Makes var body b := by
  unfold branch at h
  split at h
  · cases h
  · next ht =>
    split at h
    · cases h
    · next a ha =>
      dsimp only at h
      split at h
      · cases h
      · obtain rfl := Except.ok.inj (Prod.mk.inj h).1
        exact ⟨rfl, ht, a, ha, rfl, rfl⟩

theorem branchesFor_spec {var : String} {body : List Node} {ds : List (Descriptor α)}
    {bs : List (Branch α κ π)} {n : Nat} (h : g.branchesFor var body ds = (.ok bs, n)) :
    bs.map Branch.type = ds ∧ ∀ b ∈ bs, g.Makes var body b := by
  induction ds generalizing bs n with
  | nil =>
    obtain rfl := Except.ok.inj (Prod.mk.inj h).1
    exact ⟨rfl, fun b hb => absurd hb List.not_mem_nil⟩
  | cons d ds ih =>
    rw [branchesFor] at h
    split at h
    · cases h
    · next b m hb =>
      obtain ⟨rfl, hmakes⟩ := branch_spec hb
      rcases hrest : g.branchesFor var body ds with ⟨rest, k⟩
      rw [hrest] at h
      cases rest with
      | error f => cases h
      | ok rest =>
        obtain rfl := Except.ok.inj (Prod.mk.inj h).1
        obtain ⟨htypes, hrests⟩ := ih hrest
        exact ⟨by rw [List.map_cons, htypes], List.forall_mem_cons.2 ⟨hmakes, hrests⟩⟩

/-- **What it takes to generate a dispatch**: there are types, all of them can be written, and a
branch can be made for each. -/
theorem branches_of_generate {counters : Counters} {var : String} {types : List (Descriptor α)}
    {body : List Node} {d : Dispatch α κ π}
    (h : (g.generate counters var types body).1.result = .ok d) :
    types ≠ [] ∧ (∀ t ∈ types, t.isWritable) ∧ d.var = var ∧
      ∃ n, g.branchesFor var body types = (.ok d.branches, n) := by
  unfold generate at h
  split at h
  · cases h
  · next hsome =>
    have htypes : types ≠ [] := fun hnone => hsome (List.isEmpty_iff.2 hnone)
    split at h
    · cases h
    · rcases hbs : g.branchesFor var body types with ⟨branches, count⟩
      rw [hbs] at h
      cases branches with
      | error f => cases h
      | ok bs =>
        dsimp only at h
        split at h
        · next hwritable =>
          obtain rfl := Except.ok.inj h
          exact ⟨htypes, List.all_eq_true.1 hwritable, rfl, count, rfl⟩
        · cases h

/-- **A generated dispatch has one branch for each type**, in order. -/
theorem generate_makes {counters : Counters} {var : String} {types : List (Descriptor α)}
    {body : List Node} {d : Dispatch α κ π}
    (h : (g.generate counters var types body).1.result = .ok d) :
    d.types = types ∧ ∀ b ∈ d.branches, g.Makes var body b := by
  obtain ⟨-, -, -, n, hbs⟩ := branches_of_generate h
  exact branchesFor_spec hbs

/-- A dispatch is one over the variable that it is generated for, and there are types. -/
theorem generate_over {counters : Counters} {var : String} {types : List (Descriptor α)}
    {body : List Node} {d : Dispatch α κ π}
    (h : (g.generate counters var types body).1.result = .ok d) :
    d.var = var ∧ types ≠ [] :=
  have ⟨htypes, _, hvar, _⟩ := branches_of_generate h
  ⟨hvar, htypes⟩

/-- Its branches have the tests of the types. -/
theorem generate_spec {counters : Counters} {var : String} {types : List (Descriptor α)}
    {body : List Node} {d : Dispatch α κ π}
    (h : (g.generate counters var types body).1.result = .ok d) :
    d.types = types ∧ ∀ b ∈ d.branches, g.oracle.test b.type = .ok b.test := by
  obtain ⟨htypes, hmakes⟩ := generate_makes h
  exact ⟨htypes, fun b hb => (hmakes b hb).test⟩

end Generator

end Narrowing
