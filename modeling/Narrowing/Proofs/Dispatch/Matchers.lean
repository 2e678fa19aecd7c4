import Narrowing.Proofs.Dispatch.Run
import Narrowing.Proofs.Oracle.Classes
import Narrowing.Proofs.Oracle.Tests
import Narrowing.Proofs.Oracle.Valuation
import Narrowing.Proofs.Run.Recovery
/-!
# The matchers of a descriptor

What a descriptor means for a value is settled by its atoms (`Decider.Means`). Three programs
decide it: the runtime test of the descriptor, the check that an assertion makes, and the
condition that a dispatch is generated with, which checks instances against a list of classes
or calls a predicate, whichever the members of a union leave.

All of them give one answer, if every atom has a test that comes out for the value
(`matchers_agree`). It is enough that the test of the whole atom comes out: where an atom is
spelled as a union, a member that fails is no harm behind one that accepts. So the induction is
on the descriptor as it is written, and not on its normal form.

Where an atom has no test that is reported, and the report shows the atom. It fails itself for an
atom that cannot be written.
-/

namespace Narrowing

open Code

/-! ## Meanings -/

namespace Decider

variable {α κ π ε : Type} {c : Decider α κ π} {isInstance : κ → Bool}
  {holds : π → Except ε Bool} {d : Descriptor α}

/-- **What a descriptor means for a value**: an atom what its own test accepts, the universal
type every value, the empty type none, and a union what some member means. -/
def Means (c : Decider α κ π) (isInstance : κ → Bool) (holds : π → Except ε Bool)
    (d : Descriptor α) : Prop :=
  d.Accepts fun a => c.Judges isInstance holds (.atom a) true

/-- The check of a value is the runtime test. -/
theorem check_of_accepts {t : RuntimeTest κ π} {r : Bool} (ht : c.test d = .ok t)
    (hr : t.accepts isInstance holds = .ok r) : c.check isInstance holds d = .ok r := by
  rw [check, ht]
  dsimp only
  rw [hr]
  rfl

end Decider

namespace Oracle

variable {α κ π ε : Type} {o : Oracle α κ π} {c : Decider α κ π} {isInstance : κ → Bool}
  {holds : π → Except ε Bool} {d : Descriptor α}

/-- **The runtime test of a descriptor accepts what it means**, where the tests of its atoms
come out. -/
theorem LiftsTo.exists_judges_iff_means [BEq α] [Named α] (hc : o.LiftsTo c)
    (heverything : isInstance o.everything = true)
    (hd : ∀ a ∈ d.atoms, ∃ r, c.Judges isInstance holds (.atom a) r) :
    ∃ t r, c.test d = .ok t ∧ t.accepts isInstance holds = .ok r ∧
      (r = true ↔ c.Means isInstance holds d) := by
  induction d with
  | atom a =>
    obtain ⟨r, hr⟩ := hd a (by simp)
    obtain ⟨t, ht, htr⟩ := id hr
    refine ⟨t, r, ht, htr, ?_⟩
    rw [Decider.Means, Descriptor.accepts_atom]
    exact ⟨fun h => h ▸ hr, hr.unique⟩
  | top =>
    refine ⟨_, _, hc.test_top, by rw [RuntimeTest.accepts], ?_⟩
    exact iff_of_true heverything Descriptor.accepts_top
  | bottom =>
    refine ⟨_, _, hc.test_bottom, by rw [RuntimeTest.accepts], ?_⟩
    exact iff_of_false Bool.false_ne_true Descriptor.not_accepts_bottom
  | union ms ih =>
    -- the members are tested as they are written, whether or not their normal forms are unions
    obtain ⟨ts, r, hts, hr, hiff⟩ := RuntimeTest.mapM_tell fun m hm =>
      ih m hm fun a ha => hd a (Descriptor.mem_atoms_union.2 ⟨m, hm, ha⟩)
    refine ⟨.ofMembers ts, r, hc.test_union hts, ?_, ?_⟩
    · rw [RuntimeTest.accepts_ofMembers, hr]
    · rw [hiff, Decider.Means, Descriptor.accepts_union]
      rfl

/-! ## Atoms without a test -/

/-- A descriptor fails to have a test for the sake of one of its atoms. -/
theorem exists_atomicTest_of_testOf_error {e : MissingTest α} (h : o.testOf d = .error e) :
    ∃ a ∈ d.atoms, o.atomicTest a = .error e := by
  induction d with
  | atom a => exact ⟨a, by simp, by rwa [testOf] at h⟩
  | top => rw [testOf] at h; cases h
  | bottom => rw [testOf] at h; cases h
  | union ms ih =>
    have hmembers : ∀ ns ⊆ ms, o.testsOf ns = .error e →
        ∃ m ∈ ms, o.testOf m = .error e := by
      intro ns hns hts
      induction ns with
      | nil => rw [testsOf] at hts; cases hts
      | cons n ns ihns =>
        rw [testsOf] at hts
        split at hts
        · next e' he' =>
          obtain rfl := Except.error.inj hts
          exact ⟨n, hns List.mem_cons_self, he'⟩
        · refine ihns (fun m hm => hns (List.mem_cons_of_mem n hm)) ?_
          cases hrest : o.testsOf ns with
          | error e' => rw [hrest] at hts; exact congrArg _ (Except.error.inj hts)
          | ok us => rw [hrest] at hts; cases hts
    rw [testOf] at h
    cases hts : o.testsOf ms with
    | ok ts => rw [hts] at h; cases h
    | error e' =>
      rw [hts] at h
      obtain rfl := Except.error.inj h
      obtain ⟨m, hm, hme⟩ := hmembers ms (List.Subset.refl ms) hts
      obtain ⟨a, ha, hae⟩ := ih m hm hme
      exact ⟨a, Descriptor.mem_atoms_union.2 ⟨m, hm, ha⟩, hae⟩

end Oracle

/-- **A declared hierarchy has no test for a descriptor with an atom that it lists none for**,
wherever the atom stands; the first such atom is reported. -/
theorem NominalTypes.test_undeclared {α κ π : Type} [BEq α] [Named α] {t : NominalTypes α κ π}
    {everything : κ} {d : Descriptor α} {a : α} (ha : a ∈ d.atoms)
    (hnone : lastDeclared (.atom a) t.tests = none) :
    ∃ e ∈ d.atoms, lastDeclared (.atom e) t.tests = none ∧
      (t.decider everything).test d = .error (Fault.untestable (.undeclared e)).reported := by
  have hplain := t.plain everything
  have hreported : (t.decider everything).test d = (t.oracle everything).reportedTest d :=
    hplain.readsWithin.testWithin_eq (hplain.layered d) (Nat.lt_succ_self _)
  rw [hreported, Oracle.reportedTest, Oracle.runtimeTest, normalForm_oracle]
  cases htest : (t.oracle everything).testOf d with
  | ok u =>
    obtain ⟨w, hw⟩ := Oracle.exists_atomicTest_of_testOf htest a ha
    simp [oracle, hnone] at hw
  | error e =>
    obtain ⟨b, hb, hbe⟩ := Oracle.exists_atomicTest_of_testOf_error htest
    simp only [oracle] at hbe
    split at hbe
    · cases hbe
    · next hnone' =>
      obtain rfl := Except.error.inj hbe
      exact ⟨b, hb, hnone', rfl⟩

/-- A literal can be written if the name can. -/
theorem Spelling.literalText?_isSome (s : Spelling) : s.literalText?.isSome = s.text?.isSome := by
  cases s <;> rfl

/-- **How a missing test is reported**: as an error of specialization, if its atom can be
written. -/
theorem Problem.kind_reported_untestable (missing : MissingTest Spelling) :
    (Problem.ofFault (Fault.untestable missing).reported).kind =
      if missing.subject.text?.isSome then "SpecializationError" else "ValueError" := by
  have hname : (Descriptor.atom missing.subject).isWritable = missing.subject.text?.isSome := rfl
  have hall : (Fault.untestable missing).shown.all Descriptor.isWritable =
      missing.subject.text?.isSome := by
    simp [Fault.shown, hname]
  rw [Fault.reported, hall]
  split
  · next hsome =>
    obtain ⟨text, htext⟩ := Option.isSome_iff_exists.1 hsome
    cases missing with
    | undeclared a =>
      rw [ofFault, ofMissingTest, show a.text? = some text from htext]
      rfl
    | notAClass a =>
      obtain ⟨literal, hliteral⟩ := Option.isSome_iff_exists.1 ((a.literalText?_isSome).trans hsome)
      rw [ofFault, ofMissingTest, hliteral]
      rfl
  · rfl

/-! ## Emitted conditions -/

namespace Dispatch

variable {α κ π : Type}

/-- **The conditions in the code of a dispatch**, in order. -/
def conditions : Node → List Node
  | .ifStmt test _ [rest] => test :: conditions rest
  | _ => []

theorem conditions_chainFrom (var : String) (i : Nat) (bs : List (Branch α κ π)) :
    conditions (chainFrom var i bs) = bs.mapIdx fun j b => condition var (i + j) b.test := by
  induction bs generalizing i with
  | nil => rfl
  | cons b bs ih =>
    rw [chainFrom, conditions, ih, List.mapIdx_cons]
    simp only [Nat.add_zero, Nat.add_assoc, Nat.add_comm 1]

/-- Each branch has its condition. -/
theorem getElem?_conditions (d : Dispatch α κ π) (i : Nat) :
    (conditions d.node)[i]? = d.branches[i]?.map fun b => condition d.var i b.test := by
  rw [node, conditions_chainFrom, List.getElem?_mapIdx]
  simp only [Nat.zero_add]

/-- **A generated dispatch has a condition for each type**, made from the test of the type. -/
theorem exists_condition {α κ π : Type} [Named α] {g : Generator α κ π} {counters : Counters}
    {var : String} {types : List (Descriptor α)} {body : List Node} {dispatch : Dispatch α κ π}
    (h : (g.generate counters var types body).1.result = .ok dispatch) {i : Nat}
    {d : Descriptor α} (hd : types[i]? = some d) :
    ∃ b, dispatch.branches[i]? = some b ∧ g.oracle.test d = .ok b.test ∧
      (conditions dispatch.node)[i]? = some (condition dispatch.var i b.test) := by
  obtain ⟨htypes, htests⟩ := Generator.generate_spec h
  rw [← htypes, Dispatch.types, List.getElem?_map] at hd
  obtain ⟨b, hb, rfl⟩ := Option.map_eq_some_iff.1 hd
  refine ⟨b, hb, htests b (List.mem_of_getElem? hb), ?_⟩
  rw [getElem?_conditions, hb]
  rfl

end Dispatch

/-! ## All matchers -/

section Matchers

variable {α κ π ε : Type} [Named α]

/-- **The matchers of a descriptor give one answer** on a value: what it means, the check
of the value, and every condition that a dispatch over the descriptor is generated with. -/
structure Decider.Agrees (c : Decider α κ π) (isInstance : κ → Bool) (holds : π → Except ε Bool)
    (d : Descriptor α) (r : Bool) : Prop where
  means : r = true ↔ c.Means isInstance holds d
  checks : c.check isInstance holds d = .ok r
  emits : ∀ (g : Generator α κ π) (counters : Counters) (var : String)
    (types : List (Descriptor α)) (body : List Node) (dispatch : Dispatch α κ π), g.oracle = c →
    (g.generate counters var types body).1.result = .ok dispatch →
    ∀ i : Nat, types[i]? = some d →
      ∃ test, (Dispatch.conditions dispatch.node)[i]? = some test ∧
        Dispatch.outcome dispatch.bindings isInstance holds dispatch.var test = .ok r

/-- They do so if every atom has a test that comes out. -/
theorem Oracle.LiftsTo.exists_agrees [BEq α] {o : Oracle α κ π} {c : Decider α κ π}
    (hc : o.LiftsTo c) {isInstance : κ → Bool} {holds : π → Except ε Bool} {d : Descriptor α}
    (heverything : isInstance o.everything = true)
    (hd : ∀ a ∈ d.atoms, ∃ r, c.Judges isInstance holds (.atom a) r) :
    ∃ r, c.Agrees isInstance holds d r := by
  obtain ⟨t, r, ht, hr, hiff⟩ := hc.exists_judges_iff_means heverything hd
  refine ⟨r, hiff, Decider.check_of_accepts ht hr, ?_⟩
  rintro g counters var types body dispatch rfl hdispatch i hi
  obtain ⟨b, hb, htest, hcondition⟩ := Dispatch.exists_condition hdispatch hi
  obtain rfl := Except.ok.inj (ht.symm.trans htest)
  exact ⟨_, hcondition, Dispatch.outcome_condition (dispatch.lookup_testName hb) hr⟩

end Matchers

/-- **The matchers give one answer where code runs**: checking a value leaves the session alone
and gives a failure exactly if the answer is no, and so does the condition of a dispatch whose
names are bound. -/
structure Session.Agrees (s : Session) (c : TypeDecider) (v : Value) (d : TypeDescriptor)
    (r : Bool) : Prop where
  checks : s.run (Run.checkType c d v) = (.ok (if r then none else some ⟨v, d, 0⟩), s)
  runs : ∀ (g : Generator Spelling Class Predicate) (counters : Counters) (var : String)
    (types : List TypeDescriptor) (body : List Node) (dispatch : Dispatch Spelling Class Predicate),
    g.oracle = c → (g.generate counters var types body).1.result = .ok dispatch →
    ∀ place : Site, dispatch.IsBound s.store place v → ∀ i : Nat, types[i]? = some d →
      ∃ test : Node, (Dispatch.conditions dispatch.node)[i]? = some test ∧
        s.run (test.meaning.value place) = (.ok (.bool r), s)

/-- What the check of a descriptor answers is what code comes to. -/
theorem Session.agrees_of_judges {s : Session} {c : TypeDecider} {v : Value} {d : TypeDescriptor}
    {t : TypeTest} {r : Bool} (ht : c.test d = .ok t)
    (hr : s.store.accepts t v = .ok r) : s.Agrees c v d r where
  checks := by
    have hcheck : s.checks c d v = .ok r := Decider.check_of_accepts ht hr
    rw [run_checkType, hcheck]
    cases r <;> rfl
  runs := by
    rintro g counters var types body dispatch rfl hdispatch place hbound i hi
    obtain ⟨b, hb, htest, hcondition⟩ := Dispatch.exists_condition hdispatch hi
    obtain rfl := Except.ok.inj (ht.symm.trans htest)
    exact ⟨_, hcondition,
      run_condition hbound.isinstance (hbound.gives_test i b hb) hbound.var hr⟩

/-- **All matchers of a descriptor agree**, over any atoms, classes and predicates, and where code
runs, on each value for which the tests of the atoms come out and which is an instance of what
holds everything. A declared hierarchy has none for a descriptor in which it lists no test
for some atom; this is reported for the first such atom, as an error of specialization if the atom
can be written and as one of a bad value if not. -/
theorem matchers_agree (s : Session) (v : Value) (missing : MissingTest Spelling) :
    (∀ {α κ π ε : Type} [BEq α] [Named α] (o : Oracle α κ π) (c : Decider α κ π), o.LiftsTo c →
      ∀ (isInstance : κ → Bool) (holds : π → Except ε Bool) (d : Descriptor α),
        isInstance o.everything = true →
        (∀ a ∈ d.atoms, ∃ r, c.Judges isInstance holds (.atom a) r) →
          ∃ r, c.Agrees isInstance holds d r) ∧
    (∀ (o : TypeOracle) (c : TypeDecider), o.LiftsTo c →
      ∀ d : TypeDescriptor, s.store.isInstance v o.everything = true →
        (∀ a ∈ d.atoms, ∃ r, c.Judges (s.store.isInstance v) (s.store.holds v) (.atom a) r) →
          ∃ r, c.Agrees (s.store.isInstance v) (s.store.holds v) d r ∧ s.Agrees c v d r) ∧
    (∀ {α κ π : Type} [BEq α] [Named α] (t : NominalTypes α κ π) (everything : κ)
      (d : Descriptor α), ∀ a ∈ d.atoms, lastDeclared (.atom a) t.tests = none →
        ∃ e ∈ d.atoms, lastDeclared (.atom e) t.tests = none ∧
          (t.decider everything).test d = .error (Fault.untestable (.undeclared e)).reported) ∧
    (Problem.ofFault (Fault.untestable missing).reported).kind =
      if missing.subject.text?.isSome then "SpecializationError" else "ValueError" := by
  refine ⟨fun o c hc isInstance holds d => hc.exists_agrees,
    fun o c hc d heverything hd => ?_,
    fun t everything d a ha hnone => NominalTypes.test_undeclared ha hnone,
    Problem.kind_reported_untestable missing⟩
  obtain ⟨t, r, ht, hr, -⟩ := hc.exists_judges_iff_means heverything hd
  obtain ⟨r', hagrees⟩ := hc.exists_agrees heverything hd
  obtain rfl : r' = r :=
    Except.ok.inj (hagrees.checks.symm.trans (Decider.check_of_accepts ht hr))
  exact ⟨r', hagrees, Session.agrees_of_judges ht hr⟩

/-- So a mixed union over predicates, a union over the standard classes, and a name without a
test. -/
theorem matchers_agree_integers :
    (∃ r, (NominalTypes.integers.decider ()).Agrees (fun _ => true)
      (fun p => (.ok (p == .bignum) : Except Empty Bool))
      (.union [.atom "Fixnum", .union [.union [], .atom "Integer"], .bottom]) r) ∧
    (∃ r, defaultDecider.Agrees (integerSession.store.isInstance (.ofInt 3))
        (integerSession.store.holds (.ofInt 3))
        (.union [StandardClass.str.descriptor, .union [StandardClass.int.descriptor]]) r ∧
      integerSession.Agrees defaultDecider (.ofInt 3)
        (.union [StandardClass.str.descriptor, .union [StandardClass.int.descriptor]]) r) ∧
    (∃ e ∈ (Descriptor.union [.top, .atom "Fixnum", .atom "Number"]).atoms,
      lastDeclared (.atom e) NominalTypes.integers.tests = none ∧
        (NominalTypes.integers.decider ()).test
          (.union [.top, .atom "Fixnum", .atom "Number"]) =
            .error (Fault.untestable (.undeclared e)).reported) ∧
    (Problem.ofFault (Fault.untestable (.undeclared (.name "Number"))).reported).kind =
      "SpecializationError" := by
  obtain ⟨hagree, hagreeRunning, hundeclared, hkind⟩ :=
    matchers_agree integerSession (.ofInt 3) (.undeclared (.name "Number"))
  refine ⟨hagree _ _ NominalTypes.integers_liftsTo _ _ _ rfl ?_,
    hagreeRunning _ _ liftsTo_defaultDecider _ rfl ?_,
    hundeclared NominalTypes.integers () _ "Number" (by decide) rfl, hkind⟩
  · have hatoms : (Descriptor.union [.atom "Fixnum", .union [.union [], .atom "Integer"],
        .bottom]).atoms = ["Fixnum", "Integer"] := rfl
    rw [hatoms]
    exact List.forall_mem_cons.2 ⟨⟨_, _, rfl, rfl⟩, List.forall_mem_singleton.2 ⟨_, _, rfl, rfl⟩⟩
  · have hatoms : (Descriptor.union [StandardClass.str.descriptor,
        .union [StandardClass.int.descriptor]]).atoms =
          [.cls (.standard .str), .cls (.standard .int)] := rfl
    rw [hatoms]
    exact List.forall_mem_cons.2 ⟨⟨_, _, rfl, rfl⟩, List.forall_mem_singleton.2 ⟨_, _, rfl, rfl⟩⟩

end Narrowing
