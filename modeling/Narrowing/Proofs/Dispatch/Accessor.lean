import Narrowing.Proofs.Access.Table
import Narrowing.Proofs.Dispatch.Exhaustive
/-!
# Accessors fit the values they meet

In each branch of a dispatch the element accesses are rewritten with the accessor of one entry of
the table, the first entry that contains the type of the branch. That entry is chosen from the
type alone, before there is a value; which branch a value comes to is decided by the tests,
when it runs.

The two go together if one oracle is behind both. Its tests being sound, a value that the
test of the branch accepts is accepted by the test of the entry as well
(`fits_of_generate`). The types need not be resolved branches for that, nor must the relation of
the oracle be transitive: between the type of a branch and its entry there is a single
question. But the types have to be read layer by layer: where a spelling collapses into another
one, its test knows nothing of what the question found in it.
-/

namespace Narrowing

/-- **Accessors only touch values they fit.** Let a generator and its table have one oracle, whose
tests are sound for the atoms involved with the types of the branches and of the table, and let
these types and the declared parts be layered. If a branch of a generated dispatch is the first one that accepts a value, then the dispatch comes
to the copy of that branch for the value; the copy is rewritten with the accessor of an entry
that serves the type of the branch; and the test of that entry accepts the value. -/
theorem fits_of_generate {α κ π ε ν : Type} [BEq α] [Named α] (o : Oracle α κ π)
    (g : Generator α κ π) (hg : o.LiftsTo g.oracle) (hparts : o.LayeredParts)
    (htable : g.table.oracle = g.oracle) (types : List (Descriptor α))
    (hlayered : ∀ t ∈ types ++ g.table.entries.map AccessorEntry.type, o.Layered t)
    (isInstance : ν → κ → Bool) (holds : ν → π → Except ε Bool)
    (hs : ∀ v, o.SoundTests g.oracle (isInstance v) (holds v)
      (o.Involved (types ++ g.table.entries.map AccessorEntry.type)))
    (counters : Counters) (var : String) (body : List Code.Node) (d : Dispatch α κ π)
    (hd : (g.generate counters var types body).1.result = .ok d)
    (v : ν) (before after : List (Branch α κ π)) (b : Branch α κ π)
    (hsplit : d.branches = before ++ b :: after)
    (hbefore : ∀ c ∈ before, c.test.accepts (isInstance v) (holds v) = .ok false)
    (hb : b.test.accepts (isInstance v) (holds v) = .ok true) :
    Dispatch.reached d.bindings (isInstance v) (holds v) d.var d.node = .ok b.body ∧
    ∃ e, g.table.Serves b.type e ∧ b.accessorName = e.accessor.name ∧
      b.body = (Rewriter.applyList ⟨var, e.accessor, g.accessorNames⟩ body).1 ∧
      g.oracle.Judges (isInstance v) (holds v) e.type true := by
  refine ⟨Dispatch.reached_node hsplit hbefore hb, ?_⟩
  obtain ⟨htypes, hmakes⟩ := Generator.generate_makes hd
  have hmem : b ∈ d.branches := hsplit ▸ List.mem_append_right before List.mem_cons_self
  obtain ⟨htest, a, hlookup, hname, hbody⟩ := hmakes b hmem
  obtain ⟨e, hserves, rfl⟩ := AccessorTable.exists_serves_of_lookup hlookup
  refine ⟨e, hserves, hname, hbody, ?_⟩
  have hbtype : b.type ∈ types ++ g.table.entries.map AccessorEntry.type :=
    List.mem_append_left _ (htypes ▸ List.mem_map_of_mem hmem)
  have hetype : e.type ∈ types ++ g.table.entries.map AccessorEntry.type :=
    List.mem_append_right _ (List.mem_map_of_mem hserves.mem)
  -- the look-up asked the oracle of the table, the tests are those of the generator
  refine (hs v).judges_of_subtype hg hparts (o.partClosed_involved _) (hlayered _ hbtype)
    (hlayered _ hetype) (Oracle.involved_of_mem hbtype) (Oracle.involved_of_mem hetype) ?_
    ⟨b.test, htest, hb⟩
  rw [← htable]
  exact hserves.subtype

/-! ## An instance

Both kinds of integers are looked up in a table that knows the small ones and all of them. -/

section Integers

open NominalTypes

/-- Small integers have an accessor of their own, and all integers share one. -/
def integerEntries : List (AccessorEntry String) :=
  [⟨.atom "Fixnum", .arrayIndex⟩, ⟨.atom "Integer", .sequenceIndex⟩, ⟨.top, .generic⟩]

/-- A generator over the integers. -/
def integerGenerator : Generator String Unit Predicate where
  oracle := integers.decider ()
  table := ⟨integers.decider (), integerEntries⟩

/-- What is generated for a body that returns the first element: a branch for each kind. -/
def integerDispatch : Dispatch String Unit Predicate where
  var := "v"
  branches :=
    let access := [Code.Node.returnStmt
      [.subscript (.load "v") (.constant (.int 0)) .load]]
    [⟨.atom "Fixnum", .check .fixnum, access, "array_index"⟩,
      ⟨.atom "Bignum", .check .bignum, access, "sequence_index"⟩]

theorem involved_of_integerEntries {a : String}
    (h : (integers.oracle ()).Involved ([.atom "Fixnum", .atom "Bignum"] ++
      integerEntries.map AccessorEntry.type) a) :
    (integers.oracle ()).Involved [.atom "Integer", .atom "Fixnum", .atom "Bignum"] a := by
  obtain ⟨d, hd, b, hb, hba⟩ := h
  have htop : d ≠ .top := by
    rintro rfl
    cases hb
  refine ⟨d, ?_, b, hb, hba⟩
  simp only [integerEntries, List.map_cons, List.map_nil, List.mem_append, List.mem_cons,
    List.not_mem_nil, or_false] at hd ⊢
  tauto

/-- An integer outside the small range comes to the second branch. The entry that serves
its type is the one of all integers, and its test accepts the integer. -/
theorem fits_of_generate_integers :
    AccessorTable.build (integers.decider ()) integerEntries = .ok integerGenerator.table ∧
    (integers.oracle ()).LiftsTo (integers.decider ()) ∧ (integers.oracle ()).LayeredParts ∧
    (∀ d, (integers.oracle ()).Layered d) ∧
    (∀ i, (integers.oracle ()).SoundTests (integers.decider ()) (fun _ => true) (holdsOfInteger i)
      ((integers.oracle ()).Involved ([.atom "Fixnum", .atom "Bignum"] ++
        integerEntries.map AccessorEntry.type))) ∧
    (integerGenerator.generate {} "v" [.atom "Fixnum", .atom "Bignum"]
      [.returnStmt [.call (.load "elt") [.load "v", .constant (.int 0)] []]]).1.result
        = .ok integerDispatch ∧
    ∃ e, integerGenerator.table.Serves (.atom "Bignum") e ∧
      "sequence_index" = e.accessor.name ∧
      (integers.decider ()).Judges (fun _ => true) (holdsOfInteger (2 ^ 80)) e.type true := by
  have hplain := integers.plain ()
  have hsound : ∀ i, (integers.oracle ()).SoundTests (integers.decider ()) (fun _ => true)
      (holdsOfInteger i) ((integers.oracle ()).Involved ([.atom "Fixnum", .atom "Bignum"] ++
        integerEntries.map AccessorEntry.type)) :=
    fun i => (integers_soundTests i).mono fun _ h => involved_of_integerEntries h
  have hgenerated : (integerGenerator.generate {} "v" [.atom "Fixnum", .atom "Bignum"]
      [.returnStmt [.call (.load "elt") [.load "v", .constant (.int 0)] []]]).1.result
        = .ok integerDispatch := by rfl
  obtain ⟨-, e, hserves, hname, -, haccepts⟩ := fits_of_generate (integers.oracle ())
    integerGenerator integers_liftsTo hplain.layeredParts rfl [.atom "Fixnum", .atom "Bignum"]
    (fun t _ => hplain.layered t) (fun _ _ => true) holdsOfInteger hsound {} "v" _
    integerDispatch hgenerated (2 ^ 80) [_] [] _ rfl (List.forall_mem_singleton.2 (by rfl)) (by rfl)
  exact ⟨by rfl, integers_liftsTo, hplain.layeredParts, hplain.layered, hsound, hgenerated, e,
    hserves, hname, haccepts⟩

end Integers

end Narrowing
