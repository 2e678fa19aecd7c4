import Narrowing.Proofs.Branches
import Narrowing.Proofs.Dispatch.Chain
import Narrowing.Proofs.Oracle.Tests
import Narrowing.Proofs.Oracle.Valuation
import Narrowing.Predicate
/-!
# Dispatches are exhaustive

A branch list that is resolved for an overall type has a branch for every value that
the runtime test of the overall type accepts, provided that the tests are sound. The
first such branch is a most specific one: no entry of the list that is a proper
subtype of it accepts the value as well (`exhaustive_of_resolveBranches`). So a chain
generated over the list never comes to its refusal for such a value, but to the copy
of that branch.

Soundness of the tests is all that is asked of the oracle, besides that the types are read layer
by layer. In particular its relation need not be transitive: that more specific branches come first
is verified by the sort for each pair, and coverage is a single question about the union. Where a
spelling collapses into another one, a type may cover the overall type as far as the relation goes,
and have a test that knows nothing of what it covers.
-/

namespace Narrowing

/-- A list with an entry of some kind has a first one. -/
theorem exists_first_of_exists {β : Type} {P : β → Prop} {l : List β} (h : ∃ x ∈ l, P x) :
    ∃ before x after, l = before ++ x :: after ∧ P x ∧ ∀ y ∈ before, ¬ P y := by
  induction l with
  | nil =>
    obtain ⟨x, hx, -⟩ := h
    cases hx
  | cons y l ih =>
    by_cases hy : P y
    · exact ⟨[], y, l, rfl, hy, fun z hz => absurd hz List.not_mem_nil⟩
    · have hl : ∃ x ∈ l, P x := by
        obtain ⟨x, hx, hPx⟩ := h
        rcases List.mem_cons.1 hx with rfl | hx
        · exact absurd hPx hy
        · exact ⟨x, hx, hPx⟩
      obtain ⟨before, x, after, rfl, hx, hbefore⟩ := ih hl
      exact ⟨y :: before, x, after, rfl, hx, List.forall_mem_cons.2 ⟨hy, hbefore⟩⟩

section

variable {α κ π ε : Type} [BEq α] [Named α] {o : Oracle α κ π} {c : Decider α κ π}
  {isInstance : κ → Bool} {holds : π → Except ε Bool}

/-! ## The first branch that accepts -/

/-- A value of the overall type is accepted by some entry of a resolved list. -/
theorem Resolved.exists_accepting {overall : Descriptor α}
    {candidates branches : List (Descriptor α)}
    (hr : Resolved c.subtype overall candidates branches) (hc : o.LiftsTo c)
    (hparts : o.LayeredParts) (hlayered : ∀ d ∈ overall :: candidates, o.Layered d)
    (hs : o.SoundTests c isInstance holds (o.Involved (overall :: candidates)))
    (hv : c.Judges isInstance holds overall true) :
    ∃ t ∈ branches, c.Judges isInstance holds t true := by
  have hatoms : ∀ d ∈ branches, ∀ x ∈ (o.normalForm d).atoms,
      o.Involved (overall :: candidates) x :=
    fun d hd => Oracle.involved_of_mem (hr.mem d hd)
  have hbranches : ∀ d ∈ branches, o.Layered d := fun d hd => hlayered d (hr.mem d hd)
  rcases hr.covering with hcover | hmem
  · exact hs.exists_judges_of_subtype hc hparts (o.partClosed_involved _)
      (hlayered overall List.mem_cons_self) (.join hbranches) hbranches
      (fun _ => Descriptor.mem_atoms_of_join) (fun _ => Descriptor.accepts_join)
      (Oracle.involved_of_mem List.mem_cons_self) hatoms hcover hv
  · exact ⟨overall, hmem, hv⟩

end

/-! ## Exhaustiveness -/

/-- **Dispatch is exhaustive and picks a most specific branch.** Let the runtime tests of
all atoms involved be sound for every value, let the overall type, the candidates and the declared
parts be layered, and let a branch list be resolved for the overall type. For a value that the test
of the overall type accepts, the list has a first entry whose test accepts it; all entries before it
reject it, and so do all entries of the list that are proper subtypes of it. A chain generated over
the list comes to the copy of that entry. -/
theorem exhaustive_of_resolveBranches {α κ π ε ν : Type} [BEq α] [Named α] (o : Oracle α κ π)
    (c : Decider α κ π) (hc : o.LiftsTo c) (hparts : o.LayeredParts)
    (overall : Descriptor α) (wellKnown extras : List (Descriptor α))
    (hlayered : ∀ d ∈ overall :: (wellKnown ++ extras), o.Layered d)
    (isInstance : ν → κ → Bool) (holds : ν → π → Except ε Bool)
    (hs : ∀ v, o.SoundTests c (isInstance v) (holds v)
      (o.Involved (overall :: (wellKnown ++ extras))))
    (branches : List (Descriptor α))
    (hr : (resolveBranches c.subtype overall wellKnown extras).result = .ok branches)
    (v : ν) (hv : c.Judges (isInstance v) (holds v) overall true) :
    ∃ before t after, branches = before ++ t :: after ∧
      c.Judges (isInstance v) (holds v) t true ∧
      (∀ s ∈ before, c.Judges (isInstance v) (holds v) s false) ∧
      (∀ s ∈ branches, c.subtype.proper s t = .ok true →
        c.Judges (isInstance v) (holds v) s false) ∧
      ∀ (g : Generator α κ π) (counters : Counters) (var : String) (body : List Code.Node)
        (d : Dispatch α κ π), g.oracle = c →
        (g.generate counters var branches body).1.result = .ok d →
        ∃ b, d.branches[before.length]? = some b ∧ b.type = t ∧
          Dispatch.reached d.bindings (isInstance v) (holds v) d.var d.node = .ok b.body := by
  have hresolved := resolved_of_resolveBranches hr
  obtain ⟨before, t, after, rfl, ht, hbefore⟩ :=
    exists_first_of_exists (hresolved.exists_accepting hc hparts hlayered (hs v) hv)
  have hreject : ∀ s ∈ before, c.Judges (isInstance v) (holds v) s false := fun s hsb =>
    have hmem := hresolved.mem s (List.mem_append_left _ hsb)
    (hs v).judges_false hc (hlayered s hmem) (Oracle.involved_of_mem hmem) (hbefore s hsb)
  refine ⟨before, t, after, rfl, ht, hreject, fun s hsb hst =>
    hreject s (hresolved.specific.mem_before hsb hst), ?_⟩
  -- a chain has a branch for each entry, in the order of the list
  rintro g counters var body d rfl hd
  obtain ⟨htypes, htests⟩ := Generator.generate_spec hd
  obtain ⟨bs, cs, hbranches, rfl, hcs⟩ := List.map_eq_append_iff.1 htypes
  obtain ⟨b, as, rfl, rfl, -⟩ := List.map_eq_cons_iff.1 hcs
  have hmem : ∀ c ∈ bs, c ∈ d.branches := fun c hc => hbranches ▸ List.mem_append_left _ hc
  refine ⟨b, by rw [hbranches, List.length_map]; simp, rfl, Dispatch.reached_node hbranches ?_ ?_⟩
  · exact fun c hc => (hreject c.type (List.mem_map_of_mem hc)).accepts (htests c (hmem c hc))
  · exact ht.accepts (htests b (by rw [hbranches]; simp))

/-! ## An instance

The two kinds of integers are told apart by predicates, and together they make up all
integers. -/

section Integers

open NominalTypes

/-- What the predicates of the two kinds of integers say of an integer. -/
def holdsOfInteger (i : Int) : Predicate → Except Unit Bool
  | .fixnum => .ok (Predicate.isFixnum i)
  | .bignum => .ok !(Predicate.isFixnum i)
  | _ => .error ()

theorem eq_of_involved_integers {a : String}
    (h : (integers.oracle ()).Involved [.atom "Integer", .atom "Fixnum", .atom "Bignum"] a) :
    a = "Integer" ∨ a = "Fixnum" ∨ a = "Bignum" := by
  obtain ⟨d, hd, b, hb, hba⟩ := h
  induction hba with
  | refl =>
    simp only [List.mem_cons, List.not_mem_nil, or_false] at hd
    rw [normalForm_oracle] at hb
    rcases hd with rfl | rfl | rfl <;> simp [Descriptor.mem_atoms_atom.1 hb]
  | tail _ hstep _ =>
    obtain ⟨p, hp, hb⟩ := hstep
    obtain rfl := eq_integer_of_partsOf_ne_nil (List.ne_nil_of_mem hp)
    rw [normalForm_oracle] at hb
    rcases List.mem_pair.1 hp with rfl | rfl <;> simp [Descriptor.mem_atoms_atom.1 hb]

theorem integers_soundTests (i : Int) :
    (integers.oracle ()).SoundTests (integers.decider ()) (fun _ => true) (holdsOfInteger i)
      ((integers.oracle ()).Involved [.atom "Integer", .atom "Fixnum", .atom "Bignum"]) where
  total := by
    intro a ha
    rcases eq_of_involved_integers ha with rfl | rfl | rfl
    · exact ⟨.instanceOf (), true, rfl, rfl⟩
    · exact ⟨.check .fixnum, _, rfl, rfl⟩
    · exact ⟨.check .bignum, _, rfl, rfl⟩
  everything := rfl
  atoms := by
    intro a b ha hb hab hv
    rcases eq_of_involved_integers hb with rfl | rfl | rfl
    · exact ⟨.instanceOf (), rfl, rfl⟩
    · rcases eq_of_involved_integers ha with rfl | rfl | rfl
      · exact absurd hab (by decide)
      · exact hv
      · exact absurd hab (by decide)
    · rcases eq_of_involved_integers ha with rfl | rfl | rfl
      · exact absurd hab (by decide)
      · exact absurd hab (by decide)
      · exact hv
  universal := fun _ h => by cases h
  parts := by
    intro a ha hne _
    obtain rfl := eq_integer_of_partsOf_ne_nil hne
    cases hi : Predicate.isFixnum i with
    | true =>
      exact ⟨.atom "Fixnum", List.mem_cons_self, .check .fixnum, rfl, congrArg Except.ok hi⟩
    | false =>
      refine ⟨.atom "Bignum", List.mem_cons_of_mem _ List.mem_cons_self, .check .bignum, rfl, ?_⟩
      exact congrArg (fun b => Except.ok !b) hi

/-- An integer outside the small range, dispatched over the two kinds of integers. -/
theorem exhaustive_of_resolveBranches_integers :
    (integers.oracle ()).LiftsTo (integers.decider ()) ∧ (integers.oracle ()).LayeredParts ∧
    (∀ d, (integers.oracle ()).Layered d) ∧
    (∀ i, (integers.oracle ()).SoundTests (integers.decider ()) (fun _ => true) (holdsOfInteger i)
      ((integers.oracle ()).Involved [.atom "Integer", .atom "Fixnum", .atom "Bignum"])) ∧
    (resolveBranches (integers.decider ()).subtype (.atom "Integer") [.atom "Fixnum"]
      [.atom "Bignum"]).result = .ok [.atom "Fixnum", .atom "Bignum"] ∧
    (integers.decider ()).Judges (fun _ => true) (holdsOfInteger (2 ^ 80)) (.atom "Integer") true ∧
    ∃ before t after, [Descriptor.atom "Fixnum", .atom "Bignum"] = before ++ t :: after ∧
      (integers.decider ()).Judges (fun _ => true) (holdsOfInteger (2 ^ 80)) t true := by
  have hplain := integers.plain ()
  have hresolved : (resolveBranches (integers.decider ()).subtype (.atom "Integer")
      [.atom "Fixnum"] [.atom "Bignum"]).result = .ok [.atom "Fixnum", .atom "Bignum"] := by rfl
  have haccepted : (integers.decider ()).Judges (fun _ => true) (holdsOfInteger (2 ^ 80))
      (.atom "Integer") true := ⟨.instanceOf (), rfl, rfl⟩
  obtain ⟨before, t, after, hsplit, ht, -⟩ := exhaustive_of_resolveBranches
    (integers.oracle ()) (integers.decider ()) integers_liftsTo hplain.layeredParts
    (.atom "Integer") [.atom "Fixnum"] [.atom "Bignum"] (fun d _ => hplain.layered d)
    (fun _ _ => true) holdsOfInteger integers_soundTests _ hresolved (2 ^ 80) haccepted
  exact ⟨integers_liftsTo, hplain.layeredParts, hplain.layered, integers_soundTests, hresolved,
    haccepted, before, t, after, hsplit, ht⟩

end Integers

end Narrowing
