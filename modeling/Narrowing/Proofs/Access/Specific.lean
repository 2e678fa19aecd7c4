import Narrowing.Proofs.Access.Table
import Narrowing.Proofs.Branches
import Narrowing.Proofs.Oracle.Lifting
import Narrowing.Proofs.Oracle.Valuation
/-!
# The first entry is a most specific one

An accessor table is looked up from the top, and the first entry that contains the descriptor
decides. That it decides well is due to two checks when the table is built (`Checked`). No entry is
a proper subtype of one before it, so what is more specific than the entry that decides comes before
it, and does not contain the descriptor. And there is a universal entry, which contains whatever is
looked up, so that some entry always decides.

A larger descriptor is contained in fewer entries. Where the relation of the oracle is transitive
the entry that decides can only move down (`most_specific_of_lookup`). In particular a union is not
served before its members are, though all of them together may well be served by earlier entries.
-/

namespace Narrowing

open NominalTypes (integers integers_liftsTo integers_preordered)

namespace AccessorTable

variable {α κ π : Type} [Named α] {c : Decider α κ π} {t : AccessorTable α κ π}
  {d : Descriptor α} {e : AccessorEntry α}

/-! ## What is checked -/

/-- **A table that was checked**: some entry is universal, and no later entry is a proper subtype
of an earlier one. -/
structure Checked (t : AccessorTable α κ π) : Prop where
  fallback : ∃ e ∈ t.entries, t.oracle.universal e.type = .ok true
  specific : Specific t.oracle.subtype (t.entries.map AccessorEntry.type)

/-- A table that is built has the entries given, and they were checked. -/
theorem checked_of_build {entries : List (AccessorEntry α)} (h : build c entries = .ok t) :
    t = ⟨c, entries⟩ ∧ t.Checked := by
  unfold build at h
  split at h
  · cases h
  · next last hlast =>
    split at h
    · cases h
    · cases h
    · next huniversal =>
      split at h
      · next hordered =>
        obtain rfl := Except.ok.inj h
        exact ⟨rfl, ⟨last, List.mem_of_getLast? hlast, huniversal⟩,
          specific_of_verifyOrder hordered⟩
      · cases h
      · cases h

/-! ## The entry that serves -/

/-- Where some entry contains a descriptor the look-up comes to an end. -/
theorem exists_lookupIn {ask : Question α} (ho : ask.Answering) {es : List (AccessorEntry α)}
    (he : e ∈ es) (hd : ask d e.type = .ok true) : ∃ a, lookupIn ask d es = .ok a := by
  induction es with
  | nil => exact absurd he List.not_mem_nil
  | cons x es ih =>
    obtain ⟨r, hr⟩ := ho d x.type
    rw [lookupIn, hr]
    cases r with
    | true => exact ⟨x.accessor, rfl⟩
    | false =>
      rcases List.mem_cons.1 he with rfl | he
      · rw [hd] at hr
        cases hr
      · exact ih he

/-- **Every descriptor is served** by a table that was checked. -/
theorem Checked.exists_serves [BEq α] {o : Oracle α κ π} (ht : t.Checked)
    (hc : o.LiftsTo t.oracle) (ho : t.oracle.subtype.Preordered) (d : Descriptor α) :
    ∃ e, t.Serves d e ∧ t.lookup d = .ok e.accessor := by
  obtain ⟨e, he, huniversal⟩ := ht.fallback
  obtain ⟨a, ha⟩ := exists_lookupIn ho.answers he (hc.le_of_universal ho huniversal d)
  obtain ⟨x, hx, rfl⟩ := exists_serves_of_lookup ha
  exact ⟨x, hx, ha⟩

omit [Named α] in
/-- **No entry that contains the descriptor is more specific** than the one that serves it. -/
theorem Serves.not_proper (h : t.Serves d e) (ht : t.Checked) {x : AccessorEntry α}
    (hx : x ∈ t.entries) (hd : t.oracle.subtype d x.type = .ok true) :
    t.oracle.subtype.proper x.type e.type ≠ .ok true := by
  obtain ⟨before, after, hentries, -, hbefore⟩ := h
  have hspecific := ht.specific
  have hmem : x.type ∈ t.entries.map AccessorEntry.type := List.mem_map_of_mem hx
  rw [hentries, List.map_append, List.map_cons] at hspecific hmem
  intro hproper
  -- what is more specific than the entry comes before it, where nothing contains the descriptor
  obtain ⟨y, hy, hyx⟩ := List.mem_map.1 (hspecific.mem_before hmem hproper)
  have hfalse := hbefore y hy
  rw [hyx, hd] at hfalse
  cases hfalse

/-! ## Its place -/

/-- **The place of the entry that serves a descriptor.** -/
structure ServesAt (t : AccessorTable α κ π) (d : Descriptor α) (i : Nat) (e : AccessorEntry α) :
    Prop where
  entry : t.entries[i]? = some e
  contains : t.oracle.subtype d e.type = .ok true
  first : ∀ j x, j < i → t.entries[j]? = some x → t.oracle.subtype d x.type = .ok false

omit [Named α] in
theorem Serves.exists_servesAt (h : t.Serves d e) : ∃ i, t.ServesAt d i e := by
  obtain ⟨before, after, hentries, he, hbefore⟩ := h
  refine ⟨before.length, by simp [hentries], he, fun j x hj hx => ?_⟩
  rw [hentries, List.getElem?_append_left hj] at hx
  exact hbefore x (List.mem_of_getElem? hx)

omit [Named α] in
/-- **A subtype is not served later.** -/
theorem ServesAt.le (ho : t.oracle.subtype.Preordered) {d₁ d₂ : Descriptor α} {i₁ i₂ : Nat}
    {e₁ e₂ : AccessorEntry α} (h₁ : t.ServesAt d₁ i₁ e₁) (h₂ : t.ServesAt d₂ i₂ e₂)
    (h : t.oracle.subtype d₁ d₂ = .ok true) : i₁ ≤ i₂ := by
  by_contra hlt
  -- the entry of the larger descriptor contains the smaller one, which would have stopped there
  have hfalse := h₁.first i₂ e₂ (Nat.lt_of_not_le hlt) h₂.entry
  rw [ho.trans h h₂.contains] at hfalse
  cases hfalse

end AccessorTable

open AccessorTable

/-- **The first match is a most specific one.** Over a preorder, a table that is built serves every
descriptor. What is looked up is the accessor of an entry that contains the descriptor, and no entry
that contains it is a proper subtype of that one. A subtype is served by the same entry or one
before it, and so is each member of a union. -/
theorem most_specific_of_lookup {α κ π : Type} [BEq α] [Named α] (o : Oracle α κ π)
    (c : Decider α κ π) (hc : o.LiftsTo c) (ho : c.subtype.Preordered)
    (entries : List (AccessorEntry α)) (t : AccessorTable α κ π)
    (h : AccessorTable.build c entries = .ok t) :
    (∀ d, ∃ i e, t.ServesAt d i e ∧ t.lookup d = .ok e.accessor ∧
      ∀ x ∈ entries, c.subtype d x.type = .ok true →
        c.subtype.proper x.type e.type = .ok false) ∧
    (∀ d₁ d₂ i₁ i₂ e₁ e₂, c.subtype d₁ d₂ = .ok true → t.ServesAt d₁ i₁ e₁ →
      t.ServesAt d₂ i₂ e₂ → i₁ ≤ i₂) ∧
    ∀ ms, ∀ m ∈ ms, ∀ i₁ i₂ e₁ e₂, t.ServesAt m i₁ e₁ → t.ServesAt (.union ms) i₂ e₂ → i₁ ≤ i₂ := by
  obtain ⟨rfl, hchecked⟩ := checked_of_build h
  refine ⟨fun d => ?_, fun d₁ d₂ i₁ i₂ e₁ e₂ hle h₁ h₂ => h₁.le ho h₂ hle,
    fun ms m hm i₁ i₂ e₁ e₂ h₁ h₂ => h₁.le ho h₂ (hc.subtype.le_union_self ho m hm)⟩
  obtain ⟨e, hserves, hlookup⟩ := hchecked.exists_serves hc ho d
  obtain ⟨i, hi⟩ := hserves.exists_servesAt
  exact ⟨i, e, hi, hlookup, fun x hx hd => ho.answers.proper_eq_false_iff.2
    (hserves.not_proper hchecked hx hd)⟩

/-! ## An instance -/

/-- Both kinds of integers have accessors of their own, and all integers share a third one. -/
def kindEntries : List (AccessorEntry String) :=
  [⟨.atom "Fixnum", .arrayIndex⟩, ⟨.atom "Bignum", .octetIndex⟩, ⟨.atom "Integer", .sequenceIndex⟩,
    ⟨.top, .generic⟩]

/-- The union of both kinds is served after either of them, by the entry of all integers. -/
theorem most_specific_of_lookup_integers :
    (integers.oracle ()).LiftsTo (integers.decider ()) ∧
    (integers.decider ()).subtype.Preordered ∧
    AccessorTable.build (integers.decider ()) kindEntries
      = .ok ⟨integers.decider (), kindEntries⟩ ∧
    (∃ i e, ServesAt ⟨integers.decider (), kindEntries⟩
        (.union [.atom "Bignum", .atom "Fixnum"]) i e ∧ e.accessor = .sequenceIndex ∧
      ∀ x ∈ kindEntries, (integers.decider ()).subtype
          (.union [.atom "Bignum", .atom "Fixnum"]) x.type = .ok true →
        (integers.decider ()).subtype.proper x.type e.type = .ok false) ∧
    ∀ i₁ i₂ e₁ e₂, ServesAt ⟨integers.decider (), kindEntries⟩ (.atom "Bignum") i₁ e₁ →
      ServesAt ⟨integers.decider (), kindEntries⟩ (.union [.atom "Bignum", .atom "Fixnum"]) i₂ e₂ →
        i₁ ≤ i₂ := by
  have hbuilt : AccessorTable.build (integers.decider ()) kindEntries
      = .ok ⟨integers.decider (), kindEntries⟩ := by rfl
  obtain ⟨hserved, -, hmembers⟩ := most_specific_of_lookup (integers.oracle ())
    (integers.decider ()) integers_liftsTo integers_preordered kindEntries _ hbuilt
  obtain ⟨i, e, hi, hlookup, hspecific⟩ := hserved (.union [.atom "Bignum", .atom "Fixnum"])
  have hshared : AccessorTable.lookup ⟨integers.decider (), kindEntries⟩
      (.union [.atom "Bignum", .atom "Fixnum"]) = .ok .sequenceIndex := by rfl
  have haccessor : e.accessor = .sequenceIndex := Except.ok.inj (hlookup.symm.trans hshared)
  exact ⟨integers_liftsTo, integers_preordered, hbuilt, ⟨i, e, hi, haccessor, hspecific⟩,
    hmembers _ _ List.mem_cons_self⟩

end Narrowing
