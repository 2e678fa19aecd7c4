import Narrowing.Access.Table
/-!
# What an accessor table serves

A look-up goes through the entries in order and stops at the first one that contains the
descriptor. Which entry that is (`AccessorTable.Serves`) says more than the accessor it gives,
since entries may share an accessor.
-/

namespace Narrowing

namespace AccessorTable

variable {α κ π : Type} {t : AccessorTable α κ π} {d : Descriptor α}

/-- **The entry that serves a descriptor**: it contains the descriptor, and no entry before it
does. -/
def Serves (t : AccessorTable α κ π) (d : Descriptor α) (e : AccessorEntry α) : Prop :=
  ∃ before after, t.entries = before ++ e :: after ∧ t.oracle.subtype d e.type = .ok true ∧
    ∀ x ∈ before, t.oracle.subtype d x.type = .ok false

theorem Serves.mem {e : AccessorEntry α} (h : t.Serves d e) : e ∈ t.entries := by
  obtain ⟨before, after, hentries, -, -⟩ := h
  rw [hentries]
  exact List.mem_append_right before List.mem_cons_self

theorem Serves.subtype {e : AccessorEntry α} (h : t.Serves d e) :
    t.oracle.subtype d e.type = .ok true := by
  obtain ⟨-, -, -, he, -⟩ := h
  exact he

variable [Named α]

theorem exists_of_lookupIn {ask : Question α} {a : Accessor} {es : List (AccessorEntry α)}
    (h : lookupIn ask d es = .ok a) :
    ∃ before e after, es = before ++ e :: after ∧ e.accessor = a ∧
      ask d e.type = .ok true ∧ ∀ x ∈ before, ask d x.type = .ok false := by
  induction es with
  | nil => cases h
  | cons e es ih =>
    rw [lookupIn] at h
    split at h
    · cases h
    · next he =>
      exact ⟨[], e, es, rfl, Except.ok.inj h, he, fun x hx => absurd hx List.not_mem_nil⟩
    · next he =>
      obtain ⟨before, x, after, rfl, hx, hdx, hbefore⟩ := ih h
      exact ⟨e :: before, x, after, rfl, hx, hdx, List.forall_mem_cons.2 ⟨he, hbefore⟩⟩

/-- **A look-up gives the accessor of the entry that serves the descriptor.** -/
theorem exists_serves_of_lookup {a : Accessor} (h : t.lookup d = .ok a) :
    ∃ e, t.Serves d e ∧ e.accessor = a := by
  obtain ⟨before, e, after, hentries, ha, he, hbefore⟩ := exists_of_lookupIn h
  exact ⟨e, ⟨before, after, hentries, he, hbefore⟩, ha⟩

end AccessorTable

end Narrowing
