import Narrowing.Proofs.Class
import Narrowing.Value.Membership
/-!
# Instances of subclasses

What a value is an instance of goes along the subclass relation, as far as that relation
composes itself (`Store.isSubclass_trans`). This is so for every value, whether its class is one
that descriptors can name, another class of the language, or one that code has made: such a class
may take members away that its bases have, and with them the place among the abstract classes that
ask for these members, but it keeps its place among all others.
-/

namespace Narrowing

open StandardClass

namespace Store

/-- What the classes that descriptors cannot name are below goes upwards. -/
theorem standardAboveOther_closed (n : String) : ∀ s ∈ standardAboveOther n, ∀ z ∈ all,
    s.isSubclass z = true → z.isAsking = true ∨ z = object ∨ z ∈ standardAboveOther n := by
  unfold standardAboveOther
  split
  · decide
  · split <;> decide

/-- **A class of known origin**, over some declared ones: it is below `object` and built from
known classes. -/
structure Ordinary (σ : Store) (ds : List DeclaredClass) (t : TypeObject) : Prop where
  known : ∀ {c}, .named c ∈ σ.lineage t → c.Known ds
  object : σ.isSubclass t (.standard object) = true

section Entries

variable {σ : Store} {ds : List DeclaredClass} {c z : Class}

/-- A class that code has not made is below what the relation says. -/
theorem belongs_trans (hds : Class.Registry ds) {t : TypeObject}
    (hknown : ∀ {d}, t = .named d → d.Known ds) (hc : c.Known ds) (hz : z.Known ds)
    (htc : belongs c t = true) (hcz : c.isSubclass z = true) (hasking : z.asking? = none) :
    belongs z t = true := by
  cases t with
  | named d => exact hds.trans (hknown rfl) hc hz htc hcz hasking
  | defined r => cases htc
  | other n =>
    cases c with
    | declared e => cases htc
    | standard s =>
      cases z with
      | declared e => cases hcz
      | standard z =>
        have hiff : ∀ u : StandardClass, belongs (.standard u) (.other n) = true ↔
            u = StandardClass.object ∨ u ∈ standardAboveOther n := by
          intro u
          simp [belongs]
        have hnot : z.isAsking = false := Class.asking?_standard_eq_none_iff.1 hasking
        refine (hiff z).2 ?_
        rcases (hiff s).1 htc with rfl | hs
        · refine .inl ((z.eq_of_object_isSubclass hcz).resolve_right ?_)
          rintro rfl
          cases hnot
        · rcases standardAboveOther_closed n s hs z (mem_all z) hcz with h | h
          · rw [h] at hnot
            cases hnot
          · exact h

theorem isSubclass_defined_of_not_asking {r : Ref} (hc : c.asking? = none) :
    σ.isSubclass (.defined r) c = (σ.lineage (.defined r)).any (belongs c) := by
  simp only [isSubclass, hc]

/-- **Instances go along the subclass relation**, but for the classes that ask for members. -/
theorem isSubclass_trans {t : TypeObject} (hds : Class.Registry ds) (ht : σ.Ordinary ds t)
    (hc : c.Known ds) (hz : z.Known ds) (htc : σ.isSubclass t c = true)
    (hcz : c.isSubclass z = true) (hasking : z.asking? = none) : σ.isSubclass t z = true := by
  cases t with
  | named d =>
    refine belongs_trans (t := .named d) hds (fun h => ht.known ?_) hc hz htc hcz hasking
    rw [← h]
    exact List.mem_cons_self
  | other n =>
    exact belongs_trans (t := .other n) hds (fun h => by cases h) hc hz htc hcz hasking
  | defined r =>
    cases hcasking : c.asking? with
    | none =>
      -- what brings it below the class is in its lineage, and brings it further up
      rw [isSubclass_defined_of_not_asking hcasking, List.any_eq_true] at htc
      obtain ⟨e, he, hec⟩ := htc
      rw [isSubclass_defined_of_not_asking hasking, List.any_eq_true]
      refine ⟨e, he, belongs_trans hds (fun h => ht.known ?_) hc hz hec hcz hasking⟩
      rwa [← h]
    | some s =>
      cases c with
      | declared e => cases hcasking
      | standard s =>
        have hs : s.isAsking = true := by
          by_contra hnot
          rw [Class.asking?, if_neg hnot] at hcasking
          cases hcasking
        rw [Class.eq_object_of_asking hs hcz hasking]
        exact ht.object

end Entries

end Store

end Narrowing
