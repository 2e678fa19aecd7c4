import Narrowing.Proofs.Branches.Preorder
import Narrowing.Proofs.Oracle.Levels
/-!
# One entry of each class

Going through a list, an entry is compared with the entries kept so far and not with all that
came before it. The entries that are equivalent to no earlier one are another list
(`Question.firsts`). Where the relation is a preorder the two are the same
(`deduplicate_eq_firsts`): an entry that was dropped is equivalent to one that is kept, and
what is equivalent to the former is equivalent to the latter.
-/

namespace Narrowing

open NominalTypes (amongIntegers integers_preordered)

variable {α : Type} {ask : Question α}

/-- Whether two descriptors are found to be equivalent. -/
def Question.alike (ask : Question α) (a b : Descriptor α) : Bool :=
  ask.equivalent a b matches .ok true

/-- **The entries that are equivalent to no earlier entry** of a list. -/
def Question.firsts (ask : Question α) (ds : List (Descriptor α)) : List (Descriptor α) :=
  (ds.zipIdx.filter fun (d, i) => !(ds.take i).any (ask.alike d)).map Prod.fst

namespace Question

theorem sublist_firsts (ask : Question α) (ds : List (Descriptor α)) :
    (ask.firsts ds).Sublist ds := by
  have hsub := (List.filter_sublist (p := fun (d, i) => !(ds.take i).any (ask.alike d))
    (l := ds.zipIdx)).map Prod.fst
  rwa [List.zipIdx_map_fst] at hsub

/-- A last entry is among them unless an entry before it is equivalent to it. -/
theorem firsts_concat (ds : List (Descriptor α)) (d : Descriptor α) :
    ask.firsts (ds ++ [d]) = ask.firsts ds ++ if ds.any (ask.alike d) then [] else [d] := by
  have hbefore : (ds.zipIdx.filter fun (e, i) => !((ds ++ [d]).take i).any (ask.alike e)) =
      ds.zipIdx.filter fun (e, i) => !(ds.take i).any (ask.alike e) := by
    refine List.filter_congr ?_
    rintro ⟨e, i⟩ he
    have hi : i < ds.length := by simpa using List.snd_lt_of_mem_zipIdx he
    dsimp only
    rw [List.take_append_of_le_length hi.le]
  rw [firsts, List.zipIdx_append, List.filter_append, List.map_append, hbefore, ← firsts]
  congr 1
  cases h : ds.any (ask.alike d) <;> simp [h]

namespace Preordered

variable (ho : ask.Preordered)
include ho

theorem equivalent_eq (a b : Descriptor α) : ask.equivalent a b = .ok (ask.alike a b) := by
  obtain ⟨r, hr⟩ := ho.answers.equivalent a b
  cases r <;> simp [alike, hr]

theorem alike_iff {a b : Descriptor α} : ask.alike a b = true ↔ ask.equivalent a b = .ok true := by
  rw [ho.equivalent_eq, Except.ok.injEq]

theorem alike_symm {a b : Descriptor α} (h : ask.alike a b = true) : ask.alike b a = true := by
  rw [ho.alike_iff] at h ⊢
  rwa [ho.answers.equivalent_comm]

theorem alike_trans {a b c : Descriptor α} (hab : ask.alike a b = true)
    (hbc : ask.alike b c = true) : ask.alike a c = true := by
  rw [ho.alike_iff] at hab hbc ⊢
  exact ho.equivalent_trans hab hbc

/-- Every entry is equivalent to one that has no equivalent before it. -/
theorem exists_first {ds : List (Descriptor α)} {e : Descriptor α} (he : e ∈ ds) :
    ∃ k ∈ ask.firsts ds, ask.alike e k = true := by
  induction ds using List.reverseRecOn generalizing e with
  | nil => exact absurd he List.not_mem_nil
  | append_singleton ds d ih =>
    rw [firsts_concat]
    have hearlier : ∀ x ∈ ds, ask.alike e x = true →
        ∃ k ∈ ask.firsts ds ++ if ds.any (ask.alike d) then [] else [d], ask.alike e k = true := by
      intro x hx hex
      obtain ⟨k, hk, hxk⟩ := ih hx
      exact ⟨k, List.mem_append_left _ hk, ho.alike_trans hex hxk⟩
    rcases List.mem_append.1 he with he | he
    · exact hearlier e he (ho.alike_iff.2 (ho.equivalent_refl e))
    · obtain rfl := List.mem_singleton.1 he
      by_cases hany : ds.any (ask.alike e) = true
      · obtain ⟨x, hx, hex⟩ := List.any_eq_true.1 hany
        exact hearlier x hx hex
      · exact ⟨e, by simp [hany], ho.alike_iff.2 (ho.equivalent_refl e)⟩

/-- **Those entries stand for all that came before**: what is equivalent to an earlier entry is
equivalent to one of them. -/
theorem anyOrFail_firsts (ds : List (Descriptor α)) (d : Descriptor α) :
    anyOrFail (fun k => ask.equivalent d k) (ask.firsts ds) = .ok (ds.any (ask.alike d)) := by
  rw [Oracle.anyOrFail_eq_ok_of_forall fun k _ => ho.equivalent_eq d k, Except.ok.injEq,
    Bool.eq_iff_iff, List.any_eq_true, List.any_eq_true]
  constructor
  · rintro ⟨k, hk, hdk⟩
    exact ⟨k, (ask.sublist_firsts ds).subset hk, hdk⟩
  · rintro ⟨e, he, hde⟩
    obtain ⟨k, hk, hek⟩ := ho.exists_first he
    exact ⟨k, hk, ho.alike_trans hde hek⟩

/-- The pass goes on as if all earlier entries were at hand. The induction is on what is still
to come; those kept so far are the firsts of what has been. -/
theorem deduplicateFrom_firsts (before ds : List (Descriptor α)) :
    deduplicateFrom ask (ask.firsts before) ds = .ok (ask.firsts (before ++ ds)) := by
  induction ds generalizing before with
  | nil => rw [deduplicateFrom, List.append_nil]
  | cons d ds ih =>
    have hnext : deduplicateFrom ask (ask.firsts (before ++ [d])) ds =
        .ok (ask.firsts (before ++ d :: ds)) := by
      rw [ih, List.append_assoc, List.singleton_append]
    rw [firsts_concat] at hnext
    rw [deduplicateFrom, ho.anyOrFail_firsts]
    cases hany : before.any (ask.alike d) with
    | true => simpa [hany] using hnext
    | false => simpa [hany] using hnext

/-- **Of each class the earliest entry is the only one.** -/
theorem filter_firsts (ds : List (Descriptor α)) (d : Descriptor α) :
    (ask.firsts ds).filter (ask.alike d) = (ds.find? (ask.alike d)).toList := by
  induction ds using List.reverseRecOn with
  | nil => rfl
  | append_singleton ds e ih =>
    rw [firsts_concat, List.filter_append, ih, List.find?_append]
    -- whether an earlier entry is in the class does not depend on which member asks
    have hclass : ask.alike d e = true →
        (ds.any (ask.alike e) = true ↔ ds.find? (ask.alike d) ≠ none) := by
      intro hde
      rw [List.any_eq_true, ne_eq, List.find?_eq_none, not_forall₂]
      refine exists_congr fun x => ?_
      rw [exists_prop, not_not]
      exact and_congr_right fun _ =>
        ⟨ho.alike_trans hde, ho.alike_trans (ho.alike_symm hde)⟩
    cases hde : ask.alike d e with
    | false =>
      have hnone : (if ds.any (ask.alike e) = true then [] else [e]).filter (ask.alike d) = [] := by
        split <;> simp [hde]
      rw [hnone, List.append_nil, List.find?_singleton, hde]
      simp
    | true =>
      cases hfind : ds.find? (ask.alike d) with
      | none =>
        have hany : ¬ ds.any (ask.alike e) = true := by simp [hclass hde, hfind]
        simp [hany, hde]
      | some x =>
        have hany : ds.any (ask.alike e) = true := by simp [hclass hde, hfind]
        simp [hany]

end Preordered

end Question

/-- **Comparing with what is kept is as good as comparing with all that came before.** Over a
preorder the pass gives the entries that are equivalent to no earlier one; they are in the
order of the list, and of the class of each entry just the earliest is among them. -/
theorem deduplicate_eq_firsts (ask : Question α) (ho : ask.Preordered)
    (ds : List (Descriptor α)) :
    deduplicate ask ds = .ok (ask.firsts ds) ∧
    (ask.firsts ds).Sublist ds ∧
    ∀ d ∈ ds, ∃ e, ds.find? (ask.alike d) = some e ∧ (ask.firsts ds).filter (ask.alike d) = [e] := by
  refine ⟨ho.deduplicateFrom_firsts [] ds, ask.sublist_firsts ds, fun d hd => ?_⟩
  have hself : ask.alike d d = true := ho.alike_iff.2 (ho.equivalent_refl d)
  obtain ⟨e, he⟩ := Option.isSome_iff_exists.1 (List.find?_isSome.2 ⟨d, hd, hself⟩)
  exact ⟨e, he, by rw [ho.filter_firsts, he, Option.toList_some]⟩

/-- The integers are found in a union that comes before them, and a later one in another order
is compared with that union only. -/
theorem deduplicate_eq_firsts_integers :
    amongIntegers.Preordered ∧
    deduplicate amongIntegers
      [.union [.atom "Fixnum", .atom "Bignum"], .atom "Integer", .atom "String",
        .union [.atom "Bignum", .atom "Fixnum"], .atom "Fixnum"]
      = .ok [.union [.atom "Fixnum", .atom "Bignum"], .atom "String", .atom "Fixnum"] :=
  ⟨integers_preordered, (deduplicate_eq_firsts amongIntegers integers_preordered _).1.trans
    (by rfl)⟩

end Narrowing
