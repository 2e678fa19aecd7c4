import Narrowing.Proofs.Branches.Preorder
import Narrowing.Proofs.Oracle.Tests
/-!
# What simplified lists accept

Simplifying drops an entry that is equivalent to one before it, or to the union of those that are
kept. Over a preorder the union of the list is the same afterwards, but that takes transitivity: a
duplicate may be one of an entry that is dropped later itself.

The values that are accepted stay the same in any case, as long as the candidates and the declared
parts are layered. An answer of the oracle stands behind each entry that is dropped, and where the
tests are sound an answer takes a value along (`SoundTests.judges_of_subtype`), also into a union,
and there to one of its members (`SoundTests.exists_judges_of_subtype`). So a value that a dropped
entry accepts is accepted by the first of its class, and if that is shadowed by one of the entries
that shadow it. These are two steps for the value, and the relation is not asked to make one of them
(`accepts_iff_of_simplify`).
-/

namespace Narrowing

variable {α κ π ε : Type} [BEq α] [Named α] {o : Oracle α κ π} {c : Decider α κ π}
  {isInstance : κ → Bool} {holds : π → Except ε Bool} {on : α → Prop} {ds out : List (Descriptor α)}

namespace Oracle

section Dropped

variable (hs : o.SoundTests c isInstance holds on) (hc : o.LiftsTo c) (hparts : o.LayeredParts)
  (hon : o.PartClosed on) (hlayered : ∀ d ∈ ds, o.Layered d)
  (hds : ∀ d ∈ ds, ∀ x ∈ (o.normalForm d).atoms, on x)
include hs hc hparts hon hlayered hds

/-- What an entry accepts is accepted by the first of its class. -/
theorem SoundTests.judges_of_deduplicate (h : deduplicate c.subtype ds = .ok out)
    {d : Descriptor α} (hd : d ∈ ds) (hv : c.Judges isInstance holds d true) :
    ∃ k ∈ out, c.Judges isInstance holds k true := by
  rcases mem_or_equivalent_of_deduplicateFrom h d hd with hkept | ⟨k, hk, hdk⟩
  · exact ⟨d, hkept, hv⟩
  · have hle := (Question.equivalent_eq_true_iff.1 hdk).1
    have hkds : k ∈ ds := (sublist_of_deduplicate h).subset hk
    exact ⟨k, hk, hs.judges_of_subtype hc hparts hon (hlayered d hd) (hlayered k hkds)
      (hds d hd) (hds k hkds) hle hv⟩

/-- What a shadowed entry accepts is accepted by one of those that shadow it. -/
theorem SoundTests.judges_of_removeShadowed (h : (removeShadowed c.subtype ds).result = .ok out)
    {d : Descriptor α} (hd : d ∈ ds) (hv : c.Judges isInstance holds d true) :
    ∃ k ∈ out, c.Judges isInstance holds k true := by
  rcases mem_or_shadowed_of_removeShadowedFrom h d hd with hkept | ⟨before, hbegins, hshadowed⟩
  · exact ⟨d, hkept, hv⟩
  · have hbefore : ∀ k ∈ before, k ∈ ds := fun k hk =>
      (sublist_of_removeShadowed h).subset (hbegins.subset hk)
    obtain ⟨k, hk, hkv⟩ := hs.exists_judges_of_subtype hc hparts hon (hlayered d hd)
      (.accumulated fun k hk => hlayered k (hbefore k hk)) (fun k hk => hlayered k (hbefore k hk))
      (fun _ => Descriptor.mem_atoms_of_accumulated) (fun _ => Descriptor.accepts_accumulated)
      (hds d hd) (fun k hk => hds k (hbefore k hk))
      (Question.equivalent_eq_true_iff.1 hshadowed).1 hv
    exact ⟨k, hbegins.subset hk, hkv⟩

end Dropped

end Oracle

/-- **Simplifying keeps the values that are accepted.** Let the runtime tests of all atoms involved
be sound, and the candidates and the declared parts be layered. Then a value is accepted by some
entry of a list if and only if some entry of the simplified list accepts it. The relation of the
oracle need not be transitive, nor even reflexive. -/
theorem accepts_iff_of_simplify {α κ π ε ν : Type} [BEq α] [Named α] (o : Oracle α κ π)
    (c : Decider α κ π) (hc : o.LiftsTo c) (hparts : o.LayeredParts)
    (ds out : List (Descriptor α)) (hlayered : ∀ d ∈ ds, o.Layered d)
    (isInstance : ν → κ → Bool) (holds : ν → π → Except ε Bool)
    (hs : ∀ v, o.SoundTests c (isInstance v) (holds v) (o.Involved ds))
    (h : (simplify c.subtype ds).result = .ok out) (v : ν) :
    (∃ d ∈ ds, c.Judges (isInstance v) (holds v) d true) ↔
      ∃ d ∈ out, c.Judges (isInstance v) (holds v) d true := by
  obtain ⟨distinct, ordered, hdistinct, hordered, hout, -⟩ := exists_passes_of_simplify h
  obtain ⟨hperm, -⟩ := specific_of_specificitySort hordered
  have hon : o.PartClosed (o.Involved ds) := o.partClosed_involved ds
  have hds : ∀ d ∈ ds, ∀ x ∈ (o.normalForm d).atoms, o.Involved ds x := fun _ hd =>
    Oracle.involved_of_mem hd
  have hsorted : ∀ d ∈ ordered, d ∈ ds := fun d hd =>
    (sublist_of_deduplicate hdistinct).subset (hperm.subset hd)
  constructor
  -- the value goes to the first entry of the class, and on to one that shadows that
  · rintro ⟨d, hd, hv⟩
    obtain ⟨k, hk, hkv⟩ :=
      (hs v).judges_of_deduplicate hc hparts hon hlayered hds hdistinct hd hv
    exact (hs v).judges_of_removeShadowed hc hparts hon (fun d hd => hlayered d (hsorted d hd))
      (fun d hd => hds d (hsorted d hd)) hout (hperm.symm.subset hk) hkv
  · rintro ⟨d, hd, hv⟩
    exact ⟨d, (specific_of_simplify h).1 d hd, hv⟩

/-! ## An instance

Integers of three widths, and negative ones. Each width is below the next, but the relation does not
make one step of two. -/

/-- Widths of integers. -/
inductive Width where
  | byte
  | word
  | long
  | negative
deriving DecidableEq

/-- Whether an integer is of a width. -/
def Width.includes (i : Int) : Width → Bool
  | byte => 0 ≤ i ∧ i < 2 ^ 8
  | word => 0 ≤ i ∧ i < 2 ^ 16
  | long => 0 ≤ i ∧ i < 2 ^ 32
  | negative => i < 0

instance : Named Width where
  name?
    | .byte => some "byte"
    | .word => some "word"
    | .long => some "long"
    | .negative => some "negative"

/-- The oracle of widths, whose relation is not transitive. -/
def widths : Oracle Width Unit Width where
  atomicSubtype a b := a = b ∨ (a = .byte ∧ b = .word) ∨ (a = .word ∧ b = .long)
  atomicTest w := .ok (.check w)
  everything := ()

/-- The checks of an integer, none of which fails. -/
def checksOf (i : Int) (w : Width) : Except Unit Bool :=
  .ok (w.includes i)

theorem widths_atomAccepts_iff {i : Int} {w : Width} :
    widths.AtomAccepts (fun _ => true) (checksOf i) w ↔ w.includes i = true := by
  simp [Oracle.AtomAccepts, widths, RuntimeTest.accepts, checksOf]

/-- The answers over the widths. -/
def widthDecider : Decider Width Unit Width := widths.byLevels fun _ => 0

theorem widths_plain : widths.Plain :=
  ⟨rfl, rfl⟩

theorem widths_liftsTo : widths.LiftsTo widthDecider :=
  widths_plain.liftsTo_byLevels
    (Oracle.not_transGen_expandsBy fun _ _ ⟨_, hp, _⟩ => absurd hp List.not_mem_nil)

theorem widths_soundTests (i : Int) (on : Width → Prop) :
    widths.SoundTests widthDecider (fun _ => true) (checksOf i) on where
  total := fun {w} _ => ⟨.check w, w.includes i, rfl, rfl⟩
  everything := rfl
  atoms := by
    intro a b _ _ hab ha
    rw [widths_atomAccepts_iff] at ha ⊢
    rcases of_decide_eq_true hab with rfl | ⟨rfl, rfl⟩ | ⟨rfl, rfl⟩
    · exact ha
    · simp only [Width.includes, decide_eq_true_eq] at ha ⊢
      omega
    · simp only [Width.includes, decide_eq_true_eq] at ha ⊢
      omega
  universal := fun _ h => by cases h
  parts := fun _ h => absurd rfl h

/-- A union that comes first is dropped for the sake of its members, and bytes are below words and
these below longs without being below longs. -/
theorem accepts_iff_of_simplify_widths :
    widths.LiftsTo widthDecider ∧ widths.LayeredParts ∧
    widthDecider.subtype (.atom .byte) (.atom .word) = .ok true ∧
    widthDecider.subtype (.atom .word) (.atom .long) = .ok true ∧
    widthDecider.subtype (.atom .byte) (.atom .long) = .ok false ∧
    (∀ i on, widths.SoundTests widthDecider (fun _ => true) (checksOf i) on) ∧
    (simplify widthDecider.subtype [.union [.atom .word, .atom .negative], .atom .byte, .atom .word,
      .union [.atom .byte, .atom .word], .atom .negative, .atom .long]).result
        = .ok [.atom .byte, .atom .word, .atom .negative, .atom .long] ∧
    ∀ i, (∃ d ∈ [Descriptor.union [.atom .word, .atom .negative], .atom .byte, .atom .word,
        .union [.atom .byte, .atom .word], .atom .negative, .atom .long],
          widthDecider.Judges (fun _ => true) (checksOf i) d true) ↔
      ∃ d ∈ [Descriptor.atom .byte, .atom .word, .atom .negative, .atom .long],
        widthDecider.Judges (fun _ => true) (checksOf i) d true := by
  have hsimplified : (simplify widthDecider.subtype [.union [.atom .word, .atom .negative],
      .atom .byte, .atom .word, .union [.atom .byte, .atom .word], .atom .negative,
      .atom .long]).result = .ok [.atom .byte, .atom .word, .atom .negative, .atom .long] := by rfl
  exact ⟨widths_liftsTo, widths_plain.layeredParts, by rfl, by rfl, by rfl, widths_soundTests,
    hsimplified, accepts_iff_of_simplify widths widthDecider widths_liftsTo
      widths_plain.layeredParts _ _ (fun d _ => widths_plain.layered d) (fun _ _ => true) checksOf
      (fun i => widths_soundTests i _) hsimplified⟩

end Narrowing
