import Narrowing.Proofs.Code.Hoisting
import Narrowing.Run.Meaning
/-!
# Declarations that are taken out

What names a declaration is about is settled before the code runs, so it does nothing when its
turn comes. Code runs the same without it: where the declarations have been taken out of some
statements, each has the meaning that it had (`Code.Node.meaning_hoist`), and yields no more than it
did.
-/

namespace Narrowing

open Code Run

namespace Code.Node

theorem hoistList_cons (d : Declared) (n : Node) (ns : List Node) :
    (hoistList d (n :: ns)).1 = (hoist d n).1 :: (hoistList (hoist d n).2 ns).1 := by
  rw [hoistList]

theorem isContinued_cons_cons (m n : Node) (ns : List Node) :
    isContinued (m :: n :: ns) = false := by
  unfold isContinued
  split
  · next h => cases h
  · rfl

theorem isContinued_hoistList {ns : List Node} (d : Declared) :
    isContinued (hoistList d ns).1 = isContinued ns := by
  rcases ns with _ | ⟨⟨k, slots⟩, _ | ⟨n, ns⟩⟩
  · rfl
  · show isContinued [(hoist d (mk k slots)).1] = _
    cases hkeeps : k.keepsDeclarations with
    | true => rw [hoist_of_keeps hkeeps]
    | false =>
      cases hk : k.isDeclaration with
      | true => cases k <;> first | (cases hk; done) | rfl
      | false =>
        rw [hoist_eq hk hkeeps]
        cases k <;> try rfl
        rcases slots with _ | ⟨_ | ⟨t, _ | ⟨_, _⟩⟩, _ | ⟨b, _ | ⟨o, _ | ⟨_, _⟩⟩⟩⟩ <;> rfl
  · rw [hoistList_cons, hoistList_cons, isContinued_cons_cons, isContinued_cons_cons]

/-- What holds statements means nothing but what these mean. -/
theorem ofKind_hoistSlots {k : Kind} {slots : List (List Node)} (d : Declared)
    (hkeeps : k.keepsDeclarations = false) (hare : SlotsAre k.slotParts slots)
    (parts : List (List Meaning)) :
    Meaning.ofKind k (hoistSlots d slots).1 parts = Meaning.ofKind k slots parts := by
  by_cases hinner : ∀ q ∈ k.slotParts, q.IsInner
  · rw [hoistSlots_eq_self _ _ d hinner hare]
  cases k with
  | functionDef | classDef => cases hkeeps
  | forStmt isAsync =>
    cases isAsync <;> rcases parts with _ | ⟨_ | ⟨m, _ | ⟨_, _⟩⟩, _ | ⟨_ | ⟨i, _ | ⟨_, _⟩⟩,
      _ | ⟨body, _ | ⟨orelse, _ | ⟨_, _⟩⟩⟩⟩⟩ <;> rfl
  | whileStmt =>
    rcases parts with _ | ⟨_ | ⟨m, _ | ⟨_, _⟩⟩, _ | ⟨body, _ | ⟨orelse, _ | ⟨_, _⟩⟩⟩⟩ <;> rfl
  | ifStmt =>
    match slots, hare with
    | [t, b, o], _ =>
      have hcontinued : isContinued (hoistList (hoistList (hoistList d t).2 b).2 o).1 =
          isContinued o := isContinued_hoistList _
      rcases parts with _ | ⟨_ | ⟨test, _ | ⟨_, _⟩⟩, _ | ⟨body, _ | ⟨orelse, _ | ⟨_, _⟩⟩⟩⟩ <;>
        try rfl
      show Meaning.ofChoice test body orelse _ = Meaning.ofChoice test body orelse o
      unfold Meaning.ofChoice
      rw [hcontinued]
  | withStmt | tryStmt | exceptHandler => rfl
  | _ => exact absurd (by simp [Kind.slotParts, Part.IsInner]) hinner

mutual

/-- **Declarations do nothing when they run**, so code without them does the same. -/
theorem meaning_hoist : (p : Part) → (n : Node) → (d : Declared) → n.Is p →
    (hoist d n).1.meaning = n.meaning
  | p, .mk k slots, d, h => by
    cases hkeeps : k.keepsDeclarations with
    | true => rw [hoist_of_keeps hkeeps]
    | false =>
      cases hk : k.isDeclaration with
      | true =>
        obtain rfl := slots_eq_nil hk h
        cases k <;> first | (cases hk; done) | rfl
      | false =>
        rw [hoist_eq hk hkeeps, meaning, meaning, meaningsOfSlots_hoist _ slots d h.2,
          ofKind_hoistSlots d hkeeps h.2]

theorem meaningsOfSlots_hoist : (ps : List Part) → (ss : List (List Node)) → (d : Declared) →
    SlotsAre ps ss → meaningsOfSlots (hoistSlots d ss).1 = meaningsOfSlots ss
  | [], [], _, _ => rfl
  | p :: ps, ns :: ss, d, h => by
    rw [hoistSlots, meaningsOfSlots, meaningsOfSlots, meaningsOfAll_hoist p ns d h.1,
      meaningsOfSlots_hoist ps ss _ h.2]

theorem meaningsOfAll_hoist : (p : Part) → (ns : List Node) → (d : Declared) → AllAre p ns →
    meaningsOfAll (hoistList d ns).1 = meaningsOfAll ns
  | _, [], _, _ => rfl
  | p, n :: ns, d, h => by
    rw [hoistList_cons, meaningsOfAll, meaningsOfAll, meaning_hoist p n d h.1,
      meaningsOfAll_hoist p ns _ h.2]

end

mutual

/-- Nor does it yield where the code does not. -/
theorem yields_hoist : (n : Node) → (d : Declared) → (hoist d n).1.yields → n.yields
  | .mk k slots, d, h => by
    cases hkeeps : k.keepsDeclarations with
    | true => rwa [hoist_of_keeps hkeeps] at h
    | false =>
      cases hk : k.isDeclaration with
      | true => cases k <;> first | (cases hk; done) | cases h
      | false =>
        rw [hoist_eq hk hkeeps] at h
        have hslots := slotsYield_hoist slots d
        cases k <;> first | exact h | exact hslots h

theorem slotsYield_hoist : (ss : List (List Node)) → (d : Declared) →
    slotsYield (hoistSlots d ss).1 → slotsYield ss
  | [], _, h => h
  | ns :: ss, d, h => by
    rw [hoistSlots, slotsYield, Bool.or_eq_true] at h
    rw [slotsYield, Bool.or_eq_true]
    exact h.imp (someYields_hoist ns d) (slotsYield_hoist ss _)

theorem someYields_hoist : (ns : List Node) → (d : Declared) →
    someYields (hoistList d ns).1 → someYields ns
  | [], _, h => h
  | n :: ns, d, h => by
    rw [hoistList_cons, someYields, Bool.or_eq_true] at h
    rw [someYields, Bool.or_eq_true]
    exact h.imp (yields_hoist n d) (someYields_hoist ns _)

end

mutual

/-- It keeps code where the code does. -/
theorem keepsCode_hoist : (p : Part) → (n : Node) → (d : Declared) → n.Is p →
    (hoist d n).1.anyKind Kind.keepsCode = n.anyKind Kind.keepsCode
  | p, .mk k slots, d, h => by
    cases hkeeps : k.keepsDeclarations with
    | true => rw [hoist_of_keeps hkeeps]
    | false =>
      cases hk : k.isDeclaration with
      | true =>
        obtain rfl := slots_eq_nil hk h
        cases k <;> first | (cases hk; done) | rfl
      | false =>
        rw [hoist_eq hk hkeeps, anyKind, anyKind, keepsCode_hoistSlots _ slots d h.2]

theorem keepsCode_hoistSlots : (ps : List Part) → (ss : List (List Node)) → (d : Declared) →
    SlotsAre ps ss → anyKindSlots Kind.keepsCode (hoistSlots d ss).1 = anyKindSlots Kind.keepsCode ss
  | [], [], _, _ => rfl
  | p :: ps, ns :: ss, d, h => by
    rw [hoistSlots, anyKindSlots, anyKindSlots, keepsCode_hoistList p ns d h.1,
      keepsCode_hoistSlots ps ss _ h.2]

theorem keepsCode_hoistList : (p : Part) → (ns : List Node) → (d : Declared) → AllAre p ns →
    anyKindList Kind.keepsCode (hoistList d ns).1 = anyKindList Kind.keepsCode ns
  | _, [], _, _ => rfl
  | p, n :: ns, d, h => by
    rw [hoistList_cons, anyKindList, anyKindList, keepsCode_hoist p n d h.1,
      keepsCode_hoistList p ns _ h.2]

end

end Code.Node
end Narrowing
