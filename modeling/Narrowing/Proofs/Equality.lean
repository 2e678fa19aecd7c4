import Narrowing.Oracle
import Narrowing.Proofs.Descriptor
/-!
# Equality that need not be the identity

Two atoms may be equal without being written alike, and so may two descriptors.
Such an equality is an equivalence (`EquivBEq`), and what is looked up by it –
the declarations of an oracle – is the same for equal descriptors.
-/

namespace Narrowing

namespace Descriptor

variable {α : Type} [BEq α]

theorem same_refl [ReflBEq α] (d : Descriptor α) : same d d = true := by
  induction d with
  | atom a => simp [same]
  | top => rw [same]
  | bottom => rw [same]
  | union ms ih =>
    rw [same]
    induction ms with
    | nil => rw [sameAll]
    | cons m ms ihms =>
      rw [sameAll, ih m List.mem_cons_self,
        ihms fun n hn => ih n (List.mem_cons_of_mem m hn)]
      rfl

theorem same_symm [PartialEquivBEq α] (d e : Descriptor α) (h : same d e = true) :
    same e d = true := by
  induction d generalizing e with
  | atom a =>
    cases e with
    | atom b =>
      rw [same] at h ⊢
      exact BEq.symm h
    | _ => simp [same] at h
  | top => cases e <;> simp [same] at h ⊢
  | bottom => cases e <;> simp [same] at h ⊢
  | union xs ih =>
    cases e with
    | union ys =>
      rw [same] at h ⊢
      induction xs generalizing ys with
      | nil => cases ys <;> simp [sameAll] at h ⊢
      | cons x xs ihxs =>
        cases ys with
        | nil => simp [sameAll] at h
        | cons y ys =>
          rw [sameAll, Bool.and_eq_true] at h ⊢
          exact ⟨ih x List.mem_cons_self y h.1,
            ihxs (fun z hz => ih z (List.mem_cons_of_mem x hz)) ys h.2⟩
    | _ => simp [same] at h

theorem same_trans [PartialEquivBEq α] (d e f : Descriptor α) (hde : same d e = true)
    (hef : same e f = true) : same d f = true := by
  induction d generalizing e f with
  | atom a =>
    cases e with
    | atom b =>
      cases f with
      | atom c =>
        rw [same] at hde hef ⊢
        exact BEq.trans hde hef
      | _ => simp [same] at hef
    | _ => simp [same] at hde
  | top => cases e <;> cases f <;> simp [same] at hde hef ⊢
  | bottom => cases e <;> cases f <;> simp [same] at hde hef ⊢
  | union xs ih =>
    cases e with
    | union ys =>
      cases f with
      | union zs =>
        rw [same] at hde hef ⊢
        induction xs generalizing ys zs with
        | nil => cases ys <;> cases zs <;> simp [sameAll] at hde hef ⊢
        | cons x xs ihxs =>
          cases ys with
          | nil => simp [sameAll] at hde
          | cons y ys =>
            cases zs with
            | nil => simp [sameAll] at hef
            | cons z zs =>
              rw [sameAll, Bool.and_eq_true] at hde hef ⊢
              exact ⟨ih x List.mem_cons_self y z hde.1 hef.1,
                ihxs (fun w hw => ih w (List.mem_cons_of_mem x hw)) ys hde.2 zs hef.2⟩
      | _ => simp [same] at hef
    | _ => simp [same] at hde

/-- **Equality of descriptors is an equivalence** if that of atoms is. -/
instance [EquivBEq α] : EquivBEq (Descriptor α) where
  rfl := same_refl _
  symm := same_symm _ _
  trans := same_trans _ _ _

theorem atom_beq_atom {a b : α} : ((atom a : Descriptor α) == atom b) = (a == b) := by
  change same (atom a) (atom b) = _
  rw [same]

end Descriptor

/-! ## Look-ups -/

section Lookup

variable {κ β : Type} [BEq κ] [EquivBEq κ]

theorem lookup_congr {k l : κ} (h : k == l) (pairs : List (κ × β)) :
    pairs.lookup k = pairs.lookup l := by
  induction pairs with
  | nil => rfl
  | cons e pairs ih =>
    obtain ⟨m, b⟩ := e
    rw [List.lookup_cons, List.lookup_cons, BEq.congr_left h, ih]

/-- Equal keys have one declaration. -/
theorem lastDeclared_congr {k l : κ} (h : k == l) (pairs : List (κ × β)) :
    lastDeclared k pairs = lastDeclared l pairs :=
  lookup_congr h _

omit [EquivBEq κ] in
/-- What is declared of a key stands in a pair with an equal key. -/
theorem exists_of_lastDeclared {k : κ} {b : β} {pairs : List (κ × β)}
    (h : lastDeclared k pairs = some b) : ∃ l, (l, b) ∈ pairs ∧ (k == l) = true := by
  unfold lastDeclared at h
  rw [List.lookup_eq_findSome?] at h
  obtain ⟨⟨l, c⟩, hmem, hif⟩ := List.exists_of_findSome?_eq_some h
  obtain ⟨hkl, rfl⟩ : (k == l) = true ∧ c = b := by simpa using hif
  exact ⟨l, List.mem_reverse.1 hmem, hkl⟩

omit [EquivBEq κ] in
@[simp] theorem lastDeclared_nil (k : κ) : lastDeclared k ([] : List (κ × β)) = none := rfl

omit [EquivBEq κ] in
/-- A declaration holds if there is no later one of the same key. -/
@[simp] theorem lastDeclared_cons (k l : κ) (b : β) (pairs : List (κ × β)) :
    lastDeclared k ((l, b) :: pairs) =
      (lastDeclared k pairs).or (if k == l then some b else none) := by
  unfold lastDeclared
  rw [List.reverse_cons, List.lookup_append, List.lookup_cons]
  cases k == l <;> rfl

end Lookup

theorem Oracle.expand_congr {α κ π : Type} [BEq α] [EquivBEq α] (o : Oracle α κ π) {a b : α}
    (h : a == b) : o.expand (.atom a) = o.expand (.atom b) := by
  have hab : (Descriptor.atom a == Descriptor.atom b) = true := Descriptor.atom_beq_atom.trans h
  rw [Oracle.expand, Oracle.expand, lastDeclared_congr hab]

end Narrowing
