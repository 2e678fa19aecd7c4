import Narrowing.Proofs.Code.Scope
import Narrowing.Proofs.Code.Thin
/-!
# Reads and the scopes around them

A name that code reads is read below some scopes (`ReadAt`), and the visible ones of these
settle what it stands for, the innermost first: the name is declared global in one of them,
belongs to it, or is left to what is around all of them (`resolve`).

Where the mentions of the scopes get thin, each of them has **at most** what it had before of
a name (`Scope.AtMost`). So a name that did not belong to any of them does not do so now
(`resolve_eq_of_atMost`): what is left of the reads of such a name is resolved as it was.
-/

namespace Narrowing.Code

open Mention

/-! ## The names of a scope -/

namespace Mention

variable {name : String} {ms : List Mention}

theorem mem_globals : name ∈ globals ms ↔ .declaresGlobal name ∈ ms := by
  unfold globals
  rw [List.mem_filterMap]
  constructor
  · rintro ⟨m, hm, hglobal⟩
    cases m <;> cases hglobal
    exact hm
  · exact fun h => ⟨_, h, rfl⟩

theorem mem_nonlocals : name ∈ ms.filterMap nonlocal? ↔ .declaresNonlocal name ∈ ms := by
  rw [List.mem_filterMap]
  constructor
  · rintro ⟨m, hm, hnonlocal⟩
    cases m <;> cases hnonlocal
    exact hm
  · exact fun h => ⟨_, h, rfl⟩

theorem mem_bound : name ∈ ms.filterMap bound? ↔
    .binds name ∈ ms ∨ .assigns name ∈ ms ∨ .imports name ∈ ms := by
  rw [List.mem_filterMap]
  constructor
  · rintro ⟨m, hm, hbound⟩
    cases m <;> cases hbound
    · exact .inl hm
    · exact .inr (.inl hm)
    · exact .inr (.inr hm)
  · rintro (h | h | h) <;> exact ⟨_, h, rfl⟩

/-- **What belongs to a scope** is bound and not declared. -/
theorem mem_locals : name ∈ locals ms ↔ name ∈ ms.filterMap bound? ∧
    .declaresGlobal name ∉ ms ∧ .declaresNonlocal name ∉ ms := by
  rw [locals, List.mem_filter, ← mem_globals, ← mem_nonlocals]
  simp [globals]

end Mention

/-! ## Resolution -/

/-- **What visible scopes make of a name.** -/
inductive Resolution where
  /-- It is a name of the module, by a declaration. -/
  | module
  /-- It belongs to one of the scopes. -/
  | scope
  /-- It is left to what is around. -/
  | around
deriving DecidableEq

/-- **Resolves a name in scopes**, the innermost first. -/
def resolve (name : String) : List Scope → Resolution
  | [] => .around
  | S :: Ss =>
    if (globals S.mentions).contains name then .module
    else if S.given.contains name || (locals S.mentions).contains name then .scope
    else resolve name Ss

namespace Scope

/-- **A scope with at most what another has of a name**: they agree on declarations, and the
name belongs to the other if it belongs to the one. -/
structure AtMost (name : String) (S' S : Scope) : Prop where
  isClass : S'.kind = .classBody ↔ S.kind = .classBody
  isGlobal : name ∈ globals S'.mentions ↔ name ∈ globals S.mentions
  isGiven : name ∈ S'.given → name ∈ S.given
  isLocal : name ∈ locals S'.mentions → name ∈ locals S.mentions

variable {name : String} {S S' S'' : Scope}

theorem AtMost.refl (name : String) (S : Scope) : AtMost name S S :=
  ⟨.rfl, .rfl, id, id⟩

theorem AtMost.trans (h : AtMost name S'' S') (h' : AtMost name S' S) : AtMost name S'' S :=
  ⟨h.isClass.trans h'.isClass, h.isGlobal.trans h'.isGlobal, fun hn => h'.isGiven (h.isGiven hn),
    fun hn => h'.isLocal (h.isLocal hn)⟩

theorem AtMost.inside (h : AtMost name S' S) : AtMost name S'.inside S.inside := by
  unfold Scope.inside
  by_cases hkind : S.kind = .classBody
  · rw [if_pos hkind, if_pos (h.isClass.2 hkind)]
    exact .refl _ _
  · rw [if_neg hkind, if_neg fun hkind' => hkind (h.isClass.1 hkind')]
    exact h

/-- A scope that declares the same names and binds no others. -/
theorem AtMost.of_mentions {ms' ms : List Mention} (hdeclares : ∀ m, m.declares → (m ∈ ms' ↔ m ∈ ms))
    (hbound : ∀ m, m.bound?.isSome → m ∈ ms' → m ∈ ms) (kind : ScopeKind) (given : List String) :
    AtMost name ⟨kind, given, ms'⟩ ⟨kind, given, ms⟩ := by
  refine ⟨.rfl, ?_, id, ?_⟩
  · rw [mem_globals, mem_globals]
    exact hdeclares _ rfl
  · simp only [mem_locals, mem_bound]
    rintro ⟨hname, hglobal, hnonlocal⟩
    refine ⟨?_, fun hm => hglobal ((hdeclares _ rfl).2 hm), fun hm => hnonlocal ((hdeclares _ rfl).2 hm)⟩
    exact hname.imp (hbound _ rfl) (.imp (hbound _ rfl) (hbound _ rfl))

/-- A scope whose mentions get thin. -/
theorem AtMost.of_thins {gained : String → Prop} {ms' ms : List Mention}
    (h : Thins gained ms' ms) (kind : ScopeKind) (given : List String) :
    AtMost name ⟨kind, given, ms'⟩ ⟨kind, given, ms⟩ :=
  .of_mentions (fun _ hm => ⟨h.mem_of_mem (.inl hm), h.mem_of_declares hm⟩)
    (fun _ hm => h.mem_of_mem (.inr hm)) kind given

end Scope

variable {name : String} {Ss' Ss : List Scope}

theorem atMost_trans {Ss'' : List Scope} (h : List.Forall₂ (Scope.AtMost name) Ss'' Ss')
    (h' : List.Forall₂ (Scope.AtMost name) Ss' Ss) : List.Forall₂ (Scope.AtMost name) Ss'' Ss := by
  induction h generalizing Ss with
  | nil => exact h'
  | cons hS _ ih =>
    cases h' with
    | cons hS' hSs' => exact .cons (hS.trans hS') (ih hSs')

theorem visible_atMost (h : List.Forall₂ (Scope.AtMost name) Ss' Ss) :
    List.Forall₂ (Scope.AtMost name) (visible Ss') (visible Ss) := by
  cases h with
  | nil => exact .nil
  | cons hS hSs =>
    refine .cons hS ?_
    rw [List.forall₂_map_left_iff, List.forall₂_map_right_iff]
    exact hSs.imp fun _ _ => Scope.AtMost.inside

/-- **A name that belonged to none of the scopes** is resolved as before in scopes that have
at most what they had. -/
theorem resolve_eq_of_atMost (h : List.Forall₂ (Scope.AtMost name) Ss' Ss)
    (hne : resolve name Ss ≠ .scope) : resolve name Ss' = resolve name Ss := by
  induction h with
  | nil => rfl
  | cons hS _ ih =>
    obtain ⟨-, hglobal, hgiven, hlocal⟩ := hS
    simp only [resolve, List.contains_iff_mem, Bool.or_eq_true] at hne ⊢
    grind

/-! ## Reads -/

/-- **A read of a name** somewhere in what is mentioned, below some scopes, the innermost
first, or a place there where the name may come to be read. What names the scopes have by
themselves is left open. -/
inductive ReadAt (gained : String → Prop) (name : String) : List Scope → List Mention → Prop
  | here {ms : List Mention} (h : .reads name ∈ ms ∨ gained name) : ReadAt gained name [] ms
  | inside {ms : List Mention} {path : List Scope} (S : Scope)
      (h : .scope S.kind S.mentions ∈ ms) (hread : ReadAt gained name path S.mentions) :
      ReadAt gained name (path ++ [S]) ms

variable {gained : String → Prop}

/-- A read, where other names may be read. -/
theorem ReadAt.gain {path : List Scope} {ms : List Mention}
    (h : ReadAt (fun _ => False) name path ms) : ReadAt gained name path ms := by
  induction h with
  | here h => exact .here (h.imp_right False.elim)
  | inside S h _ ih => exact .inside S h ih

theorem ReadAt.mono {path : List Scope} {ms ns : List Mention} (h : ReadAt gained name path ms)
    (hsub : ∀ m ∈ ms, m ∈ ns) : ReadAt gained name path ns := by
  cases h with
  | here h => exact .here (h.imp_left (hsub _))
  | inside S h hread => exact .inside S (hsub _ h) hread

/-- **A read in what is mentioned after it got thin** was there before, or has come to be where
less of the name was settled before. -/
theorem ReadAt.of_thins {path' : List Scope} {ms' ms : List Mention}
    (hread : ReadAt gained name path' ms') (h : Thins gained ms' ms) :
    ∃ path, ReadAt gained name path ms ∧ List.Forall₂ (Scope.AtMost name) path' path := by
  induction hread generalizing ms with
  | here hread =>
    refine ⟨[], .here ?_, .nil⟩
    rcases hread with hmem | hgained
    · rcases h.mem_cases hmem with hm | hm | ⟨_, hm, hgained⟩ | ⟨_, _, _, hm, -⟩ | ⟨_, hm⟩
      · exact .inl hm
      · cases hm
      · cases hm
        exact .inr hgained
      · cases hm
      · cases hm
    · exact .inr hgained
  | inside S hmem _ ih =>
    rcases h.mem_cases hmem with hm | hm | ⟨_, hm, -⟩ | ⟨kind, inner', inner, hm, hmem', hthins⟩ |
      ⟨_, hm⟩
    · obtain ⟨path, hread, hpath⟩ := ih (.refl _)
      exact ⟨path ++ [S], .inside S hm hread, List.rel_append hpath (.cons (.refl _ _) .nil)⟩
    · cases hm
    · cases hm
    · obtain ⟨rfl, hmentions⟩ := Mention.scope.inj hm
      rw [← hmentions] at hthins
      obtain ⟨path, hread, hpath⟩ := ih hthins
      exact ⟨path ++ [⟨S.kind, S.given, inner⟩], .inside ⟨S.kind, S.given, inner⟩ hmem' hread,
        List.rel_append hpath (.cons (.of_thins hthins S.kind S.given) .nil)⟩
    · cases hm

/-! ## Private names -/

/-- **A class that leaves a name alone**: the name stands for itself there, and no other name
stands for it. -/
def LeavesAlone (owner : Option String) (name : String) : Prop :=
  ∀ id, meantIn owner id = name ↔ id = name

theorem leavesAlone_none (name : String) : LeavesAlone none name := fun _ => .rfl

/-- A name that means the same in all classes is left alone. -/
theorem leavesAlone_of_not_isRenamed {name : String} (h : ¬ IsRenamed name)
    (owner : Option String) : LeavesAlone owner name := by
  intro id
  by_cases hid : meantIn owner id = id
  · rw [hid]
  · constructor
    · rintro rfl
      exact absurd (isRenamed_of_eq_meantIn hid) h
    · rintro rfl
      exact absurd (isRenamed_of_meantIn hid) h

namespace Mention

/-- What a mention says of a name. -/
def IsOf (name : String) : Mention → Prop
  | binds id | assigns id | imports id | reads id | declaresGlobal id | declaresNonlocal id =>
    id = name
  | _ => False

variable {owner : String} {ms : List Mention}

theorem inClass_eq_iff (h : LeavesAlone (some owner) name) {m n : Mention} (hm : m.IsOf name) :
    inClass owner n = m ↔ n = m := by
  have hself : ∀ id, privateName owner id = name ↔ id = name := h
  cases m with
  | parameter | waits | source | scope => exact hm.elim
  | _ =>
    obtain rfl := hm
    rcases n with _ | _ | _ | _ | _ | _ | _ | _ | _ | ⟨kind, _⟩
    case scope => cases kind <;> simp [inClass]
    all_goals simp [inClass, hself]

/-- In such a class the same is said of the name. -/
theorem mem_allInClass (h : LeavesAlone (some owner) name) (m : Mention) (hm : m.IsOf name) :
    m ∈ allInClass owner ms ↔ m ∈ ms := by
  rw [allInClass_eq_map, List.mem_map]
  simp [inClass_eq_iff h hm]

end Mention

theorem Scope.AtMost.inClass {owner : String} (h : LeavesAlone (some owner) name)
    (kind : ScopeKind) (given : List String) (ms : List Mention) :
    AtMost name ⟨kind, given, ms⟩ ⟨kind, given, allInClass owner ms⟩ := by
  refine ⟨.rfl, ?_, id, ?_⟩
  · rw [mem_globals, mem_globals, mem_allInClass h (.declaresGlobal name) rfl]
  · rw [mem_locals, mem_locals, mem_bound, mem_bound, mem_allInClass h (.binds name) rfl,
      mem_allInClass h (.assigns name) rfl, mem_allInClass h (.imports name) rfl,
      mem_allInClass h (.declaresGlobal name) rfl, mem_allInClass h (.declaresNonlocal name) rfl]
    exact id

/-- **A read in a class that leaves the name alone** is the same read. -/
theorem ReadAt.inClass {owner : String} (h : LeavesAlone (some owner) name) {path : List Scope}
    {ms : List Mention} (hread : ReadAt gained name path ms) :
    ∃ path', ReadAt gained name path' (allInClass owner ms) ∧ List.Forall₂ (Scope.AtMost name) path path' := by
  induction hread with
  | here hread => exact ⟨[], .here (hread.imp_left (mem_allInClass h (.reads name) rfl).2), .nil⟩
  | @inside ms path S hmem hread ih =>
    have hmem' : Mention.inClass owner (.scope S.kind S.mentions) ∈ allInClass owner ms := by
      rw [allInClass_eq_map]
      exact List.mem_map_of_mem hmem
    obtain ⟨kind, given, inner⟩ := S
    cases kind with
    | classBody =>
      exact ⟨path ++ [⟨.classBody, given, inner⟩], .inside ⟨.classBody, given, inner⟩ hmem' hread,
        List.forall₂_same.2 fun S _ => .refl name S⟩
    | _ =>
      obtain ⟨path', hread', hpath⟩ := ih
      exact ⟨_, .inside ⟨_, given, allInClass owner inner⟩ hmem' hread',
        List.rel_append hpath (.cons (.inClass h _ given inner) .nil)⟩

theorem ReadAt.allMeantIn {owner : Option String} (h : LeavesAlone owner name) {path : List Scope}
    {ms : List Mention} (hread : ReadAt gained name path ms) :
    ∃ path', ReadAt gained name path' (allMeantIn owner ms) ∧
      List.Forall₂ (Scope.AtMost name) path path' := by
  cases owner with
  | none => exact ⟨path, hread, List.forall₂_same.2 fun S _ => .refl name S⟩
  | some C => exact hread.inClass h

end Narrowing.Code
