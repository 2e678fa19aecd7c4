import Narrowing.Proofs.Run.Answer
/-!
# Subscripts and generic accesses

A generic access subscripts what can be subscripted and walks anything else. So a subscript may
stand in its place where the value has subscripts (`Run.run_elt`); where it has none, the
subscript fails at once, whatever a walk would have found (`Run.subscript_fails`).
-/

namespace Narrowing

/-! ## Values without subscripts -/

namespace Store

/-- What a value is not whose class has no subscripts. -/
structure LacksSubscript (σ : Store) (v : Value) : Prop where
  special : σ.special? v subscriptMember = none
  str : ∀ s tag, σ.content v ≠ .str s tag
  bytes : ∀ bs tag, σ.content v ≠ .bytes bs tag
  tuple : ∀ items tag, σ.content v ≠ .tuple items tag
  types : ∀ ds, σ.content v ≠ .types ds
  range : ∀ start stop step tag, σ.content v ≠ .range start stop step tag
  machineInt : ∀ i tag, σ.content v ≠ .machineInt i tag
  machineFloat : ∀ x tag, σ.content v ≠ .machineFloat x tag
  machineBool : ∀ b, σ.content v ≠ .machineBool b
  list : ∀ items, σ.cell? (σ.content v) ≠ some (.list items)
  userList : ∀ items, σ.cell? (σ.content v) ≠ some (.userList items)
  deque : ∀ items limit, σ.cell? (σ.content v) ≠ some (.deque items limit)
  bytearray : ∀ bs, σ.cell? (σ.content v) ≠ some (.bytearray bs)
  dict : ∀ entries, σ.cell? (σ.content v) ≠ some (.dict entries)
  array : ∀ code items, σ.cell? (σ.content v) ≠ some (.array code items)
  vector : ∀ kind shape items, σ.cell? (σ.content v) ≠ some (.vector kind shape items)

theorem lacksSubscript {σ : Store} {v : Value} (h : σ.hasSubscript v = false) :
    σ.LacksSubscript v := by
  obtain ⟨hspecial, hclass⟩ := Bool.or_eq_false_iff.1 h
  split at hclass <;> try cases hclass
  split at hclass <;> try cases hclass
  exact ⟨Option.isNone_iff_eq_none.1 (Option.isSome_eq_false_iff.1 hspecial),
    by assumption, by assumption, by assumption, by assumption, by assumption, by assumption,
    by assumption, by assumption, by assumption, by assumption, by assumption, by assumption,
    by assumption, by assumption, by assumption⟩

/-! ## Values that keep their class -/

/-- **Whether a value keeps its class**: it is no place, or one with a container of the language. -/
def isLasting (σ : Store) : Value → Bool
  | .ref r => ((σ.get? r).bind Cell.containerKind?).isSome
  | _ => true

/-- It is shown as it is held there. -/
theorem exists_of_isLasting {σ : Store} {r : Ref} (h : σ.isLasting (.ref r)) :
    ∃ c kind, σ.get? r = some c ∧ c.containerKind? = some kind ∧ σ.cell? (.ref r) = some c := by
  obtain ⟨kind, hkind⟩ := Option.isSome_iff_exists.1 h
  obtain ⟨c, hc, hkind⟩ := Option.bind_eq_some_iff.1 hkind
  refine ⟨c, kind, hc, hkind, ?_⟩
  show σ.shown? r = _
  rw [shown?, hc]
  cases c <;> first | rfl | cases hkind

/-- All containers of the language have subscripts. -/
theorem hasSubscript_of_container {σ : Store} {r : Ref} (h : σ.isLasting (.ref r)) :
    σ.hasSubscript (.ref r) := by
  obtain ⟨c, kind, -, hkind, hcell⟩ := exists_of_isLasting h
  cases c with
  | list | deque | bytearray | dict | array | vector => simp [hasSubscript, content, hcell]
  | _ => cases hkind

/-- **What keeps its class keeps its subscripts.** -/
theorem hasSubscript_of_grows {σ τ : Store} (hgrows : σ.Grows τ) {v : Value} (h : σ.isLasting v)
    (hv : σ.hasSubscript v) : τ.hasSubscript v := by
  cases v with
  | ref r =>
    obtain ⟨c, kind, hc, hkind, -⟩ := exists_of_isLasting h
    obtain ⟨d, hd, hbecomes⟩ := hgrows r c hc
    refine hasSubscript_of_container ?_
    show ((τ.get? r).bind Cell.containerKind?).isSome
    rw [hd, Option.bind_some, hbecomes.container kind hkind]
    rfl
  | _ => exact hv

end Store

namespace Run

variable {σ : Store} {v : Value}

theorem subsequence_fails (h : σ.LacksSubscript v) (ends : Value × Value × Value) :
    subsequence v ends σ = .failed .wrongType σ := by
  obtain ⟨start, stop, step⟩ := ends
  unfold subsequence
  rw [get_bind]
  show _ = (throw .wrongType : Run Value) σ
  refine congrFun ?_ σ
  dsimp only
  split
  · exact absurd ‹_› (h.str _ _)
  · exact absurd ‹_› (h.bytes _ _)
  · exact absurd ‹_› (h.tuple _ _)
  · exact absurd ‹_› (h.range _ _ _ _)
  · exact absurd ‹_› (h.types _)
  · split
    · exact absurd ‹_› (h.list _)
    · exact absurd ‹_› (h.userList _)
    · exact absurd ‹_› (h.array _ _)
    · exact absurd ‹_› (h.bytearray _)
    · rfl

theorem plainSubscript_fails (h : σ.LacksSubscript v) (i : Value) :
    plainSubscript v i σ = .failed .wrongType σ := by
  unfold plainSubscript
  rw [get_bind]
  -- the run hangs on the store in two ways, so it gets a name before it is taken apart
  refine (fun (hrun : ∀ x : Run Value, x = _ → x σ = .failed .wrongType σ) => hrun _ rfl) ?_
  intro x hx
  split at hx
  · exact absurd ‹_› (h.machineInt _ _)
  · exact absurd ‹_› (h.machineFloat _ _)
  · exact absurd ‹_› (h.machineBool _)
  · split at hx
    · exact absurd ‹_› (h.vector _ _ _)
    · exact absurd ‹_› (h.dict _)
    · split at hx
      · exact absurd ‹_› (h.deque _ _)
      · rw [hx]
        exact subsequence_fails h _
    · split at hx
      · exact absurd ‹_› (h.str _ _)
      · exact absurd ‹_› (h.bytes _ _)
      · exact absurd ‹_› (h.tuple _ _)
      · exact absurd ‹_› (h.types _)
      · exact absurd ‹_› (h.range _ _ _ _)
      · exact absurd ‹_› (h.list _)
      · exact absurd ‹_› (h.userList _)
      · exact absurd ‹_› (h.deque _ _)
      · exact absurd ‹_› (h.array _ _)
      · exact absurd ‹_› (h.bytearray _)
      · rw [hx]
        rfl

/-- **A value without subscripts is not subscripted.** -/
theorem subscript_fails (h : σ.hasSubscript v = false) (i : Value) :
    subscript v i σ = .failed .wrongType σ := by
  have hlacks := Store.lacksSubscript h
  have hnone : callSpecial? v Store.subscriptMember [i] σ = .done none σ := by
    unfold callSpecial?
    rw [get_bind, hlacks.special]
    rfl
  unfold subscript
  rw [bind_apply, hnone]
  show (plainSubscript v i >>= _ : Run Value) σ = _
  rw [bind_apply, plainSubscript_fails hlacks]
  rfl

/-- **The generic access subscripts what has subscripts.** -/
theorem element_of_hasSubscript (h : σ.hasSubscript v) (i : Value) :
    element v i σ = subscript v i σ := by
  unfold element
  rw [get_bind, if_pos h]

/-- A call of the generic access on what has subscripts is a subscript, or it takes too many
steps. -/
theorem run_elt {s : Session} (h : s.store.hasSubscript v) (i : Value) :
    s.run (invoke (.builtin .elt) [v, i]) = s.run (subscript v i) ∨
      (s.run (invoke (.builtin .elt) [v, i])).1 = .error .tooDeep := by
  have hperform : perform (.builtin .elt) [v, i] [] s.store = element v i s.store := rfl
  exact Session.run_invoke_eq rfl (hperform.trans (element_of_hasSubscript h i))

end Run

end Narrowing
