import Narrowing.Proofs.Access.Element
import Narrowing.Proofs.Access.Table
import Narrowing.Proofs.Branches.Order
import Narrowing.Proofs.Oracle.Classes
import Narrowing.Value.Element
/-!
# Values with subscripts

Where an access becomes a subscript, values without subscripts are refused. Those that the type of
the branch accepts are none of them: the table in use subscripts what is below one of a few classes
(`exists_subscripted_of_lookup`), the tests are sound there, and what the language has of instances
of these classes has subscripts (`hasSubscript_of_accepts`). An object of a class that code has made
may lack them all the same, since a class is free to come from an abstract one and not to do what
that promises.
-/

namespace Narrowing

open StandardClass

/-- Whether what a place shows is of the language itself: no object of a class, nor something that
shares what is not there. -/
def Cell.isBuiltIn : Cell → Bool
  | object .. | objectAt .. | listAt _ | window .. => false
  | _ => true

/-- The classes whose values the table in use subscripts. -/
def subscripted : List StandardClass := [str, bytes, bytearray, list, tuple, array, ndarray, sequence]

/-- The classes of values of the language that have no subscripts. -/
def unsubscripted : List StandardClass := [object, int, bool, float, complex, set, frozenset, noneType]

theorem not_isSubclass_subscripted : ∀ c ∈ unsubscripted, ∀ s ∈ subscripted,
    c.isSubclass s = false := by
  decide

/-- A type whose accesses become subscripts is below one of these classes. -/
theorem exists_subscripted_of_lookup {d : TypeDescriptor} {a : Accessor}
    (h : defaultTable.lookup d = .ok a) (ha : a.form = .subscript) :
    ∃ s ∈ subscripted, defaultDecider.subtype d s.descriptor = .ok true := by
  obtain ⟨e, hserves, rfl⟩ := AccessorTable.exists_serves_of_lookup h
  have hentries : ∀ e ∈ defaultTable.entries, e.accessor.form = .subscript →
      ∃ s ∈ subscripted, e.type = s.descriptor := by
    simp [defaultTable, subscripted, Accessor.generic]
  obtain ⟨s, hs, htype⟩ := hentries e hserves.mem ha
  exact ⟨s, hs, htype ▸ hserves.subtype⟩

/-! ## Classes of values of the language -/

namespace Store

variable {σ : Store} {v : Value}

/-- A value that keeps its class is one of the language itself. -/
theorem isBuiltIn_of_isLasting (h : σ.isLasting v) : (σ.cell? v).all Cell.isBuiltIn := by
  cases v with
  | ref r =>
    obtain ⟨c, kind, -, hkind, hcell⟩ := exists_of_isLasting h
    rw [hcell]
    cases c with
    | list | deque | bytearray | dict | array | vector => rfl
    | _ => cases hkind
  | _ => rfl

theorem exists_kindOf (σ : Store) (t : TypeObject) : ∃ n, σ.kindOf t = .other n := by
  unfold kindOf
  split <;> exact ⟨_, rfl⟩

/-- They are standard classes, or others of the language. -/
theorem typeOf_builtIn (h : (σ.cell? v).all Cell.isBuiltIn) :
    (∃ c, σ.typeOf v = .standard c) ∨ ∃ n, σ.typeOf v = .other n := by
  cases v with
  | cls t => exact .inr (σ.exists_kindOf t)
  | builtin b => cases b <;> exact .inr ⟨_, rfl⟩
  | ref r =>
    have hshown : σ.cell? (.ref r) = σ.shown? r := rfl
    rw [hshown] at h
    unfold typeOf
    dsimp only
    cases hc : σ.shown? r with
    | none => exact .inl ⟨_, rfl⟩
    | some cell =>
      rw [hc] at h
      cases cell with
      | object | objectAt | listAt | window => cases h
      | list | userList | deque | set | bytearray | dict | array | vector => exact .inl ⟨_, rfl⟩
      | view kind d => cases kind <;> exact .inr ⟨_, rfl⟩
      | _ => exact .inr ⟨_, rfl⟩
  | _ => first | exact .inl ⟨_, rfl⟩ | exact .inr ⟨_, rfl⟩

theorem mem_lineage_standard {c : StandardClass} {t : TypeObject}
    (h : t ∈ σ.lineage (.standard c)) : ∃ d, t = .standard d := by
  rcases List.mem_cons.1 h with rfl | h
  · exact ⟨c, rfl⟩
  · obtain ⟨d, -, rfl⟩ := List.mem_map.1 (List.mem_of_mem_filter h)
    exact ⟨d, rfl⟩

theorem mem_lineage_other {n : String} {t : TypeObject} (h : t ∈ σ.lineage (.other n)) :
    (∃ m, t = .other m) ∨ ∃ d, t = .standard d := by
  unfold lineage at h
  split at h
  · cases ‹_ = TypeObject.named _›
  · simp only [List.mem_cons, List.not_mem_nil, or_false] at h
    rcases h with rfl | rfl | rfl
    · exact .inl ⟨_, rfl⟩
    · exact .inr ⟨_, rfl⟩
    · exact .inr ⟨_, rfl⟩
  · rcases List.mem_append.1 h with h | h
    · obtain ⟨m, -, rfl⟩ := List.mem_map.1 h
      exact .inl ⟨m, rfl⟩
    · exact .inr ⟨_, List.mem_singleton.1 h⟩
  · cases ‹_ = TypeObject.defined _›

/-- They are ordinary: code has not made them. -/
theorem ordinary_builtIn (ds : List DeclaredClass) (h : (σ.cell? v).all Cell.isBuiltIn) :
    σ.Ordinary ds (σ.typeOf v) := by
  have hlineage : ∀ t ∈ σ.lineage (σ.typeOf v), (∃ m, t = .other m) ∨ ∃ d, t = .standard d := by
    intro t ht
    obtain ⟨c, hc⟩ | ⟨n, hn⟩ := typeOf_builtIn h
    · rw [hc] at ht
      exact .inr (mem_lineage_standard ht)
    · rw [hn] at ht
      exact mem_lineage_other ht
  refine ⟨fun hd => ?_, ?_⟩
  · obtain ⟨m, hd⟩ | ⟨d, hd⟩ := hlineage _ hd
    · cases hd
    · obtain rfl := TypeObject.named.inj hd
      trivial
  · obtain ⟨c, hc⟩ | ⟨n, hn⟩ := typeOf_builtIn h
    · rw [hc]
      exact c.isSubclass_object
    · rw [hn]
      rfl

/-! ## Instances of the subscripted classes -/

/-- Only standard classes of the language are below them. -/
theorem isSubclass_other_subscripted {s : StandardClass} (hs : s ∈ subscripted) (name : String) :
    σ.isSubclass (.other name) (.standard s) = false := by
  have habove : ∀ s ∈ subscripted, s ≠ StandardClass.object ∧ s ∉ standardAboveOther name := by
    unfold standardAboveOther
    split
    · decide
    · split <;> decide
  obtain ⟨hobject, hnot⟩ := habove s hs
  simp [isSubclass, belongs, hobject, hnot]

/-- **Their instances have subscripts**, as far as these are of the language. -/
theorem hasSubscript_of_isInstance {s : StandardClass} (hs : s ∈ subscripted)
    (hbuiltIn : (σ.cell? v).all Cell.isBuiltIn) (h : σ.isInstance v (.standard s)) :
    σ.hasSubscript v := by
  have hstandard : ∀ c ∈ unsubscripted, σ.typeOf v ≠ .standard c := by
    intro c hc htype
    unfold isInstance at h
    rw [htype, show σ.isSubclass (.standard c) (.standard s) = c.isSubclass s from rfl,
      not_isSubclass_subscripted c hc s hs] at h
    cases h
  have hother : ∀ name, σ.typeOf v ≠ .other name := by
    intro name htype
    unfold isInstance at h
    rw [htype, isSubclass_other_subscripted hs] at h
    cases h
  cases v with
  | str | bytes | tuple | types | range | machineInt | machineFloat | machineBool => rfl
  | none => exact absurd rfl (hstandard noneType (by decide))
  | bool => exact absurd rfl (hstandard bool (by decide))
  | int => exact absurd rfl (hstandard int (by decide))
  | float => exact absurd rfl (hstandard float (by decide))
  | complex => exact absurd rfl (hstandard complex (by decide))
  | frozenset => exact absurd rfl (hstandard frozenset (by decide))
  | cls t =>
    obtain ⟨n, hn⟩ := σ.exists_kindOf t
    exact absurd hn (hother n)
  | builtin b => cases b <;> exact absurd rfl (hother _)
  | ref r =>
    have hshown : σ.cell? (.ref r) = σ.shown? r := rfl
    rw [hshown] at hbuiltIn
    cases hc : σ.shown? r with
    | none =>
      have htype : σ.typeOf (.ref r) = .standard StandardClass.object := by
        simp only [typeOf, hc]
      exact absurd htype (hstandard StandardClass.object (by decide))
    | some cell =>
      have htype : σ.typeOf (.ref r) = σ.cellType cell := by simp only [typeOf, hc]
      rw [hc] at hbuiltIn
      cases cell with
      | object | objectAt | listAt | window => cases hbuiltIn
      | list | userList | deque | bytearray | dict | array | vector =>
        simp [hasSubscript, content, hshown, hc]
      | set => exact absurd htype (hstandard StandardClass.set (by decide))
      | view kind d => cases kind <;> exact absurd htype (hother _)
      | _ => exact absurd htype (hother _)
  | _ => exact absurd rfl (hother _)

end Store

/-! ## Types whose accesses become subscripts -/

section Accepted

variable {σ : Store} {v : Value} {s : StandardClass}

/-- The classes ask for no members, and `object` is not among them. -/
theorem asking?_subscripted : ∀ s ∈ subscripted,
    (Class.standard s).asking? = none ∧ s ≠ StandardClass.object := by
  decide

/-- What an instance of a class is below. -/
theorem isInstance_of_isSubclass (hbuiltIn : (σ.cell? v).all Cell.isBuiltIn)
    (hs : s ∈ subscripted) {c : Class} (hv : σ.isInstance v c = true)
    (hbelow : c.isSubclass (.standard s) = true) : σ.isInstance v (.standard s) = true := by
  have hknown : c.Known [] := by
    cases c with
    | standard c => trivial
    | declared d =>
      -- no declared class has an instance that is of the language itself
      obtain ⟨e, he⟩ | ⟨n, hn⟩ := Store.typeOf_builtIn hbuiltIn
      · rw [Store.isInstance, he] at hv
        cases hv
      · rw [Store.isInstance, hn] at hv
        cases hv
  exact Store.isSubclass_trans .nil (Store.ordinary_builtIn [] hbuiltIn) hknown trivial hv hbelow
    (asking?_subscripted s hs).1

theorem exists_of_mem_mapM {β γ ε : Type} {f : β → Except ε γ} {xs : List β} {ys : List γ}
    (h : xs.mapM f = .ok ys) : ∀ y ∈ ys, ∃ x ∈ xs, f x = .ok y := by
  induction xs generalizing ys with
  | nil =>
    obtain rfl := Except.ok.inj h
    exact fun y hy => absurd hy List.not_mem_nil
  | cons x xs ih =>
    rw [List.mapM_cons] at h
    obtain ⟨y, hy, h⟩ := exists_of_bind_eq_ok h
    obtain ⟨zs, hzs, h⟩ := exists_of_bind_eq_ok h
    obtain rfl := Except.ok.inj h
    refine List.forall_mem_cons.2 ⟨⟨x, List.mem_cons_self, hy⟩, fun z hz => ?_⟩
    obtain ⟨w, hw, hwz⟩ := ih hzs z hz
    exact ⟨w, List.mem_cons_of_mem x hw, hwz⟩

/-- **What is below one of the classes accepts its instances only**, level by level. -/
theorem isInstance_of_testWithin (hbuiltIn : (σ.cell? v).all Cell.isBuiltIn)
    (hs : s ∈ subscripted) {n m : Nat} {d : TypeDescriptor} {t : TypeTest}
    (ht : defaultOracle.testWithin n d = .ok t)
    (hbelow : defaultOracle.subtypeWithin m d s.descriptor = .ok true)
    (h : σ.accepts t v = .ok true) : σ.isInstance v (.standard s) = true := by
  have hread : defaultOracle.normalize s.descriptor = s.descriptor := rfl
  have htop : defaultOracle.normalize s.descriptor ≠ .top := by rintro ⟨⟩
  have hobject : Spelling.isObject (.cls (.standard s)) ≠ true := fun hobject =>
    (asking?_subscripted s hs).2 (Class.standard.inj (Spelling.cls.inj (eq_object_of_isObject hobject)))
  induction n generalizing m d t with
  | zero => cases ht
  | succ n ih =>
    cases m with
    | zero => cases hbelow
    | succ m =>
      rw [Oracle.subtypeWithin] at hbelow
      rw [Oracle.testWithin] at ht
      cases hd : defaultOracle.normalize d with
      | atom x =>
        rw [hd] at ht
        rw [Oracle.subtypeLevel_atoms hd hread] at hbelow
        cases x with
        | cls c =>
          obtain rfl := Except.ok.inj ht
          refine isInstance_of_isSubclass hbuiltIn hs (Except.ok.inj h) ?_
          split at hbelow
          · next hxs => exact (Bool.or_eq_true_iff.1 hxs).resolve_left hobject
          · cases hbelow
        | _ => cases ht
      | top =>
        rw [Oracle.subtypeLevel_everything hd htop] at hbelow
        cases m with
        | zero => cases hbelow
        | succ m => exact absurd (Except.ok.inj hbelow) hobject
      | bottom =>
        rw [hd] at ht
        obtain rfl := Except.ok.inj ht
        cases h
      | union ms =>
        rw [hd] at ht
        dsimp only at ht
        rw [Oracle.subtypeLevel_members hd htop, allOrFail_eq_true_iff] at hbelow
        cases hms : ms.mapM (defaultOracle.testWithin n) with
        | error f =>
          rw [hms] at ht
          cases ht
        | ok ts =>
          -- one of the members accepts the value, and it is below the class as well
          rw [hms] at ht
          obtain rfl := Except.ok.inj ht
          rw [Store.accepts, RuntimeTest.accepts_ofMembers] at h
          obtain ⟨u, hu, hv⟩ := exists_of_anyOrFail_eq_true h
          obtain ⟨e, he, heu⟩ := exists_of_mem_mapM hms u hu
          exact ih heu (hbelow e he) hv

end Accepted

/-- **What a type accepts has subscripts** where its accesses become subscripts, but for objects of
classes. -/
theorem hasSubscript_of_accepts {d : TypeDescriptor} {a : Accessor}
    (hlookup : defaultTable.lookup d = .ok a) (ha : a.form = .subscript) {t : TypeTest}
    (ht : defaultDecider.test d = .ok t) {σ : Store} {v : Value}
    (hbuiltIn : (σ.cell? v).all Cell.isBuiltIn) (h : σ.accepts t v = .ok true) :
    σ.hasSubscript v := by
  obtain ⟨s, hs, hbelow⟩ := exists_subscripted_of_lookup hlookup ha
  obtain ⟨n, hn⟩ := (liftsTo_defaultDecider.test d t).1 ht
  obtain ⟨m, hm⟩ := (liftsTo_defaultDecider.subtype d _ true).1 hbelow
  exact Store.hasSubscript_of_isInstance hs hbuiltIn
    (isInstance_of_testWithin hbuiltIn hs hn hm h)

end Narrowing
