import Narrowing.Proofs.Oracle.Levels
import Narrowing.Proofs.Spelling
/-!
# Spellings of one type

An oracle over classes reads a host spelling as classes. Reading is deep in choices and
shallow in unions: the alternatives of a choice are read, the members of a union inside it
are not, and they are left for the next level. That works as long as they stay members. But
a join collapses when a single member is left, and then a spelling that has not been read
comes out as if it had been: reading `Union[Union[int | str], BOTTOM]`, where the inner
union was built by hand, gives `int | str`. The choice **leaks** (`Spelling.leaks`).

Where a descriptor leaks, reading it again goes on (`normalize_eq_iff`), and an oracle that
reads level by level takes what leaked for a foreign atom (`subtypeWithin_leaking`). Where no
choice leaks at any depth (`TypeDescriptor.Tight`), every descriptor is interchangeable with
its normal form (`interchangeable_of_tight`). Host notations alone never leak: it takes a
union written with a single member (`tight_of_plural`).
-/

namespace Narrowing

namespace Spelling

/-! ## Reading and its normal form -/

theorem coreAll_eq_map (xs : List Spelling) : coreAll xs = xs.map core := by
  induction xs with
  | nil => rw [coreAll, List.map_nil]
  | cons x xs ih => rw [coreAll, ih, List.map_cons]

theorem readings_eq_map (xs : List Spelling) : readings xs = xs.map reading := by
  induction xs with
  | nil => rw [readings, List.map_nil]
  | cons x xs ih => rw [readings, ih, List.map_cons]

theorem descriptors_eq_map (xs : List Spelling) : descriptors xs = xs.map descriptor := by
  induction xs with
  | nil => rw [descriptors, List.map_nil]
  | cons x xs ih => rw [descriptors, ih, List.map_cons]

theorem reading_choice (style : ChoiceStyle) (xs : List Spelling) :
    (choice style xs).reading = .join (xs.map reading) := by
  rw [reading, readings_eq_map]

theorem reading_union (xs : List Spelling) : (union xs).reading = .union (xs.map descriptor) := by
  rw [← descriptors_eq_map]
  simp [reading, descriptor]

/-- A plain spelling is read as itself. -/
theorem Plain.reading_eq {s : Spelling} (h : s.Plain) : s.reading = .atom s := by
  cases h <;> simp [reading, descriptor]

theorem Plain.core_eq {s : Spelling} (h : s.Plain) : s.core = .atom s := by
  cases h <;> simp [core]

/-- What a spelling stands for as a part has the same normal form as itself. -/
theorem bind_core_descriptor (s : Spelling) : s.descriptor.bind core = s.core := by
  induction s using induction with
  | step s ih =>
    cases s with
    | top => simp [descriptor, core]
    | bottom => simp [descriptor, core]
    | union xs =>
      simp only [parts] at ih
      rw [descriptor, core, Descriptor.bind_union, descriptors_eq_map, coreAll_eq_map,
        List.map_map]
      exact congrArg _ (List.map_congr_left ih)
    | _ => simp [descriptor]

/-! ## Leaks -/

/-- Whether a spelling is one of the host's own ways to write a type. -/
def isHost : Spelling → Bool
  | none | any | choice .. | generic .. | aliased .. | bareAlias _ => true
  | _ => false

/-- **Whether a spelling leaks**: what is read of it is a host spelling. -/
def leaks (s : Spelling) : Bool :=
  match s.reading with
  | .atom x => x.isHost
  | _ => false

mutual

/-- **Whether nothing leaks in a spelling**, at any depth. -/
def tight : Spelling → Bool
  | choice style xs => !(choice style xs).leaks && tightAll xs
  | union xs => tightAll xs
  | _ => true

/-- Whether nothing leaks in any spelling of a list. -/
def tightAll : List Spelling → Bool
  | [] => true
  | x :: xs => tight x && tightAll xs

end

theorem tightAll_iff {xs : List Spelling} : tightAll xs = true ↔ ∀ x ∈ xs, x.tight = true := by
  induction xs with
  | nil => simp [tightAll]
  | cons x xs ih => simp [tightAll, ih]

/-- No spelling is read as an atom that is a part of the algebra. -/
theorem descriptor_of_mem_reading {x : Spelling} (s : Spelling) :
    (x ∈ s.reading.atoms → x.descriptor = .atom x) ∧
      (x ∈ s.descriptor.atoms → x.descriptor = .atom x) := by
  induction s using induction with
  | step s ih =>
    have hself : x ∈ s.descriptor.atoms → x.descriptor = .atom x := by
      cases s with
      | union xs =>
        simp only [parts] at ih
        rw [descriptor, Descriptor.mem_atoms_union, descriptors_eq_map]
        rintro ⟨_, hd, hx⟩
        obtain ⟨y, hy, rfl⟩ := List.mem_map.1 hd
        exact (ih y hy).2 hx
      | top => exact fun h => absurd h List.not_mem_nil
      | bottom => exact fun h => absurd h List.not_mem_nil
      | _ => exact fun h => Descriptor.mem_atoms_atom.1 h ▸ rfl
    refine ⟨?_, hself⟩
    cases s with
    | choice style xs =>
      simp only [parts] at ih
      rw [reading_choice]
      intro hx
      obtain ⟨d, hd, hx⟩ := Descriptor.mem_atoms_of_join hx
      obtain ⟨y, hy, rfl⟩ := List.mem_map.1 hd
      exact (ih y hy).1 hx
    | any => exact fun h => absurd h List.not_mem_nil
    | none => exact fun h => Descriptor.mem_atoms_atom.1 h ▸ rfl
    | generic c xs => exact fun h => Descriptor.mem_atoms_atom.1 h ▸ rfl
    | aliased b xs => exact fun h => Descriptor.mem_atoms_atom.1 h ▸ rfl
    | bareAlias b => exact fun h => Descriptor.mem_atoms_atom.1 h ▸ rfl
    | _ => exact hself

/-- What is read of a spelling and no host spelling is plain. -/
theorem plain_of_reading_eq {s x : Spelling} (h : s.reading = .atom x) (hx : x.isHost = false) :
    x.Plain := by
  have hatom := (descriptor_of_mem_reading s).1 (h ▸ Descriptor.mem_atoms_atom.2 rfl)
  cases x with
  | name t => exact .name t
  | cls c => exact .cls c
  | literal vs => exact .literal vs
  | number i => exact .number i
  | forward t => exact .forward t
  | top => cases hatom
  | bottom => cases hatom
  | union xs => cases hatom
  | _ => cases hx

/-- A choice in what is read is smaller. -/
theorem sizeOf_choice_lt {style : ChoiceStyle} {ys : List Spelling} (s : Spelling) :
    (choice style ys ∈ s.reading.atoms → sizeOf (choice style ys) < sizeOf s) ∧
      (choice style ys ∈ s.descriptor.atoms → sizeOf (choice style ys) ≤ sizeOf s) := by
  induction s using induction with
  | step s ih =>
    have hunion : ∀ xs, s = union xs → choice style ys ∈ s.descriptor.atoms →
        sizeOf (choice style ys) < sizeOf s := by
      rintro xs rfl
      simp only [parts] at ih
      rw [descriptor, Descriptor.mem_atoms_union, descriptors_eq_map]
      rintro ⟨_, hd, hx⟩
      obtain ⟨y, hy, rfl⟩ := List.mem_map.1 hd
      have hle := (ih y hy).2 hx
      have hlt := List.sizeOf_lt_of_mem hy
      rw [union.sizeOf_spec]
      omega
    cases s with
    | choice style' xs =>
      refine ⟨?_, fun h => (Descriptor.mem_atoms_atom.1 h ▸ le_refl _)⟩
      simp only [parts] at ih
      rw [reading_choice]
      intro hx
      obtain ⟨d, hd, hx⟩ := Descriptor.mem_atoms_of_join hx
      obtain ⟨y, hy, rfl⟩ := List.mem_map.1 hd
      have hle := (ih y hy).1 hx
      have hlt := List.sizeOf_lt_of_mem hy
      rw [choice.sizeOf_spec style' xs]
      omega
    | union xs => exact ⟨hunion xs rfl, fun h => (hunion xs rfl h).le⟩
    | _ => simp [reading, descriptor, Descriptor.atoms, noneClass]

/-- No host spelling is read as itself. -/
theorem reading_ne_of_isHost {x : Spelling} (h : x.isHost = true) : x.reading ≠ .atom x := by
  intro hx
  cases x with
  | choice style xs =>
    have hmem : choice style xs ∈ (choice style xs).reading.atoms :=
      hx ▸ Descriptor.mem_atoms_atom.2 rfl
    exact absurd ((sizeOf_choice_lt _).1 hmem) (lt_irrefl _)
  | none => simp [reading, noneClass] at hx
  | any => simp [reading] at hx
  | generic c xs => simp [reading] at hx
  | aliased b xs => simp [reading] at hx
  | bareAlias b => simp [reading] at hx
  | _ => cases h

/-- **Reading goes on exactly where a spelling leaks.** -/
theorem leaks_iff {s : Spelling} :
    s.leaks = true ↔ ∃ x, s.reading = .atom x ∧ x.reading ≠ .atom x := by
  unfold leaks
  split
  · next x hx =>
    constructor
    · exact fun h => ⟨x, hx, reading_ne_of_isHost h⟩
    · rintro ⟨y, hy, hne⟩
      obtain rfl := Descriptor.atom.inj (hx.symm.trans hy)
      by_contra h
      exact hne (plain_of_reading_eq hx (Bool.eq_false_iff.2 h)).reading_eq
  · next hx =>
    refine iff_of_false Bool.false_ne_true ?_
    rintro ⟨x, h, -⟩
    exact hx x h

/-! ## Spellings without leaks -/

theorem leaks_eq_false_of_tight {s : Spelling} (h : s.tight = true) : s.leaks = false := by
  cases s with
  | choice style xs =>
    rw [tight, Bool.and_eq_true] at h
    simpa using h.1
  | _ => simp [leaks, reading, descriptor, noneClass, isHost]

/-- What is read of a spelling without leaks, if an atom, is plain. -/
theorem plain_of_tight {s x : Spelling} (hs : s.tight = true) (h : s.reading = .atom x) :
    x.Plain := by
  have hleaks := leaks_eq_false_of_tight hs
  rw [leaks, h] at hleaks
  exact plain_of_reading_eq h hleaks

/-- **Without leaks reading is the first step to the normal form.** -/
theorem core_eq_of_tight {s : Spelling} (hs : s.tight = true) : s.core = s.reading.bind core := by
  induction s using induction with
  | step s ih =>
    cases s with
    | choice style xs =>
      simp only [parts] at ih
      rw [tight, Bool.and_eq_true, tightAll_iff] at hs
      have hatoms : ∀ x, .atom x ∈ xs.map reading → x.core = .atom x := by
        intro x hx
        obtain ⟨y, hy, hyx⟩ := List.mem_map.1 hx
        exact (plain_of_tight (hs.2 y hy) hyx).core_eq
      have hmap : xs.map core = (xs.map reading).map (Descriptor.bind core) := by
        rw [List.map_map]
        exact List.map_congr_left fun x hx => ih x hx (hs.2 x hx)
      rw [core, coreAll_eq_map, reading_choice, Descriptor.bind_join hatoms, hmap]
    | union xs => exact (bind_core_descriptor (union xs)).symm
    | _ => simp [reading, core, descriptor, noneClass]

mutual

/-- Whether no union in a spelling is written with a single member. -/
def plural : Spelling → Bool
  | choice _ xs => pluralAll xs
  | union xs => xs.length != 1 && pluralAll xs
  | _ => true

/-- Whether no union in any spelling of a list is. -/
def pluralAll : List Spelling → Bool
  | [] => true
  | x :: xs => plural x && pluralAll xs

end

theorem pluralAll_iff {xs : List Spelling} : pluralAll xs = true ↔ ∀ x ∈ xs, x.plural = true := by
  induction xs with
  | nil => simp [pluralAll]
  | cons x xs ih => simp [pluralAll, ih]

/-- If a choice adds up to one member, that is everything or plain. -/
theorem eq_of_contributions {xs : List Spelling} {d : TypeDescriptor}
    (hxs : ∀ x ∈ xs, (∀ y, x.reading = .atom y → y.Plain) ∧ ∀ e, x.reading ≠ .union [e])
    (h : (xs.map reading).flatMap Descriptor.contribution = [d]) :
    d = .top ∨ ∃ y, d = .atom y ∧ y.Plain := by
  obtain ⟨r, hr, hd⟩ := List.mem_flatMap.1 (h ▸ List.mem_singleton_self d)
  have hsub : r.contribution.Sublist [d] := by
    rw [← h, List.flatMap_def]
    exact List.sublist_flatten_of_mem (List.mem_map_of_mem hr)
  obtain ⟨x, hx, rfl⟩ := List.mem_map.1 hr
  cases hread : x.reading with
  | atom y =>
    rw [hread] at hd
    exact .inr ⟨y, List.mem_singleton.1 hd, (hxs x hx).1 y hread⟩
  | top =>
    rw [hread] at hd
    exact .inl (List.mem_singleton.1 hd)
  | bottom =>
    rw [hread] at hd
    exact absurd hd List.not_mem_nil
  | union ms =>
    rw [hread] at hd hsub
    rcases List.sublist_singleton.1 hsub with hms | hms
    · obtain rfl : ms = [] := hms
      exact absurd hd List.not_mem_nil
    · obtain rfl : ms = [d] := hms
      exact absurd hread ((hxs x hx).2 d)

/-- Without such unions nothing is read as a union of a single member, and an atom that is
read is plain. -/
theorem reading_of_plural (s : Spelling) (hs : s.plural = true) :
    (∀ x, s.reading = .atom x → x.Plain) ∧ ∀ d, s.reading ≠ .union [d] := by
  induction s using induction with
  | step s ih =>
    cases s with
    | choice style xs =>
      simp only [parts] at ih
      rw [plural, pluralAll_iff] at hs
      rw [reading_choice, Descriptor.join]
      split
      · simp
      · rcases hns : (xs.map reading).flatMap Descriptor.contribution with
          _ | ⟨d, _ | ⟨e, rest⟩⟩
        · simp [Descriptor.ofMembers]
        · rcases eq_of_contributions (fun x hx => ih x hx (hs x hx)) hns with
            rfl | ⟨y, rfl, hy⟩
          · simp [Descriptor.ofMembers]
          · simpa [Descriptor.ofMembers] using hy
        · simp [Descriptor.ofMembers]
    | union xs =>
      rw [plural, Bool.and_eq_true, bne_iff_ne] at hs
      rw [reading_union]
      refine ⟨by simp, fun d hd => hs.1 ?_⟩
      rw [← List.length_map descriptor, Descriptor.union.inj hd, List.length_singleton]
    | name t => simpa [reading, descriptor] using Plain.name t
    | cls c => simpa [reading, descriptor] using Plain.cls c
    | literal vs => simpa [reading, descriptor] using Plain.literal vs
    | number i => simpa [reading, descriptor] using Plain.number i
    | forward t => simpa [reading, descriptor] using Plain.forward t
    | none => simpa [reading, noneClass] using Plain.cls _
    | generic c xs => simpa [reading] using Plain.cls _
    | aliased b xs => simpa [reading] using Plain.cls _
    | bareAlias b => simpa [reading] using Plain.cls _
    | any => simp [reading]
    | top => simp [reading, descriptor]
    | bottom => simp [reading, descriptor]

/-- **Only a union that is written with a single member can leak.** -/
theorem tight_of_plural (s : Spelling) (hs : s.plural = true) : s.tight = true := by
  induction s using induction with
  | step s ih =>
    cases s with
    | choice style xs =>
      have hplain := (reading_of_plural _ hs).1
      simp only [parts] at ih
      rw [plural, pluralAll_iff] at hs
      rw [tight, Bool.and_eq_true, tightAll_iff]
      refine ⟨?_, fun x hx => ih x hx (hs x hx)⟩
      rw [leaks]
      split
      · next x hx => cases hplain x hx <;> rfl
      · rfl
    | union xs =>
      simp only [parts] at ih
      rw [plural, Bool.and_eq_true, pluralAll_iff] at hs
      rw [tight, tightAll_iff]
      exact fun x hx => ih x hx (hs.2 x hx)
    | _ => rfl

end Spelling

/-! ## Oracles over classes -/

section Classes

variable {declared : List (TypeDescriptor × List TypeDescriptor)}

/-- **A descriptor in which nothing leaks**, at any depth. -/
def TypeDescriptor.Tight (d : TypeDescriptor) : Prop :=
  ∀ s ∈ d.atoms, s.tight = true

/-- The members of the union that a spelling is read as, if it is one, are layered. -/
def LayeredMembers (declared : List (TypeDescriptor × List TypeDescriptor)) (s : Spelling) :
    Prop :=
  ∀ ms, s.reading = .union ms → ∀ m ∈ ms, (classOracle declared).Layered m

/-- What a spelling adds to a choice is layered. -/
theorem LayeredMembers.contribution {s : Spelling} (h : LayeredMembers declared s)
    (hs : s.tight = true) {m : TypeDescriptor} (hm : m ∈ s.reading.contribution) :
    (classOracle declared).Layered m := by
  cases hread : s.reading with
  | atom x =>
    rw [hread] at hm
    obtain rfl := List.mem_singleton.1 hm
    have hx := Spelling.plain_of_tight hs hread
    exact Oracle.layered_atom hx.reading_eq hx.core_eq
  | top =>
    rw [hread] at hm
    obtain rfl := List.mem_singleton.1 hm
    exact Oracle.layered_top
  | bottom =>
    rw [hread] at hm
    exact absurd hm List.not_mem_nil
  | union ms =>
    rw [hread] at hm
    exact h ms hread m hm

/-- A spelling without leaks is layered if what it is read as is. -/
theorem LayeredMembers.atom {s : Spelling} (h : LayeredMembers declared s)
    (hs : s.tight = true) : (classOracle declared).Layered (.atom s) := by
  have hform : (classOracle declared).normalForm (.atom s) = s.reading.bind Spelling.core :=
    (Descriptor.bind_atom s).trans (Spelling.core_eq_of_tight hs)
  cases hread : s.reading with
  | atom x =>
    have hx := Spelling.plain_of_tight hs hread
    rw [hread, Descriptor.bind_atom, hx.core_eq] at hform
    exact .atom hread hform hx.reading_eq hx.core_eq
  | top =>
    rw [hread, Descriptor.bind_top] at hform
    exact .top hread hform
  | bottom =>
    rw [hread, Descriptor.bind_bottom] at hform
    exact .bottom hread hform
  | union ms =>
    rw [hread, Descriptor.bind_union] at hform
    exact .union hread hform (h ms hread)

/-- So it is as a part of another spelling. -/
theorem LayeredMembers.descriptor {s : Spelling} (h : LayeredMembers declared s)
    (hs : s.tight = true) : (classOracle declared).Layered s.descriptor := by
  cases s with
  | top => exact Oracle.layered_top
  | bottom => exact Oracle.layered_bottom
  | union xs =>
    rw [Spelling.descriptor, Spelling.descriptors_eq_map]
    exact Oracle.layered_union (h _ (Spelling.reading_union xs))
  | _ => exact h.atom hs

/-- **The levels of a spelling without leaks lead to its normal form.** -/
theorem layeredMembers_of_tight (s : Spelling) (hs : s.tight = true) :
    LayeredMembers declared s := by
  induction s using Spelling.induction with
  | step s ih =>
    intro ms hread
    cases s with
    | choice style xs =>
      simp only [Spelling.parts] at ih
      rw [Spelling.tight, Bool.and_eq_true, Spelling.tightAll_iff] at hs
      rw [Spelling.reading_choice] at hread
      have hadded : ∀ m ∈ (xs.map Spelling.reading).flatMap Descriptor.contribution,
          (classOracle declared).Layered m := by
        intro m hm
        obtain ⟨d, hd, hm⟩ := List.mem_flatMap.1 hm
        obtain ⟨y, hy, rfl⟩ := List.mem_map.1 hd
        exact (ih y hy (hs.2 y hy)).contribution (hs.2 y hy) hm
      rcases Descriptor.eq_of_join_eq_union hread with rfl | hmem
      · exact hadded
      · -- the only contribution is a union itself
        exact Oracle.layered_union_iff.1 (hadded _ hmem)
    | union xs =>
      simp only [Spelling.parts] at ih
      rw [Spelling.tight, Spelling.tightAll_iff] at hs
      rw [Spelling.reading_union] at hread
      obtain rfl := Descriptor.union.inj hread
      intro m hm
      obtain ⟨y, hy, rfl⟩ := List.mem_map.1 hm
      exact (ih y hy (hs y hy)).descriptor (hs y hy)
    | _ => simp [Spelling.reading, Spelling.descriptor] at hread

/-- **A descriptor in which nothing leaks is layered.** -/
theorem TypeDescriptor.Tight.layered {d : TypeDescriptor} (h : d.Tight) :
    (classOracle declared).Layered d := by
  induction d using Descriptor.induction with
  | atom s =>
    have hs := h s (Descriptor.mem_atoms_atom.2 rfl)
    exact (layeredMembers_of_tight s hs).atom hs
  | top => exact Oracle.layered_top
  | bottom => exact Oracle.layered_bottom
  | union ms ih =>
    exact Oracle.layered_union fun m hm =>
      ih m hm fun s hs => h s (Descriptor.mem_atoms_union.2 ⟨m, hm, hs⟩)

/-- The normal form of a descriptor is made of plain atoms. -/
theorem plain_of_mem_classOracle_normalForm {d : TypeDescriptor} {x : Spelling}
    (h : x ∈ ((classOracle declared).normalForm d).atoms) : x.Plain := by
  obtain ⟨s, -, hx⟩ := (Descriptor.mem_atoms_bind d).1 h
  exact Spelling.plain_of_mem_core s hx

/-- **A normal form is its own.** -/
theorem classOracle_normalForm_normalForm (d : TypeDescriptor) :
    (classOracle declared).normalForm ((classOracle declared).normalForm d) =
      (classOracle declared).normalForm d :=
  Descriptor.bind_eq_self fun _ hx => (plain_of_mem_classOracle_normalForm hx).core_eq

/-- A normal form does not leak. -/
theorem tight_normalForm (d : TypeDescriptor) :
    TypeDescriptor.Tight ((classOracle declared).normalForm d) := by
  intro s hs
  cases plain_of_mem_classOracle_normalForm hs <;> rfl

/-- Whether the outermost spelling of a descriptor leaks. -/
def TypeDescriptor.leaks : TypeDescriptor → Bool
  | .atom s => s.leaks
  | _ => false

/-- **Reading a descriptor again changes it exactly where it leaks.** -/
theorem normalize_eq_iff {d : TypeDescriptor} :
    (classOracle declared).normalize ((classOracle declared).normalize d) =
      (classOracle declared).normalize d ↔ d.leaks = false := by
  cases d with
  | atom s =>
    show (classOracle declared).normalize s.reading = s.reading ↔ s.leaks = false
    rw [← Bool.not_eq_true, Spelling.leaks_iff]
    cases hread : s.reading with
    | atom x =>
      show x.reading = .atom x ↔ _
      constructor
      · rintro h ⟨y, hy, hne⟩
        obtain rfl := Descriptor.atom.inj hy
        exact hne h
      · intro h
        by_contra hne
        exact h ⟨x, rfl, hne⟩
    | top => exact iff_of_true rfl (by simp)
    | bottom => exact iff_of_true rfl (by simp)
    | union ms => exact iff_of_true rfl (by simp)
  | top => exact iff_of_true rfl rfl
  | bottom => exact iff_of_true rfl rfl
  | union ms => exact iff_of_true rfl rfl

/-- **Spellings are interchangeable unless one leaks.** For every oracle over classes whose
sealed declarations are acyclic and do not leak: a normal form is its own and holds no host
spelling; reading a descriptor twice is reading it once exactly where it does not leak; and
descriptors in which nothing leaks are interchangeable with their normal forms – the
relation between any two of them, asked level by level, has an answer that is the same for
the normal forms, and so have universality and the runtime test of each. -/
theorem interchangeable_of_tight (declared : List (TypeDescriptor × List TypeDescriptor))
    (hacyclic : (classOracle declared).Acyclic)
    (hparts : ∀ x, ∀ p ∈ (classOracle declared).expand (.atom x), TypeDescriptor.Tight p) :
    (∀ d, (classOracle declared).normalForm ((classOracle declared).normalForm d) =
      (classOracle declared).normalForm d) ∧
    (∀ d, ∀ x ∈ ((classOracle declared).normalForm d).atoms, x.Plain) ∧
    (∀ d, (classOracle declared).normalize ((classOracle declared).normalize d) =
      (classOracle declared).normalize d ↔ TypeDescriptor.leaks d = false) ∧
    ∀ a b, TypeDescriptor.Tight a → TypeDescriptor.Tight b →
      (classOracle declared).Interchangeable a b := by
  refine ⟨classOracle_normalForm_normalForm, fun _ _ => plain_of_mem_classOracle_normalForm,
    fun _ => normalize_eq_iff, fun a b ha hb => ?_⟩
  exact ha.layered.interchangeable hacyclic (fun x p hp => (hparts x p hp).layered)
    (fun d => (tight_normalForm d).layered) classOracle_normalForm_normalForm hb.layered

/-- The numbers, declared to be made up of two classes, one of them optional. -/
def sealedNumbers : List (TypeDescriptor × List TypeDescriptor) :=
  [(StandardClass.number.descriptor,
    [StandardClass.int.descriptor, .atom (.choice .bar [.cls (.standard .float), .none])])]

theorem sealedNumbers_expand (x : Spelling) :
    (classOracle sealedNumbers).expand (.atom x) = [] ∨
      x = .cls (.standard .number) ∧ (classOracle sealedNumbers).expand (.atom x) =
        [StandardClass.int.descriptor, .atom (.choice .bar [.cls (.standard .float), .none])] := by
  by_cases hx : (Descriptor.atom x == StandardClass.number.descriptor) = true
  · have heq : x = .cls (.standard .number) := by
      rw [Descriptor.atom_beq_atom] at hx
      exact Spelling.same_cls_iff.1 (Spelling.same_symm _ _ hx)
    exact .inr ⟨heq, by simp [Oracle.expand, classOracle, sealedNumbers, hx]⟩
  · exact .inl (by simp [Oracle.expand, classOracle, sealedNumbers, hx])

/-- Nothing expands but the numbers, and not into themselves. -/
theorem sealedNumbers_acyclic : (classOracle sealedNumbers).Acyclic := by
  refine Oracle.not_transGen_expandsBy fun x y => ?_
  rintro ⟨p, hp, hy⟩
  rcases sealedNumbers_expand y with hnone | ⟨rfl, -⟩
  · exact hnone
  · rcases sealedNumbers_expand x with hnone | ⟨-, hparts⟩
    · rw [hnone] at hp
      exact absurd hp List.not_mem_nil
    · rw [hparts] at hp
      rcases List.mem_cons.1 hp with rfl | hp
      · cases Descriptor.mem_atoms_atom.1 hy
      · obtain rfl := List.mem_singleton.1 hp
        simp [Oracle.normalForm, classOracle, Spelling.core, Spelling.coreAll, Descriptor.join,
          Descriptor.isTop, Descriptor.contribution, Descriptor.ofMembers,
          Spelling.noneClass] at hy

theorem sealedNumbers_tight (x : Spelling) :
    ∀ p ∈ (classOracle sealedNumbers).expand (.atom x), TypeDescriptor.Tight p := by
  intro p hp s hs
  rcases sealedNumbers_expand x with hnone | ⟨-, hparts⟩
  · rw [hnone] at hp
    exact absurd hp List.not_mem_nil
  · rw [hparts] at hp
    rcases List.mem_cons.1 hp with rfl | hp
    · obtain rfl := Descriptor.mem_atoms_atom.1 hs
      rfl
    · obtain rfl := List.mem_singleton.1 hp
      obtain rfl := Descriptor.mem_atoms_atom.1 hs
      rfl

/-- An optional class is below a union that spells the same in another way. -/
theorem interchangeable_of_tight_sealedNumbers :
    (classOracle sealedNumbers).Acyclic ∧
    (∀ x, ∀ p ∈ (classOracle sealedNumbers).expand (.atom x), TypeDescriptor.Tight p) ∧
    (classOracle sealedNumbers).Interchangeable StandardClass.number.descriptor
      (.union [.atom .none, .atom (.choice .bar [.cls (.standard .int), .cls (.standard .float)])]) := by
  refine ⟨sealedNumbers_acyclic, sealedNumbers_tight, ?_⟩
  refine (interchangeable_of_tight sealedNumbers sealedNumbers_acyclic
    sealedNumbers_tight).2.2.2 _ _ ?_ ?_
  · intro s hs
    obtain rfl := Descriptor.mem_atoms_atom.1 hs
    rfl
  · intro s hs
    obtain ⟨m, hm, hs⟩ := Descriptor.mem_atoms_union.1 hs
    rcases List.mem_cons.1 hm with rfl | hm
    · obtain rfl := Descriptor.mem_atoms_atom.1 hs
      rfl
    · obtain rfl := List.mem_singleton.1 hm
      obtain rfl := Descriptor.mem_atoms_atom.1 hs
      rfl

/-- **A choice that leaks**: the only alternative that is not empty is a union of one member. -/
def leaking : TypeDescriptor :=
  .atom (.choice .subscript
    [.union [.choice .bar [.cls (.standard .int), .cls (.standard .str)]], .bottom])

/-- What leaked is a foreign atom at every depth: it holds no integer and has no test, while
the normal form holds all of them. -/
theorem subtypeWithin_leaking (n : Nat) :
    leaking.leaks = true ∧
    defaultOracle.normalize leaking =
      .atom (.choice .bar [.cls (.standard .int), .cls (.standard .str)]) ∧
    defaultOracle.normalForm leaking =
      .union [StandardClass.int.descriptor, StandardClass.str.descriptor] ∧
    defaultOracle.subtypeWithin (n + 2) StandardClass.int.descriptor leaking = .ok false ∧
    defaultOracle.subtypeWithin (n + 2) StandardClass.int.descriptor
      (defaultOracle.normalForm leaking) = .ok true ∧
    defaultOracle.testWithin (n + 2) leaking = .error (.untestable
      (.notAClass (.choice .bar [.cls (.standard .int), .cls (.standard .str)]))) ∧
    defaultOracle.testWithin (n + 2) (defaultOracle.normalForm leaking) =
      .ok (.instanceOfAny [.standard .int, .standard .str]) := by
  refine ⟨by rfl, by rfl, by rfl, ?_, by rfl, by rfl, by rfl⟩
  have hread : defaultOracle.normalize leaking =
      .atom (.choice .bar [.cls (.standard .int), .cls (.standard .str)]) := by rfl
  rw [Oracle.subtypeWithin, Oracle.subtypeLevel_atoms rfl hread]
  simp [defaultOracle, classOracle, Spelling.isObject, Spelling.isSubclass, BEq.beq,
    Spelling.same, Oracle.partsWithin, Oracle.expand]

end Classes

end Narrowing
