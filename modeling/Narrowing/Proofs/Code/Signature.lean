import Mathlib.Data.List.Nodup
import Narrowing.Code.Signature
/-!
# Parameters by other names

When the parameters of a signature get other names, a call is bound to it as before, as
long as no argument comes by the name of a parameter whose name is another one now. A
parameter that only a position fills has no such arguments, so its name does not matter
(`rename_bind?`). The name of any other parameter does: there is a call that fits the
signature with the one name, by that name, and does not fit it in the same way with the
other (`exists_call_of_renamed`).

Whatever has been filled so far has the new names as well, so what is shown of each step of
binding is that it goes along with renaming.
-/

namespace Narrowing.Code

variable {α : Type}

/-- The values of parameters under their new names. -/
abbrev renamed (g : String → String) (bs : List (String × α)) : List (String × α) :=
  bs.map fun b => (g b.1, b.2)

/-- A call that is bound to parameters by other names. -/
def BoundCall.rename (g : String → String) (c : BoundCall α) : BoundCall α :=
  { c with named := renamed g c.named }

/-- The new names of some names are distinct. -/
abbrev InjOn (g : String → String) (names : List String) : Prop :=
  ∀ ⦃a⦄, a ∈ names → ∀ ⦃b⦄, b ∈ names → g a = g b → a = b

/-- What has distinct new names is found by them. -/
theorem lookup_renamed {g : String → String} {names : List String} {bs : List (String × α)}
    (hg : InjOn g names) (hbs : ∀ b ∈ bs, b.1 ∈ names) {name : String} (hname : name ∈ names) :
    (renamed g bs).lookup (g name) = bs.lookup name := by
  induction bs with
  | nil => rfl
  | cons b bs ih =>
    obtain ⟨hb, hrest⟩ := List.forall_mem_cons.1 hbs
    obtain ⟨other, v⟩ := b
    have hsame : (g name == g other) = (name == other) := by
      rw [Bool.eq_iff_iff, beq_iff_eq, beq_iff_eq]
      exact ⟨hg hname hb, congrArg g⟩
    rw [renamed, List.map_cons, List.lookup_cons, List.lookup_cons, hsame]
    cases name == other with
    | true => rfl
    | false => exact ih hrest

namespace Signature

variable {s : Signature} {g : String → String} {filled left keywords : List (String × α)}

/-- The parameters that an argument can be given to by name. -/
abbrev byName (s : Signature) : List String := s.ordinary ++ s.keywordOnly

/-- The parameters that take one argument. -/
abbrev single (s : Signature) : List String := s.positional ++ s.keywordOnly

/-! ## Steps of binding -/

theorem byName_subset_single : s.byName ⊆ s.single := by
  intro name hname
  rcases List.mem_append.1 hname with h | h
  · exact List.mem_append_left _ (List.mem_append_right _ h)
  · exact List.mem_append_right _ h

theorem positional_rename : (s.rename g).positional = s.positional.map g := by
  simp [positional, rename]

theorem single_rename : (s.rename g).single = s.single.map g := by
  simp [single, positional, rename]

theorem byName_rename (hfixed : ∀ name ∈ s.byName, g name = name) :
    (s.rename g).byName = s.byName := by
  have hmap : (s.rename g).byName = s.byName.map g := by simp [byName, rename]
  rw [hmap, List.map_congr_left hfixed, List.map_id']

/-- Only parameters are filled. -/
theorem addKeywords_mem {filled' : List (String × α)}
    (h : s.addKeywords filled keywords = some (filled', left))
    (hfilled : ∀ b ∈ filled, b.1 ∈ s.single) : ∀ b ∈ filled', b.1 ∈ s.single := by
  induction keywords generalizing filled filled' left with
  | nil =>
    obtain ⟨rfl, -⟩ := Prod.mk.inj (Option.some.inj h)
    exact hfilled
  | cons k keywords ih =>
    obtain ⟨name, v⟩ := k
    rw [addKeywords] at h
    split at h
    · next hname =>
      split at h
      · cases h
      · refine ih h (List.forall_mem_append.2 ⟨hfilled, List.forall_mem_singleton.2 ?_⟩)
        exact byName_subset_single (List.contains_iff_mem.1 hname)
    · split at h
      · obtain ⟨⟨filled₁, left₁⟩, hrest, heq⟩ := Option.map_eq_some_iff.1 h
        obtain ⟨rfl, -⟩ := Prod.mk.inj heq
        exact ih hrest hfilled
      · cases h

/-- **Keyword arguments** are added to the parameters by other names alike, if those that they
can be given to have kept theirs. -/
theorem rename_addKeywords (hg : InjOn g s.single) (hfixed : ∀ name ∈ s.byName, g name = name)
    (hfilled : ∀ b ∈ filled, b.1 ∈ s.single) (keywords : List (String × α)) :
    (s.rename g).addKeywords (renamed g filled) keywords =
      (s.addKeywords filled keywords).map fun (filled, left) => (renamed g filled, left) := by
  induction keywords generalizing filled with
  | nil => rfl
  | cons k keywords ih =>
    obtain ⟨name, v⟩ := k
    have hrest : (s.rename g).keywordRest.isSome = s.keywordRest.isSome := Option.isSome_map
    rw [addKeywords, addKeywords, hrest, show (s.rename g).ordinary ++ (s.rename g).keywordOnly =
      s.byName from byName_rename hfixed]
    by_cases hname : name ∈ s.byName
    · have hsame : (renamed g filled).lookup name = filled.lookup name := by
        have hlookup := lookup_renamed hg hfilled (byName_subset_single hname)
        rwa [hfixed name hname] at hlookup
      have hcontains : s.byName.contains name = true := List.contains_iff_mem.2 hname
      rw [if_pos hcontains, if_pos hcontains, hsame]
      split
      · rfl
      · have hmem : ∀ b ∈ filled ++ [(name, v)], b.1 ∈ s.single := List.forall_mem_append.2
          ⟨hfilled, List.forall_mem_singleton.2 (byName_subset_single hname)⟩
        have hmore := ih hmem
        rw [renamed, List.map_append, List.map_singleton, hfixed name hname] at hmore
        exact hmore
    · have hcontains : ¬ s.byName.contains name = true := fun h => hname (List.contains_iff_mem.1 h)
      rw [if_neg hcontains, if_neg hcontains, ih hfilled]
      cases s.addKeywords filled keywords <;> split <;> rfl

/-- What is missing comes from defaults by the new names. -/
theorem complete_renamed {defaults defaults' : List (String × α)} {names : List String}
    (hfilled : ∀ name ∈ names, (renamed g filled).lookup (g name) = filled.lookup name)
    (hdefaults : ∀ name ∈ names, defaults'.lookup (g name) = defaults.lookup name) :
    complete (renamed g filled) defaults' (names.map g) =
      (complete filled defaults names).map (renamed g) := by
  induction names with
  | nil => rfl
  | cons name names ih =>
    obtain ⟨hname, hnames⟩ := List.forall_mem_cons.1 hfilled
    obtain ⟨hdefault, hothers⟩ := List.forall_mem_cons.1 hdefaults
    rw [List.map_cons, complete, complete, hname, hdefault, ih hnames hothers]
    cases (filled.lookup name).or (defaults.lookup name) with
    | none => rfl
    | some v => cases complete filled defaults names <;> rfl

/-- **Defaults** belong to the same parameters by other names, if keyword defaults are those of
parameters that only a keyword fills. -/
theorem lookup_defaults (defaults : List α) {keywordDefaults : List (String × α)}
    (hdistinct : (s.single.map g).Nodup) (hfixed : ∀ name ∈ s.byName, g name = name)
    (hkeyword : ∀ b ∈ keywordDefaults, b.1 ∈ s.keywordOnly) {name : String}
    (hname : name ∈ s.single) :
    ((s.rename g).positionalDefaults defaults ++ keywordDefaults).lookup (g name) =
      (s.positionalDefaults defaults ++ keywordDefaults).lookup name := by
  have hkept : renamed g keywordDefaults = keywordDefaults := by
    have hsame : ∀ b ∈ keywordDefaults, (g b.1, b.2) = b := fun b hb =>
      Prod.ext (hfixed _ (List.mem_append_right _ (hkeyword b hb))) rfl
    rw [renamed, List.map_congr_left hsame, List.map_id']
  have hpositional : (s.rename g).positionalDefaults defaults =
      renamed g (s.positionalDefaults defaults) := by
    unfold positionalDefaults
    rw [positional_rename, List.length_map, ← List.map_drop, List.zip_map_left]
    rfl
  have hmem : ∀ b ∈ s.positionalDefaults defaults ++ keywordDefaults, b.1 ∈ s.single := by
    intro b hb
    rcases List.mem_append.1 hb with hb | hb
    · exact List.mem_append_left _ (List.mem_of_mem_drop (List.of_mem_zip hb).1)
    · exact List.mem_append_right _ (hkeyword b hb)
  have hlookup := lookup_renamed (List.inj_on_of_nodup_map hdistinct) hmem hname
  rwa [renamed, List.map_append, ← renamed, ← renamed, hkept, ← hpositional] at hlookup

/-- **A call is bound by other names alike**, if parameters that arguments can be given to by
name have kept theirs. -/
theorem rename_bind? {defaults args : List α} {keywordDefaults : List (String × α)}
    (hdistinct : (s.single.map g).Nodup) (hfixed : ∀ name ∈ s.byName, g name = name)
    (hkeyword : ∀ b ∈ keywordDefaults, b.1 ∈ s.keywordOnly) (keywords : List (String × α)) :
    (s.rename g).bind? defaults keywordDefaults args keywords =
      (s.bind? defaults keywordDefaults args keywords).map (BoundCall.rename g) := by
  have hg : InjOn g s.single := List.inj_on_of_nodup_map hdistinct
  have hfilled : ∀ b ∈ s.positional.zip args, b.1 ∈ s.single := fun b hb =>
    List.mem_append_left _ (List.of_mem_zip hb).1
  have hzip : (s.positional.map g).zip args = renamed g (s.positional.zip args) :=
    List.zip_map_left ..
  have hrest : (s.rename g).rest.isNone = s.rest.isNone := Option.isNone_map
  have hadd := rename_addKeywords hg hfixed hfilled keywords
  rw [← hzip, ← positional_rename] at hadd
  unfold bind?
  rw [show (s.rename g).positional ++ (s.rename g).keywordOnly = s.single.map g from single_rename,
    hadd, hrest, positional_rename, List.length_map]
  dsimp only
  split
  · rfl
  · cases hadded : s.addKeywords (s.positional.zip args) keywords with
    | none => rfl
    | some added =>
      obtain ⟨filled, left⟩ := added
      have hmem := addKeywords_mem hadded hfilled
      have hlookup : ∀ name ∈ s.single, (renamed g filled).lookup (g name) = filled.lookup name :=
        fun name hname => lookup_renamed hg hmem hname
      have hcomplete := complete_renamed hlookup fun name hname =>
        lookup_defaults defaults hdistinct hfixed hkeyword hname
      show (complete (renamed g filled) _ (s.single.map g)).bind _ = _
      rw [hcomplete]
      show _ = ((complete filled _ s.single).bind _).map _
      cases complete filled (s.positionalDefaults defaults ++ keywordDefaults) s.single <;> rfl

/-! ## A call by the names -/

/-- Arguments for all parameters that have not been filled are taken. -/
theorem addKeywords_of_fresh (hnames : ∀ b ∈ keywords, b.1 ∈ s.byName)
    (hfresh : (filled.map Prod.fst ++ keywords.map Prod.fst).Nodup) :
    s.addKeywords filled keywords = some (filled ++ keywords, []) := by
  induction keywords generalizing filled with
  | nil => rw [addKeywords, List.append_nil]
  | cons k keywords ih =>
    obtain ⟨name, v⟩ := k
    obtain ⟨hname, hothers⟩ := List.forall_mem_cons.1 hnames
    have hnew : filled.lookup name = none := by
      refine List.lookup_eq_none_iff.2 fun b hb => ?_
      have hne := (List.nodup_append.1 hfresh).2.2 b.1 (List.mem_map_of_mem hb) name
        List.mem_cons_self
      simpa using hne.symm
    rw [addKeywords, if_pos (List.contains_iff_mem.2 hname), hnew, if_neg (by simp),
      ih hothers (by simpa using hfresh), List.append_assoc, List.singleton_append]

/-- An argument by a name that none of the parameters has is left over, if the call fits. -/
theorem left_of_foreign {filled' : List (String × α)} {b : String × α}
    (h : s.addKeywords filled keywords = some (filled', left)) (hb : b ∈ keywords)
    (hforeign : b.1 ∉ s.byName) : left ≠ [] := by
  induction keywords generalizing filled filled' left with
  | nil => cases hb
  | cons k keywords ih =>
    obtain ⟨name, v⟩ := k
    rw [addKeywords] at h
    split at h
    · next hname =>
      split at h
      · cases h
      · refine ih h ((List.mem_cons.1 hb).resolve_left ?_)
        rintro rfl
        exact hforeign (List.contains_iff_mem.1 hname)
    · split at h
      · obtain ⟨⟨filled₁, left₁⟩, hrest, heq⟩ := Option.map_eq_some_iff.1 h
        obtain ⟨-, rfl⟩ := Prod.mk.inj heq
        exact List.cons_ne_nil _ _
      · cases h

theorem complete_isSome {defaults : List (String × α)} {names : List String}
    (h : ∀ name ∈ names, (filled.lookup name).isSome) :
    (complete filled defaults names).isSome := by
  induction names with
  | nil => rfl
  | cons name names ih =>
    obtain ⟨hname, hnames⟩ := List.forall_mem_cons.1 h
    obtain ⟨v, hv⟩ := Option.isSome_iff_exists.1 hname
    obtain ⟨bs, hbs⟩ := Option.isSome_iff_exists.1 (ih hnames)
    rw [complete, hv, hbs]
    rfl

theorem zip_map_const (names more : List String) (v : α) :
    (names ++ more).zip (names.map fun _ => v) = names.map fun name => (name, v) := by
  induction names with
  | nil => rw [List.nil_append, List.map_nil, List.zip_nil_right, List.map_nil]
  | cons name names ih =>
    rw [List.cons_append, List.map_cons, List.zip_cons_cons, ih, List.map_cons]

/-- **A call by all names that can be used**: it gives a value to each parameter, by position
where the parameter has no other way. -/
theorem bind?_byName (defaults : List α) (keywordDefaults : List (String × α))
    (hdistinct : s.single.Nodup) (v : α) :
    ∃ call, s.bind? defaults keywordDefaults (s.positionalOnly.map fun _ => v)
      (s.byName.map fun name => (name, v)) = some call ∧ call.keywords = [] := by
  let given := s.single.map fun name => (name, v)
  have hextra : (s.positionalOnly.map fun _ => v).drop s.positional.length = [] :=
    List.drop_eq_nil_of_le (by simp [positional])
  have hadd : s.addKeywords (s.positional.zip (s.positionalOnly.map fun _ => v))
      (s.byName.map fun name => (name, v)) = some (given, []) := by
    rw [positional, zip_map_const, addKeywords_of_fresh]
    · simp [given, positional]
    · exact List.forall_mem_map.2 fun name hname => hname
    · simpa [Function.comp_def, single, positional] using hdistinct
  have hcomplete : (complete given (s.positionalDefaults defaults ++ keywordDefaults)
      s.single).isSome := by
    refine complete_isSome fun name hname => ?_
    refine List.lookup_isSome_iff.2 ⟨(name, v), List.mem_map_of_mem hname, ?_⟩
    exact beq_self_eq_true name
  obtain ⟨named, hnamed⟩ := Option.isSome_iff_exists.1 hcomplete
  refine ⟨⟨named, [], []⟩, ?_, rfl⟩
  unfold bind?
  rw [hextra, hadd]
  show (complete given _ s.single).bind _ = _
  rw [hnamed]
  rfl

/-- **The names matter**: where an argument can be given to a parameter by name and the parameter
has another name now, there is a call that fits the signature by that name, with nothing left
over, and by the old one has something left over or does not fit. -/
theorem exists_call_of_renamed (defaults : List α) (keywordDefaults : List (String × α))
    (hdistinct : (s.single.map g).Nodup) (hagain : ∀ name, g (g name) = g name) (v : α)
    {name : String} (hname : name ∈ s.byName) (hne : g name ≠ name) :
    ∃ args keywords call, (s.rename g).bind? defaults keywordDefaults args keywords = some call ∧
      call.keywords = [] ∧
      ∀ call', s.bind? defaults keywordDefaults args keywords = some call' →
        call'.keywords ≠ [] := by
  -- the new name is a name of the signature no more, since renaming again would not change it
  have hforeign : g name ∉ s.byName := fun hmem =>
    hne (List.inj_on_of_nodup_map hdistinct (byName_subset_single hmem) (byName_subset_single hname)
      (hagain name))
  obtain ⟨call, hcall, hnothing⟩ := bind?_byName (s := s.rename g) defaults keywordDefaults
    (single_rename ▸ hdistinct) v
  refine ⟨_, _, call, hcall, hnothing, fun call' hcall' => ?_⟩
  have hgiven : (g name, v) ∈ (s.rename g).byName.map fun name => (name, v) := by
    refine List.mem_map_of_mem (f := fun name => (name, v)) ?_
    simpa [byName, rename] using List.mem_map_of_mem (f := g) hname
  unfold bind? at hcall'
  dsimp only at hcall'
  split at hcall'
  · cases hcall'
  · obtain ⟨⟨filled, left⟩, hadd, hcall'⟩ := Option.bind_eq_some_iff.1 hcall'
    obtain ⟨named, -, hcall'⟩ := Option.bind_eq_some_iff.1 hcall'
    obtain rfl := Option.some.inj hcall'
    exact left_of_foreign hadd hgiven hforeign

end Signature

end Narrowing.Code
