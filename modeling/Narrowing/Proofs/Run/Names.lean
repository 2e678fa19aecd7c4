import Narrowing.Proofs.Code.Reads
import Narrowing.Proofs.Run.Function
/-!
# Names where code runs

Running code looks names up in a chain of frames. The frames of the functions and classes
around it **show** the scopes of the text (`Frame.Shows`): each holds the names that belong
to its scope and those that the scope declares global. So where a name has its place is
settled by what the scopes make of it (`Store.place_of_shows`).

A call of a function runs where its own scope is visible before those around the place where
the function was made (`Run.enter_standsIn`). So code of two texts finds a name in the module
in the one if it does so in the other, as long as the scopes of the one have at most what those
of the other have (`Site.StandsIn.place_of_atMost`).
-/

namespace Narrowing

open Code Run

/-! ## Frames and scopes -/

/-- **A frame that shows what a scope makes of a name.** -/
structure Frame.Shows (name : String) (S : Scope) (f : Frame) : Prop where
  isGlobal : name ∈ f.globals ↔ name ∈ Mention.globals S.mentions
  isOwn : f.has name ↔ name ∈ S.given ∨ name ∈ Mention.locals S.mentions

/-- Frames that show some scopes. -/
abbrev Store.Shows (σ : Store) (name : String) (Ss : List Scope) (rs : List Ref) : Prop :=
  List.Forall₂ (fun S r => ∃ f, σ.frame? r = some f ∧ f.Shows name S) Ss rs

variable {name : String} {σ τ : Store} {S : Scope} {Ss : List Scope} {rs around : List Ref}

/-- **Where a name has its place** is settled by the scopes, or by the frames around. -/
theorem Store.place_of_shows (h : σ.Shows name Ss rs) (around : List Ref) :
    match resolve name Ss with
    | .module => σ.place name (rs ++ around) = .module
    | .scope => ∃ r ∈ rs, σ.place name (rs ++ around) = .frame r
    | .around => σ.place name (rs ++ around) = σ.place name around := by
  induction h with
  | nil => rfl
  | @cons S r Ss rs hS _ ih =>
    obtain ⟨f, hf, hglobal, hown⟩ := hS
    rw [List.cons_append, Store.place, hf]
    by_cases hg : name ∈ Mention.globals S.mentions
    · have hg' := hglobal.2 hg
      simp [resolve, hg, hg']
    · have hg' : name ∉ f.globals := fun h => hg (hglobal.1 h)
      by_cases ho : name ∈ S.given ∨ name ∈ Mention.locals S.mentions
      · have ho' := hown.2 ho
        simp [resolve, hg, hg', ho, ho']
      · have ho' := Bool.eq_false_iff.2 fun h => ho (hown.1 h)
        rw [resolve, if_neg (by simpa using hg), if_neg (by simpa using ho)]
        simp only [List.contains_eq_mem, hg', ho', decide_false]
        revert ih
        cases resolve name Ss with
        | scope =>
          rintro ⟨r', hr', h⟩
          exact ⟨r', List.mem_cons_of_mem r hr', h⟩
        | _ => exact id

/-- A name of the module is looked up in the module. -/
theorem Run.readName_of_module {c : Site} (h : σ.place name c.chain = .module) :
    readName c name σ = readGlobal c name σ := by
  unfold readName
  rw [get_bind, h]

/-- What is new shows nothing less. -/
theorem Store.Shows.alloc (h : σ.Shows name Ss rs) (c : Cell) : (σ.alloc c).2.Shows name Ss rs := by
  refine h.imp fun S r ⟨f, hf, hshows⟩ => ⟨f, ?_, hshows⟩
  rw [Store.frame?_eq_some] at hf ⊢
  exact Store.get?_alloc_of_some hf c

/-! ## Where code stands -/

/-- **A site in scopes**: its chain shows those that are visible there and goes on with the
frames around, and the chain of functions made there shows what they see of them. -/
structure Site.StandsIn (σ : Store) (name : String) (Ss : List Scope) (around : List Ref)
    (c : Site) : Prop where
  chain : ∃ rs, c.chain = rs ++ around ∧ σ.Shows name (visible Ss) rs
  inner : ∃ rs, c.inner = rs ++ around ∧ σ.Shows name (Ss.map Scope.inside) rs

/-- Where a name has its place for code that stands in some scopes. -/
theorem Site.StandsIn.place_eq {c : Site} (h : c.StandsIn σ name Ss around)
    (hne : resolve name (visible Ss) ≠ .scope) :
    σ.place name c.chain =
      if resolve name (visible Ss) = .around then σ.place name around else .module := by
  obtain ⟨rs, hrs, hshows⟩ := h.chain
  have hplace := Store.place_of_shows hshows around
  rw [← hrs] at hplace
  cases hresolve : resolve name (visible Ss) with
  | scope => exact absurd hresolve hne
  | _ =>
    rw [hresolve] at hplace
    exact hplace

/-- **A name of the module** where code stands in some scopes is the module's, or left to what
is around, where code stands in scopes that have at most what they have. -/
theorem Site.StandsIn.place_of_atMost {here there : Site} {Ss' : List Scope} {around' : List Ref}
    (hhere : here.StandsIn σ name Ss around) (hmodule : σ.place name here.chain = .module)
    (hthere : there.StandsIn τ name Ss' around') (h : List.Forall₂ (Scope.AtMost name) Ss' Ss) :
    τ.place name there.chain =
      if resolve name (visible Ss') = .around then τ.place name around' else .module := by
  obtain ⟨rs, hrs, hshows⟩ := hhere.chain
  have hplace := Store.place_of_shows hshows around
  rw [← hrs, hmodule] at hplace
  have hne : resolve name (visible Ss) ≠ .scope := by
    intro hscope
    rw [hscope] at hplace
    obtain ⟨r, -, hr⟩ := hplace
    cases hr
  rw [← resolve_eq_of_atMost (visible_atMost h) hne] at hne
  exact hthere.place_eq hne

/-- **The scope of a function** made at a site, as which a comprehension runs, too. -/
def Site.scopeOf (c : Site) (n : Node) : Scope :=
  ⟨.function false, (Signature.ofFunction n).variableNames.map c.mangled,
    c.mangledMentions n.functionMentions⟩

namespace Site

variable {c : Site}

/-- Outside of a class names stand for themselves. -/
theorem scopeOf_of_outside (hc : c.owner = none) (n : Node) :
    c.scopeOf n = ⟨.function false, (Signature.ofFunction n).variableNames, n.functionMentions⟩ := by
  have hmangled : c.mangled = id := by
    funext id
    rw [mangled, hc]
    rfl
  rw [scopeOf, mangledMentions, hmangled, hc, List.map_id]

theorem mangledMentions_eq (c : Site) (ms : List Mention) :
    c.mangledMentions ms = allMeantIn c.owner ms := by
  unfold mangledMentions allMeantIn
  cases c.owner <;> rfl

/-- In a class that leaves a name alone a function has as much of it as anywhere. -/
theorem atMost_scopeOf (h : LeavesAlone c.owner name) (n : Node) :
    Scope.AtMost name
      ⟨.function false, (Signature.ofFunction n).variableNames, n.functionMentions⟩ (c.scopeOf n) := by
  cases hc : c.owner with
  | none =>
    rw [scopeOf_of_outside hc]
    exact .refl _ _
  | some owner =>
    rw [hc] at h
    have hmentions : c.mangledMentions n.functionMentions =
        Mention.allInClass owner n.functionMentions := by rw [mangledMentions, hc]
    obtain ⟨hclass, hglobal, -, hlocal⟩ :=
      Scope.AtMost.inClass h (.function false) [] n.functionMentions
    rw [scopeOf, hmentions]
    refine ⟨hclass, hglobal, fun hname => ?_, hlocal⟩
    have hself : c.mangled name = name := by
      rw [mangled, hc]
      exact (h name).2 rfl
    exact List.mem_map.2 ⟨name, hname, hself⟩

end Site

/-- A function with the names of a scope. -/
structure Function.HasScope (f : Function) (S : Scope) : Prop where
  isFunction : S.kind ≠ .classBody
  globals : ∀ name, name ∈ f.globals ↔ name ∈ Mention.globals S.mentions
  locals : ∀ name, name ∈ f.locals ↔ name ∈ S.given ∨ name ∈ Mention.locals S.mentions

namespace Run

theorem MadeBy.hasScope {f : Function} {c : Site} {n : Node} {m : Making} (h : MadeBy f c n m) :
    f.HasScope (f.site.scopeOf f.definition) := by
  rw [h.site, h.definition]
  refine ⟨nofun, fun name => ?_, fun name => ?_⟩
  · rw [h.globals, List.mem_eraseDups]
    rfl
  · rw [h.locals, List.mem_eraseDups, List.mem_append]
    rfl

/-- **A call runs in the scope of its function**, inside of the scopes where the function was
made. -/
theorem enter_standsIn {f : Function} {there : Site} {bindings : List (String × Value)}
    (hS : f.HasScope S)
    (hinner : ∃ rs, f.site.inner = rs ++ around ∧ σ.Shows name (Ss.map Scope.inside) rs)
    (h : enter f bindings σ = .done there τ) : there.StandsIn τ name (S :: Ss) around := by
  obtain ⟨rs, hrs, hshows⟩ := hinner
  obtain ⟨fr, rfl, rfl, hlocals, hglobals, -, -, hkind⟩ := exists_of_enter h
  have hframe : (σ.alloc (.frame fr)).2.frame? (σ.alloc (.frame fr)).1 = some fr :=
    Store.frame?_eq_some.2 (Store.get?_alloc_self σ _)
  have hown : fr.Shows name S := by
    refine ⟨hglobals ▸ hS.globals name, ?_⟩
    simp [Frame.has, hkind, hlocals, hS.locals]
  have hrest := hshows.alloc (.frame fr)
  have hinside : S.inside = S := if_neg hS.isFunction
  have hchain : (σ.alloc (.frame fr)).1 :: f.site.inner =
      ((σ.alloc (.frame fr)).1 :: rs) ++ around := by rw [hrs, List.cons_append]
  refine ⟨⟨_, hchain, .cons ⟨fr, hframe, hown⟩ hrest⟩, ⟨_, hchain, ?_⟩⟩
  rw [List.map_cons, hinside]
  exact .cons ⟨fr, hframe, hown⟩ hrest

/-- **A name of its own** has in a call the value that it is given, if it has one by then. -/
theorem readName_of_scope {f : Function} {there : Site} {bindings : List (String × Value)}
    (hS : f.HasScope S) (h : enter f bindings σ = .done there τ)
    (hscope : resolve name [S] = .scope) :
    readName there name τ =
      match bindings.lookup name with
      | some v => .done v τ
      | none => .failed .unboundLocal τ := by
  obtain ⟨fr, rfl, rfl, hlocals, hglobals, hbindings, -, hkind⟩ := exists_of_enter h
  have hframe : (σ.alloc (.frame fr)).2.frame? (σ.alloc (.frame fr)).1 = some fr :=
    Store.frame?_eq_some.2 (Store.get?_alloc_self σ _)
  have hown : name ∉ fr.globals ∧ name ∈ fr.locals := by
    rw [hglobals, hlocals, hS.globals, hS.locals]
    by_cases hglobal : name ∈ Mention.globals S.mentions
    · simp [resolve, hglobal] at hscope
    · refine ⟨hglobal, ?_⟩
      by_contra hlocal
      simp [resolve, hglobal, not_or.1 hlocal] at hscope
  have hplace : (σ.alloc (.frame fr)).2.place name (f.siteIn (σ.alloc (.frame fr)).1).chain =
      .frame (σ.alloc (.frame fr)).1 := place_of_local hframe hown.1 hown.2
  cases hvalue : bindings.lookup name with
  | some v => exact readName_of_frame hplace hframe (by rw [hbindings, hvalue])
  | none =>
    unfold readName
    rw [get_bind, hplace]
    simp only [hframe, hbindings, hvalue, hkind]
    show Outcome.failed (unbound _ _) _ = _
    rw [unbound, if_pos]
    rfl

end Run

end Narrowing
