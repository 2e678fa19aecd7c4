import Narrowing.Proofs.Run.Session
/-!
# Functions that run

A definition makes a function whose site holds what the qualified names of anything
defined in its body begin with (`Run.newFunction_spec`), and each call of the function
runs in a frame of its own at that site (`Run.enter_spec`). So what is defined in the
body goes by the name of the function as it was made (`Run.qualify_enter`), whatever the
function is called later on.

A name that belongs to the frame of a call is written and read there and leaves what
else the store holds alone (`Run.writeName_spec`, `Run.readName_of_local`). What happens aside ends as
it would by itself, and the names that the call has for itself are what they were
(`Run.run_aside`).
-/

namespace Narrowing

open Code

namespace Store

variable {σ : Store} {r : Ref}

theorem frame?_eq_some {f : Frame} : σ.frame? r = some f ↔ σ.get? r = some (.frame f) := by
  unfold frame?
  split
  · next g hg => rw [hg, Option.some.injEq, Option.some.injEq, Cell.frame.injEq]
  · next hno =>
    refine iff_of_false (fun h => by cases h) fun h => ?_
    exact hno f h

/-- What is new is at a place of its own. -/
theorem alloc_fst_ne {c d : Cell} (h : σ.get? r = some c) : (σ.alloc d).1 ≠ r := by
  rintro rfl
  simp [get?, alloc] at h

/-- A function is shown as it is held. -/
theorem cell?_function {f : Function} (h : σ.get? r = some (.function f)) :
    σ.cell? (.ref r) = some (.function f) := by
  simp [cell?, shown?, h, shared?]

theorem replace_function {f g : Function} (h : σ.get? r = some (.function f)) :
    σ.replace r (.function g) = σ.set r (.function g) := by
  simp [replace, put, h, Cell.admits, Cell.containerKind?]

theorem rebind_eq {f : Frame} (h : σ.frame? r = some f)
    (g : List (String × Value) → List (String × Value)) :
    σ.rebind r g = σ.set r (.frame { f with bindings := g f.bindings }) := by
  rw [rebind, h]

theorem get?_set {c d : Cell} (h : σ.get? r = some c) : (σ.set r d).get? r = some d :=
  get?_set_self (Array.getElem?_eq_some_iff.1 h).1 d

theorem frame?_rebind {s : Ref} {f : Frame} (hf : σ.frame? r = some f)
    (g : List (String × Value) → List (String × Value)) :
    (σ.rebind s g).frame? r = some (if s = r then { f with bindings := g f.bindings } else f) := by
  by_cases h : s = r
  · rw [if_pos h, h, rebind_eq hf, frame?_eq_some]
    exact get?_set (frame?_eq_some.1 hf)
  · rw [if_neg h]
    unfold rebind
    split
    · rw [frame?_eq_some, get?_set_of_ne _ h]
      exact frame?_eq_some.1 hf
    · exact hf

/-- What is put back where it is changes nothing. -/
theorem rebind_self {f : Frame} (hf : σ.frame? r = some f) :
    σ.rebind r (fun _ => f.bindings) = σ := by
  have hr := frame?_eq_some.1 hf
  rw [rebind_eq hf]
  unfold set
  obtain ⟨hlt, hcell⟩ := Array.getElem?_eq_some_iff.1 hr
  have hcells : σ.cells.setIfInBounds r.index (.frame f) = σ.cells := by
    rw [Array.setIfInBounds_def, dif_pos hlt, ← hcell, Array.set_getElem_self]
  show { σ with cells := σ.cells.setIfInBounds r.index (.frame f) } = σ
  rw [hcells]

/-- Names get other values beside what is new, and no frame. -/
theorem rebind_alloc {c : Cell} (hc : ∀ f, c ≠ .frame f)
    (g : List (String × Value) → List (String × Value)) :
    (σ.alloc c).2.rebind r g = ((σ.rebind r g).alloc c).2 := by
  by_cases hr : r.index < σ.cells.size
  · have hsame : (σ.alloc c).2.frame? r = σ.frame? r := by
      unfold frame? get? alloc
      rw [Array.getElem?_push_lt hr, Array.getElem?_eq_getElem hr]
    unfold rebind
    rw [hsame]
    split
    · have hpush : ∀ d, (σ.cells.push c).setIfInBounds r.index d =
          (σ.cells.setIfInBounds r.index d).push c := by
        intro d
        have hr' : r.index < (σ.cells.push c).size := by
          rw [Array.size_push]
          exact Nat.lt_succ_of_lt hr
        rw [Array.setIfInBounds_def, Array.setIfInBounds_def, dif_pos hr, dif_pos hr',
          Array.set_push, dif_pos hr]
      simp only [set, alloc, hpush]
    · rfl
  · have hnone : σ.frame? r = none := by
      unfold frame? get?
      rw [Array.getElem?_eq_none (Nat.le_of_not_lt hr)]
    have hnone' : (σ.alloc c).2.frame? r = none := by
      unfold frame? get? alloc
      rw [Array.getElem?_push, Array.getElem?_eq_none (Nat.le_of_not_lt hr)]
      split
      · next h =>
        split at h
        · exact absurd (Option.some.inj h) (hc _)
        · cases h
      · rfl
    unfold rebind
    rw [hnone, hnone']

theorem alloc_fst_rebind (c : Cell) (g : List (String × Value) → List (String × Value)) :
    ((σ.rebind r g).alloc c).1 = (σ.alloc c).1 := by
  unfold rebind
  split
  · simp [set, alloc]
  · rfl

/-- What a frame holds, it holds again. -/
theorem withPrivate_self (σ : Store) (r : Ref) : σ.withPrivate σ r = σ := by
  unfold withPrivate
  split
  · next f hf =>
    split
    · exact rebind_self hf
    · rfl
  · rfl

theorem withOwn_self (σ : Store) (c : Site) : σ.withOwn c σ = σ := by
  unfold withOwn
  induction c.own with
  | nil => rfl
  | cons r rs ih => rw [List.foldl_cons, withPrivate_self, ih]

theorem frame?_withPrivate {s : Ref} {τ : Store} {f : Frame} {bs : List (String × Value)}
    (hf : σ.frame? r = some f) (hprivate : f.isPrivate)
    (hτ : τ.frame? r = some { f with bindings := bs }) :
    (σ.withPrivate τ s).frame? r =
      some { f with bindings := if s = r then f.bindings else bs } := by
  unfold withPrivate
  by_cases h : s = r
  · rw [h, hf]
    dsimp only
    rw [if_pos hprivate, frame?_rebind hτ, if_pos rfl, if_pos rfl]
  rw [if_neg h]
  split
  · split
    · rw [frame?_rebind hτ, if_neg h]
    · exact hτ
  · exact hτ

/-- **A frame of the call that runs has what it had**, if its names are those of the call alone. -/
theorem frame?_withOwn {τ : Store} {c : Site} {f : Frame} {bs : List (String × Value)}
    (hr : r ∈ c.own) (hf : σ.frame? r = some f) (hprivate : f.isPrivate)
    (hτ : τ.frame? r = some { f with bindings := bs }) : (τ.withOwn c σ).frame? r = some f := by
  unfold withOwn
  generalize c.own = rs at hr
  have hkeeps : bs = f.bindings ∨ r ∈ rs := .inr hr
  clear hr
  induction rs generalizing τ bs with
  | nil =>
    obtain rfl := hkeeps.resolve_right List.not_mem_nil
    exact hτ
  | cons s rs ih =>
    refine ih (frame?_withPrivate hf hprivate hτ) ?_
    by_cases h : s = r
    · exact .inl (if_pos h)
    · rw [if_neg h]
      exact hkeeps.imp_right fun hr => (List.mem_cons.1 hr).resolve_left (Ne.symm h)

end Store

/-- Whether a call of a definition only prepares its run. -/
def Code.Node.suspends : Node → Bool
  | .functionDef _ isAsync _ body _ _ => isAsync || Node.someYields body
  | _ => false

/-- **A function whose names are those of its code**: the names that belong to its calls, those
that it declares global, and whether its calls run at once and have their names for themselves. -/
structure Function.IsAsDefined (f : Function) : Prop where
  locals : f.locals = ((Signature.ofFunction f.definition).variableNames.map f.site.mangled ++
    Mention.locals (f.site.mangledMentions f.definition.functionMentions)).eraseDups
  globals : f.globals =
    (Mention.globals (f.site.mangledMentions f.definition.functionMentions)).eraseDups
  isSuspending : f.isSuspending = f.definition.suspends
  isPrivate : f.isPrivate = f.definition.isSelfContained

namespace Run

variable {σ : Store} {c : Site}

/-! ## Names -/

/-- A name that belongs to the innermost frame has its place there. -/
theorem place_of_local {r : Ref} {rs : List Ref} {f : Frame} {name : String}
    (hf : σ.frame? r = some f) (hglobal : name ∉ f.globals) (hlocal : name ∈ f.locals) :
    σ.place name (r :: rs) = .frame r := by
  simp [Store.place, hf, hglobal, Frame.has, hlocal]

/-- **A local name is written** in the innermost frame, and nothing else changes. -/
theorem writeName_spec {r : Ref} {rs : List Ref} {f : Frame} {name : String} {v : Value}
    (hchain : c.chain = r :: rs) (hf : σ.frame? r = some f) (hglobal : name ∉ f.globals)
    (hlocal : name ∈ f.locals) :
    writeName c name v σ =
      .done () (σ.set r (.frame { f with bindings := bindName name v f.bindings })) := by
  have hplace : placeOf c name σ = .done r σ := by
    unfold placeOf
    rw [get_bind, hchain, place_of_local hf hglobal hlocal]
    rfl
  have hbind : bindIn r name v σ =
      .done () (σ.set r (.frame { f with bindings := bindName name v f.bindings })) := by
    show Outcome.done () (σ.rebind r _) = _
    rw [Store.rebind_eq hf]
  unfold writeName
  rw [bind_apply, hplace]
  exact hbind

/-- A name that has its place in a frame has the value that the frame holds. -/
theorem readName_of_frame {r : Ref} {f : Frame} {name : String} {v : Value}
    (hplace : σ.place name c.chain = .frame r) (hf : σ.frame? r = some f)
    (hv : f.bindings.lookup name = some v) : readName c name σ = .done v σ := by
  unfold readName
  rw [get_bind, hplace]
  simp only [hf, hv]
  rfl

/-- **A local name is read** in the innermost frame. -/
theorem readName_of_local {r : Ref} {rs : List Ref} {f : Frame} {name : String} {v : Value}
    (hchain : c.chain = r :: rs) (hf : σ.frame? r = some f) (hglobal : name ∉ f.globals)
    (hlocal : name ∈ f.locals) (hv : f.bindings.lookup name = some v) :
    readName c name σ = .done v σ :=
  readName_of_frame (by rw [hchain, place_of_local hf hglobal hlocal]) hf hv

/-! ## What happens aside -/

section Aside

variable {α : Type} {s t : Session} {c c' : Site} {x y : Run α} {a : α}

theorem aside_congr (h : c'.own = c.own) (x : Run α) : aside c' x = aside c x := by
  have hown : ∀ τ σ : Store, τ.withOwn c' σ = τ.withOwn c σ := fun τ σ => by
    unfold Store.withOwn
    rw [h]
  unfold aside restoreOwn
  simp only [hown]

theorem aside_at (c : Site) (line : SourceLine) (x : Run α) : aside (c.at_ line) x = aside c x := rfl

/-- **What happens aside** is what happens, but for the names of the call. -/
theorem run_aside (s : Session) (c : Site) (x : Run α) :
    s.run (aside c x) =
      match s.run x with
      | (.ok a, t) => (.ok a, ⟨t.store.withOwn c s.store, t.interrupted⟩)
      | (.error e, t) => (.error e, t) := by
  unfold aside
  rw [Session.run_get_bind, Session.run_bind]
  rcases s.run x with ⟨e | a, t⟩ <;> rfl

theorem run_aside_congr (h : s.run x = s.run y) : s.run (aside c x) = s.run (aside c y) := by
  rw [run_aside, run_aside, h]

theorem run_aside_error {e : Failure} (h : (s.run x).1 = .error e) :
    (s.run (aside c x)).1 = .error e := by
  rw [run_aside]
  rcases hx : s.run x with ⟨r, t⟩
  rw [hx] at h
  obtain rfl : r = .error e := h
  rfl

/-- What leaves everything alone does so aside. -/
theorem run_aside_of_same (h : s.run x = (.ok a, s)) : s.run (aside c x) = (.ok a, s) := by
  rw [run_aside, h]
  dsimp only
  rw [Store.withOwn_self]

end Aside

/-! ## Making functions -/

/-- **A function made by a definition** at a site: its code, its names, where its body runs
and the names that belong to its calls. -/
structure MadeBy (f : Function) (c : Site) (n : Node) (m : Making) : Prop where
  definition : f.definition = n
  name : f.name = m.name
  qualname : f.qualname = m.qualname
  isSuspending : f.isSuspending = m.isSuspending
  isPrivate : f.isPrivate = n.isSelfContained
  site : f.site = { c with
    chain := [], own := [], inside := m.qualname ++ ".<locals>.", margin := c.margin + 1
    line := .own }
  globals : f.globals = (Mention.globals (c.mangledMentions n.functionMentions)).eraseDups
  locals : f.locals = ((Signature.ofFunction n).variableNames.map c.mangled ++
    Mention.locals (c.mangledMentions n.functionMentions)).eraseDups

/-- **What a definition makes** is at a place of its own, and nothing else changes. -/
theorem newFunction_spec (c : Site) (n : Node) (m : Making) (σ : Store) :
    ∃ f : Function, MadeBy f c n m ∧ newFunction c n m σ =
      .done (.ref (σ.alloc (.function f)).1) (σ.alloc (.function f)).2 :=
  ⟨_, ⟨rfl, rfl, rfl, rfl, rfl, rfl, rfl, rfl⟩, rfl⟩

/-- A definition makes functions with the names of their code. -/
theorem MadeBy.isAsDefined {f : Function} {n : Node} {m : Making} (h : MadeBy f c n m)
    (hm : m.isSuspending = n.suspends) : f.IsAsDefined := by
  have hmangled : f.site.mangled = c.mangled := by
    rw [h.site]
    rfl
  have hmentions : f.site.mangledMentions = c.mangledMentions := by
    rw [h.site]
    rfl
  refine ⟨?_, ?_, ?_, ?_⟩
  · rw [h.locals, hmangled, hmentions, h.definition]
  · rw [h.globals, hmentions, h.definition]
  · rw [h.isSuspending, hm, h.definition]
  · rw [h.isPrivate, h.definition]

/-- **Where a call runs**: in a new frame with the names of the function, at its site. -/
theorem enter_spec (f : Function) (bindings : List (String × Value)) (σ : Store) :
    ∃ fr : Frame, enter f bindings σ =
        .done (f.siteIn (σ.alloc (.frame fr)).1) (σ.alloc (.frame fr)).2 ∧
      fr.locals = f.locals ∧ fr.globals = f.globals ∧ fr.bindings = bindings ∧
      fr.isPrivate = f.isPrivate ∧ fr.isClassBody = false :=
  ⟨_, rfl, rfl, rfl, rfl, rfl, rfl⟩

theorem exists_of_enter {f : Function} {bindings : List (String × Value)} {τ : Store}
    (h : enter f bindings σ = .done c τ) :
    ∃ fr : Frame, c = f.siteIn (σ.alloc (.frame fr)).1 ∧ τ = (σ.alloc (.frame fr)).2 ∧
      fr.locals = f.locals ∧ fr.globals = f.globals ∧ fr.bindings = bindings ∧
      fr.isPrivate = f.isPrivate ∧ fr.isClassBody = false := by
  obtain ⟨fr, henter, hnames⟩ := enter_spec f bindings σ
  rw [henter] at h
  obtain ⟨rfl, rfl⟩ := Outcome.done.inj h
  exact ⟨fr, rfl, rfl, hnames⟩

/-- The qualified name of what is defined where the innermost frame does not declare it
global. -/
theorem qualify_of_frame {r : Ref} {rs : List Ref} {f : Frame} {name : String}
    (hchain : c.chain = r :: rs) (hf : σ.frame? r = some f)
    (hglobal : c.mangled name ∉ f.globals) : σ.qualify c name = c.inside ++ name := by
  simp [Store.qualify, hchain, hf, hglobal]

/-- **What is defined in a call** of a function is named after the function as it was
made, unless it is declared global there. -/
theorem qualify_enter {f : Function} {bindings : List (String × Value)} {τ : Store}
    {name : String} (h : enter f bindings σ = .done c τ)
    (hglobal : f.site.mangled name ∉ f.globals) : τ.qualify c name = f.site.inside ++ name := by
  obtain ⟨fr, rfl, rfl, -, hglobals, -⟩ := exists_of_enter h
  refine qualify_of_frame rfl (Store.frame?_eq_some.2 (Store.get?_alloc_self σ _)) ?_
  rw [hglobals]
  exact hglobal

/-- **What a call of a function of code does.** -/
theorem perform_function {r : Ref} {f : Function} (hf : σ.get? r = some (.function f))
    (args : List Value) (keywords : List (String × Value)) :
    perform (.ref r) args keywords σ = callFunction f args keywords σ := by
  unfold perform
  rw [bind_apply]
  show (Outcome.done (σ.cell? (.ref r)) σ).bind _ = _
  rw [Store.cell?_function hf]
  rfl

/-! ## Documentation -/

/-- A text that stands in code has a value, which leaves what the store holds alone. -/
theorem pooled_text (c : Site) (s : String) (σ : Store) :
    ∃ v τ, pooled c (.ofText s) σ = .done v τ ∧ τ.cells = σ.cells := by
  unfold pooled
  cases (Value.ofText s).inAllTexts? with
  | some v => exact ⟨v, σ, rfl, rfl⟩
  | none => exact ⟨_, _, rfl, σ.constantTag_cells c.textUnit (.str s)⟩

/-- A text of characters has a value in code. -/
theorem constantValue_of_text {k : Constant} {s : String} (hk : k.text? = some s) (c : Site)
    (σ : Store) : ∃ v τ, constantValue c k σ = .done v τ ∧ τ.cells = σ.cells := by
  cases k with
  | str | marked => exact pooled_text c _ σ
  | _ => cases hk

/-- **Documentation is quiet** and leaves what the store holds alone. -/
theorem documentationOf_ends (c : Site) (body : List Node) (σ : Store) :
    (documentationOf c body σ).Ends fun _ τ => τ.cells = σ.cells := by
  unfold documentationOf
  split
  · next k rest =>
    split
    · next hk =>
      cases hs : k.text? with
      | some s =>
        obtain ⟨v, τ, h, hcells⟩ := constantValue_of_text hs c σ
        rw [h]
        exact hcells
      | none =>
        cases k with
        | points => trivial
        | str | marked => cases hs
        | _ => cases hk
    · rfl
  · rfl

end Run

end Narrowing
