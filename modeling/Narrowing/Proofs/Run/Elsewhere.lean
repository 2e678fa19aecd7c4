import Narrowing.Proofs.Run.Function
import Narrowing.Proofs.Run.Meaning
/-!
# Code that runs elsewhere

The code of one function may also be that of another, which was made elsewhere. A call of the one
then runs beside a call of the other, in a frame of its own with the frames around that function
(`Site.IsCallOf`). Little of what code does hangs on what is around: which frame a name belongs to,
which constants of a text are one value, and the few calls that look at their place. Where none of
these is another one (`Site.Differs`), code does the same at both places (`Relocation.elsewhere`).

A call whose code keeps none of it has its names for itself (`Session.HasOwn`). What happens aside
leaves them alone, so a name keeps its value there as long as the code gives it no other one. And
frames that have nothing of a name will never have (`Store.Lack`), so it stays with the module.
-/

namespace Narrowing

open Code Run

/-! ## Sites of calls -/

/-- **A site in a call** of a function that was made at a place: the frame of the call comes before
the frames that the function sees, and those of the comprehensions that run in the call before
it. -/
structure Site.IsCallOf (c a : Site) (ρs : List Ref) : Prop where
  own : c.own = ρs
  ne_nil : ρs ≠ []
  chain : c.chain = ρs ++ a.inner
  inner : c.inner = ρs ++ a.inner
  module : c.module = a.module
  globals : c.globals = a.globals
  owner : c.owner = a.owner
  textUnit : c.textUnit = a.textUnit

namespace Site.IsCallOf

variable {c c' a b : Site} {ρs : List Ref}

/-- Such sites in two calls run in one frame. -/
theorem head_eq (h : c.IsCallOf a ρs) (h' : c'.IsCallOf b ρs) : c'.chain.head? = c.chain.head? := by
  rw [h.chain, h'.chain, List.head?_append_of_ne_nil _ h.ne_nil,
    List.head?_append_of_ne_nil _ h.ne_nil]

theorem own_eq (h : c.IsCallOf a ρs) (h' : c'.IsCallOf b ρs) : c'.own = c.own := by
  rw [h.own, h'.own]

/-- It may be on any line, at any depth. -/
theorem at_ (h : c.IsCallOf a ρs) (line : SourceLine) : (c.at_ line).IsCallOf a ρs :=
  ⟨h.own, h.ne_nil, h.chain, h.inner, h.module, h.globals, h.owner, h.textUnit⟩

theorem deeper (h : c.IsCallOf a ρs) : c.deeper.IsCallOf a ρs :=
  ⟨h.own, h.ne_nil, h.chain, h.inner, h.module, h.globals, h.owner, h.textUnit⟩

theorem mangled (h : c.IsCallOf a ρs) (name : String) : c.mangled name = a.mangled name := by
  rw [Site.mangled, Site.mangled, h.owner]

theorem mangledMentions (h : c.IsCallOf a ρs) (ms : List Mention) :
    c.mangledMentions ms = a.mangledMentions ms := by
  rw [Site.mangledMentions, Site.mangledMentions, h.owner]

end Site.IsCallOf

/-- The body of a function runs there. -/
theorem Function.siteIn_isCallOf (f : Function) (ρ : Ref) : (f.siteIn ρ).IsCallOf f.site [ρ] :=
  ⟨rfl, List.cons_ne_nil _ _, rfl, rfl, rfl, rfl, rfl, rfl⟩

/-- **Sites in two calls**, which run in the same frames. -/
def Site.Beside (a b : Site) (ρs : List Ref) (_loose : Bool) (c c' : Site) : Prop :=
  c.IsCallOf a ρs ∧ c'.IsCallOf b ρs

/-! ## Loops of comprehensions -/

/-- **The frame that the loops of a comprehension run in**, with the iterator of the first one. -/
def loopFrame (c : Site) (n : Node) (i : Value) : Frame :=
  let ms := c.mangledMentions n.functionMentions
  let s := (Signature.ofFunction n).rename c.mangled
  { locals := ((Signature.ofFunction n).variableNames.map c.mangled ++ Mention.locals ms).eraseDups
    globals := (Mention.globals ms).eraseDups, instance? := s.positional.head?
    isPrivate := n.isSelfContained, bindings := [(Signature.iteratorName, i)] }

/-- **Loops are entered** in a new frame, at a site in it. -/
theorem enterLoops_spec (c : Site) (name : String) (n : Node) (i : Value) (σ : Store) :
    ∃ d, enterLoops c name n i σ = .done d (σ.alloc (.frame (loopFrame c n i))).2 ∧
      ∀ {a : Site} {ρs : List Ref}, c.IsCallOf a ρs →
        d.IsCallOf a ((σ.alloc (.frame (loopFrame c n i))).1 :: ρs) := by
  refine ⟨_, rfl, fun h => ⟨?_, List.cons_ne_nil _ _, ?_, ?_, h.module, h.globals, h.owner, h.textUnit⟩⟩
  · exact congrArg (_ :: ·) h.own
  · exact congrArg (_ :: ·) h.inner
  · exact congrArg (_ :: ·) h.inner

/-- **Loops are entered beside each other** in two calls, and in the same frame if it is one for the
same names. -/
theorem enterLoops_beside {a b c c' : Site} {ρs : List Ref} {loose : Bool}
    (h : Site.Beside a b ρs loose c c') (name : String) (n n' : Node) (i : Value) (s : Session) :
    ∃ d d', s.run (enterLoops c name n i) =
        (.ok d, ⟨(s.store.alloc (.frame (loopFrame c n i))).2, s.interrupted⟩) ∧
      Site.Beside a b ((s.store.alloc (.frame (loopFrame c n i))).1 :: ρs) loose d d' ∧
      (loopFrame c' n' i = loopFrame c n i →
        s.run (enterLoops c' name n' i) =
          (.ok d', ⟨(s.store.alloc (.frame (loopFrame c n i))).2, s.interrupted⟩)) := by
  obtain ⟨d, hd, hcall⟩ := enterLoops_spec c name n i s.store
  obtain ⟨d', hd', hcall'⟩ := enterLoops_spec c' name n' i s.store
  exact ⟨d, d', Session.run_of_done hd, ⟨hcall h.1, hcall' h.2⟩, fun hframe =>
    Session.run_of_done (hframe ▸ hd')⟩

/-- **Loops are entered alike in two calls** if their frames are for the same names. -/
theorem EntersLike.elsewhere {a b : Site} {D : Parting} {n n' : Node}
    (h : ∀ {c c' : Site} {ρs : List Ref}, c.IsCallOf a ρs → c'.IsCallOf b ρs →
      ∀ i, loopFrame c' n' i = loopFrame c n i) :
    EntersLike D (fun (_ : List Ref) _ => True) (Site.Beside a b) n n' := by
  refine ⟨fun {_ _ c c'} hc name i s _ => ?_⟩
  obtain ⟨d, d', hd, hbeside, hd'⟩ := enterLoops_beside hc name n n' i s
  exact ⟨_, d, d', _, hd, trivial, hbeside, fun _ _ => trivial, .inl (hd' (h hc.1 hc.2 i))⟩

/-! ## Names that a call has for itself -/

namespace Store

variable {σ τ : Store} {r s : Ref} {f : Frame}

/-- A frame stays one for the same names. -/
theorem Grows.frame? (h : σ.Grows τ) (hf : σ.frame? r = some f) :
    ∃ bs, τ.frame? r = some { f with bindings := bs } := by
  obtain ⟨d, hd, hbecomes⟩ := h r _ (frame?_eq_some.1 hf)
  obtain ⟨bs, rfl⟩ := hbecomes.frame f rfl
  exact ⟨bs, frame?_eq_some.2 hd⟩

/-- **Frames that have nothing of a name**, and never will: it is none of their names, and they are
no frames of classes, to which names can be added. -/
def Lack (σ : Store) (rs : List Ref) (name : String) : Prop :=
  ∀ r ∈ rs, ∃ f, σ.frame? r = some f ∧ f.isClassBody = false ∧ name ∉ f.locals

theorem Lack.grows {rs : List Ref} {name : String} (h : σ.Lack rs name) (hgrows : σ.Grows τ) :
    τ.Lack rs name := by
  intro r hr
  obtain ⟨f, hf, hkind, hname⟩ := h r hr
  obtain ⟨bs, hbs⟩ := hgrows.frame? hf
  exact ⟨_, hbs, hkind, hname⟩

/-- They leave it to the module. -/
theorem Lack.place_eq {rs : List Ref} {name : String} (h : σ.Lack rs name) :
    σ.place name rs = .module := by
  induction rs with
  | nil => rfl
  | cons r rs ih =>
    obtain ⟨hr, hrs⟩ := List.forall_mem_cons.1 h
    obtain ⟨f, hf, hkind, hname⟩ := hr
    simp [place, hf, Frame.has, hkind, hname, ih hrs]

/-- Where a name belongs, seen from frames before others, hangs on where it belongs seen from
those. -/
theorem place_append {rs rs' : List Ref} {name : String} (h : σ.place name rs' = σ.place name rs)
    (ρs : List Ref) : σ.place name (ρs ++ rs') = σ.place name (ρs ++ rs) := by
  induction ρs with
  | nil => exact h
  | cons ρ ρs ih => rw [List.cons_append, List.cons_append, place, place, ih]

/-- **Frames that leave a name** to those around them, and always will. -/
def Leave (σ : Store) (rs : List Ref) (name : String) : Prop :=
  ∀ r ∈ rs, ∃ f, σ.frame? r = some f ∧ f.isClassBody = false ∧ name ∉ f.locals ∧ name ∉ f.globals

theorem Leave.grows {rs : List Ref} {name : String} (h : σ.Leave rs name) (hgrows : σ.Grows τ) :
    τ.Leave rs name := by
  intro r hr
  obtain ⟨f, hf, hkind, hlocal, hglobal⟩ := h r hr
  obtain ⟨bs, hbs⟩ := hgrows.frame? hf
  exact ⟨_, hbs, hkind, hlocal, hglobal⟩

theorem Leave.place_append {ρs : List Ref} {name : String} (h : σ.Leave ρs name) (rs : List Ref) :
    σ.place name (ρs ++ rs) = σ.place name rs := by
  induction ρs with
  | nil => rfl
  | cons ρ ρs ih =>
    obtain ⟨hρ, hρs⟩ := List.forall_mem_cons.1 h
    obtain ⟨f, hf, hkind, hlocal, hglobal⟩ := hρ
    simp [place, hf, Frame.has, hkind, hlocal, hglobal, ih hρs]

/-- **A name has its place in a call** wherever the function was made, if the call has the name or
the frames there lack it. -/
theorem place_congr {ρ : Ref} {rs rs' : List Ref} {name : String} (hf : σ.frame? ρ = some f)
    (h : name ∉ f.globals → name ∉ f.locals → σ.Lack rs name ∧ σ.Lack rs' name) :
    σ.place name (ρ :: rs') = σ.place name (ρ :: rs) := by
  rw [place, place, hf]
  dsimp only
  by_cases hglobal : name ∈ f.globals
  · simp [hglobal]
  by_cases hlocal : name ∈ f.locals
  · simp [Frame.has, hlocal]
  obtain ⟨hrs, hrs'⟩ := h hglobal hlocal
  rw [hrs.place_eq, hrs'.place_eq]

end Store

/-- **Runs that leave frames as they are**, and ask for nothing. -/
def Run.SparesFrames {α : Type} (x : Run α) : Prop :=
  ∀ σ, (x σ).Ends fun _ τ => ∀ r f, σ.frame? r = some f → τ.frame? r = some f

namespace Run

/-- Only what is held by place counts. -/
theorem SparesFrames.of_cells {α : Type} {x : Run α}
    (h : ∀ σ, (x σ).Ends fun _ τ => τ.cells = σ.cells) : x.SparesFrames := by
  intro σ
  have hσ := h σ
  revert hσ
  cases x σ with
  | done a τ =>
    intro hcells r f hf
    rwa [Store.frame?, Store.get?, show τ.cells = _ from hcells]
  | failed e τ => exact id
  | asks q τ k => exact id

theorem sparesFrames_alloc (c : Cell) : (alloc c).SparesFrames := fun _ _ _ hf =>
  Store.frame?_eq_some.2 (Store.get?_alloc_of_some (Store.frame?_eq_some.1 hf) c)

theorem sparesFrames_tellApart (v : Value) : (tellApart v).SparesFrames := by
  refine .of_cells fun σ => ?_
  show (σ.tellApart v).2.cells = σ.cells
  unfold Store.tellApart
  split <;> rfl

theorem sparesFrames_constantTag (textUnit : Nat) (k : Code.Constant) :
    (constantTag textUnit k).SparesFrames :=
  .of_cells fun σ => σ.constantTag_cells textUnit k

theorem sparesFrames_read : (read : Run Store).SparesFrames := .of_cells fun _ => rfl

theorem sparesFrames_placeOf (c : Site) (name : String) : (placeOf c name).SparesFrames := by
  refine .of_cells fun σ => ?_
  unfold placeOf
  rw [get_bind]
  split <;> rfl

end Run

namespace Session

/-- **What stays in a call that has its names for itself**: its frame, where a name has a value, and
what the store has grown from. What is interrupted makes a store grow, too. -/
structure HasOwn (σ : Store) (ρ : Ref) (name : String) (x : Value) (s : Session) : Prop where
  grows : σ.Grows s.store
  calls : Interrupted.Grow s.interrupted
  frame : ∃ f, s.store.frame? ρ = some f ∧ f.isPrivate ∧ f.bindings.lookup name = some x

variable {α : Type} {σ : Store} {ρ : Ref} {name : String} {x : Value} {s t : Session}

/-- It is enough to look at the frame. -/
theorem HasOwn.of_run (hs : s.HasOwn σ ρ name x) {y : Run α} {r : Except Failure α}
    (h : s.run y = (r, t))
    (hframe : ∀ f, s.store.frame? ρ = some f →
      ∃ bs, t.store.frame? ρ = some { f with bindings := bs } ∧
        bs.lookup name = f.bindings.lookup name) :
    t.HasOwn σ ρ name x := by
  obtain ⟨f, hf, hprivate, hx⟩ := hs.frame
  obtain ⟨bs, hbs, hsame⟩ := hframe f hf
  obtain ⟨hgrows, hcalls⟩ := Session.run_grows h hs.calls
  exact ⟨hs.grows.trans hgrows, hcalls, _, hbs, hprivate, hsame.trans hx⟩

/-- **What happens aside leaves its names alone.** -/
theorem keeps_aside {c : Site} (hc : ρ ∈ c.own) (y : Run α) :
    (aside c y).Keeps (HasOwn σ ρ name x) := by
  intro s a t hs h
  refine hs.of_run h fun f hf => ⟨f.bindings, ?_, rfl⟩
  obtain ⟨f', hf', hprivate, -⟩ := hs.frame
  obtain rfl : f' = f := Option.some.inj (hf'.symm.trans hf)
  rw [run_aside] at h
  rcases hu : s.run y with ⟨e | b, u⟩
  · rw [hu] at h
    cases (Prod.mk.inj h).1
  · rw [hu] at h
    obtain ⟨-, rfl⟩ := Prod.mk.inj h
    obtain ⟨bs, hbs⟩ := (Session.run_grows hu hs.calls).1.frame? hf
    exact Store.frame?_withOwn hc hf hprivate hbs

/-- So does what leaves all frames as they are, -/
theorem keeps_of_sparesFrames {y : Run α} (hy : y.SparesFrames) : y.Keeps (HasOwn σ ρ name x) := by
  intro s a t hs h
  exact hs.of_run h fun f hf => ⟨f.bindings, run_quiet (hy s.store) h ρ f hf, rfl⟩

/-- and what gives other values to other names. -/
theorem keeps_rebindIn {g : List (String × Value) → List (String × Value)}
    (hg : ∀ bs, (g bs).lookup name = bs.lookup name) (r : Ref) :
    (rebindIn r g).Keeps (HasOwn σ ρ name x) := by
  intro s a t hs h
  obtain rfl : t = ⟨s.store.rebind r g, s.interrupted⟩ := (Prod.mk.inj h).2.symm
  refine hs.of_run h fun f hf => ?_
  dsimp only
  rw [Store.frame?_rebind hf]
  split
  · exact ⟨_, rfl, hg _⟩
  · exact ⟨_, rfl, rfl⟩

theorem keeps_pooled {c : Site} (hc : ρ ∈ c.own) (v : Value) :
    (pooled c v).Keeps (HasOwn σ ρ name x) := by
  unfold pooled
  cases v.inAllTexts? with
  | some v => exact .pure v
  | none =>
    refine .bind ?_ fun key => ?_
    · unfold constantKey?
      split
      · exact (keeps_aside hc _).bind fun text => .pure _
      · exact .pure _
    · cases key with
      | none => exact .pure v
      | some k =>
        exact (keeps_of_sparesFrames (sparesFrames_constantTag _ k)).bind fun tag => .pure _

/-- **A name is written** where it belongs, so the other names of the call stay. -/
theorem keeps_writeName {c : Site} {other : String} (h : other ≠ name) (v : Value) :
    (writeName c other v).Keeps (HasOwn σ ρ name x) :=
  (keeps_of_sparesFrames (sparesFrames_placeOf c other)).bind fun r =>
    keeps_rebindIn (fun bs => lookup_bindName_of_ne (Ne.symm h) v bs) r

theorem lookup_filter_ne {other : String} (h : other ≠ name) (bs : List (String × Value)) :
    (bs.filter fun (n, _) => n ≠ other).lookup name = bs.lookup name := by
  induction bs with
  | nil => rfl
  | cons b bs ih =>
    obtain ⟨n, v⟩ := b
    by_cases hn : n = other
    · have hne : (name == n) = false := by simpa [hn] using Ne.symm h
      rw [List.filter_cons_of_neg (by simpa using hn), ih, List.lookup_cons, hne]
    · rw [List.filter_cons_of_pos (by simpa using hn), List.lookup_cons, List.lookup_cons, ih]

theorem keeps_deleteName {c : Site} {other : String} (h : other ≠ name) :
    (deleteName c other).Keeps (HasOwn σ ρ name x) := by
  refine (keeps_of_sparesFrames (sparesFrames_placeOf c other)).bind fun r => ?_
  refine (keeps_of_sparesFrames sparesFrames_read).bind fun σ => ?_
  split
  · exact keeps_rebindIn (lookup_filter_ne h) r
  · exact .throw _

/-- **The name has its value**, if it is one of the call and the frames of comprehensions in it
leave it. -/
theorem HasOwn.readName {f : Frame} (hs : s.HasOwn σ ρ name x) (hf : σ.frame? ρ = some f)
    (hlocal : name ∈ f.locals) (hglobal : name ∉ f.globals) {c : Site} {ρs rs : List Ref}
    (hleave : σ.Leave ρs name) (hc : c.chain = ρs ++ ρ :: rs) :
    Run.readName c name s.store = .done x s.store := by
  obtain ⟨f', hf', -, hx⟩ := hs.frame
  obtain ⟨bs, hbs⟩ := hs.grows.frame? hf
  obtain rfl : f' = { f with bindings := bs } := Option.some.inj (hf'.symm.trans hbs)
  refine readName_of_frame ?_ hbs hx
  rw [hc, (hleave.grows hs.grows).place_append]
  exact place_of_local hbs hglobal hlocal

end Session

/-! ## What hangs on the place -/

/-- Operations that look at the place of their call if they are given nothing. -/
def Value.looksAround : Value → Bool
  | cls (.other "super") | builtin (.foreign "locals") | builtin .vars | builtin (.foreign "dir") =>
    true
  | _ => false

/-- **What looks at the place where code stands**: a constant that is one value in its own text
alone, and a call that looks around. -/
inductive Site.LooksAround (a b : Site) : {α : Type} → Session → Run α → Prop
  | constant {c : Site} {v : Value} {s : Session} (htext : b.textUnit ≠ a.textUnit)
      (hv : v.inAllTexts? = none) : LooksAround a b s (pooled c v)
  | call {c : Site} {f : Value} {s : Session} (hf : f.looksAround) :
      LooksAround a b s (aside c (callHere c f [] []))

/-- **What differs between two places**: a name belongs to another frame, or to the module, or
something looks at the place. -/
inductive Site.Differs (a b : Site) : {α : Type} → Session → Run α → Prop
  | reads {c : Site} {ρs : List Ref} {name : String} {s : Session} (hc : c.IsCallOf a ρs)
      (h : s.store.place name (ρs ++ b.inner) ≠ s.store.place name (ρs ++ a.inner)) :
      Differs a b s (readName c name)
  | writes {c : Site} {ρs : List Ref} {name : String} {v : Value} {s : Session}
      (hc : c.IsCallOf a ρs)
      (h : s.store.place name (ρs ++ b.inner) ≠ s.store.place name (ρs ++ a.inner)) :
      Differs a b s (writeName c name v)
  | deletes {c : Site} {ρs : List Ref} {name : String} {s : Session} (hc : c.IsCallOf a ρs)
      (h : s.store.place name (ρs ++ b.inner) ≠ s.store.place name (ρs ++ a.inner)) :
      Differs a b s (deleteName c name)
  | looks {α : Type} {s : Session} {x : Run α} (h : a.LooksAround b s x) : Differs a b s x

section Places

variable {c c' a b : Site} {ρs : List Ref} {σ : Store} {name : String}

theorem readGlobal_congr (h : c'.globals = c.globals) (name : String) :
    readGlobal c' name = readGlobal c name := by
  unfold readGlobal
  rw [h]

section Names

variable (hc : c.IsCallOf a ρs) (hc' : c'.IsCallOf b ρs) (hglobals : b.globals = a.globals)
  (hplace : σ.place name (ρs ++ b.inner) = σ.place name (ρs ++ a.inner))

include hc hc' hglobals hplace

theorem readName_elsewhere : readName c' name σ = readName c name σ := by
  have hmodule : c'.globals = c.globals := by rw [hc'.globals, hc.globals, hglobals]
  have hunbound : ∀ r, unbound c' r = unbound c r := fun r => by
    rw [unbound, unbound, hc.head_eq hc']
  unfold readName
  rw [get_bind, get_bind, hc.chain, hc'.chain, hplace]
  cases σ.place name (ρs ++ a.inner) with
  | module => exact congrArg (fun x : Run Value => x σ) (readGlobal_congr hmodule name)
  | frame r =>
    dsimp only
    rw [readGlobal_congr hmodule, hunbound]

theorem placeOf_elsewhere : placeOf c' name σ = placeOf c name σ := by
  unfold placeOf
  rw [get_bind, get_bind, hc.chain, hc'.chain, hplace, hc'.globals, hc.globals, hglobals]

theorem writeName_elsewhere (v : Value) : writeName c' name v σ = writeName c name v σ := by
  unfold writeName
  rw [bind_apply, bind_apply, placeOf_elsewhere hc hc' hglobals hplace]

theorem deleteName_elsewhere : deleteName c' name σ = deleteName c name σ := by
  have hunbound : ∀ r, unbound c' r = unbound c r := fun r => by
    rw [unbound, unbound, hc.head_eq hc']
  unfold deleteName
  rw [bind_apply, bind_apply, placeOf_elsewhere hc hc' hglobals hplace]
  simp only [hunbound]

end Names

theorem pooled_congr {v : Value} (hown : c'.own = c.own)
    (h : c'.textUnit = c.textUnit ∨ v.inAllTexts?.isSome) : pooled c' v = pooled c v := by
  unfold pooled
  rcases h with h | h
  · unfold constantKey?
    simp only [h, aside_congr hown]
  · obtain ⟨w, hw⟩ := Option.isSome_iff_exists.1 h
    rw [hw]

theorem callHere_congr (hmodule : c'.module = c.module) (hglobals : c'.globals = c.globals)
    {f : Value} {args : List Value} {keywords : List (String × Value)}
    (h : f.looksAround = true → args = [] → keywords ≠ []) :
    callHere c' f args keywords = callHere c f args keywords := by
  unfold callHere
  split
  · exact absurd rfl (h rfl rfl)
  · unfold classByCall
    rw [readGlobal_congr hglobals, hmodule]
  · exact absurd rfl (h rfl rfl)
  · exact absurd rfl (h rfl rfl)
  · unfold boundNames
    rw [hglobals]
  · exact absurd rfl (h rfl rfl)
  · rfl

end Places

/-- Reading a name gives a value or fails, and changes nothing. -/
theorem readName_cases (c : Site) (name : String) (σ : Store) :
    (∃ v, readName c name σ = .done v σ) ∨ ∃ e, readName c name σ = .failed e σ := by
  have hglobal : (∃ v, readGlobal c name σ = .done v σ) ∨
      ∃ e, readGlobal c name σ = .failed e σ := by
    unfold readGlobal
    rw [get_bind]
    cases (σ.binding? c.globals name).or (languageName? name) with
    | some v => exact .inl ⟨v, rfl⟩
    | none => exact .inr ⟨_, rfl⟩
  unfold readName
  rw [get_bind]
  cases σ.place name c.chain with
  | module => exact hglobal
  | frame r =>
    dsimp only
    cases σ.frame? r with
    | none => exact .inr ⟨_, rfl⟩
    | some f =>
      dsimp only
      cases f.bindings.lookup name with
      | some v => exact .inl ⟨v, rfl⟩
      | none =>
        dsimp only
        cases f.isClassBody with
        | true => exact hglobal
        | false => exact .inr ⟨_, rfl⟩

theorem sparesFrames_readName (c : Site) (name : String) : (readName c name).SparesFrames := by
  refine .of_cells fun σ => ?_
  obtain ⟨v, h⟩ | ⟨e, h⟩ := readName_cases c name σ
  · rw [h]
    rfl
  · rw [h]
    trivial

/-- **What code keeps in a call**, as far as it does something by itself. -/
structure Site.Keeps (a : Site) (ρs : List Ref) (I : Session → Prop) (P : Kind → Prop) : Prop where
  spares {α : Type} {x : Run α} (h : x.SparesFrames) : x.Keeps I
  aside {c : Site} (hc : c.IsCallOf a ρs) {α : Type} (x : Run α) : (aside c x).Keeps I
  pooled {c : Site} (hc : c.IsCallOf a ρs) (v : Value) : (pooled c v).Keeps I
  writeName {c : Site} (hc : c.IsCallOf a ρs) {id : String} (hk : P (.name id .store)) (v : Value) :
    (writeName c (c.mangled id) v).Keeps I
  deleteName {c : Site} (hc : c.IsCallOf a ρs) {id : String} (hk : P (.name id .del)) :
    (deleteName c (c.mangled id)).Keeps I

/-- What always holds is kept. -/
theorem Site.Keeps.always (a : Site) (ρs : List Ref) (P : Kind → Prop) :
    a.Keeps ρs (fun _ => True) P :=
  ⟨fun _ _ _ _ _ _ => trivial, fun _ _ _ _ _ _ _ _ => trivial, fun _ _ _ _ _ _ _ => trivial,
    fun _ _ _ _ _ _ _ _ _ => trivial, fun _ _ _ _ _ _ _ _ => trivial⟩

/-- **Code that has its names for itself** keeps a name that it gives no other value. -/
theorem Site.Keeps.hasOwn {a : Site} {ρ : Ref} {ρs : List Ref} (hρ : ρ ∈ ρs) {σ : Store}
    {name : String} {x : Value} {P : Kind → Prop}
    (hP : ∀ id ctx, P (.name id ctx) → ctx ≠ .load → a.mangled id ≠ name) :
    a.Keeps ρs (Session.HasOwn σ ρ name x) P where
  spares h := Session.keeps_of_sparesFrames h
  aside hc _ y := Session.keeps_aside (hc.own ▸ hρ) y
  pooled hc v := Session.keeps_pooled (hc.own ▸ hρ) v
  writeName hc id hk v := Session.keeps_writeName (by rw [hc.mangled]; exact hP id _ hk nofun) v
  deleteName hc id hk := Session.keeps_deleteName (by rw [hc.mangled]; exact hP id _ hk nofun)

/-- **Code does the same in two calls** until it comes to what differs between their places. The
names that are private to other classes are left out. -/
theorem Relocation.elsewhere {a b : Site} {ρs : List Ref} (hmodule : b.module = a.module)
    (hglobals : b.globals = a.globals) {D : Parting} {I : Session → Prop} {P : Kind → Prop}
    (hmangled : ∀ k name, P k → k.ownName? = some name → b.mangled name = a.mangled name)
    (hkeeps : a.Keeps ρs I P)
    (hplace : ∀ {s : Session} {id : String} {ctx : Context}, I s → P (.name id ctx) →
      s.store.place (a.mangled id) (ρs ++ b.inner) ≠ s.store.place (a.mangled id) (ρs ++ a.inner) →
        ∀ {α : Type} {x : Run α}, a.Differs b s x → D.loses s x)
    (haround : ∀ {α : Type} {s : Session} {x : Run α}, a.LooksAround b s x → D.loses s x) :
    Relocation D I (Site.Beside a b ρs) P := by
  -- what is done by a name is the same if the name has its place in the same frame
  have hfollows : ∀ {s : Session} {id : String} {ctx : Context} {α : Type} {x x' : Run α}, I s →
      P (.name id ctx) → (s.store.place (a.mangled id) (ρs ++ b.inner) =
        s.store.place (a.mangled id) (ρs ++ a.inner) → x' s.store = x s.store) →
      (s.store.place (a.mangled id) (ρs ++ b.inner) ≠
        s.store.place (a.mangled id) (ρs ++ a.inner) → a.Differs b s x) → s.Follows D x x' := by
    intro s id ctx α x x' hs hk hsame hdiffers
    by_cases h : s.store.place (a.mangled id) (ρs ++ b.inner) =
      s.store.place (a.mangled id) (ρs ++ a.inner)
    · exact .same (Session.run_congr (hsame h))
    · exact .loses .here (hplace hs hk h (hdiffers h))
  exact {
    at_ := fun ⟨hc, hc'⟩ line => ⟨hc.at_ line, hc'.at_ line⟩
    loosen := fun ⟨hc, hc'⟩ line line' => ⟨hc.at_ line, hc'.at_ line'⟩
    headLine := fun ⟨hc, hc'⟩ => ⟨hc.at_ _, hc'.at_ _⟩
    deeper := fun ⟨hc, hc'⟩ => ⟨hc.deeper, hc'.deeper⟩
    mangled := fun ⟨hc, hc'⟩ k hk name hname => by
      rw [hc.mangled, hc'.mangled, hmangled k name hk hname]
    readName := fun ⟨hc, hc'⟩ id ctx hk => by
      refine ⟨fun s hs => ?_, hkeeps.spares (sparesFrames_readName _ _)⟩
      rw [hc.mangled]
      exact hfollows hs hk (readName_elsewhere hc hc' hglobals) (.reads hc)
    writeName := fun ⟨hc, hc'⟩ id hk v => by
      refine ⟨fun s hs => ?_, hkeeps.writeName hc hk v⟩
      rw [hc.mangled]
      exact hfollows hs hk (fun h => writeName_elsewhere hc hc' hglobals h v) (.writes hc)
    deleteName := fun ⟨hc, hc'⟩ id hk => by
      refine ⟨fun s hs => ?_, hkeeps.deleteName hc hk⟩
      rw [hc.mangled]
      exact hfollows hs hk (deleteName_elsewhere hc hc' hglobals) (.deletes hc)
    pooled := fun {_ c c'} ⟨hc, hc'⟩ v => by
      by_cases htext : b.textUnit = a.textUnit
      · exact .of_eq (pooled_congr (hc.own_eq hc') (.inl (by rw [hc.textUnit, hc'.textUnit, htext])))
          (hkeeps.pooled hc v)
      · cases hv : v.inAllTexts? with
        | some w =>
          exact .of_eq (pooled_congr (hc.own_eq hc') (.inr (by rw [hv]; rfl))) (hkeeps.pooled hc v)
        | none => exact ⟨fun s _ => .loses .here (haround (.constant htext hv)), hkeeps.pooled hc v⟩
    callHere := fun {_ c c'} ⟨hc, hc'⟩ f args keywords => by
      refine ⟨fun s _ => ?_, hkeeps.aside hc _⟩
      by_cases h : f.looksAround = true ∧ args = [] ∧ keywords = []
      · obtain ⟨hf, rfl, rfl⟩ := h
        exact .loses .here (haround (.call hf))
      · refine .same ?_
        rw [aside_congr (hc.own_eq hc'),
          callHere_congr _ _ fun hf hargs hkeywords => h ⟨hf, hargs, hkeywords⟩]
        · rw [hc.module, hc'.module, hmodule]
        · rw [hc.globals, hc'.globals, hglobals]
    aside := fun {_ c c'} ⟨hc, hc'⟩ _ x =>
      .of_eq (aside_congr (hc.own_eq hc') x) (hkeeps.aside hc x)
    alloc := fun c => .refl (hkeeps.spares (sparesFrames_alloc c))
    tellApart := fun v => .refl (hkeeps.spares (sparesFrames_tellApart v)) }

end Narrowing
