import Mathlib.Data.List.Forall2
import Narrowing.Code.Binding
import Narrowing.Proofs.Run.Following
/-!
# Meanings that follow other meanings

What a node does is made of what the nodes below it do, so a node follows another of its kind if
each node below follows its counterpart (`Meaning.Follows.ofKindAt`). Only what keeps no code
is looked at: a function or class that is made cannot be the same where the code is another.

For the same reason the line that runs matters. A function remembers the line it starts on, which
is the text of a whole statement. Where no function is made, the line may differ.

Nor need both run at one site. What a node does by itself hangs on its site in few ways: what the
names in it give, which constants are one value, and the calls that go by their place. Where these
follow (`Relocation`), the nodes may stand at different sites. The loops of a comprehension run in a
frame of their own, so there is a relocation for each nesting of such frames, and the way into the
loops leads from one to another (`EntersLike`).
-/

namespace Narrowing

open Code Run List

/-! ## Sites -/

namespace Site

/-- Sites that are one, or that differ in the line if this is allowed. -/
def Near (loose : Bool) (c c' : Site) : Prop := c' = c ∨ loose = true ∧ ∃ line, c' = c.at_ line

variable {loose : Bool} {c c' : Site}

theorem Near.refl : Near loose c c := .inl rfl

/-- What does not hang on the line is one. -/
theorem Near.eq_of {α : Type} (h : Near loose c c') (f : Site → α)
    (hf : ∀ (c : Site) line, f (c.at_ line) = f c) : f c' = f c := by
  rcases h with rfl | ⟨-, line, rfl⟩
  · rfl
  · exact hf c line

/-- Where the line may not differ, the sites are one. -/
theorem Near.eq_of_strict (h : Near false c c') : c' = c := by
  rcases h with h | ⟨h, -⟩
  · exact h
  · cases h

theorem Near.at_eq (h : Near loose c c') (line : SourceLine) : c'.at_ line = c.at_ line :=
  h.eq_of (fun c => c.at_ line) fun _ _ => rfl

theorem Near.deeper_eq (h : Near loose c c') : c'.deeper = c.deeper :=
  h.eq_of Site.deeper fun _ _ => rfl

/-- Where the line may differ, it may be any other. -/
theorem Near.loosen (h : Near loose c c') (line line' : SourceLine) :
    Near true (c.at_ line) (c'.at_ line') :=
  .inr ⟨rfl, line', h.at_eq line'⟩

/-- The head of a choice. -/
theorem Near.headLine (h : Near loose c c') :
    Near loose (c.at_ (headLine c)) (c'.at_ (headLine c')) := by
  rcases h with rfl | ⟨hloose, line, rfl⟩
  · exact .refl
  · exact .inr ⟨hloose, _, rfl⟩

end Site

/-- The name that a node is about by itself, which may be private to a class. -/
def Code.Kind.ownName? : Kind → Option String
  | .name id _ | .member id _ | .arg id => some id
  | _ => none

/-- **Code that stands elsewhere**: which sites correspond to each other, where the line may differ
or may not, and for which kinds of nodes. What is done by place alone follows at the site that
corresponds while something holds, and so does what is done aside. -/
structure Relocation (D : Parting) (I : Session → Prop) (K : Bool → Site → Site → Prop)
    (P : Kind → Prop) : Prop where
  at_ {loose : Bool} {c c' : Site} (h : K loose c c') (line : SourceLine) :
    K loose (c.at_ line) (c'.at_ line)
  loosen {loose : Bool} {c c' : Site} (h : K loose c c') (line line' : SourceLine) :
    K true (c.at_ line) (c'.at_ line')
  headLine {loose : Bool} {c c' : Site} (h : K loose c c') :
    K loose (c.at_ (headLine c)) (c'.at_ (headLine c'))
  deeper {loose : Bool} {c c' : Site} (h : K loose c c') : K loose c.deeper c'.deeper
  mangled {loose : Bool} {c c' : Site} (h : K loose c c') {k : Kind} (hk : P k) {name : String}
    (hname : k.ownName? = some name) : c'.mangled name = c.mangled name
  readName {loose : Bool} {c c' : Site} (h : K loose c c') {id : String} {ctx : Context}
    (hk : P (.name id ctx)) :
    FollowsWhile D I (readName c (c.mangled id)) (readName c' (c.mangled id))
  writeName {loose : Bool} {c c' : Site} (h : K loose c c') {id : String}
    (hk : P (.name id .store)) (v : Value) :
    FollowsWhile D I (writeName c (c.mangled id) v) (writeName c' (c.mangled id) v)
  deleteName {loose : Bool} {c c' : Site} (h : K loose c c') {id : String}
    (hk : P (.name id .del)) :
    FollowsWhile D I (deleteName c (c.mangled id)) (deleteName c' (c.mangled id))
  pooled {loose : Bool} {c c' : Site} (h : K loose c c') (v : Value) :
    FollowsWhile D I (pooled c v) (pooled c' v)
  callHere {loose : Bool} {c c' : Site} (h : K loose c c') (f : Value) (args : List Value)
    (keywords : List (String × Value)) :
    FollowsWhile D I (aside c (callHere c f args keywords)) (aside c' (callHere c' f args keywords))
  aside {loose : Bool} {c c' : Site} (h : K loose c c') {α : Type} (x : Run α) :
    FollowsWhile D I (aside c x) (aside c' x)
  alloc (c : Cell) : FollowsWhile D I (alloc c) (alloc c)
  tellApart (v : Value) : FollowsWhile D I (tellApart v) (tellApart v)

/-- Code that stands where it stood, but for the line. -/
theorem Relocation.near (D : Parting) :
    Relocation D (fun _ => True) Site.Near fun _ => True := by
  have hsame : ∀ {loose : Bool} {c c' : Site} {α : Type} (x : Site → Run α), Site.Near loose c c' →
      (∀ (c : Site) line, x (c.at_ line) = x c) →
        FollowsWhile D (fun _ => True) (x c) (x c') :=
    fun x h hx => .of_eq (h.eq_of x hx) fun _ _ _ _ _ => trivial
  exact {
    at_ := fun h line => .inl (h.at_eq line)
    loosen := fun h line line' => h.loosen line line'
    headLine := fun h => h.headLine
    deeper := fun h => .inl h.deeper_eq
    mangled := fun {_ _ _} h _ _ name _ => h.eq_of (fun c => c.mangled name) fun _ _ => rfl
    readName := fun {_ c _} h id _ _ =>
      hsame (fun c' => Run.readName c' (c.mangled id)) h fun _ _ => rfl
    writeName := fun {_ c _} h id _ v =>
      hsame (fun c' => Run.writeName c' (c.mangled id) v) h fun _ _ => rfl
    deleteName := fun {_ c _} h id _ =>
      hsame (fun c' => Run.deleteName c' (c.mangled id)) h fun _ _ => rfl
    pooled := fun h v => hsame (fun c => Run.pooled c v) h fun _ _ => rfl
    callHere := fun h f args keywords =>
      hsame (fun c => Run.aside c (Run.callHere c f args keywords)) h fun _ _ => rfl
    aside := fun h _ x => hsame (fun c => Run.aside c x) h fun _ _ => rfl
    alloc := fun c => .refl fun _ _ _ _ _ => trivial
    tellApart := fun v => .refl fun _ _ _ _ _ => trivial }

/-- **Loops of comprehensions are entered alike**: both come to the same session, at sites that
correspond, unless the runs part here. The sites correspond in another way than those around, by the
frames that the loops have; what holds where the loops run holds around them. -/
structure EntersLike {W : Type} (D : Parting) (I : W → Session → Prop)
    (K : W → Bool → Site → Site → Prop) (n n' : Node) : Prop where
  exists_site {w : W} {loose : Bool} {c c' : Site} (hc : K w loose c c') (name : String) (i : Value)
    {s : Session} (hs : I w s) : ∃ w' d d' t,
      s.run (enterLoops c name n i) = (.ok d, t) ∧ I w' t ∧ K w' loose d d' ∧
        (∀ u, I w' u → I w u) ∧
        (s.run (enterLoops c' name n' i) = (.ok d', t) ∨ D.loses s (enterLoops c name n i))

/-- Whether what stands in a statement runs on the line of the statement. -/
def Code.Kind.hasOwnLine : Kind → Bool
  | .exprStmt | .assign | .augAssign _ | .annAssign | .returnStmt | .delete | .raise
  | .assertStmt => true
  | _ => false

/-- A node stands for one value in a call unless it is starred. What is a scope or a statement on a
line of its own is no target, gives nothing to names and is neither a loop of a comprehension nor a
constant. -/
theorem Meaning.ofKind_defaults (k : Kind) (slots : List (List Node)) (parts : List (List Meaning)) :
    ((∀ ctx, k ≠ .starred ctx) → ∀ c, (Meaning.ofKind k slots parts).spread c = (do
      return [← (Meaning.ofKind k slots parts).value c])) ∧
    (k.opensScope || k.hasOwnLine →
      (∀ c v, (Meaning.ofKind k slots parts).store c v = throw .unsupported) ∧
      (∀ c, (Meaning.ofKind k slots parts).remove c = throw .unsupported) ∧
      (∀ c f, (Meaning.ofKind k slots parts).update c f = throw .unsupported) ∧
      (∀ c, (Meaning.ofKind k slots parts).named c = pure []) ∧
      (∀ c given item gathered,
        (Meaning.ofKind k slots parts).loop c given item gathered = throw .unsupported) ∧
      (Meaning.ofKind k slots parts).isConstant = false) := by
  unfold Meaning.ofKind
  split <;> refine ⟨fun hk => ?_, fun hk => ?_⟩ <;>
    first | exact fun _ => rfl | exact absurd rfl (hk _) |
      exact ⟨fun _ _ => rfl, fun _ => rfl, fun _ _ => rfl, fun _ => rfl, fun _ _ _ _ => rfl, rfl⟩ |
      cases hk | skip
  -- what a name does hangs on its context, but not what it stands for in a call
  next ctx => cases ctx <;> exact fun _ => rfl

theorem Code.Node.spread_eq {n : Node} (h : n.isStarred = false) (c : Site) :
    n.meaning.spread c = (do return [← n.meaning.value c]) := by
  obtain ⟨k, slots⟩ := n
  refine (Meaning.ofKind_defaults k slots _).1 ?_ c
  rintro ctx rfl
  cases h

/-! ## Meanings -/

/-- **One meaning follows another**, as far as it is not that of a function. -/
structure Meaning.Follows (D : Parting) (I : Session → Prop) (K : Site → Site → Prop)
    (m m' : Meaning) : Prop where
  value : ∀ {c c' : Site}, K c c' → FollowsWhile D I (m.value c) (m'.value c')
  effect : ∀ {c c' : Site}, K c c' → FollowsWhile D I (m.effect c) (m'.effect c')
  store : ∀ {c c' : Site}, K c c' → ∀ v, FollowsWhile D I (m.store c v) (m'.store c' v)
  remove : ∀ {c c' : Site}, K c c' → FollowsWhile D I (m.remove c) (m'.remove c')
  update : ∀ {c c' : Site}, K c c' → ∀ {f f' : Value → Run Value},
    (∀ v, FollowsWhile D I (f v) (f' v)) → FollowsWhile D I (m.update c f) (m'.update c' f')
  spread : ∀ {c c' : Site}, K c c' → FollowsWhile D I (m.spread c) (m'.spread c')
  named : ∀ {c c' : Site}, K c c' → FollowsWhile D I (m.named c) (m'.named c')
  loop : ∀ {c c' : Site}, K c c' → ∀ (given : Option Value)
    {item item' : List Value → Run (List Value)},
    (∀ gathered, FollowsWhile D I (item gathered) (item' gathered)) → ∀ gathered,
      FollowsWhile D I (m.loop c given item gathered) (m'.loop c' given item' gathered)
  isConstant : m'.isConstant = m.isConstant

namespace Meaning.Follows

variable {D : Parting} {I : Session → Prop} {K : Site → Site → Prop} {c c' : Site}

/-- **A scope, or a statement on a line of its own**, follows another one if its value and its
effect do. -/
theorem ofDefaults {k : Kind} (hk : k.opensScope || k.hasOwnLine) {slots slots' : List (List Node)}
    {parts parts' : List (List Meaning)}
    (hvalue : ∀ {c c' : Site}, K c c' →
      FollowsWhile D I ((Meaning.ofKind k slots parts).value c)
        ((Meaning.ofKind k slots' parts').value c'))
    (heffect : ∀ {c c' : Site}, K c c' →
      FollowsWhile D I ((Meaning.ofKind k slots parts).effect c)
        ((Meaning.ofKind k slots' parts').effect c')) :
    Meaning.Follows D I K (.ofKind k slots parts) (.ofKind k slots' parts') := by
  have hstarred : ∀ ctx, k ≠ .starred ctx := by
    rintro ctx rfl
    cases hk
  obtain ⟨hspread, hdefaults⟩ := Meaning.ofKind_defaults k slots parts
  obtain ⟨hstore, hremove, hupdate, hnamed, hloop, hconstant⟩ := hdefaults hk
  obtain ⟨hspread', hdefaults'⟩ := Meaning.ofKind_defaults k slots' parts'
  obtain ⟨-, -, -, hnamed', -, hconstant'⟩ := hdefaults' hk
  refine ⟨hvalue, heffect, fun _ v => ?_, fun _ => ?_, fun _ f f' _ => ?_, fun hc => ?_,
    fun _ => ?_, fun _ given item item' _ gathered => ?_, ?_⟩
  · rw [hstore]
    exact .of_unsupported _
  · rw [hremove]
    exact .of_unsupported _
  · rw [hupdate]
    exact .of_unsupported _
  · rw [hspread hstarred, hspread' hstarred]
    exact (hvalue hc).map _
  · rw [hnamed, hnamed']
    exact .pure _
  · rw [hloop]
    exact .of_unsupported _
  · rw [hconstant, hconstant']

/-- The meaning of an expression that is only run for its value. -/
theorem ofValue {value value' : Site → Run Value} {isConstant isConstant' : Bool}
    (h : ∀ {c c' : Site}, K c c' → FollowsWhile D I (value c) (value' c'))
    (hconstant : isConstant' = isConstant) :
    Meaning.Follows D I K { value, isConstant } { value := value', isConstant := isConstant' }
    where
  value := h
  effect _ := .throw _
  store _ _ := .throw _
  remove _ := .throw _
  update _ := fun _ => .throw _
  spread hc := (h hc).map _
  named _ := .pure _
  loop _ _ _ _ _ _ := .throw _
  isConstant := hconstant

theorem empty : Meaning.Follows D I K {} {} := ofValue (fun _ => .throw _) rfl

/-- The meaning of a statement. -/
theorem ofEffect {effect effect' : Site → Run Signal}
    (h : ∀ {c c' : Site}, K c c' → FollowsWhile D I (effect c) (effect' c')) :
    Meaning.Follows D I K (.ofEffect effect) (.ofEffect effect') where
  value _ := .throw _
  effect := h
  store _ _ := .throw _
  remove _ := .throw _
  update _ := fun _ => .throw _
  spread _ := .throw _
  named _ := .pure _
  loop _ _ _ _ _ _ := .throw _
  isConstant := rfl

theorem ofAction {act act' : Site → Run Unit}
    (h : ∀ {c c' : Site}, K c c' → FollowsWhile D I (act c) (act' c')) :
    Meaning.Follows D I K (.ofAction act) (.ofAction act') :=
  ofEffect fun hc => (h hc).map _

/-! ## Lists of nodes -/

section Lists

variable {ms ms' : List Meaning} (h : Forall₂ (Meaning.Follows D I K) ms ms')
  (hc : K c c')
include h hc

theorem inOrder : FollowsWhile D I (inOrder c ms) (inOrder c' ms') := by
  induction h with
  | nil => exact .pure _
  | cons hm _ ih =>
    refine (hm.effect hc).bind fun signal => ?_
    cases signal with
    | next => exact ih
    | _ => exact .pure _

theorem spreadAll : FollowsWhile D I (spreadAll c ms) (Run.spreadAll c' ms') := by
  induction h with
  | nil => exact .pure _
  | cons hm _ ih => exact (hm.spread hc).bind fun vs => ih.map _

theorem namedAll : FollowsWhile D I (namedAll c ms) (Run.namedAll c' ms') := by
  induction h with
  | nil => exact .pure _
  | cons hm _ ih => exact (hm.named hc).bind fun vs => ih.map _

theorem storeAll (v : Value) : FollowsWhile D I (storeAll c v ms) (Run.storeAll c' v ms') := by
  induction h with
  | nil => exact .pure _
  | cons hm _ ih => exact (hm.store hc v).bind fun _ => ih

theorem storeEach (vs : List Value) :
    FollowsWhile D I (storeEach c ms vs) (Run.storeEach c' ms' vs) := by
  induction h generalizing vs with
  | nil => exact .pure _
  | cons hm _ ih =>
    cases vs with
    | nil => exact .pure _
    | cons v vs => exact (hm.store hc v).bind fun _ => ih vs

theorem removeAll :
    FollowsWhile D I (ms.mapM fun m => m.remove c) (ms'.mapM fun m => m.remove c') := by
  induction h with
  | nil => exact .pure _
  | cons hm _ ih =>
    rw [mapM_cons, mapM_cons]
    exact (hm.remove hc).bind fun _ => ih.map _

theorem valueOr (v : Value) : FollowsWhile D I (valueOr c v ms) (Run.valueOr c' v ms') := by
  rcases h with _ | ⟨he, _ | _⟩
  · exact .pure _
  · exact he.value hc
  · exact .pure _

end Lists

/-! ## Targets -/

section Relocated

variable {K : Bool → Site → Site → Prop} {P : Kind → Prop} {loose : Bool}

/-- Which targets take what is left over settles how a value is taken apart. -/
theorem takeApart_eq {nodes nodes' : List Node}
    (h : Forall₂ (fun n n' => n'.isStarred = n.isStarred) nodes nodes') (v : Value) :
    takeApart nodes' v = takeApart nodes v := by
  have hlength : nodes'.length = nodes.length := h.length_eq.symm
  have hbefore : (nodes'.takeWhile fun t => !t.isStarred).length =
      (nodes.takeWhile fun t => !t.isStarred).length := by
    clear hlength
    induction h with
    | nil => rfl
    | cons hn _ ih =>
      rw [takeWhile_cons, takeWhile_cons, hn]
      split
      · rw [length_cons, length_cons, ih]
      · rfl
  unfold takeApart
  rw [hlength, hbefore]

section Targets

variable (C : Relocation D I K P)

include C

theorem ofName {id : String} {ctx : Context} (hk : P (.name id ctx)) :
    Meaning.Follows D I (K loose) (.ofName id ctx) (.ofName id ctx) := by
  have hmangled : ∀ {c c' : Site}, K loose c c' → c'.mangled id = c.mangled id :=
    fun hc => C.mangled hc hk rfl
  have hread : ∀ {c c' : Site}, K loose c c' → FollowsWhile D I (readName c (c.mangled id))
      (readName c' (c'.mangled id)) := fun hc => by
    rw [hmangled hc]
    exact C.readName hc hk
  cases ctx with
  | load => exact ofValue hread rfl
  | store =>
    have hwrite : ∀ {c c' : Site}, K loose c c' → ∀ v, FollowsWhile D I
        (writeName c (c.mangled id) v) (writeName c' (c'.mangled id) v) := fun hc v => by
      rw [hmangled hc]
      exact C.writeName hc hk v
    exact {
      value := hread
      effect := fun _ => .throw _
      store := hwrite
      remove := fun _ => .throw _
      update := fun hc _ _ hf => (hread hc).bind fun v => (hf v).bind fun w => hwrite hc w
      spread := fun hc => (hread hc).map _
      named := fun _ => .pure _
      loop := fun _ _ _ _ _ _ => .throw _
      isConstant := rfl }
  | del =>
    have hdelete : ∀ {c c' : Site}, K loose c c' → FollowsWhile D I
        (deleteName c (c.mangled id)) (deleteName c' (c'.mangled id)) := fun hc => by
      rw [hmangled hc]
      exact C.deleteName hc hk
    exact {
      value := hread
      effect := fun _ => .throw _
      store := fun _ _ => .throw _
      remove := hdelete
      update := fun _ _ _ _ => .throw _
      spread := fun hc => (hread hc).map _
      named := fun _ => .pure _
      loop := fun _ _ _ _ _ _ => .throw _
      isConstant := rfl }

theorem ofMember {attr : String} {ctx : Context} (hk : P (.member attr ctx)) {e e' : Meaning}
    (h : e.Follows D I (K loose) e') :
    Meaning.Follows D I (K loose) (.ofMember attr e) (.ofMember attr e') := by
  have hmangled : ∀ {c c' : Site}, K loose c c' → c'.mangled attr = c.mangled attr :=
    fun hc => C.mangled hc hk rfl
  have hvalue : ∀ {c c' : Site}, K loose c c' → FollowsWhile D I
      ((Meaning.ofMember attr e).value c) ((Meaning.ofMember attr e').value c') :=
    fun hc => (h.value hc).bind fun v => by
      rw [hmangled hc]
      exact C.aside hc _
  exact {
    value := hvalue
    effect := fun _ => .throw _
    store := fun hc v => (h.value hc).bind fun w => by
      rw [hmangled hc]
      exact C.aside hc _
    remove := fun hc => (h.value hc).bind fun w => by
      rw [hmangled hc]
      exact C.aside hc _
    update := fun hc _ _ hf => (h.value hc).bind fun v => by
      rw [hmangled hc]
      exact (C.aside hc _).bind fun w => (hf w).bind fun u => C.aside hc _
    spread := fun hc => (hvalue hc).map _
    named := fun _ => .pure _
    loop := fun _ _ _ _ _ _ => .throw _
    isConstant := rfl }

theorem ofElement {e e' i i' : Meaning} (he : e.Follows D I (K loose) e')
    (hi : i.Follows D I (K loose) i') :
    Meaning.Follows D I (K loose) (.ofElement e i) (.ofElement e' i') := by
  have hvalue : ∀ {c c' : Site}, K loose c c' → FollowsWhile D I
      ((Meaning.ofElement e i).value c) ((Meaning.ofElement e' i').value c') :=
    fun hc => (he.value hc).bind fun v => (hi.value hc).bind fun index => C.aside hc _
  exact {
    value := hvalue
    effect := fun _ => .throw _
    store := fun hc w => (he.value hc).bind fun v => (hi.value hc).bind fun index => C.aside hc _
    remove := fun hc => (he.value hc).bind fun v => (hi.value hc).bind fun index => C.aside hc _
    update := fun hc _ _ hf => (he.value hc).bind fun v => (hi.value hc).bind fun index =>
      (C.aside hc _).bind fun w => (hf w).bind fun u => C.aside hc _
    spread := fun hc => (hvalue hc).map _
    named := fun _ => .pure _
    loop := fun _ _ _ _ _ _ => .throw _
    isConstant := rfl }

theorem ofItems {nodes nodes' : List Node} {parts parts' : List Meaning} {isConstant isConstant' : Bool}
    {build build' : Site → List Value → Run Value}
    (hnodes : Forall₂ (fun n n' => n'.isStarred = n.isStarred) nodes nodes')
    (h : Forall₂ (Meaning.Follows D I (K loose)) parts parts') (hconstant : isConstant' = isConstant)
    (hbuild : ∀ {c c' : Site}, K loose c c' → ∀ vs, FollowsWhile D I (build c vs) (build' c' vs)) :
    Meaning.Follows D I (K loose) (.ofItems nodes parts isConstant build)
      (.ofItems nodes' parts' isConstant' build') := by
  have hvalue : ∀ {c c' : Site}, K loose c c' →
      FollowsWhile D I ((Meaning.ofItems nodes parts isConstant build).value c)
        ((Meaning.ofItems nodes' parts' isConstant' build').value c') :=
    fun hc => (spreadAll h hc).bind fun vs => hbuild hc vs
  exact {
    value := hvalue
    effect := fun _ => .throw _
    store := fun hc v => .bind (takeApart_eq hnodes v ▸ C.aside hc _) fun vs => storeEach h hc vs
    remove := fun hc => (removeAll h hc).map _
    update := fun _ _ _ _ => .throw _
    spread := fun hc => (hvalue hc).map _
    named := fun _ => .pure _
    loop := fun _ _ _ _ _ _ => .throw _
    isConstant := hconstant }

end Targets

/-! ## Expressions -/

/-- Nodes that look alike to the node above them. -/
structure Alike (n n' : Node) : Prop where
  isStarred : n'.isStarred = n.isStarred
  isAbsent : n' = .absent ↔ n = .absent
  isConstant : n'.isConstant = n.isConstant
  isContinued : isContinued [n'] = isContinued [n]

section Kinds

variable {slots slots' : List (List Node)} {parts parts' : List (List Meaning)}

theorem computed (C : Relocation D I K P) (hc : K loose c c') (isConstant : Bool) (v : Value) :
    FollowsWhile D I (computed c isConstant v) (Run.computed c' isConstant v) :=
  .ite (C.pooled hc v) (C.tellApart v)

theorem constant (C : Relocation D I K P) (k : Constant) :
    Meaning.Follows D I (K loose) (.ofKind (.constant k) slots parts)
      (.ofKind (.constant k) slots' parts') := by
  refine ofValue (fun hc => ?_) rfl
  cases k with
  | none | bool | ellipsis => exact .pure _
  | points | foreign => exact .throw _
  | _ =>
    unfold constantValue
    exact C.pooled hc _

theorem member (C : Relocation D I K P) {attr : String} {ctx : Context}
    (hk : P (.member attr ctx))
    (h : Forall₂ (Forall₂ (Meaning.Follows D I (K loose))) parts parts') :
    Meaning.Follows D I (K loose) (.ofKind (.member attr ctx) slots parts)
      (.ofKind (.member attr ctx) slots' parts') := by
  rcases h with _ | ⟨_ | ⟨he, _ | _⟩, _ | _⟩
  all_goals first | exact empty | skip
  exact ofMember C hk he

theorem subscript (C : Relocation D I K P) {ctx : Context}
    (h : Forall₂ (Forall₂ (Meaning.Follows D I (K loose))) parts parts') :
    Meaning.Follows D I (K loose) (.ofKind (.subscript ctx) slots parts)
      (.ofKind (.subscript ctx) slots' parts') := by
  rcases h with _ | ⟨_ | ⟨he, _ | _⟩, _ | ⟨_ | ⟨hi, _ | _⟩, _ | _⟩⟩
  all_goals first | exact empty | skip
  exact ofElement C he hi

theorem list (C : Relocation D I K P) {ctx : Context} (hslots : Forall₂ (Forall₂ Alike) slots slots')
    (h : Forall₂ (Forall₂ (Meaning.Follows D I (K loose))) parts parts') :
    Meaning.Follows D I (K loose) (.ofKind (.list ctx) slots parts)
      (.ofKind (.list ctx) slots' parts') := by
  rcases hslots with _ | ⟨hnodes, _ | _⟩ <;> rcases h with _ | ⟨hes, _ | _⟩
  all_goals first | exact empty | skip
  exact ofItems C (hnodes.imp fun _ _ h => h.isStarred) hes rfl fun _ _ => C.alloc _

theorem all_isConstant {ms ms' : List Meaning} (h : Forall₂ (Meaning.Follows D I (K loose)) ms ms') :
    ms'.all Meaning.isConstant = ms.all Meaning.isConstant := by
  induction h with
  | nil => rfl
  | cons hm _ ih => rw [all_cons, all_cons, hm.isConstant, ih]

theorem tuple (C : Relocation D I K P) {ctx : Context} (hslots : Forall₂ (Forall₂ Alike) slots slots')
    (h : Forall₂ (Forall₂ (Meaning.Follows D I (K loose))) parts parts') :
    Meaning.Follows D I (K loose) (.ofKind (.tuple ctx) slots parts)
      (.ofKind (.tuple ctx) slots' parts') := by
  rcases hslots with _ | ⟨hnodes, _ | _⟩ <;> rcases h with _ | ⟨hes, _ | _⟩
  all_goals first | exact empty | skip
  refine ofItems C (hnodes.imp fun _ _ h => h.isStarred) hes (all_isConstant hes) fun hc vs => ?_
  rw [all_isConstant hes]
  exact computed C hc _ _

theorem starred (C : Relocation D I K P) {ctx : Context}
    (h : Forall₂ (Forall₂ (Meaning.Follows D I (K loose))) parts parts') :
    Meaning.Follows D I (K loose) (.ofKind (.starred ctx) slots parts)
      (.ofKind (.starred ctx) slots' parts') := by
  rcases h with _ | ⟨_ | ⟨he, _ | _⟩, _ | _⟩
  all_goals first | exact empty | skip
  exact {
    value := fun _ => .throw _
    effect := fun _ => .throw _
    store := he.store
    remove := fun _ => .throw _
    update := fun _ _ _ _ => .throw _
    spread := fun hc => (he.value hc).bind fun v => C.aside hc _
    named := fun _ => .pure _
    loop := fun _ _ _ _ _ _ => .throw _
    isConstant := rfl }

theorem binOp (C : Relocation D I K P) {op : BinaryOp}
    (h : Forall₂ (Forall₂ (Meaning.Follows D I (K loose))) parts parts') :
    Meaning.Follows D I (K loose) (.ofKind (.binOp op) slots parts)
      (.ofKind (.binOp op) slots' parts') := by
  rcases h with _ | ⟨_ | ⟨hl, _ | _⟩, _ | ⟨_ | ⟨hr, _ | _⟩, _ | _⟩⟩
  all_goals first | exact empty | skip
  refine ofValue (fun hc => (hl.value hc).bind fun v => (hr.value hc).bind fun w =>
    (C.aside hc _).bind fun u => ?_) (by rw [hl.isConstant, hr.isConstant])
  rw [hl.isConstant, hr.isConstant]
  exact computed C hc _ _

theorem unaryOp (C : Relocation D I K P) {op : UnaryOp}
    (h : Forall₂ (Forall₂ (Meaning.Follows D I (K loose))) parts parts') :
    Meaning.Follows D I (K loose) (.ofKind (.unaryOp op) slots parts)
      (.ofKind (.unaryOp op) slots' parts') := by
  rcases h with _ | ⟨_ | ⟨he, _ | _⟩, _ | _⟩
  all_goals first | exact empty | skip
  refine ofValue (fun hc => (he.value hc).bind fun v => (C.aside hc _).bind fun u => ?_)
    he.isConstant
  rw [he.isConstant]
  exact computed C hc _ _

section Lists

variable {ms ms' : List Meaning}

theorem decided (C : Relocation D I K P) (h : Forall₂ (Meaning.Follows D I (K loose)) ms ms')
    (hc : K loose c c') (op : BoolOp) :
    FollowsWhile D I (decided op c ms) (Run.decided op c' ms') := by
  induction h with
  | nil => exact .throw _
  | @cons _ _ es es' he hes ih =>
    cases hes with
    | nil => exact he.value hc
    | cons =>
      exact (he.value hc).bind fun v => (C.aside hc _).bind fun b => .ite (.pure _) ih

theorem compareChain (C : Relocation D I K P) (h : Forall₂ (Meaning.Follows D I (K loose)) ms ms')
    (hc : K loose c c') (v : Value) (ops : List CompareOp) :
    FollowsWhile D I (compareChain c v ops ms) (Run.compareChain c' v ops ms') := by
  induction h generalizing v ops with
  | nil =>
    rcases ops with _ | ⟨op, _ | ⟨op', ops⟩⟩ <;> exact .throw _
  | @cons e e' es es' he hes ih =>
    have hnext : ∀ op ops, FollowsWhile D I
        (e.value c >>= fun w => aside c (comparison op v w) >>= fun holds =>
          aside c (isTrue holds) >>= fun b =>
            if b then Run.compareChain c w ops es else pure holds)
        (e'.value c' >>= fun w => aside c' (comparison op v w) >>= fun holds =>
          aside c' (isTrue holds) >>= fun b =>
            if b then Run.compareChain c' w ops es' else pure holds) := fun op ops =>
      (he.value hc).bind fun w => (C.aside hc _).bind fun holds => (C.aside hc _).bind fun b =>
        .ite (ih w ops) (.pure _)
    rcases ops with _ | ⟨op, _ | ⟨op', ops⟩⟩
    · exact .throw _
    · cases hes with
      | nil => exact (he.value hc).bind fun w => C.aside hc _
      | cons => exact hnext op []
    · exact hnext op (op' :: ops)

theorem allTrue (C : Relocation D I K P) (h : Forall₂ (Meaning.Follows D I (K loose)) ms ms')
    (hc : K loose c c') : FollowsWhile D I (allTrue c ms) (Run.allTrue c' ms') := by
  induction h with
  | nil => exact .pure _
  | cons he _ ih => exact (he.value hc).bind fun v => (C.aside hc _).bind fun b => .ite ih (.pure _)

end Lists

theorem boolOp (C : Relocation D I K P) {op : BoolOp}
    (h : Forall₂ (Forall₂ (Meaning.Follows D I (K loose))) parts parts') :
    Meaning.Follows D I (K loose) (.ofKind (.boolOp op) slots parts)
      (.ofKind (.boolOp op) slots' parts') := by
  rcases h with _ | ⟨hes, _ | _⟩
  all_goals first | exact empty | skip
  exact ofValue (fun hc => decided C hes hc op) rfl

theorem compare (C : Relocation D I K P) {ops : List CompareOp}
    (h : Forall₂ (Forall₂ (Meaning.Follows D I (K loose))) parts parts') :
    Meaning.Follows D I (K loose) (.ofKind (.compare ops) slots parts)
      (.ofKind (.compare ops) slots' parts') := by
  rcases h with _ | ⟨_ | ⟨hl, _ | _⟩, _ | ⟨hes, _ | _⟩⟩
  all_goals first | exact empty | skip
  exact ofValue (fun hc => (hl.value hc).bind fun v => compareChain C hes hc v ops) rfl

theorem ifExp (C : Relocation D I K P)
    (h : Forall₂ (Forall₂ (Meaning.Follows D I (K loose))) parts parts') :
    Meaning.Follows D I (K loose) (.ofKind .ifExp slots parts) (.ofKind .ifExp slots' parts') := by
  rcases h with _ | ⟨_ | ⟨ht, _ | _⟩, _ | ⟨_ | ⟨hb, _ | _⟩, _ | ⟨_ | ⟨ho, _ | _⟩, _ | _⟩⟩⟩
  all_goals first | exact empty | skip
  exact ofValue (fun hc => (ht.value hc).bind fun v => (C.aside hc _).bind fun b =>
    .ite (hb.value hc) (ho.value hc)) rfl

theorem call (C : Relocation D I K P)
    (h : Forall₂ (Forall₂ (Meaning.Follows D I (K loose))) parts parts') :
    Meaning.Follows D I (K loose) (.ofKind .call slots parts) (.ofKind .call slots' parts') := by
  rcases h with _ | ⟨_ | ⟨hf, _ | _⟩, _ | ⟨hargs, _ | ⟨hkeywords, _ | _⟩⟩⟩
  all_goals first | exact empty | skip
  exact ofValue (fun hc => (hf.value hc).bind fun g => (spreadAll hargs hc).bind fun vs =>
    (namedAll hkeywords hc).bind fun keywords => C.callHere hc _ _ _) rfl

theorem ofNamed {named named' : Site → Run (List (String × Value))}
    (h : ∀ {c c' : Site}, K loose c c' → FollowsWhile D I (named c) (named' c')) :
    Meaning.Follows D I (K loose) { named } { named := named' } where
  value _ := .throw _
  effect _ := .throw _
  store _ _ := .throw _
  remove _ := .throw _
  update _ := fun _ => .throw _
  spread _ := .throw _
  named := h
  loop _ _ _ _ _ _ := .throw _
  isConstant := rfl

theorem keyword (C : Relocation D I K P) {name : Option String}
    (h : Forall₂ (Forall₂ (Meaning.Follows D I (K loose))) parts parts') :
    Meaning.Follows D I (K loose) (.ofKind (.keyword name) slots parts)
      (.ofKind (.keyword name) slots' parts') := by
  rcases h with _ | ⟨_ | ⟨he, _ | _⟩, _ | _⟩ <;> cases name
  all_goals first | exact empty | skip
  · exact ofNamed fun hc => (he.value hc).bind fun v => C.aside hc _
  · exact ofNamed fun hc => (he.value hc).map _

/-- **A loop of a comprehension.** -/
theorem comprehension (C : Relocation D I K P) {isAsync : Bool}
    (h : Forall₂ (Forall₂ (Meaning.Follows D I (K loose))) parts parts') :
    Meaning.Follows D I (K loose) (.ofKind (.comprehension isAsync) slots parts)
      (.ofKind (.comprehension isAsync) slots' parts') := by
  rcases h with _ | ⟨_ | ⟨ht, _ | _⟩, _ | ⟨_ | ⟨hi, _ | _⟩, _ | ⟨hifs, _ | _⟩⟩⟩ <;> cases isAsync
  all_goals first | exact empty | skip
  exact {
    value := hi.value
    effect := fun _ => .throw _
    store := fun _ _ => .throw _
    remove := fun _ => .throw _
    update := fun _ _ _ _ => .throw _
    spread := fun hc => (hi.value hc).map _
    named := fun _ => .pure _
    loop := fun {c c'} hc given item item' hitem gathered => by
      have hrounds : ∀ i, FollowsWhile D I (loopRounds c i _ _ item gathered)
          (loopRounds c' i _ _ item' gathered) := fun i =>
        .iterate (fun gathered => (C.aside hc _).bind fun next => by
          cases next with
          | none => exact .pure _
          | some v =>
            exact (ht.store hc v).bind fun _ => (allTrue C hifs hc).bind fun b =>
              .ite ((hitem gathered).map _) (.pure _)) _ _
      cases given with
      | some i => exact hrounds i
      | none => exact (hi.value hc).bind fun v => (C.aside hc _).bind hrounds
    isConstant := rfl }

theorem displayEntries_nil (c : Site) (keys : List Node) (vs : List Meaning) :
    Run.displayEntries c keys [] vs = pure [] := by
  rw [Run.displayEntries] <;> intros <;> contradiction

theorem displayEntries_nil' (c : Site) (keys : List Node) (ks : List Meaning) :
    Run.displayEntries c keys ks [] = pure [] := by
  rw [Run.displayEntries] <;> intros <;> contradiction

theorem displayEntries_cons {c : Site} {key : Node} (h : key ≠ .absent) (keys : List Node)
    (k v : Meaning) (ks vs : List Meaning) :
    Run.displayEntries c (key :: keys) (k :: ks) (v :: vs) = do
      let u ← k.value c
      let w ← v.value c
      return (u, w) :: (← Run.displayEntries c keys ks vs) := by
  rw [Run.displayEntries]
  exact h

theorem displayEntries (C : Relocation D I K P) {keys keys' : List Node} {ks ks' vs vs' : List Meaning}
    (hkeys : Forall₂ Alike keys keys') (hks : Forall₂ (Meaning.Follows D I (K loose)) ks ks')
    (hvs : Forall₂ (Meaning.Follows D I (K loose)) vs vs') (hc : K loose c c') :
    FollowsWhile D I (displayEntries c keys ks vs) (Run.displayEntries c' keys' ks' vs') := by
  induction hkeys generalizing ks ks' vs vs' with
  | nil => exact .pure _
  | @cons key key' keys keys' hkey _ ih =>
    rcases hks with _ | ⟨hk, hks⟩
    · rw [displayEntries_nil, displayEntries_nil]
      exact .pure _
    rcases hvs with _ | ⟨hv, hvs⟩
    · rw [displayEntries_nil', displayEntries_nil']
      exact .pure _
    by_cases habsent : key = .absent
    · obtain rfl := hkey.isAbsent.2 habsent
      obtain rfl := habsent
      exact (hv.value hc).bind fun v => (C.aside hc _).bind fun entries => (ih hks hvs).map _
    · rw [displayEntries_cons habsent, displayEntries_cons (mt hkey.isAbsent.1 habsent)]
      exact (hk.value hc).bind fun k => (hv.value hc).bind fun v => (ih hks hvs).map _

theorem dict (C : Relocation D I K P) (hslots : Forall₂ (Forall₂ Alike) slots slots')
    (h : Forall₂ (Forall₂ (Meaning.Follows D I (K loose))) parts parts') :
    Meaning.Follows D I (K loose) (.ofKind .dict slots parts) (.ofKind .dict slots' parts') := by
  rcases hslots with _ | ⟨hkeys, _ | ⟨_, _ | _⟩⟩ <;> rcases h with _ | ⟨hks, _ | ⟨hvs, _ | _⟩⟩
  all_goals first | exact empty | skip
  exact ofValue (fun hc => (displayEntries C hkeys hks hvs hc).bind fun entries =>
    (C.aside hc _).bind fun _ => C.alloc _) rfl

theorem set (C : Relocation D I K P)
    (h : Forall₂ (Forall₂ (Meaning.Follows D I (K loose))) parts parts') :
    Meaning.Follows D I (K loose) (.ofKind .set slots parts) (.ofKind .set slots' parts') := by
  rcases h with _ | ⟨hes, _ | _⟩
  all_goals first | exact empty | skip
  exact ofValue (fun hc => (spreadAll hes hc).bind fun vs =>
    (C.aside hc _).bind fun _ => C.alloc _) rfl

theorem slice (C : Relocation D I K P)
    (h : Forall₂ (Forall₂ (Meaning.Follows D I (K loose))) parts parts') :
    Meaning.Follows D I (K loose) (.ofKind .slice slots parts) (.ofKind .slice slots' parts') := by
  rcases h with _ | ⟨hlower, _ | ⟨hupper, _ | ⟨hstep, _ | _⟩⟩⟩
  all_goals first | exact empty | skip
  exact ofValue (fun hc => (valueOr hlower hc _).bind fun start =>
    (valueOr hupper hc _).bind fun stop => (valueOr hstep hc _).bind fun step => C.tellApart _) rfl

theorem namedExpr (h : Forall₂ (Forall₂ (Meaning.Follows D I (K loose))) parts parts') :
    Meaning.Follows D I (K loose) (.ofKind .namedExpr slots parts)
      (.ofKind .namedExpr slots' parts') := by
  rcases h with _ | ⟨_ | ⟨ht, _ | _⟩, _ | ⟨_ | ⟨he, _ | _⟩, _ | _⟩⟩
  all_goals first | exact empty | skip
  exact ofValue (fun hc => (he.value hc).bind fun v => (ht.store hc v).map _) rfl

theorem yield (C : Relocation D I K P)
    (h : Forall₂ (Forall₂ (Meaning.Follows D I (K loose))) parts parts') :
    Meaning.Follows D I (K loose) (.ofKind .yield slots parts) (.ofKind .yield slots' parts') := by
  rcases h with _ | ⟨he, _ | _⟩
  all_goals first | exact empty | skip
  exact ofValue (fun hc => (valueOr he hc _).bind fun v => C.aside hc _) rfl

/-! ## Statements on a line of their own -/

section Lines

variable (C : Relocation D I K P) (h : Forall₂ (Forall₂ (Meaning.Follows D I (K true))) parts parts')
include C h

theorem exprStmt (hslots : Forall₂ (Forall₂ Alike) slots slots') :
    Meaning.Follows D I (K loose) (.ofKind .exprStmt slots parts) (.ofKind .exprStmt slots' parts') := by
  rcases hslots with _ | ⟨_ | ⟨hn, _ | _⟩, _ | _⟩ <;> rcases h with _ | ⟨_ | ⟨he, _ | _⟩, _ | _⟩
  all_goals first | exact empty | skip
  refine ofAction fun hc => ?_
  rw [hn.isConstant]
  exact .ite ((he.value (C.loosen hc _ _)).map _) (.pure _)

theorem assign :
    Meaning.Follows D I (K loose) (.ofKind .assign slots parts) (.ofKind .assign slots' parts') := by
  rcases h with _ | ⟨htargets, _ | ⟨_ | ⟨he, _ | _⟩, _ | _⟩⟩
  all_goals first | exact empty | skip
  exact ofAction fun hc => (he.value (C.loosen hc _ _)).bind fun v =>
    storeAll htargets (C.loosen hc _ _) v

theorem augAssign {op : BinaryOp} :
    Meaning.Follows D I (K loose) (.ofKind (.augAssign op) slots parts)
      (.ofKind (.augAssign op) slots' parts') := by
  rcases h with _ | ⟨_ | ⟨ht, _ | _⟩, _ | ⟨_ | ⟨he, _ | _⟩, _ | _⟩⟩
  all_goals first | exact empty | skip
  exact ofAction fun hc => ht.update (C.loosen hc _ _) fun v =>
    (he.value (C.loosen hc _ _)).bind fun w => (C.aside hc _).bind fun u => C.tellApart u

theorem annAssign :
    Meaning.Follows D I (K loose) (.ofKind .annAssign slots parts)
      (.ofKind .annAssign slots' parts') := by
  rcases h with _ | ⟨_ | ⟨ht, _ | _⟩, _ | ⟨_, _ | ⟨_ | ⟨he, _ | _⟩, _ | _⟩⟩⟩
  all_goals first | exact empty | exact ofEffect fun _ => .pure _ | skip
  exact ofAction fun hc => (he.value (C.loosen hc _ _)).bind fun v => ht.store (C.loosen hc _ _) v

theorem returnStmt :
    Meaning.Follows D I (K loose) (.ofKind .returnStmt slots parts)
      (.ofKind .returnStmt slots' parts') := by
  rcases h with _ | ⟨he, _ | _⟩
  all_goals first | exact empty | skip
  exact ofEffect fun hc => (valueOr he (C.loosen hc _ _) _).map _

theorem delete :
    Meaning.Follows D I (K loose) (.ofKind .delete slots parts) (.ofKind .delete slots' parts') := by
  rcases h with _ | ⟨htargets, _ | _⟩
  all_goals first | exact empty | skip
  exact ofAction fun hc => (removeAll htargets (C.loosen hc _ _)).map _

theorem raise :
    Meaning.Follows D I (K loose) (.ofKind .raise slots parts) (.ofKind .raise slots' parts') := by
  rcases h with _ | ⟨_ | ⟨he, _ | ⟨he', hes⟩⟩, _ | ⟨hcause, _ | _⟩⟩
  all_goals first | exact empty | exact ofEffect fun _ => .throw _ | skip
  exact ofEffect fun hc => (he.value (C.loosen hc _ _)).bind fun v =>
    (valueOr hcause (C.loosen hc _ _) _).bind fun _ => (C.aside hc _).bind fun e => .throw e

theorem assertStmt :
    Meaning.Follows D I (K loose) (.ofKind .assertStmt slots parts)
      (.ofKind .assertStmt slots' parts') := by
  rcases h with _ | ⟨_ | ⟨ht, _ | _⟩, _ | ⟨hmessage, _ | _⟩⟩
  all_goals first | exact empty | skip
  exact ofAction fun hc => (ht.value (C.loosen hc _ _)).bind fun v =>
    (C.aside hc _).bind fun b =>
      .ite ((valueOr hmessage (C.loosen hc _ _) _).bind fun _ => .throw _) (.pure _)

end Lines

/-! ## Statements with blocks -/

theorem isContinued_eq {others others' : List Node} (h : Forall₂ Alike others others') :
    isContinued others' = isContinued others := by
  rcases h with _ | ⟨hn, _ | _⟩
  · rfl
  · exact hn.isContinued
  · rw [isContinued, isContinued] <;> simp

theorem ifStmt (C : Relocation D I K P) (hslots : Forall₂ (Forall₂ Alike) slots slots')
    (h : Forall₂ (Forall₂ (Meaning.Follows D I (K loose))) parts parts') :
    Meaning.Follows D I (K loose) (.ofKind .ifStmt slots parts) (.ofKind .ifStmt slots' parts') := by
  rcases hslots with _ | ⟨_, _ | ⟨_, _ | ⟨hothers, _ | _⟩⟩⟩ <;>
    rcases h with _ | ⟨_ | ⟨ht, _ | _⟩, _ | ⟨hbody, _ | ⟨horelse, _ | _⟩⟩⟩
  all_goals first | exact empty | skip
  refine ofEffect fun hc => (ht.value (C.headLine hc)).bind fun v =>
    (C.aside hc _).bind fun b => ?_
  rw [isContinued_eq hothers]
  exact .ite (inOrder hbody (C.deeper hc))
    (.ite (inOrder horelse (C.at_ hc _)) (inOrder horelse (C.deeper hc)))

/-- **Loops whose rounds follow each other.** -/
theorem rounds {orelse orelse' : Run Signal} {round round' : Run (Option Signal)}
    (horelse : FollowsWhile D I orelse orelse') (h : FollowsWhile D I round round') :
    FollowsWhile D I (Run.rounds orelse round) (Run.rounds orelse' round') := by
  refine .iterate (fun _ => h.bind fun signal => ?_) _ _
  rcases signal with _ | signal
  · exact horelse.map _
  · cases signal <;> exact .pure _

theorem whileStmt (C : Relocation D I K P)
    (h : Forall₂ (Forall₂ (Meaning.Follows D I (K loose))) parts parts') :
    Meaning.Follows D I (K loose) (.ofKind .whileStmt slots parts)
      (.ofKind .whileStmt slots' parts') := by
  rcases h with _ | ⟨_ | ⟨ht, _ | _⟩, _ | ⟨hbody, _ | ⟨horelse, _ | _⟩⟩⟩
  all_goals first | exact empty | skip
  exact ofEffect fun hc => rounds (inOrder horelse (C.deeper hc))
    ((ht.value (C.at_ hc _)).bind fun v => (C.aside hc _).bind fun b =>
      .ite ((inOrder hbody (C.deeper hc)).map _) (.pure _))

theorem forStmt (C : Relocation D I K P) {isAsync : Bool}
    (h : Forall₂ (Forall₂ (Meaning.Follows D I (K loose))) parts parts') :
    Meaning.Follows D I (K loose) (.ofKind (.forStmt isAsync) slots parts)
      (.ofKind (.forStmt isAsync) slots' parts') := by
  rcases h with _ | ⟨_ | ⟨ht, _ | _⟩, _ | ⟨_ | ⟨hi, _ | _⟩, _ | ⟨hbody, _ | ⟨horelse, _ | _⟩⟩⟩⟩ <;>
    cases isAsync
  all_goals first | exact empty | skip
  refine ofEffect fun hc => (hi.value (C.at_ hc _)).bind fun v =>
    (C.aside hc _).bind fun i =>
      rounds (inOrder horelse (C.deeper hc)) ((C.aside hc _).bind fun next => ?_)
  cases next with
  | none => exact .pure _
  | some v =>
    exact (ht.store (C.at_ hc _) v).bind fun _ => (inOrder hbody (C.deeper hc)).map _

/-! ## Parts -/

theorem arguments (hslots : Forall₂ (Forall₂ Alike) slots slots')
    (h : Forall₂ (Forall₂ (Meaning.Follows D I (K loose))) parts parts') :
    Meaning.Follows D I (K loose) (.ofKind .arguments slots parts)
      (.ofKind .arguments slots' parts') := by
  rcases hslots with _ | ⟨_, _ | ⟨_, _ | ⟨_, _ | ⟨_, _ | ⟨_, _ | ⟨_, _ | ⟨_, _ | _⟩⟩⟩⟩⟩⟩⟩ <;>
    rcases h with _ | ⟨hposonly, _ | ⟨hargs, _ | ⟨hvararg, _ | ⟨hkwonly, _ | ⟨_, _ | ⟨hkwarg,
      _ | ⟨_, _ | _⟩⟩⟩⟩⟩⟩⟩
  all_goals first | exact empty | skip
  have hall := rel_append (rel_append (rel_append (rel_append hargs hposonly) hvararg) hkwonly) hkwarg
  exact {
    value := fun _ => .throw _
    effect := fun _ => .throw _
    store := fun _ _ => .throw _
    remove := fun _ => .throw _
    update := fun _ _ _ _ => .throw _
    spread := fun _ => .throw _
    named := fun hc => namedAll hall hc
    loop := fun _ _ _ _ _ _ => .throw _
    isConstant := rfl }

theorem arg (C : Relocation D I K P) {id : String} (hk : P (.arg id))
    (h : Forall₂ (Forall₂ (Meaning.Follows D I (K loose))) parts parts') :
    Meaning.Follows D I (K loose) (.ofKind (.arg id) slots parts) (.ofKind (.arg id) slots' parts') := by
  rcases h with _ | ⟨_ | ⟨he, _ | _⟩, _ | _⟩
  all_goals first | exact empty | skip
  refine ofNamed fun hc => (he.value hc).bind fun v => ?_
  rw [C.mangled hc hk rfl]
  exact .pure _

/-! ## All kinds -/

/-- **A node that opens no scope follows another of its kind** if the nodes below follow each other
and look alike. -/
theorem ofKind (C : Relocation D I K P) {k : Kind} (hk : k.opensScope = false)
    (hP : P k) (hslots : Forall₂ (Forall₂ Alike) slots slots')
    (h : Forall₂ (Forall₂ (Meaning.Follows D I (K (k.hasOwnLine || loose)))) parts parts') :
    Meaning.Follows D I (K loose) (.ofKind k slots parts) (.ofKind k slots' parts') := by
  cases k with
  | functionDef | classDef | lambda | listComp | setComp | dictComp | generatorExp => cases hk
  | returnStmt => exact returnStmt C h
  | delete => exact delete C h
  | assign => exact assign C h
  | augAssign => exact augAssign C h
  | annAssign => exact annAssign C h
  | forStmt => exact forStmt C h
  | whileStmt => exact whileStmt C h
  | ifStmt => exact ifStmt C hslots h
  | raise => exact raise C h
  | assertStmt => exact assertStmt C h
  | exprStmt => exact exprStmt C h hslots
  | globalStmt | nonlocalStmt | pass | breakStmt | continueStmt => exact ofEffect fun _ => .pure _
  | boolOp => exact boolOp C h
  | namedExpr => exact namedExpr h
  | binOp => exact binOp C h
  | unaryOp => exact unaryOp C h
  | ifExp => exact ifExp C h
  | dict => exact dict C hslots h
  | set => exact set C h
  | yield => exact yield C h
  | compare => exact compare C h
  | call => exact call C h
  | constant k => exact constant C k
  | member => exact member C hP h
  | subscript => exact subscript C h
  | starred => exact starred C h
  | name => exact ofName C hP
  | list => exact list C hslots h
  | tuple => exact tuple C hslots h
  | slice => exact slice C h
  | comprehension => exact comprehension C h
  | arguments => exact arguments hslots h
  | arg => exact arg C hP h
  | keyword => exact keyword C h
  | withStmt | tryStmt | importStmt | importFrom | await | yieldFrom | exceptHandler
  | importedName | withItem | absent => exact empty

end Kinds

end Relocated

/-! ## Comprehensions -/

section Comprehensions

variable {W : Type} {I : W → Session → Prop} {K : W → Bool → Site → Site → Prop} {P : Kind → Prop}
  {loose : Bool} {n n' : Node} {ms ms' : List Meaning}

/-- What the loops of a comprehension gather. -/
theorem gather {I : Session → Prop} {K : Site → Site → Prop}
    (h : Forall₂ (Meaning.Follows D I K) ms ms') (hc : K c c')
    {item item' : List Value → Run (List Value)}
    (hitem : ∀ gathered, FollowsWhile D I (item gathered) (item' gathered)) (given : Option Value)
    (gathered : List Value) :
    FollowsWhile D I (gather c item ms given gathered) (Run.gather c' item' ms' given gathered) := by
  induction h generalizing given gathered with
  | nil => exact hitem gathered
  | cons hm _ ih => exact hm.loop hc given (ih none) gathered

/-- **A comprehension that runs at once follows another one** if its loops are entered alike, and
its parts follow around the loops and in them. -/
theorem comprehend (C : ∀ w, Relocation D (I w) (K w) P) (henter : EntersLike D I K n n')
    (hloops : ∀ w, Forall₂ (Meaning.Follows D (I w) (K w loose)) ms ms')
    {item item' : Site → List Value → Run (List Value)}
    (hitem : ∀ {w c c'}, K w loose c c' → ∀ vs, FollowsWhile D (I w) (item c vs) (item' c' vs))
    (name : String) (build : List Value → Run Value) {w : W} {c c' : Site} (hc : K w loose c c') :
    FollowsWhile D (I w) (comprehend c name n ms item build)
      (Run.comprehend c' name n' ms' item' build) := by
  have hfirst : FollowsWhile D (I w) (firstIterator c ms) (firstIterator c' ms') := by
    cases hloops w with
    | nil => exact .throw _
    | cons hm _ => exact (hm.value hc).bind fun v => (C w).aside hc _
  have hbuild : ∀ {w d d'}, K w loose d d' → ∀ i, FollowsWhile D (I w)
      (Run.gather d (item d) ms (some i) [] >>= fun gathered => aside d (build gathered.reverse))
      (Run.gather d' (item' d') ms' (some i) [] >>= fun gathered =>
        aside d' (build gathered.reverse)) := fun hd i =>
    (gather (hloops _) hd (hitem hd) _ _).bind fun _ => (C _).aside hd _
  refine hfirst.bind fun i => ⟨fun s hs => ?_, fun s v u hs hu => ?_⟩
  · obtain ⟨w', d, d', t, hrun, ht, hd, -, hrun' | hloses⟩ := henter.exists_site hc name i hs
    · exact .bind_apart hrun hrun' ((hbuild hd i).follows t ht)
    · exact .loses (.first _ .here) hloses
  · obtain ⟨w', d, d', t, hrun, ht, hd, haround, -⟩ := henter.exists_site hc name i hs
    obtain ⟨d₁, t₁, hrun₁, hu⟩ := Session.exists_of_run_bind hu
    obtain ⟨hd₁, rfl⟩ := Prod.mk.inj (hrun.symm.trans hrun₁)
    obtain rfl := Except.ok.inj hd₁
    exact haround u ((hbuild hd i).keeps t v u ht hu)

section Kinds

variable {slots slots' : List (List Node)} {parts parts' : List (List Meaning)}
  (C : ∀ w, Relocation D (I w) (K w) P)
include C

theorem itemsComp {k : Kind} (hk : k = .listComp ∨ k = .setComp)
    (henter : EntersLike D I K (.mk k slots) (.mk k slots'))
    (h : ∀ w, Forall₂ (Forall₂ (Meaning.Follows D (I w) (K w loose))) parts parts') (w : W) :
    Meaning.Follows D (I w) (K w loose) (.ofKind k slots parts) (.ofKind k slots' parts') := by
  rcases hk with rfl | rfl <;> rcases h w with _ | ⟨_ | ⟨-, _ | _⟩, _ | ⟨-, _ | _⟩⟩
  all_goals first | exact empty | skip
  all_goals
    simp only [forall₂_cons] at h
    exact ofValue (comprehend C henter (fun w => (h w).2.1)
      (fun hc vs => ((h _).1.1.value hc).map _) _ _) rfl

theorem dictComp (henter : EntersLike D I K (.mk .dictComp slots) (.mk .dictComp slots'))
    (h : ∀ w, Forall₂ (Forall₂ (Meaning.Follows D (I w) (K w loose))) parts parts') (w : W) :
    Meaning.Follows D (I w) (K w loose) (.ofKind .dictComp slots parts)
      (.ofKind .dictComp slots' parts') := by
  rcases h w with _ | ⟨_ | ⟨-, _ | _⟩, _ | ⟨_ | ⟨-, _ | _⟩, _ | ⟨-, _ | _⟩⟩⟩
  all_goals first | exact empty | skip
  simp only [forall₂_cons] at h
  exact ofValue (comprehend C henter (fun w => (h w).2.2.1)
    (fun hc vs => ((h _).1.1.value hc).bind fun key => ((h _).2.1.1.value hc).map _) _ _) rfl

end Kinds

/-- **A node that keeps no code follows another of its kind** if the nodes below follow each other
and look alike, and the loops of comprehensions are entered alike. -/
theorem ofKindAt (C : ∀ w, Relocation D (I w) (K w) P) {k : Kind}
    {slots slots' : List (List Node)} {parts parts' : List (List Meaning)}
    (hk : k.keepsCode = false) (hP : P k) (hslots : Forall₂ (Forall₂ Alike) slots slots')
    (henter : k.opensScope → EntersLike D I K (.mk k slots) (.mk k slots'))
    (h : ∀ w, Forall₂ (Forall₂ (Meaning.Follows D (I w) (K w (k.hasOwnLine || loose)))) parts parts')
    (w : W) :
    Meaning.Follows D (I w) (K w loose) (.ofKind k slots parts) (.ofKind k slots' parts') := by
  cases hopens : k.opensScope with
  | false => exact ofKind (C w) hopens hP hslots (h w)
  | true =>
    cases k with
    | listComp => exact itemsComp C (.inl rfl) (henter rfl) h w
    | setComp => exact itemsComp C (.inr rfl) (henter rfl) h w
    | dictComp => exact dictComp C (henter rfl) h w
    | functionDef | classDef | lambda | generatorExp => cases hk
    | _ => cases hopens

end Comprehensions

end Meaning.Follows

end Narrowing
