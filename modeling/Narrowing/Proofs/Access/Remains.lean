import Narrowing.Proofs.Access.Rewrite
/-!
# What rewriting leaves

A subscript is made of the variable and the index, and of nothing else of the call that it
takes the place of. So the function of that call is dropped, whatever it is: a name, or an
attribute of any expression at all. All other nodes are left, in their order
(`Rewriter.leaves_applyList`). One that is not replaced keeps its kind, and one below a
replaced call hangs on the subscript where it hung on the call.

The work a body does is in its calls, its assignments inside expressions, and in what waits
or yields. What is dropped does work just if it hangs below the attribute spelling of an
access, and then the work is lost (`Rewriter.work_of_apply`).
-/

namespace Narrowing

open Code Node

namespace Code

/-- **What does work** when it is run: calls, assignments inside expressions, and what waits
or yields. -/
def Kind.works : Kind → Bool
  | .call | .await | .namedExpr | .yield | .yieldFrom => true
  | _ => false

/-- The work in a body, in its order. -/
def workOf (body : List Node) : List Node :=
  ((placesOfBody body).filter (·.node.kind.works)).map Place.node

/-- **Where the end of a way down hangs**: the kind of the last node on it, and the slot. -/
def seatOf : List Step → Option (Kind × Nat)
  | [] => none
  | s :: _ => some (s.node.kind, s.slot)

/-- **The places of what an attribute spelling hangs off**: of the expression whose attribute
is called at a place. -/
def Place.hungOff (p : Place) : List Place :=
  match p.node with
  | .call (.member value f ctx) _ _ =>
    value.places (⟨.member value f ctx, 0, 0⟩ :: ⟨p.node, 0, 0⟩ :: p.above)
  | _ => []

end Code

namespace Rewriter

/-- **Whether a way down leads into what is dropped**: into the function of a call that is
replaced. -/
def drops (r : Rewriter) : List Step → Bool
  | [] => false
  | s :: above => (s.slot == 0 && r.replaces ⟨above, s.node⟩) || drops r above

/-- Where the end of a way down hangs afterwards. The arguments of a call that is replaced
have become the value and the slice of a subscript. -/
def seat (r : Rewriter) : List Step → Option (Kind × Nat)
  | [] => none
  | s :: above =>
    some (if r.replaces ⟨above, s.node⟩ then (.subscript .load, s.index)
      else (s.node.kind, s.slot))

/-- **What has become of a place.** -/
def become (r : Rewriter) (p : Place) : Node := p.node.rebuild r.change p.above

/-- The work in a body but for the accesses that are replaced themselves. -/
def work (r : Rewriter) (body : List Node) : List Place :=
  (placesOfBody body).filter fun p => p.node.kind.works && !r.replaces p

/-- **The places that are left**: of some places those that are not dropped, as what has
become of them and where it hangs. -/
def Leaves (r : Rewriter) (ps qs : List Place) : Prop :=
  qs.map (fun q => (seatOf q.above, q.node)) =
    (ps.filter fun p => !r.drops p.above).map fun p => (r.seat p.above, r.become p)

variable {r : Rewriter}

namespace Leaves

variable {ps ps' qs qs' : List Place}

theorem nil : r.Leaves [] [] := rfl

theorem append (h : r.Leaves ps qs) (h' : r.Leaves ps' qs') :
    r.Leaves (ps ++ ps') (qs ++ qs') := by
  unfold Leaves at *
  rw [List.map_append, List.filter_append, List.map_append, h, h']

/-- A place that is not dropped. -/
theorem cons {p q : Place} (hdrop : r.drops p.above = false)
    (hseat : seatOf q.above = r.seat p.above) (hnode : q.node = r.become p)
    (h : r.Leaves ps qs) : r.Leaves (p :: ps) (q :: qs) := by
  unfold Leaves at *
  rw [List.filter_cons_of_pos (by rw [hdrop]; rfl), List.map_cons, List.map_cons, h, hseat, hnode]

/-- Places that are all dropped. -/
theorem of_drops (h : ∀ p ∈ ps, r.drops p.above) : r.Leaves ps [] := by
  unfold Leaves
  rw [List.filter_eq_nil_iff.2 fun p hp => by simp [h p hp]]
  rfl

end Leaves

/-- What hangs below something dropped is dropped. -/
theorem drops_of_suffix {above above' : List Step} (h : above <:+ above')
    (hdrop : r.drops above) : r.drops above' := by
  obtain ⟨steps, rfl⟩ := h
  induction steps with
  | nil => exact hdrop
  | cons s steps ih =>
    rw [List.cons_append, drops, ih, Bool.or_true]

/-- **A step to blame** for what is dropped. -/
theorem exists_of_drops {above : List Step} (h : r.drops above) :
    ∃ s rest, s :: rest <:+ above ∧ s.slot = 0 ∧ r.replaces ⟨rest, s.node⟩ := by
  induction above with
  | nil => cases h
  | cons s above ih =>
    rw [drops, Bool.or_eq_true, Bool.and_eq_true, beq_iff_eq] at h
    by_cases hs : s.slot = 0 ∧ r.replaces ⟨above, s.node⟩
    · exact ⟨s, above, List.suffix_refl _, hs⟩
    · obtain ⟨t, rest, hsuffix, ht⟩ := ih (h.resolve_left hs)
      exact ⟨t, rest, hsuffix.trans (List.suffix_cons _ _), ht⟩

/-! ## Calls that are replaced -/

/-- The parts of a call that is replaced. -/
theorem exists_access?_of_replaces {p : Place} (h : r.replaces p) :
    ∃ target index, r.access? p.node = some (target, index) := by
  have hsome := (Bool.and_eq_true_iff.1 h).2
  unfold replacement? at hsome
  split at hsome
  · next target index haccess => exact ⟨target, index, haccess⟩
  · cases hsome

/-- What is replaced is in the open. -/
theorem isOpen_of_replaces {p : Place} (h : r.replaces p) : r.IsOpen p.above := fun s hs => by
  have := List.all_eq_true.1 (Bool.and_eq_true_iff.1 h).1 s hs
  rwa [Bool.not_eq_true'] at this

/-- What is not replaced keeps its kind. -/
theorem kind_become {p : Place} (h : r.replaces p = false) : (r.become p).kind = p.node.kind := by
  obtain ⟨above, k, slots⟩ := p
  rw [become, rebuild, change_eq_self h]
  rfl

/-- A name is left as it is. -/
theorem rebuild_name (above : List Step) (id : String) (ctx : Context) :
    (Node.name id ctx).rebuild r.change above = .name id ctx := by
  have hplace : r.replaces ⟨above, .name id ctx⟩ = false := Bool.and_false _
  show r.change ⟨above, .name id ctx⟩ (.name id ctx) = _
  rw [change_eq_self hplace]

theorem fst_apply {above : List Step} (h : r.IsOpen above) (n : Node) :
    (r.apply n).1 = n.rebuild r.change above := congrArg Prod.fst (apply_eq above n h)

/-- **A call that is replaced** calls something with the variable and an index, and becomes
the subscript of the two. -/
theorem rebuild_of_replaces (hform : r.accessor.form = .subscript) {above : List Step} {n : Node}
    (h : r.replaces ⟨above, n⟩) :
    ∃ func ctx index, n = .call func [.name r.var ctx, index] [] ∧
      n.rebuild r.change above =
        .subscript (.name r.var ctx) (index.rebuild r.change (⟨n, 1, 1⟩ :: above)) .load := by
  obtain ⟨target, index, haccess⟩ := exists_access?_of_replaces h
  obtain ⟨func, ctx, rfl, rfl, -⟩ := r.access?_eq_some_iff.1 haccess
  refine ⟨func, ctx, index, rfl, ?_⟩
  have hopen : r.IsOpen above := isOpen_of_replaces h
  have hshields : r.shields (.call func [.name r.var ctx, index] []) = false := rfl
  -- what is looked at once the arguments have been rewritten
  have hafter := r.access?_mk .call [[func], [.name r.var ctx, index], []]
  rw [haccess, Option.map_some] at hafter
  rw [← fst_apply hopen, ← fst_apply (hopen.cons hshields), apply,
    if_neg (Bool.eq_false_iff.1 hshields)]
  dsimp only
  rw [replacement?, hafter]
  dsimp only
  rw [Accessor.replacement?, hform]

/-! ## What is left of a tree -/

section Tree

variable {way way' : Nat → List Step} {ns : List Node}

/-- What is left of the trees of a list, from what is left of each. -/
theorem leaves_placesOfAll
    (ih : ∀ n ∈ ns, ∀ above above', r.drops above = false → seatOf above' = r.seat above →
      r.Leaves (n.places above) ((n.rebuild r.change above).places above'))
    (hdrops : ∀ j, r.drops (way j) = false)
    (hseat : ∀ j, seatOf (way' j) = r.seat (way j)) :
    r.Leaves (placesOfAll way ns) (placesOfAll way' (rebuildAll r.change way ns)) := by
  induction ns generalizing way way' with
  | nil => exact .nil
  | cons n ns ihs =>
    exact (ih n List.mem_cons_self _ _ (hdrops 0) (hseat 0)).append
      (ihs (fun m hm => ih m (List.mem_cons_of_mem _ hm)) (fun j => hdrops (j + 1))
        fun j => hseat (j + 1))

end Tree

/-- The same for the trees of some slots. -/
theorem leaves_placesOfSlots {way way' : Nat → Nat → List Step} {ss : List (List Node)}
    (ih : ∀ ns ∈ ss, ∀ n ∈ ns, ∀ above above', r.drops above = false →
      seatOf above' = r.seat above →
      r.Leaves (n.places above) ((n.rebuild r.change above).places above'))
    (hdrops : ∀ i j, r.drops (way i j) = false)
    (hseat : ∀ i j, seatOf (way' i j) = r.seat (way i j)) :
    r.Leaves (placesOfSlots way ss) (placesOfSlots way' (rebuildSlots r.change way ss)) := by
  induction ss generalizing way way' with
  | nil => exact .nil
  | cons ns ss ihs =>
    exact (leaves_placesOfAll (ih ns List.mem_cons_self) (hdrops 0) (hseat 0)).append
      (ihs (fun ms hms => ih ms (List.mem_cons_of_mem _ hms)) (fun i => hdrops (i + 1))
        fun i => hseat (i + 1))

/-- **What is left of a tree** that is not dropped. -/
theorem leaves_rebuild (hform : r.accessor.form = .subscript) (n : Node) :
    ∀ above above', r.drops above = false → seatOf above' = r.seat above →
      r.Leaves (n.places above) ((n.rebuild r.change above).places above') := by
  induction n using induction with
  | mk k slots ih =>
    intro above above' hdrop hseat
    by_cases hreplaces : r.replaces ⟨above, .mk k slots⟩
    · obtain ⟨func, ctx, index, hcall, hrebuild⟩ := rebuild_of_replaces hform hreplaces
      obtain ⟨rfl, rfl⟩ := Node.mk.inj hcall
      have hfunc : ∀ j, r.drops (⟨.call func [.name r.var ctx, index] [], 0, j⟩ :: above) := by
        intro j
        rw [drops, hreplaces]
        rfl
      have hargs : ∀ j,
          r.drops (⟨.call func [.name r.var ctx, index] [], 1, j⟩ :: above) = false := by
        intro j
        rw [drops, hdrop]
        rfl
      have hseats : ∀ j, r.seat (⟨.call func [.name r.var ctx, index] [], 1, j⟩ :: above) =
          some (.subscript .load, j) := by
        intro j
        rw [seat, if_pos hreplaces]
      have hgone : r.Leaves
          (placesOfAll (fun j => ⟨.call func [.name r.var ctx, index] [], 0, j⟩ :: above) [func])
          [] := by
        refine .of_drops fun p hp => ?_
        obtain ⟨j, c, -, hp⟩ := mem_placesOfAll.1 hp
        exact drops_of_suffix (above_suffix_of_mem_places hp) (hfunc j)
      rw [hrebuild]
      refine .cons hdrop hseat hrebuild.symm (hgone.append ?_)
      simp only [placesOfSlots, placesOfAll, places, List.append_nil, List.nil_append,
        List.cons_append]
      refine .cons (hargs 0) (hseats 0).symm (rebuild_name _ _ _).symm ?_
      exact ih [.name r.var ctx, index] (by simp) index (by simp) _ _ (hargs 1) (hseats 1).symm
    · have hreplaces := Bool.eq_false_iff.2 hreplaces
      have hbelow : ∀ i j, r.drops (⟨.mk k slots, i, j⟩ :: above) = false := by
        intro i j
        rw [drops, hreplaces, hdrop, Bool.and_false]
        rfl
      rw [rebuild, change_eq_self hreplaces]
      refine .cons hdrop hseat ?_ (leaves_placesOfSlots ih hbelow fun i j => ?_)
      · rw [become, rebuild, change_eq_self hreplaces]
      · rw [seat, hreplaces]
        rfl

/-- **What rewriting leaves of a body.** -/
theorem leaves_applyList (hform : r.accessor.form = .subscript) (body : List Node) :
    r.Leaves (placesOfBody body) (placesOfBody (r.applyList body).1) := by
  rw [applyList_body]
  exact leaves_placesOfAll (fun n _ => leaves_rebuild hform n) (fun _ => rfl) fun _ => rfl

/-! ## The work that is left -/

/-- What does work afterwards has done it before. -/
theorem works_become (hform : r.accessor.form = .subscript) (p : Place) :
    (r.become p).kind.works = (p.node.kind.works && !r.replaces p) := by
  by_cases h : r.replaces p
  · obtain ⟨func, ctx, index, -, hrebuild⟩ := rebuild_of_replaces hform h
    rw [become, hrebuild, h, Bool.not_true, Bool.and_false]
    rfl
  · rw [kind_become (Bool.eq_false_iff.2 h), Bool.eq_false_iff.2 h, Bool.not_false, Bool.and_true]

/-- What works in a function that is called by name or as an attribute hangs off it. -/
theorem mem_hungOff {p q : Place} {func : Node} {args keywords : List Node}
    (hcall : q.node = .call func args keywords) (hcalled : (calledName func).isSome)
    (h : p ∈ func.places (⟨q.node, 0, 0⟩ :: q.above)) (hworks : p.node.kind.works) :
    p ∈ q.hungOff := by
  unfold calledName at hcalled
  split at hcalled
  · obtain rfl := List.mem_singleton.1 h
    cases hworks
  · next value f ctx =>
    rw [Place.hungOff, hcall]
    rw [places] at h
    rcases List.mem_cons.1 h with rfl | h
    · cases hworks
    · simpa only [placesOfSlots, placesOfAll, List.append_nil, hcall] using h
  · cases hcalled

/-- **What is dropped of the work in a body** is what hangs off a call that is replaced. -/
theorem drops_iff_exists_hungOff {body : List Node} {p : Place} (hp : p ∈ r.work body) :
    r.drops p.above ↔ ∃ q ∈ placesOfBody body, r.replaces q ∧ p ∈ q.hungOff := by
  obtain ⟨hmem, hcond⟩ := List.mem_filter.1 hp
  have hworks : p.node.kind.works := (Bool.and_eq_true_iff.1 hcond).1
  constructor
  · intro h
    obtain ⟨⟨node, slot, j⟩, rest, hsuffix, hslot, hreplaces⟩ := exists_of_drops h
    obtain ⟨hq, c, hchild, hbelow⟩ := mem_placesOfBody_of_suffix hmem hsuffix
    refine ⟨_, hq, hreplaces, ?_⟩
    obtain rfl : slot = 0 := hslot
    obtain ⟨target, index, haccess⟩ := exists_access?_of_replaces hreplaces
    obtain ⟨func, ctx, hcall, -, f, hf, -⟩ := r.access?_eq_some_iff.1 haccess
    obtain rfl : node = .call func [.name r.var ctx, index] [] := hcall
    -- the slot of the function holds nothing else
    obtain ⟨rfl, rfl⟩ : j = 0 ∧ c = func := by
      cases j with
      | zero => exact ⟨rfl, (Option.some.inj hchild).symm⟩
      | succ j => cases hchild
    exact mem_hungOff rfl (Option.isSome_of_eq_some hf) hbelow hworks
  · rintro ⟨q, -, hreplaces, h⟩
    unfold Place.hungOff at h
    split at h
    · refine drops_of_suffix ((List.suffix_cons _ _).trans (above_suffix_of_mem_places h)) ?_
      rw [drops, hreplaces]
      rfl
    · cases h

/-- What hangs off a call is below it. -/
theorem hungOff_subset (q : Place) : q.hungOff ⊆ q.node.places q.above := by
  intro p hp
  unfold Place.hungOff at hp
  split at hp
  · next f ctx value args keywords hcall =>
    have hfunc : q.node.child? 0 0 = some (.member value f ctx) := by rw [hcall]; rfl
    have hvalue : (Node.member value f ctx).child? 0 0 = some value := rfl
    exact child_mem_places hfunc (child_mem_places hvalue hp)
  · cases hp

/-- The work afterwards is what is left of the work before. -/
theorem workOf_applyList (hform : r.accessor.form = .subscript) (body : List Node) :
    workOf (r.applyList body).1 =
      ((r.work body).filter fun p => !r.drops p.above).map r.become := by
  have hnodes : (placesOfBody (r.applyList body).1).map Place.node =
      ((placesOfBody body).filter fun p => !r.drops p.above).map r.become := by
    have := congrArg (List.map Prod.snd) (leaves_applyList hform body)
    rwa [List.map_map, List.map_map] at this
  calc workOf (r.applyList body).1
      = ((placesOfBody (r.applyList body).1).map Place.node).filter (·.kind.works) := by
        rw [List.filter_map]
        rfl
    _ = (((placesOfBody body).filter fun p => !r.drops p.above).map r.become).filter
          (·.kind.works) := by rw [hnodes]
    _ = (((placesOfBody body).filter fun p => !r.drops p.above).filter
          fun p => p.node.kind.works && !r.replaces p).map r.become := by
        rw [List.filter_map]
        exact congrArg _ (List.filter_congr fun p _ => works_become hform p)
    _ = ((r.work body).filter fun p => !r.drops p.above).map r.become := by
        rw [work, List.filter_filter, List.filter_filter]
        exact congrArg _ (List.filter_congr fun p _ => Bool.and_comm _ _)

/-- **The work that rewriting leaves.** Where accesses become subscripts, the calls, the
assignments inside expressions and what waits or yields in the new body are those of the old
one, in their order and each of the kind it had, but for the accesses that are replaced and for
what hangs off the attribute spelling of one. So no work is lost just if nothing hangs off
these that does any, other than accesses replaced in their turn. -/
theorem work_of_apply (r : Rewriter) (hform : r.accessor.form = .subscript) (body : List Node) :
    workOf (r.applyList body).1 =
        ((r.work body).filter fun p => !r.drops p.above).map r.become ∧
      (∀ p ∈ r.work body, (r.become p).kind = p.node.kind) ∧
      (∀ p ∈ r.work body,
        r.drops p.above ↔ ∃ q ∈ placesOfBody body, r.replaces q ∧ p ∈ q.hungOff) ∧
      ((workOf (r.applyList body).1).length = (r.work body).length ↔
        ∀ q ∈ placesOfBody body, r.replaces q →
          ∀ p ∈ q.hungOff, p.node.kind.works → r.replaces p) := by
  refine ⟨workOf_applyList hform body, fun p hp => ?_, fun p hp => drops_iff_exists_hungOff hp, ?_⟩
  · have hcond := (Bool.and_eq_true_iff.1 (List.mem_filter.1 hp).2).2
    exact kind_become (by rwa [Bool.not_eq_true'] at hcond)
  · rw [workOf_applyList hform, List.length_map, List.length_filter_eq_length_iff]
    constructor
    · intro hall q hq hreplaces p hp hworks
      cases hkeeps : r.replaces p with
      | true => rfl
      | false =>
        have hmem : p ∈ r.work body := by
          refine List.mem_filter.2 ⟨places_subset_of_mem_placesOfBody hq (hungOff_subset q hp), ?_⟩
          rw [hworks, hkeeps]
          rfl
        have hkept := hall p hmem
        rw [(drops_iff_exists_hungOff hmem).2 ⟨q, hq, hreplaces, hp⟩] at hkept
        cases hkept
    · intro hall p hp
      rw [Bool.not_eq_true', Bool.eq_false_iff]
      intro hdrop
      obtain ⟨q, hq, hreplaces, hbelow⟩ := (drops_iff_exists_hungOff hp).1 hdrop
      obtain ⟨hworks, hkeeps⟩ := Bool.and_eq_true_iff.1 (List.mem_filter.1 hp).2
      rw [hall q hq hreplaces p hbelow hworks] at hkeeps
      cases hkeeps

/-- The statement `make().elt(s, g())`. -/
def hanging : List Node :=
  [.exprStmt (.call (.member (.call (.load "make") [] []) "elt" .load)
    [.load "s", .call (.load "g") [] []] [])]

/-- Two calls do the work in it besides the access, and one is left. -/
theorem work_of_apply_hanging :
    let r : Rewriter := ⟨"s", .textIndex, ["elt"]⟩
    r.accessor.form = .subscript ∧
      (r.work hanging).map Place.node = [.call (.load "make") [] [], .call (.load "g") [] []] ∧
      workOf (r.applyList hanging).1 = [.call (.load "g") [] []] ∧
      ¬ ∀ q ∈ placesOfBody hanging, r.replaces q →
        ∀ p ∈ q.hungOff, p.node.kind.works → r.replaces p := by
  intro r
  obtain ⟨hwork, -, -, hall⟩ := r.work_of_apply rfl hanging
  exact ⟨rfl, rfl, hwork.trans rfl, fun h => absurd (hall.2 h) (by decide)⟩

end Rewriter

end Narrowing
