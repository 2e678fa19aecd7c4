import Narrowing.Proofs.Access.Remains
/-!
# Starred nodes

A starred node stands for the items of a value, so it needs a place that takes any number of
nodes: among the arguments of a call or the elements of a display, those of a target included.
The rewriter tells an access by the number of its arguments, and counts a starred one as one.
The slice of a subscript takes a single node, though.

Most starred nodes stay where they fit, since what hangs on anything but a replaced call hangs
there still. So a body in which starred nodes fit is rewritten into one in which they do just
if no access has a starred index (`Rewriter.starsFit_of_apply`), of those that are not dropped
with the function of another.
-/

namespace Narrowing

open Code Node

namespace Code

/-- **The slots that take starred nodes**: the arguments of a call and the elements of a
display. -/
def Kind.takesStarred : Kind → Nat → Bool
  | .call, 1 | .set, 0 | .list _, 0 | .tuple _, 0 => true
  | _, _ => false

/-- Whether a starred node fits at the end of a way down. -/
def fitsStarred (above : List Step) : Bool := (seatOf above).any fun (k, i) => k.takesStarred i

/-- **A body in which starred nodes fit where they stand.** -/
def StarsFit (body : List Node) : Prop :=
  ∀ p ∈ placesOfBody body, p.node.isStarred → fitsStarred p.above

instance (body : List Node) : Decidable (StarsFit body) :=
  inferInstanceAs (Decidable (∀ p ∈ placesOfBody body, _ → _))

/-- To be starred is a matter of the kind. -/
theorem isStarred_congr {m n : Node} (h : m.kind = n.kind) : m.isStarred = n.isStarred := by
  unfold isStarred
  rw [h]

end Code

namespace Rewriter

variable {r : Rewriter} {body : List Node}

/-- **A call whose subscript is malformed**: one that is replaced, and not dropped, though its
index is starred. -/
def Spoils (r : Rewriter) (p : Place) : Prop :=
  r.replaces p ∧ r.drops p.above = false ∧
    ∃ target index, r.access? p.node = some (target, index) ∧ index.isStarred

/-- What is starred afterwards was so before. -/
theorem isStarred_become (hform : r.accessor.form = .subscript) (p : Place) :
    (r.become p).isStarred = p.node.isStarred := by
  by_cases h : r.replaces p
  · obtain ⟨func, ctx, index, hcall, hrebuild⟩ := rebuild_of_replaces hform h
    rw [become, hrebuild, hcall]
    rfl
  · exact isStarred_congr (kind_become (Bool.eq_false_iff.2 h))

/-- Where something hangs afterwards and what it is, for all that is left. -/
theorem mem_leaves_iff (hform : r.accessor.form = .subscript) {x : Option (Kind × Nat) × Node} :
    (∃ q ∈ placesOfBody (r.applyList body).1, (seatOf q.above, q.node) = x) ↔
      ∃ p ∈ placesOfBody body, r.drops p.above = false ∧ (r.seat p.above, r.become p) = x := by
  rw [← List.mem_map, leaves_applyList hform body, List.mem_map]
  simp only [List.mem_filter, Bool.not_eq_true', and_assoc]

/-- **A starred node that fits** is in a place that takes it afterwards, or it was the index of
a call that is spoilt. -/
theorem fits_or_spoils (h : StarsFit body) {p : Place} (hp : p ∈ placesOfBody body)
    (hdrop : r.drops p.above = false) (hstarred : p.node.isStarred) :
    (r.seat p.above).any (fun (k, i) => k.takesStarred i) ∨
      r.seat p.above = some (.subscript .load, 1) ∧ ∃ q ∈ placesOfBody body, r.Spoils q := by
  obtain ⟨above, n⟩ := p
  have hfits := h _ hp hstarred
  rcases above with _ | ⟨⟨node, slot, j⟩, above⟩
  · cases hfits
  · by_cases hreplaces : r.replaces ⟨above, node⟩
    · obtain ⟨hq, hchild⟩ := child?_eq_of_mem_placesOfBody hp
      obtain ⟨target, index, haccess⟩ := exists_access?_of_replaces hreplaces
      obtain ⟨func, ctx, hcall, -, -⟩ := r.access?_eq_some_iff.1 haccess
      obtain rfl : node = .call func [.name r.var ctx, index] [] := hcall
      -- of the slots of a call only that of the arguments takes what is starred
      obtain rfl : slot = 1 := by
        rcases slot with _ | _ | slot
        · cases hfits
        · rfl
        · cases hfits
      rcases j with _ | _ | j
      · -- the variable is a name
        obtain rfl := Option.some.inj hchild
        cases hstarred
      · obtain rfl := Option.some.inj hchild
        rw [drops, Bool.or_eq_false_iff] at hdrop
        refine .inr ⟨by rw [Rewriter.seat, if_pos hreplaces], _, hq, hreplaces, hdrop.2, ?_⟩
        exact ⟨target, index, haccess, hstarred⟩
      · cases hchild
    · rw [Rewriter.seat, if_neg hreplaces]
      exact .inl hfits

/-- **Where starred nodes stand after rewriting.** In a body whose starred nodes fit, a starred
node fits once accesses have become subscripts, or else it is the slice of a subscript. So the
starred nodes of the new body fit just if no access that is replaced and left has a starred
index. -/
theorem starsFit_of_apply (r : Rewriter) (hform : r.accessor.form = .subscript)
    (body : List Node) (h : StarsFit body) :
    (∀ p ∈ placesOfBody (r.applyList body).1, p.node.isStarred →
      fitsStarred p.above ∨ seatOf p.above = some (.subscript .load, 1)) ∧
    (StarsFit (r.applyList body).1 ↔ ∀ p ∈ placesOfBody body, ¬ r.Spoils p) := by
  have hstarred : ∀ q ∈ placesOfBody (r.applyList body).1, q.node.isStarred →
      fitsStarred q.above ∨ seatOf q.above = some (.subscript .load, 1) ∧
        ∃ p ∈ placesOfBody body, r.Spoils p := by
    intro q hq hq'
    obtain ⟨p, hp, hdrop, hpq⟩ := (mem_leaves_iff hform).1 ⟨q, hq, rfl⟩
    obtain ⟨hseat, hnode⟩ := Prod.mk.inj hpq
    rw [← hnode, isStarred_become hform] at hq'
    rw [fitsStarred, ← hseat]
    exact fits_or_spoils h hp hdrop hq'
  refine ⟨fun q hq hq' => (hstarred q hq hq').imp_right And.left, ?_, ?_⟩
  · rintro hfit p hp ⟨hreplaces, hdrop, target, index, haccess, hindex⟩
    obtain ⟨func, ctx, hcall, -, -⟩ := r.access?_eq_some_iff.1 haccess
    -- the index is left, as the slice of the subscript
    have hmem : ⟨⟨p.node, 1, 1⟩ :: p.above, index⟩ ∈ placesOfBody body := by
      refine places_subset_of_mem_placesOfBody hp (child_mem_places ?_ (self_mem_places _ _))
      rw [hcall]
      rfl
    have hdrop' : r.drops (⟨p.node, 1, 1⟩ :: p.above) = false := by
      rw [drops, hdrop]
      rfl
    obtain ⟨q, hq, hqp⟩ := (mem_leaves_iff hform).2 ⟨_, hmem, hdrop', rfl⟩
    obtain ⟨hseat, hnode⟩ := Prod.mk.inj hqp
    have hfits := hfit q hq (by rw [hnode, isStarred_become hform]; exact hindex)
    rw [fitsStarred, hseat, Rewriter.seat, if_pos hreplaces] at hfits
    cases hfits
  · intro hnone q hq hq'
    refine (hstarred q hq hq').resolve_right ?_
    rintro ⟨-, p, hp, hspoils⟩
    exact hnone p hp hspoils

/-- The statement `elt(s, *i)`. -/
def starredIndex : List Node :=
  [.exprStmt (.call (.load "elt") [.load "s", .starred (.load "i") .load] [])]

/-- The argument fits as it stands, and as a slice it does not. -/
theorem starsFit_of_apply_starredIndex :
    let r : Rewriter := ⟨"s", .textIndex, ["elt"]⟩
    r.accessor.form = .subscript ∧ StarsFit starredIndex ∧
      ¬ StarsFit (r.applyList starredIndex).1 := by
  intro r
  have hfit : StarsFit starredIndex := by decide
  obtain ⟨-, hspoils⟩ := r.starsFit_of_apply rfl starredIndex hfit
  refine ⟨rfl, hfit, fun h => ?_⟩
  exact hspoils.1 h _ (List.mem_cons_of_mem _ List.mem_cons_self) ⟨rfl, rfl, _, _, rfl, rfl⟩

end Rewriter

end Narrowing
