import Narrowing.Proofs.Code.Place
/-!
# Parts of code

All kinds of nodes share one shape, so a tree may hold a node where none of its kind can
stand. In code that is read from a text that does not happen. Each kind is a **part** of
code of some sort, a statement, an expression or one of the parts of both, and each slot of
a kind holds parts of one sort (`Kind.slotParts`). A tree `Is` a part if this is so all the
way down.
-/

namespace Narrowing.Code

/-- **The sorts of parts that code has.** -/
inductive Part where
  | statement | expression | handler | loop | parameters | parameter | keyword | withItem
  | importedName
deriving DecidableEq

namespace Kind

/-- **The part that nodes of a kind are.** A missing entry stands for an expression. -/
def part : Kind → Part
  | .functionDef .. | .classDef _ | .returnStmt | .delete | .assign | .augAssign _ | .annAssign
  | .forStmt _ | .whileStmt | .ifStmt | .withStmt _ | .raise | .tryStmt | .assertStmt
  | .importStmt | .importFrom .. | .globalStmt _ | .nonlocalStmt _ | .exprStmt | .pass
  | .breakStmt | .continueStmt => .statement
  | .exceptHandler _ => .handler
  | .comprehension _ => .loop
  | .arguments => .parameters
  | .arg _ => .parameter
  | .keyword _ => .keyword
  | .withItem => .withItem
  | .importedName .. => .importedName
  | _ => .expression

/-- **The parts that the slots of a kind hold.** -/
def slotParts : Kind → List Part
  | .functionDef .. => [.parameters, .statement, .expression, .expression]
  | .classDef _ => [.expression, .keyword, .statement, .expression]
  | .returnStmt | .delete | .exprStmt | .boolOp _ | .unaryOp _ | .set | .await | .yield
  | .yieldFrom | .member .. | .starred _ | .list _ | .tuple _ | .arg _ | .keyword _ =>
    [.expression]
  | .assign | .augAssign _ | .raise | .assertStmt | .namedExpr | .binOp _ | .dict | .compare _
  | .subscript _ | .withItem => [.expression, .expression]
  | .annAssign | .ifExp | .slice | .comprehension _ => [.expression, .expression, .expression]
  | .forStmt _ => [.expression, .expression, .statement, .statement]
  | .whileStmt | .ifStmt => [.expression, .statement, .statement]
  | .withStmt _ => [.withItem, .statement]
  | .tryStmt => [.statement, .handler, .statement, .statement]
  | .importStmt | .importFrom .. => [.importedName]
  | .globalStmt _ | .nonlocalStmt _ | .pass | .breakStmt | .continueStmt | .constant _ | .name ..
  | .importedName .. | .absent => []
  | .lambda => [.parameters, .expression]
  | .listComp | .setComp | .generatorExp => [.expression, .loop]
  | .dictComp => [.expression, .expression, .loop]
  | .call => [.expression, .expression, .keyword]
  | .exceptHandler _ => [.expression, .statement]
  | .arguments => [.parameter, .parameter, .parameter, .parameter, .expression, .parameter, .expression]

end Kind

namespace Node

mutual

/-- **A tree that is some part of code**, as are those below it that its kind asks for. -/
@[simp] def Is (p : Part) : Node → Prop
  | .mk k slots => k.part = p ∧ SlotsAre k.slotParts slots

/-- Slots that hold trees of the given parts. -/
@[simp] def SlotsAre : List Part → List (List Node) → Prop
  | [], [] => True
  | p :: ps, ns :: ss => AllAre p ns ∧ SlotsAre ps ss
  | _, _ => False

/-- Trees that all are some part. -/
@[simp] def AllAre (p : Part) : List Node → Prop
  | [] => True
  | n :: ns => Is p n ∧ AllAre p ns

end

variable {p : Part}

theorem allAre_iff {ns : List Node} : AllAre p ns ↔ ∀ n ∈ ns, n.Is p := by
  induction ns with
  | nil => simp
  | cons n ns ih => simp [ih]

@[simp] theorem allAre_append {ms ns : List Node} :
    AllAre p (ms ++ ns) ↔ AllAre p ms ∧ AllAre p ns := by
  simp [allAre_iff, or_imp, forall_and]

theorem slotsAre_length {ps : List Part} {ss : List (List Node)} (h : SlotsAre ps ss) :
    ss.length = ps.length := by
  induction ss generalizing ps with
  | nil =>
    cases ps with
    | nil => rfl
    | cons p ps => cases h
  | cons ns ss ih =>
    cases ps with
    | nil => cases h
    | cons p ps => exact congrArg (· + 1) (ih h.2)

/-- A part of code has the slots of its kind. -/
theorem length_slots {k : Kind} {slots : List (List Node)} (h : (mk k slots).Is p) :
    slots.length = k.arities.length := by
  rw [slotsAre_length h.2]
  cases k <;> rfl

theorem exists_allAre_of_mem {ps : List Part} {ss : List (List Node)} (h : SlotsAre ps ss)
    {ns : List Node} (hns : ns ∈ ss) : ∃ q, AllAre q ns := by
  induction ss generalizing ps with
  | nil => cases hns
  | cons ms ss ih =>
    cases ps with
    | nil => cases h
    | cons p ps =>
      rcases List.mem_cons.1 hns with rfl | hns
      · exact ⟨p, h.1⟩
      · exact ih h.2 hns

/-- **Every place of a tree** is some part. -/
theorem exists_is_of_mem_places {n : Node} (h : n.Is p) {above : List Step} {q : Place}
    (hq : q ∈ n.places above) : ∃ part, q.node.Is part := by
  induction n using induction generalizing p above with
  | mk k slots ih =>
    obtain rfl | ⟨i, j, c, hchild, hq⟩ := mem_places.1 hq
    · exact ⟨p, h⟩
    · obtain ⟨ns, hns, hc⟩ := mem_of_child? hchild
      obtain ⟨part, hpart⟩ := exists_allAre_of_mem h.2 hns
      exact ih ns hns c hc (allAre_iff.1 hpart c hc) hq

theorem exists_is_of_mem_placesOfBody {body : List Node} (h : AllAre p body) {q : Place}
    (hq : q ∈ placesOfBody body) : ∃ part, q.node.Is part := by
  obtain ⟨n, hn, hq⟩ := mem_placesOfBody.1 hq
  exact exists_is_of_mem_places (allAre_iff.1 h n hn) hq

end Node

end Narrowing.Code
