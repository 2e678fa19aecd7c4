import Narrowing.Proofs.Access.Copy
import Narrowing.Proofs.Access.Table
import Narrowing.Proofs.Dispatch.Run
/-!
# Dispatches over variables that change

The branch of a dispatch is chosen once, by the value that the variable has then. The body may give
the variable another value afterwards, and its accesses have been rewritten all the same. A
rewritten access is a subscript, and the generic access subscripts whatever has subscripts. So the
new value need not be of the type of the branch for the dispatch to run as the body does: any
value with subscripts will do, and without them the dispatch fails where the body walks
(`generated_follows_body`).
-/

namespace Narrowing

open Code Run

/-- The accessors of the table in use subscript, or leave the access as it is. -/
theorem form_of_defaultTable {d : TypeDescriptor} {a : Accessor} (h : defaultTable.lookup d = .ok a) :
    a.form = .subscript ∨ a.form = .keep := by
  obtain ⟨e, hserves, rfl⟩ := AccessorTable.exists_serves_of_lookup h
  have hforms : ∀ e ∈ defaultTable.entries,
      e.accessor.form = .subscript ∨ e.accessor.form = .keep := by
    simp [defaultTable, Accessor.textIndex, Accessor.octetIndex, Accessor.arrayIndex,
      Accessor.sequenceIndex, Accessor.generic]
  exact hforms e hserves.mem

/-- **A generated dispatch follows the body** that it is made of. If a branch accepts the value of
the variable, the dispatch ends as the body ends and leaves the same session, whatever the body
assigns to the variable, unless the body comes to one of these: an access that is rewritten, while
the variable has a value without subscripts, where the dispatch fails; a rewritten call that is no
generic access; something made in the body that keeps a rewritten access; and a comprehension whose
names are others in the copy. Nothing is said of bodies that fail at the bounds of what can be run
here. -/
theorem generated_follows_body {counters : Counters} {var : String} {types : List TypeDescriptor}
    {body : List Node} {d : Dispatch Spelling Class Predicate}
    (hd : (Generator.generate { oracle := defaultDecider, table := defaultTable } counters var types
      body).1.result = .ok d)
    {s : Session} {c : Site} {v : Value} (hbound : d.IsBound s.store c v)
    (htests : ∀ b ∈ d.branches, ∃ r, s.store.accepts b.test v = .ok r)
    (haccepted : ∃ b ∈ d.branches, s.store.accepts b.test v = .ok true) :
    ∃ before b after a, d.branches = before ++ b :: after ∧
      (∀ b' ∈ before, s.store.accepts b'.test v = .ok false) ∧
      s.store.accepts b.test v = .ok true ∧ defaultTable.lookup b.type = .ok a ∧
      s.Follows (Rewriter.parting ⟨var, a, ["elt"]⟩ body)
        (inOrder c.deeper (Node.meaningsOfAll body)) (d.node.meaning.effect c) := by
  obtain ⟨before, b, after, hbranches, hbefore, hb, hrun⟩ | ⟨hreject, -⟩ := d.run_node hbound htests
  · have hmem : b ∈ d.branches := hbranches ▸ List.mem_append_right _ List.mem_cons_self
    obtain ⟨-, a, hlookup, -, hcopy⟩ := (Generator.generate_makes hd).2 b hmem
    refine ⟨before, b, after, a, hbranches, hbefore, hb, hlookup, ?_⟩
    refine (Rewriter.follows_body (form_of_defaultTable hlookup) body c.deeper s).congr ?_
    rw [hrun, hcopy]
  · obtain ⟨b, hmem, hb⟩ := haccepted
    rw [hreject b hmem] at hb
    cases hb

/-! ## A list that becomes a set -/

/-- The body `v = w` and `return elt(v, 0)`. -/
def reassigning : List Node :=
  [.assign [.name "v" .store] (.load "w"),
    .returnStmt [.call (.load "elt") [.load "v", .constant (.int 0)] []]]

/-- Its dispatch over the lists. -/
def onLists : Dispatch Spelling Class Predicate :=
  ⟨"v", [⟨StandardClass.list.descriptor, .instanceOf (.standard .list),
    [.assign [.name "v" .store] (.load "w"),
      .returnStmt [.subscript (.load "v") (.constant (.int 0)) .load]], "array_index"⟩]⟩

/-- A session in which a module holds a list `v`, a set `w` and what that dispatch refers to. -/
def reassigningSession : Session :=
  (Session.run {} (do
    let v ← alloc (.list [.ofInt 5])
    let w ← alloc (.set (← slotted [.ofInt 1]))
    loadModule "m" (("v", v) :: ("w", w) :: ("elt", .builtin .elt) ::
      onLists.bindings.map fun (name, b) => (name, b.value)) [])).2

/-- That module. -/
def reassigningSite : Site := { module := "m", globals := ⟨2⟩ }

theorem onLists_generated :
    (Generator.generate { oracle := defaultDecider, table := defaultTable } {} "v"
      [StandardClass.list.descriptor] reassigning).1.result = .ok onLists := rfl

theorem onLists_isBound :
    onLists.IsBound reassigningSession.store reassigningSite (.ref ⟨0⟩) where
  isinstance := rfl
  names := by
    intro b hb
    simp only [Dispatch.bindings, onLists, List.mapIdx_cons, List.mapIdx_nil, List.mem_cons,
      List.not_mem_nil, or_false] at hb
    rcases hb with rfl | rfl | rfl <;> rfl
  var := rfl

/-- The branch of the lists is taken. The body walks the set and returns its item, and the dispatch
fails at the access. -/
theorem generated_follows_body_reassigning :
    (∃ before b after a, onLists.branches = before ++ b :: after ∧
      (∀ b' ∈ before, reassigningSession.store.accepts b'.test (.ref ⟨0⟩) = .ok false) ∧
      reassigningSession.store.accepts b.test (.ref ⟨0⟩) = .ok true ∧
      defaultTable.lookup b.type = .ok a ∧
      reassigningSession.Follows (Rewriter.parting ⟨"v", a, ["elt"]⟩ reassigning)
        (inOrder reassigningSite.deeper (Node.meaningsOfAll reassigning))
        (onLists.node.meaning.effect reassigningSite)) ∧
    (reassigningSession.run (inOrder reassigningSite.deeper (Node.meaningsOfAll reassigning))).1 =
      .ok (.returned (.int 1 .none)) ∧
    (reassigningSession.run (onLists.node.meaning.effect reassigningSite)).1 =
      .error .wrongType := by
  have haccepted : ∀ b ∈ onLists.branches,
      reassigningSession.store.accepts b.test (.ref ⟨0⟩) = .ok true := by
    intro b hb
    obtain rfl := List.mem_singleton.1 hb
    rfl
  exact ⟨generated_follows_body onLists_generated onLists_isBound (fun b hb => ⟨true, haccepted b hb⟩)
    ⟨_, List.mem_cons_self, haccepted _ List.mem_cons_self⟩, rfl, rfl⟩

end Narrowing
