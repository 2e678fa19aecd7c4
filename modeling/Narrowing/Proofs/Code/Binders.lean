import Narrowing.Code.Binding
import Narrowing.Code.Scope
import Narrowing.Proofs.Code.Place
/-!
# Where names are found in code

What a tree mentions is put together from what its nodes mention by themselves, and each
node takes its part of that in or leaves it out: the parameters of a function are gathered
into its scope, what the first loop of a comprehension goes over is left outside. Whatever
is looked for among the mentions of a tree, some node of it mentions by itself, and the way
down to that node goes through no body of a function or a class
(`Mention.IsOuter.exists_place`).

A name may be found in more than one way, so the lookup goes by a **rule** that says which
name a mention gives, if it gives one.
-/

namespace Narrowing.Code

open Mention

theorem Node.mentionsOfSlots_eq_map (ss : List (List Node)) :
    mentionsOfSlots ss = ss.map mentionsOfAll := by
  induction ss with
  | nil => rfl
  | cons ns ss ih => rw [mentionsOfSlots, ih, List.map_cons]

/-- The slot of the body, for what runs its body as a scope. -/
def Kind.body? : Kind → Option Nat
  | .functionDef .. | .lambda => some 1
  | .classDef _ => some 2
  | _ => none

/-- **Whether a step goes into the body** of a function or a class. -/
def Step.entersBody (s : Step) : Bool :=
  s.node.kind.body? = some s.slot && s.node.slots.length = s.node.kind.arities.length

/-- **Whether a node names what it binds**: a definition, an import, or a handler that names
its exception. The name is held by the node itself and not by one below. -/
def Kind.names (name : String) : Kind → Bool
  | .functionDef id _ | .classDef id => id = name
  | .importedName id asname =>
    asname.getD (String.ofList (id.toList.takeWhile (· ≠ '.'))) = name
  | .exceptHandler id => id = some name
  | _ => false

namespace Mention

/-- **What a node mentions by itself**, whatever is below it. -/
def ofSelf : Kind → List Mention
  | .name id .load => [reads id]
  | .name id _ => [binds id]
  | .globalStmt names => names.map declaresGlobal
  | .nonlocalStmt names => names.map declaresNonlocal
  | .arg name => [parameter name]
  | .functionDef name _ | .classDef name => [binds name]
  | .importedName name asname =>
    [imports (asname.getD (String.ofList (name.toList.takeWhile (· ≠ '.'))))]
  | .exceptHandler name => name.toList.map binds
  | _ => []

mutual

/-- The names that a rule finds in a mention, or in what a source of items mentions. -/
@[simp] def found (rule : Mention → Option String) : Mention → List String
  | source ms => foundInAll rule ms
  | m => (rule m).toList

/-- **The names that a rule finds** in some mentions. -/
@[simp] def foundInAll (rule : Mention → Option String) : List Mention → List String
  | [] => []
  | m :: ms => found rule m ++ foundInAll rule ms

end

section

variable {rule : Mention → Option String} {name : String}

theorem foundInAll_eq_flatMap (ms : List Mention) :
    foundInAll rule ms = ms.flatMap (found rule) := by
  induction ms with
  | nil => rfl
  | cons m ms ih => rw [foundInAll, ih, List.flatMap_cons]

@[simp] theorem foundInAll_append (ms ns : List Mention) :
    foundInAll rule (ms ++ ns) = foundInAll rule ms ++ foundInAll rule ns := by
  simp only [foundInAll_eq_flatMap, List.flatMap_append]

@[simp] theorem mem_foundInAll_flatten {slots : List (List Mention)} :
    name ∈ foundInAll rule slots.flatten ↔ ∃ ms ∈ slots, name ∈ foundInAll rule ms := by
  induction slots with
  | nil => simp
  | cons ms slots ih => simp [ih]

/-- What a rule finds without going into sources. -/
theorem mem_foundInAll_of_mem {m : Mention} {ms : List Mention} (hm : m ∈ ms)
    (hfound : name ∈ found rule m) : name ∈ foundInAll rule ms := by
  rw [foundInAll_eq_flatMap]
  exact List.mem_flatMap_of_mem hm hfound

end

/-! ## Mentions that are moved -/

section

variable (rule : Mention → Option String) (name : String)

/-- What parameters mention outside of the function. -/
theorem foundInAll_splitParameters (ms : List Mention)
    (h : name ∈ foundInAll rule (splitParameters ms).1) : name ∈ foundInAll rule ms := by
  fun_induction splitParameters ms with
  | case1 => exact h
  | case2 id ms outer inner hsplit ih =>
    rw [hsplit] at ih
    exact List.mem_append_right _ (ih h)
  | case3 m ms hm outer inner hsplit ih =>
    rw [hsplit] at ih
    exact List.mem_append.2 ((List.mem_append.1 h).imp_right ih)

theorem foundInAll_openSources (ms : List Mention) :
    foundInAll rule (splitSource.openSources ms) = foundInAll rule ms := by
  fun_induction splitSource.openSources ms with
  | case1 => rfl
  | case2 inner ms ih => rw [foundInAll_append, ih, foundInAll, found]
  | case3 m ms hm ih => rw [foundInAll, ih, foundInAll]

/-- What the loops of a comprehension mention, outside of it and inside. -/
theorem foundInAll_splitSource (ms : List Mention)
    (h : name ∈ foundInAll rule (splitSource ms).1 ∨ name ∈ foundInAll rule (splitSource ms).2) :
    name ∈ foundInAll rule ms := by
  fun_induction splitSource ms with
  | case1 => simp at h
  | case2 inner ms =>
    rw [foundInAll_openSources] at h
    exact List.mem_append.2 h
  | case3 m ms hm outer inner hsplit ih =>
    rw [hsplit] at ih
    simp only [foundInAll, List.mem_append] at h ih ⊢
    grind

/-- What a comprehension gives a value outside of it. -/
theorem foundInAll_splitAssigned (ms : List Mention)
    (h : name ∈ foundInAll rule (splitAssigned ms).1) : name ∈ foundInAll rule ms := by
  fun_induction splitAssigned ms with
  | case1 => exact h
  | case2 id ms outer inner hsplit ih =>
    rw [hsplit] at ih
    exact List.mem_append.2 ((List.mem_append.1 h).imp_right ih)
  | case3 m ms hm outer inner hsplit ih =>
    rw [hsplit] at ih
    exact List.mem_append_right _ (ih h)

end

/-- **A rule for names of the scope around**: it finds nothing in a scope, nor where the code
waits, and to be given a value in an expression is to be given a value. -/
structure IsOuter (rule : Mention → Option String) : Prop where
  /-- Nothing is found in a scope. -/
  scope : ∀ kind ms, rule (scope kind ms) = none
  /-- Nothing is found where the code waits. -/
  waits : rule waits = none
  /-- A value given in an expression is a value given. -/
  assigns : ∀ name, rule (assigns name) = rule (binds name)

namespace IsOuter

variable {rule : Mention → Option String} {name : String} (hrule : IsOuter rule)

include hrule

theorem foundInAll_map_inExpression (ms : List Mention) :
    foundInAll rule (ms.map inExpression) = foundInAll rule ms := by
  induction ms with
  | nil => rfl
  | cons m ms ih =>
    rw [List.map_cons, foundInAll, ih, foundInAll]
    cases m <;> simp [inExpression, hrule.assigns]

/-- What is found in a comprehension is found in its loops or its items. -/
theorem foundInAll_ofComprehension {isLazy : Bool} {loops items : List Mention}
    (h : name ∈ foundInAll rule (ofComprehension isLazy loops items)) :
    name ∈ foundInAll rule loops ∨ name ∈ foundInAll rule items := by
  have hassigned := foundInAll_splitAssigned rule name ((splitSource loops).2 ++ items)
  have hsource := foundInAll_splitSource rule name loops
  simp [ofComprehension, hrule.scope] at h hassigned
  grind

omit hrule in
/-- A slot of a node without a body. -/
theorem exists_slot {k : Kind} {slots : List (List Mention)}
    (hbody : slots.length = k.arities.length → k.body? = none)
    (h : name ∈ foundInAll rule slots.flatten) :
    ∃ i ms, slots[i]? = some ms ∧ name ∈ foundInAll rule ms ∧
      (slots.length = k.arities.length → k.body? ≠ some i) := by
  obtain ⟨ms, hms, h⟩ := mem_foundInAll_flatten.1 h
  obtain ⟨i, hi⟩ := List.getElem?_of_mem hms
  exact ⟨i, ms, hi, h, fun hlen => by rw [hbody hlen]; simp⟩

/-- **What is found in what a node mentions** it mentions by itself, or it is found in a slot
that is not the body of a function or a class. -/
theorem foundInAll_ofKind {k : Kind} {slots : List (List Mention)}
    (h : name ∈ foundInAll rule (ofKind k slots)) :
    name ∈ foundInAll rule (ofSelf k) ∨
      ∃ i ms, slots[i]? = some ms ∧ name ∈ foundInAll rule ms ∧
        (slots.length = k.arities.length → k.body? ≠ some i) := by
  unfold ofKind at h
  split at h
  · exact .inl h
  · next id ctx hctx =>
    cases ctx with
    | load => exact absurd rfl hctx
    | _ => exact .inl h
  · exact .inl h
  · exact .inl h
  · next id =>
    rw [foundInAll_append, List.mem_append] at h
    exact h.symm.imp_right (exists_slot fun _ => rfl)
  · next id isAsync parameters body decorators returns =>
    have hparameters := foundInAll_splitParameters rule name parameters
    simp only [foundInAll_append, List.mem_append] at h
    rcases h with ((h | h) | h) | h
    · exact .inr ⟨2, decorators, rfl, h, nofun⟩
    · exact .inr ⟨0, parameters, rfl, hparameters h, nofun⟩
    · exact .inr ⟨3, returns, rfl, h, nofun⟩
    · exact .inl (by simpa [hrule.scope, ofSelf] using h)
  · next parameters body =>
    have hparameters := foundInAll_splitParameters rule name parameters
    exact .inr ⟨0, parameters, rfl, hparameters (by simpa [hrule.scope] using h), nofun⟩
  · next id bases keywords body decorators =>
    simp only [foundInAll_append, List.mem_append] at h
    rcases h with ((h | h) | h) | h
    · exact .inr ⟨3, decorators, rfl, h, nofun⟩
    · exact .inr ⟨0, bases, rfl, h, nofun⟩
    · exact .inr ⟨1, keywords, rfl, h, nofun⟩
    · exact .inl (by simpa [hrule.scope, ofSelf] using h)
  · next isAsync target iter ifs =>
    have h : name ∈ foundInAll rule iter ∨ name ∈ foundInAll rule target ∨
        name ∈ foundInAll rule ifs := by
      cases isAsync <;> simpa [hrule.waits] using h
    rcases h with h | h | h
    · exact .inr ⟨1, iter, rfl, h, nofun⟩
    · exact .inr ⟨0, target, rfl, h, nofun⟩
    · exact .inr ⟨2, ifs, rfl, h, nofun⟩
  · next element loops =>
    rcases hrule.foundInAll_ofComprehension h with h | h
    · exact .inr ⟨1, loops, rfl, h, nofun⟩
    · exact .inr ⟨0, element, rfl, h, nofun⟩
  · next element loops =>
    rcases hrule.foundInAll_ofComprehension h with h | h
    · exact .inr ⟨1, loops, rfl, h, nofun⟩
    · exact .inr ⟨0, element, rfl, h, nofun⟩
  · next element loops =>
    rcases hrule.foundInAll_ofComprehension h with h | h
    · exact .inr ⟨1, loops, rfl, h, nofun⟩
    · exact .inr ⟨0, element, rfl, h, nofun⟩
  · next key value loops =>
    rcases hrule.foundInAll_ofComprehension h with h | h
    · exact .inr ⟨2, loops, rfl, h, nofun⟩
    · rw [foundInAll_append, List.mem_append] at h
      rcases h with h | h
      · exact .inr ⟨0, key, rfl, h, nofun⟩
      · exact .inr ⟨1, value, rfl, h, nofun⟩
  · next target value =>
    rw [foundInAll_append, hrule.foundInAll_map_inExpression, List.mem_append] at h
    rcases h with h | h
    · exact .inr ⟨0, target, rfl, h, nofun⟩
    · exact .inr ⟨1, value, rfl, h, nofun⟩
  · refine .inr (exists_slot (fun _ => rfl) ?_)
    simpa [hrule.waits] using h
  · exact .inl h
  · next id =>
    rw [foundInAll_append, List.mem_append] at h
    exact h.symm.imp_right (exists_slot fun _ => rfl)
  · next _ _ _ hfunction hlambda hclass _ _ _ _ _ _ =>
    refine .inr (exists_slot (fun hlength => ?_) h)
    -- with all of its slots a function or a class has been told apart before
    unfold Kind.body?
    split
    · next id isAsync =>
      match slots, hlength with
      | [_, _, _, _], _ => exact absurd rfl (hfunction _ _ _ _ _ _ rfl)
    · match slots, hlength with
      | [_, _], _ => exact absurd rfl (hlambda _ _ rfl)
    · match slots, hlength with
      | [_, _, _, _], _ => exact absurd rfl (hclass _ _ _ _ _ rfl)
    · rfl

/-! ## Places that mention a name -/

omit hrule in
theorem foundInAll_mentionsOfAll {ns : List Node} (h : name ∈ foundInAll rule (Node.mentionsOfAll ns)) :
    ∃ (j : Nat) (c : Node), ns[j]? = some c ∧ name ∈ foundInAll rule c.mentions := by
  induction ns with
  | nil => cases h
  | cons n ns ih =>
    rw [Node.mentionsOfAll, foundInAll_append, List.mem_append] at h
    rcases h with h | h
    · exact ⟨0, n, rfl, h⟩
    · obtain ⟨j, c, hc, h⟩ := ih h
      exact ⟨j + 1, c, hc, h⟩

/-- **What is found among the mentions of a tree** a node of it mentions by itself, and no step
down to it goes into the body of a function or a class. -/
theorem exists_place (n : Node) (above : List Step) (h : name ∈ foundInAll rule n.mentions) :
    ∃ p ∈ n.places above, name ∈ foundInAll rule (ofSelf p.node.kind) ∧
      ∀ s ∈ p.above, s ∈ above ∨ s.entersBody = false := by
  induction n using Node.induction generalizing above with
  | mk k slots ih =>
    rcases hrule.foundInAll_ofKind h with h | ⟨i, ms, hi, h, hbody⟩
    · exact ⟨_, Node.self_mem_places above _, h, fun s hs => .inl hs⟩
    · rw [Node.mentionsOfSlots_eq_map] at hi hbody
      rw [List.getElem?_map, Option.map_eq_some_iff] at hi
      rw [List.length_map] at hbody
      obtain ⟨ns, hns, rfl⟩ := hi
      obtain ⟨j, c, hc, h⟩ := foundInAll_mentionsOfAll h
      have hchild : (Node.mk k slots).child? i j = some c :=
        Option.bind_eq_some_iff.2 ⟨ns, hns, hc⟩
      obtain ⟨p, hp, hfound, hway⟩ := ih ns (List.mem_of_getElem? hns) c (List.mem_of_getElem? hc)
        (⟨.mk k slots, i, j⟩ :: above) h
      refine ⟨p, Node.child_mem_places hchild hp, hfound, fun s hs => ?_⟩
      rcases hway s hs with hs | hs
      · rcases List.mem_cons.1 hs with rfl | hs
        · refine .inr (Bool.eq_false_iff.2 fun henters => ?_)
          obtain ⟨hslot, hlength⟩ := Bool.and_eq_true_iff.1 henters
          exact hbody (of_decide_eq_true hlength) (of_decide_eq_true hslot)
        · exact .inl hs
      · exact .inr hs

/-- The same for the statements of a body, to which no step leads. -/
theorem exists_place_of_body {body : List Node}
    (h : name ∈ foundInAll rule (Node.mentionsOfAll body)) :
    ∃ p ∈ Node.placesOfBody body, name ∈ foundInAll rule (ofSelf p.node.kind) ∧
      ∀ s ∈ p.above, s.entersBody = false := by
  obtain ⟨j, n, hn, h⟩ := foundInAll_mentionsOfAll h
  obtain ⟨p, hp, hfound, hway⟩ := hrule.exists_place n [] h
  exact ⟨p, Node.mem_placesOfBody.2 ⟨n, List.mem_of_getElem? hn, hp⟩, hfound,
    fun s hs => (hway s hs).resolve_left List.not_mem_nil⟩

end IsOuter

/-! ## Names that are given a value -/

theorem isOuter_bound? : IsOuter bound? := ⟨fun _ _ => rfl, rfl, fun _ => rfl⟩

/-- **A node that gives a name a value** stores to it, deletes it or names it. -/
theorem mem_bound_ofSelf {k : Kind} {name : String} :
    name ∈ foundInAll bound? (ofSelf k) ↔ k.assigns name ∨ k.names name := by
  cases k with
  | name id ctx => cases ctx <;> simp [ofSelf, bound?, Kind.assigns, Kind.names, eq_comm]
  | exceptHandler id =>
    cases id <;> simp [ofSelf, bound?, Kind.assigns, Kind.names, eq_comm]
  | globalStmt names | nonlocalStmt names =>
    simp [ofSelf, foundInAll_eq_flatMap, List.flatMap_map, bound?, Kind.assigns, Kind.names]
  | _ => simp [ofSelf, bound?, Kind.assigns, Kind.names, eq_comm]

/-- **The names that a body gives a value in its own scope**: some node in it stores to the name
or deletes it, or a node that is in no body of a function or class inside names it. -/
theorem exists_of_bound {body : List Node} {name : String}
    (h : name ∈ (Node.mentionsOfAll body).filterMap bound?) :
    ∃ p ∈ Node.placesOfBody body, (p.node.kind.assigns name ∨ p.node.kind.names name) ∧
      ∀ s ∈ p.above, s.entersBody = false := by
  obtain ⟨m, hm, hname⟩ := List.mem_filterMap.1 h
  have hfound : name ∈ found bound? m := by
    cases m <;> simp_all [bound?]
  obtain ⟨p, hp, hself, hway⟩ :=
    isOuter_bound?.exists_place_of_body (mem_foundInAll_of_mem hm hfound)
  exact ⟨p, hp, mem_bound_ofSelf.1 hself, hway⟩

end Mention

end Narrowing.Code
