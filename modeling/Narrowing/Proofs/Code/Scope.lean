import Narrowing.Proofs.Code.Binders
/-!
# What a name denotes at a place

The scopes around a place are those of the nodes above it that the place is inside of.
That is less than all of them: the defaults and decorators of a function stand outside of
it, so do the bases of a class, and what the first loop of a comprehension goes over is
worked out before the comprehension is entered (`Step.scope?`). Functions see the scopes
around them with one exception: from inside of a class body they see no names of the body,
only the one by which the class itself is reached (`visible`).

A name in a body is the variable of the function around the body if none of the visible
scopes settles it, and if it is the same name there: a class in the body gives private
names another meaning (`denotesOwn`).

What a scope settles, the text of the scope says by some node: one that stores to the name,
a parameter, or a node of those kinds that `Kind.bindsVar` leaves out
(`Place.exists_of_denotesOwn_eq_false`).
-/

namespace Narrowing.Code

open Mention

/-! ## The scopes around a place -/

/-- **A scope that code opens**: its kind, the names that it has by itself and what is
mentioned in it. -/
structure Scope where
  /-- The kind of the scope. -/
  kind : ScopeKind
  /-- The names that it has without being given them. -/
  given : List String
  /-- What is mentioned in it. -/
  mentions : List Mention

namespace Scope

/-- **Whether a scope settles what a name denotes**: the name belongs to it or is declared
global in it. -/
def settles (S : Scope) (name : String) : Bool :=
  (globals S.mentions).contains name || S.given.contains name || (locals S.mentions).contains name

/-- What functions inside see of a scope. -/
def inside (S : Scope) : Scope :=
  if S.kind = .classBody then ⟨.function false, [className], []⟩ else S

end Scope

/-- **The scopes that are seen from the innermost one.** -/
def visible : List Scope → List Scope
  | [] => []
  | S :: Ss => S :: Ss.map Scope.inside

/-- What a name stands for in a class, if it stands in one. -/
def meantIn (owner : Option String) (name : String) : String :=
  match owner with
  | some C => privateName C name
  | none => name

/-- Mentions in a class, if they stand in one, by what the names stand for. -/
def allMeantIn (owner : Option String) (ms : List Mention) : List Mention :=
  match owner with
  | some C => allInClass C ms
  | none => ms

/-- The names that a class body has by itself. -/
def givenNames (body : List Node) : List String :=
  ["__module__", "__qualname__"] ++
    match body with
    | .exprStmt (.constant k) :: _ => if k.isText then ["__doc__"] else []
    | _ => []

namespace Step

/-- **The class whose body is entered** by the innermost step that enters one. -/
def ownerOf (owner : Option String) : List Step → Option String
  | [] => owner
  | s :: above =>
    match s.node.kind, s.slot with
    | .classDef name, 2 => some name
    | _, _ => ownerOf owner above

/-- **The scope that a step enters**, in a class and with the slot of the step below. -/
def scope? (owner : Option String) (below : Option Nat) (s : Step) : Option Scope :=
  let function (isAsync : Bool) : Scope :=
    ⟨.function isAsync, [], allMeantIn owner s.node.functionMentions⟩
  let comprehension (isLazy : Bool) (loops : Nat) : Option Scope :=
    -- the iterable of the first loop stands outside
    if s.slot = loops && s.index = 0 && below = some 1 then none
    else some ⟨.comprehension isLazy, [], allMeantIn owner s.node.functionMentions⟩
  match s.node with
  | .functionDef _ isAsync _ _ _ _ => if s.slot = 1 then some (function isAsync) else none
  | .lambda _ _ => if s.slot = 1 then some (function false) else none
  | .classDef name _ _ body _ =>
    if s.slot = 2 then
      some ⟨.classBody, givenNames body, allInClass name (Node.mentionsOfAll body)⟩
    else none
  | .listComp _ _ | .setComp _ _ => comprehension false 1
  | .generatorExp _ _ => comprehension true 1
  | .dictComp _ _ _ => comprehension false 2
  | _ => none

/-- The scopes that steps enter, the innermost first. -/
def scopes (owner : Option String) : Option Nat → List Step → List Scope
  | _, [] => []
  | below, s :: above =>
    (s.scope? (ownerOf owner above) below).toList ++ scopes owner (some s.slot) above

end Step

/-- **Whether a name at a place of a body is the variable** of that name of the function
around the body. -/
def Place.denotesOwn (owner : Option String) (var : String) (p : Place) : Bool :=
  let name := meantIn (Step.ownerOf owner p.above) var
  name = meantIn owner var &&
    (visible (Step.scopes owner none p.above)).all fun S => !S.settles name

/-! ## Binders -/

/-- **Whether a node gives a name another meaning in its scope** without storing to it: a
definition, an import, a handler that names its exception, or a global declaration. -/
def Kind.bindsUnseen (name : String) : Kind → Bool
  | .functionDef id _ | .classDef id => id = name
  | .importedName id asname =>
    asname.getD (String.ofList (id.toList.takeWhile (· ≠ '.'))) = name
  | .exceptHandler id => id = some name
  | .globalStmt ids => ids.contains name
  | _ => false

/-- Whether a node gives a name another meaning in its scope. -/
def Kind.takes (name : String) (k : Kind) : Bool := k.bindsVar name || k.bindsUnseen name

namespace Mention

mutual

/-- The names that a mention takes for its scope, from the scope around or for the
module. -/
@[simp] def taken : Mention → List String
  | binds name | assigns name | imports name | parameter name | declaresGlobal name => [name]
  | source ms => takenByAll ms
  | _ => []

/-- The names that some mentions take. -/
@[simp] def takenByAll : List Mention → List String
  | [] => []
  | m :: ms => taken m ++ takenByAll ms

end

/-- The name that a mention takes, as a rule. -/
def taken? : Mention → Option String
  | binds name | assigns name | imports name | parameter name | declaresGlobal name => some name
  | _ => none

theorem isOuter_taken? : IsOuter taken? := ⟨fun _ _ => rfl, rfl, fun _ => rfl⟩

mutual

theorem taken_eq_found : (m : Mention) → taken m = found taken? m
  | binds _ | assigns _ | imports _ | parameter _ | declaresGlobal _ => rfl
  | reads _ | declaresNonlocal _ | waits | scope _ _ => rfl
  | source ms => takenByAll_eq_foundInAll ms

/-- What mentions take is found by that rule. -/
theorem takenByAll_eq_foundInAll : (ms : List Mention) → takenByAll ms = foundInAll taken? ms
  | [] => rfl
  | m :: ms => by
    rw [takenByAll, foundInAll, taken_eq_found m, takenByAll_eq_foundInAll ms]

end

@[simp] theorem takenByAll_append (ms ns : List Mention) :
    takenByAll (ms ++ ns) = takenByAll ms ++ takenByAll ns := by
  simp only [takenByAll_eq_foundInAll, foundInAll_append]

variable {name : String}

/-- The parameters of a function are taken by it. -/
theorem takenByAll_splitParameters (ms : List Mention)
    (h : name ∈ takenByAll (splitParameters ms).2) : name ∈ takenByAll ms := by
  fun_induction splitParameters ms with
  | case1 => exact h
  | case2 id ms outer inner hsplit ih =>
    rw [hsplit] at ih
    exact List.mem_append.2 ((List.mem_append.1 h).imp_right ih)
  | case3 m ms hm outer inner hsplit ih =>
    rw [hsplit] at ih
    exact List.mem_append_right _ (ih h)

theorem takenByAll_splitSource (ms : List Mention)
    (h : name ∈ takenByAll (splitSource ms).2) : name ∈ takenByAll ms := by
  rw [takenByAll_eq_foundInAll] at h ⊢
  exact foundInAll_splitSource _ _ ms (.inr h)

/-- What an expression in a comprehension gives a value is only read inside. -/
theorem takenByAll_splitAssigned (ms : List Mention)
    (h : name ∈ takenByAll (splitAssigned ms).2) : name ∈ takenByAll ms := by
  fun_induction splitAssigned ms with
  | case1 => exact h
  | case2 id ms outer inner hsplit ih =>
    rw [hsplit] at ih
    exact List.mem_append_right _ (ih h)
  | case3 m ms hm outer inner hsplit ih =>
    rw [hsplit] at ih
    exact List.mem_append.2 ((List.mem_append.1 h).imp_right ih)

/-- **What a node takes by itself** is said by its kind. -/
theorem takes_of_mem_ofSelf {k : Kind} (h : name ∈ foundInAll taken? (ofSelf k)) :
    k.takes name := by
  cases k with
  | name id ctx => cases ctx <;> simp_all [ofSelf, taken?, Kind.takes, Kind.bindsVar, Kind.assigns]
  | exceptHandler id => cases id <;> simp_all [ofSelf, taken?, Kind.takes, Kind.bindsUnseen]
  | globalStmt names | nonlocalStmt names =>
    simp_all [ofSelf, foundInAll_eq_flatMap, List.flatMap_map, taken?, Kind.takes, Kind.bindsUnseen]
  | _ => simp_all [ofSelf, taken?, Kind.takes, Kind.bindsVar, Kind.bindsUnseen]

end Mention

namespace Node

variable {name : String}

/-- **What trees take for the scope around them**, some node of theirs takes. -/
theorem anyKindList_of_mem_takenByAll {ns : List Node} (h : name ∈ takenByAll (mentionsOfAll ns)) :
    anyKindList (Kind.takes name) ns := by
  rw [takenByAll_eq_foundInAll] at h
  obtain ⟨p, hp, hself, -⟩ := isOuter_taken?.exists_place_of_body h
  exact anyKindList_iff_exists_place.2 ⟨p, hp, takes_of_mem_ofSelf hself⟩

theorem anyKind_or (q q' : Kind → Bool) (n : Node) :
    n.anyKind (fun k => q k || q' k) = (n.anyKind q || n.anyKind q') := by
  rw [Bool.eq_iff_iff, Bool.or_eq_true, anyKind_iff [], anyKind_iff [], anyKind_iff [],
    ← exists_or]
  refine exists_congr fun p => ?_
  rw [Bool.or_eq_true, and_or_left]

/-- What a slot of a node takes, some node of the tree takes. -/
theorem anyKind_of_slot {k : Kind} {slots : List (List Node)} {ns : List Node} (hmem : ns ∈ slots)
    (h : name ∈ takenByAll (mentionsOfAll ns)) : (mk k slots).anyKind (Kind.takes name) := by
  rw [anyKind, Bool.or_eq_true, anyKindSlots_iff]
  exact .inr ⟨ns, hmem, anyKindList_of_mem_takenByAll h⟩

theorem mentionsOfAll_singleton (n : Node) : mentionsOfAll [n] = n.mentions := by
  rw [mentionsOfAll, mentionsOfAll, List.append_nil]

/-- What a function takes in its own scope. -/
theorem anyKind_of_function {k : Kind} {slots : List (List Node)} (parameters : Node)
    (body : List Node) (hparameters : [parameters] ∈ slots) (hbody : body ∈ slots)
    (h : name ∈ takenByAll ((splitParameters parameters.mentions).2 ++ mentionsOfAll body)) :
    (mk k slots).anyKind (Kind.takes name) := by
  rw [takenByAll_append, List.mem_append] at h
  rcases h with h | h
  · refine anyKind_of_slot hparameters ?_
    rw [mentionsOfAll_singleton]
    exact takenByAll_splitParameters _ h
  · exact anyKind_of_slot hbody h

/-- What a comprehension takes in its own scope. -/
theorem anyKind_of_comprehension {k : Kind} {slots : List (List Node)} {loops : List Node}
    (items : List Mention) (hloops : loops ∈ slots)
    (hitems : name ∈ takenByAll items → ∃ ns ∈ slots, name ∈ takenByAll (mentionsOfAll ns))
    (h : name ∈ takenByAll
      (splitAssigned ((splitSource (mentionsOfAll loops)).2 ++ items)).2) :
    (mk k slots).anyKind (Kind.takes name) := by
  have hparts := takenByAll_splitAssigned _ h
  rw [takenByAll_append, List.mem_append] at hparts
  rcases hparts with h | h
  · exact anyKind_of_slot hloops (takenByAll_splitSource _ h)
  · obtain ⟨ns, hns, h⟩ := hitems h
    exact anyKind_of_slot hns h

/-- **A comprehension that runs at once takes nothing in its scope** that no node of it takes. -/
theorem anyKind_of_functionMentions {k : Kind} {slots : List (List Node)} (hopens : k.opensScope)
    (hkeeps : k.keepsCode = false) (hlength : slots.length = k.arities.length)
    (h : name ∈ takenByAll (mk k slots).functionMentions) :
    (mk k slots).anyKind (Kind.takes name) := by
  cases k with
  | listComp | setComp =>
    match slots, hlength with
    | [element, loops], _ =>
      exact anyKind_of_comprehension (mentionsOfAll element) (by simp) (fun h => ⟨_, by simp, h⟩) h
  | dictComp =>
    match slots, hlength with
    | [key, value, loops], _ =>
      refine anyKind_of_comprehension (mentionsOfAll key ++ mentionsOfAll value) (by simp)
        (fun h => ?_) h
      rw [takenByAll_append, List.mem_append] at h
      exact h.elim (fun h => ⟨_, by simp, h⟩) fun h => ⟨value, by simp, h⟩
  | functionDef | classDef | lambda | generatorExp => cases hkeeps
  | _ => cases hopens

end Node

namespace Mention

theorem allInClass_eq_map (owner : String) (ms : List Mention) :
    allInClass owner ms = ms.map (inClass owner) := by
  induction ms with
  | nil => rfl
  | cons m ms ih => rw [allInClass, ih, List.map_cons]

mutual

theorem taken_inClass (owner : String) :
    (m : Mention) → taken (inClass owner m) = (taken m).map (privateName owner)
  | binds _ | assigns _ | imports _ | parameter _ | declaresGlobal _ => rfl
  | reads _ | declaresNonlocal _ | waits => rfl
  | scope (.function _) _ | scope .classBody _ | scope (.comprehension _) _ => rfl
  | source ms => takenByAll_allInClass owner ms

/-- In a class the names are taken that those taken stand for. -/
theorem takenByAll_allInClass (owner : String) :
    (ms : List Mention) → takenByAll (allInClass owner ms) = (takenByAll ms).map (privateName owner)
  | [] => rfl
  | m :: ms => by
    rw [allInClass, takenByAll, taken_inClass owner m, takenByAll_allInClass owner ms, takenByAll,
      List.map_append]

end

theorem takenByAll_allMeantIn (owner : Option String) (ms : List Mention) :
    takenByAll (allMeantIn owner ms) = (takenByAll ms).map (meantIn owner) := by
  cases owner with
  | none => exact (List.map_id _).symm
  | some C => exact takenByAll_allInClass C ms

/-- What belongs to a scope or is declared global in it is taken by it. -/
theorem mem_takenByAll_of_mem_locals {ms : List Mention} {name : String}
    (h : name ∈ globals ms ∨ name ∈ locals ms) : name ∈ takenByAll ms := by
  obtain ⟨m, hm, htaken⟩ : ∃ m ∈ ms, name ∈ taken m := by
    rcases h with h | h
    · obtain ⟨m, hm, hglobal⟩ := List.mem_filterMap.1 h
      refine ⟨m, hm, ?_⟩
      cases m <;> simp_all [global?]
    · obtain ⟨m, hm, hbound⟩ := List.mem_filterMap.1 (List.mem_filter.1 h).1
      refine ⟨m, hm, ?_⟩
      cases m <;> simp_all [bound?]
  obtain ⟨before, after, rfl⟩ := List.append_of_mem hm
  rw [takenByAll_append, takenByAll]
  exact List.mem_append_right _ (List.mem_append_left _ htaken)

end Mention

/-- **A name that means something else in some class**: a private one, or one that a
private one stands for. -/
def IsRenamed (name : String) : Prop :=
  ∃ owner id, privateName owner id ≠ id ∧ (name = id ∨ name = privateName owner id)

/-- The names that class bodies have by themselves, and the one by which a class is reached
from inside. -/
def implicitNames : List String := [className, "__module__", "__qualname__", "__doc__"]

theorem isRenamed_of_meantIn {owner : Option String} {name : String}
    (h : meantIn owner name ≠ name) : IsRenamed name := by
  cases owner with
  | none => exact absurd rfl h
  | some C => exact ⟨C, name, h, .inl rfl⟩

theorem isRenamed_of_eq_meantIn {owner : Option String} {id : String}
    (h : meantIn owner id ≠ id) : IsRenamed (meantIn owner id) := by
  cases owner with
  | none => exact absurd rfl h
  | some C => exact ⟨C, id, h, .inr rfl⟩

/-- Such a name begins with an underscore. -/
theorem IsRenamed.head {name : String} (h : IsRenamed name) : name.toList.head? = some '_' := by
  obtain ⟨owner, id, hne, hname⟩ := h
  unfold privateName at hne hname
  dsimp only at hne hname
  split at hne
  · next hprivate =>
    rcases hname with rfl | hname
    · simp only [Bool.and_eq_true, List.isPrefixOf_iff_prefix] at hprivate
      obtain ⟨rest, hrest⟩ := hprivate.1.1.1
      rw [← hrest]
      rfl
    · rw [hname, if_pos hprivate, String.toList_ofList]
      rfl
  · exact absurd rfl hne

/-- It does not end with two of them. -/
theorem IsRenamed.not_suffix {name : String} (h : IsRenamed name) :
    ¬ ['_', '_'] <:+ name.toList := by
  obtain ⟨owner, id, hne, hname⟩ := h
  unfold privateName at hne hname
  dsimp only at hne hname
  split at hne
  · next hprivate =>
    have hends := hprivate
    simp only [Bool.and_eq_true, Bool.not_eq_true', Bool.eq_false_iff, ne_eq, List.isPrefixOf_iff_prefix,
      List.isSuffixOf_iff_suffix] at hends
    obtain ⟨⟨⟨hbegins, hends⟩, -⟩, -⟩ := hends
    rcases hname with rfl | hname
    · exact hends
    · -- the end of what the name stands for is that of the name, which is long enough
      intro hsuffix
      rw [hname, if_pos hprivate, String.toList_ofList, ← List.cons_append] at hsuffix
      exact hends (List.suffix_of_suffix_length_le hsuffix (List.suffix_append _ _) hbegins.length_le)
  · exact absurd rfl hne

namespace Step

variable {owner : Option String} {below : Option Nat} {s : Step} {S : Scope} {name : String}

/-- Names that are taken in a class are those that others taken stand for. -/
theorem exists_of_mem_allMeantIn {ms : List Mention} {q : String → Prop}
    (hq : ∀ id ∈ takenByAll ms, q id) (h : name ∈ takenByAll (allMeantIn owner ms)) :
    ∃ owner id, name = meantIn owner id ∧ q id := by
  rw [takenByAll_allMeantIn] at h
  obtain ⟨id, hid, rfl⟩ := List.mem_map.1 h
  exact ⟨owner, id, rfl, hq id hid⟩

/-- **What the scope of a step takes**, some node of the step takes, by the name it has
there. -/
theorem exists_of_mem_taken (hS : s.scope? owner below = some S)
    (h : name ∈ takenByAll S.mentions) :
    s.node.kind.opensScope ∧
      ∃ owner id, name = meantIn owner id ∧ s.node.anyKind (Kind.takes id) := by
  obtain ⟨n, slot, index⟩ := s
  unfold scope? at hS
  dsimp only at hS ⊢
  split at hS
  · split at hS
    · obtain rfl := Option.some.inj hS
      exact ⟨rfl, exists_of_mem_allMeantIn
        (fun id => Node.anyKind_of_function _ _ (by simp) (by simp)) h⟩
    · cases hS
  · next parameters body =>
    split at hS
    · obtain rfl := Option.some.inj hS
      refine ⟨rfl, exists_of_mem_allMeantIn (fun id hid => ?_) h⟩
      refine Node.anyKind_of_function parameters [body] (by simp) (by simp) ?_
      rw [Node.mentionsOfAll_singleton]
      exact hid
    · cases hS
  · next id bases keywords body decorators =>
    split at hS
    · obtain rfl := Option.some.inj hS
      have hbody : name ∈ takenByAll (allMeantIn (some id) (Node.mentionsOfAll body)) := h
      exact ⟨rfl, exists_of_mem_allMeantIn (fun id hid => Node.anyKind_of_slot (by simp) hid) hbody⟩
    · cases hS
  · next element loops =>
    split at hS
    · cases hS
    · obtain rfl := Option.some.inj hS
      exact ⟨rfl, exists_of_mem_allMeantIn (fun id => Node.anyKind_of_comprehension
        (Node.mentionsOfAll [element]) (by simp) fun h => ⟨_, by simp, h⟩) h⟩
  · next element loops =>
    split at hS
    · cases hS
    · obtain rfl := Option.some.inj hS
      exact ⟨rfl, exists_of_mem_allMeantIn (fun id => Node.anyKind_of_comprehension
        (Node.mentionsOfAll [element]) (by simp) fun h => ⟨_, by simp, h⟩) h⟩
  · next element loops =>
    split at hS
    · cases hS
    · obtain rfl := Option.some.inj hS
      exact ⟨rfl, exists_of_mem_allMeantIn (fun id => Node.anyKind_of_comprehension
        (Node.mentionsOfAll [element]) (by simp) fun h => ⟨_, by simp, h⟩) h⟩
  · next key value loops =>
    split at hS
    · cases hS
    · obtain rfl := Option.some.inj hS
      refine ⟨rfl, exists_of_mem_allMeantIn (fun id => Node.anyKind_of_comprehension
        (Node.mentionsOfAll [key] ++ Node.mentionsOfAll [value]) (by simp) fun h => ?_) h⟩
      rw [takenByAll_append, List.mem_append] at h
      exact h.elim (fun h => ⟨_, by simp, h⟩) fun h => ⟨[value], by simp, h⟩
  · cases hS

/-- Only class bodies have names by themselves. -/
theorem mem_implicitNames_of_given (hS : s.scope? owner below = some S) (h : name ∈ S.given) :
    name ∈ implicitNames := by
  have hgiven : S.given = [] ∨ ∃ body, S.given = givenNames body := by
    unfold scope? at hS
    dsimp only at hS
    repeat' split at hS
    all_goals cases hS
    all_goals first | exact .inl rfl | exact .inr ⟨_, rfl⟩
  rcases hgiven with hnil | ⟨body, hbody⟩
  · rw [hnil] at h
    cases h
  · rw [hbody] at h
    rcases List.mem_append.1 h with h | h
    · exact List.mem_cons_of_mem _ (List.mem_append_left ["__doc__"] h)
    · refine List.mem_cons_of_mem _ (List.mem_append_right ["__module__", "__qualname__"] ?_)
      split at h
      · split at h
        · exact h
        · cases h
      · cases h

theorem exists_of_mem_scopes {above : List Step} (h : S ∈ scopes owner below above) :
    ∃ s ∈ above, ∃ owner below, s.scope? owner below = some S := by
  induction above generalizing below with
  | nil => cases h
  | cons s above ih =>
    rcases List.mem_append.1 h with h | h
    · exact ⟨s, List.mem_cons_self, _, _, Option.mem_toList.1 h⟩
    · obtain ⟨t, ht, hscope⟩ := ih h
      exact ⟨t, List.mem_cons_of_mem _ ht, hscope⟩

end Step

/-- What is visible is a scope or what functions inside see of one. -/
theorem exists_of_mem_visible {S : Scope} {Ss : List Scope} (h : S ∈ visible Ss) :
    ∃ T ∈ Ss, S = T ∨ S = T.inside := by
  cases Ss with
  | nil => cases h
  | cons T Ss =>
    rcases List.mem_cons.1 h with rfl | h
    · exact ⟨_, List.mem_cons_self, .inl rfl⟩
    · obtain ⟨U, hU, rfl⟩ := List.mem_map.1 h
      exact ⟨U, List.mem_cons_of_mem _ hU, .inr rfl⟩

/-- A name that a visible scope settles is given or taken by a scope, or names a class. -/
theorem Scope.settles_cases {S T : Scope} {name : String} (hS : S = T ∨ S = T.inside)
    (h : S.settles name) :
    name = className ∨ name ∈ T.given ∨ name ∈ takenByAll T.mentions := by
  have hown : T.settles name → name ∈ T.given ∨ name ∈ takenByAll T.mentions := by
    intro h
    simp only [settles, Bool.or_eq_true, List.contains_iff_mem] at h
    rcases h with (h | h) | h
    · exact .inr (mem_takenByAll_of_mem_locals (.inl h))
    · exact .inl h
    · exact .inr (mem_takenByAll_of_mem_locals (.inr h))
  rcases hS with rfl | rfl
  · exact .inr (hown h)
  · unfold inside at h
    split at h
    · refine .inl ?_
      simpa [settles, globals, locals] using h
    · exact .inr (hown h)

/-- **A name that is not the variable** around the body is taken by some node of a scope
around the place, if it is no special name. -/
theorem Place.exists_of_denotesOwn_eq_false {owner : Option String} {var : String} {p : Place}
    (h : p.denotesOwn owner var = false) :
    (∃ s ∈ p.above, s.node.kind.opensScope ∧ s.node.anyKind (Kind.takes var)) ∨
      var ∈ implicitNames ∨ IsRenamed var := by
  by_cases hhere : meantIn (Step.ownerOf owner p.above) var = var
  · by_cases hthere : meantIn owner var = var
    · obtain ⟨S, hS, hsettles⟩ : ∃ S ∈ visible (Step.scopes owner none p.above), S.settles var := by
        simpa [denotesOwn, hhere, hthere] using h
      obtain ⟨T, hT, hST⟩ := exists_of_mem_visible hS
      obtain ⟨s, hs, owner', below, hscope⟩ := Step.exists_of_mem_scopes hT
      rcases Scope.settles_cases hST hsettles with rfl | hgiven | htaken
      · exact .inr (.inl List.mem_cons_self)
      · exact .inr (.inl (Step.mem_implicitNames_of_given hscope hgiven))
      · obtain ⟨hopens, C, id, hid, hany⟩ := Step.exists_of_mem_taken hscope htaken
        by_cases hsame : meantIn C id = id
        · rw [hsame] at hid
          exact .inl ⟨s, hs, hopens, hid ▸ hany⟩
        · exact .inr (.inr (hid ▸ isRenamed_of_eq_meantIn hsame))
    · exact .inr (.inr (isRenamed_of_meantIn hthere))
  · exact .inr (.inr (isRenamed_of_meantIn hhere))

end Narrowing.Code
