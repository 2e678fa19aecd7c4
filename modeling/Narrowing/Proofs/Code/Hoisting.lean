import Narrowing.Proofs.Code.Declarations
import Narrowing.Proofs.Code.Place
/-!
# Taking out the declarations of a scope

Declarations are taken out of a scope as a whole: from any depth of statements in it, and
from no scope inside of it. So a place belongs to the scope just if no definition is on the
way down to it (`Place.isOwn`), and that decides at each place what becomes of it: a
declaration of the scope becomes a statement that does nothing, and anything else is left
(`Place.hoisted`).

Along a walk over the tree two things go on. The tree is made anew as the places say, and
the names met on the way, in the order of the places, are added to those that are known.
Both are shown at once, for the node, its slots and their lists (`hoist_eq_rebuild`); the
rest is said of trees that are made anew in that way.
-/

namespace Narrowing.Code

/-! ## Names that are known -/

namespace Declared

variable {known names : List String}

theorem nodup_addNew (h : known.Nodup) : (addNew known names).Nodup := by
  induction names generalizing known with
  | nil => exact h
  | cons n names ih =>
    show (addNew (if known.contains n then known else known ++ [n]) names).Nodup
    split
    · exact ih h
    · next hn =>
      have hnew : n ∉ known := by simpa using hn
      refine ih (List.nodup_append.2 ⟨h, List.pairwise_singleton _ n, fun a ha b hb => ?_⟩)
      rintro rfl
      exact hnew (List.mem_singleton.1 hb ▸ ha)

/-- Names are added in the order in which they first occur. The induction is on the names. -/
theorem addNew_eq (known names : List String) :
    addNew known names = known ++ (names.filter fun n => !known.contains n).eraseDups := by
  induction names generalizing known with
  | nil => simp [addNew]
  | cons n names ih =>
    show addNew (if known.contains n then known else known ++ [n]) names = _
    split
    · next hn => rw [ih, List.filter_cons_of_neg (by simpa using hn)]
    · next hn =>
      have hfilter : (names.filter fun m => !(known ++ [n]).contains m) =
          (names.filter fun m => !known.contains m).filter fun m => !m == n := by
        rw [List.filter_filter]
        refine List.filter_congr fun m _ => ?_
        simp [beq_eq_decide, Bool.and_comm]
      rw [ih, hfilter, List.filter_cons_of_pos (by simpa using hn), List.eraseDups_cons,
        List.append_assoc, List.singleton_append]

theorem addNew_nil (names : List String) : addNew [] names = names.eraseDups := by
  rw [addNew_eq]
  simp

end Declared

/-- The names that a statement declares global. -/
def Kind.declaredGlobals : Kind → List String
  | .globalStmt names => names
  | _ => []

/-- The names that a statement declares to belong to an enclosing function. -/
def Kind.declaredNonlocals : Kind → List String
  | .nonlocalStmt names => names
  | _ => []

/-! ## Places of a scope -/

namespace Place

/-- **Whether a place belongs to the scope** that the way down to it starts in. -/
def isOwn (p : Place) : Bool := p.above.all fun s => !s.node.kind.keepsDeclarations

/-- Whether a place is a declaration of the scope. -/
def isOwnDeclaration (p : Place) : Bool := p.isOwn && p.node.kind.isDeclaration

/-- **What becomes of a place**: a declaration of the scope does nothing any more. -/
def hoisted (p : Place) (n : Node) : Node := if p.isOwnDeclaration then .pass else n

/-- The kind that a place has afterwards. -/
def hoistedKind (p : Place) : Kind := if p.isOwnDeclaration then .pass else p.node.kind

end Place

/-- **Where a way leads**: the kinds on it, the slots and the indices. -/
def wayOf (above : List Step) : List (Kind × Nat × Nat) :=
  above.map fun s => (s.node.kind, s.slot, s.index)

/-- The places of the scope among some places. -/
abbrev ownPlaces (ps : List Place) : List Place := ps.filter Place.isOwn

/-- What is known with the declarations at some places. -/
def Declared.collect (d : Declared) (ps : List Place) : Declared where
  globals := addNew d.globals ((ownPlaces ps).flatMap (·.node.kind.declaredGlobals))
  nonlocals := addNew d.nonlocals ((ownPlaces ps).flatMap (·.node.kind.declaredNonlocals))

/-- Whether all steps of a way down stay in the scope. -/
def IsOwnWay (above : List Step) : Prop := ∀ s ∈ above, s.node.kind.keepsDeclarations = false

theorem isOwn_iff {p : Place} : p.isOwn ↔ IsOwnWay p.above := by
  simp [Place.isOwn, IsOwnWay]

namespace Declared

variable {d : Declared} {ps qs : List Place}

theorem collect_append : d.collect (ps ++ qs) = (d.collect ps).collect qs := by
  simp only [collect, ownPlaces, List.filter_append, List.flatMap_append, addNew_append]

theorem collect_eq_self (h : ∀ p ∈ ps, p.isOwnDeclaration = false) : d.collect ps = d := by
  have hkind : ∀ p ∈ ownPlaces ps, p.node.kind.declaredGlobals = [] ∧
      p.node.kind.declaredNonlocals = [] := by
    intro p hp
    obtain ⟨hmem, hown⟩ := List.mem_filter.1 hp
    have hno := h p hmem
    rw [Place.isOwnDeclaration, hown, Bool.true_and] at hno
    revert hno
    cases p.node.kind <;> first | exact fun _ => ⟨rfl, rfl⟩ | exact nofun
  have hglobals : (ownPlaces ps).flatMap (·.node.kind.declaredGlobals) = [] :=
    List.flatMap_eq_nil_iff.2 fun p hp => (hkind p hp).1
  have hnonlocals : (ownPlaces ps).flatMap (·.node.kind.declaredNonlocals) = [] :=
    List.flatMap_eq_nil_iff.2 fun p hp => (hkind p hp).2
  rw [collect, hglobals, hnonlocals]
  rfl

end Declared

namespace Node

variable {d : Declared}

theorem hoisted_eq_self {p : Place} (h : p.isOwnDeclaration = false) (n : Node) :
    p.hoisted n = n := by
  rw [Place.hoisted, h]
  rfl

/-- No declaration in a definition is one of the scope around it. -/
theorem isOwnDeclaration_of_keeps {k : Kind} {slots : List (List Node)} {above : List Step}
    (hkeeps : k.keepsDeclarations) :
    ∀ p ∈ (mk k slots).places above, p.isOwnDeclaration = false := by
  intro p hp
  obtain rfl | ⟨s, hs, hnode⟩ := eq_or_exists_of_mem_places hp
  · refine Bool.and_eq_false_iff.2 (.inr ?_)
    cases k <;> first | rfl | cases hkeeps
  · refine Bool.and_eq_false_iff.2 (.inl (Bool.eq_false_iff.2 fun hown => ?_))
    have hno := isOwn_iff.1 hown s hs
    rw [hnode, show (Node.mk k slots).kind = k from rfl, hkeeps] at hno
    cases hno

/-- A declaration has nothing below. -/
theorem slots_eq_nil {p : Part} {k : Kind} {slots : List (List Node)} (hk : k.isDeclaration)
    (h : (mk k slots).Is p) : slots = [] := by
  have hslots := h.2
  cases slots with
  | nil => rfl
  | cons s ss => cases k <;> first | cases hk; done | exact hslots.elim

/-- A declaration of the scope does nothing afterwards, and its names are known. -/
theorem hoist_ownDeclaration {p : Part} {k : Kind} {slots : List (List Node)} {above : List Step}
    (hk : k.isDeclaration) (h : (mk k slots).Is p) (hown : IsOwnWay above) (d : Declared) :
    hoist d (mk k slots) =
      ((mk k slots).rebuild Place.hoisted above, d.collect ((mk k slots).places above)) := by
  have hplace : (⟨above, mk k slots⟩ : Place).isOwn := isOwn_iff.2 hown
  have hdeclaration : (⟨above, mk k slots⟩ : Place).isOwnDeclaration = true := by
    rw [Place.isOwnDeclaration, hplace, Bool.true_and]
    exact hk
  rw [slots_eq_nil hk h] at hplace hdeclaration ⊢
  rw [rebuild, Place.hoisted, if_pos hdeclaration, places, placesOfSlots, Declared.collect,
    ownPlaces, List.filter_cons_of_pos hplace, List.filter_nil]
  cases k with
  | globalStmt names =>
    simp [hoist, kind, Kind.declaredGlobals, Kind.declaredNonlocals, Declared.addNew]
  | nonlocalStmt names =>
    simp [hoist, kind, Kind.declaredGlobals, Kind.declaredNonlocals, Declared.addNew]
  | _ => cases hk

mutual

/-- **Taking declarations out of a tree** makes it anew as its places say, and the names
declared at the places of the scope are known then. -/
theorem hoist_eq_rebuild : (p : Part) → (n : Node) → (above : List Step) → (d : Declared) →
    n.Is p → IsOwnWay above →
      hoist d n = (n.rebuild Place.hoisted above, d.collect (n.places above))
  | p, .mk k slots, above, d, h, hown => by
    cases hkeeps : k.keepsDeclarations with
    | true =>
      -- the declarations below are those of another scope, and stay
      have hno : ∀ q ∈ (mk k slots).places above, q.isOwnDeclaration = false :=
        isOwnDeclaration_of_keeps hkeeps
      rw [hoist_of_keeps hkeeps, Declared.collect_eq_self hno,
        rebuild_eq_self above _ fun q hq m => hoisted_eq_self (hno q hq) m]
    | false =>
      cases hk : k.isDeclaration with
      | true => exact hoist_ownDeclaration hk h hown d
      | false =>
        have hno : (⟨above, mk k slots⟩ : Place).isOwnDeclaration = false :=
          Bool.and_eq_false_iff.2 (.inr hk)
        have hbelow : ∀ i j, IsOwnWay (⟨mk k slots, i, j⟩ :: above) :=
          fun i j => List.forall_mem_cons.2 ⟨hkeeps, hown⟩
        have hself : d.collect [⟨above, mk k slots⟩] = d :=
          Declared.collect_eq_self (List.forall_mem_singleton.2 hno)
        rw [hoist_eq hk hkeeps, hoistSlots_eq_rebuild _ slots _ d h.2 hbelow, rebuild,
          hoisted_eq_self hno, places, ← List.singleton_append, Declared.collect_append, hself]

theorem hoistSlots_eq_rebuild : (ps : List Part) → (ss : List (List Node)) →
    (way : Nat → Nat → List Step) → (d : Declared) → SlotsAre ps ss →
    (∀ i j, IsOwnWay (way i j)) →
      hoistSlots d ss = (rebuildSlots Place.hoisted way ss, d.collect (placesOfSlots way ss))
  | [], [], _, d, _, _ => rfl
  | p :: ps, ns :: ss, way, d, h, hway => by
    rw [hoistSlots, hoistList_eq_rebuild p ns (way 0) d h.1 (hway 0)]
    dsimp only
    rw [hoistSlots_eq_rebuild ps ss _ _ h.2 fun i => hway (i + 1), placesOfSlots,
      Declared.collect_append]
    rfl

theorem hoistList_eq_rebuild : (p : Part) → (ns : List Node) → (way : Nat → List Step) →
    (d : Declared) → AllAre p ns → (∀ j, IsOwnWay (way j)) →
      hoistList d ns = (rebuildAll Place.hoisted way ns, d.collect (placesOfAll way ns))
  | _, [], _, d, _, _ => rfl
  | p, n :: ns, way, d, h, hway => by
    rw [hoistList, hoist_eq_rebuild p n (way 0) d h.1 (hway 0)]
    dsimp only
    rw [hoistList_eq_rebuild p ns _ _ h.2 fun j => hway (j + 1), placesOfAll,
      Declared.collect_append]
    rfl

end

/-! ## What is left in place -/

/-- Where some places are, and their kinds. -/
abbrev outline (ps : List Place) : List (List (Kind × Nat × Nat) × Kind) :=
  ps.map fun p => (wayOf p.above, p.node.kind)

/-- Where some places are, and the kinds that they have afterwards. -/
abbrev hoistedOutline (ps : List Place) : List (List (Kind × Nat × Nat) × Kind) :=
  ps.map fun p => (wayOf p.above, p.hoistedKind)

mutual

/-- **Every place is left where it is**, and keeps its kind unless it is a declaration of the
scope. -/
theorem outline_rebuild : (p : Part) → (n : Node) → (above above' : List Step) → n.Is p →
    wayOf above' = wayOf above →
      outline ((n.rebuild Place.hoisted above).places above') = hoistedOutline (n.places above)
  | p, .mk k slots, above, above', h, hway => by
    cases hk : (⟨above, mk k slots⟩ : Place).isOwnDeclaration with
    | true =>
      -- no place gets lost with a declaration, which has nothing below
      have hslots : slots = [] := slots_eq_nil (Bool.and_eq_true_iff.1 hk).2 h
      subst hslots
      rw [rebuild, Place.hoisted, if_pos hk]
      simp [places, placesOfSlots, outline, hoistedOutline, Place.hoistedKind, hk, hway, kind]
    | false =>
      have hbelow := outline_rebuildSlots k.slotParts slots
        (fun i j => ⟨mk k slots, i, j⟩ :: above)
        (fun i j => ⟨mk k (rebuildSlots Place.hoisted (fun i j => ⟨mk k slots, i, j⟩ :: above) slots),
          i, j⟩ :: above') h.2 fun i j => congrArg ((k, i, j) :: ·) hway
      rw [rebuild, hoisted_eq_self hk, places, places, outline, hoistedOutline, List.map_cons,
        List.map_cons]
      refine congr (congrArg List.cons (Prod.ext hway ?_)) hbelow
      rw [Place.hoistedKind, hk]
      rfl

theorem outline_rebuildSlots : (ps : List Part) → (ss : List (List Node)) →
    (way way' : Nat → Nat → List Step) → SlotsAre ps ss →
    (∀ i j, wayOf (way' i j) = wayOf (way i j)) →
      outline (placesOfSlots way' (rebuildSlots Place.hoisted way ss)) =
        hoistedOutline (placesOfSlots way ss)
  | [], [], _, _, _, _ => rfl
  | p :: ps, ns :: ss, way, way', h, hway => by
    rw [rebuildSlots, placesOfSlots, placesOfSlots, outline, hoistedOutline, List.map_append,
      List.map_append]
    exact congr (congrArg _ (outline_rebuildAll p ns _ _ h.1 (hway 0)))
      (outline_rebuildSlots ps ss _ _ h.2 fun i => hway (i + 1))

theorem outline_rebuildAll : (p : Part) → (ns : List Node) → (way way' : Nat → List Step) →
    AllAre p ns → (∀ j, wayOf (way' j) = wayOf (way j)) →
      outline (placesOfAll way' (rebuildAll Place.hoisted way ns)) =
        hoistedOutline (placesOfAll way ns)
  | _, [], _, _, _, _ => rfl
  | p, n :: ns, way, way', h, hway => by
    rw [rebuildAll, placesOfAll, placesOfAll, outline, hoistedOutline, List.map_append,
      List.map_append]
    exact congr (congrArg _ (outline_rebuild p n _ _ h.1 (hway 0)))
      (outline_rebuildAll p ns _ _ h.2 fun j => hway (j + 1))

end

end Node

/-! ## Bodies -/

/-- The names that the scope of a body declares global, one after another. -/
def globalsOf (body : List Node) : List String :=
  (ownPlaces (Node.placesOfBody body)).flatMap (·.node.kind.declaredGlobals)

/-- The names that it declares to belong to an enclosing function. -/
def nonlocalsOf (body : List Node) : List String :=
  (ownPlaces (Node.placesOfBody body)).flatMap (·.node.kind.declaredNonlocals)

/-- **Declarations that stand for those of a body**: each name once, in the order in which
the names first occur. -/
structure Declares (ns : List Node) (globals nonlocals : List String) : Prop where
  isDeclaration : ∀ n ∈ ns, n.kind.isDeclaration
  globals_eq : ns.flatMap (·.kind.declaredGlobals) = globals.eraseDups
  nonlocals_eq : ns.flatMap (·.kind.declaredNonlocals) = nonlocals.eraseDups
  once : globals.eraseDups.Nodup ∧ nonlocals.eraseDups.Nodup

theorem Declared.declares_statements (globals nonlocals : List String) :
    Declares (Declared.mk globals.eraseDups nonlocals.eraseDups).statements globals nonlocals := by
  have hnodup : ∀ names : List String, names.eraseDups.Nodup := fun names =>
    addNew_nil names ▸ nodup_addNew List.nodup_nil
  refine ⟨fun n hn => ?_, ?_, ?_, hnodup _, hnodup _⟩
  · unfold statements at hn
    rcases List.mem_append.1 hn with hn | hn <;> split at hn <;>
      simp_all [Kind.isDeclaration, Node.kind]
  · unfold statements
    cases globals.eraseDups <;> cases nonlocals.eraseDups <;>
      simp [Node.kind, Kind.declaredGlobals]
  · unfold statements
    cases globals.eraseDups <;> cases nonlocals.eraseDups <;>
      simp [Node.kind, Kind.declaredNonlocals]

/-- **What taking the declarations out of a body does.** -/
structure TakenOut (body body' : List Node) (d : Declared) : Prop where
  /-- Just the declarations of the scope are changed, each to what does nothing. -/
  rebuilt : body' = Node.rebuildBody Place.hoisted body
  /-- So every place is still there, and no block has become empty. -/
  places : Node.outline (Node.placesOfBody body') = Node.hoistedOutline (Node.placesOfBody body)
  /-- Definitions inside are as they were. -/
  nested : ∀ p ∈ Node.placesOfBody body, p.node.kind.keepsDeclarations →
    p.node.rebuild Place.hoisted p.above = p.node
  /-- The scope declares nothing any more. -/
  gone : ∀ p ∈ Node.placesOfBody body', p.isOwnDeclaration = false
  /-- What was collected is what it has declared. -/
  declared : Declares d.statements (globalsOf body) (nonlocalsOf body)
  /-- There is nothing to take out again. -/
  again : hoistList {} body' = (body', {})

open Node in
/-- A scope in which every declaration does nothing declares nothing. -/
theorem isOwnDeclaration_of_outline {ps qs : List Place} (h : outline qs = hoistedOutline ps) :
    ∀ q ∈ qs, q.isOwnDeclaration = false := by
  intro q hq
  obtain ⟨p, hp, hpq⟩ : ∃ p ∈ ps, (wayOf p.above, p.hoistedKind) = (wayOf q.above, q.node.kind) :=
    List.mem_map.1 (show _ ∈ hoistedOutline ps from h ▸ List.mem_map_of_mem hq)
  obtain ⟨hway, hkind⟩ := Prod.mk.inj hpq
  have hown : p.isOwn = q.isOwn := by
    have hall : ∀ p : Place, p.isOwn = (wayOf p.above).all fun s => !s.1.keepsDeclarations :=
      fun p => by rw [Place.isOwn, wayOf, List.all_map]; rfl
    rw [hall, hall, hway]
  unfold Place.hoistedKind at hkind
  rw [Place.isOwnDeclaration, ← hkind]
  split
  · exact Bool.and_false _
  · next hno => rw [← hown]; exact Bool.eq_false_iff.2 hno

/-- **Taking the declarations out of a body** takes out those of its scope, at any depth of
statements, and leaves all else. -/
theorem takenOut_hoistList {body : List Node} (h : Node.AllAre .statement body) :
    TakenOut body (hoistList {} body).1 (hoistList {} body).2 := by
  have hempty : ∀ j : Nat, IsOwnWay ((fun _ => []) j) := fun _ _ hs => (List.not_mem_nil hs).elim
  have hhoist := Node.hoistList_eq_rebuild .statement body (fun _ => []) {} h hempty
  have hplaces := Node.outline_rebuildAll .statement body (fun _ => []) (fun _ => []) h fun _ => rfl
  have hgone := isOwnDeclaration_of_outline hplaces
  have hare := (Node.hoistList_spec .statement body {} h).1
  have hdeclared : (hoistList {} body).2 =
      ⟨(globalsOf body).eraseDups, (nonlocalsOf body).eraseDups⟩ := by
    rw [hhoist, Declared.collect, Declared.addNew_nil, Declared.addNew_nil]
    rfl
  rw [hhoist] at hare hdeclared ⊢
  refine ⟨rfl, hplaces, fun p _ hkeeps => ?_, hgone, ?_, ?_⟩
  · obtain ⟨above, k, slots⟩ := p
    refine Node.rebuild_eq_self above _ fun q hq m => Node.hoisted_eq_self ?_ m
    exact Node.isOwnDeclaration_of_keeps hkeeps q hq
  · dsimp only at hdeclared ⊢
    rw [hdeclared]
    exact Declared.declares_statements _ _
  · dsimp only
    rw [Node.hoistList_eq_rebuild .statement _ (fun _ => []) {} hare hempty,
      Declared.collect_eq_self hgone,
      Node.rebuildAll_eq_self _ _ fun p hp m => Node.hoisted_eq_self (hgone p hp) m]

/-- So it is for a choice that declares a name twice, around a function with a declaration of
its own. -/
theorem takenOut_hoistList_choice :
    let inner : Node := .functionDef "g" false .noArguments [.nonlocalStmt ["x"]] [] []
    let body : List Node := [.ifStmt (.load "c") [.globalStmt ["b", "a"], inner] [.globalStmt ["a"]]]
    Node.AllAre .statement body ∧
      TakenOut body [.ifStmt (.load "c") [.pass, inner] [.pass]] ⟨["b", "a"], []⟩ := by
  intro inner body
  have hare : Node.AllAre .statement body := by
    simp [body, inner, Kind.part, Kind.slotParts]
  exact ⟨hare, takenOut_hoistList hare⟩

end Narrowing.Code
