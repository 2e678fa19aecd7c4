import Narrowing.Code.Scope
import Narrowing.Code.Signature
/-!
# Rules beyond the grammar

A text that reads as statements may still be no code. A name has to be declared
before it is used and in one way only, and a name of an enclosing function has to be
bound there; a parameter and a keyword argument stand once; returning and yielding
need a function around them, waiting an asynchronous one, and leaving a loop a loop;
a spread value stands only in a display, a call or a list of targets; loops do not
nest too deep; and one name of the language cannot be given a value at all.

`obeysRules` is the conjunction of them over the statements of a module. What
concerns names is read off the mentions of the scopes, and the rest off the tree.
-/

namespace Narrowing.Code

/-- The name that cannot be given a value. -/
def reservedName : String := "__debug__"

/-! ## Names -/

namespace Mention

/-- The name that a mention makes too late to declare. Importing a name does not,
nor does reading the one whose value is known beforehand. -/
def used? : Mention → Option String
  | binds name | assigns name => some name
  | reads name => if name = reservedName then none else some name
  | _ => none

/-- The name that a mention declares global or to belong to an enclosing
function. -/
def declared? (m : Mention) : Option String := m.global?.or m.nonlocal?

/-- Whether no name is declared after it was used, where the names used so far are
given. -/
def declaredFirst : List String → List Mention → Bool
  | _, [] => true
  | used, m :: ms =>
    !(m.declared?.any used.contains) && declaredFirst (m.used?.toList ++ used) ms

/-- **Whether the declarations of a scope are valid**, where the names bound in the
functions around it are given; a module has none around it. -/
def declarationsHold (bound : Option (List String)) (ms : List Mention) : Bool :=
  let nonlocals := ms.filterMap nonlocal?
  declaredFirst [] ms && nonlocals.all fun name =>
    !(globals ms).contains name && bound.any fun names => names.contains name

/-- The names bound in the functions around what stands in a scope. -/
def boundInside (kind : ScopeKind) (bound : List String) (ms : List Mention) : List String :=
  match kind with
  | .classBody => className :: bound
  | _ => locals ms ++ bound.filter fun name => !(globals ms).contains name

/-- Whether everything of a module is imported. -/
def importsAll (ms : List Mention) : Bool := (ms.filterMap bound?).contains "*"

mutual

/-- **Whether the scopes in something mentioned name things validly.** -/
def namesHold (bound : List String) : Mention → Bool
  | scope kind ms =>
    declarationsHold (some bound) ms && !importsAll ms &&
      allNamesHold (boundInside kind bound ms) ms
  | _ => true

/-- Whether the scopes of a list name things validly. -/
def allNamesHold (bound : List String) : List Mention → Bool
  | [] => true
  | m :: ms => namesHold bound m && allNamesHold bound ms

end

end Mention

/-! ## Places -/

/-- **What stands around a node.** -/
structure Surroundings where
  /-- Whether a function is the nearest scope but for comprehensions. -/
  isFunction : Bool := false
  /-- Whether that function is asynchronous. -/
  isAsync : Bool := false
  /-- Whether that function yields. -/
  isGenerator : Bool := false
  /-- How many loops stand around in that scope. -/
  loops : Nat := 0
  /-- How many blocks that have to be left stand around in that scope. -/
  blocks : Nat := 0
  /-- Whether a comprehension is the nearest scope. -/
  inComprehension : Bool := false
  /-- Whether one was the nearest scope around that comprehension. -/
  wasInComprehension : Bool := false
  /-- Whether the node is the first loop of a comprehension. -/
  isFirstLoop : Bool := false

namespace Surroundings

/-- In a loop. -/
def inLoop (s : Surroundings) : Surroundings :=
  { s with loops := s.loops + 1, blocks := s.blocks + 1 }

/-- In so many blocks more. -/
def inBlocks (s : Surroundings) (count : Nat) : Surroundings :=
  { s with blocks := s.blocks + count }

/-- In a comprehension, at its first loop. -/
def inLoops (s : Surroundings) : Surroundings :=
  { s with
    inComprehension := true, wasInComprehension := s.inComprehension, isFirstLoop := true }

/-- In a function. -/
def ofFunction (isAsync isGenerator : Bool) : Surroundings :=
  { isFunction := true, isAsync, isGenerator }

end Surroundings

/-- How many blocks may stand in each other in one scope. -/
def greatestNesting : Nat := 20

/-- Whether the nodes of a slot may be spread. -/
def Kind.allowsStarred : Kind → Nat → Bool
  | .call, 1 | .list _, 0 | .tuple _, 0 | .set, 0 | .classDef _, 0 | .arg _, 0 => true
  | _, _ => false

/-- Whether a name is given a value in a context. -/
def Context.isReading : Context → Bool
  | .load => true
  | _ => false

/-- The keywords of a call or a class. -/
def keywordNames (keywords : List Node) : List String :=
  keywords.filterMap fun
    | .keyword name _ => name
    | _ => none

/-- Whether the keywords of a call or a class stand once and can be given. -/
def keywordsHold (keywords : List Node) : Bool :=
  let names := keywordNames keywords
  names.Nodup && !names.contains reservedName

/-- Whether a handler of everything comes last. -/
def handlersHold : List Node → Bool
  | .exceptHandler [] _ _ :: rest => rest.isEmpty
  | _ :: rest => handlersHold rest
  | [] => true

/-- Whether the parameters of a function stand once and can be given. -/
def parametersHold (parameters : Node) : Bool :=
  let names := (Signature.ofParameters parameters).names
  names.Nodup && !names.contains reservedName

/-- **Whether a node may stand where it stands**, apart from what is below it. -/
def Kind.holdsIn (s : Surroundings) (k : Kind) (slots : List (List Node)) : Bool :=
  match k, slots with
  | .functionDef n _, [parameters] :: _ => n ≠ reservedName && parametersHold parameters
  | .lambda, [parameters] :: _ => parametersHold parameters
  | .classDef n, _ :: keywords :: _ => n ≠ reservedName && keywordsHold keywords
  | .call, [_, _, keywords] => keywordsHold keywords
  | .returnStmt, [value] => s.isFunction && !(s.isAsync && s.isGenerator && !value.isEmpty)
  | .yield, _ => s.isFunction && !s.inComprehension
  | .yieldFrom, _ => s.isFunction && !s.inComprehension && !s.isAsync
  | .breakStmt, _ | .continueStmt, _ => s.loops > 0
  | .forStmt isAsync, _ => (!isAsync || s.isAsync) && s.blocks < greatestNesting
  | .whileStmt, _ => s.blocks < greatestNesting
  | .withStmt isAsync, items :: _ =>
    (!isAsync || s.isAsync) && s.blocks + items.length ≤ greatestNesting
  | .tryStmt, [_, handlers, _, _] => handlersHold handlers && s.blocks < greatestNesting
  | .name id ctx, _ => ctx.isReading || id ≠ reservedName
  | .member attr ctx, _ => ctx ≠ .store || attr ≠ reservedName
  | .importedName n asname, _ => asname.getD n ≠ reservedName
  | .exceptHandler n, _ => n ≠ some reservedName
  | .list .store, [elements] | .tuple .store, [elements] => elements.countP Node.isStarred ≤ 1
  | _, _ => true

/-- **What stands around the nodes of a slot** of a node. -/
def Kind.surroundings (s : Surroundings) (k : Kind) (slots : List (List Node)) (slot : Nat) :
    Surroundings :=
  match k, slots, slot with
  | .functionDef _ isAsync, [_, body, _, _], 1 =>
    .ofFunction isAsync (Node.someYields body)
  | .lambda, [_, body], 1 => .ofFunction false (Node.someYields body)
  | .classDef _, _, 2 => {}
  | .forStmt _, _, 2 | .whileStmt, _, 1 => s.inLoop
  | .withStmt _, items :: _, 1 => s.inBlocks items.length
  | .tryStmt, [_, handlers, _, final], 0 =>
    s.inBlocks ((if handlers.isEmpty then 0 else 1) + if final.isEmpty then 0 else 1)
  | .tryStmt, [_, _, _, final], 1 => s.inBlocks (1 + if final.isEmpty then 0 else 1)
  | .tryStmt, [_, _, _, final], 2 => s.inBlocks (if final.isEmpty then 0 else 1)
  | .exceptHandler (some _), _, 1 => s.inBlocks 1
  | .listComp, _, _ | .setComp, _, _ | .generatorExp, _, _ | .dictComp, _, _ => s.inLoops
  | .comprehension _, _, 1 =>
    if s.isFirstLoop then { s with inComprehension := s.wasInComprehension, isFirstLoop := false }
    else s
  | _, _, _ => { s with isFirstLoop := false }

mutual

/-- **Whether the nodes of a tree stand where they may.** -/
def Node.placesHold (s : Surroundings) : Node → Bool
  | .mk k slots => k.holdsIn s slots && slotsHold (k.surroundings s slots) k.allowsStarred 0 slots

/-- Whether the nodes of some slots stand where they may. -/
def slotsHold (around : Nat → Surroundings) (allowsStarred : Nat → Bool) (slot : Nat) :
    List (List Node) → Bool
  | [] => true
  | ns :: rest =>
    Node.allPlacesHold (around slot) (allowsStarred slot) ns &&
      slotsHold around allowsStarred (slot + 1) rest

/-- Whether the nodes of a list stand where they may. -/
def Node.allPlacesHold (s : Surroundings) (allowsStarred : Bool) : List Node → Bool
  | [] => true
  | n :: ns =>
    (allowsStarred || !n.isStarred) && Node.placesHold s n &&
      Node.allPlacesHold { s with isFirstLoop := false } allowsStarred ns

end

/-- **Whether the statements of a module obey the rules.** -/
def obeysRules (body : List Node) : Bool :=
  let ms := Node.mentionsOfAll body
  Mention.declarationsHold none ms && Mention.allNamesHold [] ms &&
    (Mention.firstWaitFault? .classBody ms).isNone && Node.allPlacesHold {} false body

end Narrowing.Code
