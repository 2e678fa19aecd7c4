import Narrowing.Code.Node
/-!
# Scopes

Which scope a name belongs to is settled by the text of the code. A name bound
anywhere in a function belongs to that function throughout, unless the function
declares it otherwise; a name that is only read belongs to the nearest enclosing
function that has it, and to the module if there is none. A class body has names
of its own, which the functions inside it do not see.

`Node.mentions` reads off a tree what it says about names, with the scopes in it
nested as in the text. The rest is computed from that, and so is whether the code
waits only where waiting is possible: in an asynchronous function, and in a
comprehension that stands in one.
-/

namespace Narrowing.Code

/-- The kinds of scopes. -/
inductive ScopeKind where
  /-- A function or a function expression. -/
  | function (isAsync : Bool)
  /-- The body of a class. -/
  | classBody
  /-- A comprehension, which may give its items one by one. -/
  | comprehension (isLazy : Bool)
deriving DecidableEq

/-- **What code says about a name**, or a scope inside it. -/
inductive Mention where
  /-- The name is given a value. -/
  | binds (name : String)
  /-- The name is given a value in the middle of an expression. -/
  | assigns (name : String)
  /-- The name is given a value by an import. -/
  | imports (name : String)
  /-- The value of the name is asked for. -/
  | reads (name : String)
  /-- The name is declared global. -/
  | declaresGlobal (name : String)
  /-- The name is declared to belong to an enclosing function. -/
  | declaresNonlocal (name : String)
  /-- The name is a parameter of the function around. -/
  | parameter (name : String)
  /-- The code waits. -/
  | waits
  /-- What the items of a comprehension loop come from. -/
  | source (mentions : List Mention)
  /-- A scope. -/
  | scope (kind : ScopeKind) (mentions : List Mention)

namespace Mention

/-- What a function mentions outside and inside, from what its parameters
mention. -/
def splitParameters : List Mention → List Mention × List Mention
  | [] => ([], [])
  | parameter name :: ms =>
    let (outer, inner) := splitParameters ms
    (outer, binds name :: inner)
  | m :: ms =>
    let (outer, inner) := splitParameters ms
    (m :: outer, inner)

/-- Takes the first source out of what the loops of a comprehension mention; the
others stay inside. -/
def splitSource : List Mention → List Mention × List Mention
  | [] => ([], [])
  | source ms :: rest => (ms, openSources rest)
  | m :: rest =>
    let (outer, inner) := splitSource rest
    (outer, m :: inner)
where
  /-- Replaces sources by what they mention. -/
  openSources : List Mention → List Mention
    | [] => []
    | source ms :: rest => ms ++ openSources rest
    | m :: rest => m :: openSources rest

/-- A name that an expression gives a value. -/
def inExpression : Mention → Mention
  | binds name => assigns name
  | m => m

/-- What a comprehension mentions outside and inside. A name that an expression in
it gives a value belongs to the scope around the comprehension. -/
def splitAssigned : List Mention → List Mention × List Mention
  | [] => ([], [])
  | assigns name :: ms =>
    let (outer, inner) := splitAssigned ms
    (assigns name :: outer, reads name :: inner)
  | m :: ms =>
    let (outer, inner) := splitAssigned ms
    (outer, m :: inner)

/-- A comprehension with what it mentions, and what it mentions outside: the first
source of its loops and the names that it gives a value. -/
def ofComprehension (isLazy : Bool) (loops items : List Mention) : List Mention :=
  let (sources, loops) := splitSource loops
  let (outer, inner) := splitAssigned (loops ++ items)
  scope (.comprehension isLazy) inner :: (sources ++ outer)

end Mention

open Mention

/-! ## Private names -/

/-- **What a private name of a class stands for**: one that begins with two underscores and
does not end so is the name of the class without those it begins with, behind one, and the
name. A class named by underscores alone has no private names. -/
def privateName (owner name : String) : String :=
  let cs := name.toList
  let stem := owner.toList.dropWhile (· = '_')
  if ['_', '_'].isPrefixOf cs && !List.isSuffixOf ['_', '_'] cs && !cs.contains '.' && !stem.isEmpty then
    String.ofList ('_' :: (stem ++ cs))
  else name

namespace Mention

mutual

/-- A mention in a class by what its private names stand for. The names in a class
inside belong to that. -/
def inClass (owner : String) : Mention → Mention
  | binds name => binds (privateName owner name)
  | assigns name => assigns (privateName owner name)
  | imports name => imports (privateName owner name)
  | reads name => reads (privateName owner name)
  | declaresGlobal name => declaresGlobal (privateName owner name)
  | declaresNonlocal name => declaresNonlocal (privateName owner name)
  | parameter name => parameter (privateName owner name)
  | waits => waits
  | source ms => source (allInClass owner ms)
  | scope .classBody ms => scope .classBody ms
  | scope (.function isAsync) ms => scope (.function isAsync) (allInClass owner ms)
  | scope (.comprehension isLazy) ms => scope (.comprehension isLazy) (allInClass owner ms)

/-- Mentions in a class by what its private names stand for. -/
def allInClass (owner : String) : List Mention → List Mention
  | [] => []
  | m :: ms => inClass owner m :: allInClass owner ms

end

end Mention

/-- **What a node mentions**, from what the nodes of its slots mention. -/
def Mention.ofKind (k : Kind) (slots : List (List Mention)) : List Mention :=
  match k, slots with
  | .name id .load, _ => [reads id]
  | .name id _, _ => [binds id]
  | .globalStmt names, _ => names.map declaresGlobal
  | .nonlocalStmt names, _ => names.map declaresNonlocal
  | .arg name, slots => slots.flatten ++ [parameter name]
  | .functionDef name isAsync, [parameters, body, decorators, returns] =>
    let (outer, inner) := splitParameters parameters
    decorators ++ outer ++ returns ++ [binds name, scope (.function isAsync) (inner ++ body)]
  | .lambda, [parameters, body] =>
    let (outer, inner) := splitParameters parameters
    outer ++ [scope (.function false) (inner ++ body)]
  | .classDef name, [bases, keywords, body, decorators] =>
    decorators ++ bases ++ keywords ++ [binds name, scope .classBody (allInClass name body)]
  | .comprehension isAsync, [target, iter, ifs] =>
    source iter :: ((if isAsync then [waits] else []) ++ target ++ ifs)
  | .listComp, [element, loops] | .setComp, [element, loops] => ofComprehension false loops element
  | .generatorExp, [element, loops] => ofComprehension true loops element
  | .dictComp, [key, value, loops] => ofComprehension false loops (key ++ value)
  | .namedExpr, [target, value] => target.map inExpression ++ value
  | .await, slots => waits :: slots.flatten
  | .importedName name asname, _ =>
    [imports (asname.getD (String.ofList (name.toList.takeWhile (· ≠ '.'))))]
  | .exceptHandler name, slots => slots.flatten ++ name.toList.map binds
  | _, slots => slots.flatten

namespace Node

mutual

/-- **What a tree says about names.** -/
def mentions : Node → List Mention
  | .mk k slots => Mention.ofKind k (mentionsOfSlots slots)

/-- What each slot says about names. -/
def mentionsOfSlots : List (List Node) → List (List Mention)
  | [] => []
  | s :: ss => mentionsOfAll s :: mentionsOfSlots ss

/-- What a list of trees says about names. -/
def mentionsOfAll : List Node → List Mention
  | [] => []
  | n :: ns => mentions n ++ mentionsOfAll ns

end

end Node

namespace Mention

/-- The name bound. -/
def bound? : Mention → Option String
  | binds name | assigns name | imports name => some name
  | _ => none

/-- The name read. -/
def read? : Mention → Option String
  | reads name => some name
  | _ => none

/-- The name declared global. -/
def global? : Mention → Option String
  | declaresGlobal name => some name
  | _ => none

/-- The name declared to belong to an enclosing function. -/
def nonlocal? : Mention → Option String
  | declaresNonlocal name => some name
  | _ => none

/-- The names that a scope declares global. -/
def globals (ms : List Mention) : List String := ms.filterMap global?

/-- **The names that belong to a scope.** -/
def locals (ms : List Mention) : List String :=
  (ms.filterMap bound?).filter fun name =>
    !(ms.filterMap global?).contains name && !(ms.filterMap nonlocal?).contains name

/-- The name by which a function reaches the class it was defined in. -/
def className : String := "__class__"

/-- The names that a function reads; finding the parent class of a method needs
the class it was defined in. -/
def functionReads (ms : List Mention) : List String :=
  let names := ms.filterMap read?
  if names.contains "super" then className :: names else names

/-- **The names that a scope leaves to the functions around it**, from those that
the scopes inside it leave. -/
def leftOver (kind : ScopeKind) (ms : List Mention) (inner : List String) : List String :=
  let isOwn (name : String) : Bool := (locals ms).contains name || (globals ms).contains name
  let nonlocals := ms.filterMap nonlocal?
  match kind with
  | .classBody =>
    ((ms.filterMap read? ++ nonlocals).filter fun name => !isOwn name) ++
      inner.filter fun name => name ≠ className
  | _ => (functionReads ms ++ nonlocals ++ inner).filter fun name => !isOwn name

mutual

/-- The names that a scope leaves to the functions around it. -/
def free : Mention → List String
  | scope kind ms => leftOver kind ms (freeOfAll ms)
  | _ => []

/-- The names that the scopes of a list leave to the functions around them. -/
def freeOfAll : List Mention → List String
  | [] => []
  | m :: ms => free m ++ freeOfAll ms

end

/-! ## Waiting -/

mutual

/-- Whether something mentioned makes the scope around it wait. -/
def isWaiting : Mention → Bool
  | waits => true
  | scope (.comprehension false) ms => someWaiting ms
  | _ => false

/-- Whether something of a list makes the scope around it wait. -/
def someWaiting : List Mention → Bool
  | [] => false
  | m :: ms => isWaiting m || someWaiting ms

end

end Mention

/-- Why code waits where it cannot. -/
inductive WaitFault where
  /-- Outside of any function. -/
  | outsideFunction
  /-- In a function that is not asynchronous. -/
  | outsideAsync
  /-- In a comprehension that stands in no asynchronous function. -/
  | inComprehension
deriving DecidableEq

namespace WaitFault

/-- The words for a fault. -/
def text : WaitFault → String
  | outsideFunction => "'await' outside function"
  | outsideAsync => "'await' outside async function"
  | inComprehension => "asynchronous comprehension outside of an asynchronous function"

end WaitFault

namespace Mention

/-- The fault of waiting directly in a scope. -/
def waitFaultIn : ScopeKind → Option WaitFault
  | .classBody => some .outsideFunction
  | .function false => some .outsideAsync
  | .function true | .comprehension _ => none

/-- Whether a comprehension in a scope may wait. -/
def allowsWaiting : ScopeKind → Bool
  | .function true | .comprehension _ => true
  | _ => false

mutual

/-- The fault of what is mentioned in a scope. -/
def waitFault? (kind : ScopeKind) : Mention → Option WaitFault
  | waits => waitFaultIn kind
  | scope inner ms =>
    if inner = .comprehension false && someWaiting ms && !allowsWaiting kind then
      some .inComprehension
    else firstWaitFault? inner ms
  | _ => none

/-- **The first fault of a scope.** -/
def firstWaitFault? (kind : ScopeKind) : List Mention → Option WaitFault
  | [] => none
  | m :: ms => (waitFault? kind m).or (firstWaitFault? kind ms)

end

end Mention

/-- **What the scope of a function mentions**: that of a definition, a function expression
or a comprehension, which runs as a function of its own. -/
def Node.functionMentions : Node → List Mention
  | .functionDef _ _ parameters body _ _ =>
    (splitParameters parameters.mentions).2 ++ Node.mentionsOfAll body
  | .lambda parameters body => (splitParameters parameters.mentions).2 ++ body.mentions
  | n =>
    match n.mentions with
    | scope (.comprehension _) ms :: _ => ms
    | _ => []

mutual

/-- Whether a tree yields in its own scope. -/
def Node.yields : Node → Bool
  | .mk k slots =>
    match k with
    | .yield | .yieldFrom => true
    | .functionDef .. | .classDef _ | .lambda => false
    | _ => Node.slotsYield slots

/-- Whether some slot yields. -/
def Node.slotsYield : List (List Node) → Bool
  | [] => false
  | s :: ss => Node.someYields s || Node.slotsYield ss

/-- Whether some tree of a list yields in its own scope. -/
def Node.someYields : List Node → Bool
  | [] => false
  | n :: ns => Node.yields n || Node.someYields ns

end

end Narrowing.Code
