import Narrowing.Run.Definition
/-!
# The meaning of code

What each node of a tree does when it runs, given by what the nodes below it do. A node
may be run in several ways: for its value, as a statement, as a target that gets a value,
loses it or is updated, as part of a call or a display, or as a loop of a comprehension;
a function is run for what a call of it gives. So a **meaning** is a bundle of runs, and
each kind of node says how its own bundle is made. A way of running that makes no sense
for a kind, and all that the language cannot do here, fails as unsupported.

Calls are asked for and not carried out, which makes the meaning of a tree a matter of
the tree alone.
-/

namespace Narrowing

open Code

/-- **How a statement ends**: the next one is up, the function returns, or the loop around
is left or goes on with its next round. -/
inductive Signal where
  | next
  | returned (v : Value)
  | broke
  | continued

/-- **What a node does when it runs.** -/
structure Meaning where
  /-- The value of an expression. -/
  value : Site → Run Value := fun _ => throw .unsupported
  /-- What a statement does. -/
  effect : Site → Run Signal := fun _ => throw .unsupported
  /-- Giving a target a value. -/
  store : Site → Value → Run Unit := fun _ _ => throw .unsupported
  /-- Taking the value of a target away. -/
  remove : Site → Run Unit := fun _ => throw .unsupported
  /-- Giving a target the value made of the one it has. -/
  update : Site → (Value → Run Value) → Run Unit := fun _ _ => throw .unsupported
  /-- The values that an expression stands for in a call or a display. -/
  spread : Site → Run (List Value) := fun c => do return [← value c]
  /-- The values that a keyword argument or an annotated parameter gives to names. -/
  named : Site → Run (List (String × Value)) := fun _ => return []
  /-- The defaults of parameters, by position and by name. -/
  defaults : Site → Run (List Value × List (String × Value)) := fun _ => return ([], [])
  /-- A loop of a comprehension, over an iterator that may be given: what is gathered for
  each item goes before what was gathered so far. -/
  loop : Site → Option Value → (List Value → Run (List Value)) → List Value → Run (List Value) :=
    fun _ _ _ _ => throw .unsupported
  /-- What a call of a function gives. -/
  body : Site → Run Value := fun _ => throw .unsupported
  /-- Whether the value is that of constants alone. -/
  isConstant : Bool := false

namespace Run

/-! ## Sequencing -/

/-- Runs statements in order until one does not go on to the next. -/
def inOrder (c : Site) : List Meaning → Run Signal
  | [] => return .next
  | s :: ss => do
    match ← s.effect c with
    | .next => inOrder c ss
    | signal => return signal

/-- **Runs rounds of a loop** until one ends it: a round that is left ends the loop at
once, and one that is not to be run ends it in another block. -/
def rounds (orelse : Run Signal) (round : Run (Option Signal)) : Run Signal :=
  iterate (fun () => do
    match ← round with
    | none => return .inr (← orelse)
    | some (.returned v) => return .inr (.returned v)
    | some .broke => return .inr .next
    | some _ => return .inl ()) greatestRounds ()

/-- The value that decides a conjunction or disjunction. -/
def decided (op : BoolOp) (c : Site) : List Meaning → Run Value
  | [] => throw .unsupported
  | [e] => e.value c
  | e :: es => do
    let v ← e.value c
    if (← aside c (isTrue v)) = (op = .or) then return v else decided op c es

/-- **The value of a comparison.** -/
def comparison (op : CompareOp) (v w : Value) : Run Value := do
  match op with
  | .is => return .bool (v.identical w)
  | .isNot => return .bool !(v.identical w)
  | .isIn => return .bool (← contains w v)
  | .notIn => return .bool !(← contains w v)
  | op => compare op v w

/-- The value of a chain of comparisons: the first that is not true, or the
last. -/
def compareChain (c : Site) : Value → List CompareOp → List Meaning → Run Value
  | v, [op], [e] => do
    let w ← e.value c
    aside c (comparison op v w)
  | v, op :: ops, e :: es => do
    let w ← e.value c
    let holds ← aside c (comparison op v w)
    if ← aside c (isTrue holds) then compareChain c w ops es else return holds
  | _, _, _ => throw .unsupported

/-- Whether all conditions hold. -/
def allTrue (c : Site) : List Meaning → Run Bool
  | [] => return true
  | e :: es => do
    let v ← e.value c
    if ← aside c (isTrue v) then allTrue c es else return false

/-- The values that expressions stand for. -/
def spreadAll (c : Site) : List Meaning → Run (List Value)
  | [] => return []
  | m :: ms => do
    let vs ← m.spread c
    return vs ++ (← spreadAll c ms)

/-- The values that nodes give to names. -/
def namedAll (c : Site) : List Meaning → Run (List (String × Value))
  | [] => return []
  | m :: ms => do
    let vs ← m.named c
    return vs ++ (← namedAll c ms)

/-! ## Targets -/

/-- Gives each of several targets one value. -/
def storeAll (c : Site) (v : Value) : List Meaning → Run Unit
  | [] => return ()
  | t :: ts => do
    t.store c v
    storeAll c v ts

/-- Gives each of several targets its value. -/
def storeEach (c : Site) : List Meaning → List Value → Run Unit
  | t :: ts, v :: vs => do
    t.store c v
    storeEach c ts vs
  | _, _ => return ()

/-- The next items of an iterator, which has to have so many. -/
def firstGiven (i : Value) : Nat → Run (List Value)
  | 0 => return []
  | count + 1 => do
    match ← next? i with
    | some v => return v :: (← firstGiven i count)
    | none => throw .badValue

/-- **Takes a value apart** for several targets, one of which may take what is left over
as a list. -/
def takeApart (targets : List Node) (v : Value) : Run (List Value) := do
  let i ← iterator v
  let before := (targets.takeWhile fun t => !t.isStarred).length
  let vs ← firstGiven i before
  if before = targets.length then
    match ← next? i with
    | none => return vs
    | some _ => throw .badValue
  else do
    let rest ← drain i greatestRounds []
    let after := targets.length - before - 1
    if rest.length < after then throw .badValue
    let (middle, last) := rest.splitAt (rest.length - after)
    return vs ++ [← alloc (.list middle)] ++ last

/-! ## Comprehensions -/

/-- What the loops of a comprehension gather, from the outermost on; the iterator of the
first may be given. -/
def gather (c : Site) (item : List Value → Run (List Value)) :
    List Meaning → Option Value → List Value → Run (List Value)
  | [], _, gathered => item gathered
  | m :: ms, given, gathered => m.loop c given (fun gathered => gather c item ms none gathered) gathered

/-- The iterator of the first loop of a comprehension. -/
def firstIterator (c : Site) : List Meaning → Run Value
  | first :: _ => do
    let v ← first.value c
    aside c (iterator v)
  | [] => throw .unsupported

/-- **The value of a comprehension that runs at once**: what its loops gather in a frame of their
own, with what each round gathers, and what is built of that. -/
def comprehend (c : Site) (name : String) (definition : Node) (loops : List Meaning)
    (item : Site → List Value → Run (List Value)) (build : List Value → Run Value) : Run Value := do
  let i ← firstIterator c loops
  let c ← enterLoops c name definition i
  let gathered ← gather c (item c) loops (some i) []
  aside c (build gathered.reverse)

/-! ## Calls and displays -/

/-- All names of the module. -/
def boundNames (c : Site) : Run (List (String × Value)) :=
  return (((← read).frame? c.globals).map Frame.bindings).getD []

/-- **The value of a call**, where a class that comes after another and the names that have a
value are found by the place of the call. -/
def callHere (c : Site) (f : Value) (args : List Value) (keywords : List (String × Value)) :
    Run Value := do
  if !(keywords.map Prod.fst).Nodup then throw .wrongType
  match f, args, keywords with
  | .cls (.other "super"), [], [] => aboveHere c
  | .cls (.other "type"), [name, bases, members], keywords =>
    classByCall c name bases members keywords
  | .builtin (.foreign "locals"), [], [] | .builtin .vars, [], [] => do namesDict (← namesHere c)
  | .builtin (.foreign "globals"), [], [] => do namesDict (← boundNames c)
  | .builtin (.foreign "dir"), [], [] => do
    let names := (← namesHere c).map Prod.fst
    alloc (.list (names.mergeSort.map Value.ofName))
  | _, _, _ => do tellApart (← ask (.call f args keywords))

/-- The entries of a mapping with texts as keys. -/
def textEntries (v : Value) : Run (List (String × Value)) := do
  (← entriesIn v).mapM fun (k, w) => do
    match (← read).text? k with
    | some s => return (s, w)
    | none => throw .wrongType

/-- The entries of a dictionary display. -/
def displayEntries (c : Site) : List Node → List Meaning → List Meaning →
    Run (List (Value × Value))
  | .absent :: ks, _ :: kms, v :: vms => do
    let w ← v.value c
    let entries ← aside c (entriesIn w)
    return entries ++ (← displayEntries c ks kms vms)
  | _ :: ks, k :: kms, v :: vms => do
    let key ← k.value c
    let w ← v.value c
    return (key, w) :: (← displayEntries c ks kms vms)
  | _, _, _ => return []

/-- A value computed of others, which is a constant where they are. -/
def computed (c : Site) (isConstant : Bool) (v : Value) : Run Value :=
  if isConstant && v.tag? = some .none then pooled c v else tellApart v

/-- The value of a part that may be missing. -/
def valueOr (c : Site) (default : Value) : List Meaning → Run Value
  | [e] => e.value c
  | _ => return default

end Run

/-! ## The meaning of each kind of node -/

open Run

/-- The meaning of an expression that is only run for its value. -/
def Meaning.ofValue (value : Site → Run Value) : Meaning := { value }

/-- The meaning of a statement. -/
def Meaning.ofEffect (effect : Site → Run Signal) : Meaning := { effect }

/-- The meaning of a statement that always goes on to the next. -/
def Meaning.ofAction (act : Site → Run Unit) : Meaning :=
  .ofEffect fun c => do
    act c
    return .next

/-- The meaning of a name, which is only given a value or loses it where it stands for that. -/
def Meaning.ofName (id : String) (ctx : Context) : Meaning :=
  let value (c : Site) : Run Value := readName c (c.mangled id)
  match ctx with
  | .load => { value }
  | .store =>
    { value
      store := fun c v => writeName c (c.mangled id) v
      update := fun c f => do writeName c (c.mangled id) (← f (← value c)) }
  | .del => { value, remove := fun c => deleteName c (c.mangled id) }

/-- The meaning of an attribute. -/
def Meaning.ofMember (attr : String) (e : Meaning) : Meaning where
  value c := do
    let v ← e.value c
    aside c (readAttribute v (c.mangled attr))
  store c w := do
    let v ← e.value c
    aside c (writeAttribute v (c.mangled attr) w)
  remove c := do
    let v ← e.value c
    aside c (deleteAttribute v (c.mangled attr))
  update c f := do
    let v ← e.value c
    let w ← f (← aside c (readAttribute v (c.mangled attr)))
    aside c (writeAttribute v (c.mangled attr) w)

/-- The meaning of an element. -/
def Meaning.ofElement (e i : Meaning) : Meaning where
  value c := do
    let v ← e.value c
    let index ← i.value c
    aside c do tellApart (← subscript v index)
  store c w := do
    let v ← e.value c
    let index ← i.value c
    aside c (writeElement v index w)
  remove c := do
    let v ← e.value c
    let index ← i.value c
    aside c (deleteElement v index)
  update c f := do
    let v ← e.value c
    let index ← i.value c
    let w ← f (← aside c (subscript v index))
    aside c (writeElement v index w)

/-- The meaning of a display of a list or a tuple, which may be a target. -/
def Meaning.ofItems (nodes : List Node) (parts : List Meaning) (isConstant : Bool)
    (build : Site → List Value → Run Value) : Meaning where
  value c := do build c (← spreadAll c parts)
  store c v := do storeEach c parts (← aside c (takeApart nodes v))
  remove c := do
    let _ ← parts.mapM fun m => m.remove c
  isConstant := isConstant

/-- The meaning of a comprehension that gives its items one by one: a function that is called on
the iterator of its first loop, and what a call of that gives. -/
def Meaning.ofGenerator (name : String) (definition : Node) (element : Meaning)
    (loops : List Meaning) : Meaning where
  value c := do
    let i ← firstIterator c loops
    let f ← newFunction c definition
      { name, qualname := c.inside ++ name, line := c.line, isSuspending := true }
    invoke f [i]
  body c := do
    let i ← readName c Signature.iteratorName
    let item (vs : List Value) : Run (List Value) := do
      let v ← element.value c
      let _ ← aside c (ask (.yield v))
      return vs
    let _ ← gather c item loops (some i) []
    return .none

/-- The rounds of a loop of a comprehension, one for each item of an iterator. -/
def loopRounds (c : Site) (i : Value) (target : Meaning) (ifs : List Meaning)
    (item : List Value → Run (List Value)) (gathered : List Value) : Run (List Value) :=
  iterate (fun gathered => do
    match ← aside c (next? i) with
    | none => return .inr gathered
    | some v => do
      target.store c v
      if ← allTrue c ifs then return .inl (← item gathered) else return .inl gathered)
    greatestRounds gathered

/-- The meaning of a loop of a comprehension. -/
def Meaning.ofLoop (target iter : Meaning) (ifs : List Meaning) : Meaning where
  value := iter.value
  loop c given item gathered := do
    let i ←
      match given with
      | some i => pure i
      | none => do
        let v ← iter.value c
        aside c (iterator v)
    loopRounds c i target ifs item gathered

/-- The defaults of keyword parameters; those without one are left out. -/
def keywordDefaults (c : Site) : List Node → List Node → List Meaning →
    Run (List (String × Value))
  | .arg _ _ :: ps, .absent :: ds, _ :: ms => keywordDefaults c ps ds ms
  | .arg id _ :: ps, _ :: ds, m :: ms => do
    let v ← m.value c
    return (c.mangled id, v) :: (← keywordDefaults c ps ds ms)
  | _, _, _ => return []

/-- The meaning of a definition of a function: it makes one, which its decorators are called
on, and a call runs its body. -/
def Meaning.ofFunction (n : Node) (id : String) (isAsync : Bool) (statements : List Node)
    (parameters : Meaning) (body decorators returns : List Meaning) : Meaning where
  effect c := do
    let line := c.at_ (.statement n)
    let wrappers ← decorators.mapM fun d => d.value line
    let (defaults, kwDefaults) ← parameters.defaults line
    let hints ← parameters.named line
    let result ← returns.mapM fun r => return ("return", ← r.value line)
    let f ← newFunction c n {
      name := id, qualname := (← read).qualify c id, doc := ← documentationOf c statements
      isSuspending := isAsync || Node.someYields statements
      defaults, kwDefaults, annotations := hints ++ result }
    writeName c (c.mangled id) (← wrappers.foldrM (fun w v => invoke w [v]) f)
    return .next
  body c := do
    match ← inOrder c body with
    | .returned v => return v
    | _ => return .none

/-- The meaning of a class statement. -/
def Meaning.ofClass (n : Node) (id : String) (statements : List Node)
    (bases keywords body decorators : List Meaning) : Meaning :=
  .ofAction fun c => do
    let line := c.at_ (.statement n)
    let wrappers ← decorators.mapM fun d => d.value line
    let given ← spreadAll line bases
    let keywords ← namedAll line keywords
    let v ← newClass c id statements (fun c => do let _ ← inOrder c body) given keywords
    writeName c (c.mangled id) (← wrappers.foldrM (fun w v => invoke w [v]) v)

/-- Whether the other block of a choice is itself a choice that continues it. -/
def isContinued : List Node → Bool
  | [.ifStmt ..] => true
  | _ => false

/-- The line of a choice: its head opens with a word of its own unless it continues another. -/
def headLine (c : Site) : SourceLine :=
  match c.line with
  | .head true => .head true
  | _ => .head false

/-- The meaning of a choice between blocks. -/
def Meaning.ofChoice (test : Meaning) (body orelse : List Meaning) (others : List Node) :
    Meaning :=
  .ofEffect fun c => do
    let v ← test.value (c.at_ (headLine c))
    if ← aside c (isTrue v) then inOrder c.deeper body
    else if isContinued others then inOrder (c.at_ (.head true)) orelse
    else inOrder c.deeper orelse

/-- **The meaning of a node**, from that of the nodes of its slots. -/
def Meaning.ofKind (k : Kind) (slots : List (List Node)) (parts : List (List Meaning)) :
    Meaning :=
  let n : Node := .mk k slots
  let here (c : Site) : Site := c.at_ (.statement n)
  match k, slots, parts with
  -- expressions
  | .constant v, _, _ => { value := fun c => constantValue c v, isConstant := true }
  | .name id ctx, _, _ => .ofName id ctx
  | .member attr _, _, [[e]] => .ofMember attr e
  | .subscript _, _, [[e], [i]] => .ofElement e i
  | .list _, [nodes], [es] => .ofItems nodes es false fun _ vs => alloc (.list vs)
  | .tuple _, [nodes], [es] =>
    let isConstant := es.all Meaning.isConstant
    .ofItems nodes es isConstant fun c vs => computed c isConstant (.ofTuple vs)
  | .starred _, _, [[e]] =>
    { store := e.store
      spread := fun c => do
        let v ← e.value c
        aside c (items v) }
  | .binOp op, _, [[l], [r]] =>
    let isConstant := l.isConstant && r.isConstant
    { isConstant
      value := fun c => do
        let v ← l.value c
        let w ← r.value c
        computed c isConstant (← aside c (operate op v w)) }
  | .unaryOp op, _, [[e]] =>
    { isConstant := e.isConstant
      value := fun c => do
        let v ← e.value c
        computed c e.isConstant (← aside c (applyUnary op v)) }
  | .boolOp op, _, [es] => .ofValue fun c => decided op c es
  | .compare ops, _, [[l], es] => .ofValue fun c => do compareChain c (← l.value c) ops es
  | .ifExp, _, [[test], [body], [orelse]] =>
    .ofValue fun c => do
      let v ← test.value c
      if ← aside c (isTrue v) then body.value c else orelse.value c
  | .call, _, [[f], args, keywords] =>
    .ofValue fun c => do
      let g ← f.value c
      let vs ← spreadAll c args
      let keywords ← namedAll c keywords
      aside c (callHere c g vs keywords)
  | .keyword (some name), _, [[e]] => { named := fun c => do return [(name, ← e.value c)] }
  | .keyword none, _, [[e]] =>
    { named := fun c => do
        let v ← e.value c
        aside c (textEntries v) }
  | .lambda, [_, [body]], [[parameters], [e]] =>
    { value := fun c => do
        let (defaults, kwDefaults) ← parameters.defaults c
        newFunction c n {
          name := "<lambda>", qualname := c.inside ++ "<lambda>", line := c.line
          isSuspending := body.yields, defaults, kwDefaults }
      body := e.value }
  | .listComp, _, [[e], loops] =>
    .ofValue fun c => comprehend c "<listcomp>" n loops (fun c vs => return (← e.value c) :: vs)
      fun vs => alloc (.list vs)
  | .setComp, _, [[e], loops] =>
    .ofValue fun c => comprehend c "<setcomp>" n loops (fun c vs => return (← e.value c) :: vs)
      fun vs => do alloc (.set (← slotted vs))
  | .dictComp, _, [[k], [v], loops] =>
    .ofValue fun c => comprehend c "<dictcomp>" n loops
      (fun c vs => do
        let key ← k.value c
        return (← v.value c) :: key :: vs)
      fun vs => do alloc (.dict (← distinctEntries (inPairs vs)))
  | .generatorExp, _, [[e], loops] => .ofGenerator "<genexpr>" n e loops
  | .comprehension false, _, [[target], [iter], ifs] => .ofLoop target iter ifs
  | .dict, [keys, _], [ks, vs] =>
    .ofValue fun c => do
      let entries ← displayEntries c keys ks vs
      alloc (.dict (← aside c (distinctEntries entries)))
  | .set, _, [es] =>
    .ofValue fun c => do
      let vs ← spreadAll c es
      alloc (.set (← aside c (slotted vs)))
  | .slice, _, [lower, upper, step] =>
    .ofValue fun c => do
      let start ← valueOr c .none lower
      let stop ← valueOr c .none upper
      tellApart (.slice start stop (← valueOr c .none step) .none)
  | .namedExpr, _, [[target], [e]] =>
    .ofValue fun c => do
      let v ← e.value c
      target.store c v
      return v
  | .yield, _, [e] =>
    .ofValue fun c => do
      let v ← valueOr c .none e
      aside c (ask (.yield v))
  -- statements
  | .exprStmt, [[e']], [[e]] =>
    .ofAction fun c => do if !e'.isConstant then let _ ← e.value (here c)
  | .assign, _, [targets, [e]] =>
    .ofAction fun c => do storeAll (here c) (← e.value (here c)) targets
  | .augAssign op, _, [[target], [e]] =>
    .ofAction fun c => target.update (here c) fun v => do
      let w ← e.value (here c)
      tellApart (← aside c (updateBy op v w))
  | .annAssign, _, [[target], _, [e]] =>
    .ofAction fun c => do target.store (here c) (← e.value (here c))
  | .annAssign, _, [_, _, []] | .pass, _, _ | .globalStmt _, _, _ | .nonlocalStmt _, _, _ =>
    .ofEffect fun _ => return .next
  | .breakStmt, _, _ => .ofEffect fun _ => return .broke
  | .continueStmt, _, _ => .ofEffect fun _ => return .continued
  | .returnStmt, _, [e] => .ofEffect fun c => return .returned (← valueOr (here c) .none e)
  | .delete, _, [targets] =>
    .ofAction fun c => do let _ ← targets.mapM fun t => t.remove (here c)
  | .raise, _, [[], _] => .ofEffect fun _ => throw .badState
  | .raise, _, [[e], cause] =>
    .ofEffect fun c => do
      let v ← e.value (here c)
      let _ ← valueOr (here c) .none cause
      throw (← aside c (raised v))
  | .assertStmt, _, [[test], message] =>
    .ofAction fun c => do
      let v ← test.value (here c)
      if !(← aside c (isTrue v)) then do
        let _ ← valueOr (here c) .none message
        throw .refuted
  | .ifStmt, [_, _, others], [[test], body, orelse] => .ofChoice test body orelse others
  | .whileStmt, _, [[test], body, orelse] =>
    .ofEffect fun c => rounds (inOrder c.deeper orelse) do
      let v ← test.value (c.at_ (.head false))
      if ← aside c (isTrue v) then return some (← inOrder c.deeper body)
      else return none
  | .forStmt false, _, [[target], [iter], body, orelse] =>
    .ofEffect fun c => do
      let head := c.at_ (.head false)
      let v ← iter.value head
      let i ← aside c (iterator v)
      rounds (inOrder c.deeper orelse) do
        match ← aside c (next? i) with
        | none => return none
        | some v => do
          target.store head v
          return some (← inOrder c.deeper body)
  | .functionDef id isAsync, [_, statements, _, _], [[parameters], body, decorators, returns] =>
    .ofFunction n id isAsync statements parameters body decorators returns
  | .classDef id, [_, _, statements, _], [bases, keywords, body, decorators] =>
    .ofClass n id statements bases keywords body decorators
  -- parts
  | .arguments, [_, _, _, kwonly, kwDefaults, _, _],
      [posonlyParts, argParts, varargParts, kwonlyParts, kwDefaultParts, kwargParts, defaultParts] =>
    { defaults := fun c => do
        let values ← defaultParts.mapM fun m => m.value c
        return (values, ← keywordDefaults c kwonly kwDefaults kwDefaultParts)
      named := fun c =>
        namedAll c (argParts ++ posonlyParts ++ varargParts ++ kwonlyParts ++ kwargParts) }
  | .arg id, _, [[hint]] => { named := fun c => do return [(c.mangled id, ← hint.value c)] }
  | _, _, _ => {}
where
  /-- Keys and values that take turns, by entry. -/
  inPairs : List Value → List (Value × Value)
    | k :: v :: rest => (k, v) :: inPairs rest
    | _ => []

namespace Code.Node

mutual

/-- **The meaning of a tree.** -/
def meaning : Node → Meaning
  | .mk k slots => Meaning.ofKind k slots (meaningsOfSlots slots)

/-- The meanings of the trees of each slot. -/
def meaningsOfSlots : List (List Node) → List (List Meaning)
  | [] => []
  | s :: ss => meaningsOfAll s :: meaningsOfSlots ss

/-- The meanings of a list of trees. -/
def meaningsOfAll : List Node → List Meaning
  | [] => []
  | n :: ns => meaning n :: meaningsOfAll ns

end

end Code.Node

end Narrowing
