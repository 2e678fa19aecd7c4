import Narrowing.Value.Assertion
import Narrowing.Value.Attribute
/-!
# Operations called by name

The operations of the language that are called like functions: questions about values
and their classes, conversions between numbers and texts, and what is done with the items
of anything that gives them.
-/

namespace Narrowing

open Code

namespace Run

/-! ## Classes -/

/-- Whether a value is an instance of a class. -/
def isInstanceOf (v : Value) (t : TypeObject) : Run Bool := do
  let σ ← read
  return σ.derives (σ.typeOf v) t

mutual

/-- **Whether a judgement of classes holds** of a class, or of some class of several,
which are asked in order. -/
def someClass (holds : TypeObject → Run Bool) (isUnmatched : Run Bool) : Value → Run Bool
  | .cls t => holds t
  | .anyOf ts => ts.anyM holds
  | .unmatched => isUnmatched
  | .tuple vs _ => someClassOf holds isUnmatched vs
  | _ => throw .wrongType

/-- Whether a judgement of classes holds of some class of several. -/
def someClassOf (holds : TypeObject → Run Bool) (isUnmatched : Run Bool) :
    List Value → Run Bool
  | [] => return false
  | v :: vs => do
    if ← someClass holds isUnmatched v then return true else someClassOf holds isUnmatched vs

end

/-- **Whether a value is an instance** of a class or of some class of several. -/
def instanceCheck (v classes : Value) : Run Bool :=
  someClass (isInstanceOf v)
    (do match ← cell? v with
      | some (.unmatchedError ..) => return true
      | _ => return false)
    classes

/-- Whether the instances of a class are instances of another, or of some class of
several. -/
def subclassCheck (v classes : Value) : Run Bool :=
  match v with
  | .cls t => someClass (fun u => return (← read).derives t u) (return false) classes
  | .unmatched =>
    someClass (fun u => return u = .standard .object) (return true) classes
  | _ => throw .wrongType

/-- Whether a value can be called. -/
def isCallable (v : Value) : Run Bool := do
  match v, ← cell? v with
  | .cls _, _ | .builtin _, _ | .test _, _ | .unmatched, _ => return true
  | _, some (.function _) | _, some (.bound ..) | _, some (.method ..)
  | _, some (.staticMethod _) => return true
  | v, some (.object ..) => return ((← read).special? v "__call__").isSome
  | _, _ => return false

/-! ## Numbers and texts -/

/-- An integer in a base of bits behind its mark. -/
def inBase (base : Nat) (mark : String) (i : Int) : Value :=
  .ofText ((if i < 0 then "-" else "") ++ mark ++ String.ofList (Nat.toDigits base i.natAbs))

/-- The character of a number. -/
def characterAt (v : Value) : Run Value := do
  let i ← index v
  if !Word.fits 31 i then throw .tooLarge
  else if 0 ≤ i && i < 0x110000 then
    if i.toNat.isValidChar then return .ofText (String.singleton (Char.ofNat i.toNat))
    else throw .unsupported
  else throw .badValue

/-- The number of the only character of a text, or the only byte. -/
def numberOfCharacter (v : Value) : Run Value := do
  let σ ← read
  match (σ.text? v).map String.toList, σ.bytes? v with
  | some [c], _ => return .ofInt c.toNat
  | none, some [b] => return .ofInt b
  | _, _ => throw .wrongType

/-- **A value rounded** to an integer, or to some decimal places. -/
def rounded (v : Value) (places : Option Value) : Run Value := do
  let given :=
    match places with
    | some .none => none
    | p => p
  match ← callSpecial? v "__round__" given.toList with
  | some r => return r
  | none =>
    let σ ← read
    let c := σ.content v
    match σ.number? c, given with
    | some (.int i), none => if c.isMachineTruth then throw .wrongType else return .ofInt i
    | some (.int i), some p => do
      if c.isMachine then ofExcept (roundedMachine c (← index p))
      else return .ofInt (roundedInt i (← index p))
    | some (.float x), none =>
      match Decimal.fraction? x with
      | some (num, den) => return .ofInt (roundedFraction num den)
      | none => throw (if x.isNaN then .badValue else .tooLarge)
    | some (.float x), some p => do
      if c.isMachine then ofExcept (roundedMachine c (← index p))
      else return .ofFloat (← ofExcept (roundedPlaces x (← index p)))
    | _, _ => throw .wrongType

/-- The power of three integers: of the first two, as a remainder of the third. -/
def powerModulo (v w m : Value) : Run Value := do
  let σ ← read
  match σ.wholeNumber? v, σ.wholeNumber? w, σ.wholeNumber? m with
  | some base, some exponent, some modulus =>
    if modulus = 0 then throw .badValue
    else
      let reduce (i : Int) : Int := i.fmod modulus
      match exponent with
      | .ofNat n => return .ofInt (reduce (power reduce (reduce base) (n.log2 + 1) n 1))
      | .negSucc n =>
        match inverse? (base.fmod modulus.natAbs).toNat modulus.natAbs with
        | some b => return .ofInt (reduce (power reduce (reduce b) ((n + 1).log2 + 1) (n + 1) 1))
        | none => throw .badValue
  | _, _, _ =>
    match [v, w, m].find? fun v => (σ.wholeNumber? v).isNone with
    | some x => throw (if isPair σ x && (σ.number? v).isSome && (σ.number? w).isSome then .badValue
        else .wrongType)
    | none => throw .wrongType
where
  /-- Whether a value is a complex number. -/
  isPair (σ : Store) (v : Value) : Bool :=
    match σ.content v with
    | .complex .. => true
    | _ => false
  /-- A power by repeated squares, reduced at each step. -/
  power (reduce : Int → Int) (base : Int) : Nat → Nat → Int → Int
    | 0, _, r => r
    | steps + 1, n, r =>
      power reduce (reduce (base * base)) steps (n / 2)
        (if n % 2 = 1 then reduce (r * base) else r)
  /-- The number that gives one with another, up to multiples of a modulus. -/
  inverse? (b m : Nat) : Option Int :=
    (descend (2 * m.log2 + 4) m b 0 1).map fun i => i.fmod m
  /-- The steps of the division algorithm with the coefficient of the second number. -/
  descend : Nat → Int → Int → Int → Int → Option Int
    | 0, _, _, _, _ => none
    | steps + 1, r, s, t, u =>
      if s = 0 then if r = 1 then some t else none
      else descend steps s (r.fmod s) u (t - r.fdiv s * u)

/-- A power, or one up to multiples of a modulus. -/
def powerOf (v w : Value) (modulus : Option Value) : Run Value := do
  match modulus with
  | none | some .none => operate .pow v w
  | some m =>
    match ← callSpecial? v "__pow__" [w, m] with
    | some r => return r
    | none => powerModulo v w m

/-! ## Items -/

/-- Whether some item that an iterator gives counts as true, or as false; the first one
ends the search. -/
def someGiven (i : Value) (wanted : Bool) : Nat → Run Bool
  | 0 => throw .outOfRoom
  | rounds + 1 => do
    match ← next? i with
    | none => return false
    | some v => if (← isTrue v) = wanted then return true else someGiven i wanted rounds

/-- The sum of what an iterator gives. -/
def sumGiven (i : Value) : Nat → Value → Run Value
  | 0, _ => throw .outOfRoom
  | rounds + 1, total => do
    match ← next? i with
    | none => return total
    | some v => do sumGiven i rounds (← operate .add total v)

/-- **The sum** of the items of a value, from a start on that is no text. -/
def sumOf (v : Value) (start : Option Value) : Run Value := do
  let start := start.getD (.ofInt 0)
  let σ ← read
  let i ← iterator v
  if (σ.text? start).isSome || (σ.bytes? start).isSome then throw .wrongType
  sumGiven i greatestRounds start

/-- The first of some values that no other one goes before. -/
def firstOf (op : CompareOp) (key : Option Value) (v : Value) (vs : List Value) : Run Value := do
  let keyOf (v : Value) : Run Value :=
    match key with
    | none | some .none => return v
    | some f => invoke f [v]
  let (best, _) ← vs.foldlM (fun (best, k) w => do
    let l ← keyOf w
    if ← isTrue (← compare op l k) then return (w, l) else return (best, k)) (v, ← keyOf v)
  return best

/-- **The least or the greatest** of the items of a value, or of several values. -/
def extremeOf (op : CompareOp) (args : List Value) (keywords : List (String × Value)) :
    Run Value := do
  if keywords.any fun (k, _) => k ≠ "key" && k ≠ "default" then throw .wrongType
  let key := keywords.lookup "key"
  match args, keywords.lookup "default" with
  | [], _ => throw .wrongType
  | [v], fallback =>
    match ← items v, fallback with
    | w :: ws, _ => firstOf op key w ws
    | [], some d => return d
    | [], none => throw .badValue
  | _, some _ => throw .wrongType
  | v :: vs, none => firstOf op key v vs

/-- The next item of an iterator, or a value in place of it. -/
def nextOr (i : Value) (fallback : Option Value) : Run Value := do
  if !(← isIterator i) then throw .wrongType
  match ← next? i, fallback with
  | some v, _ => return v
  | none, some d => return d
  | none, none => throw (.stopped .none)

/-! ## Attributes by name -/

/-- The attribute of a name, or a value in place of one that is missing. -/
def attributeOr (v name : Value) (fallback : Option Value) : Run Value := do
  let s ← attributeName name
  match fallback with
  | none => readAttribute v s
  | some d => return (← orNone (readAttribute v s) fun e => e.isA "AttributeError").getD d

/-- The names of what a value has: what its class says, or all that it has been given and the
classes of its lineage have. -/
def namesOf (v : Value) : Run (List Value) := do
  match ← callSpecial? v "__dir__" [] with
  | some names => items names
  | none =>
    let σ ← read
    let given : List String ←
      match σ.cell? v with
      | some (.object t attributes none) =>
        if σ.lineage t |>.all isPlain then pure (attributes.map Prod.fst) else throw .unsupported
      | _ => throw .unsupported
    let made := (σ.lineage (σ.typeOf v)).flatMap fun
      | .defined r =>
        ((σ.class? r).map fun c => "__dict__" :: "__weakref__" :: c.members.map Prod.fst).getD []
      | _ => []
    let all := given ++ made ++ commonMethods ++ ["__class__", "__doc__"]
    return (all.filter (· ≠ "__qualname__")).eraseDups.map Value.ofName
where
  /-- Whether a class has no instances with content. -/
  isPlain : TypeObject → Bool
    | .defined _ | .named (.standard .object) => true
    | _ => false

/-- **A number that tells a value apart** from all others. -/
def identityNumber (σ : Store) (v : Value) : Int :=
  let base : Int := 140000000000000
  match v, v.tag? with
  | .ref r, _ => base + 32 * r.index
  | v, some tag =>
    if tag ≥ 2 && !v.isShared then base + 32 * tag + 16
    else base - 32 * ((atomHash σ v).natAbs % 1000000007)
  | v, none => base - 32 * ((atomHash σ v).natAbs % 1000000007) - 16

/-! ## Assertions -/

/-- The descriptor that a value is read as, if it stands for one. -/
def descriptorOf? : Value → Option TypeDescriptor
  | .none => some (.atom .none)
  | .cls (.named c) => some (.atom (.cls c))
  | .anyOf ts => do
    let alternatives ← ts.mapM fun
      | .named c => some (Spelling.cls c)
      | _ => none
    return .atom (.choice .bar alternatives)
  | .str s _ => some (.atom (.name s))
  | .int i _ => some (.atom (.number i))
  | _ => none

/-- What the record of a failed check is to a callback of code. -/
def failureRecord (expected : Value) (f : TypeFailure) : Run Value :=
  alloc (.object (.other "typecase.runtime.type_assert.TypeCheckFailure")
    [("value", f.value), ("expected", expected), ("attempt", .ofInt f.attempt)] none)

/-- **Asserts in code that a value belongs to a descriptor** by the oracle over classes. -/
def assertCalled (value expected : Value) (recover attempts : Option Value) : Run Value := do
  match descriptorOf? expected, recover with
  | none, _ => throw .unsupported
  | some d, none | some d, some .none => assertType (m := Run) defaultDecider d none 0 value
  | some d, some f =>
    match (← read).wholeNumber? (attempts.getD (.ofInt 3)) with
    | none => throw .unsupported
    | some limit =>
      let recover (failed : TypeFailure) : Run Value := do
        invoke f [← failureRecord expected failed]
      assertType defaultDecider d (some recover) limit value

/-! ## Calls -/

/-- **Calls an operation of the language.** -/
def callBuiltin (b : Builtin) (args : List Value) (keywords : List (String × Value)) :
    Run Value := do
  match b, args, keywords with
  | .elt, args, keywords =>
    match ← byParameter ["sequence", "index"] args keywords with
    | [some v, some i] => element v i
    | _ => throw .wrongType
  | .assertType, args, keywords =>
    match ← byParameter ["value", "expected", "oracle", "recover", "max_attempts"] args keywords with
    | [some v, some d, none, recover, attempts] => assertCalled v d recover attempts
    | [some _, some _, some _, _, _] => throw .unsupported
    | _ => throw .wrongType
  | .min, args, keywords => extremeOf .lt args keywords
  | .max, args, keywords => extremeOf .gt args keywords
  | .sorted, [v], keywords => do
    let (key, isReversed) ← orderOf keywords
    alloc (.list (← sortedByKey key isReversed (← items v)))
  | .sum, args, keywords =>
    match ← byParameter ["", "start"] args keywords with
    | [some v, start] => sumOf v start
    | _ => throw .wrongType
  | .pow, args, keywords =>
    match ← byParameter ["base", "exp", "mod"] args keywords with
    | [some v, some w, m] => powerOf v w m
    | _ => throw .wrongType
  | .round, args, keywords =>
    match ← byParameter ["number", "ndigits"] args keywords with
    | [some v, places] => rounded v places
    | _ => throw .wrongType
  | .print, _, _ => return .none
  | _, _, _ :: _ => throw .wrongType
  | .abs, [v], [] => absolute v
  | .all, [v], [] => do return .bool !(← someGiven (← iterator v) false greatestRounds)
  | .any, [v], [] => do return .bool (← someGiven (← iterator v) true greatestRounds)
  | .ascii, [v], [] => do return .ofText (String.ofList (← plainLiteral v))
  | .bin, [v], [] => do return inBase 2 "0b" (← index v)
  | .oct, [v], [] => do return inBase 8 "0o" (← index v)
  | .hex, [v], [] => do return inBase 16 "0x" (← index v)
  | .callable, [v], [] => return .bool (← isCallable v)
  | .chr, [v], [] => characterAt v
  | .ord, [v], [] => numberOfCharacter v
  | .divmod, [v, w], [] => quotientAndRemainder v w
  | .getattr, [v, name], [] => attributeOr v name none
  | .getattr, [v, name, d], [] => attributeOr v name (some d)
  | .hasattr, [v, name], [] => do
    let s ← attributeName name
    return .bool (← orNone (readAttribute v s) fun e => e.isA "AttributeError").isSome
  | .setattr, [v, name, w], [] => do
    writeAttribute v (← attributeName name) w
    return .none
  | .delattr, [v, name], [] => do
    deleteAttribute v (← attributeName name)
    return .none
  | .hash, [v], [] => return .ofInt (← hash v)
  | .isinstance, [v, classes], [] => return .bool (← instanceCheck v classes)
  | .issubclass, [v, classes], [] => return .bool (← subclassCheck v classes)
  | .iter, [v], [] => iterator v
  | .iter, [f, sentinel], [] => do
    if ← isCallable f then alloc (.iterator (.calls f sentinel)) else throw .wrongType
  | .next, [i], [] => nextOr i none
  | .next, [i, d], [] => nextOr i (some d)
  | .len, [v], [] => return .ofInt (← length v)
  | .repr, [v], [] => return .ofText (← literal v)
  | .format, [v], [] => return .ofText (← formattedAs v "")
  | .format, [v, s], [] =>
    match (← read).text? s with
    | some spec => return .ofText (← formattedAs v spec)
    | none => throw .wrongType
  | .vars, [v], [] => do
    match ← orNone (readAttribute v "__dict__") fun e => e.isA "AttributeError" with
    | some d => return d
    | none => throw .wrongType
  | .id, [v], [] => return .ofInt (← question fun σ => .ok (identityNumber σ v))
  | .foreign "dir", [v], [] => do alloc (.list (← sortedByKey none false (← namesOf v)))
  | .foreign _, _, _ => throw .unsupported
  | _, _, _ => throw .wrongType

/-- **Calls a method of a value**, which may be one by which all values have attributes. -/
def callAnyMethod (self : Value) (name : String) (args : List Value)
    (keywords : List (String × Value)) : Run Value :=
  match attributeMethod? self name args, name, self with
  | some run, _, _ => if keywords.isEmpty then run else throw .wrongType
  | none, "__call__", .cls _ => callMethod self name args keywords
  | none, "__call__", self => ask (.call self args keywords)
  | none, _, _ => callMethod self name args keywords

/-- Calls an operation of the values of a class, which takes the value first. -/
def callOperationOf (t : TypeObject) (name : String) (args : List Value)
    (keywords : List (String × Value)) : Run Value := do
  let σ ← read
  match args, name with
  | .cls u :: args, "__new__" =>
    if !σ.derives u t then throw .wrongType
    match u with
    | .named (.standard c) => do
      if t ≠ u then throw .wrongType
      if isSettled c then construct u args keywords
      else
        match ← newContent c [] [] with
        | some v => return v
        | none => construct u args keywords
    | u => bareObject u args keywords
  | _, "__new__" => throw .wrongType
  | self :: args, name =>
    if σ.derives (σ.typeOf self) t then
      match self, name with
      | .cls _, name =>
        if t = .type && (methodsOfOther "type").contains name then
          callAnyMethod self name args keywords
        else throw .unsupported
      | self, name => callAnyMethod self name args keywords
    else throw .wrongType
  | [], _ => throw .wrongType

/-- Calls a runtime test as a predicate. -/
def callTest (t : TypeTest) (args : List Value) (keywords : List (String × Value)) : Run Value := do
  match args, keywords with
  | [v], [] =>
    match (← read).accepts t v with
    | .ok b => return .bool b
    | .error e => throw e.failure
  | _, _ => throw .wrongType

/-- How many characters of the literal of an unmatched value are kept. -/
def unmatchedExcerpt : Nat := 60

/-- **The error of an unmatched value.** It is made with its message, for which the types are
written first. -/
def newUnmatched (args : List Value) (keywords : List (String × Value)) : Run Value := do
  match ← byParameter ["value", "types"] args keywords with
  | [some v, none] => do alloc (.unmatchedError v [] (← excerpt unmatchedExcerpt v))
  | [some v, some (.types ds)] => do
    let _ ← writable (Descriptor.texts? Named.name? ds)
    alloc (.unmatchedError v ds (← excerpt unmatchedExcerpt v))
  | [some _, some _] => throw .unsupported
  | _ => throw .wrongType

end Run

end Narrowing
