import Narrowing.Code.Node
/-!
# Signatures

The parameters of a function and how the arguments of a call are bound to them.
Positional arguments fill positional parameters from the left, and keyword
arguments those of their name, which for a positional-only parameter there is no
way to do. What is left over goes to the parameters for the rest, if there are
any, and what is missing comes from defaults. A call that does not fit binds
nothing.
-/

namespace Narrowing.Code

/-- **The parameters of a function.** -/
structure Signature where
  /-- Those that only a position can fill. -/
  positionalOnly : List String
  /-- Those that a position or a keyword can fill. -/
  ordinary : List String
  /-- The one that takes the other positional arguments. -/
  rest : Option String
  /-- Those that only a keyword can fill. -/
  keywordOnly : List String
  /-- The one that takes the other keyword arguments. -/
  keywordRest : Option String
deriving DecidableEq

/-- **A call bound to a signature.** -/
structure BoundCall (α : Type) where
  /-- The values of the parameters that take one argument. -/
  named : List (String × α)
  /-- The positional arguments left over. -/
  rest : List α
  /-- The keyword arguments left over. -/
  keywords : List (String × α)

namespace Signature

/-- The names of some parameters. -/
def namesOf (parameters : List Node) : List String :=
  parameters.filterMap fun
    | .arg name _ => some name
    | _ => none

/-- **The signature of a list of parameters.** -/
def ofParameters : Node → Signature
  | .arguments posonly args vararg kwonly _ kwarg _ =>
    ⟨namesOf posonly, namesOf args, (namesOf vararg).head?, namesOf kwonly, (namesOf kwarg).head?⟩
  | _ => ⟨[], [], none, [], none⟩

/-- The parameter that a comprehension takes the iterator of its first loop by. -/
def iteratorName : String := ".0"

/-- **The signature of a function**, as which a comprehension runs, too. -/
def ofFunction : Node → Signature
  | .functionDef _ _ parameters _ _ _ | .lambda parameters _ => ofParameters parameters
  | _ => ⟨[], [iteratorName], none, [], none⟩

/-- The signature with other names for its parameters. -/
def rename (g : String → String) (s : Signature) : Signature :=
  ⟨s.positionalOnly.map g, s.ordinary.map g, s.rest.map g, s.keywordOnly.map g,
    s.keywordRest.map g⟩

/-- The parameters that a position can fill. -/
def positional (s : Signature) : List String := s.positionalOnly ++ s.ordinary

/-- **All parameters.** -/
def names (s : Signature) : List String :=
  s.positional ++ s.rest.toList ++ s.keywordOnly ++ s.keywordRest.toList

/-- All parameters in the order of the variables of a call. -/
def variableNames (s : Signature) : List String :=
  s.positional ++ s.keywordOnly ++ s.rest.toList ++ s.keywordRest.toList

variable {α : Type}

/-- The defaults of the positional parameters, which belong to the last of
them. -/
def positionalDefaults (s : Signature) (defaults : List α) : List (String × α) :=
  (s.positional.drop (s.positional.length - defaults.length)).zip defaults

/-- Adds the keyword arguments to the parameters filled so far; those left over
are given too. -/
def addKeywords (s : Signature) :
    List (String × α) → List (String × α) → Option (List (String × α) × List (String × α))
  | filled, [] => some (filled, [])
  | filled, (name, value) :: more =>
    if (s.ordinary ++ s.keywordOnly).contains name then
      if (filled.lookup name).isSome then none else s.addKeywords (filled ++ [(name, value)]) more
    else if s.keywordRest.isSome then
      (s.addKeywords filled more).map fun (filled, left) => (filled, (name, value) :: left)
    else none

/-- The value of each parameter, from the first list that has one. -/
def complete (filled defaults : List (String × α)) : List String → Option (List (String × α))
  | [] => some []
  | name :: names => do
    let value ← (filled.lookup name).or (defaults.lookup name)
    return (name, value) :: (← complete filled defaults names)

/-- **Binds a call to a signature**, if it fits. -/
def bind? (s : Signature) (defaults : List α) (keywordDefaults : List (String × α))
    (args : List α) (keywords : List (String × α)) : Option (BoundCall α) := do
  let extra := args.drop s.positional.length
  if !extra.isEmpty && s.rest.isNone then none
  else
    let (filled, left) ← s.addKeywords (s.positional.zip args) keywords
    let named ← complete filled (s.positionalDefaults defaults ++ keywordDefaults)
      (s.positional ++ s.keywordOnly)
    return ⟨named, extra, left⟩

end Signature

end Narrowing.Code
