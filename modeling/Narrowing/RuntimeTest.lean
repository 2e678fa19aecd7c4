/-!
# Runtime tests

A **runtime test** decides, for one value, whether it belongs to a descriptor.
Emitted code treats two shapes apart: a test that is a class or a list of
classes becomes an instance check, and anything else is called as a predicate.
So a test keeps its shape instead of being a function. What it accepts is
`RuntimeTest.accepts`, over a judgement of instances and one of named
predicates, the second of which may fail.
-/

namespace Narrowing

/-- **A test of one value**, over classes `κ` and named predicates `π`. -/
inductive RuntimeTest (κ π : Type) where
  /-- Instances of one class. -/
  | instanceOf (c : κ)
  /-- Instances of some class of a list, which may be empty. -/
  | instanceOfAny (cs : List κ)
  /-- The values a predicate holds of. -/
  | check (p : π)
  /-- No value. -/
  | never
  /-- The values some member accepts, members tried in order. -/
  | anyOf (tests : List (RuntimeTest κ π))

namespace RuntimeTest

variable {κ π ε : Type}

/-- Whether emitted code makes an instance check of the test. -/
def isClassTest : RuntimeTest κ π → Bool
  | instanceOf _ | instanceOfAny _ => true
  | _ => false

/-- The classes of a class test. -/
def classes : RuntimeTest κ π → List κ
  | instanceOf c => [c]
  | instanceOfAny cs => cs
  | _ => []

/-- **The test of a union** from the tests of its members: one list of classes
if every member is a class test, else a predicate that tries them in order. -/
def ofMembers (tests : List (RuntimeTest κ π)) : RuntimeTest κ π :=
  if tests.all isClassTest then instanceOfAny (tests.flatMap classes) else anyOf tests

mutual

/-- **Whether a test accepts the value** that the two judgements are about. A
predicate that fails stops the test. -/
def accepts (isInstance : κ → Bool) (holds : π → Except ε Bool) :
    RuntimeTest κ π → Except ε Bool
  | instanceOf c => .ok (isInstance c)
  | instanceOfAny cs => .ok (cs.any isInstance)
  | check p => holds p
  | never => .ok false
  | anyOf tests => acceptsAny isInstance holds tests

/-- Whether some test of a list accepts the value; the first that does ends the
search. -/
def acceptsAny (isInstance : κ → Bool) (holds : π → Except ε Bool) :
    List (RuntimeTest κ π) → Except ε Bool
  | [] => .ok false
  | t :: ts =>
    match accepts isInstance holds t with
    | .ok false => acceptsAny isInstance holds ts
    | answer => answer

end

end RuntimeTest

end Narrowing
