import Narrowing.Access.Rewrite
import Narrowing.Access.Table
import Narrowing.Branches.Coverage
import Narrowing.Code.Parser
/-!
# Dispatch chains

A **dispatch** tests a variable against the branches of a list, in order, and
runs the copy of the body that belongs to the first branch that accepts its
value. Each copy has its element accesses rewritten for its branch. Where no
branch accepts, the chain raises instead of falling back.

The chain refers to its tests by names of its own, and these names must be bound
where it runs. They are listed with what they stand for in `Dispatch.bindings`.

A generator counts what it has done. A generation that fails leaves the
replacements made so far counted. It may fail for want of a test or of an accessor, in the code
of an accessor, or when the chain is made and only its types are still to be written into the
log.
-/

namespace Narrowing

open Code

/-- What a name in a dispatch chain stands for. -/
inductive Binding (α κ π : Type) where
  /-- The branch types. -/
  | types (ds : List (Descriptor α))
  /-- The error of a value that no branch accepts. -/
  | unmatched
  /-- The runtime test of a branch. -/
  | test (t : RuntimeTest κ π)

/-- **One branch of a dispatch.** -/
structure Branch (α κ π : Type) where
  /-- The type it accepts. -/
  type : Descriptor α
  /-- The test of that type. -/
  test : RuntimeTest κ π
  /-- The copy of the body. -/
  body : List Node
  /-- The name of the accessor that the copy was rewritten with. -/
  accessorName : String

/-- **A generated dispatch.** -/
structure Dispatch (α κ π : Type) where
  /-- The variable it tests. -/
  var : String
  /-- Its branches in order. -/
  branches : List (Branch α κ π)

/-- The name of the branch types. -/
def typesName : String := "__typecase_types__"

/-- The name of the error of unmatched values. -/
def unmatchedName : String := "__typecase_unmatched__"

/-- The name of the test of a branch. -/
def testName (i : Nat) : String := "__typecase_t" ++ toString i ++ "__"

namespace Dispatch

variable {α κ π : Type}

/-- The types of the branches. -/
def types (d : Dispatch α κ π) : List (Descriptor α) := d.branches.map Branch.type

/-- **What the names of the chain stand for**, in order. -/
def bindings (d : Dispatch α κ π) : List (String × Binding α κ π) :=
  (typesName, .types d.types) :: (unmatchedName, .unmatched) ::
    d.branches.mapIdx fun i b => (testName i, .test b.test)

/-- The condition of a branch: an instance check for a class test, else a call
of the test. -/
def condition (var : String) (i : Nat) (test : RuntimeTest κ π) : Node :=
  if test.isClassTest then .call (.load "isinstance") [.load var, .load (testName i)] []
  else .call (.load (testName i)) [.load var] []

/-- What is raised where no branch accepts. -/
def refusal (var : String) : Node :=
  .raise [.call (.load unmatchedName) [.load var, .load typesName] []] []

/-- The chain of the branches from the `i`-th on. -/
def chainFrom (var : String) : Nat → List (Branch α κ π) → Node
  | _, [] => refusal var
  | i, b :: bs => .ifStmt (condition var i b.test) b.body [chainFrom var (i + 1) bs]

/-- **The code of a dispatch.** -/
def node (d : Dispatch α κ π) : Node := chainFrom d.var 0 d.branches

end Dispatch

/-- **What is copied into the branches**: code, or its text. -/
inductive Template where
  /-- Statements. -/
  | code (body : List Node)
  /-- The text of statements, whose common margin does not count. -/
  | text (s : String)

/-- The statements of a template. -/
def Template.body : Template → Except ParseError (List Node)
  | code body => .ok body
  | text s => parseBody s

/-- Why a dispatch cannot be generated. -/
inductive DispatchFault (α : Type) where
  /-- There are no types. -/
  | noTypes
  /-- There is no body. -/
  | noBody
  /-- The body is no code. -/
  | unreadable (e : ParseError)
  /-- The table serves no accessor. -/
  | table (f : TableFault α)
  /-- The code of an accessor failed with an error of this name. -/
  | interrupted (error : String)
  /-- The branch list or a test could not be worked out. -/
  | analysis (f : Fault α)

/-- **What a generator has done.** -/
structure Counters where
  /-- Chains generated. -/
  dispatches : Nat := 0
  /-- Branches of these chains. -/
  branches : Nat := 0
  /-- Accesses replaced, also for chains that were not finished. -/
  rewritten : Nat := 0
deriving DecidableEq

/-- **A generator of dispatches.** -/
structure Generator (α κ π : Type) where
  /-- The oracle that gives the tests. -/
  oracle : Decider α κ π
  /-- The table that gives the accessors. -/
  table : AccessorTable α κ π
  /-- The names of generic access. -/
  accessorNames : List String := ["elt"]
  /-- How many branches are made without a warning. -/
  branchLimit : Int := 8
  /-- How many accesses the code of an accessor replaces in a copy of some statements before it
  fails, if it does, and the name of the error. -/
  endurance : Accessor → List Node → Option (Nat × String) := fun _ _ => none

namespace Generator

variable {α κ π : Type} [Named α]

/-- The branch of one type, and how many accesses were replaced for it until it was made or
failed. The test is worked out before the accessor is looked up. -/
def branch (g : Generator α κ π) (var : String) (body : List Node) (d : Descriptor α) :
    Except (DispatchFault α) (Branch α κ π) × Nat :=
  match g.oracle.test d with
  | .error f => (.error (.analysis f), 0)
  | .ok test =>
    match g.table.lookup d with
    | .error f => (.error (.table f), 0)
    | .ok accessor =>
      let (copy, count) := Rewriter.applyList ⟨var, accessor, g.accessorNames⟩ body
      match (g.endurance accessor body).filter (·.1 < count) with
      | some (replaced, error) => (.error (.interrupted error), replaced)
      | none => (.ok ⟨d, test, copy, accessor.name⟩, count)

/-- The branches of some types, and how many accesses were replaced until the
end or a fault. -/
def branchesFor (g : Generator α κ π) (var : String) (body : List Node) :
    List (Descriptor α) → Except (DispatchFault α) (List (Branch α κ π)) × Nat
  | [] => (.ok [], 0)
  | d :: ds =>
    match g.branch var body d with
    | (.error f, m) => (.error f, m)
    | (.ok b, m) =>
      let (bs, n) := g.branchesFor var body ds
      (bs.map (b :: ·), m + n)

/-- The warnings a body and a number of types give rise to. -/
def warnings (g : Generator α κ π) (var : String) (types : List (Descriptor α))
    (body : List Node) : List (Note α) :=
  (if rebinds var body then [.rebinds var] else []) ++
    (if (types.length : Int) > g.branchLimit then
      [.manyBranches var types.length g.branchLimit] else [])

/-- **Generates the dispatch of a variable** over a branch list that is already
resolved. The counters after it are given too, whether it succeeds or not. A chain that is
finished is counted before its types are written into the log, and that may still fail. -/
def generate (g : Generator α κ π) (counters : Counters) (var : String)
    (types : List (Descriptor α)) (body : List Node) :
    Logged (Note α) (DispatchFault α) (Dispatch α κ π) × Counters :=
  if types.isEmpty then (.ofExcept (.error .noTypes), counters)
  else if body.isEmpty then (.ofExcept (.error .noBody), counters)
  else
    let (branches, count) := g.branchesFor var body types
    let counters := { counters with rewritten := counters.rewritten + count }
    match branches with
    | .error f => (⟨g.warnings var types body, .error f⟩, counters)
    | .ok branches =>
      let result :=
        if types.all Descriptor.isWritable then .ok ⟨var, branches⟩
        else .error (.analysis .unwritable)
      (⟨g.warnings var types body, result⟩,
        { counters with
          dispatches := counters.dispatches + 1
          branches := counters.branches + branches.length })

/-- **Generates the dispatch of a template**, which is read only if there are
types to dispatch over. -/
def generateFrom (g : Generator α κ π) (counters : Counters) (var : String)
    (types : List (Descriptor α)) (template : Template) :
    Logged (Note α) (DispatchFault α) (Dispatch α κ π) × Counters :=
  if types.isEmpty then (.ofExcept (.error .noTypes), counters)
  else
    match template.body with
    | .error e => (.ofExcept (.error (.unreadable e)), counters)
    | .ok body => g.generate counters var types body

/-- **Resolves the branches of an overall type and generates their dispatch.** -/
def build (g : Generator α κ π) (counters : Counters) (var : String) (overall : Descriptor α)
    (wellKnown extras : List (Descriptor α)) (template : Template) :
    Logged (Note α) (DispatchFault α) (Dispatch α κ π) × Counters :=
  let branches := resolveBranches g.oracle.subtype overall wellKnown extras
  match branches.result with
  | .error f => (⟨branches.notes, .error (.analysis f)⟩, counters)
  | .ok types =>
    let (dispatch, counters) := g.generateFrom counters var types template
    (⟨branches.notes ++ dispatch.notes, dispatch.result⟩, counters)

end Generator

end Narrowing
