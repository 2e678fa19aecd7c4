import Narrowing.Dispatch.Generate
import Narrowing.Value.Failure
import Narrowing.Value.Text
/-!
# Errors

What is reported when something goes wrong. The library has a small family of
error kinds, each of which carries what its message speaks of. The causes found
by the other modules are turned into them here, and here alone are they put into
words.
-/

namespace Narrowing

/-- **An error of the library.** -/
inductive LibraryError where
  /-- An error of the family that is none of the others. -/
  | general (text : String)
  /-- The oracle is no preorder; the types show it. -/
  | brokenOracle (text : String) (types : List TypeDescriptor)
  /-- A candidate lies outside the declared overall type. -/
  | notASubtype (candidate overall : TypeDescriptor)
  /-- No branch of a dispatch accepts a value, whose literal begins like this. -/
  | unmatched (value : Value) (types : List TypeDescriptor) (excerpt : String)
  /-- An accessor table has no universal last entry. -/
  | missingFallback (text : String)
  /-- A function cannot be specialized. -/
  | specialization (text : String)
  /-- A value, whose literal begins like this, failed an assertion and every recovery
  from it failed. -/
  | assertion (value : Value) (expected : TypeDescriptor) (attempts : Int) (excerpt : String)

/-- The readable name of a descriptor over spellings, if it can be written. -/
abbrev typeText? (d : TypeDescriptor) : Option String := d.name?

/-- Readable names separated by commas, if all can be written. -/
def typeTexts? (ds : List TypeDescriptor) : Option String :=
  (Descriptor.texts? Named.name? ds).map commaSeparated

namespace LibraryError

/-- The name of the kind of an error. -/
def kind : LibraryError → String
  | general _ => "TypecaseError"
  | brokenOracle .. => "OracleInvariantError"
  | notASubtype .. => "NotASubtypeError"
  | unmatched .. => "UnmatchedTypeError"
  | missingFallback _ => "MissingFallbackError"
  | specialization _ => "SpecializationError"
  | assertion .. => "TypeAssertionError"

/-- How many characters of the text of a value a message shows. -/
def excerptLength : Nat := 60

/-- **The message of an error**, if what it shows can be written. An error is made with its
message, so without one there is none. -/
def message? (σ : Store) : LibraryError → Option String
  | general text | brokenOracle text _ | missingFallback text | specialization text => some text
  | notASubtype candidate overall => do
    return "supplied type " ++ (← typeText? candidate) ++
      " is not a subtype of the declared overall type " ++ (← typeText? overall)
  | unmatched value types excerpt => do
    return "unmatched type " ++ σ.typeName value ++ " for value " ++ excerpt ++ " (branches: " ++
      (← typeTexts? types) ++ ")"
  | assertion _ expected attempts excerpt => do
    return "value " ++ excerpt ++ " is not of type " ++ (← typeText? expected) ++
      if attempts = 0 then "" else " after " ++ toString attempts ++ " recovery attempt(s)"

/-- The kinds that an error is also an instance of, nearest first. -/
def bases : LibraryError → List String
  | general _ => ["Exception", "BaseException"]
  | brokenOracle .. | specialization _ => ["TypecaseError", "Exception", "BaseException"]
  | notASubtype .. | unmatched .. | assertion .. =>
    ["TypecaseError", "TypeError", "Exception", "BaseException"]
  | missingFallback _ => ["TypecaseError", "ValueError", "Exception", "BaseException"]

end LibraryError

/-- **Anything that is reported as an error.** -/
inductive Problem where
  /-- An error of the library. -/
  | library (e : LibraryError)
  /-- A failure of running code. -/
  | failure (f : Failure)
  /-- A text that is no code. -/
  | unreadable (e : Code.ParseError)

namespace Problem

/-- The name of the kind of a fault in a text. -/
def parseErrorKind : Code.ParseError → String
  | .misplaced => "SyntaxError"
  | .indentation => "IndentationError"
  | .mixedTabs => "TabError"
  | .nullCharacter => "ValueError"

/-- **The name of the kind of a problem.** -/
def kind : Problem → String
  | library e => e.kind
  | failure f => f.kind
  | unreadable e => parseErrorKind e

/-- An error whose message is made from a text, or the failure to write that. -/
def told (text? : Option String) (e : String → LibraryError) : Problem :=
  match text? with
  | some text => .library (e text)
  | none => .failure .badValue

/-- **The error of a missing test.** -/
def ofMissingTest : MissingTest Spelling → Problem
  | .notAClass a =>
    told a.literalText? fun text => .specialization ("no runtime test for non-class type " ++ text)
  | .undeclared a =>
    told a.text? fun text => .specialization ("no runtime test declared for type " ++ text)

/-- The words for two entries in the wrong order. -/
def misorderedText? (earlier later : TypeDescriptor) : Option String := do
  return "specificity order violated: " ++ (← typeText? later) ++ " is a proper subtype of " ++
    (← typeText? earlier) ++ " but sorts after it"

/-- **The problem of a fault in an analysis.** -/
def ofFault : Fault Spelling → Problem
  | .endless => .failure .tooDeep
  | .cyclic remaining =>
    told (typeTexts? remaining) fun text =>
      .brokenOracle ("subtype oracle is cyclic: no most-specific type among " ++ text) remaining
  | .misordered earlier later =>
    told (misorderedText? earlier later) fun text => .brokenOracle text [earlier, later]
  | .outside candidate overall => .library (.notASubtype candidate overall)
  | .untestable missing => ofMissingTest missing
  | .unwritable => .failure .badValue

/-- **The problem of an accessor table.** -/
def ofTableFault : TableFault Spelling → Problem
  | .noFallback =>
    .library (.missingFallback "accessor table must end with an entry for the universal type")
  | .misordered earlier later =>
    told (misorderedText? earlier later) fun text =>
      .brokenOracle ("accessor table is not sorted: " ++ text) [earlier, later]
  | .unserved d => told (typeText? d) fun text => .missingFallback ("no accessor for " ++ text)
  | .undecided f => ofFault f

/-- **The problem of a dispatch that cannot be generated.** -/
def ofDispatchFault : DispatchFault Spelling → Problem
  | .noTypes => .library (.specialization "cannot dispatch over an empty type list")
  | .noBody => .library (.specialization "cannot dispatch with an empty body")
  | .unreadable e => .unreadable e
  | .table f => ofTableFault f
  | .interrupted error => .failure (.raised error (ErrorClass.inherited error) .none)
  | .analysis f => ofFault f

/-- **The problem of code that failed.** -/
def ofFailure : Failure → Problem
  | .unmatched value types excerpt => .library (.unmatched value types excerpt)
  | .refused value expected attempts excerpt =>
    .library (.assertion value expected attempts excerpt)
  | .untestable missing => ofMissingTest missing
  | f => .failure f

end Problem

end Narrowing
