import Narrowing.Oracle.Hierarchy
import Narrowing.Oracle.Levels
import Narrowing.Oracle.Relation
import Narrowing.Predicate
import Narrowing.Spelling
/-!
# Oracles over classes

Atoms are spellings. Two classes are related by the subclass relation, and
anything else only to its equals. Every host spelling is first read as classes
(`Spelling.core`), and only `object` is universal. A class is its own runtime
test; nothing else has one.
-/

namespace Narrowing

/-- A runtime test over classes and named predicates. -/
abbrev TypeTest := RuntimeTest Class Predicate

/-- An oracle whose atoms are spellings. -/
abbrev TypeOracle := Oracle Spelling Class Predicate

/-- The answers of such an oracle. -/
abbrev TypeDecider := Decider Spelling Class Predicate

/-- A class as a descriptor. -/
abbrev StandardClass.descriptor (c : StandardClass) : TypeDescriptor :=
  .atom (.cls (.standard c))

/-- **The relation between two spellings read as classes.** -/
def Spelling.isSubclass : Spelling → Spelling → Bool
  | .cls c, .cls d => c.isSubclass d
  | a, b => a == b

/-- Whether a spelling is the class of everything. -/
def Spelling.isObject : Spelling → Bool
  | .cls (.standard .object) => true
  | _ => false

/-- **The oracle over classes**, with the given sealed declarations. -/
def classOracle (sealedParts : List (TypeDescriptor × List TypeDescriptor)) : TypeOracle where
  spell := Spelling.core
  read := Spelling.reading
  atomicSubtype := Spelling.isSubclass
  universal := Spelling.isObject
  sealedParts
  atomicTest
    | .cls c => .ok (.instanceOf c)
    | a => .error (.notAClass a)
  everything := .standard .object

/-- The oracle over classes with nothing sealed. -/
def defaultOracle : TypeOracle := classOracle []

/-- **The answers of an oracle over spellings.** -/
def TypeOracle.decider (o : TypeOracle) : TypeDecider := o.byLevels Spelling.depth

/-- The answers of the oracle over classes with nothing sealed. -/
def defaultDecider : TypeDecider := defaultOracle.decider

end Narrowing
