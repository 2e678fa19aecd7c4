import Narrowing.Descriptor
import Narrowing.RuntimeTest
/-!
# Subtype oracles

An **oracle** answers questions about descriptors. It is given by what it knows
of atoms: a relation between two of them, which of them are universal, how a
sealed one decomposes exactly into parts, which descriptor a foreign spelling
stands for, and the runtime test of one. This module lifts those answers to all
descriptors. What is asked of an oracle in the end is a `Decider`.

The lifted relation `Oracle.isSubtype` is computed on normal forms, in which
every spelling has been replaced. A union on the left needs all its members, a
union on the right needs one, and a sealed atom that is not covered at once is
covered when each of its parts is. The last rule is the only one that can fail
to end, when a sealed atom expands into itself: the question is then
`Fault.endless`. The search notices this by counting expansions. Along one line
of a search the right-hand side only ever shrinks, so if no pair of an atom and
a right-hand side comes back there are at most as many expansions as there are
sealed declarations, once per depth of the right-hand side; one more means that
a pair did come back, and the search would go round for ever.
-/

namespace Narrowing

/-- Why an atom has no runtime test. -/
inductive MissingTest (α : Type) where
  /-- Only classes can be tested, and the atom is not one. -/
  | notAClass (a : α)
  /-- The declaration lists no test for the atom. -/
  | undeclared (a : α)

/-- **An oracle**, by what it knows of atoms `α`; its tests are over classes
`κ` and predicates `π`. -/
structure Oracle (α κ π : Type) where
  /-- The descriptor a spelling stands for; an atom with no other reading
  stands for itself. -/
  spell : α → Descriptor α := Descriptor.atom
  /-- The same with the spellings inside unions left as they are. -/
  read : α → Descriptor α := Descriptor.atom
  /-- The relation between two atoms. -/
  atomicSubtype : α → α → Bool
  /-- Whether an atom holds every value. -/
  universal : α → Bool := fun _ => false
  /-- The declared exact decompositions. -/
  sealedParts : List (Descriptor α × List (Descriptor α)) := []
  /-- The runtime test of an atom. -/
  atomicTest : α → Except (MissingTest α) (RuntimeTest κ π)
  /-- The class every value is an instance of. -/
  everything : κ

/-- **What can go wrong in an analysis** of descriptors. -/
inductive Fault (α : Type) where
  /-- A sealed atom expands into itself for ever. -/
  | endless
  /-- No entry of the list is most specific. -/
  | cyclic (remaining : List (Descriptor α))
  /-- The later entry is a proper subtype of the earlier one. -/
  | misordered (earlier later : Descriptor α)
  /-- A candidate is not a subtype of the declared overall type. -/
  | outside (candidate overall : Descriptor α)
  /-- An atom has no runtime test. -/
  | untestable (missing : MissingTest α)
  /-- A descriptor that is to be shown cannot be written. -/
  | unwritable

/-- The atom that has no test. -/
def MissingTest.subject {α : Type} : MissingTest α → α
  | notAClass a | undeclared a => a

namespace Fault

variable {α : Type}

/-- The descriptors that the report of a fault shows. -/
def shown : Fault α → List (Descriptor α)
  | cyclic remaining => remaining
  | misordered earlier later => [later, earlier]
  | outside candidate overall => [candidate, overall]
  | untestable missing => [.atom missing.subject]
  | endless | unwritable => []

/-- **A fault as it is reported.** Where one of the descriptors that the report shows cannot be
written, that is reported instead. -/
def reported [Named α] (f : Fault α) : Fault α :=
  if f.shown.all Descriptor.isWritable then f else unwritable

end Fault

/-- The entry of the last pair whose key equals `k`: a later declaration
replaces an earlier one. -/
def lastDeclared {κ β : Type} [BEq κ] (k : κ) (pairs : List (κ × β)) : Option β :=
  pairs.reverse.lookup k

/-- `List.any` for a question that may fail; the first `true` or failure ends
the search. -/
def anyOrFail {α ε : Type} (p : α → Except ε Bool) : List α → Except ε Bool
  | [] => .ok false
  | x :: xs =>
    match p x with
    | .ok false => anyOrFail p xs
    | answer => answer

/-- `List.all` for a question that may fail; the first `false` or failure ends
the search. -/
def allOrFail {α ε : Type} (p : α → Except ε Bool) : List α → Except ε Bool
  | [] => .ok true
  | x :: xs =>
    match p x with
    | .ok true => allOrFail p xs
    | answer => answer

/-! ## Questions -/

/-- **A question about two descriptors**, which may fail to have an answer. -/
abbrev Question (α : Type) := Descriptor α → Descriptor α → Except (Fault α) Bool

namespace Question

variable {α : Type}

/-- Each is a subtype of the other, by a question for subtypes. -/
def equivalent (ask : Question α) : Question α := fun a b =>
  match ask a b with
  | .ok true => ask b a
  | answer => answer

/-- The first is a subtype of the second and not the other way round. -/
def proper (ask : Question α) : Question α := fun a b =>
  match ask a b with
  | .ok true => (ask b a).map (!·)
  | answer => answer

end Question

/-- **What two descriptors are compared for.** -/
inductive Comparison where
  | subtype
  | equivalent
  | proper
deriving DecidableEq

/-- **What a comparison asks**, by a question for subtypes. -/
def Comparison.asking {α : Type} (ask : Question α) : Comparison → Question α
  | .subtype => ask
  | .equivalent => ask.equivalent
  | .proper => ask.proper

namespace Oracle

variable {α κ π : Type}

/-! ## Normal forms -/

/-- Replaces a spelling by its descriptor, leaving the members of a union as
they are. -/
def normalize (o : Oracle α κ π) : Descriptor α → Descriptor α
  | .atom a => o.read a
  | d => d

/-- **The normal form** replaces the spellings at every depth. -/
def normalForm (o : Oracle α κ π) (d : Descriptor α) : Descriptor α :=
  d.bind o.spell

/-- The declared parts of a descriptor, or none. -/
def expand [BEq α] (o : Oracle α κ π) (d : Descriptor α) : List (Descriptor α) :=
  (lastDeclared d o.sealedParts).getD []

/-! ## The lifted relation -/

mutual

/-- Whether a descriptor in normal form holds every value as a whole. -/
def holdsAll (o : Oracle α κ π) : Descriptor α → Bool
  | .atom a => o.universal a
  | .top => true
  | .bottom => false
  | .union members => someHoldsAll o members

/-- Whether a member of a list holds every value. -/
def someHoldsAll (o : Oracle α κ π) : List (Descriptor α) → Bool
  | [] => false
  | d :: ds => holdsAll o d || someHoldsAll o ds

end

/-- **Whether a descriptor is universal**: a union is when a single member is. -/
def isUniversal (o : Oracle α κ π) (d : Descriptor α) : Bool :=
  o.holdsAll (o.normalForm d)

/-- Whether the parts of a sealed atom are all below `b`; an atom without parts
is not below anything in this way. -/
def partsBelow [BEq α] (o : Oracle α κ π) (ask : Question α) (a : α) (b : Descriptor α) :
    Except (Fault α) Bool :=
  match o.expand (.atom a) with
  | [] => .ok false
  | parts => allOrFail (fun part => ask (o.normalForm part) b) parts

mutual

/-- **An atom below a descriptor.** -/
def atomBelow [BEq α] (o : Oracle α κ π) (ask : Question α) (a : α) :
    Descriptor α → Except (Fault α) Bool
  | .top => .ok true
  | .bottom => .ok false
  | .atom b =>
    if o.universal b || o.atomicSubtype a b then .ok true
    else o.partsBelow ask a (.atom b)
  | .union members =>
    match atomBelowSome o ask a members with
    | .ok false => o.partsBelow ask a (.union members)
    | answer => answer

/-- An atom below some member of a list, members tried in order. -/
def atomBelowSome [BEq α] (o : Oracle α κ π) (ask : Question α) (a : α) :
    List (Descriptor α) → Except (Fault α) Bool
  | [] => .ok false
  | d :: ds =>
    match atomBelow o ask a d with
    | .ok false => atomBelowSome o ask a ds
    | answer => answer

end

mutual

/-- **A descriptor below another**, both in normal form. -/
def descriptorBelow [BEq α] (o : Oracle α κ π) (ask : Question α) :
    Descriptor α → Descriptor α → Except (Fault α) Bool
  | .bottom, _ => .ok true
  | .top, b => .ok (o.holdsAll b)
  | .atom a, b => o.atomBelow ask a b
  | .union members, b => if b.isTop then .ok true else allBelow o ask members b

/-- All members of a list below a descriptor. -/
def allBelow [BEq α] (o : Oracle α κ π) (ask : Question α) :
    List (Descriptor α) → Descriptor α → Except (Fault α) Bool
  | [], _ => .ok true
  | d :: ds, b =>
    match descriptorBelow o ask d b with
    | .ok true => allBelow o ask ds b
    | answer => answer

end

/-- The relation between normal forms with a given number of nested expansions
at hand. -/
def belowWithin [BEq α] (o : Oracle α κ π) : Nat → Question α
  | 0 => o.descriptorBelow fun _ _ => .error .endless
  | n + 1 => o.descriptorBelow (o.belowWithin n)

/-- **How many nested expansions a question against `b` can need** without
coming back to a pair of an atom and a right-hand side. -/
def expansionBound (o : Oracle α κ π) (b : Descriptor α) : Nat :=
  o.sealedParts.length * (b.depth + 1)

/-- **`a` is a subtype of `b`.** -/
def isSubtype [BEq α] (o : Oracle α κ π) (a b : Descriptor α) : Except (Fault α) Bool :=
  let b := o.normalForm b
  o.belowWithin (o.expansionBound b) (o.normalForm a) b

/-- Compares two descriptors. -/
def compare [BEq α] (o : Oracle α κ π) (c : Comparison) : Question α := c.asking o.isSubtype

/-! ## Runtime tests -/

mutual

/-- The runtime test of a descriptor in normal form. -/
def testOf (o : Oracle α κ π) : Descriptor α → Except (MissingTest α) (RuntimeTest κ π)
  | .atom a => o.atomicTest a
  | .top => .ok (.instanceOf o.everything)
  | .bottom => .ok .never
  | .union members => (testsOf o members).map RuntimeTest.ofMembers

/-- The runtime tests of a member list; the first member without one is
reported. -/
def testsOf (o : Oracle α κ π) :
    List (Descriptor α) → Except (MissingTest α) (List (RuntimeTest κ π))
  | [] => .ok []
  | d :: ds =>
    match testOf o d with
    | .error e => .error e
    | .ok t => (testsOf o ds).map (t :: ·)

end

/-- **The runtime test of a descriptor.** -/
def runtimeTest (o : Oracle α κ π) (d : Descriptor α) :
    Except (MissingTest α) (RuntimeTest κ π) :=
  o.testOf (o.normalForm d)

end Oracle

/-! ## What is asked of an oracle -/

/-- **The answers of an oracle**, however they are worked out. All that is built on an oracle asks
it for nothing else. -/
structure Decider (α κ π : Type) where
  /-- Whether a descriptor is a subtype of another. -/
  subtype : Question α
  /-- Whether a descriptor is universal. -/
  universal : Descriptor α → Except (Fault α) Bool
  /-- The runtime test of a descriptor. -/
  test : Descriptor α → Except (Fault α) (RuntimeTest κ π)

namespace Decider

variable {α κ π : Type}

/-- Why a check of a value has no answer. -/
inductive CheckFault (α ε : Type) where
  /-- The descriptor has no runtime test. -/
  | undecided (f : Fault α)
  /-- The runtime test failed on the value. -/
  | failed (e : ε)

/-- **Whether a value belongs to a descriptor**, by its runtime test and the two judgements
about the value. -/
def check {ε : Type} (o : Decider α κ π) (isInstance : κ → Bool) (holds : π → Except ε Bool)
    (d : Descriptor α) : Except (CheckFault α ε) Bool :=
  match o.test d with
  | .error f => .error (.undecided f)
  | .ok t => (t.accepts isInstance holds).mapError .failed

end Decider

end Narrowing
