import Narrowing.Oracle
import Narrowing.Spelling
/-!
# Questions asked level by level

`Oracle.isSubtype` asks about normal forms, in which the spellings have been replaced at every
depth. A question can also be asked of descriptors as they are written: read the outermost
spelling of each side, take apart what it stands for, and read again below. What is left of the
right-hand side is passed on and read once more at the next level. An oracle over classes is
asked in this way (`Oracle.compareByLevels`): what it reads a spelling as need not be in normal
form, and then it matters at which level a spelling is read.

The recursion need not end, since a sealed atom may expand into itself. It is given a number of
levels (`Oracle.levelBound`), and where these are used up the question has no answer. Along one
line of questions the right-hand side only gets shallower. While it stays as it is, no declaration
is expanded twice unless the line goes round for ever, and between two expansions the left-hand
side gets shallower.
-/

namespace Narrowing

/-! ## Depth -/

namespace Descriptor

variable {α : Type}

mutual

/-- How deep unions nest in a descriptor over atoms that have a depth themselves. -/
def depthOver (size : α → Nat) : Descriptor α → Nat
  | atom a => size a
  | top => 0
  | bottom => 0
  | union members => depthOverAll size members + 1

/-- The greatest such depth in a member list. -/
def depthOverAll (size : α → Nat) : List (Descriptor α) → Nat
  | [] => 0
  | d :: ds => max (depthOver size d) (depthOverAll size ds)

end

end Descriptor

namespace Spelling

mutual

/-- How deep choices and unions nest in a spelling. -/
def depth : Spelling → Nat
  | choice _ xs => depthAll xs + 1
  | union xs => depthAll xs + 1
  | _ => 0

/-- The greatest depth in a list of spellings. -/
def depthAll : List Spelling → Nat
  | [] => 0
  | x :: xs => max (depth x) (depthAll xs)

end

end Spelling

namespace Oracle

variable {α κ π : Type}

/-! ## The recursion -/

/-- **Universality, level by level**, through at most so many levels. -/
def universalWithin (o : Oracle α κ π) : Nat → Descriptor α → Except (Fault α) Bool
  | 0, _ => .error .endless
  | n + 1, d =>
    match o.normalize d with
    | .atom a => .ok (o.universal a)
    | .top => .ok true
    | .bottom => .ok false
    | .union ms => anyOrFail (o.universalWithin n) ms

/-- Whether the parts of a sealed atom are all below `b`, each asked as it was declared. -/
def partsWithin [BEq α] (o : Oracle α κ π) (ask : Question α) (a : α) (b : Descriptor α) :
    Except (Fault α) Bool :=
  match o.expand (.atom a) with
  | [] => .ok false
  | parts => allOrFail (fun part => ask part b) parts

/-- **One level of the relation**: both sides are read, and what is left of the right one is
passed on. -/
def subtypeLevel [BEq α] (o : Oracle α κ π) (ask : Question α)
    (askUniversal : Descriptor α → Except (Fault α) Bool) : Question α := fun a b =>
  match o.normalize a, o.normalize b with
  | .bottom, _ => .ok true
  | _, .top => .ok true
  | .union ms, b => allOrFail (fun m => ask m b) ms
  | .top, b => askUniversal b
  | .atom _, .bottom => .ok false
  | .atom a, .union ms =>
    match anyOrFail (fun m => ask (.atom a) m) ms with
    | .ok false => o.partsWithin ask a (.union ms)
    | answer => answer
  | .atom a, .atom b =>
    if o.universal b || o.atomicSubtype a b then .ok true
    else o.partsWithin ask a (.atom b)

/-- **The relation, level by level**, through at most so many levels. -/
def subtypeWithin [BEq α] (o : Oracle α κ π) : Nat → Question α
  | 0 => fun _ _ => .error .endless
  | n + 1 => o.subtypeLevel (o.subtypeWithin n) (o.universalWithin n)

/-- The runtime test of an atom that has been read. -/
def testAtom [Named α] (o : Oracle α κ π) (a : α) : Except (Fault α) (RuntimeTest κ π) :=
  (o.atomicTest a).mapError fun missing => (Fault.untestable missing).reported

/-- **The runtime test, level by level.** -/
def testWithin [Named α] (o : Oracle α κ π) :
    Nat → Descriptor α → Except (Fault α) (RuntimeTest κ π)
  | 0, _ => .error .endless
  | n + 1, d =>
    match o.normalize d with
    | .atom a => o.testAtom a
    | .top => .ok (.instanceOf o.everything)
    | .bottom => .ok .never
    | .union ms => (ms.mapM (o.testWithin n)).map RuntimeTest.ofMembers

/-! ## Enough levels -/

section Bounded

variable (o : Oracle α κ π) (size : α → Nat)

/-- **How many levels a question can need**, if reading a spelling gives nothing deeper. There is
a block of levels for each depth of the right-hand side, and in it one for each declaration; in
that, one level for each depth of the left-hand side or of a declared part. A question about
universality comes one level after the question that leads to it. -/
def levelBound (a b : Descriptor α) : Nat :=
  (b.depthOver size + 1) * (o.sealedParts.length + 1) *
    (Descriptor.union (a :: o.sealedParts.flatMap Prod.snd)).depthOver size + 1

/-- **Whether `a` is a subtype of `b`**, asked level by level. -/
def subtypeByLevels [BEq α] : Question α := fun a b =>
  o.subtypeWithin (o.levelBound size a b) a b

/-- **Whether a descriptor is universal**, asked level by level. -/
def universalByLevels (d : Descriptor α) : Except (Fault α) Bool :=
  o.universalWithin (d.depthOver size + 1) d

/-- **The runtime test of a descriptor**, level by level. -/
def testByLevels [Named α] (d : Descriptor α) : Except (Fault α) (RuntimeTest κ π) :=
  o.testWithin (d.depthOver size + 1) d

/-- **Compares two descriptors** level by level. -/
def compareByLevels [BEq α] (c : Comparison) : Question α := c.asking (o.subtypeByLevels size)

/-- **The answers of an oracle**, level by level. -/
def byLevels [BEq α] [Named α] : Decider α κ π where
  subtype := o.subtypeByLevels size
  universal := o.universalByLevels size
  test := o.testByLevels size

end Bounded

end Oracle

end Narrowing
