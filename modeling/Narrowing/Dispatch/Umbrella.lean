import Narrowing.Branches.Coverage
import Narrowing.Oracle.Classes
/-!
# Umbrella types

An **umbrella** is an overall type with the representations of it that always
deserve a branch. Extra branches may be asked for on top.
-/

namespace Narrowing

/-- **An overall type with its well-known representations.** -/
structure Umbrella where
  /-- The overall type. -/
  overall : TypeDescriptor
  /-- The representations that always get a branch. -/
  wellKnown : List TypeDescriptor

namespace Umbrella

/-- Texts and byte strings. -/
def strings : Umbrella where
  overall := .join [StandardClass.str.descriptor, StandardClass.bytes.descriptor,
    StandardClass.bytearray.descriptor]
  wellKnown := [StandardClass.str.descriptor, StandardClass.bytes.descriptor]

/-- Indexed collections. -/
def vectors : Umbrella where
  overall := .join [StandardClass.sequence.descriptor, StandardClass.ndarray.descriptor]
  wellKnown := [StandardClass.list.descriptor]

/-- **The branches of an umbrella** with some extra ones. -/
def branches (u : Umbrella) (o : TypeDecider) (extras : List TypeDescriptor) :
    Analysis Spelling (List TypeDescriptor) :=
  resolveBranches o.subtype u.overall u.wellKnown extras

end Umbrella

end Narrowing
