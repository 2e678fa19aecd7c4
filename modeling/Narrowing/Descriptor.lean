/-!
# Type descriptors

A **descriptor** stands for a set of values. Which sets the atoms stand for is
left open: everything in this library reaches them through an oracle
(`Narrowing.Oracle`), so an atom may be a class, a name of a declared hierarchy
or any other token.

Above the atoms the algebra is fixed: a universal descriptor, an empty one, and
unions. A union keeps its members as they were written, in order and with
repetitions, since its text shows them. `Descriptor.join` is the way to build
one: it collapses the two bounds and splices nested unions. A value built with
the constructor directly may nest unions or hold fewer than two members, and
every operation accepts such a value too.
-/

namespace Narrowing

/-- **The descriptor algebra** over a type of atoms. -/
inductive Descriptor (α : Type) where
  /-- Whatever the atom stands for. -/
  | atom (a : α)
  /-- Every value. -/
  | top
  /-- No value. -/
  | bottom
  /-- The values of any member. -/
  | union (members : List (Descriptor α))

namespace Descriptor

variable {α : Type}

/-! ## Joins -/

/-- Whether a descriptor is the universal bound itself. -/
def isTop : Descriptor α → Bool
  | top => true
  | _ => false

/-- **What a descriptor adds to a join**: nothing for the empty type, its own
members for a union, itself otherwise. -/
def contribution : Descriptor α → List (Descriptor α)
  | bottom => []
  | union members => members
  | d => [d]

/-- The descriptor of a collected member list: a list with one entry is that
entry and an empty one is the empty type. -/
def ofMembers : List (Descriptor α) → Descriptor α
  | [] => bottom
  | [d] => d
  | members => union members

/-- **The union of descriptors**, one level of nesting spliced. A universal
member makes the whole join universal. -/
def join (ds : List (Descriptor α)) : Descriptor α :=
  if ds.any isTop then top else ofMembers (ds.flatMap contribution)

/-! ## Comparison and measure -/

mutual

/-- Structural equality over an equality of atoms. -/
def same [BEq α] : Descriptor α → Descriptor α → Bool
  | atom a, atom b => a == b
  | top, top => true
  | bottom, bottom => true
  | union xs, union ys => sameAll xs ys
  | _, _ => false

/-- Structural equality of member lists. -/
def sameAll [BEq α] : List (Descriptor α) → List (Descriptor α) → Bool
  | [], [] => true
  | x :: xs, y :: ys => same x y && sameAll xs ys
  | _, _ => false

end

instance [BEq α] : BEq (Descriptor α) := ⟨same⟩

mutual

/-- How deep unions nest. -/
def depth : Descriptor α → Nat
  | union members => depthAll members + 1
  | _ => 0

/-- The greatest depth in a member list. -/
def depthAll : List (Descriptor α) → Nat
  | [] => 0
  | d :: ds => max (depth d) (depthAll ds)

end

/-! ## Substitution and text -/

mutual

/-- Replaces every atom, at every depth. -/
def bind (f : α → Descriptor α) : Descriptor α → Descriptor α
  | atom a => f a
  | top => top
  | bottom => bottom
  | union members => union (bindAll f members)

/-- Replaces every atom of a member list. -/
def bindAll (f : α → Descriptor α) : List (Descriptor α) → List (Descriptor α)
  | [] => []
  | d :: ds => bind f d :: bindAll f ds

end

mutual

/-- **The readable name of a descriptor** over the names of its atoms, if these can be
written. -/
def text? (name? : α → Option String) : Descriptor α → Option String
  | atom a => name? a
  | top => some "TOP"
  | bottom => some "BOTTOM"
  | union members =>
    (texts? name? members).map fun names => "Union[" ++ String.intercalate ", " names ++ "]"

/-- **The readable names of a member list**, if all can be written. -/
def texts? (name? : α → Option String) : List (Descriptor α) → Option (List String)
  | [] => some []
  | d :: ds => do return (← text? name? d) :: (← texts? name? ds)

end

end Descriptor

/-- **Atoms that have a name to show**, as far as it can be written: writing an atom may
fail. -/
class Named (α : Type) where
  /-- The readable name of an atom, or nothing if it cannot be written. -/
  name? : α → Option String

/-- A name is written as it is. -/
instance : Named String := ⟨some⟩

namespace Descriptor

variable {α : Type} [Named α]

/-- The readable name of a descriptor. -/
def name? (d : Descriptor α) : Option String := d.text? Named.name?

/-- Whether a descriptor can be written. -/
def isWritable (d : Descriptor α) : Bool := d.name?.isSome

end Descriptor

end Narrowing
