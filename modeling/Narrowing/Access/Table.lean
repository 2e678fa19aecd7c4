import Narrowing.Access.Accessor
import Narrowing.Branches.Simplify
import Narrowing.Oracle.Classes
/-!
# Accessor tables

A table lists descriptors with accessors, most specific first, and ends with a
universal entry. The first entry whose descriptor contains the one looked up
decides. Both properties are checked when a table is built, so that a look-up
always finds an entry and finds one that is most specific.
-/

namespace Narrowing

/-- One line of a table. -/
structure AccessorEntry (α : Type) where
  /-- The descriptors below this one are served. -/
  type : Descriptor α
  /-- The accessor that serves them. -/
  accessor : Accessor

/-- Why a table cannot be built or used. -/
inductive TableFault (α : Type) where
  /-- The last entry is not universal, or there is none. -/
  | noFallback
  /-- An entry is a proper subtype of one before it. -/
  | misordered (earlier later : Descriptor α)
  /-- No entry contains the descriptor. -/
  | unserved (d : Descriptor α)
  /-- The oracle gave no answer. -/
  | undecided (f : Fault α)

/-- **An accessor table** with the oracle that its entries are compared by. -/
structure AccessorTable (α κ π : Type) where
  /-- The oracle. -/
  oracle : Decider α κ π
  /-- The entries in order. -/
  entries : List (AccessorEntry α)

namespace AccessorTable

variable {α κ π : Type} [Named α]

/-- **Builds a table**, checking its last entry and then its order. -/
def build (o : Decider α κ π) (entries : List (AccessorEntry α)) :
    Except (TableFault α) (AccessorTable α κ π) :=
  match entries.getLast? with
  | none => .error .noFallback
  | some last =>
    match o.universal last.type with
    | .error f => .error (.undecided f)
    | .ok false => .error .noFallback
    | .ok true =>
      match verifyOrder o.subtype (entries.map AccessorEntry.type) with
      | .ok () => .ok ⟨o, entries⟩
      | .error (.misordered earlier later) => .error (.misordered earlier later)
      | .error f => .error (.undecided f)

/-- The accessor of the first entry that contains a descriptor. -/
def lookupIn (ask : Question α) (d : Descriptor α) :
    List (AccessorEntry α) → Except (TableFault α) Accessor
  | [] => .error (if d.isWritable then .unserved d else .undecided .unwritable)
  | e :: es =>
    match ask d e.type with
    | .error f => .error (.undecided f)
    | .ok true => .ok e.accessor
    | .ok false => lookupIn ask d es

/-- **The accessor for a descriptor.** -/
def lookup (t : AccessorTable α κ π) (d : Descriptor α) : Except (TableFault α) Accessor :=
  lookupIn t.oracle.subtype d t.entries

end AccessorTable

/-- A table over spellings. -/
abbrev TypeTable := AccessorTable Spelling Class Predicate

/-- **The table in use where none is given.** -/
def defaultTable : TypeTable where
  oracle := defaultDecider
  entries :=
    [⟨StandardClass.str.descriptor, .textIndex⟩,
      ⟨StandardClass.bytes.descriptor, .octetIndex⟩,
      ⟨StandardClass.bytearray.descriptor, .octetIndex⟩,
      ⟨StandardClass.list.descriptor, .arrayIndex⟩,
      ⟨StandardClass.tuple.descriptor, .arrayIndex⟩,
      ⟨StandardClass.array.descriptor, .arrayIndex⟩,
      ⟨StandardClass.ndarray.descriptor, .arrayIndex⟩,
      ⟨StandardClass.sequence.descriptor, .sequenceIndex⟩,
      ⟨.top, .generic⟩]

end Narrowing
