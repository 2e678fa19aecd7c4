import Narrowing.Descriptor
import Narrowing.Text.Quoted
/-!
# What is noted down

The notes made while branches are resolved and dispatches are generated, each
with its level and its text. Names of variables are quoted as string literals;
descriptors are shown by their readable names.
-/

namespace Narrowing

/-- **One note**, over atoms `α`. -/
inductive Note (α : Type) where
  /-- An entry equals the union of the entries kept before it. -/
  | dropped (entry covered : Descriptor α)
  /-- A list of so many candidates was simplified. -/
  | simplified (candidates : Nat) (kept : List (Descriptor α))
  /-- The overall type was appended because the branches do not exhaust it. -/
  | appended (overall : Descriptor α)
  /-- A function is about to be specialized on a variable. -/
  | dispatching (function var : String)
  /-- The body assigns the dispatched variable. -/
  | rebinds (var : String)
  /-- The dispatch has more branches than the limit. -/
  | manyBranches (var : String) (count : Nat) (limit : Int)

namespace Note

variable {α : Type}

/-- Whether a note warns. -/
def isWarning : Note α → Bool
  | rebinds _ | manyBranches .. => true
  | _ => false

/-- The name of the level a note is made at. -/
def level (n : Note α) : String :=
  if n.isWarning then "WARNING" else "DEBUG"

/-- **The text of a note** over the names of atoms, if these can be written. -/
def text? (name? : α → Option String) : Note α → Option String
  | dropped entry covered => do
    return s!"Dropped {← entry.text? name?}: equal to {← covered.text? name?}"
  | simplified candidates kept => do
    let shown := String.intercalate ", " (← Descriptor.texts? name? kept)
    return s!"Simplified {candidates} candidate(s) to [{shown}]"
  | appended overall => do return s!"Appended catch-all branch {← overall.text? name?}"
  | dispatching function var => some s!"Dispatching {function} on {Text.quoted var}"
  | rebinds var =>
    let shown := Text.quoted var
    some s!"Dispatch body rebinds {shown}; its narrowed type is not reliable after the assignment"
  | manyBranches var count limit =>
    let shown := Text.quoted var
    some s!"Dispatch on {shown} emits {count} copies of the body (limit {limit})"

/-- The line of a note in a log: its level and its text. -/
def line? (name? : α → Option String) (n : Note α) : Option String :=
  (n.text? name?).map fun text => s!"{n.level}: {text}"

/-- Whether a note can be written. -/
def isWritable [Named α] (n : Note α) : Bool := (n.text? Named.name?).isSome

end Note

end Narrowing
