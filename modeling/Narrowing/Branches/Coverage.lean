import Narrowing.Branches.Simplify
/-!
# Coverage of an overall type

Branches are meant to cover a declared overall type exactly. Every branch must
lie inside it, and where the oracle cannot show that their union is all of it
the overall type itself becomes the last branch, so that no value of it is left
without one.
-/

namespace Narrowing

variable {α : Type} [Named α]

/-- The first entry outside the overall type is the fault. -/
def requireInside (ask : Question α) (overall : Descriptor α) :
    List (Descriptor α) → Except (Fault α) Unit
  | [] => .ok ()
  | d :: ds =>
    match ask d overall with
    | .error e => .error e
    | .ok false => .error (Fault.outside d overall).reported
    | .ok true => requireInside ask overall ds

/-- **Whether branches cover exactly the overall type**; one outside it is a
fault. -/
def isExhaustive (ask : Question α) (overall : Descriptor α) (branches : List (Descriptor α)) :
    Except (Fault α) Bool := do
  requireInside ask overall branches
  ask.equivalent overall (.join branches)

/-- **The branches, with the overall type last unless they exhaust it.** -/
def ensureExhaustive (ask : Question α) (overall : Descriptor α)
    (branches : List (Descriptor α)) : Analysis α (List (Descriptor α)) := do
  if ← Logged.ofExcept (isExhaustive ask overall branches) then
    return branches
  else
    Analysis.note (.appended overall)
    return branches ++ [overall]

/-- **The branch list of a dispatch** over an overall type, from the
representations that always deserve a branch and the extra ones. -/
def resolveBranches (ask : Question α) (overall : Descriptor α)
    (wellKnown extras : List (Descriptor α)) : Analysis α (List (Descriptor α)) := do
  let branches ← simplify ask (wellKnown ++ extras)
  ensureExhaustive ask overall branches

end Narrowing
