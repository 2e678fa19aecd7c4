import Narrowing.Oracle
import Narrowing.Logged
import Narrowing.Note
/-!
# Branch lists

A list of candidate descriptors is reduced to the branches of a dispatch in
three passes. `deduplicate` keeps the first entry of each equivalence class.
`specificitySort` puts proper subtypes first and otherwise keeps the order given.
`removeShadowed` drops each entry equal to the union of those kept before it;
an entry that is strictly larger than that union stays, as a broader branch.

The passes ask an oracle, and an oracle may be wrong: its relation need not be
a preorder. A list in which every entry has a proper subtype among the others
is reported as `Fault.cyclic`.
-/

namespace Narrowing

variable {α : Type}

/-- A computation over branch lists: it notes what it drops and adds. -/
abbrev Analysis (α : Type) := Logged (Note α) (Fault α)

/-- Notes one thing. A note is written when it is made, and where that fails the computation
does. -/
def Analysis.note [Named α] (n : Note α) : Analysis α Unit :=
  if n.isWritable then Logged.note n else Logged.ofExcept (.error .unwritable)

/-! ## Equivalence classes -/

/-- Goes through a list with the entries kept so far. -/
def deduplicateFrom (ask : Question α) (kept : List (Descriptor α)) :
    List (Descriptor α) → Except (Fault α) (List (Descriptor α))
  | [] => .ok kept
  | d :: ds =>
    match anyOrFail (fun k => ask.equivalent d k) kept with
    | .error e => .error e
    | .ok true => deduplicateFrom ask kept ds
    | .ok false => deduplicateFrom ask (kept ++ [d]) ds

/-- **The first member of each equivalence class**, in order. -/
def deduplicate (ask : Question α) (ds : List (Descriptor α)) :
    Except (Fault α) (List (Descriptor α)) :=
  deduplicateFrom ask [] ds

/-! ## Specificity order -/

/-- Splits a list at its first entry that has no proper subtype before or after
it, `earlier` being the entries already passed over. -/
def takeMostSpecific (ask : Question α) (earlier : List (Descriptor α)) :
    List (Descriptor α) → Except (Fault α) (Option (Descriptor α × List (Descriptor α)))
  | [] => .ok none
  | d :: later =>
    match anyOrFail (fun other => ask.proper other d) (earlier ++ later) with
    | .error e => .error e
    | .ok true => takeMostSpecific ask (earlier ++ [d]) later
    | .ok false => .ok (some (d, earlier ++ later))

variable [Named α]

/-- Takes a most specific entry out of the list, `steps` times. -/
def sortSteps (ask : Question α) :
    Nat → List (Descriptor α) → Except (Fault α) (List (Descriptor α))
  | 0, _ => .ok []
  | _, [] => .ok []
  | steps + 1, remaining =>
    match takeMostSpecific ask [] remaining with
    | .error e => .error e
    | .ok none => .error (Fault.cyclic remaining).reported
    | .ok (some (d, rest)) => (sortSteps ask steps rest).map (d :: ·)

/-- **No later entry is a proper subtype of an earlier one**; otherwise the first
such pair is the fault. -/
def verifyOrder (ask : Question α) : List (Descriptor α) → Except (Fault α) Unit
  | [] => .ok ()
  | earlier :: rest => do
    verifyAgainst ask earlier rest
    verifyOrder ask rest
where
  /-- No entry of a list is a proper subtype of an earlier one. -/
  verifyAgainst (ask : Question α) (earlier : Descriptor α) :
      List (Descriptor α) → Except (Fault α) Unit
    | [] => .ok ()
    | later :: rest =>
      match ask.proper later earlier with
      | .error e => .error e
      | .ok true => .error (Fault.misordered earlier later).reported
      | .ok false => verifyAgainst ask earlier rest

/-- **Stable sort with proper subtypes first**: each step takes the earliest
remaining entry that has no proper subtype left. -/
def specificitySort (ask : Question α) (ds : List (Descriptor α)) :
    Except (Fault α) (List (Descriptor α)) := do
  let ordered ← sortSteps ask ds.length ds
  verifyOrder ask ordered
  return ordered

/-! ## Shadowed entries -/

/-- Goes through a list with the entries kept so far and their union. -/
def removeShadowedFrom (ask : Question α) (kept : List (Descriptor α)) (covered : Descriptor α) :
    List (Descriptor α) → Analysis α (List (Descriptor α))
  | [] => pure kept
  | d :: ds => do
    if ← Logged.ofExcept (ask.equivalent d covered) then
      Analysis.note (.dropped d covered)
      removeShadowedFrom ask kept covered ds
    else
      removeShadowedFrom ask (kept ++ [d]) (.join [covered, d]) ds

/-- **Drops each entry equivalent to the union of those kept before it.** -/
def removeShadowed (ask : Question α) (ds : List (Descriptor α)) :
    Analysis α (List (Descriptor α)) :=
  removeShadowedFrom ask [] .bottom ds

/-! ## The passes together -/

/-- **The minimal list, most specific first, with the same union.** -/
def simplify (ask : Question α) (ds : List (Descriptor α)) :
    Analysis α (List (Descriptor α)) := do
  let distinct ← Logged.ofExcept (deduplicate ask ds)
  let ordered ← Logged.ofExcept (specificitySort ask distinct)
  let kept ← removeShadowed ask ordered
  Analysis.note (.simplified ds.length kept)
  return kept

end Narrowing
