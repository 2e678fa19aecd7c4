import Narrowing.Word
/-!
# Walking to an element

An ordered container that cannot be indexed is walked from its front. Some
containers can be walked any number of times; a one-shot one gives each item
once, so that a walk leaves behind only what it has not reached. An index from
the end needs all items at hand first, which leaves nothing of a one-shot
container.
-/

namespace Narrowing

/-- The item at a position counted from the front, or from the end if it is
negative. -/
def itemAt? {α : Type} (items : List α) (index : Int) : Option α :=
  if index < 0 then
    if -index ≤ items.length then items[(items.length + index).toNat]? else none
  else items[index.toNat]?

/-- **A container that is walked.** -/
structure Walk (α : Type) where
  /-- The items that a walk gives, in order. -/
  items : List α
  /-- Whether an item is given only once. -/
  oneShot : Bool
deriving DecidableEq

/-- Why a walk gives no item. -/
inductive WalkFault where
  /-- There are too few items. -/
  | pastEnd
  /-- There are too few items to count from the end. -/
  | beforeStart
  /-- The index is greater than any walk can count. -/
  | uncountable
deriving DecidableEq

namespace Walk

variable {α : Type}

/-- The greatest index that a walk can count to. -/
def greatestIndex : Int := Word.count 63 - 1

/-- What is left once the first items have been given. -/
def advance (w : Walk α) (count : Nat) : Walk α :=
  if w.oneShot then { w with items := w.items.drop count } else w

/-- **The item at an index, and what is left of the container.** -/
def elementAt (w : Walk α) (index : Int) : Except WalkFault α × Walk α :=
  if index < 0 then
    (match itemAt? w.items index with
      | some x => .ok x
      | none => .error .beforeStart,
      w.advance w.items.length)
  else if index > greatestIndex then (.error .uncountable, w)
  else
    (match w.items[index.toNat]? with
      | some x => .ok x
      | none => .error .pastEnd,
      w.advance (index.toNat + 1))

end Walk

end Narrowing
