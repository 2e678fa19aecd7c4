/-!
# Slots

A set keeps each of its items in a slot of its own, and gives them in the order of their slots.
Where an item goes is found by its hash: the slots are tried from the residue of the hash on, a
few neighbours at a time, until one is free. A slot that an item
has left is taken again by the next one that comes by. All items move to other slots, of which
there are more, when too few are free.

The items stay what they are wherever they go: an item that is added is one more, and moving
changes the order alone.
-/

namespace Narrowing

/-- **The slots of a set.** -/
structure Slots where
  /-- How many there are. -/
  count : Nat := 8
  /-- The slot and the hash of each item, in the order of the slots. -/
  taken : List (Nat × Nat) := []
  /-- The slots that items have left. -/
  left : List Nat := []
  /-- From where on the next item is looked for that is taken out. -/
  next : Nat := 0

namespace Slots

/-- How many slots are taken or have been left. -/
def used (s : Slots) : Nat := s.taken.length + s.left.length

/-- Whether a slot has never been taken. -/
def isFree (s : Slots) (k : Nat) : Bool := !(s.taken.any fun e => e.1 = k) && !s.left.contains k

/-- How many neighbours of a slot are tried together with it, if there are as many. -/
def neighbours : Nat := 9

/-- The slots that are tried for an item up to a free one: a slot with its neighbours, then
another one that the slot and what is left of the hash say. -/
def tried (isFree : Nat → Bool) (count : Nat) : Nat → Nat → Nat → List Nat
  | 0, k, _ => [k]
  | tries + 1, k, rest =>
    let near := if k + neighbours < count then neighbours else 0
    let here := (List.range (near + 1)).map (k + ·)
    if here.any isFree then here.takeWhile (!isFree ·) ++ (here.find? isFree).toList
    else here ++ tried isFree count tries ((k * 5 + 1 + rest / 32) % count) (rest / 32)

/-- **The slot for an item** of a hash: the last that has been left on the way to a free
one, or that one. -/
def slotFor (s : Slots) (hash : Nat) : Nat :=
  let slots := tried s.isFree s.count (s.count + 16) (hash % s.count) hash
  ((slots.filter s.left.contains).getLast?.or slots.getLast?).getD 0

/-- The least number of slots that is greater than a bound: a power of two. -/
def countAbove (bound : Nat) : Nat := max 8 (Nat.pow 2 (bound.log2 + 1))

end Slots

/-- **Items with the slots that they are kept in**, in the order of these. -/
structure Slotted (α : Type) where
  items : List α := []
  slots : Slots := {}

namespace Slotted

variable {α : Type}

/-- An item put into the slot for its hash. -/
def placed (s : Slotted α) (hash : Nat) (a : α) : Slotted α :=
  let k := s.slots.slotFor hash
  let n := s.slots.taken.findIdx fun e => k < e.1
  ⟨s.items.take n ++ a :: s.items.drop n,
    { s.slots with
      taken := s.slots.taken.take n ++ (k, hash) :: s.slots.taken.drop n
      left := s.slots.left.filter (· ≠ k) }⟩

/-- The items with their hashes. -/
def hashed (s : Slotted α) : List (α × Nat) := s.items.zip (s.slots.taken.map Prod.snd)

/-- Items put one by one into empty slots. -/
def refilled (slots : Slots) (items : List (α × Nat)) : Slotted α :=
  items.foldl (fun s e => s.placed e.2 e.1) ⟨[], slots⟩

/-- **All items moved** to more slots than a bound, none of which has been left. -/
def moved (s : Slotted α) (bound : Nat) : Slotted α :=
  let count := Slots.countAbove bound
  if count = 8 && s.slots.count = 8 && s.slots.left.isEmpty then s
  else refilled { count, next := s.slots.next } s.hashed

/-- Whether so many slots in use are too many. -/
def isCrowded (s : Slotted α) (used : Nat) : Bool := used * 5 ≥ (s.slots.count - 1) * 3

/-- The bound for the number of slots when so many items move. -/
def spread (count : Nat) : Nat := if count > 50000 then count * 2 else count * 4

/-- **One item more**, with all of them moved where too few slots are free. -/
def added (s : Slotted α) (hash : Nat) (a : α) : Slotted α :=
  let t := s.placed hash a
  if t.slots.used > s.slots.used && t.isCrowded t.slots.used then t.moved (spread t.items.length) else t

/-- The item at a position taken out, whose slot is left. -/
def without (s : Slotted α) (n : Nat) : Slotted α :=
  let slot := ((s.slots.taken[n]?).map Prod.fst).toList
  ⟨s.items.eraseIdx n,
    { s.slots with taken := s.slots.taken.eraseIdx n, left := slot ++ s.slots.left }⟩

/-- Moves all items if more than a quarter of the slots have been left. -/
def tidied (s : Slotted α) : Slotted α :=
  if s.slots.left.length ≤ (s.slots.count - 1) / 4 then s else s.moved (spread s.items.length)

/-- Room made for so many items more. -/
def roomier (s : Slotted α) (more : Nat) : Slotted α :=
  if s.isCrowded (s.slots.used + more) then s.moved ((s.items.length + more) * 2) else s

/-- **A copy** of some items in slots of its own: in the same ones, if there are as many
and none has been left. -/
def copied (s : Slotted α) : Slotted α :=
  let empty : Slotted α := ({} : Slotted α).roomier s.items.length
  if s.items.isEmpty then {}
  else if empty.slots.count = s.slots.count && s.slots.left.isEmpty then
    ⟨s.items, { s.slots with next := 0 }⟩
  else refilled empty.slots s.hashed

/-- The position of the item that is taken out next. -/
def firstOut (s : Slotted α) : Nat :=
  let start := s.slots.next % s.slots.count
  let n := s.slots.taken.findIdx fun e => start ≤ e.1
  if n < s.slots.taken.length then n else 0

/-- **An item taken out**; the next one is looked for behind its slot. -/
def popped (s : Slotted α) : Option (α × Slotted α) :=
  let n := s.firstOut
  (s.items[n]?).map fun a =>
    let slot := ((s.slots.taken[n]?).map Prod.fst).getD 0
    let t := s.without n
    (a, { t with slots := { t.slots with next := slot + 1 } })

end Slotted

end Narrowing
