/-
**What was used last.**

A shelf holds values under the keys that were used last, at most `Shelf.capacity` of them, the least
recently used first. Using a key gives the value it has, or a new one that takes the place of the least
recently used. In this way there is one cache for each source.
-/

import ContractRisk.Cache

namespace ContractRisk

/-- Values under keys, the least recently used first. -/
abbrev Shelf (κ β : Type) := List (κ × β)

namespace Shelf

variable {κ β : Type} [DecidableEq κ]

/-- How many values are held at a time. -/
def capacity : Nat := 16

/-- The shelf without the value of a key. -/
def without (shelf : Shelf κ β) (key : κ) : Shelf κ β := shelf.filter (·.1 ≠ key)

/-- The values that were used last, as many as there is room for. -/
def trim (shelf : Shelf κ β) : Shelf κ β := shelf.drop (shelf.length - capacity)

/-- A value as the one that was used last. -/
def touch (shelf : Shelf κ β) (key : κ) (value : β) : Shelf κ β :=
  shelf.without key ++ [(key, value)]

/-- A value as the one that was used last, for which others may have to go. -/
def put (shelf : Shelf κ β) (key : κ) (value : β) : Shelf κ β := trim (shelf.touch key value)

/-- The value of a key, the fresh one if it has none, and the shelf after its use. -/
def use (shelf : Shelf κ β) (key : κ) (fresh : β) : β × Shelf κ β :=
  match shelf.lookup key with
  | some value => (value, shelf.touch key value)
  | none => (fresh, shelf.put key fresh)

end Shelf

end ContractRisk
