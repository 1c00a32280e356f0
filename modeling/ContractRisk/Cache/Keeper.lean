/-
**The keeper of the caches**, one for each source that is given.

A source is an object that fetches codes or can be called, or a method bound to an object. A bound method
is made anew whenever it is named, so it goes by its object and its function, and any other source by
itself. The keeper tells sources apart by the places of these objects in memory (`Reference.key`). Places
are taken over by later objects; so whoever holds a cache also holds the object by which it is found
(`Held.owner`).
-/

import ContractRisk.Cache.Shelf

namespace ContractRisk

/-- What an object can be used for, by the name of its type if for nothing. -/
inductive Ability where
  | fetches
  | callable
  | neither (kind : String)

/-- All objects that there ever are, by number, with the places where they lie while they exist. -/
structure Objects where
  place : Nat → Nat
  ability : Nat → Ability

/-- What is given as a source: an object, or a function bound to one. -/
inductive Reference where
  | object (number : Nat)
  | method (number function : Nat)
deriving DecidableEq

/-- What is called for the code at an address: the method of an object that fetches codes, or what was
given itself. -/
inductive Fetcher where
  | method (number : Nat)
  | given (reference : Reference)
deriving DecidableEq

namespace Reference

/-- The object by which a source is told apart. -/
def owner : Reference → Nat
  | .object number => number
  | .method number _ => number

/-- The function of a bound method. -/
def function? : Reference → Option Nat
  | .object _ => none
  | .method _ function => some function

/-- The key of a source: the place of its object, and its function. -/
def key (objects : Objects) (reference : Reference) : Nat × Option Nat :=
  (objects.place reference.owner, reference.function?)

/-- What is called for a source, if it is one. -/
def fetcher (objects : Objects) : Reference → Except Failure Fetcher
  | .object number =>
    match objects.ability number with
    | .fetches => .ok (.method number)
    | .callable => .ok (.given (.object number))
    | .neither kind => .error (.refused (.notSource kind))
  | .method number function => .ok (.given (.method number function))

end Reference

/-- A cache that is held, with what it calls and with the object by which it is found. Caches are numbered
as they are made. -/
structure Held (τ : Type) where
  owner : Nat
  number : Nat
  fetcher : Fetcher
  cache : Cache τ

/-- The caches that are held, and the count of those that were made. -/
structure Keeper (τ : Type) where
  shelf : Shelf (Nat × Option Nat) (Held τ) := []
  made : Nat := 0

namespace Keeper

variable {τ : Type}

/-- The cache of a source, a fresh one if it has none. What is no source has none. -/
def cacheFor (objects : Objects) (keeper : Keeper τ) (given : Reference) (fresh : Cache τ) :
    Except Failure (Held τ) × Keeper τ :=
  let key := given.key objects
  match keeper.shelf.lookup key with
  | some held => (.ok held, { keeper with shelf := keeper.shelf.touch key held })
  | none =>
    match given.fetcher objects with
    | .error failure => (.error failure, keeper)
    | .ok fetcher =>
      let held : Held τ := { owner := given.owner, number := keeper.made, fetcher, cache := fresh }
      (.ok held, { shelf := keeper.shelf.put key held, made := keeper.made + 1 })

/-- The caches after something has happened at one of them. -/
def update (keeper : Keeper τ) (number : Nat) (cache : Cache τ) : Keeper τ :=
  { keeper with
    shelf := keeper.shelf.map fun (key, held) =>
      (key, if held.number = number then { held with cache } else held) }

end Keeper

end ContractRisk
