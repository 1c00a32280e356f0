/-
**Asking a cache for one address or for many.**

`Traffic.fetch` is a single call, carried out until nothing can move. A batch asks for every address
of a collection once (`Traffic.startBatch`); whatever becomes of one address, the others go on, and
`BatchResult` files each address under its code or its failure, in the order in which the addresses
were given. A failure that is none of the analyzer's own is filed as the failed analysis that it is
taken for.
-/

import ContractRisk.Cache.Traffic

namespace ContractRisk

/-- What became of the addresses of a batch. -/
structure BatchResult where
  codes : List (Value × String)
  failures : List (Value × Failure)

namespace BatchResult

/-- The address with its code, if it has one. -/
def code? : Value × Outcome → Option (Value × String)
  | (address, .ok code) => some (address, code)
  | _ => none

/-- The address with its failure, if it has one. -/
def failure? : Value × Outcome → Option (Value × Failure)
  | (address, .error failure) => some (address, failure.filed)
  | _ => none

/-- Addresses with their outcomes, told apart. -/
def ofOutcomes (outcomes : List (Value × Outcome)) : BatchResult :=
  ⟨outcomes.filterMap code?, outcomes.filterMap failure?⟩

end BatchResult

/-- The keys of a collection, each once. -/
def distinctKeys (collection : Value) : Except Failure (List Value) := do
  return Value.distinct (← Value.keyable (← collection.items))

namespace Traffic

variable {σ τ : Type} [Sub τ] [LE τ] [DecidableLE τ]

/-- A batch for distinct addresses is started. -/
def startBatch (traffic : Traffic σ τ) (addresses : List Value) : Traffic σ τ :=
  traffic.start (slots traffic.cache.limits.concurrency)
    (addresses.map fun address => some ⟨address, none⟩)

/-- The addresses that a batch asks for. -/
def addressesOf (traffic : Traffic σ τ) (number : Nat) : List Value :=
  ((traffic.batches[number]?).map fun batch =>
    batch.members.map fun request => (request.map (·.address)).getD .null).getD []

/-- What became of a batch, as soon as all its members have an outcome. -/
def batchResult? (traffic : Traffic σ τ) (number : Nat) : Option BatchResult :=
  ((traffic.outcomes number).mapM id).map fun outcomes =>
    .ofOutcomes ((traffic.addressesOf number).zip outcomes)

variable [Source σ]

/-- A call for one address and its outcome. -/
def fetch (traffic : Traffic σ τ) (request : Request) : Traffic σ τ × Option Outcome :=
  let call := traffic.cache.calls.length
  let settled := (traffic.call request).settle
  (settled, settled.cache.answer? call)

/-- A batch for a collection of addresses and what became of it. -/
def fetchBatch (traffic : Traffic σ τ) (addresses : List Value) :
    Traffic σ τ × Option BatchResult :=
  let number := traffic.batches.length
  let settled := (traffic.startBatch addresses).settle
  (settled, settled.batchResult? number)

end Traffic

end ContractRisk
