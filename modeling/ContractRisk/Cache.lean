/-
**A cache of contract code**, bounded in size and in the age of its entries.

A call asks for the code at an address in any case of its letters. An entry that is young enough
answers at once. Otherwise the call misses: it joins the flight that is registered for the address,
or opens one and registers it, so that no address is fetched twice at a time. The steps are

* `Cache.call` — someone asks for the code at an address;
* `Cache.begin`, `Cache.finish` — a flight starts to fetch, and has a reply. A code is stored, and the
  entries that were used least recently make room for it;
* `Cache.release` — a finished flight gives up its registration and answers the calls that wait;
* `Cache.cancel` — a caller gives up; the flight goes on for the others;
* `Cache.clear`, `Cache.advance` — all entries are dropped; time passes.

Time is any kind of number with a sum, a difference and an order.
-/

import ContractRisk.Failure

namespace ContractRisk

/-- What a call comes to: the canonical text of a code, or a failure. -/
abbrev Outcome := Except Failure String

/-- What a fetch comes to. -/
inductive Reply where
  /-- The source gave a value. -/
  | returned (value : Value)
  /-- The source failed. -/
  | raised (failure : Failure)
  /-- The source did not answer in time. -/
  | overdue

/-- The outcome of a fetch for an address within a time limit. A failure that is no ordinary one goes
through as it is, but that a cancellation loses its text. -/
def Reply.outcome (address : String) (limit : Option Number) : Reply → Outcome
  | returned value => (Bytecode.canonical value).mapError .badCode
  | overdue => .error (.timedOut address limit)
  | raised failure =>
    if failure.kind = .timeout then .error (.timedOut address limit)
    else if failure.kind.isAnalysis then .error failure
    else if failure.kind = .cancelled then .error (.thrown .cancelled none)
    else if failure.isOrdinary then .error (.fetchFailed address failure)
    else .error failure

namespace Cache

/-- The bounds of a cache: the age at which an entry is too old, how many entries it holds, how many
fetches of one batch run at a time, and the time limit of a fetch. -/
structure Limits (τ : Type) where
  lifetime : τ
  size : Number
  concurrency : Number
  timeout : Option Number

/-- A stored code. -/
structure Entry (τ : Type) where
  address : String
  code : String
  storedAt : τ

/-- How often each thing happened. -/
structure Counters where
  hits : Nat := 0
  misses : Nat := 0
  fetches : Nat := 0
  shared : Nat := 0
  failures : Nat := 0
  evictions : Nat := 0
  expirations : Nat := 0
deriving DecidableEq

/-- The share of calls that an entry answered. -/
def Counters.hitRatio (counters : Counters) : Float :=
  let total := counters.hits + counters.misses
  if total = 0 then 0.0 else (counters.hits : Float) / (total : Float)

/-- How far a flight is. -/
inductive Phase where
  | opened
  | running
  | finished (outcome : Outcome)

/-- One fetch for an address, which several calls may wait for. -/
structure Flight where
  number : Nat
  address : String
  limit : Option Number
  phase : Phase

/-- How far a call is. -/
inductive Status where
  | waiting (flight : Nat)
  | answered (outcome : Outcome)
  | cancelled

end Cache

open Cache in
/-- A cache with all that is under way. Entries are in the order of their last use, the least recent
first; flights and calls are numbered in the order in which they came up. -/
structure Cache (τ : Type) where
  limits : Limits τ
  now : τ
  entries : List (Entry τ) := []
  counters : Counters := {}
  flights : List Flight := []
  registered : List (String × Nat) := []
  opened : Nat := 0
  calls : List Status := []

namespace Cache

variable {τ : Type}

/-- An empty cache, whose bounds must be at least one. -/
def create (limits : Limits τ) (now : τ) : Except Failure (Cache τ) :=
  if limits.size < 1 then .error (.misuse .cacheSize)
  else if limits.concurrency < 1 then .error (.misuse .cacheConcurrency)
  else .ok { limits, now }

/-! ### What is there -/

/-- The entry for an address. -/
def entry? (cache : Cache τ) (address : String) : Option (Entry τ) :=
  cache.entries.find? (·.address = address)

/-- The flight with a number. -/
def flight? (cache : Cache τ) (number : Nat) : Option Flight :=
  cache.flights.find? (·.number = number)

/-- The flight that is registered for an address. -/
def registered? (cache : Cache τ) (address : String) : Option Nat :=
  cache.registered.lookup address

/-- The outcome of a call, as soon as there is one. -/
def answer? (cache : Cache τ) (call : Nat) : Option Outcome :=
  match cache.calls[call]? with
  | some (.answered outcome) => some outcome
  | _ => none

/-- Whether a call was given up. -/
def isCancelled (cache : Cache τ) (call : Nat) : Bool :=
  match cache.calls[call]? with
  | some .cancelled => true
  | _ => false

/-- Whether a call waits for a flight. -/
def Status.waitsFor (flight : Nat) : Status → Bool
  | waiting number => number = flight
  | _ => false

/-- The calls that wait for a flight. -/
def waitingFor (cache : Cache τ) (flight : Nat) : List Nat :=
  (List.range cache.calls.length).filter fun call =>
    (cache.calls[call]?).any (Status.waitsFor flight)

/-- The addresses of the entries, the least recently used first. -/
def addresses (cache : Cache τ) : List String := cache.entries.map (·.address)

/-- The entries without the one for an address. -/
def without (entries : List (Entry τ)) (address : String) : List (Entry τ) :=
  entries.filter (·.address ≠ address)

section

variable [Sub τ] [LE τ] [DecidableLE τ]

/-- Whether an entry is too old. -/
def isExpired (cache : Cache τ) (entry : Entry τ) : Bool :=
  cache.limits.lifetime ≤ cache.now - entry.storedAt

/-- Whether the next call for an address is answered at once; the address is taken in lower case and
nothing counts as used. -/
def contains (cache : Cache τ) : Value → Bool
  | .text address => (cache.entry? (Text.lower address)).any (!cache.isExpired ·)
  | _ => false

end

/-! ### Calls -/

/-- One more call. -/
def addCall (cache : Cache τ) (status : Status) : Cache τ :=
  { cache with calls := cache.calls ++ [status] }

/-- A call that finds an entry, which becomes the most recently used. -/
def hit (cache : Cache τ) (entry : Entry τ) : Cache τ :=
  { cache with
    entries := without cache.entries entry.address ++ [entry]
    counters := { cache.counters with hits := cache.counters.hits + 1 } }.addCall
      (.answered (.ok entry.code))

/-- A call that joins a flight. -/
def join (cache : Cache τ) (flight : Nat) : Cache τ :=
  let status := match (cache.flight? flight).map (·.phase) with
    | some (.finished outcome) => .answered outcome
    | _ => .waiting flight
  { cache with
    counters := { cache.counters with
      misses := cache.counters.misses + 1
      shared := cache.counters.shared + 1 } }.addCall status

/-- A call that opens a flight and registers it. -/
def launch (cache : Cache τ) (address : String) (limit : Option Number) : Cache τ :=
  let flight : Flight :=
    { number := cache.opened, address, limit := limit <|> cache.limits.timeout, phase := .opened }
  { cache with
    counters := { cache.counters with misses := cache.counters.misses + 1 }
    flights := cache.flights ++ [flight]
    registered := (address, cache.opened) :: cache.registered
    opened := cache.opened + 1 }.addCall (.waiting cache.opened)

/-- A call that finds no entry of use. -/
def miss (cache : Cache τ) (address : String) (limit : Option Number) : Cache τ :=
  match cache.registered? address with
  | some flight => cache.join flight
  | none => cache.launch address limit

/-- The cache without an entry that is too old. -/
def expire (cache : Cache τ) (address : String) : Cache τ :=
  { cache with
    entries := without cache.entries address
    counters := { cache.counters with expirations := cache.counters.expirations + 1 } }

/-- A call for the code at an address, with a time limit if it differs from that of the cache. -/
def call [Sub τ] [LE τ] [DecidableLE τ] (cache : Cache τ) (address : Value)
    (limit : Option Number) : Cache τ :=
  match Address.normalize? address with
  | none => cache.addCall (.answered (.error (.refused .address)))
  | some address =>
    match cache.entry? address with
    | none => cache.miss address limit
    | some entry =>
      if cache.isExpired entry then (cache.expire address).miss address limit else cache.hit entry

/-- A caller gives up. -/
def cancel (cache : Cache τ) (call : Nat) : Cache τ :=
  match cache.calls[call]? with
  | some (.waiting _) => { cache with calls := cache.calls.set call .cancelled }
  | _ => cache

/-! ### Flights -/

/-- The flights with one of them in another phase. -/
def inPhase (flights : List Flight) (number : Nat) (phase : Phase) : List Flight :=
  flights.map fun flight => if flight.number = number then { flight with phase } else flight

/-- A flight starts to fetch. -/
def begin (cache : Cache τ) (number : Nat) : Cache τ :=
  match cache.flight? number with
  | some { phase := .opened, .. } =>
    { cache with
      flights := inPhase cache.flights number .running
      counters := { cache.counters with fetches := cache.counters.fetches + 1 } }
  | _ => cache

/-- The entries that remain within a size, and the count of those that have to go. -/
def evict (size : Number) : List (Entry τ) → List (Entry τ) × Nat
  | [] => ([], 0)
  | entry :: rest =>
    if size < ((rest.length + 1 : Nat) : Number) then
      let (kept, gone) := evict size rest
      (kept, gone + 1)
    else (entry :: rest, 0)

/-- A code is stored as the entry for its address. -/
def store (cache : Cache τ) (address code : String) : Cache τ :=
  let (kept, gone) := evict cache.limits.size
    (without cache.entries address ++ [⟨address, code, cache.now⟩])
  { cache with
    entries := kept
    counters := { cache.counters with evictions := cache.counters.evictions + gone } }

/-- What an outcome does to entries and counts. A failure that is no ordinary one is not counted. -/
def record (cache : Cache τ) (address : String) : Outcome → Cache τ
  | .ok code => cache.store address code
  | .error failure =>
    let failed := if failure.isOrdinary then 1 else 0
    { cache with counters := { cache.counters with failures := cache.counters.failures + failed } }

/-- A flight that fetches has a reply. -/
def finish (cache : Cache τ) (number : Nat) (reply : Reply) : Cache τ :=
  match cache.flight? number with
  | some { address, limit, phase := .running, .. } =>
    let outcome := reply.outcome address limit
    let cache := cache.record address outcome
    { cache with flights := inPhase cache.flights number (.finished outcome) }
  | _ => cache

/-- The calls with those that wait for a flight answered. -/
def answerAll (calls : List Status) (flight : Nat) (outcome : Outcome) : List Status :=
  calls.map fun status => if status.waitsFor flight then .answered outcome else status

/-- A finished flight gives up its registration, answers the calls that wait and is gone. -/
def release (cache : Cache τ) (number : Nat) : Cache τ :=
  match cache.flight? number with
  | some { phase := .finished outcome, .. } =>
    { cache with
      registered := cache.registered.filter (·.2 ≠ number)
      flights := cache.flights.filter (·.number ≠ number)
      calls := answerAll cache.calls number outcome }
  | _ => cache

/-! ### Upkeep -/

/-- All entries are dropped; what is under way goes on. -/
def clear (cache : Cache τ) : Cache τ := { cache with entries := [] }

/-- Time passes. -/
def advance [Add τ] (cache : Cache τ) (span : τ) : Cache τ :=
  { cache with now := cache.now + span }

end Cache

end ContractRisk
