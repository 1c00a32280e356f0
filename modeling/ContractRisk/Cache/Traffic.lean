/-
**What goes on at a cache.**

`Traffic` is a cache, the source behind it, and a queue of turns. A turn carries out one step of the
cache and puts the turns that follow from it at the end of the queue; some have to pass the head of
the queue several times first. `Traffic.settle` takes turns until none is left and fetches that
ran out of time have been given up. No turn is taken in vain: each costs part of `Traffic.effort`,
which bounds their number.

A batch has a number of slots. Its members start in order while there are slots, and a member that
has its answer passes its slot on to the next one that waits.
-/

import ContractRisk.Cache.Source

namespace ContractRisk

/-- A question that a member of a batch asks the cache. -/
structure Request where
  address : Value
  limit : Option Number

/-- What is to happen next. -/
inductive Turn where
  | begin (flight : Nat)
  | enter (flight : Nat)
  | finish (flight : Nat) (reply : Reply)
  | release (flight : Nat)
  | resume (call : Nat)
  | seat (batch place : Nat) (request : Option Request)

/-- Several questions that are asked side by side. A member without a question is done as soon as it
has a slot. -/
structure Batch where
  members : List (Option Request)
  /-- The slots that are free; without a number there is no bound. -/
  free : Option Nat
  /-- The members that wait for a slot, each with its place. -/
  waiting : List (Nat × Option Request)
  /-- The calls of the members, by place. -/
  calls : List (Nat × Nat)
  cancelled : Bool

/-- A cache with its source and all that is going on. -/
structure Traffic (σ τ : Type) where
  cache : Cache τ
  source : σ
  /-- The addresses for which the source was asked. -/
  asked : List String := []
  queue : List (Nat × Turn) := []
  /-- The flights that have no response yet, and whether it is held back. -/
  parked : List (Nat × Bool) := []
  batches : List Batch := []

namespace Traffic

variable {σ τ : Type}

/-! ### How much is left to do -/

/-- The cost of a turn with all that follows from it. -/
def cost : Turn → Nat
  | .release _ | .resume _ => 1
  | .finish _ _ => 2
  | .enter _ => 4
  | .begin _ => 5
  | .seat _ _ _ => 7

/-- Whether a call waits. -/
def isWaiting : Cache.Status → Bool
  | .waiting _ => true
  | _ => false

/-- A bound on the turns that are left. -/
def effort (traffic : Traffic σ τ) : Nat :=
  traffic.queue.foldr (fun (wait, turn) rest => wait + cost turn + rest) 0 +
    3 * traffic.parked.length + (traffic.cache.calls.filter isWaiting).length +
    traffic.batches.foldr (fun batch rest => 7 * batch.waiting.length + rest) 0

/-! ### Flights -/

/-- A turn is put at the end of the queue, behind others `wait` times more. -/
def push (traffic : Traffic σ τ) (wait : Nat) (turn : Turn) : Traffic σ τ :=
  { traffic with queue := traffic.queue ++ [(wait, turn)] }

/-- A flight has a reply. -/
def finish (traffic : Traffic σ τ) (flight : Nat) (reply : Reply) : Traffic σ τ :=
  { traffic with cache := traffic.cache.finish flight reply }.push 0 (.release flight)

/-- The source is asked for a flight. A fetch within a time limit passes its reply on later than one
without. -/
def enter [Source σ] (traffic : Traffic σ τ) (flight : Cache.Flight) : Traffic σ τ :=
  let (response, source) := Source.ask traffic.source flight.address
  let traffic := { traffic with source, asked := traffic.asked ++ [flight.address] }
  match response with
  | .reply reply =>
    if flight.limit.isNone then traffic.finish flight.number reply
    else traffic.push 1 (.finish flight.number reply)
  | .silent => { traffic with parked := traffic.parked ++ [(flight.number, false)] }
  | .held => { traffic with parked := traffic.parked ++ [(flight.number, true)] }

/-- A flight starts. Without time there is no fetch at all. -/
def begin [Source σ] (traffic : Traffic σ τ) (flight : Cache.Flight) : Traffic σ τ :=
  let traffic := { traffic with cache := traffic.cache.begin flight.number }
  match flight.limit with
  | none => traffic.enter flight
  | some limit =>
    if limit ≤ 0 then traffic.push 2 (.finish flight.number .overdue)
    else traffic.push 0 (.enter flight.number)

/-- The calls that waited for a flight go on. -/
def release (traffic : Traffic σ τ) (flight : Nat) : Traffic σ τ :=
  let calls := traffic.cache.waitingFor flight
  { traffic with
    cache := traffic.cache.release flight
    queue := traffic.queue ++ calls.map fun call => (0, .resume call) }

/-! ### Calls and batches -/

section

variable [Sub τ] [LE τ] [DecidableLE τ]

/-- A call, whose flight is started if it opens one. -/
def call (traffic : Traffic σ τ) (request : Request) : Traffic σ τ :=
  let cache := traffic.cache.call request.address request.limit
  let next := { traffic with cache }
  if traffic.cache.opened < cache.opened then next.push 0 (.begin traffic.cache.opened) else next

/-- The slot of a member that is done goes to the next member that waits, or is free. -/
def leave (traffic : Traffic σ τ) (number : Nat) : Traffic σ τ :=
  match traffic.batches[number]? with
  | none => traffic
  | some batch =>
    match batch.waiting with
    | [] =>
      { traffic with
        batches := traffic.batches.set number { batch with free := batch.free.map (· + 1) } }
    | (place, request) :: rest =>
      { traffic with
        batches := traffic.batches.set number { batch with waiting := rest } }.push 0
          (.seat number place request)

/-- A member that has a slot asks its question. -/
def seat (traffic : Traffic σ τ) (number place : Nat) : Option Request → Traffic σ τ
  | none => traffic.leave number
  | some request =>
    let call := traffic.cache.calls.length
    let next := traffic.call request
    let next := { next with
      batches := next.batches.modify number fun batch =>
        { batch with calls := batch.calls ++ [(place, call)] } }
    if (next.cache.answer? call).isSome then next.leave number else next

/-- A member comes up: it takes a free slot if no other waits for one, or waits. -/
def arrive (traffic : Traffic σ τ) (number place : Nat) (request : Option Request) :
    Traffic σ τ :=
  match traffic.batches[number]? with
  | none => traffic
  | some batch =>
    if batch.free = some 0 || !batch.waiting.isEmpty then
      { traffic with
        batches := traffic.batches.set number
          { batch with waiting := batch.waiting ++ [(place, request)] } }
    else
      { traffic with
        batches := traffic.batches.set number
          { batch with free := batch.free.map (· - 1) } }.seat number place request

/-- A batch with slots, whose members come up one after the other. -/
def start (traffic : Traffic σ τ) (slots : Option Nat) (requests : List (Option Request)) :
    Traffic σ τ :=
  let number := traffic.batches.length
  let batch : Batch :=
    { members := requests, free := slots, waiting := [], calls := [], cancelled := false }
  let next := { traffic with batches := traffic.batches ++ [batch] }
  (requests.zipIdx).foldl (fun traffic (request, place) => traffic.arrive number place request) next

/-- A call has its answer; the member of a batch that made it is done. -/
def resume (traffic : Traffic σ τ) (call : Nat) : Traffic σ τ :=
  match traffic.batches.findIdx? fun batch => batch.calls.any (·.2 = call) with
  | some number => traffic.leave number
  | none => traffic

/-! ### Turns -/

variable [Source σ]

/-- A turn is taken. -/
def take (traffic : Traffic σ τ) : Turn → Traffic σ τ
  | .begin flight => ((traffic.cache.flight? flight).map traffic.begin).getD traffic
  | .enter flight => ((traffic.cache.flight? flight).map traffic.enter).getD traffic
  | .finish flight reply => traffic.finish flight reply
  | .release flight => traffic.release flight
  | .resume call => traffic.resume call
  | .seat batch place request => traffic.seat batch place request

/-- Whether a flight has a time limit. -/
def isLimited (traffic : Traffic σ τ) (flight : Nat) : Bool :=
  (traffic.cache.flight? flight).any (·.limit.isSome)

/-- The flights without a response that can run out of time. -/
def late (traffic : Traffic σ τ) : List (Nat × Bool) :=
  traffic.parked.filter fun (flight, held) => !held && traffic.isLimited flight

/-- Those flights run out of time. -/
def giveUp (traffic : Traffic σ τ) : Traffic σ τ :=
  { traffic with
    parked := traffic.parked.filter fun (flight, held) => held || !traffic.isLimited flight
    queue := traffic.queue ++ traffic.late.map fun (flight, _) => (0, .finish flight .overdue) }

/-- Turns are taken while there are any, at most as many as `fuel` counts. -/
def takeTurns : Nat → Traffic σ τ → Traffic σ τ
  | 0, traffic => traffic
  | fuel + 1, traffic =>
    match traffic.queue with
    | (0, turn) :: rest => takeTurns fuel ({ traffic with queue := rest }.take turn)
    | (wait + 1, turn) :: rest =>
      takeTurns fuel { traffic with queue := rest ++ [(wait, turn)] }
    | [] => if traffic.late.isEmpty then traffic else takeTurns fuel traffic.giveUp

/-- All turns are taken until nothing can move. -/
def settle (traffic : Traffic σ τ) : Traffic σ τ := takeTurns traffic.effort traffic

end

/-! ### Entry points -/

/-- The slots that a bound stands for. A count that is not whole is never used up. -/
def slots : Number → Option Nat
  | .int n => some n.toNat
  | .float x =>
    if x.isFinite && (Decimal.exactly x).den = 1 then some (Decimal.exactly x).num.toNat else none

/-- The outcomes of the members of a batch by place, as far as they have one. -/
def outcomes (traffic : Traffic σ τ) (number : Nat) : List (Option Outcome) :=
  match traffic.batches[number]? with
  | none => []
  | some batch => (List.range batch.members.length).map fun place =>
    (batch.calls.lookup place).bind traffic.cache.answer?

/-- Whether the callers of a batch gave up. -/
def isCancelled (traffic : Traffic σ τ) (number : Nat) : Bool :=
  (traffic.batches[number]?).any (·.cancelled)

/-- The callers of a batch give up, and no further member starts. -/
def cancelBatch (traffic : Traffic σ τ) (number : Nat) : Traffic σ τ :=
  match traffic.batches[number]? with
  | none => traffic
  | some batch =>
    { traffic with
      cache := batch.calls.foldl (fun cache (_, call) => cache.cancel call) traffic.cache
      batches := traffic.batches.set number { batch with waiting := [], cancelled := true } }

/-- The reply to the oldest fetch for an address that is held back is let go. -/
def letGo (traffic : Traffic σ τ) (address : String) (reply : Reply) : Traffic σ τ :=
  let isFor (parked : Nat × Bool) : Bool :=
    parked.2 && (traffic.cache.flight? parked.1).any (·.address = address)
  match traffic.parked.find? isFor with
  | none => traffic
  | some (flight, _) =>
    let limited := (traffic.cache.flight? flight).any (·.limit.isSome)
    { traffic with parked := traffic.parked.filter (·.1 ≠ flight) }.push
      (if limited then 2 else 0) (.finish flight reply)

end Traffic

end ContractRisk
