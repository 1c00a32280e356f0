/-
**What is done while a batch goes on.**

A cache in use is in order as long as flights take their steps in turn (`Deed.inTurn`, `InUse`). If
besides nobody gives up the calls of a batch (`Traffic.spares`), no slot of it is lost by anything that is
done, and whatever its members have asked stays asked (`Asked`).

* `InUse.act`: deeds in turn keep all in order;
* `Asked.lasting`: a call is one that was made and not given up;
* `Underway.act`, `Underway.acts`: deeds that spare a batch leave it staffed.
-/

import ContractRisk.Proofs.Cache.Ledger
import ContractRisk.Proofs.Cache.Outcomes
import ContractRisk.Proofs.Cache.Seats

namespace ContractRisk

variable {σ τ : Type}

/-! ### Events that leave flights alone -/

/-- Whether an event leaves the flights as they are: entries are dropped, time passes, or a caller gives
up. -/
def Cache.Event.keepsFlights : Cache.Event τ → Bool
  | .cancel _ | .clear | .advance _ => true
  | _ => false

/-- Whether flights take no step out of turn by a deed. -/
def Deed.inTurn : Deed τ → Bool
  | .outOfTurn event => event.keepsFlights
  | _ => true

/-- The calls of a batch are given up one after the other. -/
def Batch.cancels (batch : Batch) : List (Cache.Event τ) := batch.calls.map fun entry => .cancel entry.2

theorem Batch.cancels_keepFlights (batch : Batch) :
    ∀ event ∈ (batch.cancels : List (Cache.Event τ)), event.keepsFlights = true := by
  intro event member
  obtain ⟨entry, _, rfl⟩ := List.mem_map.mp member
  rfl

namespace Cache

section

variable [Add τ] [Sub τ] [LE τ] [DecidableLE τ] {origin cache : Cache τ}

theorem step_aside (cache : Cache τ) {event : Event τ} (aside : event.keepsFlights = true) :
    (cache.step event).flights = cache.flights ∧
      (cache.step event).calls.length = cache.calls.length ∧
      ∀ call, event ≠ .cancel call → (cache.step event).calls[call]? = cache.calls[call]? := by
  cases event with
  | cancel call =>
    have flights : (cache.cancel call).flights = cache.flights := by rw [cancel_eq]
    refine ⟨flights, cache.cancel_length call, fun other stays => ?_⟩
    refine (cache.cancel_calls call other).trans (if_neg ?_)
    rintro rfl
    exact stays rfl
  | clear => exact ⟨rfl, rfl, fun _ _ => rfl⟩
  | advance span => exact ⟨rfl, rfl, fun _ _ => rfl⟩
  | _ => cases aside

/-- **Events that leave flights alone** leave each call as it is, unless its caller gives up. -/
theorem run_aside (cache : Cache τ) {events : List (Event τ)}
    (aside : ∀ event ∈ events, event.keepsFlights = true) :
    (cache.run events).flights = cache.flights ∧
      (cache.run events).calls.length = cache.calls.length ∧
      ∀ call, (∀ event ∈ events, event ≠ .cancel call) →
        (cache.run events).calls[call]? = cache.calls[call]? := by
  induction events generalizing cache with
  | nil => exact ⟨rfl, rfl, fun _ _ => rfl⟩
  | cons event rest ih =>
    obtain ⟨flights, length, calls⟩ := cache.step_aside (aside event List.mem_cons_self)
    obtain ⟨flights', length', calls'⟩ := ih (cache.step event)
      fun later member => aside later (List.mem_cons_of_mem _ member)
    refine ⟨flights'.trans flights, length'.trans length, fun call stays => ?_⟩
    exact (calls' call fun later member => stays later (List.mem_cons_of_mem _ member)).trans
      (calls call (stays event List.mem_cons_self))

/-! ### Calls that were made -/

/-- **A call that was made** for a request, at some time in the life of a cache, and not given up since. -/
def Asked (origin cache : Cache τ) (request : Request) (call : Nat) : Prop :=
  ∃ earlier later : List (Event τ), (origin.run earlier).calls.length = call ∧
    cache = ((origin.run earlier).call request.address request.limit).run later ∧
    ∀ event ∈ later, event ≠ .cancel call

theorem Asked.run {request : Request} {call : Nat} (asked : Asked origin cache request call)
    {events : List (Event τ)} (stays : ∀ event ∈ events, event ≠ .cancel call) :
    Asked origin (cache.run events) request call := by
  obtain ⟨earlier, later, number, rfl, stays'⟩ := asked
  refine ⟨earlier, later ++ events, number, (run_append _ later events).symm, fun event member => ?_⟩
  rcases List.mem_append.mp member with before | after
  · exact stays' event before
  · exact stays event after

theorem Asked.proceeds {request : Request} {call : Nat} {after : Cache τ}
    (asked : Asked origin cache request call) (proceeds : cache.Proceeds after) :
    Asked origin after request call := by
  obtain ⟨events, rfl, stays⟩ := proceeds
  exact asked.run fun event member => stays event member call

/-- **A call that was made is served**, and has what it is owed if every reply is good. -/
theorem Asked.serves {good : String → Outcome → Prop}
    (always : ∀ reply address limit, good address (Reply.outcome address limit reply))
    {limits : Limits τ} {now : τ} {request : Request} {call : Nat}
    (asked : Asked { limits, now } cache request call) : Serves good cache request.address call := by
  obtain ⟨earlier, later, rfl, rfl, stays⟩ := asked
  have tidy := run_tidy (tidy_empty limits now) earlier
  obtain ⟨vouched, _⟩ := run_vouched always limits now earlier
  have called : Truthful good (({ limits, now } : Cache τ).run earlier)
      (.call request.address request.limit) := trivial
  exact run_serves always (tidy.call request.address request.limit)
    (step_vouched tidy vouched called) (call_serves tidy vouched request.address request.limit) stays

theorem Asked.lasting (limits : Limits τ) (now : τ) :
    Traffic.Lasting (Asked ({ limits, now } : Cache τ)) ({ limits, now } : Cache τ).Reaches where
  present := by
    intro cache request call asked
    have serves : Serves (fun _ _ => True) cache request.address call :=
      asked.serves fun _ _ _ => trivial
    exact serves.present
  made := by
    rintro _ ⟨events, rfl⟩ request
    exact ⟨events, [], rfl, rfl, fun _ member => nomatch member⟩
  lasts := fun cache _ request _ _ asked => asked.proceeds (.call cache request.address request.limit)
  kept := fun cache reaches request =>
    reaches.trans (Proceeds.call cache request.address request.limit).reaches

end

end Cache

namespace Traffic

open Cache

/-! ### Deeds in turn -/

section

variable [Add τ] [Sub τ] [LE τ] [DecidableLE τ] {origin : Cache τ} {traffic : Traffic σ τ}

/-- **A cache in use**, with all that is going on in order: every flight has its next leg, and the
bookings of the batches are kept. -/
structure InUse (origin : Cache τ) (traffic : Traffic σ τ) : Prop where
  reaches : origin.Reaches traffic.cache
  orderly : Orderly traffic
  booked : Booked traffic

/-- Events happen that leave flights alone. -/
theorem InUse.run (inUse : InUse origin traffic) {events : List (Event τ)}
    (aside : ∀ event ∈ events, event.keepsFlights = true) :
    InUse origin { traffic with cache := traffic.cache.run events } := by
  obtain ⟨flights, calls, _⟩ := traffic.cache.run_aside aside
  refine ⟨inUse.reaches.trans ⟨events, rfl⟩, ⟨run_tidy inUse.orderly.tidy events, ?_⟩, ?_⟩
  · show traffic.legs.Perm ((traffic.cache.run events).flights.map Flight.leg)
    rw [flights]
    exact inUse.orderly.legs
  · refine inUse.booked.frame ?_ ?_ ?_
    · rfl
    · exact fun _ _ _ queued => queued
    · exact Nat.le_of_eq calls.symm

/-- The callers of a batch give up one after the other. -/
theorem cancelBatch_found {number : Nat} {batch : Batch}
    (found : traffic.batches[number]? = some batch) :
    traffic.cancelBatch number = { traffic with
      cache := traffic.cache.run batch.cancels
      batches := traffic.batches.set number { batch with waiting := [], cancelled := true } } := by
  unfold cancelBatch Cache.run Batch.cancels
  rw [found, List.foldl_map]
  rfl

theorem InUse.cancelBatch (inUse : InUse origin traffic) (number : Nat) :
    InUse origin (traffic.cancelBatch number) := by
  cases found : traffic.batches[number]? with
  | none =>
    unfold Traffic.cancelBatch
    rw [found]
    exact inUse
  | some batch =>
    have cancelled := inUse.run batch.cancels_keepFlights
    rw [cancelBatch_found found]
    exact ⟨cancelled.reaches, cancelled.orderly.batches _, cancelled.booked.set found rfl⟩

variable [Source σ]

theorem InUse.move (inUse : InUse origin traffic) {next : Traffic σ τ} (move : Move traffic next) :
    InUse origin next :=
  ⟨inUse.reaches.trans (move_proceeds move).reaches, inUse.orderly.move move, inUse.booked.move move⟩

/-- **Deeds in turn** keep all that is going on in order. -/
theorem InUse.act (inUse : InUse origin traffic) {deed : Deed τ} (inTurn : deed.inTurn = true) :
    InUse origin (traffic.act deed) := by
  obtain ⟨reaches, orderly, booked⟩ := inUse
  cases deed with
  | get request =>
    exact ⟨reaches.trans (traffic.call_proceeds request).reaches, orderly.call request,
      booked.call request⟩
  | batch slots requests =>
    exact ⟨reaches.trans (traffic.start_proceeds slots requests).reaches,
      orderly.start slots requests, booked.start slots requests⟩
  | turns count =>
    exact takeTurns_kept (InUse origin) (fun _ _ inUse move => inUse.move move) count
      ⟨reaches, orderly, booked⟩
  | letGo address reply =>
    refine ⟨?_, orderly.letGo address reply, booked.letGo address reply⟩
    show origin.Reaches (traffic.letGo address reply).cache
    rwa [letGo_cache]
  | cancelBatch number => exact InUse.cancelBatch ⟨reaches, orderly, booked⟩ number
  | outOfTurn event =>
    have aside : ∀ other ∈ [event], other.keepsFlights = true :=
      fun other member => List.mem_singleton.mp member ▸ inTurn
    exact InUse.run ⟨reaches, orderly, booked⟩ aside

theorem InUse.acts (inUse : InUse origin traffic) {deeds : List (Deed τ)}
    (inTurn : ∀ deed ∈ deeds, deed.inTurn = true) : InUse origin (traffic.acts deeds) := by
  induction deeds generalizing traffic with
  | nil => exact inUse
  | cons deed rest ih =>
    exact ih (inUse.act (inTurn deed List.mem_cons_self))
      fun later member => inTurn later (List.mem_cons_of_mem _ member)

end

/-! ### Deeds that spare a batch -/

/-- Whether nobody gives up a call of a batch by a deed. -/
def spares (traffic : Traffic σ τ) (number : Nat) : Deed τ → Bool
  | .cancelBatch other => other != number
  | .outOfTurn (.cancel call) =>
    !(traffic.batches[number]?).any fun batch => batch.calls.any (·.2 = call)
  | _ => true

/-- Whether deeds are in turn and nobody gives up a call of a batch by them. -/
def sparesThrough [Add τ] [Sub τ] [LE τ] [DecidableLE τ] [Source σ] (traffic : Traffic σ τ)
    (number : Nat) : List (Deed τ) → Bool
  | [] => true
  | deed :: rest =>
    deed.inTurn && traffic.spares number deed && (traffic.act deed).sparesThrough number rest

/-! ### A batch under way -/

section

variable [Add τ] [Sub τ] [LE τ] [DecidableLE τ] {origin : Cache τ} {traffic : Traffic σ τ}

/-- **A batch that is under way** at a cache in use, with what its members have asked. -/
structure Underway (limits : Limits τ) (now : τ) (number : Nat) (requests : List (Option Request))
    (traffic : Traffic σ τ) : Prop where
  inUse : InUse { limits, now } traffic
  staffed : ∃ batch, Staffed (Asked { limits, now }) number requests (· < requests.length) traffic batch

variable {limits : Limits τ} {now : τ} {number : Nat} {requests : List (Option Request)}
  {due : Nat → Prop} {batch : Batch}

/-- Callers that give up leave a batch staffed, if they are none of its own. -/
theorem Staffed.run (staffed : Staffed (Asked origin) number requests due traffic batch)
    {events : List (Event τ)} (aside : ∀ event ∈ events, event.keepsFlights = true)
    (stays : ∀ entry ∈ batch.calls, ∀ event ∈ events, event ≠ .cancel entry.2) :
    Staffed (Asked origin) number requests due { traffic with cache := traffic.cache.run events }
      batch := by
  obtain ⟨_, _, calls⟩ := traffic.cache.run_aside aside
  refine staffed.aside ⟨rfl, fun _ _ => Iff.rfl, fun _ => id, ?_⟩ fun entry noted _ asked =>
    asked.run (stays entry noted)
  intro batch' found entry noted flight waits
  obtain rfl : batch = batch' := Option.some.inj (staffed.found.symm.trans found)
  exact .inl ((calls entry.2 (stays entry noted)).trans waits)

/-- Another batch that is given up leaves a batch staffed. -/
theorem Staffed.cancelBatch (staffed : Staffed (Asked origin) number requests due traffic batch)
    (booked : Booked traffic) {other : Nat} (apart : other ≠ number) :
    Staffed (Asked origin) number requests due (traffic.cancelBatch other) batch := by
  cases found : traffic.batches[other]? with
  | none =>
    unfold Traffic.cancelBatch
    rw [found]
    exact staffed
  | some theirs =>
    rw [cancelBatch_found found]
    refine (staffed.run theirs.cancels_keepFlights fun entry noted event member => ?_).aside
      (.set apart _) fun _ _ _ => id
    -- no call is noted by both
    rintro rfl
    obtain ⟨call, noted', same⟩ := List.mem_map.mp member
    exact apart (booked.apart other number theirs batch found staffed.found call noted' entry noted
      (Event.cancel.inj same))

/-- **A batch that starts with a slot** is under way. -/
theorem InUse.start (inUse : InUse { limits, now } traffic) {slots : Option Nat} (room : slots ≠ some 0)
    (requests : List (Option Request)) :
    Underway limits now traffic.batches.length requests (traffic.start slots requests) where
  inUse := ⟨inUse.reaches.trans (traffic.start_proceeds slots requests).reaches,
    inUse.orderly.start slots requests, inUse.booked.start slots requests⟩
  staffed := inUse.booked.staffed (Asked.lasting limits now) inUse.reaches room requests

variable [Source σ]

theorem Underway.move (underway : Underway limits now number requests traffic) {next : Traffic σ τ}
    (move : Move traffic next) : Underway limits now number requests next := by
  obtain ⟨inUse, batch, staffed⟩ := underway
  exact ⟨inUse.move move, staffed.move (Asked.lasting limits now) inUse.reaches inUse.orderly inUse.booked
    move fun _ _ _ asked => asked.proceeds (move_proceeds move)⟩

/-- **A deed that spares a batch** leaves it under way. -/
theorem Underway.act (underway : Underway limits now number requests traffic) {deed : Deed τ}
    (inTurn : deed.inTurn = true) (spares : traffic.spares number deed = true) :
    Underway limits now number requests (traffic.act deed) := by
  have inUse := underway.inUse.act inTurn
  obtain ⟨⟨reaches, orderly, booked⟩, batch, staffed⟩ := underway
  cases deed with
  | get request =>
    exact ⟨inUse, batch, staffed.aside (.call request) fun _ _ _ asked =>
      asked.proceeds (traffic.call_proceeds request)⟩
  | batch slots requests =>
    have there := (List.getElem?_eq_some_iff.mp staffed.found).1
    exact ⟨inUse, batch, staffed.aside (.start there slots requests) fun _ _ _ asked =>
      asked.proceeds (traffic.start_proceeds slots requests)⟩
  | turns count =>
    exact takeTurns_kept _ (fun _ _ underway move => underway.move move) count
      ⟨⟨reaches, orderly, booked⟩, batch, staffed⟩
  | letGo address reply =>
    refine ⟨inUse, batch, staffed.aside (.letGo address reply) ?_⟩
    show Lasts _ batch traffic.cache (traffic.letGo address reply).cache
    rw [letGo_cache]
    exact fun _ _ _ => id
  | cancelBatch other =>
    exact ⟨inUse, batch, staffed.cancelBatch booked (bne_iff_ne.mp spares)⟩
  | outOfTurn event =>
    have aside : ∀ other ∈ [event], other.keepsFlights = true :=
      fun other member => List.mem_singleton.mp member ▸ inTurn
    refine ⟨inUse, batch, staffed.run aside ?_⟩
    · intro entry noted other member same
      cases List.mem_singleton.mp member
      subst same
      change (!(traffic.batches[number]?).any fun batch => batch.calls.any (·.2 = entry.2)) = true at spares
      rw [staffed.found, Bool.not_eq_true'] at spares
      exact List.any_eq_false.mp spares entry noted (decide_eq_true rfl)

theorem Underway.acts (underway : Underway limits now number requests traffic) {deeds : List (Deed τ)}
    (spares : traffic.sparesThrough number deeds = true) :
    Underway limits now number requests (traffic.acts deeds) := by
  induction deeds generalizing traffic with
  | nil => exact underway
  | cons deed rest ih =>
    obtain ⟨own, later⟩ := Bool.and_eq_true_iff.mp spares
    obtain ⟨inTurn, own⟩ := Bool.and_eq_true_iff.mp own
    exact ih (underway.act inTurn own) later

end

end Traffic

end ContractRisk
