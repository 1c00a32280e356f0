/-
**What happens at a cache, one event after the other.**

An `Event` is one thing that happens at a cache: a call, a move of a flight, a caller that gives up, a
clearance, or time that passes. Events come in any order (`Cache.run`); one that does not apply changes
nothing.

* `call_cases`: what a call can come to, said once;
* `run_tidy`: in every order of events flights are numbered as they were opened, there is one at most
  for each address, the registry lists exactly the flights, and whoever waits waits for a flight that is
  there (`Tidy`).
-/

import ContractRisk.Cache
import Mathlib.Data.List.Nodup

namespace ContractRisk

/-! ### Look-ups -/

section

variable {β γ : Type} [BEq β] [LawfulBEq β] {table : List (β × γ)} {key : β} {value : γ}

/-- What is found under a key stands there. -/
theorem mem_of_lookup (found : table.lookup key = some value) : (key, value) ∈ table := by
  obtain ⟨before, after, split, _⟩ := List.lookup_eq_some_iff.mp found
  rw [split]
  exact List.mem_append_right _ List.mem_cons_self

/-- What stands under a key is found there if keys are told apart. -/
theorem lookup_eq_some_iff_mem (distinct : (table.map (·.1)).Nodup) :
    table.lookup key = some value ↔ (key, value) ∈ table := by
  refine ⟨mem_of_lookup, fun member => ?_⟩
  cases found : table.lookup key with
  | none =>
    rw [List.lookup_eq_none_iff] at found
    exact absurd (found _ member) (by simp)
  | some other =>
    have same := List.inj_on_of_nodup_map distinct (mem_of_lookup found) member rfl
    rw [(Prod.mk.inj same).2]

end

/-- A table without one key has the other keys as before. -/
theorem lookup_without {β γ : Type} [DecidableEq β] (table : List (β × γ)) {key other : β}
    (apart : other ≠ key) : (table.filter (·.1 ≠ key)).lookup other = table.lookup other := by
  induction table with
  | nil => rfl
  | cons entry rest ih =>
    obtain ⟨first, value⟩ := entry
    by_cases same : first = key
    · rw [List.filter_cons_of_neg (by simpa using same), ih, List.lookup_cons,
        beq_false_of_ne (same ▸ apart)]
    · rw [List.filter_cons_of_pos (by simpa using same), List.lookup_cons, List.lookup_cons, ih]

namespace Cache

variable {τ : Type}

/-- The answer to a call is its outcome. -/
theorem answer?_eq_some {cache : Cache τ} {call : Nat} {outcome : Outcome} :
    cache.answer? call = some outcome ↔ cache.calls[call]? = some (.answered outcome) := by
  unfold answer?
  constructor
  · intro answer
    split at answer
    · rename_i other status
      cases answer
      exact status
    · cases answer
  · intro status
    rw [status]

/-- One thing that happens at a cache. -/
inductive Event (τ : Type) where
  /-- Someone asks for the code at an address. -/
  | call (given : Value) (limit : Option Number)
  /-- A flight starts to fetch. -/
  | begin (flight : Nat)
  /-- A flight that fetches has a reply. -/
  | finish (flight : Nat) (reply : Reply)
  /-- A finished flight gives up its registration. -/
  | release (flight : Nat)
  /-- A caller gives up. -/
  | cancel (call : Nat)
  /-- All entries are dropped. -/
  | clear
  /-- Time passes. -/
  | advance (span : τ)

section

variable [Add τ] [Sub τ] [LE τ] [DecidableLE τ]

/-- The cache after an event. -/
def step (cache : Cache τ) : Event τ → Cache τ
  | .call given limit => cache.call given limit
  | .begin flight => cache.begin flight
  | .finish flight reply => cache.finish flight reply
  | .release flight => cache.release flight
  | .cancel call => cache.cancel call
  | .clear => cache.clear
  | .advance span => cache.advance span

/-- The cache after events, the first of them first. -/
def run (cache : Cache τ) (events : List (Event τ)) : Cache τ := events.foldl step cache

variable (cache : Cache τ)

theorem run_append (first second : List (Event τ)) :
    cache.run (first ++ second) = (cache.run first).run second :=
  List.foldl_append

end

/-! ### What a call comes to -/

section

variable (cache : Cache τ) (address : String)

/-- The cache without the entry for an address, which is too old if there is one. -/
def dropStale : Cache τ := if (cache.entry? address).isSome then cache.expire address else cache

@[simp] theorem dropStale_flights : (cache.dropStale address).flights = cache.flights := by
  unfold dropStale
  split <;> rfl

@[simp] theorem dropStale_registered : (cache.dropStale address).registered = cache.registered := by
  unfold dropStale
  split <;> rfl

@[simp] theorem dropStale_opened : (cache.dropStale address).opened = cache.opened := by
  unfold dropStale
  split <;> rfl

@[simp] theorem dropStale_calls : (cache.dropStale address).calls = cache.calls := by
  unfold dropStale
  split <;> rfl

@[simp] theorem dropStale_limits : (cache.dropStale address).limits = cache.limits := by
  unfold dropStale
  split <;> rfl

@[simp] theorem dropStale_now : (cache.dropStale address).now = cache.now := by
  unfold dropStale
  split <;> rfl

@[simp] theorem registered?_dropStale (other : String) :
    (cache.dropStale address).registered? other = cache.registered? other := by
  unfold registered?
  rw [dropStale_registered]

/-- Whether there was an entry or not, there is none left. -/
@[simp] theorem dropStale_entries :
    (cache.dropStale address).entries = without cache.entries address := by
  unfold dropStale entry?
  split
  · rfl
  · rename_i missing
    rw [Option.not_isSome_iff_eq_none, List.find?_eq_none] at missing
    refine (List.filter_eq_self.mpr fun entry member => ?_).symm
    simpa using missing entry member

/-- There may have been none to begin with. -/
theorem dropStale_absent (absent : cache.entry? address = none) : cache.dropStale address = cache := by
  unfold dropStale
  rw [absent]
  rfl

/-- The state of a call that joins a flight. -/
def joinedStatus (flight : Nat) : Status :=
  match (cache.flight? flight).map Flight.phase with
  | some (.finished outcome) => .answered outcome
  | _ => .waiting flight

theorem join_calls (flight : Nat) :
    (cache.join flight).calls = cache.calls ++ [cache.joinedStatus flight] := rfl

end

section

variable [Sub τ] [LE τ] [DecidableLE τ]

/-- Whether there is an entry for an address that is young enough. -/
theorem contains_eq (cache : Cache τ) {address : String}
    (lower : Text.lower address = address) :
    cache.contains (.text address) = (cache.entry? address).any (!cache.isExpired ·) := by
  show (cache.entry? (Text.lower address)).any _ = _
  rw [lower]

section

variable (cache : Cache τ) {given : Value} {address : String}
  (wellFormed : Address.normalize? given = some address) (limit : Option Number)

include wellFormed

/-- A call that finds a young entry is answered by it. -/
theorem call_hit {entry : Entry τ} (found : cache.entry? address = some entry)
    (young : cache.isExpired entry = false) : cache.call given limit = cache.hit entry := by
  unfold call
  rw [wellFormed]
  simp only
  rw [found]
  simp only
  rw [young]
  rfl

/-- A call that finds no young entry goes on without the entry that is too old. -/
theorem call_missed (missed : (cache.entry? address).any (!cache.isExpired ·) = false) :
    cache.call given limit = (cache.dropStale address).miss address limit := by
  unfold call dropStale
  rw [wellFormed]
  simp only
  cases found : cache.entry? address with
  | none => rfl
  | some entry =>
    rw [found] at missed
    have old : cache.isExpired entry = true := by simpa using missed
    simp only [if_pos old]
    rfl

/-- It joins the flight for the address, -/
theorem call_joined (missed : (cache.entry? address).any (!cache.isExpired ·) = false) {flight : Nat}
    (registered : cache.registered? address = some flight) :
    cache.call given limit = (cache.dropStale address).join flight := by
  rw [cache.call_missed wellFormed limit missed]
  unfold miss
  rw [registered?_dropStale, registered]

/-- or opens one if there is none. -/
theorem call_launched (missed : (cache.entry? address).any (!cache.isExpired ·) = false)
    (unregistered : cache.registered? address = none) :
    cache.call given limit = (cache.dropStale address).launch address limit := by
  rw [cache.call_missed wellFormed limit missed]
  unfold miss
  rw [registered?_dropStale, unregistered]

/-- **A call without entry and without flight** opens one. -/
theorem call_new (absent : cache.entry? address = none)
    (unregistered : cache.registered? address = none) :
    cache.call given limit = cache.launch address limit := by
  rw [cache.call_launched wellFormed limit (by rw [absent]; rfl) unregistered,
    cache.dropStale_absent address absent]

end

/-- **What a call comes to**: a refusal, an answer from an entry, a place at the flight that is
registered, or a flight of its own. -/
inductive Called (cache : Cache τ) (given : Value) (limit : Option Number) : Cache τ → Prop
  | refused (malformed : Address.normalize? given = none) :
      Called cache given limit (cache.addCall (.answered (.error (.refused .address))))
  | hit (address : String) (wellFormed : Address.normalize? given = some address) (entry : Entry τ)
      (found : cache.entry? address = some entry) (young : cache.isExpired entry = false) :
      Called cache given limit (cache.hit entry)
  | joined (address : String) (wellFormed : Address.normalize? given = some address)
      (missed : (cache.entry? address).any (!cache.isExpired ·) = false) (flight : Nat)
      (registered : cache.registered? address = some flight) :
      Called cache given limit ((cache.dropStale address).join flight)
  | launched (address : String) (wellFormed : Address.normalize? given = some address)
      (missed : (cache.entry? address).any (!cache.isExpired ·) = false)
      (unregistered : cache.registered? address = none) :
      Called cache given limit ((cache.dropStale address).launch address limit)

theorem call_cases (cache : Cache τ) (given : Value) (limit : Option Number) :
    Called cache given limit (cache.call given limit) := by
  cases wellFormed : Address.normalize? given with
  | none =>
    unfold call
    rw [wellFormed]
    exact .refused wellFormed
  | some address =>
    cases missed : (cache.entry? address).any (!cache.isExpired ·) with
    | true =>
      obtain ⟨entry, found, young⟩ := (Option.any_eq_true _ _).mp missed
      rw [Bool.not_eq_true'] at young
      rw [cache.call_hit wellFormed limit found young]
      exact .hit address wellFormed entry found young
    | false =>
      cases registered : cache.registered? address with
      | some flight =>
        rw [cache.call_joined wellFormed limit missed registered]
        exact .joined address wellFormed missed flight registered
      | none =>
        rw [cache.call_launched wellFormed limit missed registered]
        exact .launched address wellFormed missed registered

end

/-! ### Flights, the registry and those who wait -/

/-- The address and the number of each flight. -/
def keys (cache : Cache τ) : List (String × Nat) :=
  cache.flights.map fun flight => (flight.address, flight.number)

/-- **What holds of flights, registry and calls** in every order of events. -/
structure Tidy (cache : Cache τ) : Prop where
  /-- Flights are numbered in the order in which they were opened. -/
  ordered : (cache.keys.map (·.2)).Pairwise (· < ·)
  /-- The next number is a new one. -/
  below : ∀ key ∈ cache.keys, key.2 < cache.opened
  /-- No two flights are for one address. -/
  apart : (cache.keys.map (·.1)).Nodup
  /-- The registry lists the flights, the latest first. -/
  registered : cache.registered = cache.keys.reverse
  /-- Whoever waits waits for a flight that is there. -/
  waiting : ∀ flight, .waiting flight ∈ cache.calls → ∃ key ∈ cache.keys, key.2 = flight

section

variable {cache : Cache τ}

theorem mem_keys {address : String} {number : Nat} :
    (address, number) ∈ cache.keys ↔
      ∃ flight ∈ cache.flights, flight.address = address ∧ flight.number = number := by
  unfold keys
  rw [List.mem_map]
  refine exists_congr fun flight => and_congr_right fun _ => ?_
  rw [Prod.mk.injEq]

/-- Flights are told apart by their numbers. -/
theorem Tidy.eq_of_number (tidy : cache.Tidy) {first second : Flight}
    (member : first ∈ cache.flights) (member' : second ∈ cache.flights)
    (same : first.number = second.number) : first = second := by
  have ordered := tidy.ordered
  unfold keys at ordered
  rw [List.map_map] at ordered
  have distinct : (cache.flights.map (·.number)).Nodup := ordered.imp Nat.ne_of_lt
  exact List.inj_on_of_nodup_map distinct member member' same

/-- Flights are told apart by their addresses. -/
theorem Tidy.eq_of_address (tidy : cache.Tidy) {first second : Flight}
    (member : first ∈ cache.flights) (member' : second ∈ cache.flights)
    (same : first.address = second.address) : first = second := by
  have apart := tidy.apart
  unfold keys at apart
  rw [List.map_map] at apart
  exact List.inj_on_of_nodup_map apart member member' same

theorem Tidy.flight?_eq_some (tidy : cache.Tidy) {number : Nat} {flight : Flight} :
    cache.flight? number = some flight ↔ flight ∈ cache.flights ∧ flight.number = number := by
  unfold flight?
  constructor
  · intro found
    exact ⟨List.mem_of_find?_eq_some found, by simpa using List.find?_some found⟩
  · rintro ⟨member, rfl⟩
    cases found : cache.flights.find? (·.number = flight.number) with
    | none =>
      rw [List.find?_eq_none] at found
      exact absurd (decide_eq_true rfl) (found flight member)
    | some other =>
      have same : other.number = flight.number := by simpa using List.find?_some found
      rw [tidy.eq_of_number (List.mem_of_find?_eq_some found) member same]

/-- The registry names the flight for an address. -/
theorem Tidy.registered?_eq_some (tidy : cache.Tidy) {address : String} {number : Nat} :
    cache.registered? address = some number ↔ (address, number) ∈ cache.keys := by
  unfold registered?
  rw [tidy.registered, ← List.mem_reverse]
  have distinct : (cache.keys.reverse.map (·.1)).Nodup := by
    rw [List.map_reverse]
    exact List.nodup_reverse.mpr tidy.apart
  exact lookup_eq_some_iff_mem distinct

/-- What is registered is a flight that is there. -/
theorem Tidy.flight_of_registered (tidy : cache.Tidy) {address : String} {number : Nat}
    (registered : cache.registered? address = some number) :
    ∃ flight ∈ cache.flights, flight.address = address ∧ flight.number = number :=
  mem_keys.mp (tidy.registered?_eq_some.mp registered)

/-- Whoever waits waits for a flight that is there. -/
theorem Tidy.flight_of_waiting (tidy : cache.Tidy) {call number : Nat}
    (waits : cache.calls[call]? = some (.waiting number)) :
    ∃ flight ∈ cache.flights, flight.number = number := by
  obtain ⟨⟨address, _⟩, member, rfl⟩ := tidy.waiting number (List.mem_of_getElem? waits)
  obtain ⟨flight, inside, _, same⟩ := mem_keys.mp member
  exact ⟨flight, inside, same⟩

end

/-! ### What the steps leave as it is -/

section

variable (cache : Cache τ)

/-- A flight keeps address and number in every phase. -/
theorem keys_inPhase (flights : List Flight) (number : Nat) (phase : Phase) :
    (inPhase flights number phase).map (fun flight => (flight.address, flight.number)) =
      flights.map fun flight => (flight.address, flight.number) := by
  unfold inPhase
  rw [List.map_map]
  refine List.map_congr_left fun flight _ => ?_
  simp only [Function.comp_apply]
  split <;> rfl

@[simp] theorem keys_dropStale (address : String) :
    (cache.dropStale address).keys = cache.keys := by
  unfold keys
  rw [dropStale_flights]

/-- The state of a call whose caller gives up, unless it has an answer. -/
def Status.givenUp : Status → Status
  | .waiting _ => .cancelled
  | status => status

theorem begin_frame (number : Nat) :
    (cache.begin number).keys = cache.keys ∧ (cache.begin number).opened = cache.opened ∧
      (cache.begin number).registered = cache.registered ∧
      (cache.begin number).calls = cache.calls := by
  unfold begin
  split
  · exact ⟨keys_inPhase _ _ _, rfl, rfl, rfl⟩
  · exact ⟨rfl, rfl, rfl, rfl⟩

theorem record_frame (address : String) (outcome : Outcome) :
    (cache.record address outcome).flights = cache.flights ∧
      (cache.record address outcome).opened = cache.opened ∧
      (cache.record address outcome).registered = cache.registered ∧
      (cache.record address outcome).calls = cache.calls ∧
      (cache.record address outcome).limits = cache.limits ∧
      (cache.record address outcome).now = cache.now := by
  cases outcome <;> exact ⟨rfl, rfl, rfl, rfl, rfl, rfl⟩

/-- What a reply to a flight comes to: one that fetches is finished, and its outcome is recorded. -/
theorem finish_cases (number : Nat) (reply : Reply) :
    cache.finish number reply = cache ∨
      ∃ flight, cache.flight? number = some flight ∧ flight.phase = .running ∧
        cache.finish number reply =
          { cache.record flight.address (reply.outcome flight.address flight.limit) with
            flights := inPhase cache.flights number
              (.finished (reply.outcome flight.address flight.limit)) } := by
  unfold finish
  split
  · rename_i number address limit found
    refine .inr ⟨_, found, rfl, ?_⟩
    simp only
    cases reply.outcome address limit <;> rfl
  · exact .inl rfl

theorem finish_frame (number : Nat) (reply : Reply) :
    (cache.finish number reply).keys = cache.keys ∧
      (cache.finish number reply).opened = cache.opened ∧
      (cache.finish number reply).registered = cache.registered ∧
      (cache.finish number reply).calls = cache.calls := by
  rcases cache.finish_cases number reply with same | ⟨flight, _, _, finished⟩
  · rw [same]
    exact ⟨rfl, rfl, rfl, rfl⟩
  · obtain ⟨_, opened, registered, calls, _, _⟩ :=
      cache.record_frame flight.address (reply.outcome flight.address flight.limit)
    rw [finished]
    exact ⟨keys_inPhase _ _ _, opened, registered, calls⟩

/-- A caller that gives up changes nothing but the state of its own call. -/
theorem cancel_eq (call : Nat) :
    cache.cancel call = { cache with calls := (cache.cancel call).calls } := by
  unfold cancel
  split <;> rfl

theorem cancel_length (call : Nat) : (cache.cancel call).calls.length = cache.calls.length := by
  unfold cancel
  split
  · exact List.length_set
  · rfl

theorem cancel_calls (call other : Nat) :
    (cache.cancel call).calls[other]? =
      if other = call then (cache.calls[other]?).map Status.givenUp else cache.calls[other]? := by
  unfold cancel
  split
  · rename_i flight waits
    split
    · rename_i same
      subst same
      rw [waits]
      exact List.getElem?_set_self (List.getElem?_eq_some_iff.mp waits).1
    · rename_i different
      exact List.getElem?_set_ne (Ne.symm different)
  · rename_i settled
    split
    · rename_i same
      subst same
      cases state : cache.calls[other]? with
      | none => rfl
      | some status =>
        cases status with
        | waiting flight => exact absurd state (settled flight)
        | _ => rfl
    · rfl

/-- What the release of a flight comes to: a finished one is gone, and whoever waited has its
outcome. -/
theorem release_cases (number : Nat) :
    cache.release number = cache ∨
      ∃ flight outcome, cache.flight? number = some flight ∧ flight.phase = .finished outcome ∧
        cache.release number = { cache with
          registered := cache.registered.filter (·.2 ≠ number)
          flights := cache.flights.filter (·.number ≠ number)
          calls := answerAll cache.calls number outcome } := by
  unfold release
  split
  · rename_i found
    exact .inr ⟨_, _, found, rfl, rfl⟩
  · exact .inl rfl

end

/-! ### Every event keeps flights and registry in order -/

section

variable {cache : Cache τ}

/-- What does not touch flights and registry and makes nobody wait keeps them in order. -/
theorem Tidy.frame (tidy : cache.Tidy) {after : Cache τ} (keys : after.keys = cache.keys)
    (opened : after.opened = cache.opened) (registered : after.registered = cache.registered)
    (waiting : ∀ flight, .waiting flight ∈ after.calls → .waiting flight ∈ cache.calls) :
    after.Tidy where
  ordered := keys ▸ tidy.ordered
  below := by
    rw [keys, opened]
    exact tidy.below
  apart := keys ▸ tidy.apart
  registered := by rw [registered, keys, tidy.registered]
  waiting := by
    rw [keys]
    exact fun flight waits => tidy.waiting flight (waiting flight waits)

/-- A call that is answered at once keeps them in order. -/
theorem Tidy.answered (tidy : cache.Tidy) {after : Cache τ} (keys : after.keys = cache.keys)
    (opened : after.opened = cache.opened) (registered : after.registered = cache.registered)
    {outcome : Outcome} (calls : after.calls = cache.calls ++ [.answered outcome]) : after.Tidy := by
  refine tidy.frame keys opened registered fun flight waits => ?_
  rw [calls] at waits
  rcases List.mem_append.mp waits with before | last
  · exact before
  · cases List.mem_singleton.mp last

theorem Tidy.dropStale (tidy : cache.Tidy) (address : String) : (cache.dropStale address).Tidy := by
  refine tidy.frame (cache.keys_dropStale address) (cache.dropStale_opened address)
    (cache.dropStale_registered address) fun flight waits => ?_
  rwa [dropStale_calls] at waits

theorem Tidy.join (tidy : cache.Tidy) {address : String} {flight : Nat}
    (registered : cache.registered? address = some flight) : (cache.join flight).Tidy where
  ordered := tidy.ordered
  below := tidy.below
  apart := tidy.apart
  registered := tidy.registered
  waiting := by
    intro other waits
    rw [join_calls] at waits
    rcases List.mem_append.mp waits with before | last
    · exact tidy.waiting other before
    · have status := List.mem_singleton.mp last
      unfold joinedStatus at status
      split at status
      · cases status
      · cases status
        exact ⟨_, tidy.registered?_eq_some.mp registered, rfl⟩

theorem Tidy.launch (tidy : cache.Tidy) {address : String}
    (unregistered : cache.registered? address = none) (limit : Option Number) :
    (cache.launch address limit).Tidy := by
  have keys : (cache.launch address limit).keys = cache.keys ++ [(address, cache.opened)] :=
    List.map_append
  refine ⟨?_, ?_, ?_, ?_, ?_⟩
  · rw [keys, List.map_append, List.pairwise_append]
    refine ⟨tidy.ordered, List.pairwise_singleton _ _, ?_⟩
    intro number member last inLast
    obtain ⟨key, inKeys, rfl⟩ := List.mem_map.mp member
    rw [List.mem_singleton.mp inLast]
    exact tidy.below key inKeys
  · rw [keys]
    intro key member
    show key.2 < cache.opened + 1
    rcases List.mem_append.mp member with before | last
    · exact Nat.lt_succ_of_lt (tidy.below key before)
    · rw [List.mem_singleton.mp last]
      exact Nat.lt_succ_self _
  · -- an address that is not registered has no flight
    rw [keys, List.map_append, List.map_singleton]
    refine List.nodup_append.mpr ⟨tidy.apart, List.nodup_singleton _, ?_⟩
    intro other member last inLast
    obtain ⟨key, inKeys, rfl⟩ := List.mem_map.mp member
    rw [List.mem_singleton.mp inLast]
    intro same
    have found := tidy.registered?_eq_some.mpr inKeys
    rw [same, unregistered] at found
    cases found
  · rw [keys, List.reverse_append, ← tidy.registered]
    rfl
  · intro flight waits
    rw [keys]
    rcases List.mem_append.mp waits with before | last
    · obtain ⟨key, member, same⟩ := tidy.waiting flight before
      exact ⟨key, List.mem_append_left _ member, same⟩
    · cases List.mem_singleton.mp last
      exact ⟨_, List.mem_append_right _ (List.mem_singleton_self _), rfl⟩

theorem Tidy.begin (tidy : cache.Tidy) (number : Nat) : (cache.begin number).Tidy := by
  obtain ⟨keys, opened, registered, calls⟩ := cache.begin_frame number
  exact tidy.frame keys opened registered fun flight waits => calls ▸ waits

theorem Tidy.finish (tidy : cache.Tidy) (number : Nat) (reply : Reply) :
    (cache.finish number reply).Tidy := by
  obtain ⟨keys, opened, registered, calls⟩ := cache.finish_frame number reply
  exact tidy.frame keys opened registered fun flight waits => calls ▸ waits

theorem Tidy.release (tidy : cache.Tidy) (number : Nat) : (cache.release number).Tidy := by
  rcases cache.release_cases number with same | ⟨flight, outcome, _, _, released⟩
  · rw [same]
    exact tidy
  have keys : (cache.release number).keys = cache.keys.filter (·.2 ≠ number) := by
    rw [released]
    unfold Cache.keys
    rw [List.filter_map]
    rfl
  refine ⟨?_, ?_, ?_, ?_, ?_⟩
  · rw [keys]
    exact tidy.ordered.sublist (List.filter_sublist.map _)
  · rw [keys, released]
    exact fun key member => tidy.below key (List.mem_of_mem_filter member)
  · rw [keys]
    exact tidy.apart.sublist (List.filter_sublist.map _)
  · rw [keys, released, ← List.filter_reverse, ← tidy.registered]
  · -- whoever waited for this flight has an answer now
    intro other waits
    rw [released] at waits
    obtain ⟨status, member, same⟩ := List.mem_map.mp waits
    split at same
    · cases same
    · rename_i otherwise
      subst same
      obtain ⟨key, inKeys, rfl⟩ := tidy.waiting other member
      rw [keys]
      refine ⟨key, List.mem_filter.mpr ⟨inKeys, ?_⟩, rfl⟩
      simpa [Status.waitsFor] using otherwise

theorem Tidy.cancel (tidy : cache.Tidy) (call : Nat) : (cache.cancel call).Tidy := by
  rw [cancel_eq]
  refine tidy.frame rfl rfl rfl fun flight waits => ?_
  obtain ⟨other, waits⟩ := List.mem_iff_getElem?.mp waits
  rw [cancel_calls] at waits
  split at waits
  · obtain ⟨status, _, same⟩ := Option.map_eq_some_iff.mp waits
    cases status <;> cases same
  · exact List.mem_iff_getElem?.mpr ⟨other, waits⟩

section

variable [Sub τ] [LE τ] [DecidableLE τ]

theorem Tidy.call (tidy : cache.Tidy) (given : Value) (limit : Option Number) :
    (cache.call given limit).Tidy := by
  have called := cache.call_cases given limit
  generalize cache.call given limit = after at called ⊢
  cases called with
  | refused => exact tidy.answered rfl rfl rfl rfl
  | hit address wellFormed entry => exact tidy.answered rfl rfl rfl rfl
  | joined address wellFormed missed flight registered =>
    exact (tidy.dropStale address).join ((cache.registered?_dropStale address address).trans registered)
  | launched address wellFormed missed unregistered =>
    have unregistered' := (cache.registered?_dropStale address address).trans unregistered
    exact (tidy.dropStale address).launch unregistered' limit

variable [Add τ]

theorem step_tidy (tidy : cache.Tidy) (event : Event τ) : (cache.step event).Tidy := by
  cases event with
  | call given limit => exact tidy.call given limit
  | begin flight => exact tidy.begin flight
  | finish flight reply => exact tidy.finish flight reply
  | release flight => exact tidy.release flight
  | cancel call => exact tidy.cancel call
  | clear => exact tidy.frame rfl rfl rfl fun _ waits => waits
  | advance span => exact tidy.frame rfl rfl rfl fun _ waits => waits

/-- **Flights, registry and calls stay in order**, whatever happens. -/
theorem run_tidy (tidy : cache.Tidy) (events : List (Event τ)) : (cache.run events).Tidy := by
  induction events generalizing cache with
  | nil => exact tidy
  | cons event rest ih => exact ih (step_tidy tidy event)

end

/-- An empty cache is in order. -/
theorem tidy_empty (limits : Limits τ) (now : τ) : ({ limits, now } : Cache τ).Tidy where
  ordered := List.Pairwise.nil
  below := by
    intro key member
    cases member
  apart := List.nodup_nil
  registered := rfl
  waiting := by
    intro flight waits
    cases waits

end

end Cache

end ContractRisk
