/-
**One fetch for each address at a time.**

Whatever happens at a cache and in whichever order, an address has one flight at most, from the call that
opens it to its release, and that flight is the one that the registry names (`SingleFlight`). A call that
misses meanwhile opens no other: it shares the fate of the flight (`Fate`). A caller that gives up is
missed by nobody (`SameBut`), and a flight that is released takes its own registration with it and no
other.

* `Ended.unique`: a flight has one outcome only;
* `fate`: whoever waits for a flight has its outcome in the end, unless the caller gives up;
* `run_sameBut`: no later event tells whether a caller gave up, except by that caller's own call;
* `run_singleFlight`: all of this holds after every run of events from the empty cache.
-/

import ContractRisk.Proofs.Address
import ContractRisk.Proofs.Cache.Flights
import Mathlib.Data.List.Induction

namespace ContractRisk.Cache

variable {τ : Type}

section

variable [Add τ] [Sub τ] [LE τ] [DecidableLE τ]

/-! ### The outcome of a flight -/

/-- At some time in the course of events the flight had that outcome. -/
def Ended (cache : Cache τ) (events : List (Event τ)) (number : Nat) (outcome : Outcome) : Prop :=
  ∃ before, before <+: events ∧ ∃ flight, (cache.run before).flight? number = some flight ∧
    flight.phase = .finished outcome

section

variable {cache : Cache τ} {number : Nat}

theorem run_grows (cache : Cache τ) (events : List (Event τ)) :
    cache.calls.length ≤ (cache.run events).calls.length ∧
      cache.opened ≤ (cache.run events).opened := by
  induction events generalizing cache with
  | nil => exact ⟨Nat.le_refl _, Nat.le_refl _⟩
  | cons event rest ih =>
    obtain ⟨calls, opened⟩ := cache.step_grows event
    obtain ⟨calls', opened'⟩ := ih (cache.step event)
    exact ⟨Nat.le_trans calls calls', Nat.le_trans opened opened'⟩

/-- A finished flight stays as it is until it is gone, and then it is gone for good. -/
theorem finished_stays (old : number < cache.opened) {flight : Flight} {outcome : Outcome}
    (ended : flight.phase = .finished outcome)
    (found : cache.flight? number = some flight ∨ cache.flight? number = none)
    (events : List (Event τ)) :
    (cache.run events).flight? number = some flight ∨ (cache.run events).flight? number = none := by
  induction events generalizing cache with
  | nil => exact found
  | cons event rest ih =>
    refine ih (Nat.lt_of_lt_of_le old (cache.step_grows event).2) ?_
    have moved := cache.flight?_step old event
    generalize (cache.step event).flight? number = after at moved ⊢
    rcases found with found | found
    · rw [found] at moved
      cases moved with
      | stays => exact .inl rfl
      | starts _ phase =>
        rw [ended] at phase
        cases phase
      | ends _ phase =>
        rw [ended] at phase
        cases phase
      | goes => exact .inr rfl
    · rw [found] at moved
      cases moved
      exact .inr rfl

/-- **A flight has one outcome only.** -/
theorem Ended.unique (old : number < cache.opened) {events : List (Event τ)}
    {first second : Outcome} (ended : cache.Ended events number first)
    (ended' : cache.Ended events number second) : first = second := by
  -- of the two times at which the flight is seen, one comes first
  have later {sooner rest : List (Event τ)} {flight flight' : Flight} {outcome outcome' : Outcome}
      (found : (cache.run sooner).flight? number = some flight)
      (phase : flight.phase = .finished outcome)
      (found' : (cache.run (sooner ++ rest)).flight? number = some flight')
      (phase' : flight'.phase = .finished outcome') : outcome = outcome' := by
    rw [run_append] at found'
    have opened := Nat.lt_of_lt_of_le old (run_grows cache sooner).2
    rcases finished_stays opened phase (.inl found) rest with same | gone
    · rw [same] at found'
      cases found'
      rw [phase] at phase'
      cases phase'
      rfl
    · rw [gone] at found'
      cases found'
  obtain ⟨before, begins, flight, found, phase⟩ := ended
  obtain ⟨before', begins', flight', found', phase'⟩ := ended'
  rcases List.prefix_or_prefix_of_prefix begins begins' with ⟨rest, rfl⟩ | ⟨rest, rfl⟩
  · exact later found phase found' phase'
  · exact (later found' phase' found phase).symm

theorem Ended.mono {events more : List (Event τ)} {outcome : Outcome}
    (ended : cache.Ended events number outcome) :
    cache.Ended (events ++ more) number outcome := by
  obtain ⟨before, begins, flight, seen⟩ := ended
  exact ⟨before, begins.trans (List.prefix_append _ _), flight, seen⟩

/-! ### The fate of those who wait -/

/-- **What has become of a call at a flight.** It waits while the flight is there, it has the outcome of
the flight, or its caller gave up. -/
inductive Fate (cache : Cache τ) (events : List (Event τ)) (number call : Nat) : Prop
  | waits (status : (cache.run events).calls[call]? = some (.waiting number))
      (there : ∃ flight ∈ (cache.run events).flights, flight.number = number)
  | answered (outcome : Outcome)
      (status : (cache.run events).calls[call]? = some (.answered outcome))
      (ended : cache.Ended events number outcome)
      (only : ∀ other, cache.Ended events number other → other = outcome)
  | gaveUp (status : (cache.run events).calls[call]? = some .cancelled)
      (asked : .cancel call ∈ events)

/-- **Whoever waits for a flight has its outcome in the end**, unless the caller gives up. -/
theorem fate (tidy : cache.Tidy) {call : Nat} (old : number < cache.opened)
    (begins : cache.calls[call]? = some (.waiting number) ∨
      ∃ flight outcome, cache.flight? number = some flight ∧ flight.phase = .finished outcome ∧
        cache.calls[call]? = some (.answered outcome))
    (events : List (Event τ)) : Fate cache events number call := by
  have answered {events : List (Event τ)} {outcome : Outcome}
      (status : (cache.run events).calls[call]? = some (.answered outcome))
      (ended : cache.Ended events number outcome) : Fate cache events number call :=
    .answered outcome status ended fun _ ended' => ended'.unique old ended
  have inRange : call < cache.calls.length := by
    rcases begins with status | ⟨_, _, _, _, status⟩ <;>
      exact (List.getElem?_eq_some_iff.mp status).1
  induction events using List.reverseRecOn with
  | nil =>
    rcases begins with status | ⟨flight, outcome, found, phase, status⟩
    · exact .waits status (tidy.flight_of_waiting status)
    · exact answered status ⟨[], List.prefix_refl _, flight, found, phase⟩
  | append_singleton events event ih =>
    have run : cache.run (events ++ [event]) = (cache.run events).step event := by
      rw [run_append]
      rfl
    have tidy' : (cache.run (events ++ [event])).Tidy := run_tidy tidy _
    have turned := (cache.run events).status_step
      (Nat.lt_of_lt_of_le inRange (run_grows cache events).1) event
    rw [← run] at turned
    generalize state : (cache.run (events ++ [event])).calls[call]? = status at turned
    cases ih with
    | waits waiting _ =>
      rw [waiting] at turned
      cases turned with
      | stays => exact .waits state (tidy'.flight_of_waiting state)
      | givesUp flight event_eq =>
        exact .gaveUp state (List.mem_append_right _ (by simp [event_eq]))
      | answered _ _ flight outcome found phase =>
        exact answered state ⟨events, List.prefix_append _ _, flight, found, phase⟩
    | answered outcome has ended =>
      rw [has] at turned
      cases turned
      exact answered state ended.mono
    | gaveUp cancelled asked =>
      rw [cancelled] at turned
      cases turned
      exact .gaveUp state (List.mem_append_left _ asked)

end

end

/-! ### A caller that gives up -/

/-- Two caches that differ in the state of one call at most. -/
structure SameBut (call : Nat) (first second : Cache τ) : Prop where
  rest : second = { first with calls := second.calls }
  length : second.calls.length = first.calls.length
  others : ∀ other, other ≠ call → second.calls[other]? = first.calls[other]?

section

variable (cache : Cache τ) (calls : List Status)

/-- What a call comes to does not depend on the calls before it. -/
theorem call_with [Sub τ] [LE τ] [DecidableLE τ] (given : Value) (limit : Option Number) :
    ∃ status, (cache.call given limit).calls = cache.calls ++ [status] ∧
      ({ cache with calls } : Cache τ).call given limit =
        { cache.call given limit with calls := calls ++ [status] } := by
  have missing (cache : Cache τ) (address : String) :
      ∃ status, (cache.miss address limit).calls = cache.calls ++ [status] ∧
        ({ cache with calls } : Cache τ).miss address limit =
          { cache.miss address limit with calls := calls ++ [status] } := by
    unfold miss registered?
    cases cache.registered.lookup address <;> exact ⟨_, rfl, rfl⟩
  unfold call entry? isExpired
  cases Address.normalize? given with
  | none => exact ⟨_, rfl, rfl⟩
  | some address =>
    simp only
    cases cache.entries.find? (·.address = address) with
    | none => exact missing cache address
    | some entry =>
      simp only
      split
      · exact missing (cache.expire address) address
      · exact ⟨_, rfl, rfl⟩

theorem begin_with (number : Nat) :
    ({ cache with calls } : Cache τ).begin number = { cache.begin number with calls } := by
  unfold begin flight?
  split <;> simp_all

theorem finish_with (number : Nat) (reply : Reply) :
    ({ cache with calls } : Cache τ).finish number reply =
      { cache.finish number reply with calls } := by
  unfold finish flight?
  simp only
  split
  · simp only
    cases reply.outcome _ _ <;> rfl
  · rfl

end

section

variable [Add τ] [Sub τ] [LE τ] [DecidableLE τ] {call : Nat} {first second : Cache τ}

theorem step_sameBut (same : SameBut call first second) (event : Event τ) :
    SameBut call (first.step event) (second.step event) := by
  obtain ⟨rest, length, others⟩ := same
  generalize second.calls = calls at rest length others
  subst rest
  cases event with
  | call given limit =>
    obtain ⟨status, added, answered⟩ := first.call_with calls given limit
    show SameBut call (first.call given limit) (({ first with calls } : Cache τ).call given limit)
    rw [answered]
    refine ⟨rfl, ?_, fun other different => ?_⟩
    · rw [added, List.length_append, List.length_append, length]
    · rw [added]
      show (calls ++ [status])[other]? = _
      rw [List.getElem?_append, List.getElem?_append, length, others other different]
  | begin number =>
    show SameBut call (first.begin number) (({ first with calls } : Cache τ).begin number)
    rw [begin_with first calls]
    refine ⟨rfl, ?_, ?_⟩ <;> rwa [(first.begin_frame number).2.2.2]
  | finish number reply =>
    show SameBut call (first.finish number reply)
      (({ first with calls } : Cache τ).finish number reply)
    rw [finish_with first calls]
    refine ⟨rfl, ?_, ?_⟩ <;> rwa [(first.finish_frame number reply).2.2.2]
  | release number =>
    show SameBut call (first.release number) (({ first with calls } : Cache τ).release number)
    unfold release flight?
    simp only
    split
    · refine ⟨rfl, ?_, fun other different => ?_⟩
      · simpa [answerAll] using length
      · simp only [answerAll, List.getElem?_map]
        rw [others other different]
    · exact ⟨rfl, length, others⟩
  | cancel other =>
    show SameBut call (first.cancel other) (({ first with calls } : Cache τ).cancel other)
    refine ⟨?_, ?_, fun place different => ?_⟩
    · rw [first.cancel_eq, cancel_eq { first with calls }]
    · rw [cancel_length, cancel_length]
      exact length
    · rw [cancel_calls, cancel_calls]
      show (if _ then calls[place]?.map _ else calls[place]?) = _
      rw [others place different]
  | clear => exact ⟨rfl, length, others⟩
  | advance span => exact ⟨rfl, length, others⟩

/-- **No later event tells whether a caller gave up**, except by that caller's own call. -/
theorem run_sameBut (same : SameBut call first second) (events : List (Event τ)) :
    SameBut call (first.run events) (second.run events) := by
  induction events generalizing first second with
  | nil => exact same
  | cons event rest ih => exact ih (step_sameBut same event)

end

theorem cancel_sameBut (cache : Cache τ) (call : Nat) : SameBut call cache (cache.cancel call) where
  rest := cache.cancel_eq call
  length := cache.cancel_length call
  others := by
    intro other different
    rw [cancel_calls, if_neg different]

/-! ### A release -/

/-- What is left of the registry when a flight gives up its registration. -/
theorem Tidy.registered?_release {cache : Cache τ} (tidy : cache.Tidy) {flight : Flight}
    (member : flight ∈ cache.flights) {outcome : Outcome} (ended : flight.phase = .finished outcome)
    (address : String) :
    (cache.release flight.number).registered? address =
      if address = flight.address then none else cache.registered? address := by
  have found : cache.flight? flight.number = some flight :=
    tidy.flight?_eq_some.mpr ⟨member, rfl⟩
  have registered : (cache.release flight.number).registered =
      cache.registered.filter (·.2 ≠ flight.number) := by
    unfold Cache.release
    rw [found]
    obtain ⟨number, own, limit, phase⟩ := flight
    subst ended
    rfl
  have key : (flight.address, flight.number) ∈ cache.keys := mem_keys.mpr ⟨flight, member, rfl, rfl⟩
  refine Option.ext fun number => ?_
  rw [(tidy.release flight.number).registered?_eq_some, ← List.mem_reverse,
    ← (tidy.release flight.number).registered, registered, List.mem_filter, tidy.registered,
    List.mem_reverse, ← tidy.registered?_eq_some]
  split
  · rename_i own
    rw [own, tidy.registered?_eq_some.mpr key]
    simp only [Option.some.injEq, ne_eq, decide_eq_true_eq, reduceCtorEq, iff_false]
    exact fun ⟨same, other⟩ => other same.symm
  · rename_i other
    refine and_iff_left_of_imp fun listed => ?_
    obtain ⟨flight', member', rfl, rfl⟩ := tidy.flight_of_registered listed
    have different : flight'.number ≠ flight.number := fun same =>
      other (congrArg Flight.address (tidy.eq_of_number member' member same))
    exact decide_eq_true different

/-! ### Single flight -/

/-- A call that misses while a flight is registered waits for that flight, or has its outcome at
once if there is one. -/
theorem call_eq_join [Sub τ] [LE τ] [DecidableLE τ] (cache : Cache τ) {given : Value}
    (limit : Option Number) {address : String} {number : Nat}
    (wellFormed : Address.normalize? given = some address)
    (registered : cache.registered? address = some number)
    (missed : cache.contains (.text address) = false) :
    cache.call given limit = (cache.dropStale address).join number := by
  rw [contains_eq cache (Address.lower_normalize? wellFormed)] at missed
  exact cache.call_joined wellFormed limit missed registered

section

variable [Add τ] [Sub τ] [LE τ] [DecidableLE τ]

/-- **One fetch for each address at a time**, at one moment and from there on. -/
structure SingleFlight (cache : Cache τ) : Prop where
  /-- No two flights that are registered, run or wait for their release are for one address. -/
  one : ∀ first ∈ cache.flights, ∀ second ∈ cache.flights,
    first.address = second.address → first = second
  /-- The registry names the flight for an address, and it names nothing else. -/
  registry : ∀ address number, cache.registered? address = some number ↔
    ∃ flight ∈ cache.flights, flight.address = address ∧ flight.number = number
  /-- A call that misses while a flight is registered starts none, and shares the fate of that flight
  whatever happens afterwards. -/
  joined : ∀ (given : Value) (limit : Option Number) (address : String) (number : Nat),
    Address.normalize? given = some address → cache.registered? address = some number →
    cache.contains (.text address) = false →
    (cache.call given limit).flights = cache.flights ∧
      (cache.call given limit).registered = cache.registered ∧
      (cache.call given limit).opened = cache.opened ∧
      (cache.call given limit).counters.fetches = cache.counters.fetches ∧
      ∀ events, Fate (cache.call given limit) events number cache.calls.length
  /-- A caller that gives up changes neither registry nor flights nor entries, and no other call: not
  at once and not by anything that happens afterwards. -/
  cancelled : ∀ (call : Nat) (events : List (Event τ)),
    SameBut call (cache.run events) ((cache.cancel call).run events)
  /-- A flight that is released takes its own registration with it and no other. -/
  released : ∀ flight ∈ cache.flights, ∀ outcome, flight.phase = .finished outcome →
    ∀ address, (cache.release flight.number).registered? address =
      if address = flight.address then none else cache.registered? address

theorem Tidy.singleFlight {cache : Cache τ} (tidy : cache.Tidy) : SingleFlight cache where
  one := fun first member second member' same => tidy.eq_of_address member member' same
  registry := fun address number => tidy.registered?_eq_some.trans mem_keys
  cancelled := fun call events => run_sameBut (cache.cancel_sameBut call) events
  released := fun flight member outcome ended address =>
    tidy.registered?_release member ended address
  joined := by
    intro given limit address number wellFormed registered missed
    have tidy' := tidy.call given limit
    have joined := cache.call_eq_join limit wellFormed registered missed
    rw [joined] at tidy' ⊢
    have fetches : (cache.dropStale address).counters.fetches = cache.counters.fetches := by
      unfold Cache.dropStale
      split <;> rfl
    refine ⟨cache.dropStale_flights address, cache.dropStale_registered address,
      cache.dropStale_opened address, fetches, fun events => fate tidy' ?_ ?_ events⟩
    · show number < (cache.dropStale address).opened
      rw [dropStale_opened]
      exact tidy.below _ (tidy.registered?_eq_some.mp registered)
    · have last : ((cache.dropStale address).join number).calls[cache.calls.length]? =
          some ((cache.dropStale address).joinedStatus number) := by
        rw [join_calls, dropStale_calls]
        exact List.getElem?_concat_length
      rw [last]
      unfold Cache.joinedStatus
      split
      · rename_i outcome phase
        obtain ⟨flight, found, ended⟩ := Option.map_eq_some_iff.mp phase
        exact .inr ⟨flight, outcome, found, ended, rfl⟩
      · exact .inl rfl

/-- **Whatever happens at a cache, an address is fetched once at a time.** -/
theorem run_singleFlight (limits : Limits τ) (now : τ) (events : List (Event τ)) :
    SingleFlight (({ limits, now } : Cache τ).run events) :=
  (run_tidy (tidy_empty limits now) events).singleFlight

end

/-- A cache of a minute of lifetime at which someone has asked in capitals. -/
def askedOnce : Cache Int :=
  ({ limits := ⟨60, 1, 1, none⟩, now := 0 } : Cache Int).run
    [.call (.text "0xACBA164135904DC63C5418B57FF87EFD341D7C80") none]

theorem run_singleFlight_askedOnce :
    let second : Value := .text "0xacba164135904dc63c5418b57ff87efd341d7c80"
    let joined := askedOnce.call second none
    askedOnce.registered? "0xacba164135904dc63c5418b57ff87efd341d7c80" = some 0 ∧
      joined.flights = askedOnce.flights ∧
      (∀ events, Fate joined events 0 1) ∧
      (joined.run [.begin 0, .cancel 0, .finish 0 (.returned (.text "0x00")), .clear,
        .release 0]).calls[1]? = some (.answered (.ok "0x00")) := by
  have registered :
      askedOnce.registered? "0xacba164135904dc63c5418b57ff87efd341d7c80" = some 0 := by decide
  obtain ⟨flights, _, _, _, shared⟩ := (run_singleFlight ⟨60, 1, 1, none⟩ (0 : Int)
    [.call (.text "0xACBA164135904DC63C5418B57FF87EFD341D7C80") none]).joined
      (.text "0xacba164135904dc63c5418b57ff87efd341d7c80") none _ 0 (by decide) registered (by decide)
  exact ⟨registered, flights, shared, rfl⟩

end ContractRisk.Cache
