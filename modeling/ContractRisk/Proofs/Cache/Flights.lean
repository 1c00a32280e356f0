/-
**What an event does to one flight and to one call.**

* `flight?_step`: an event moves a flight by one phase at most, and a flight that is gone does not
  come back;
* `came_step`: a flight that is there after an event was there before, or a call opened it;
* `status_step`: an event changes the state of a call only if the caller gives up or the flight that the
  caller waits for is released;
* `step_fixed`, `calls_step`, `step_grows`: bounds stay as they are, only a call adds a call, and calls
  and flights are only added.
-/

import ContractRisk.Proofs.Cache.Events

namespace ContractRisk.Cache

variable {τ : Type}

/-! ### Looking for a flight -/

section

variable (cache : Cache τ)

theorem flight?_number {number : Nat} {flight : Flight}
    (found : cache.flight? number = some flight) : flight.number = number := by
  simpa using List.find?_some found

/-- A flight in another phase is found where it was. -/
theorem flight?_inPhase (number moved : Nat) (phase : Phase) :
    ({ cache with flights := inPhase cache.flights moved phase } : Cache τ).flight? number =
      (cache.flight? number).map fun flight =>
        if number = moved then { flight with phase } else flight := by
  have keeps (flight : Flight) :
      (if flight.number = moved then { flight with phase } else flight).number = flight.number := by
    split <;> rfl
  show (inPhase cache.flights moved phase).find? _ = _
  unfold inPhase flight?
  rw [List.find?_map]
  simp only [Function.comp_def, keeps]
  cases found : cache.flights.find? (·.number = number) with
  | none => rfl
  | some flight =>
    have same : flight.number = number := cache.flight?_number found
    simp only [Option.map_some, same]

/-- With a flight in another phase the others are as they were. -/
theorem mem_inPhase {flights : List Flight} {number : Nat} {phase : Phase} {flight : Flight}
    (inside : flight ∈ inPhase flights number phase) :
    (flight ∈ flights ∧ flight.number ≠ number) ∨
      ∃ before ∈ flights, before.number = number ∧ flight = { before with phase } := by
  obtain ⟨before, member, rfl⟩ := List.mem_map.mp inside
  by_cases own : before.number = number
  · rw [if_pos own]
    exact .inr ⟨before, member, own, rfl⟩
  · rw [if_neg own]
    exact .inl ⟨member, own⟩

theorem flight?_launch {number : Nat} (old : number < cache.opened) (address : String)
    (limit : Option Number) :
    (cache.launch address limit).flight? number = cache.flight? number := by
  show (cache.flights ++ [_]).find? _ = _
  rw [List.find?_append, List.find?_singleton]
  simp [Nat.ne_of_gt old, flight?]

/-- The flights that are left when one is gone. -/
theorem flight?_filter (number gone : Nat) :
    (cache.flights.filter (·.number ≠ gone)).find? (·.number = number) =
      if number = gone then none else cache.flight? number := by
  rw [List.find?_filter]
  split
  · rename_i same
    rw [List.find?_eq_none]
    intro flight _
    simp [same]
  · rename_i other
    unfold flight?
    congr 1
    funext flight
    by_cases same : flight.number = number
    · simp [same, other]
    · simp [same]

/-- Flights that are found alike are the same flights for everyone. -/
theorem flight?_congr (after : Cache τ) (same : after.flights = cache.flights) (number : Nat) :
    after.flight? number = cache.flight? number := by
  unfold flight?
  rw [same]

end

section

variable [Sub τ] [LE τ] [DecidableLE τ] (cache : Cache τ)

/-- A call leaves the flights that there are as they are. -/
theorem flight?_call {number : Nat} (old : number < cache.opened) (given : Value)
    (limit : Option Number) : (cache.call given limit).flight? number = cache.flight? number := by
  have called := cache.call_cases given limit
  generalize cache.call given limit = after at called ⊢
  cases called with
  | refused => rfl
  | hit => rfl
  | joined address =>
    exact cache.flight?_congr ((cache.dropStale address).join _) (cache.dropStale_flights address)
      number
  | launched address =>
    rw [flight?_launch _ (by rwa [dropStale_opened])]
    exact cache.flight?_congr _ (cache.dropStale_flights address) number

/-- A call opens one flight at most. -/
theorem opened_call (given : Value) (limit : Option Number) :
    cache.opened ≤ (cache.call given limit).opened := by
  have called := cache.call_cases given limit
  generalize cache.call given limit = after at called ⊢
  cases called with
  | refused => exact Nat.le_refl _
  | hit => exact Nat.le_refl _
  | joined address =>
    exact Nat.le_of_eq (cache.dropStale_opened address).symm
  | launched address =>
    show _ ≤ (cache.dropStale address).opened + 1
    rw [dropStale_opened]
    exact Nat.le_succ _

/-- A call is put behind those that there are. -/
theorem calls_call (given : Value) (limit : Option Number) :
    ∃ status, (cache.call given limit).calls = cache.calls ++ [status] := by
  have called := cache.call_cases given limit
  generalize cache.call given limit = after at called ⊢
  cases called with
  | refused => exact ⟨_, rfl⟩
  | hit => exact ⟨_, rfl⟩
  | joined address =>
    rw [join_calls, dropStale_calls]
    exact ⟨_, rfl⟩
  | launched address =>
    show ∃ status, (cache.dropStale address).calls ++ [_] = _
    rw [dropStale_calls]
    exact ⟨_, rfl⟩

/-- A call changes neither bounds nor time. -/
theorem call_fixed (given : Value) (limit : Option Number) :
    (cache.call given limit).limits = cache.limits ∧
      (cache.call given limit).now = cache.now := by
  have called := cache.call_cases given limit
  generalize cache.call given limit = after at called ⊢
  cases called with
  | refused => exact ⟨rfl, rfl⟩
  | hit => exact ⟨rfl, rfl⟩
  | joined address => exact ⟨cache.dropStale_limits address, cache.dropStale_now address⟩
  | launched address => exact ⟨cache.dropStale_limits address, cache.dropStale_now address⟩

variable [Add τ]

/-- The time after an event. -/
def Event.timeAfter (now : τ) : Event τ → τ
  | .advance span => now + span
  | _ => now

/-- The bounds stay as they are, and time passes only of its own accord. -/
theorem step_fixed (event : Event τ) :
    (cache.step event).limits = cache.limits ∧
      (cache.step event).now = event.timeAfter cache.now := by
  cases event with
  | call given limit => exact cache.call_fixed given limit
  | begin number =>
    show (cache.begin number).limits = _ ∧ (cache.begin number).now = cache.now
    unfold begin
    split <;> exact ⟨rfl, rfl⟩
  | finish number reply =>
    show (cache.finish number reply).limits = _ ∧ (cache.finish number reply).now = cache.now
    rcases cache.finish_cases number reply with same | ⟨flight, _, _, finished⟩
    · rw [same]
      exact ⟨rfl, rfl⟩
    · obtain ⟨_, _, _, _, limits, now⟩ :=
        cache.record_frame flight.address (reply.outcome flight.address flight.limit)
      rw [finished]
      exact ⟨limits, now⟩
  | release number =>
    show (cache.release number).limits = _ ∧ (cache.release number).now = cache.now
    unfold release
    split <;> exact ⟨rfl, rfl⟩
  | cancel call =>
    show (cache.cancel call).limits = _ ∧ (cache.cancel call).now = cache.now
    rw [cancel_eq]
    exact ⟨rfl, rfl⟩
  | clear => exact ⟨rfl, rfl⟩
  | advance span => exact ⟨rfl, rfl⟩

/-- How far a flight has come from one event to the next: it starts, it has an outcome, or it is
gone. -/
inductive Moved : Option Flight → Option Flight → Prop
  | stays (flight : Option Flight) : Moved flight flight
  | starts (flight : Flight) (phase : flight.phase = .opened) :
      Moved (some flight) (some { flight with phase := .running })
  | ends (flight : Flight) (phase : flight.phase = .running) (outcome : Outcome) :
      Moved (some flight) (some { flight with phase := .finished outcome })
  | goes (flight : Flight) (outcome : Outcome) (phase : flight.phase = .finished outcome) :
      Moved (some flight) none

omit [Sub τ] [LE τ] [DecidableLE τ] [Add τ] in
/-- When one flight comes into another phase, it moves, and every other flight stays. -/
theorem moved_inPhase {moved : Nat} {flight : Flight} {phase : Phase}
    (found : cache.flight? moved = some flight)
    (moves : Moved (some flight) (some { flight with phase })) (number : Nat) :
    Moved (cache.flight? number)
      (({ cache with flights := inPhase cache.flights moved phase } : Cache τ).flight? number) := by
  rw [flight?_inPhase]
  by_cases same : number = moved
  · rw [same, found]
    simpa using moves
  · simpa [same] using Moved.stays _

/-- **A flight moves by one phase at most**, and one that is gone does not come back. -/
theorem flight?_step {number : Nat} (old : number < cache.opened) (event : Event τ) :
    Moved (cache.flight? number) ((cache.step event).flight? number) := by
  cases event with
  | call given limit =>
    show Moved _ ((cache.call given limit).flight? number)
    rw [cache.flight?_call old]
    exact .stays _
  | begin moved =>
    show Moved _ ((cache.begin moved).flight? number)
    unfold begin
    split
    · rename_i found
      exact cache.moved_inPhase found (.starts _ rfl) number
    · exact .stays _
  | finish moved reply =>
    show Moved _ ((cache.finish moved reply).flight? number)
    rcases cache.finish_cases moved reply with same | ⟨flight, found, fetches, finished⟩
    · rw [same]
      exact .stays _
    · rw [finished]
      exact cache.moved_inPhase found (.ends _ fetches _) number
  | release moved =>
    show Moved _ ((cache.release moved).flight? number)
    rcases cache.release_cases moved with same | ⟨flight, outcome, found, ended, released⟩
    · rw [same]
      exact .stays _
    · rw [released]
      show Moved _ ((cache.flights.filter (·.number ≠ moved)).find? (·.number = number))
      rw [flight?_filter]
      by_cases same : number = moved
      · rw [same, found, if_pos rfl]
        exact .goes flight outcome ended
      · rw [if_neg same]
        exact .stays _
  | cancel call =>
    show Moved _ ((cache.cancel call).flight? number)
    rw [cancel_eq]
    exact .stays _
  | clear => exact .stays _
  | advance span => exact .stays _

/-- Where a flight that is there after an event comes from: it was there before, a call opened it, or it
was there in the phase before. -/
inductive Came (cache : Cache τ) : Event τ → Flight → Prop
  | stays (event : Event τ) (flight : Flight) (member : flight ∈ cache.flights) : Came cache event flight
  | opens (given : Value) (limit : Option Number) (address : String) :
      Came cache (.call given limit) ⟨cache.opened, address, limit <|> cache.limits.timeout, .opened⟩
  | starts (flight : Flight) (member : flight ∈ cache.flights) :
      Came cache (.begin flight.number) { flight with phase := .running }
  | ends (flight fetching : Flight) (reply : Reply) (member : flight ∈ cache.flights)
      (found : cache.flight? flight.number = some fetching) :
      Came cache (.finish flight.number reply)
        { flight with phase := .finished (reply.outcome fetching.address fetching.limit) }

omit [Add τ] in
/-- A flight that is there after a call was there before, or the call opened it. -/
theorem came_call {given : Value} {limit : Option Number} {flight : Flight}
    (member : flight ∈ (cache.call given limit).flights) : Came cache (.call given limit) flight := by
  have called := cache.call_cases given limit
  generalize cache.call given limit = after at called member
  cases called with
  | refused => exact .stays _ flight member
  | hit => exact .stays _ flight member
  | joined address =>
    change flight ∈ (cache.dropStale address).flights at member
    rw [dropStale_flights] at member
    exact .stays _ flight member
  | launched address =>
    change flight ∈ (cache.dropStale address).flights ++ [_] at member
    rw [dropStale_flights, dropStale_opened, dropStale_limits] at member
    rcases List.mem_append.mp member with before | last
    · exact .stays _ flight before
    · rw [List.mem_singleton.mp last]
      exact .opens given limit address

/-- **Flights come from flights**, or from calls. -/
theorem came_step {event : Event τ} {flight : Flight} (member : flight ∈ (cache.step event).flights) :
    Came cache event flight := by
  cases event with
  | call given limit => exact cache.came_call member
  | begin number =>
    change flight ∈ (cache.begin number).flights at member
    unfold begin at member
    split at member
    · rcases mem_inPhase member with ⟨inside, _⟩ | ⟨before, inside, rfl, rfl⟩
      · exact .stays _ flight inside
      · exact .starts before inside
    · exact .stays _ flight member
  | finish number reply =>
    change flight ∈ (cache.finish number reply).flights at member
    rcases cache.finish_cases number reply with same | ⟨fetching, found, _, finished⟩
    · rw [same] at member
      exact .stays _ flight member
    · rw [finished] at member
      rcases mem_inPhase member with ⟨inside, _⟩ | ⟨before, inside, rfl, rfl⟩
      · exact .stays _ flight inside
      · exact .ends before fetching reply inside found
  | release number =>
    change flight ∈ (cache.release number).flights at member
    rcases cache.release_cases number with same | ⟨_, _, _, _, released⟩
    · rw [same] at member
      exact .stays _ flight member
    · rw [released] at member
      exact .stays _ flight (List.mem_of_mem_filter member)
  | cancel call =>
    change flight ∈ (cache.cancel call).flights at member
    rw [cancel_eq] at member
    exact .stays _ flight member
  | clear => exact .stays _ flight member
  | advance span => exact .stays _ flight member

/-- What becomes of a call with an event: nothing, unless its caller gives up or its flight is
released. -/
inductive Turned (event : Event τ) (call : Nat) : Option Status → Option Status → Prop
  | stays (status : Option Status) : Turned event call status status
  | givesUp (flight : Nat) (event_eq : event = .cancel call) :
      Turned event call (some (.waiting flight)) (some .cancelled)
  | answered (number : Nat) (event_eq : event = .release number) (flight : Flight)
      (outcome : Outcome) (found : cache.flight? number = some flight)
      (ended : flight.phase = .finished outcome) :
      Turned event call (some (.waiting number)) (some (.answered outcome))

/-- **An event changes a call only if its caller gives up or its flight is released.** -/
theorem status_step {call : Nat} (old : call < cache.calls.length) (event : Event τ) :
    Turned cache event call cache.calls[call]? (cache.step event).calls[call]? := by
  cases event with
  | call given limit =>
    obtain ⟨status, calls⟩ := cache.calls_call given limit
    show Turned _ _ _ _ (cache.call given limit).calls[call]?
    rw [calls, List.getElem?_append_left old]
    exact .stays _
  | begin number =>
    show Turned _ _ _ _ (cache.begin number).calls[call]?
    rw [(cache.begin_frame number).2.2.2]
    exact .stays _
  | finish number reply =>
    show Turned _ _ _ _ (cache.finish number reply).calls[call]?
    rw [(cache.finish_frame number reply).2.2.2]
    exact .stays _
  | release number =>
    show Turned _ _ _ _ (cache.release number).calls[call]?
    rcases cache.release_cases number with same | ⟨flight, outcome, found, ended, released⟩
    · rw [same]
      exact .stays _
    · rw [released]
      show Turned _ _ _ _ (answerAll cache.calls number outcome)[call]?
      unfold answerAll
      rw [List.getElem?_map, List.getElem?_eq_getElem old]
      cases state : cache.calls[call] with
      | waiting other =>
        by_cases same : other = number
        · subst same
          simpa [Status.waitsFor] using .answered other rfl flight outcome found ended
        · simpa [Status.waitsFor, same] using Turned.stays _
      | answered other => exact .stays _
      | cancelled => exact .stays _
  | cancel other =>
    show Turned _ _ _ _ (cache.cancel other).calls[call]?
    rw [cancel_calls]
    split
    · rename_i same
      subst same
      rw [List.getElem?_eq_getElem old]
      cases cache.calls[call] with
      | waiting flight => exact .givesUp flight rfl
      | answered outcome => exact .stays _
      | cancelled => exact .stays _
    · exact .stays _
  | clear => exact .stays _
  | advance span => exact .stays _

/-- Only a call adds a call. -/
theorem calls_step (event : Event τ) :
    (∃ given limit status, event = .call given limit ∧
        (cache.step event).calls = cache.calls ++ [status]) ∨
      (cache.step event).calls.length = cache.calls.length := by
  cases event with
  | call given limit =>
    obtain ⟨status, calls⟩ := cache.calls_call given limit
    exact .inl ⟨given, limit, status, rfl, calls⟩
  | begin number => exact .inr (congrArg List.length (cache.begin_frame number).2.2.2)
  | finish number reply => exact .inr (congrArg List.length (cache.finish_frame number reply).2.2.2)
  | release number =>
    refine .inr ?_
    show (cache.release number).calls.length = _
    rcases cache.release_cases number with same | ⟨_, _, _, _, released⟩
    · rw [same]
    · rw [released]
      exact List.length_map _
  | cancel call => exact .inr (cache.cancel_length call)
  | clear => exact .inr rfl
  | advance span => exact .inr rfl

/-- Flights only become more. -/
theorem opened_step (event : Event τ) : cache.opened ≤ (cache.step event).opened := by
  cases event with
  | call given limit => exact cache.opened_call given limit
  | begin number => exact Nat.le_of_eq (cache.begin_frame number).2.1.symm
  | finish number reply => exact Nat.le_of_eq (cache.finish_frame number reply).2.1.symm
  | release number =>
    have same : (cache.release number).opened = cache.opened := by
      rcases cache.release_cases number with same | ⟨_, _, _, _, released⟩
      · rw [same]
      · rw [released]
    exact Nat.le_of_eq same.symm
  | cancel call =>
    have same : (cache.cancel call).opened = cache.opened := by rw [cancel_eq]
    exact Nat.le_of_eq same.symm
  | clear => exact Nat.le_refl _
  | advance span => exact Nat.le_refl _

/-- Calls and flights only become more. -/
theorem step_grows (event : Event τ) :
    cache.calls.length ≤ (cache.step event).calls.length ∧
      cache.opened ≤ (cache.step event).opened := by
  refine ⟨?_, cache.opened_step event⟩
  rcases cache.calls_step event with ⟨_, _, status, _, calls⟩ | same
  · rw [calls, List.length_append]
    exact Nat.le_add_right _ _
  · exact Nat.le_of_eq same.symm

end

end ContractRisk.Cache
