/-
**What a cache gives out.**

If every reply that finishes a flight is good for the address of the flight, then everything that a
cache holds and gives out is good (`Vouched`), and every call comes to what it is owed (`Serves`): a
malformed address to a refusal, any other to an outcome that is good for it.

* `step_vouched`: entries and finished flights stay good;
* `call_serves`, `step_serves`: a call is served from the start, and whatever happens later but for its
  caller giving up;
* `run_vouched`: if all replies are good, all that is ever held or given out is;
* `reply_fetched`: every reply comes to a canonical code, to a failed analysis, or to a failure that is no
  ordinary one;
* `outcome_ordinary`: the last only if the source raised such a failure.
-/

import ContractRisk.Proofs.Bytecode.Canonical
import ContractRisk.Proofs.Cache.Recency

namespace ContractRisk

/-- Whether a reply is anything but a cancellation or the like. -/
def Reply.isOrdinary : Reply → Bool
  | raised failure => failure.isOrdinary
  | _ => true

namespace Cache

variable {τ : Type} {good : String → Outcome → Prop}

/-- All that a cache holds is good: the entries, and the outcomes of its flights. -/
structure Vouched (good : String → Outcome → Prop) (cache : Cache τ) : Prop where
  entries : ∀ entry ∈ cache.entries, good entry.address (.ok entry.code)
  flights : ∀ flight ∈ cache.flights, ∀ outcome, flight.phase = .finished outcome →
    good flight.address outcome

/-- What a call is owed: a refusal if the address is malformed, else an outcome good for it. -/
def Owed (good : String → Outcome → Prop) (given : Value) (outcome : Outcome) : Prop :=
  match Address.normalize? given with
  | none => outcome = .error (.refused .address)
  | some address => good address outcome

/-- What is good for its address is what a call is owed. -/
theorem Owed.intro {given : Value} {address : String} {outcome : Outcome}
    (wellFormed : Address.normalize? given = some address) (held : good address outcome) :
    Owed good given outcome := by
  unfold Owed
  rw [wellFormed]
  exact held

/-- **A call is served**: it waits for a flight for its own address, or has what it is owed. -/
inductive Serves (good : String → Outcome → Prop) (cache : Cache τ) (given : Value) (call : Nat) : Prop
  | waits (flight : Flight) (status : cache.calls[call]? = some (.waiting flight.number))
      (there : flight ∈ cache.flights) (own : Address.normalize? given = some flight.address)
  | answered (outcome : Outcome) (status : cache.calls[call]? = some (.answered outcome))
      (owed : Owed good given outcome)

/-- A call that is served waits or has its answer. -/
theorem Serves.present {cache : Cache τ} {given : Value} {call : Nat}
    (serves : Serves good cache given call) :
    (∃ flight, cache.calls[call]? = some (.waiting flight)) ∨
      ∃ outcome, cache.calls[call]? = some (.answered outcome) := by
  cases serves with
  | waits flight status => exact .inl ⟨_, status⟩
  | answered outcome status => exact .inr ⟨outcome, status⟩

/-- Whether an event finishes a flight with a good outcome, if it finishes one. -/
def Truthful (good : String → Outcome → Prop) (cache : Cache τ) : Event τ → Prop
  | .finish number reply => ∀ flight, cache.flight? number = some flight →
    good flight.address (reply.outcome flight.address flight.limit)
  | _ => True

theorem vouched_empty (limits : Limits τ) (now : τ) :
    Vouched good ({ limits, now } : Cache τ) where
  entries := fun _ member => nomatch member
  flights := fun _ member => nomatch member

/-- If every reply is good, every event is truthful. -/
theorem truthful_always
    (always : ∀ reply address limit, good address (Reply.outcome address limit reply)) (cache : Cache τ)
    (event : Event τ) : Truthful good cache event := by
  cases event with
  | finish number reply => exact fun flight _ => always reply flight.address flight.limit
  | _ => trivial

/-! ### What is held stays good -/

theorem evict_sublist (size : Number) (entries : List (Entry τ)) :
    (evict size entries).1.Sublist entries := by
  induction entries with
  | nil => exact List.Sublist.refl _
  | cons entry rest ih =>
    unfold evict
    split
    · exact ih.cons entry
    · exact List.Sublist.refl _

section

variable [Sub τ] [LE τ] [DecidableLE τ] {cache : Cache τ}

/-- An entry is an old one, or the mark tells of it. -/
theorem Touched.mem {mark : Option (Mark τ)} {entries : List (Entry τ)} {entry : Entry τ}
    (touched : Touched cache mark entries) (member : entry ∈ entries) :
    entry ∈ cache.entries ∨ mark = some (.stored entry.address entry.code entry.storedAt) := by
  cases touched with
  | stays => exact .inl member
  | dropped address => exact .inl (mem_without.mp member).1
  | used found here =>
    rcases List.mem_append.mp member with before | last
    · exact .inl (mem_without.mp before).1
    · rw [List.mem_singleton.mp last]
      exact .inl (List.mem_of_find?_eq_some here)
  | stored address code =>
    rcases List.mem_append.mp ((evict_sublist _ _).subset member) with before | last
    · exact .inl (mem_without.mp before).1
    · rw [List.mem_singleton.mp last]
      exact .inr rfl
  | cleared => cases member

/-- A code is stored by a reply to a flight. -/
theorem mark?_stored {event : Event τ} {address code : String} {time : τ}
    (mark : cache.mark? event = some (.stored address code time)) :
    ∃ number reply flight, event = .finish number reply ∧ cache.flight? number = some flight ∧
      flight.address = address ∧ reply.outcome flight.address flight.limit = .ok code := by
  cases mark?_cases mark with
  | stored number reply flight _ found _ outcome =>
    exact ⟨number, reply, flight, rfl, found, rfl, outcome⟩

omit [Sub τ] [LE τ] [DecidableLE τ] in
/-- A call that joins a flight waits for it, or has its outcome. -/
theorem join_serves (tidy : cache.Tidy) (vouched : Vouched good cache) {given : Value}
    {address : String} (wellFormed : Address.normalize? given = some address) {number : Nat}
    (registered : cache.registered? address = some number) :
    Serves good ((cache.dropStale address).join number) given cache.calls.length := by
  obtain ⟨flight, member, rfl, rfl⟩ := tidy.flight_of_registered registered
  have found : (cache.dropStale flight.address).flight? flight.number = some flight := by
    rw [cache.flight?_congr _ (cache.dropStale_flights flight.address)]
    exact tidy.flight?_eq_some.mpr ⟨member, rfl⟩
  have status : ((cache.dropStale flight.address).join flight.number).calls[cache.calls.length]? =
      some ((cache.dropStale flight.address).joinedStatus flight.number) := by
    rw [join_calls, dropStale_calls]
    exact List.getElem?_concat_length
  unfold joinedStatus at status
  rw [found, Option.map_some] at status
  split at status
  · rename_i outcome ended
    have held := vouched.flights flight member outcome (Option.some.inj ended)
    exact .answered outcome status (.intro wellFormed held)
  · refine .waits flight status ?_ wellFormed
    show flight ∈ (cache.dropStale flight.address).flights
    rwa [dropStale_flights]

/-- **A call is served from the start.** -/
theorem call_serves (tidy : cache.Tidy) (vouched : Vouched good cache) (given : Value)
    (limit : Option Number) :
    Serves good (cache.call given limit) given cache.calls.length := by
  have called := cache.call_cases given limit
  generalize cache.call given limit = after at called ⊢
  cases called with
  | refused malformed =>
    refine .answered _ List.getElem?_concat_length ?_
    unfold Owed
    rw [malformed]
  | hit address wellFormed entry found =>
    have own : entry.address = address := by simpa using List.find?_some found
    have held := vouched.entries entry (List.mem_of_find?_eq_some found)
    exact .answered _ List.getElem?_concat_length (.intro wellFormed (own ▸ held))
  | joined address wellFormed missed number registered =>
    exact join_serves tidy vouched wellFormed registered
  | launched address wellFormed =>
    refine .waits ⟨cache.opened, address, limit <|> cache.limits.timeout, .opened⟩ ?_ ?_ wellFormed
    · show ((cache.dropStale address).calls ++ [.waiting (cache.dropStale address).opened])[_]? = _
      rw [dropStale_calls, dropStale_opened]
      exact List.getElem?_concat_length
    · refine List.mem_append_right _ (List.mem_singleton.mpr ?_)
      rw [dropStale_opened, dropStale_limits]

variable [Add τ]

/-- **What a cache holds stays good** as long as replies are. -/
theorem step_vouched (tidy : cache.Tidy) (vouched : Vouched good cache) {event : Event τ}
    (truthful : Truthful good cache event) : Vouched good (cache.step event) where
  entries := by
    intro entry member
    rcases (cache.entries_step event).mem member with before | mark
    · exact vouched.entries entry before
    · obtain ⟨number, reply, flight, rfl, found, own, outcome⟩ := mark?_stored mark
      have held := truthful flight found
      rwa [outcome, own] at held
  flights := by
    intro flight member outcome ended
    cases cache.came_step member with
    | stays _ _ before => exact vouched.flights flight before outcome ended
    | opens => cases ended
    | starts => cases ended
    | ends before fetching reply inside found =>
      obtain ⟨inside', own⟩ := tidy.flight?_eq_some.mp found
      cases tidy.eq_of_number inside' inside own
      cases ended
      exact truthful before found

/-! ### Calls are served -/

/-- **A call is served on whatever happens**, unless its caller gives up. -/
theorem step_serves (tidy : cache.Tidy) (vouched : Vouched good cache) {given : Value} {call : Nat}
    (serves : Serves good cache given call) {event : Event τ} (stays : event ≠ .cancel call) :
    Serves good (cache.step event) given call := by
  have old : call < cache.calls.length := by
    cases serves with
    | waits _ status => exact (List.getElem?_eq_some_iff.mp status).1
    | answered _ status => exact (List.getElem?_eq_some_iff.mp status).1
  have turned := cache.status_step old event
  generalize state : (cache.step event).calls[call]? = after at turned
  cases serves with
  | answered outcome status owed =>
    rw [status] at turned
    cases turned
    exact .answered outcome state owed
  | waits flight status there own =>
    have found := tidy.flight?_eq_some.mpr ⟨there, rfl⟩
    rw [status] at turned
    cases turned with
    | stays =>
      -- whoever still waits waits for a flight that is still there
      have tidy' := step_tidy tidy event
      obtain ⟨flight', there', same⟩ := tidy'.flight_of_waiting state
      have moved := cache.flight?_step
        (tidy.below _ (mem_keys.mpr ⟨flight, there, rfl, rfl⟩)) event
      rw [found, ← same, tidy'.flight?_eq_some.mpr ⟨there', rfl⟩] at moved
      have own' : flight'.address = flight.address := by
        cases moved <;> rfl
      exact .waits flight' (same ▸ state) there' (own' ▸ own)
    | givesUp _ given_up => exact absurd given_up stays
    | answered _ _ flight' outcome found' ended =>
      rw [found] at found'
      cases found'
      exact .answered outcome state (.intro own (vouched.flights flight there outcome ended))

/-! ### All that is ever given out -/

/-- All that was answered is good for some address, or refuses one. -/
def Answers (good : String → Outcome → Prop) (cache : Cache τ) : Prop :=
  ∀ outcome, .answered outcome ∈ cache.calls →
    outcome = .error (.refused .address) ∨ ∃ address, good address outcome

theorem Owed.answers {given : Value} {outcome : Outcome} (owed : Owed good given outcome) :
    outcome = .error (.refused .address) ∨ ∃ address, good address outcome := by
  unfold Owed at owed
  split at owed
  · exact .inl owed
  · exact .inr ⟨_, owed⟩

theorem step_answers (tidy : cache.Tidy) (vouched : Vouched good cache) (answers : Answers good cache)
    (event : Event τ) : Answers good (cache.step event) := by
  intro outcome given
  obtain ⟨call, state⟩ := List.mem_iff_getElem?.mp given
  have inRange : call < (cache.step event).calls.length := (List.getElem?_eq_some_iff.mp state).1
  by_cases old : call < cache.calls.length
  · have turned := cache.status_step old event
    rw [state] at turned
    generalize status : cache.calls[call]? = before at turned
    cases turned with
    | stays => exact answers outcome (List.mem_of_getElem? status)
    | answered number _ flight _ found ended =>
      have there := (tidy.flight?_eq_some.mp found).1
      exact .inr ⟨flight.address, vouched.flights flight there outcome ended⟩
  · -- an answer to a call that was not there before is given with the call
    rcases cache.calls_step event with ⟨address, limit, status, rfl, calls⟩ | same
    · rw [calls, List.length_append, List.length_singleton] at inRange
      obtain rfl : call = cache.calls.length := by omega
      change (cache.call address limit).calls[cache.calls.length]? = _ at state
      cases call_serves tidy vouched address limit with
      | waits _ status => cases status.symm.trans state
      | answered other status owed =>
        cases status.symm.trans state
        exact owed.answers
    · exact absurd (same ▸ inRange) old

/-- **If every reply is good, a call is served on** until its caller gives up. -/
theorem run_serves (always : ∀ reply address limit, good address (Reply.outcome address limit reply))
    (tidy : cache.Tidy) (vouched : Vouched good cache) {given : Value} {call : Nat}
    (serves : Serves good cache given call) {events : List (Event τ)}
    (stays : ∀ event ∈ events, event ≠ .cancel call) : Serves good (cache.run events) given call := by
  induction events generalizing cache with
  | nil => exact serves
  | cons event rest ih =>
    have truthful := truthful_always always cache event
    exact ih (step_tidy tidy event) (step_vouched tidy vouched truthful)
      (step_serves tidy vouched serves (stays event List.mem_cons_self))
      fun later member => stays later (List.mem_cons_of_mem _ member)

/-- **If every reply is good, all that is ever held or given out is**, in every order of events. -/
theorem run_vouched (always : ∀ reply address limit, good address (Reply.outcome address limit reply))
    (limits : Limits τ) (now : τ) (events : List (Event τ)) :
    Vouched good (({ limits, now } : Cache τ).run events) ∧
      Answers good (({ limits, now } : Cache τ).run events) := by
  have kept (events : List (Event τ)) : ∀ cache : Cache τ, cache.Tidy → Vouched good cache →
      Answers good cache → Vouched good (cache.run events) ∧ Answers good (cache.run events) := by
    induction events with
    | nil => exact fun _ _ vouched answers => ⟨vouched, answers⟩
    | cons event rest ih =>
      intro cache tidy vouched answers
      exact ih _ (step_tidy tidy event) (step_vouched tidy vouched (truthful_always always cache event))
        (step_answers tidy vouched answers event)
  exact kept events _ (tidy_empty limits now) (vouched_empty limits now) fun _ given => nomatch given

end

/-! ### What a fetch can come to -/

/-- A code that is its own canonical text, a failed analysis, or a failure that is no ordinary one. -/
def Fetched (_ : String) : Outcome → Prop
  | .ok code => Bytecode.canonical (.text code) = .ok code
  | .error failure => failure.isOrdinary = true → failure.kind.isAnalysis = true

/-- **Every reply comes to a canonical code, or to a failed analysis if it comes to an ordinary failure**,
whatever the source gave or raised. -/
theorem reply_fetched (reply : Reply) (address : String) (limit : Option Number) :
    Fetched address (reply.outcome address limit) := by
  cases reply with
  | returned value =>
    show Fetched address ((Bytecode.canonical value).mapError .badCode)
    cases canonical : Bytecode.canonical value with
    | ok code =>
      obtain ⟨_, _, same, _⟩ := Bytecode.canonical_ok canonical
      exact same
    | error fault => exact fun _ => rfl
  | overdue => exact fun _ => rfl
  | raised failure =>
    unfold Reply.outcome
    simp only
    split
    · exact fun _ => rfl
    · split
      · rename_i analysis
        exact fun _ => analysis
      · split
        · exact nofun
        · split
          · exact fun _ => rfl
          · rename_i strange
            exact fun ordinary => absurd ordinary strange

/-- A reply that is no cancellation or the like comes to an ordinary failure, if to one. -/
theorem outcome_ordinary {reply : Reply} {address : String} {limit : Option Number} {failure : Failure}
    (ordinary : reply.isOrdinary = true) (fails : reply.outcome address limit = .error failure) :
    failure.isOrdinary = true := by
  cases reply with
  | returned value =>
    change (Bytecode.canonical value).mapError .badCode = .error failure at fails
    cases canonical : Bytecode.canonical value with
    | ok code =>
      rw [canonical] at fails
      cases fails
    | error fault =>
      rw [canonical] at fails
      cases fails
      rfl
  | overdue =>
    cases fails
    rfl
  | raised cause =>
    have ordinary : cause.isOrdinary = true := ordinary
    unfold Reply.outcome at fails
    simp only at fails
    split at fails
    · cases fails
      rfl
    · split at fails
      · cases fails
        exact ordinary
      · split at fails
        · rename_i cancelled
          have other : cause.kind.isOrdinary = true := ordinary
          rw [cancelled] at other
          cases other
        · cases fails
          rfl

end Cache

end ContractRisk
