/-
**Asking again for a code that has just been given.**

A call that is carried out alone finds an entry, or opens a flight whose own steps are all that happens
(`Alone`). In the course of these steps the flight comes to its outcome once, and a code is stored under
its address at that moment (`Course`, `Course.finish`). So if the call gave a code, there is an entry with
it, and as long as the entry is young the next call for the address is a hit, whatever the spelling
(`fetch_again`).
-/

import ContractRisk.Proofs.Cache.Recency
import ContractRisk.Proofs.Cache.Turns

namespace ContractRisk

variable {σ τ : Type}

namespace Cache

/-! ### The course of a flight -/

/-- A code that a flight came to is in the entry for its address. -/
def Stores (cache : Cache τ) (address : String) (time : τ) (outcome : Outcome) : Prop :=
  ∀ code, outcome = .ok code → cache.entry? address = some ⟨address, code, time⟩

/-- **How far a call with a flight of its own has come**, if nothing else happens: the flight is under
way, it has an outcome, or it is gone and the call has its answer. -/
inductive Course (number call : Nat) (address : String) (cache : Cache τ) : Prop
  | flies (flight : Flight) (found : cache.flight? number = some flight)
      (own : flight.address = address) (fetches : ∀ outcome, flight.phase ≠ .finished outcome)
      (waits : cache.calls[call]? = some (.waiting number))
  | ended (flight : Flight) (outcome : Outcome) (found : cache.flight? number = some flight)
      (phase : flight.phase = .finished outcome)
      (waits : cache.calls[call]? = some (.waiting number))
      (stores : cache.Stores address cache.now outcome)
  | answered (outcome : Outcome) (gone : cache.flight? number = none)
      (answer : cache.calls[call]? = some (.answered outcome))
      (stores : cache.Stores address cache.now outcome)

/-- A step of a flight. -/
inductive OwnStep (number : Nat) : Event τ → Prop
  | begin : OwnStep number (.begin number)
  | finish (reply : Reply) : OwnStep number (.finish number reply)
  | release : OwnStep number (.release number)

/-- The entry that came last stays, whatever makes room for it. -/
theorem evict_concat {size : Number} (roomy : ¬ size < 1) (entries : List (Entry τ)) (last : Entry τ) :
    ∃ kept, kept.Sublist entries ∧ (evict size (entries ++ [last])).1 = kept ++ [last] := by
  induction entries with
  | nil =>
    have fits : ¬ size < ((0 + 1 : Nat) : Number) := roomy
    refine ⟨[], List.Sublist.refl _, ?_⟩
    show (if size < ((0 + 1 : Nat) : Number) then _ else ([last], 0)).1 = _
    rw [if_neg fits]
    rfl
  | cons entry rest ih =>
    rw [List.cons_append, evict]
    split
    · obtain ⟨kept, inside, same⟩ := ih
      exact ⟨kept, inside.cons entry, same⟩
    · exact ⟨entry :: rest, List.Sublist.refl _, rfl⟩

theorem find?_concat {entries : List (Entry τ)} {last : Entry τ}
    (apart : ∀ entry ∈ entries, entry.address ≠ last.address) :
    (entries ++ [last]).find? (·.address = last.address) = some last := by
  rw [List.find?_append, List.find?_eq_none.mpr (by simpa using apart), List.find?_singleton]
  simp

theorem store_stores {cache : Cache τ} (roomy : ¬ cache.limits.size < 1) (address code : String) :
    Cache.entry? (cache.store address code) address = some ⟨address, code, cache.now⟩ := by
  obtain ⟨kept, inside, same⟩ :=
    evict_concat roomy (without cache.entries address) ⟨address, code, cache.now⟩
  show (evict cache.limits.size _).1.find? _ = _
  rw [same]
  have apart : ∀ entry ∈ kept, entry.address ≠ address :=
    fun _ member => (mem_without.mp (inside.subset member)).2
  have found := @find?_concat τ kept ⟨address, code, cache.now⟩ apart
  exact found

/-- A hit leaves its entry behind the others. -/
theorem hit_entry? (cache : Cache τ) (entry : Entry τ) :
    Cache.entry? (cache.hit entry) entry.address = some entry :=
  find?_concat fun _ member => (mem_without.mp member).2

section

variable {cache : Cache τ} {number call : Nat} {address : String}

/-- A call that joins a flight without an outcome has no answer. -/
theorem Tidy.join_unanswered (tidy : cache.Tidy) (registered : cache.registered? address = some number)
    (underWay : ∀ flight ∈ cache.flights, flight.address = address → ∀ outcome,
      flight.phase ≠ .finished outcome) (outcome : Outcome) :
    ((cache.dropStale address).join number).answer? cache.calls.length ≠ some outcome := by
  obtain ⟨flight, inside, own, numbered⟩ := tidy.flight_of_registered registered
  have found : (cache.dropStale address).flight? number = some flight := by
    rw [flight?_congr cache _ (cache.dropStale_flights address)]
    exact tidy.flight?_eq_some.mpr ⟨inside, numbered⟩
  have waits : (cache.dropStale address).joinedStatus number = .waiting number := by
    unfold joinedStatus
    rw [found]
    cases phase : flight.phase with
    | finished outcome => exact absurd phase (underWay flight inside own outcome)
    | _ => simp [phase]
  rw [ne_eq, answer?_eq_some, join_calls, waits, dropStale_calls, List.getElem?_concat_length]
  exact fun same => nomatch same

/-- A call whose flight came to a code has left an entry with it. -/
theorem Course.entry? (course : Course number call address cache) {code : String}
    (answer : cache.answer? call = some (.ok code)) :
    Cache.entry? cache address = some ⟨address, code, cache.now⟩ := by
  have status := answer?_eq_some.mp answer
  cases course with
  | flies _ _ _ _ waits => cases waits.symm.trans status
  | ended _ _ _ _ waits => cases waits.symm.trans status
  | answered outcome _ answered stores =>
    cases answered.symm.trans status
    exact stores code rfl

theorem Course.begin (course : Course number call address cache) :
    Course number call address (cache.begin number) := by
  unfold Cache.begin
  split
  · rename_i _ opened address' limit found
    cases course with
    | flies flight found' own fetches waits =>
      cases found.symm.trans found'
      have running : ({ cache with flights := inPhase cache.flights number .running } : Cache τ).flight?
          number = some ⟨opened, address', limit, .running⟩ := by
        rw [flight?_inPhase, found, Option.map_some, if_pos rfl]
      exact .flies _ running own (fun _ same => nomatch same) waits
    | ended flight outcome found' phase =>
      cases found.symm.trans found'
      cases phase
    | answered outcome gone =>
      cases found.symm.trans gone
  · exact course

/-- **A code is stored** when its flight comes to it. -/
theorem Course.finish (course : Course number call address cache) (roomy : ¬ cache.limits.size < 1)
    (reply : Reply) : Course number call address (cache.finish number reply) := by
  rcases cache.finish_cases number reply with same | ⟨flight, found, running, finished⟩
  · rwa [same]
  cases course with
  | flies flight' found' own _ waits =>
    cases found.symm.trans found'
    rw [finished]
    generalize outcome_eq : reply.outcome flight.address flight.limit = outcome
    obtain ⟨flights, -, -, calls, -, now⟩ := cache.record_frame flight.address outcome
    have landed : ({ cache with flights := inPhase cache.flights number (.finished outcome) } :
        Cache τ).flight? number = some { flight with phase := .finished outcome } := by
      rw [flight?_inPhase, found, Option.map_some, if_pos rfl]
    refine .ended _ outcome landed rfl ?_ ?_
    · show (cache.record flight.address outcome).calls[call]? = _
      rw [calls]
      exact waits
    · rintro code rfl
      show Cache.entry? (cache.store flight.address code) address = _
      rw [own]
      exact store_stores roomy address code
  | ended flight' outcome found' phase =>
    cases found.symm.trans found'
    cases running.symm.trans phase
  | answered outcome gone =>
    cases found.symm.trans gone

theorem Course.release (course : Course number call address cache) :
    Course number call address (cache.release number) := by
  rcases cache.release_cases number with same | ⟨flight, outcome, found, phase, released⟩
  · rwa [same]
  cases course with
  | flies flight' found' _ fetches =>
    cases found.symm.trans found'
    exact absurd phase (fetches outcome)
  | ended flight' outcome' found' phase' waits stores =>
    cases found.symm.trans found'
    cases phase.symm.trans phase'
    rw [released]
    refine .answered outcome ?_ ?_ stores
    · exact (cache.flight?_filter number number).trans (if_pos rfl)
    · show (answerAll cache.calls number outcome)[call]? = _
      unfold answerAll
      rw [List.getElem?_map, waits]
      simp [Status.waitsFor]
  | answered outcome' gone =>
    cases found.symm.trans gone

/-- A call that opens a flight begins its course. -/
theorem Tidy.course (tidy : cache.Tidy) (unregistered : cache.registered? address = none)
    (limit : Option Number) :
    Course cache.opened cache.calls.length address (cache.launch address limit) := by
  refine .flies ⟨cache.opened, address, limit <|> cache.limits.timeout, .opened⟩ ?_ rfl
    (fun _ same => nomatch same) List.getElem?_concat_length
  exact (tidy.launch unregistered limit).flight?_eq_some.mpr
    ⟨List.mem_append_right _ (List.mem_singleton_self _), rfl⟩

end

end Cache

namespace Traffic

/-! ### A call on its own -/

/-- Whether a turn is one of a flight, or tells a call of its answer. -/
def IsOwn (number : Nat) : Turn → Prop
  | .begin flight | .enter flight | .finish flight _ | .release flight => flight = number
  | .resume _ => True
  | .seat _ _ _ => False

/-- **Nothing goes on but the steps of one flight**, in the course of a call. -/
structure Alone (number call : Nat) (address : String) (limits : Cache.Limits τ) (now : τ)
    (traffic : Traffic σ τ) : Prop where
  course : traffic.cache.Course number call address
  limits : traffic.cache.limits = limits
  now : traffic.cache.now = now
  queue : ∀ entry ∈ traffic.queue, IsOwn number entry.2
  parked : ∀ entry ∈ traffic.parked, entry.1 = number
  batches : traffic.batches = []

section

variable {number call : Nat} {address : String} {limits : Cache.Limits τ} {now : τ}
  {traffic next : Traffic σ τ}

theorem Alone.push (alone : Alone number call address limits now traffic) (wait : Nat) {turn : Turn}
    (own : IsOwn number turn) : Alone number call address limits now (traffic.push wait turn) :=
  { alone with
    queue := by
      intro entry member
      rcases List.mem_append.mp member with before | last
      · exact alone.queue entry before
      · rw [List.mem_singleton.mp last]
        exact own }

/-- Those who wait are told. -/
theorem Alone.release (alone : Alone number call address limits now traffic)
    (released : Alone number call address limits now
      { traffic with cache := traffic.cache.release number }) :
    Alone number call address limits now (traffic.release number) :=
  { released with
    queue := by
      intro entry member
      rcases List.mem_append.mp member with before | told
      · exact alone.queue entry before
      · obtain ⟨call, _, rfl⟩ := List.mem_map.mp told
        trivial }

variable [Add τ] [Sub τ] [LE τ] [DecidableLE τ] (roomy : ¬ limits.size < 1)

include roomy

/-- The flight takes a step. -/
theorem Alone.event (alone : Alone number call address limits now traffic) {event : Cache.Event τ}
    (own : Cache.OwnStep number event) :
    Alone number call address limits now { traffic with cache := traffic.cache.step event } := by
  obtain ⟨bounds, time⟩ := traffic.cache.step_fixed event
  refine { alone with course := ?_, limits := bounds.trans alone.limits, now := ?_ }
  · cases own with
    | begin => exact alone.course.begin
    | finish reply => exact alone.course.finish (alone.limits.symm ▸ roomy) reply
    | release => exact alone.course.release
  · rw [← alone.now]
    cases own <;> exact time

theorem Alone.finish (alone : Alone number call address limits now traffic) (reply : Reply) :
    Alone number call address limits now (traffic.finish number reply) :=
  (alone.event roomy (.finish reply)).push 0 rfl

theorem Alone.enter [Source σ] (alone : Alone number call address limits now traffic)
    {flight : Cache.Flight} (own : flight.number = number) :
    Alone number call address limits now (traffic.enter flight) := by
  unfold Traffic.enter
  cases Source.ask traffic.source flight.address with
  | mk response source =>
    have asked : Alone number call address limits now
        { traffic with source, asked := traffic.asked ++ [flight.address] } :=
      ⟨alone.course, alone.limits, alone.now, alone.queue, alone.parked, alone.batches⟩
    have parked (held : Bool) : ∀ entry ∈ traffic.parked ++ [(flight.number, held)],
        entry.1 = number := by
      intro entry member
      rcases List.mem_append.mp member with before | last
      · exact alone.parked entry before
      · rw [List.mem_singleton.mp last]
        exact own
    cases response with
    | reply reply =>
      simp only [own]
      split
      · exact asked.finish roomy reply
      · exact asked.push 1 rfl
    | silent => exact { asked with parked := parked false }
    | held => exact { asked with parked := parked true }

theorem Alone.begin [Source σ] (alone : Alone number call address limits now traffic)
    {flight : Cache.Flight} (own : flight.number = number) :
    Alone number call address limits now (traffic.begin flight) := by
  have begun : Alone number call address limits now
      { traffic with cache := traffic.cache.begin flight.number } := by
    rw [own]
    exact alone.event roomy .begin
  unfold Traffic.begin
  simp only
  split
  · exact begun.enter roomy own
  · split
    · exact begun.push 2 own
    · exact begun.push 0 own

theorem Alone.take [Source σ] (alone : Alone number call address limits now traffic) {turn : Turn}
    (own : IsOwn number turn) : Alone number call address limits now (traffic.take turn) := by
  have taken := traffic.take_cases turn
  generalize traffic.take turn = next at taken ⊢
  cases taken with
  | gone => exact alone
  | begin flight => exact alone.begin roomy own
  | enter flight => exact alone.enter roomy own
  | finish flight reply =>
    cases own
    exact alone.finish roomy reply
  | release flight =>
    cases own
    exact alone.release (alone.event roomy .release)
  | resume call =>
    have nobody : traffic.resume call = traffic := by
      unfold Traffic.resume
      rw [alone.batches]
      rfl
    rwa [nobody]
  | seat => exact own.elim

/-- **A call on its own stays on its own.** -/
theorem Alone.move [Source σ] (alone : Alone number call address limits now traffic)
    (move : Move traffic next) : Alone number call address limits now next := by
  cases move with
  | turn turn rest queued =>
    have popped : Alone number call address limits now { traffic with queue := rest } :=
      { alone with queue := fun entry member => alone.queue entry (queued ▸ List.mem_cons_of_mem _ member) }
    exact popped.take roomy (alone.queue (0, turn) (queued ▸ List.mem_cons_self))
  | wait wait turn rest queued =>
    refine { alone with queue := fun entry member => ?_ }
    rcases List.mem_append.mp member with before | last
    · exact alone.queue entry (queued ▸ List.mem_cons_of_mem _ before)
    · rw [List.mem_singleton.mp last]
      exact alone.queue (wait + 1, turn) (queued ▸ List.mem_cons_self)
  | giveUp =>
    refine { alone with queue := fun entry member => ?_, parked := fun entry member => ?_ }
    · rcases List.mem_append.mp member with before | late
      · exact alone.queue entry before
      · obtain ⟨parked, inside, rfl⟩ := List.mem_map.mp late
        exact alone.parked parked (List.mem_of_mem_filter inside)
    · exact alone.parked entry (List.mem_of_mem_filter member)

end

/-! ### Asking again -/

section

variable [Sub τ] [LE τ] [DecidableLE τ] [Source σ]

/-- Traffic in which nothing is queued and nothing is parked is settled. -/
theorem settle_idle {traffic : Traffic σ τ} (queue : traffic.queue = []) (parked : traffic.parked = []) :
    traffic.settle = traffic := by
  refine settle_kept (· = traffic) rfl fun before next same move => ?_
  subst same
  cases move with
  | turn turn rest queued => cases queue.symm.trans queued
  | wait wait turn rest queued => cases queue.symm.trans queued
  | giveUp _ late =>
    refine absurd ?_ late
    unfold Traffic.late
    rw [parked]
    rfl

variable {cache : Cache τ} {source : σ} {given : Value} {limit : Option Number}

/-- A call that opens no flight is all that happens. -/
theorem fetch_unopened (same : (cache.call given limit).opened = cache.opened) :
    ({ cache, source } : Traffic σ τ).fetch ⟨given, limit⟩ =
      ({ cache := cache.call given limit, source },
        (cache.call given limit).answer? cache.calls.length) := by
  have alone : ({ cache, source } : Traffic σ τ).call ⟨given, limit⟩ =
      { cache := cache.call given limit, source } := by
    unfold Traffic.call
    simp only [same, if_neg (Nat.lt_irrefl _)]
  unfold Traffic.fetch
  simp only [alone, settle_idle]

variable [Add τ]

/-- A call that opens a flight sees it through to what it comes to. -/
theorem fetch_launched {address : String} (tidy : cache.Tidy) (roomy : ¬ cache.limits.size < 1)
    (unregistered : cache.registered? address = none)
    (launched : cache.call given limit = (cache.dropStale address).launch address limit) :
    let after := (({ cache, source } : Traffic σ τ).fetch ⟨given, limit⟩).1
    Alone cache.opened cache.calls.length address cache.limits cache.now after := by
  have opened : cache.opened < (cache.call given limit).opened := by
    rw [launched]
    show cache.opened < (cache.dropStale address).opened + 1
    rw [Cache.dropStale_opened]
    exact Nat.lt_succ_self _
  have course := (tidy.dropStale address).course
    ((cache.registered?_dropStale address address).trans unregistered) limit
  rw [← launched, Cache.dropStale_opened, Cache.dropStale_calls] at course
  obtain ⟨bounds, time⟩ := cache.call_fixed given limit
  have begun : Alone cache.opened cache.calls.length address cache.limits cache.now
      (({ cache, source } : Traffic σ τ).call ⟨given, limit⟩) := by
    have calls : Alone cache.opened cache.calls.length address cache.limits cache.now
        ({ cache := cache.call given limit, source } : Traffic σ τ) :=
      ⟨course, bounds, time, fun _ member => (nomatch member), fun _ member => (nomatch member), rfl⟩
    unfold Traffic.call
    simp only [if_pos opened]
    exact calls.push 0 rfl
  exact settle_kept _ begun fun _ _ alone move => alone.move roomy move

/-- **After a call that gave a code there is an entry with it**, a new one if the call was no hit. -/
theorem fetch_stores (tidy : cache.Tidy) (roomy : ¬ cache.limits.size < 1) {address : String}
    (wellFormed : Address.normalize? given = some address)
    (released : ∀ flight ∈ cache.flights, flight.address = address → ∀ outcome,
      flight.phase ≠ .finished outcome) {after : Traffic σ τ} {code : String}
    (fetched : ({ cache, source } : Traffic σ τ).fetch ⟨given, limit⟩ = (after, some (.ok code))) :
    after.cache.limits = cache.limits ∧ after.cache.now = cache.now ∧
      ∃ entry, after.cache.entry? address = some entry ∧ entry.code = code ∧
        (cache.isHit given limit = false → entry.storedAt = cache.now) := by
  have called := cache.call_cases given limit
  generalize next_eq : cache.call given limit = next at called
  cases called with
  | refused malformed => cases wellFormed.symm.trans malformed
  | hit address' wellFormed' entry found young =>
    cases wellFormed.symm.trans wellFormed'
    rw [fetch_unopened (by rw [next_eq]; rfl), next_eq] at fetched
    obtain ⟨rfl, answer⟩ := Prod.mk.inj fetched
    have status : (cache.hit entry).calls[cache.calls.length]? = some (.answered (.ok entry.code)) :=
      List.getElem?_concat_length
    cases status.symm.trans (Cache.answer?_eq_some.mp answer)
    have own : entry.address = address := by simpa using List.find?_some found
    refine ⟨rfl, rfl, entry, own ▸ cache.hit_entry? entry, rfl, fun missed => ?_⟩
    rw [cache.isHit_eq wellFormed, found, Option.any_some, young] at missed
    cases missed
  | joined address' wellFormed' missed number registered =>
    -- the flight has no outcome yet, so the call waits
    cases wellFormed.symm.trans wellFormed'
    have opened : ((cache.dropStale address).join number).opened = cache.opened :=
      Cache.dropStale_opened cache address
    rw [fetch_unopened (by rw [next_eq]; exact opened), next_eq] at fetched
    exact absurd (Prod.mk.inj fetched).2 (tidy.join_unanswered registered released _)
  | launched address' wellFormed' missed unregistered =>
    cases wellFormed.symm.trans wellFormed'
    have alone := @fetch_launched σ τ _ _ _ _ cache source given limit _ _ tidy roomy unregistered next_eq
    have answer : (({ cache, source } : Traffic σ τ).fetch ⟨given, limit⟩).1.cache.answer?
        cache.calls.length = some (.ok code) := congrArg Prod.snd fetched
    simp only [fetched] at alone answer
    exact ⟨alone.limits, alone.now, _, alone.course.entry? answer, rfl, fun _ => alone.now⟩

/-- **Asking again is a hit.** When a call that nothing interferes with has given a code, the next call
for the address has the same code at once, in whatever spelling, as long as the entry is young. -/
theorem fetch_again (tidy : cache.Tidy) (roomy : ¬ cache.limits.size < 1) {address : String}
    (wellFormed : Address.normalize? given = some address) {again : Value}
    (wellFormed' : Address.normalize? again = some address)
    (released : ∀ flight ∈ cache.flights, flight.address = address → ∀ outcome,
      flight.phase ≠ .finished outcome) {after : Traffic σ τ} {code : String}
    (fetched : ({ cache, source } : Traffic σ τ).fetch ⟨given, limit⟩ = (after, some (.ok code))) :
    ∃ entry, after.cache.entry? address = some entry ∧ entry.code = code ∧
      (cache.isHit given limit = false → entry.storedAt = cache.now) ∧
      ∀ span limit', ¬ cache.limits.lifetime ≤ cache.now + span - entry.storedAt →
        (after.cache.advance span).AnswersAtOnce again limit' code := by
  obtain ⟨bounds, time, entry, found, rfl, stored⟩ := fetch_stores tidy roomy wellFormed released fetched
  refine ⟨entry, found, rfl, stored, fun span limit' young => ?_⟩
  have fresh : (after.cache.advance span).isExpired entry = false := by
    refine decide_eq_false fun old => young ?_
    rw [← bounds, ← time]
    exact old
  exact Cache.answersAtOnce wellFormed' limit' found fresh

end

end Traffic

end ContractRisk
