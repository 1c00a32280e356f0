/-
**Every call comes to what it is owed.**

A source is honest if whatever it does when it is asked makes a good outcome for the address
(`Honest`); it may hold its reply back, if the one that is let go later is good (`Deed.Truthful`). Replies
travel through the queue: each is promised to be good for the flight that it is for (`Promises`). So traffic
with an honest source stays faithful (`Faithful`) and goes on by truthful events alone, and nobody gives up
(`Faithful.move`), also in a course of deeds that ask for nothing (`Faithful.course`). Once at rest, and all
replies have come, it has no flight any more (`Faithful.no_flights`), and a call has the outcome that it is
owed:

* `Faithful.through`: traffic in a course of deeds, until it comes to rest;
* `Resting.call`: a single call for an address, from rest to rest.
-/

import ContractRisk.Proofs.Cache.Deeds
import ContractRisk.Proofs.Cache.Effort
import ContractRisk.Proofs.Cache.Outcomes

namespace ContractRisk

variable {σ τ : Type} {good : String → Outcome → Prop} {limit : Option Number} {held : Prop}

/-! ### Honest sources -/

/-- A time limit that is over at once. -/
def Immediate (limit : Option Number) : Prop := ∃ span, limit = some span ∧ span ≤ 0

/-- Whether a response makes a good outcome for an address: a reply does so by itself, silence by the
end of the time. A reply may be held back if any is `held`. -/
def Response.Good (good : String → Outcome → Prop) (limit : Option Number) (held : Prop)
    (address : String) : Response → Prop
  | .reply given => good address (given.outcome address limit)
  | .silent => good address (Reply.overdue.outcome address limit)
  | .held => held

/-- **Sources whose responses are good**, however often they are asked. -/
structure Honest [Source σ] (good : String → Outcome → Prop) (limit : Option Number) (held : Prop)
    (kind : σ → Prop) : Prop where
  asked : ∀ source, kind source → ∀ address, kind (Source.ask source address).2 ∧
    (¬ Immediate limit → (Source.ask source address).1.Good good limit held address)
  immediate : Immediate limit → ∀ address, good address (Reply.overdue.outcome address limit)

/-- That what a deed lets go makes a good outcome for the address. -/
def Deed.Truthful (good : String → Outcome → Prop) (limit : Option Number) : Deed τ → Prop
  | .letGo address reply => good address (reply.outcome address limit)
  | _ => True

namespace Cache

variable {cache after : Cache τ}

/-! ### Truthful events -/

/-- The cache goes on by truthful events, and nobody gives up. -/
inductive GoesOn [Add τ] [Sub τ] [LE τ] [DecidableLE τ] (good : String → Outcome → Prop)
    (cache : Cache τ) : Cache τ → Prop
  | refl : GoesOn good cache cache
  | step {next : Cache τ} (goes : GoesOn good cache next) (event : Event τ)
      (truthful : Truthful good next event) (stays : ∀ call, event ≠ .cancel call) :
      GoesOn good cache (next.step event)

/-- A reply that is good for the flight that it is for. -/
def Promises (good : String → Outcome → Prop) (limit : Option Number) (cache : Cache τ)
    (number : Nat) (reply : Reply) : Prop :=
  number < cache.opened ∧ ∀ flight ∈ cache.flights, flight.number = number →
    good flight.address (reply.outcome flight.address limit)

/-- All flights have one time limit. -/
structure Limited (limit : Option Number) (cache : Cache τ) : Prop where
  timeout : cache.limits.timeout = limit
  flights : ∀ flight ∈ cache.flights, flight.limit = limit

section

variable [Add τ] [Sub τ] [LE τ] [DecidableLE τ]

theorem GoesOn.trans {next : Cache τ} (first : GoesOn good cache next)
    (second : GoesOn good next after) : GoesOn good cache after := by
  induction second with
  | refl => exact first
  | step goes event truthful stays ih => exact ih.step event truthful stays

/-- **What is served is served on**, and what is held stays good. -/
theorem GoesOn.kept (goes : GoesOn good cache after) (tidy : cache.Tidy)
    (vouched : Vouched good cache) :
    after.Tidy ∧ Vouched good after ∧
      ∀ given call, Serves good cache given call → Serves good after given call := by
  induction goes with
  | refl => exact ⟨tidy, vouched, fun _ _ serves => serves⟩
  | step goes event truthful stays ih =>
    obtain ⟨tidy', vouched', serves'⟩ := ih
    exact ⟨step_tidy tidy' event, step_vouched tidy' vouched' truthful,
      fun given call serves => step_serves tidy' vouched' (serves' given call serves) (stays call)⟩

/-- What is promised stays promised. -/
theorem Promises.step {number : Nat} {reply : Reply} (promises : Promises good limit cache number reply)
    (event : Event τ) : Promises good limit (cache.step event) number reply := by
  refine ⟨Nat.lt_of_lt_of_le promises.1 (cache.step_grows event).2, fun flight member own => ?_⟩
  cases cache.came_step member with
  | stays _ _ before => exact promises.2 flight before own
  | opens => exact absurd promises.1 (by rw [← own]; exact Nat.lt_irrefl _)
  | starts before inside => exact promises.2 before inside own
  | ends before _ _ inside => exact promises.2 before inside own

theorem Limited.step (limited : Limited limit cache) {event : Event τ}
    (usual : ∀ given own, event = .call given own → own = none ∨ own = limit) :
    Limited limit (cache.step event) := by
  refine ⟨?_, fun flight member => ?_⟩
  · rw [(cache.step_fixed event).1]
    exact limited.timeout
  · cases cache.came_step member with
    | stays _ _ before => exact limited.flights flight before
    | opens given own =>
      show (own <|> cache.limits.timeout) = limit
      rw [limited.timeout]
      rcases usual given own rfl with rfl | rfl
      · rfl
      · cases own <;> rfl
    | starts before inside => exact limited.flights before inside
    | ends before _ _ inside => exact limited.flights before inside

end

/-- A reply that was promised finishes its flight truthfully. -/
theorem Promises.truthful (tidy : cache.Tidy) (limited : Limited limit cache) {number : Nat}
    {reply : Reply} (promises : Promises good limit cache number reply) :
    Truthful good cache (.finish number reply : Event τ) := by
  intro flight found
  obtain ⟨member, own⟩ := tidy.flight?_eq_some.mp found
  rw [limited.flights flight member]
  exact promises.2 flight member own

end Cache

/-! ### Faithful traffic -/

/-- A request within a time limit, or without one of its own. -/
def Usual (limit : Option Number) (request : Option Request) : Prop :=
  ∀ asked, request = some asked → asked.limit = none ∨ asked.limit = limit

/-- Members that leave the time limit open are usual. -/
theorem usual_open (limit : Option Number) (addresses : List Value) :
    ∀ request ∈ addresses.map fun address => some (⟨address, none⟩ : Request), Usual limit request := by
  intro request member asked same
  obtain ⟨address, _, own⟩ := List.mem_map.mp member
  cases own.trans same
  exact .inl rfl

/-- So are members that state it, as far as they ask. -/
theorem usual_stated (limit : Option Number) (addresses : List Value) (asks : Value → Bool) :
    ∀ request ∈ addresses.map fun address =>
      if asks address then some (⟨address, limit⟩ : Request) else none, Usual limit request := by
  intro request member asked same
  obtain ⟨address, _, own⟩ := List.mem_map.mp member
  split at own
  · cases own.trans same
    exact .inr rfl
  · cases own.trans same

/-- A turn that will be good: a reply that is promised, a fetch for which there is time, a member with a
usual request. -/
def Turn.Sound (good : String → Outcome → Prop) (limit : Option Number) (cache : Cache τ) :
    Turn → Prop
  | .finish number reply => cache.Promises good limit number reply
  | .enter _ => ¬ Immediate limit
  | .seat _ _ request => Usual limit request
  | _ => True

namespace Traffic

open Cache

/-- **Traffic in which all that is held, queued or parked will be good.** -/
structure Faithful (good : String → Outcome → Prop) (limit : Option Number) (held : Prop)
    (kind : σ → Prop) (traffic : Traffic σ τ) : Prop where
  vouched : Vouched good traffic.cache
  limited : Limited limit traffic.cache
  source : kind traffic.source
  queue : ∀ entry ∈ traffic.queue, entry.2.Sound good limit traffic.cache
  /-- What is not held back will have run out of time. -/
  parked : ∀ entry ∈ traffic.parked, if entry.2 then held else
    Promises good limit traffic.cache entry.1 .overdue
  members : ∀ batch ∈ traffic.batches, ∀ entry ∈ batch.waiting, Usual limit entry.2

section

variable {kind : σ → Prop} {traffic : Traffic σ τ}

theorem Faithful.push (faithful : Faithful good limit held kind traffic) (wait : Nat) {turn : Turn}
    (sound : turn.Sound good limit traffic.cache) :
    Faithful good limit held kind (traffic.push wait turn) :=
  { faithful with
    queue := by
      intro entry member
      rcases List.mem_append.mp member with before | last
      · exact faithful.queue entry before
      · rw [List.mem_singleton.mp last]
        exact sound }

theorem Faithful.pop (faithful : Faithful good limit held kind traffic) {first : Nat × Turn}
    {rest : List (Nat × Turn)} (queued : traffic.queue = first :: rest) :
    first.2.Sound good limit traffic.cache ∧
      Faithful good limit held kind { traffic with queue := rest } := by
  have queue := faithful.queue
  rw [queued] at queue
  exact ⟨queue first List.mem_cons_self, { faithful with
    queue := fun entry member => queue entry (List.mem_cons_of_mem _ member) }⟩

theorem Faithful.park (faithful : Faithful good limit held kind traffic) {number : Nat} {back : Bool}
    (parks : if back then held else Promises good limit traffic.cache number .overdue) :
    Faithful good limit held kind { traffic with parked := traffic.parked ++ [(number, back)] } :=
  { faithful with
    parked := by
      intro entry member
      rcases List.mem_append.mp member with before | last
      · exact faithful.parked entry before
      · rw [List.mem_singleton.mp last]
        exact parks }

/-- A batch in the place of another, with no other members that wait. -/
theorem Faithful.set (faithful : Faithful good limit held kind traffic) {number : Nat} {batch : Batch}
    (found : traffic.batches[number]? = some batch) {other : Batch}
    (fewer : ∀ entry ∈ other.waiting, entry ∈ batch.waiting) :
    Faithful good limit held kind { traffic with batches := traffic.batches.set number other } :=
  { faithful with
    members := by
      intro some member entry waits
      rcases List.mem_or_eq_of_mem_set member with before | same
      · exact faithful.members some before entry waits
      · rw [same] at waits
        exact faithful.members batch (List.mem_of_getElem? found) entry (fewer entry waits) }

theorem Faithful.leave (faithful : Faithful good limit held kind traffic) (number : Nat) :
    Faithful good limit held kind (traffic.leave number) := by
  unfold Traffic.leave
  split
  · exact faithful
  · rename_i batch found
    split
    · exact faithful.set found fun entry waits => waits
    · rename_i place request rest waiting
      have next : Faithful good limit held kind { traffic with
          batches := traffic.batches.set number { batch with waiting := rest } } :=
        faithful.set found fun entry waits => by
          rw [waiting]
          exact List.mem_cons_of_mem _ waits
      refine next.push 0 ?_
      have first : (place, request) ∈ batch.waiting := by
        rw [waiting]
        exact List.mem_cons_self
      exact faithful.members batch (List.mem_of_getElem? found) _ first

theorem Faithful.resume (faithful : Faithful good limit held kind traffic) (call : Nat) :
    Faithful good limit held kind (traffic.resume call) := by
  unfold Traffic.resume
  split
  · exact faithful.leave _
  · exact faithful

/-- Flights that run out of time have their replies promised. -/
theorem Faithful.giveUp (faithful : Faithful good limit held kind traffic) :
    Faithful good limit held kind traffic.giveUp :=
  { faithful with
    queue := by
      intro entry member
      rcases List.mem_append.mp member with before | late
      · exact faithful.queue entry before
      · obtain ⟨parked, inside, same⟩ := List.mem_map.mp late
        obtain ⟨there, open'⟩ := List.mem_filter.mp inside
        have promises := faithful.parked parked there
        have back : parked.2 = false := by simpa using (Bool.and_eq_true_iff.mp open').1
        rw [back] at promises
        rw [← same]
        exact promises
    parked := fun entry member => faithful.parked entry (List.mem_of_mem_filter member) }

end

/-! ### Turns are truthful -/

section

variable [Add τ] [Sub τ] [LE τ] [DecidableLE τ] {kind : σ → Prop} {traffic : Traffic σ τ}

/-- An event that is truthful leaves traffic faithful. -/
theorem Faithful.event (faithful : Faithful good limit held kind traffic) (tidy : traffic.cache.Tidy)
    (event : Event τ) (truthful : Truthful good traffic.cache event)
    (usual : ∀ given own, event = .call given own → own = none ∨ own = limit) :
    Faithful good limit held kind { traffic with cache := traffic.cache.step event } where
  vouched := step_vouched tidy faithful.vouched truthful
  limited := faithful.limited.step usual
  source := faithful.source
  queue := by
    intro entry member
    have sound := faithful.queue entry member
    obtain ⟨wait, turn⟩ := entry
    cases turn with
    | finish number reply => exact Promises.step sound event
    | _ => exact sound
  parked := by
    intro entry member
    have parks := faithful.parked entry member
    split
    · rwa [if_pos ‹_›] at parks
    · rw [if_neg ‹_›] at parks
      exact parks.step event
  members := faithful.members

/-- A flight that has its promised reply. -/
theorem Faithful.finish (faithful : Faithful good limit held kind traffic) (tidy : traffic.cache.Tidy)
    {number : Nat} {reply : Reply} (promises : Promises good limit traffic.cache number reply) :
    Faithful good limit held kind (traffic.finish number reply) ∧
      GoesOn good traffic.cache (traffic.finish number reply).cache := by
  have truthful : Truthful good traffic.cache (.finish number reply) :=
    promises.truthful tidy faithful.limited
  have next := faithful.event tidy _ truthful fun _ _ same => nomatch same
  exact ⟨next.push 0 trivial, GoesOn.refl.step _ truthful fun _ same => nomatch same⟩

theorem Faithful.release (faithful : Faithful good limit held kind traffic) (tidy : traffic.cache.Tidy)
    (number : Nat) : Faithful good limit held kind (traffic.release number) ∧
      GoesOn good traffic.cache (traffic.release number).cache := by
  have next : Faithful good limit held kind
      { traffic with cache := traffic.cache.step (.release number) } :=
    faithful.event tidy _ trivial fun _ _ same => nomatch same
  refine ⟨{ next with queue := ?_ }, GoesOn.refl.step (.release number) trivial
    fun _ same => nomatch same⟩
  intro entry member
  rcases List.mem_append.mp member with before | resumed
  · exact next.queue entry before
  · obtain ⟨call, _, rfl⟩ := List.mem_map.mp resumed
    trivial

/-- A call with a usual request. -/
theorem Faithful.call (faithful : Faithful good limit held kind traffic) (tidy : traffic.cache.Tidy)
    {request : Request} (usual : request.limit = none ∨ request.limit = limit) :
    Faithful good limit held kind (traffic.call request) ∧
      GoesOn good traffic.cache (traffic.call request).cache := by
  have next : Faithful good limit held kind
      { traffic with cache := traffic.cache.step (.call request.address request.limit) } := by
    refine faithful.event tidy _ trivial fun given own same => ?_
    cases same
    exact usual
  refine ⟨?_, ?_⟩
  · unfold Traffic.call
    simp only
    split
    · exact next.push 0 trivial
    · exact next
  · rw [call_cache]
    exact GoesOn.refl.step (.call request.address request.limit) trivial fun _ same => nomatch same

theorem Faithful.seat (faithful : Faithful good limit held kind traffic) (tidy : traffic.cache.Tidy)
    (number place : Nat) {request : Option Request} (usual : Usual limit request) :
    Faithful good limit held kind (traffic.seat number place request) ∧
      GoesOn good traffic.cache (traffic.seat number place request).cache := by
  unfold Traffic.seat
  cases request with
  | none =>
    simp only
    rw [leave_cache]
    exact ⟨faithful.leave number, .refl⟩
  | some request =>
    obtain ⟨called, goes⟩ := faithful.call tidy (usual request rfl)
    -- a place for the call is noted, and no member waits who did not
    have noted : Faithful good limit held kind { traffic.call request with
        batches := (traffic.call request).batches.modify number fun batch =>
          { batch with calls := batch.calls ++ [(place, traffic.cache.calls.length)] } } :=
      { called with
        members := by
          intro batch member entry waits
          obtain ⟨index, found⟩ := List.mem_iff_getElem?.mp member
          rw [List.getElem?_modify] at found
          obtain ⟨before, there, same⟩ := Option.map_eq_some_iff.mp found
          refine called.members before (List.mem_of_getElem? there) entry ?_
          rw [← same] at waits
          split at waits <;> exact waits }
    simp only
    split
    · rw [leave_cache]
      exact ⟨noted.leave number, goes⟩
    · exact ⟨noted, goes⟩

variable [Source σ] (honest : Honest good limit held kind)

include honest

/-- **A source that is asked** makes a good outcome for the flight. -/
theorem Faithful.enter (faithful : Faithful good limit held kind traffic) (tidy : traffic.cache.Tidy)
    {flight : Flight} (there : (flight.address, flight.number) ∈ traffic.cache.keys)
    (time : ¬ Immediate limit) :
    Faithful good limit held kind (traffic.enter flight) ∧
      GoesOn good traffic.cache (traffic.enter flight).cache := by
  obtain ⟨kind', responds⟩ := honest.asked traffic.source faithful.source flight.address
  have responds := responds time
  -- a reply that is good for the address is promised to the flight
  have promises {reply : Reply} (makes : good flight.address (reply.outcome flight.address limit)) :
      Promises good limit traffic.cache flight.number reply := by
    refine ⟨tidy.below _ there, fun other member own => ?_⟩
    obtain ⟨same, inside, address, number⟩ := mem_keys.mp there
    rw [tidy.eq_of_number member inside (own.trans number.symm), address]
    exact makes
  unfold Traffic.enter
  generalize Source.ask traffic.source flight.address = asked at kind' responds
  obtain ⟨response, source⟩ := asked
  have next : Faithful good limit held kind
      { traffic with source, asked := traffic.asked ++ [flight.address] } :=
    { faithful with source := kind' }
  cases response with
  | reply reply =>
    simp only
    split
    · exact next.finish tidy (promises responds)
    · exact ⟨next.push 1 (promises responds), .refl⟩
  | silent => exact ⟨next.park (promises responds), .refl⟩
  | held => exact ⟨next.park responds, .refl⟩

/-- **A flight that starts** has the time that there is, or none at all. -/
theorem Faithful.begin (faithful : Faithful good limit held kind traffic) (tidy : traffic.cache.Tidy)
    {flight : Flight} (member : flight ∈ traffic.cache.flights) :
    Faithful good limit held kind (traffic.begin flight) ∧
      GoesOn good traffic.cache (traffic.begin flight).cache := by
  have begun : GoesOn good traffic.cache (traffic.cache.begin flight.number) :=
    GoesOn.refl.step (.begin flight.number) trivial fun _ same => nomatch same
  have next : Faithful good limit held kind
      { traffic with cache := traffic.cache.begin flight.number } :=
    faithful.event tidy (.begin flight.number) trivial fun _ _ same => nomatch same
  have tidy' := tidy.begin flight.number
  have there : (flight.address, flight.number) ∈ (traffic.cache.begin flight.number).keys := by
    rw [(traffic.cache.begin_frame flight.number).1]
    exact mem_keys.mpr ⟨flight, member, rfl, rfl⟩
  have limited := faithful.limited.flights flight member
  unfold Traffic.begin
  simp only
  split
  · rename_i unlimited
    have time : ¬ Immediate limit := by
      rintro ⟨span, same, _⟩
      rw [← limited, unlimited] at same
      cases same
    obtain ⟨entered, goes⟩ := next.enter honest tidy' there time
    exact ⟨entered, begun.trans goes⟩
  · rename_i span own
    rw [limited] at own
    split
    · rename_i past
      refine ⟨next.push 2 ⟨tidy'.below _ there, fun other _ _ => ?_⟩, begun⟩
      exact honest.immediate ⟨span, own, past⟩ other.address
    · rename_i time
      refine ⟨next.push 0 ?_, begun⟩
      rintro ⟨other, same, past⟩
      rw [own] at same
      cases same
      exact time past

theorem Faithful.take {turn : Turn} (faithful : Faithful good limit held kind traffic)
    (owes : Owes turn.leg?.toList traffic) (sound : turn.Sound good limit traffic.cache) :
    Faithful good limit held kind (traffic.take turn) ∧
      GoesOn good traffic.cache (traffic.take turn).cache := by
  cases turn with
  | begin number =>
    obtain ⟨flight, member, rfl, _, found⟩ := owes.tidy.flight_of_leg owes.legs
    rw [take_begin found]
    exact faithful.begin honest owes.tidy member
  | enter number =>
    obtain ⟨flight, member, rfl, _, found⟩ := owes.tidy.flight_of_leg owes.legs
    rw [take_enter found]
    exact faithful.enter honest owes.tidy (mem_keys.mpr ⟨flight, member, rfl, rfl⟩) sound
  | finish number reply => exact faithful.finish owes.tidy sound
  | release number => exact faithful.release owes.tidy number
  | resume call =>
    refine ⟨faithful.resume call, ?_⟩
    show GoesOn good traffic.cache (traffic.resume call).cache
    rw [resume_cache]
    exact .refl
  | seat batch place request => exact faithful.seat owes.tidy batch place sound

/-- **A move keeps traffic faithful**, and the cache goes on by truthful events. -/
theorem Faithful.move (faithful : Faithful good limit held kind traffic) (orderly : Orderly traffic)
    {next : Traffic σ τ} (move : Move traffic next) :
    Faithful good limit held kind next ∧ GoesOn good traffic.cache next.cache := by
  cases move with
  | turn turn rest queued =>
    obtain ⟨sound, popped⟩ := faithful.pop queued
    exact popped.take honest (orderly.pop queued) sound
  | wait wait turn rest queued =>
    obtain ⟨sound, popped⟩ := faithful.pop queued
    exact ⟨popped.push wait sound, .refl⟩
  | giveUp => exact ⟨faithful.giveUp, .refl⟩

omit honest [Add τ] [Source σ] [Sub τ] [LE τ] [DecidableLE τ] in
/-- **A reply that is let go is promised** to the flight that has waited for it, if it is good. -/
theorem Faithful.letGo (faithful : Faithful good limit held kind traffic) (orderly : Orderly traffic)
    {address : String} {reply : Reply} (makes : good address (reply.outcome address limit)) :
    Faithful good limit held kind (traffic.letGo address reply) := by
  unfold Traffic.letGo
  simp only
  split
  · exact faithful
  · rename_i number back found
    have parted : Faithful good limit held kind
        { traffic with parked := traffic.parked.filter (·.1 ≠ number) } :=
      { faithful with parked := fun entry member => faithful.parked entry (List.mem_of_mem_filter member) }
    refine parted.push _ ?_
    have waits := List.find?_some (p := fun entry : Nat × Bool =>
      entry.2 && (traffic.cache.flight? entry.1).any (·.address = address)) found
    obtain ⟨flight, there, own⟩ := (Option.any_eq_true _ _).mp (Bool.and_eq_true_iff.mp waits).2
    obtain ⟨member, named⟩ : flight ∈ traffic.cache.flights ∧ flight.number = number :=
      orderly.tidy.flight?_eq_some.mp there
    refine ⟨?_, fun other inside same => ?_⟩
    · rw [← named]
      exact orderly.tidy.below _ (mem_keys.mpr ⟨flight, member, rfl, rfl⟩)
    · rw [orderly.tidy.eq_of_number inside member (same.trans named.symm), of_decide_eq_true own]
      exact makes

/-- **In a course of deeds that ask for nothing** traffic stays faithful, and the cache goes on by truthful
events, if what is let go is good. -/
theorem Faithful.course (faithful : Faithful good limit held kind traffic) (orderly : Orderly traffic)
    {course : List (Deed τ)} (passive : ∀ deed ∈ course, deed.passive = true)
    (truthful : ∀ deed ∈ course, deed.Truthful good limit) :
    Orderly (traffic.acts course) ∧ Faithful good limit held kind (traffic.acts course) ∧
      GoesOn good traffic.cache (traffic.acts course).cache := by
  refine acts_kept (fun next : Traffic σ τ => Orderly next ∧ Faithful good limit held kind next ∧
    GoesOn good traffic.cache next.cache) ?_ ?_ ?_ passive ⟨orderly, faithful, .refl⟩
  · rintro before next ⟨orderly, faithful, goes⟩ move
    obtain ⟨faithful', goes'⟩ := faithful.move honest orderly move
    exact ⟨orderly.move move, faithful', goes.trans goes'⟩
  · rintro before address reply member ⟨orderly, faithful, goes⟩
    refine ⟨orderly.letGo address reply, faithful.letGo orderly (truthful _ member), ?_⟩
    rwa [letGo_cache]
  · rintro before span ⟨orderly, faithful, goes⟩
    have elapsed := faithful.event orderly.tidy (.advance span) trivial fun _ _ same => nomatch same
    exact ⟨orderly.elapse span, elapsed, goes.step (.advance span) trivial fun _ same => nomatch same⟩

/-- **Faithful traffic comes to rest** after such a course, by truthful events. -/
theorem Faithful.through (faithful : Faithful good limit held kind traffic) (orderly : Orderly traffic)
    {course : List (Deed τ)} (passive : ∀ deed ∈ course, deed.passive = true)
    (truthful : ∀ deed ∈ course, deed.Truthful good limit) :
    let last := (traffic.acts course).settle
    Orderly last ∧ last.AtRest ∧ Faithful good limit held kind last ∧
      GoesOn good traffic.cache last.cache := by
  obtain ⟨orderly, faithful, goes⟩ := faithful.course honest orderly passive truthful
  obtain ⟨orderly', rests⟩ := orderly.settle
  -- to settle is to take so many turns more
  let turns : List (Deed τ) := [.turns (traffic.acts course).effort]
  have passive' : ∀ deed ∈ turns, deed.passive = true := List.forall_mem_singleton.mpr rfl
  obtain ⟨_, faithful', goes'⟩ :=
    faithful.course honest orderly passive' (List.forall_mem_singleton.mpr trivial)
  exact ⟨orderly', rests, faithful', goes.trans goes'⟩

omit honest [Add τ] [Source σ] [Sub τ] [LE τ] [DecidableLE τ] in
/-- **At rest there is no flight and nothing is parked**, if all flights have a time limit and none waits
for a reply that is held back. -/
theorem Faithful.no_flights (faithful : Faithful good limit held kind traffic) (orderly : Orderly traffic)
    (limited : limit.isSome = true) (rests : traffic.AtRest)
    (ended : held → traffic.cache.flights = []) : traffic.cache.flights = [] ∧ traffic.parked = [] := by
  have parked : traffic.parked = [] := by
    refine List.eq_nil_iff_forall_not_mem.mpr fun entry member => ?_
    -- the flight of a parked leg would be late
    have leg : (entry.1, 1) ∈ traffic.cache.legs := by
      refine orderly.legs.subset (List.mem_append_right _ (List.mem_append_right _ ?_))
      exact List.mem_map.mpr ⟨entry, member, rfl⟩
    obtain ⟨flight, inside, own⟩ := List.mem_map.mp leg
    have number : flight.number = entry.1 := congrArg Prod.fst own
    have forthcoming : entry.2 = false := by
      have parks := faithful.parked entry member
      split at parks
      · rw [ended parks] at inside
        cases inside
      · exact Bool.eq_false_iff.mpr ‹_›
    have found := orderly.tidy.flight?_eq_some.mpr ⟨inside, number⟩
    have late : entry ∈ traffic.late := by
      refine List.mem_filter.mpr ⟨member, ?_⟩
      show (!entry.2 && (traffic.cache.flight? entry.1).any (·.limit.isSome)) = true
      rw [found, forthcoming]
      show (!false && flight.limit.isSome) = true
      rw [faithful.limited.flights flight inside, limited]
      rfl
    rw [rests.2] at late
    cases late
  have legs : traffic.cache.legs = [] := by
    have none : Traffic.legs traffic = [] := by
      unfold Traffic.legs
      rw [rests.1, parked]
      rfl
    have same := orderly.legs
    rw [none] at same
    exact same.symm.eq_nil
  exact ⟨List.map_eq_nil_iff.mp legs, parked⟩

end

/-! ### From rest to rest -/

/-- **A cache at rest** that is in order, holds what is good, and has one time limit for all. -/
structure Resting (good : String → Outcome → Prop) (limit : Option Number) (cache : Cache τ) :
    Prop where
  tidy : cache.Tidy
  vouched : Vouched good cache
  timeout : cache.limits.timeout = limit
  flights : cache.flights = []

section

variable {kind : σ → Prop} {cache : Cache τ} {source : σ}

theorem Resting.orderly (resting : Resting good limit cache) :
    Orderly ({ cache, source } : Traffic σ τ) := by
  refine ⟨resting.tidy, ?_⟩
  have none : cache.legs = [] := List.map_eq_nil_iff.mpr resting.flights
  show ([] : List (Nat × Nat)).Perm cache.legs
  rw [none]

theorem Resting.faithful (resting : Resting good limit cache) (known : kind source) :
    Faithful good limit held kind ({ cache, source } : Traffic σ τ) where
  vouched := resting.vouched
  limited := by
    refine ⟨resting.timeout, fun flight member => ?_⟩
    have member : flight ∈ cache.flights := member
    rw [resting.flights] at member
    cases member
  source := known
  queue := fun _ member => nomatch member
  parked := fun _ member => nomatch member
  members := fun _ member => nomatch member

/-- A call at a cache without flights has what it is owed. -/
theorem Resting.answer {given : Value} {call : Nat} (resting : Resting good limit cache)
    (serves : Serves good cache given call) :
    ∃ outcome, cache.answer? call = some outcome ∧ Owed good given outcome := by
  cases serves with
  | waits flight _ there =>
    rw [resting.flights] at there
    cases there
  | answered outcome status owed => exact ⟨outcome, answer?_eq_some.mpr status, owed⟩

variable [Add τ] [Sub τ] [LE τ] [DecidableLE τ] [Source σ] (honest : Honest good limit held kind)

include honest

/-- **A course of deeds comes to a cache at rest**, if no flight waits for a reply that is held back. -/
theorem Faithful.resting {traffic : Traffic σ τ} (faithful : Faithful good limit held kind traffic)
    (orderly : Orderly traffic) (limited : limit.isSome = true) {course : List (Deed τ)}
    (passive : ∀ deed ∈ course, deed.passive = true)
    (truthful : ∀ deed ∈ course, deed.Truthful good limit)
    (ended : held → (traffic.acts course).settle.cache.flights = []) :
    let last := (traffic.acts course).settle
    Resting good limit last.cache ∧ kind last.source ∧ last.queue = [] := by
  obtain ⟨orderly', rests, faithful', _⟩ := faithful.through honest orderly passive truthful
  exact ⟨⟨orderly'.tidy, faithful'.vouched, faithful'.limited.timeout,
    (faithful'.no_flights orderly' limited rests ended).1⟩, faithful'.source, rests.1⟩

/-- **A call has the outcome that it is owed**, whatever is done in the course of it, and leaves the cache
at rest. -/
theorem Resting.call (resting : Resting good limit cache) (known : kind source)
    (limited : limit.isSome = true) {request : Request}
    (usual : request.limit = none ∨ request.limit = limit) {course : List (Deed τ)}
    (passive : ∀ deed ∈ course, deed.passive = true)
    (truthful : ∀ deed ∈ course, deed.Truthful good limit)
    (ended : held →
      ((({ cache, source } : Traffic σ τ).call request).acts course).settle.cache.flights = []) :
    let last := ((({ cache, source } : Traffic σ τ).call request).acts course).settle
    Resting good limit last.cache ∧ kind last.source ∧
      ∃ outcome, last.cache.answer? cache.calls.length = some outcome ∧
        Owed good request.address outcome := by
  have orderly : Orderly (({ cache, source } : Traffic σ τ).call request) :=
    resting.orderly.call request
  obtain ⟨faithful, _⟩ := (resting.faithful known).call resting.tidy usual
  obtain ⟨resting', known', _⟩ := faithful.resting honest orderly limited passive truthful ended
  have serves : Serves good (({ cache, source } : Traffic σ τ).call request).cache request.address
      cache.calls.length := by
    rw [call_cache]
    exact call_serves resting.tidy resting.vouched request.address request.limit
  obtain ⟨_, _, _, goes⟩ := faithful.through honest orderly passive truthful
  obtain ⟨_, _, served⟩ := goes.kept orderly.tidy faithful.vouched
  exact ⟨resting', known', resting'.answer (served _ _ serves)⟩

end

end Traffic

end ContractRisk
