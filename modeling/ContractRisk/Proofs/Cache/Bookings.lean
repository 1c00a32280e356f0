/-
**Which calls the batches have noted.**

A batch notes the calls of its members with their numbers. No call is noted by two batches, and nobody
takes a seat in a batch that there is not (`Booked`): so a call that is resumed finds the one batch that
noted it.

* `Flies`: what happens to flights alone;
* `Booked.take`, `Booked.move`, `Booked.start`: turns and new batches keep the bookings.
-/

import ContractRisk.Proofs.Cache.Progress

namespace ContractRisk.Traffic

open Cache

variable {σ τ : Type}

/-! ### The queue -/

/-- Whether a turn is queued. -/
def Queued (traffic : Traffic σ τ) (turn : Turn) : Prop := ∃ wait, (wait, turn) ∈ traffic.queue

section

variable {traffic : Traffic σ τ}

/-- In an empty queue there is no turn. -/
theorem not_queued (empty : traffic.queue = []) (turn : Turn) : ¬ traffic.Queued turn := by
  rintro ⟨wait, inside⟩
  rw [empty] at inside
  cases inside

theorem queued_push (traffic : Traffic σ τ) (wait : Nat) (turn other : Turn) :
    (traffic.push wait turn).Queued other ↔ traffic.Queued other ∨ other = turn := by
  unfold Queued push
  simp only [List.mem_append, List.mem_singleton, Prod.mk.injEq, exists_or]
  exact or_congr_right ⟨fun ⟨_, _, same⟩ => same, fun same => ⟨wait, rfl, same⟩⟩

theorem queued_pop {wait : Nat} {turn other : Turn} {rest : List (Nat × Turn)}
    (queued : traffic.queue = (wait, turn) :: rest) :
    traffic.Queued other ↔ ({ traffic with queue := rest } : Traffic σ τ).Queued other ∨ other = turn := by
  unfold Queued
  rw [queued]
  simp only [List.mem_cons, Prod.mk.injEq, exists_or]
  rw [or_comm]
  exact or_congr_right ⟨fun ⟨_, _, same⟩ => same, fun same => ⟨wait, rfl, same⟩⟩

end

/-! ### Turns of flights -/

/-- What happens to flights alone: no batch and no call changes, and what is queued or taken from the
queue are legs of flights. -/
structure Flies (before after : Traffic σ τ) : Prop where
  batches : after.batches = before.batches
  calls : after.cache.calls = before.cache.calls
  queued : ∀ turn : Turn, turn.leg? = none → (after.Queued turn ↔ before.Queued turn)

section

variable {traffic next last : Traffic σ τ}

theorem Flies.trans (former : Flies traffic next) (latter : Flies next last) : Flies traffic last :=
  ⟨latter.batches.trans former.batches, latter.calls.trans former.calls,
    fun turn aside => (latter.queued turn aside).trans (former.queued turn aside)⟩

theorem Flies.push (flies : Flies traffic next) (wait : Nat) {turn : Turn} (leg : turn.leg? ≠ none) :
    Flies traffic (next.push wait turn) :=
  { flies with
    queued := by
      intro other aside
      refine ((queued_push next wait turn other).trans (or_iff_left ?_)).trans
        (flies.queued other aside)
      rintro rfl
      exact leg aside }

theorem Flies.pop {wait : Nat} {turn : Turn} {rest : List (Nat × Turn)}
    (queued : traffic.queue = (wait, turn) :: rest) (leg : turn.leg? ≠ none) :
    Flies traffic { traffic with queue := rest } where
  batches := rfl
  calls := rfl
  queued := by
    intro other aside
    refine ((queued_pop queued).trans (or_iff_left ?_)).symm
    rintro rfl
    exact leg aside

theorem Flies.finish (number : Nat) (reply : Reply) : Flies traffic (traffic.finish number reply) := by
  have finished : Flies traffic { traffic with cache := traffic.cache.finish number reply } :=
    ⟨rfl, (traffic.cache.finish_frame number reply).2.2.2, fun _ _ => Iff.rfl⟩
  exact finished.push 0 fun same => nomatch same

theorem Flies.enter [Source σ] (flight : Flight) : Flies traffic (traffic.enter flight) := by
  unfold Traffic.enter
  cases Source.ask traffic.source flight.address with
  | mk response source =>
    have asked : Flies traffic
        { traffic with source, asked := traffic.asked ++ [flight.address] } :=
      ⟨rfl, rfl, fun _ _ => Iff.rfl⟩
    cases response with
    | reply reply =>
      simp only
      split
      · exact asked.trans (.finish flight.number reply)
      · exact asked.push 1 fun same => nomatch same
    | _ => exact ⟨rfl, rfl, fun _ _ => Iff.rfl⟩

theorem Flies.begin [Source σ] (flight : Flight) : Flies traffic (traffic.begin flight) := by
  have begun : Flies traffic { traffic with cache := traffic.cache.begin flight.number } :=
    ⟨rfl, (traffic.cache.begin_frame flight.number).2.2.2, fun _ _ => Iff.rfl⟩
  unfold Traffic.begin
  simp only
  split
  · exact begun.trans (.enter flight)
  · split
    · exact begun.push 2 fun same => nomatch same
    · exact begun.push 0 fun same => nomatch same

theorem Flies.giveUp : Flies traffic traffic.giveUp where
  batches := rfl
  calls := rfl
  queued := by
    intro turn aside
    refine exists_congr fun wait => List.mem_append.trans (or_iff_left fun late => ?_)
    obtain ⟨entry, _, same⟩ := List.mem_map.mp late
    cases same
    cases aside

theorem queued_call [Sub τ] [LE τ] [DecidableLE τ] (request : Request) {turn : Turn}
    (aside : turn.leg? = none) : (traffic.call request).Queued turn ↔ traffic.Queued turn := by
  unfold Traffic.call
  simp only
  split
  · refine (queued_push _ _ _ _).trans (or_iff_left ?_)
    rintro rfl
    cases aside
  · exact Iff.rfl

/-- Those who waited for a flight that is released are resumed. -/
theorem queued_release (traffic : Traffic σ τ) (number : Nat) (turn : Turn) :
    (traffic.release number).Queued turn ↔
      traffic.Queued turn ∨ ∃ call ∈ traffic.cache.waitingFor number, turn = .resume call := by
  unfold Queued Traffic.release
  simp only [List.mem_append, List.mem_map, Prod.mk.injEq, exists_or]
  refine or_congr_right ⟨?_, ?_⟩
  · rintro ⟨_, call, waits, _, same⟩
    exact ⟨call, waits, same.symm⟩
  · rintro ⟨call, waits, same⟩
    exact ⟨0, call, waits, rfl, same.symm⟩

theorem call_batches [Sub τ] [LE τ] [DecidableLE τ] (request : Request) :
    (traffic.call request).batches = traffic.batches := by
  unfold Traffic.call
  simp only
  split <;> rfl

end

/-! ### Bookings -/

/-- **The bookings of the batches**: seats are queued for batches that there are, and each call that a
batch has noted was made, and is noted by no other. -/
structure Booked (traffic : Traffic σ τ) : Prop where
  seats : ∀ number place request, traffic.Queued (.seat number place request) →
    number < traffic.batches.length
  made : ∀ batch ∈ traffic.batches, ∀ entry ∈ batch.calls, entry.2 < traffic.cache.calls.length
  apart : ∀ (first second : Nat) (former latter : Batch), traffic.batches[first]? = some former →
    traffic.batches[second]? = some latter → ∀ entry ∈ former.calls, ∀ other ∈ latter.calls,
      entry.2 = other.2 → first = second

section

variable {traffic next : Traffic σ τ}

/-- Without batches nothing is booked. -/
theorem booked_alone (cache : Cache τ) (source : σ) : Booked ({ cache, source } : Traffic σ τ) where
  seats := fun _ _ _ ⟨_, queued⟩ => nomatch queued
  made := fun _ member => nomatch member
  apart := fun _ _ _ _ found => nomatch found

/-- What leaves the batches alone and queues no seat keeps the bookings. -/
theorem Booked.frame (booked : Booked traffic) (batches : next.batches = traffic.batches)
    (seats : ∀ number place request, next.Queued (.seat number place request) →
      traffic.Queued (.seat number place request))
    (calls : traffic.cache.calls.length ≤ next.cache.calls.length) : Booked next where
  seats := fun number place request queued =>
    batches ▸ booked.seats number place request (seats number place request queued)
  made := fun batch member entry inside =>
    Nat.lt_of_lt_of_le (booked.made batch (batches ▸ member) entry inside) calls
  apart := batches ▸ booked.apart

theorem Booked.flies (booked : Booked traffic) (flies : Flies traffic next) : Booked next :=
  booked.frame flies.batches (fun _ _ _ => (flies.queued _ rfl).mp)
    (Nat.le_of_eq (congrArg List.length flies.calls.symm))

theorem Booked.push (booked : Booked traffic) (wait : Nat) {turn : Turn}
    (seat : ∀ number place request, turn = .seat number place request →
      number < traffic.batches.length) : Booked (traffic.push wait turn) where
  seats := by
    intro number place request queued
    rcases (queued_push traffic wait turn _).mp queued with before | same
    · exact booked.seats number place request before
    · exact seat number place request same.symm
  made := booked.made
  apart := booked.apart

/-- A batch is replaced by one that has noted the same calls. -/
theorem Booked.set (booked : Booked traffic) {number : Nat} {batch after : Batch}
    (found : traffic.batches[number]? = some batch) (calls : after.calls = batch.calls) :
    Booked { traffic with batches := traffic.batches.set number after } := by
  have inside := (List.getElem?_eq_some_iff.mp found).1
  -- each batch has noted what the one in its place had
  have before {place : Nat} {other : Batch}
      (there : (traffic.batches.set number after)[place]? = some other) :
      ∃ earlier, traffic.batches[place]? = some earlier ∧ earlier.calls = other.calls := by
    by_cases own : place = number
    · subst own
      rw [List.getElem?_set_self inside] at there
      cases there
      exact ⟨batch, found, calls.symm⟩
    · rw [List.getElem?_set_ne (Ne.symm own)] at there
      exact ⟨other, there, rfl⟩
  refine ⟨?_, fun other member entry noted => ?_, fun first second former latter there there' => ?_⟩
  · intro number' place request queued
    show number' < (traffic.batches.set number after).length
    rw [List.length_set]
    exact booked.seats number' place request queued
  · obtain ⟨place, there⟩ := List.mem_iff_getElem?.mp member
    obtain ⟨earlier, there, same⟩ := before there
    exact booked.made earlier (List.mem_of_getElem? there) entry (same ▸ noted)
  · obtain ⟨earlier, there, same⟩ := before there
    obtain ⟨earlier', there', same'⟩ := before there'
    rw [← same, ← same']
    exact booked.apart first second earlier earlier' there there'

/-- A batch without calls joins the others. -/
theorem Booked.join (booked : Booked traffic) {batch : Batch} (new : batch.calls = []) :
    Booked { traffic with batches := traffic.batches ++ [batch] } := by
  -- whoever has noted a call was there before
  have before {place : Nat} {other : Batch} (found : (traffic.batches ++ [batch])[place]? = some other)
      {entry : Nat × Nat} (member : entry ∈ other.calls) : traffic.batches[place]? = some other := by
    rw [List.getElem?_append] at found
    split at found
    · exact found
    · rw [List.mem_singleton.mp (List.mem_of_getElem? found), new] at member
      cases member
  refine ⟨fun number place request queued => ?_, fun other there entry member => ?_, ?_⟩
  · show number < (traffic.batches ++ [batch]).length
    rw [List.length_append]
    exact Nat.lt_add_right _ (booked.seats number place request queued)
  · obtain ⟨place, found⟩ := List.mem_iff_getElem?.mp there
    exact booked.made other (List.mem_of_getElem? (before found member)) entry member
  · intro first second former latter found found' entry member other member'
    exact booked.apart first second former latter (before found member) (before found' member') entry
      member other member'

theorem Booked.leave (booked : Booked traffic) (number : Nat) : Booked (traffic.leave number) := by
  unfold Traffic.leave
  split
  · exact booked
  · rename_i batch found
    split
    · exact booked.set found rfl
    · rename_i place request rest _
      have passed : Booked { traffic with
          batches := traffic.batches.set number { batch with waiting := rest } } := booked.set found rfl
      refine passed.push 0 ?_
      rintro _ _ _ ⟨⟩
      rw [List.length_set]
      exact (List.getElem?_eq_some_iff.mp found).1

theorem Booked.resume (booked : Booked traffic) (call : Nat) : Booked (traffic.resume call) := by
  unfold Traffic.resume
  split
  · exact booked.leave _
  · exact booked

/-- **A call that is resumed** finds the batch that noted it. -/
theorem Booked.findIdx? (booked : Booked traffic) {number : Nat} {batch : Batch}
    (found : traffic.batches[number]? = some batch) {entry : Nat × Nat} (noted : entry ∈ batch.calls) :
    traffic.batches.findIdx? (fun batch => batch.calls.any (·.2 = entry.2)) = some number := by
  cases search : traffic.batches.findIdx? (fun batch => batch.calls.any (·.2 = entry.2)) with
  | none =>
    have unnoted := List.findIdx?_eq_none_iff.mp search batch (List.mem_of_getElem? found)
    rw [List.any_eq_false] at unnoted
    exact absurd (decide_eq_true rfl) (unnoted entry noted)
  | some other =>
    obtain ⟨inside, noted', _⟩ := List.findIdx?_eq_some_iff_getElem.mp search
    obtain ⟨entry', member, same⟩ := List.any_eq_true.mp noted'
    rw [booked.apart other number _ batch (List.getElem?_eq_getElem inside) found entry' member entry
      noted (of_decide_eq_true same)]

/-- A call that a batch has noted is an old one of that batch, or the one that is noted now. -/
theorem mem_noted {batches : List Batch} {number other : Nat} {entry : Nat × Nat} {batch : Batch}
    (found : (batches.modify number fun batch =>
      { batch with calls := batch.calls ++ [entry] })[other]? = some batch)
    {call : Nat × Nat} (member : call ∈ batch.calls) :
    (∃ before, batches[other]? = some before ∧ call ∈ before.calls) ∨ number = other ∧ call = entry := by
  rw [List.getElem?_modify] at found
  obtain ⟨before, there, same⟩ := Option.map_eq_some_iff.mp found
  subst same
  split at member
  · rename_i own
    rcases List.mem_append.mp member with old | new
    · exact .inl ⟨before, there, old⟩
    · exact .inr ⟨own, List.mem_singleton.mp new⟩
  · exact .inl ⟨before, there, member⟩

section

variable [Sub τ] [LE τ] [DecidableLE τ]

/-- A call is one call more. -/
theorem length_call (traffic : Traffic σ τ) (request : Request) :
    (traffic.call request).cache.calls.length = traffic.cache.calls.length + 1 := by
  obtain ⟨status, calls⟩ := traffic.cache.calls_call request.address request.limit
  rw [call_cache, calls, List.length_append]
  rfl

theorem Booked.call (booked : Booked traffic) (request : Request) : Booked (traffic.call request) := by
  refine booked.frame (call_batches request) (fun _ _ _ => (queued_call request rfl).mp) ?_
  rw [length_call]
  exact Nat.le_succ _

/-- A batch notes the call of a member. -/
theorem Booked.note (booked : Booked traffic) (number place : Nat) (request : Request) :
    Booked { traffic.call request with
      batches := (traffic.call request).batches.modify number fun batch =>
        { batch with calls := batch.calls ++ [(place, traffic.cache.calls.length)] } } := by
  have called := booked.call request
  have older {number' : Nat} {before : Batch}
      (there : (traffic.call request).batches[number']? = some before)
      {entry : Nat × Nat} (member : entry ∈ before.calls) : entry.2 < traffic.cache.calls.length := by
    rw [call_batches] at there
    exact booked.made before (List.mem_of_getElem? there) entry member
  refine ⟨fun number' place' seated queued => ?_, fun batch member entry inside => ?_, ?_⟩
  · show number' < ((traffic.call request).batches.modify number _).length
    rw [List.length_modify]
    exact called.seats number' place' seated queued
  · show entry.2 < (traffic.call request).cache.calls.length
    rw [length_call]
    obtain ⟨number', found⟩ := List.mem_iff_getElem?.mp member
    rcases mem_noted found inside with ⟨before, there, old⟩ | ⟨_, rfl⟩
    · exact Nat.lt_succ_of_lt (older there old)
    · exact Nat.lt_succ_self _
  · intro first second former latter there there' entry member other member' same
    rcases mem_noted there member with ⟨before, found, old⟩ | ⟨own, rfl⟩ <;>
      rcases mem_noted there' member' with ⟨before', found', old'⟩ | ⟨own', rfl⟩
    · exact called.apart first second before before' found found' entry old other old' same
    · exact absurd (same ▸ older found old) (Nat.lt_irrefl _)
    · exact absurd (same ▸ older found' old') (Nat.lt_irrefl _)
    · exact own.symm.trans own'

theorem Booked.seat (booked : Booked traffic) (number place : Nat) (request : Option Request) :
    Booked (traffic.seat number place request) := by
  unfold Traffic.seat
  cases request with
  | none => exact booked.leave number
  | some request =>
    simp only
    split
    · exact (booked.note number place request).leave number
    · exact booked.note number place request

theorem Booked.arrive (booked : Booked traffic) (number place : Nat) (request : Option Request) :
    Booked (traffic.arrive number place request) := by
  unfold Traffic.arrive
  split
  · exact booked
  · rename_i batch found
    split
    · exact booked.set found rfl
    · have taken : Booked { traffic with
          batches := traffic.batches.set number { batch with free := batch.free.map (· - 1) } } :=
        booked.set found rfl
      exact taken.seat number place request

theorem Booked.arrivals (booked : Booked traffic) (number : Nat)
    (members : List (Option Request × Nat)) :
    Booked (members.foldl (fun traffic member => traffic.arrive number member.2 member.1) traffic) := by
  induction members generalizing traffic with
  | nil => exact booked
  | cons member rest ih => exact ih (booked.arrive number member.2 member.1)

/-- **A batch that starts** notes its own calls only. -/
theorem Booked.start (booked : Booked traffic) (slots : Option Nat) (requests : List (Option Request)) :
    Booked (traffic.start slots requests) :=
  (booked.join rfl).arrivals _ _

variable [Source σ]

theorem Booked.take (booked : Booked traffic) (turn : Turn) : Booked (traffic.take turn) := by
  have taken := traffic.take_cases turn
  generalize traffic.take turn = next at taken ⊢
  cases taken with
  | gone => exact booked
  | begin flight => exact booked.flies (.begin flight)
  | enter flight => exact booked.flies (.enter flight)
  | finish number reply => exact booked.flies (.finish number reply)
  | release number =>
    refine booked.frame ?_ ?_ ?_
    · rfl
    · intro other place request queued
      rcases (queued_release traffic number _).mp queued with before | ⟨_, _, same⟩
      · exact before
      · cases same
    · rcases traffic.cache.release_cases number with same | ⟨_, _, _, _, released⟩
      · exact Nat.le_of_eq (congrArg (·.calls.length) same.symm)
      · show _ ≤ (traffic.cache.release number).calls.length
        rw [released]
        exact Nat.le_of_eq (List.length_map _).symm
  | resume call => exact booked.resume call
  | seat number place request => exact booked.seat number place request

/-- **A move keeps the bookings.** -/
theorem Booked.move (booked : Booked traffic) (move : Move traffic next) : Booked next := by
  cases move with
  | turn turn rest queued =>
    have popped : Booked { traffic with queue := rest } := by
      refine booked.frame ?_ (fun _ _ _ inside => (queued_pop queued).mpr (.inl inside)) ?_
      · rfl
      · exact Nat.le_refl _
    exact popped.take turn
  | wait wait turn rest queued =>
    refine booked.frame ?_ (fun _ _ _ inside => (queued_pop queued).mpr ?_) ?_
    · rfl
    · exact (queued_push { traffic with queue := rest } wait turn _).mp inside
    · exact Nat.le_refl _
  | giveUp => exact booked.flies .giveUp

end

end

end ContractRisk.Traffic
