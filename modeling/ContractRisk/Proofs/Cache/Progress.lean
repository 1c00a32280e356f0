/-
**One leg after the other.**

Every flight has its next leg either in the queue or parked, and there is no other leg in either
(`Orderly`). A turn takes the leg at the head of the queue and leaves the next leg of the same flight,
if there is one (`Owes`).

* `Owes.begin`, `Owes.enter`, `Owes.finish`, `Owes.release`, `Owes.call`: one leg makes way for the
  next;
* `Owes.move`: a move keeps traffic orderly.
-/

import ContractRisk.Proofs.Cache.Turns
import Mathlib.Data.List.Induction
import Mathlib.Data.List.Perm.Basic

namespace ContractRisk

/-- How far a flight is, as a number. -/
def Cache.Phase.rank : Cache.Phase → Nat
  | opened => 0
  | running => 1
  | finished _ => 2

/-- The leg that is next for a flight: its number, and how far it is. -/
def Cache.Flight.leg (flight : Cache.Flight) : Nat × Nat := (flight.number, flight.phase.rank)

/-- The leg of a flight that a turn is. -/
def Turn.leg? : Turn → Option (Nat × Nat)
  | begin flight => some (flight, 0)
  | enter flight => some (flight, 1)
  | finish flight _ => some (flight, 1)
  | release flight => some (flight, 2)
  | resume _ => none
  | seat _ _ _ => none

namespace Cache

variable {τ : Type} {cache : Cache τ}

/-! ### Legs and phases -/

/-- The legs of all flights. -/
def legs (cache : Cache τ) : List (Nat × Nat) := cache.flights.map Flight.leg

/-- No flight has more than one leg. -/
theorem Tidy.legs_apart (tidy : cache.Tidy) {number rank : Nat} {others : List (Nat × Nat)}
    (legs : ((number, rank) :: others).Perm cache.legs) : ∀ leg ∈ others, leg.1 ≠ number := by
  have numbers : cache.legs.map (·.1) = cache.keys.map (·.2) := by
    unfold Cache.legs keys
    rw [List.map_map, List.map_map]
    rfl
  have distinct : (((number, rank) :: others).map (·.1)).Nodup := by
    rw [(legs.map _).nodup_iff, numbers]
    exact tidy.ordered.imp Nat.ne_of_lt
  intro leg member same
  exact (List.nodup_cons.mp distinct).1 (List.mem_map.mpr ⟨leg, member, same⟩)

/-- A leg is that of a flight which is there. -/
theorem Tidy.flight_of_leg (tidy : cache.Tidy) {number rank : Nat} {others : List (Nat × Nat)}
    (legs : ((number, rank) :: others).Perm cache.legs) :
    ∃ flight ∈ cache.flights, flight.number = number ∧ flight.phase.rank = rank ∧
      cache.flight? number = some flight := by
  obtain ⟨flight, member, same⟩ := List.mem_map.mp (legs.subset List.mem_cons_self)
  cases same
  exact ⟨flight, member, rfl, rfl, tidy.flight?_eq_some.mpr ⟨member, rfl⟩⟩

/-- A flight in another phase has another leg. -/
theorem Tidy.legs_inPhase (tidy : cache.Tidy) {number rank : Nat} {others : List (Nat × Nat)}
    (legs : ((number, rank) :: others).Perm cache.legs) (phase : Phase) :
    ((number, phase.rank) :: others).Perm ((inPhase cache.flights number phase).map Flight.leg) := by
  let replace (leg : Nat × Nat) : Nat × Nat := if leg.1 = number then (number, phase.rank) else leg
  have left : ((number, rank) :: others).map replace = (number, phase.rank) :: others := by
    rw [List.map_cons]
    congr 1
    · exact if_pos rfl
    · calc others.map replace = others.map id := List.map_congr_left fun leg member =>
            if_neg (tidy.legs_apart legs leg member)
        _ = others := List.map_id _
  have right : cache.legs.map replace = (inPhase cache.flights number phase).map Flight.leg := by
    unfold Cache.legs inPhase
    rw [List.map_map, List.map_map]
    refine List.map_congr_left fun flight _ => ?_
    show (if flight.number = number then _ else flight.leg) = Flight.leg (if _ then _ else _)
    split
    · rename_i same
      rw [← same]
      rfl
    · rfl
  rw [← left, ← right]
  exact legs.map replace

/-- A flight that is gone has no leg. -/
theorem Tidy.legs_filter (tidy : cache.Tidy) {number rank : Nat} {others : List (Nat × Nat)}
    (legs : ((number, rank) :: others).Perm cache.legs) :
    others.Perm ((cache.flights.filter (·.number ≠ number)).map Flight.leg) := by
  have left : ((number, rank) :: others).filter (·.1 ≠ number) = others := by
    rw [List.filter_cons_of_neg (by simp)]
    exact List.filter_eq_self.mpr fun leg member =>
      decide_eq_true (tidy.legs_apart legs leg member)
  have right : cache.legs.filter (·.1 ≠ number) =
      (cache.flights.filter (·.number ≠ number)).map Flight.leg := by
    unfold Cache.legs
    rw [List.filter_map]
    rfl
  rw [← right]
  conv_lhs => rw [← left]
  exact legs.filter _

/-- A call opens a flight, with its first leg, or leaves the flights as they are. -/
theorem call_legs [Sub τ] [LE τ] [DecidableLE τ] (cache : Cache τ) (given : Value)
    (limit : Option Number) :
    ((cache.call given limit).opened = cache.opened ∧ (cache.call given limit).legs = cache.legs) ∨
      (cache.call given limit).opened = cache.opened + 1 ∧
        (cache.call given limit).legs = cache.legs ++ [(cache.opened, 0)] := by
  have called := cache.call_cases given limit
  generalize cache.call given limit = after at called ⊢
  cases called with
  | refused => exact .inl ⟨rfl, rfl⟩
  | hit => exact .inl ⟨rfl, rfl⟩
  | joined address =>
    refine .inl ⟨cache.dropStale_opened address, ?_⟩
    show (cache.dropStale address).flights.map _ = _
    rw [dropStale_flights]
    rfl
  | launched address =>
    refine .inr ⟨congrArg (· + 1) (cache.dropStale_opened address), ?_⟩
    show ((cache.dropStale address).flights ++ [_]).map _ = _
    rw [dropStale_flights, dropStale_opened, List.map_append]
    rfl

end Cache

namespace Traffic

variable {σ τ : Type}

/-! ### Legs in the queue -/

/-- The legs that are queued or parked. -/
def legs (traffic : Traffic σ τ) : List (Nat × Nat) :=
  traffic.queue.filterMap (·.2.leg?) ++ traffic.parked.map fun entry => (entry.1, 1)

/-- **Traffic with some legs taken out**: these and the others are the legs of the flights. -/
structure Owes (taken : List (Nat × Nat)) (traffic : Traffic σ τ) : Prop where
  tidy : traffic.cache.Tidy
  legs : (taken ++ traffic.legs).Perm traffic.cache.legs

/-- **Every flight has its next leg**, and there is no other. -/
abbrev Orderly (traffic : Traffic σ τ) : Prop := Owes [] traffic

section

variable {taken : List (Nat × Nat)} {traffic : Traffic σ τ}

theorem legs_push (traffic : Traffic σ τ) (wait : Nat) (turn : Turn) :
    (traffic.push wait turn).legs.Perm (turn.leg?.toList ++ traffic.legs) := by
  have queued : (traffic.push wait turn).legs =
      (traffic.queue.filterMap (·.2.leg?) ++ turn.leg?.toList) ++
        traffic.parked.map fun entry => (entry.1, 1) := by
    unfold legs push
    rw [List.filterMap_append]
    cases turn <;> rfl
  rw [queued]
  unfold legs
  rw [← List.append_assoc]
  exact List.perm_append_comm.append_right _

/-- The turn at the head of the queue has its leg taken out. -/
theorem Owes.pop (orderly : Orderly traffic) {wait : Nat} {turn : Turn} {rest : List (Nat × Turn)}
    (queued : traffic.queue = (wait, turn) :: rest) :
    Owes turn.leg?.toList { traffic with queue := rest } := by
  refine ⟨orderly.tidy, ?_⟩
  have head : traffic.legs = turn.leg?.toList ++ ({ traffic with queue := rest } : Traffic σ τ).legs := by
    unfold Traffic.legs
    rw [queued]
    cases turn <;> rfl
  rw [← head]
  exact orderly.legs

/-- Batches have nothing to do with the flights. -/
theorem Owes.batches (owes : Owes taken traffic) (batches : List Batch) :
    Owes taken { traffic with batches } :=
  ⟨owes.tidy, owes.legs⟩

/-- A leg that was taken out is put into the queue. -/
theorem Owes.push (owes : Owes taken traffic) (wait : Nat) {turn : Turn}
    (leg : turn.leg?.toList = taken) : Orderly (traffic.push wait turn) := by
  refine ⟨owes.tidy, ?_⟩
  rw [← leg] at owes
  exact (legs_push traffic wait turn).trans owes.legs

/-- A leg that was taken out is parked. -/
theorem Owes.park {number : Nat} (owes : Owes [(number, 1)] traffic) (held : Bool) :
    Orderly { traffic with parked := traffic.parked ++ [(number, held)] } := by
  refine ⟨owes.tidy, ?_⟩
  refine List.Perm.trans ?_ owes.legs
  show (_ ++ (traffic.parked ++ [(number, held)]).map _).Perm _
  rw [List.map_append, List.map_singleton, ← List.append_assoc]
  exact List.perm_append_comm

/-! ### One leg after the other -/

variable {number : Nat}

/-- A flight that replies has its release next. -/
theorem Owes.finish (owes : Owes [(number, 1)] traffic) (reply : Reply) :
    Orderly (traffic.finish number reply) := by
  obtain ⟨flight, member, _, running, found⟩ := owes.tidy.flight_of_leg owes.legs
  have phase : flight.phase = .running := by
    cases phase : flight.phase with
    | running => rfl
    | _ =>
      rw [phase] at running
      cases running
  have finished : (traffic.cache.finish number reply).flights = Cache.inPhase traffic.cache.flights
      number (.finished (reply.outcome flight.address flight.limit)) := by
    obtain ⟨own, address, limit, phase'⟩ := flight
    subst phase
    unfold Cache.finish
    rw [found]
    simp only [(traffic.cache.record_frame address (reply.outcome address limit)).1]
  have next : Owes [(number, 2)] { traffic with cache := traffic.cache.finish number reply } := by
    refine ⟨owes.tidy.finish number reply, ?_⟩
    show ((number, 2) :: traffic.legs).Perm ((traffic.cache.finish number reply).flights.map _)
    rw [finished]
    exact owes.tidy.legs_inPhase owes.legs (.finished (reply.outcome flight.address flight.limit))
  exact next.push 0 rfl

/-- **A flight that fetches** has the reply, the wait for it or its release next. -/
theorem Owes.enter [Source σ] {flight : Cache.Flight} (owes : Owes [(flight.number, 1)] traffic) :
    Orderly (traffic.enter flight) := by
  unfold Traffic.enter
  cases Source.ask traffic.source flight.address with
  | mk response source =>
    have asked : Owes [(flight.number, 1)]
        { traffic with source, asked := traffic.asked ++ [flight.address] } := ⟨owes.tidy, owes.legs⟩
    cases response with
    | reply reply =>
      simp only
      split
      · exact asked.finish reply
      · exact asked.push 1 rfl
    | silent => exact asked.park false
    | held => exact asked.park true

/-- A flight that has started fetches next. -/
theorem Owes.begun {flight : Cache.Flight} (owes : Owes [(flight.number, 0)] traffic)
    (found : traffic.cache.flight? flight.number = some flight) :
    Owes [(flight.number, 1)] { traffic with cache := traffic.cache.begin flight.number } := by
  obtain ⟨same, member, _, opened, found'⟩ := owes.tidy.flight_of_leg owes.legs
  cases found.symm.trans found'
  have phase : flight.phase = .opened := by
    cases phase : flight.phase with
    | opened => rfl
    | _ =>
      rw [phase] at opened
      cases opened
  have begun : (traffic.cache.begin flight.number).flights =
      Cache.inPhase traffic.cache.flights flight.number .running := by
    obtain ⟨own, address, limit, phase'⟩ := flight
    subst phase
    unfold Cache.begin
    rw [found]
  refine ⟨owes.tidy.begin flight.number, ?_⟩
  show ((flight.number, 1) :: traffic.legs).Perm ((traffic.cache.begin flight.number).flights.map _)
  rw [begun]
  exact owes.tidy.legs_inPhase owes.legs .running

/-- **A flight that starts** fetches next, unless it has its reply at once. -/
theorem Owes.begin [Source σ] {flight : Cache.Flight} (owes : Owes [(flight.number, 0)] traffic)
    (found : traffic.cache.flight? flight.number = some flight) : Orderly (traffic.begin flight) := by
  have next := owes.begun found
  unfold Traffic.begin
  simp only
  split
  · exact next.enter
  · split
    · exact next.push 2 rfl
    · exact next.push 0 rfl

/-- A flight whose release is next has an outcome. -/
theorem Owes.released (owes : Owes [(number, 2)] traffic) :
    ∃ outcome, traffic.cache.release number = { traffic.cache with
      registered := traffic.cache.registered.filter (·.2 ≠ number)
      flights := traffic.cache.flights.filter (·.number ≠ number)
      calls := Cache.answerAll traffic.cache.calls number outcome } := by
  obtain ⟨flight, member, _, finished, found⟩ := owes.tidy.flight_of_leg owes.legs
  obtain ⟨own, address, limit, phase⟩ := flight
  unfold Cache.release
  rw [found]
  cases phase with
  | finished outcome => exact ⟨outcome, rfl⟩
  | _ => cases finished

/-- **A flight that is released** has no further leg. -/
theorem Owes.release (owes : Owes [(number, 2)] traffic) : Orderly (traffic.release number) := by
  obtain ⟨outcome, released⟩ := owes.released
  have queued : (traffic.release number).legs = traffic.legs := by
    unfold Traffic.release Traffic.legs
    simp only
    rw [List.filterMap_append, List.filterMap_map]
    have none : (traffic.cache.waitingFor number).filterMap
        ((fun entry : Nat × Turn => entry.2.leg?) ∘ fun call => (0, .resume call)) = [] :=
      List.filterMap_eq_nil_iff.mpr fun _ _ => rfl
    rw [none, List.append_nil]
  refine ⟨owes.tidy.release number, ?_⟩
  rw [queued]
  show traffic.legs.Perm ((traffic.cache.release number).flights.map _)
  rw [released]
  exact owes.tidy.legs_filter owes.legs

theorem Owes.leave (owes : Orderly traffic) (batch : Nat) : Orderly (traffic.leave batch) := by
  unfold Traffic.leave
  split
  · exact owes
  · split
    · exact owes.batches _
    · exact (owes.batches _).push 0 rfl

theorem Owes.resume (owes : Orderly traffic) (call : Nat) : Orderly (traffic.resume call) := by
  unfold Traffic.resume
  split
  · exact owes.leave _
  · exact owes

/-- What is parked is late, or stays parked. -/
theorem late_append_perm (traffic : Traffic σ τ) :
    (traffic.late ++ traffic.parked.filter fun entry =>
      entry.2 || !traffic.isLimited entry.1).Perm traffic.parked := by
  have parts := List.filter_append_perm (fun entry : Nat × Bool =>
    !entry.2 && traffic.isLimited entry.1) traffic.parked
  refine List.Perm.trans (List.Perm.of_eq ?_) parts
  unfold late
  congr 1
  refine List.filter_congr fun entry _ => ?_
  cases entry.2 <;> cases traffic.isLimited entry.1 <;> rfl

/-- Flights that run out of time finish next. -/
theorem Owes.giveUp (orderly : Orderly traffic) : Orderly traffic.giveUp := by
  refine ⟨orderly.tidy, List.Perm.trans ?_ orderly.legs⟩
  let leg (entry : Nat × Bool) : Nat × Nat := (entry.1, 1)
  have queued : (traffic.late.map fun entry : Nat × Bool =>
      ((0, .finish entry.1 .overdue) : Nat × Turn)).filterMap (·.2.leg?) = traffic.late.map leg := by
    rw [List.filterMap_map]
    exact congrFun List.filterMap_eq_map traffic.late
  show ((traffic.queue ++ _).filterMap _ ++ (traffic.parked.filter _).map leg).Perm
    (traffic.queue.filterMap _ ++ traffic.parked.map leg)
  rw [List.filterMap_append, queued, List.append_assoc, ← List.map_append]
  exact ((late_append_perm traffic).map leg).append_left _

end

section

variable [Sub τ] [LE τ] [DecidableLE τ] {traffic : Traffic σ τ}

/-- **A call** that opens a flight has it started next. -/
theorem Owes.call (orderly : Orderly traffic) (request : Request) :
    Orderly (traffic.call request) := by
  have tidy := orderly.tidy.call request.address request.limit
  unfold Traffic.call
  simp only
  rcases traffic.cache.call_legs request.address request.limit with ⟨opened, legs⟩ | ⟨opened, legs⟩
  · rw [if_neg (by omega)]
    refine ⟨tidy, ?_⟩
    show (Traffic.legs traffic).Perm (traffic.cache.call request.address request.limit).legs
    rw [legs]
    exact orderly.legs
  · rw [if_pos (by omega)]
    have next : Owes [(traffic.cache.opened, 0)]
        { traffic with cache := traffic.cache.call request.address request.limit } := by
      refine ⟨tidy, ?_⟩
      show ((traffic.cache.opened, 0) :: Traffic.legs traffic).Perm
        (traffic.cache.call request.address request.limit).legs
      rw [legs]
      exact (orderly.legs.cons _).trans (List.perm_append_singleton _ _).symm
    exact next.push 0 rfl

theorem Owes.seat (orderly : Orderly traffic) (batch place : Nat) (request : Option Request) :
    Orderly (traffic.seat batch place request) := by
  unfold Traffic.seat
  cases request with
  | none => exact orderly.leave batch
  | some request =>
    simp only
    split
    · exact ((orderly.call request).batches _).leave batch
    · exact (orderly.call request).batches _

theorem Owes.arrive (orderly : Orderly traffic) (batch place : Nat) (request : Option Request) :
    Orderly (traffic.arrive batch place request) := by
  unfold Traffic.arrive
  split
  · exact orderly
  · split
    · exact orderly.batches _
    · exact (orderly.batches _).seat batch place request

/-- **A batch starts** with traffic as orderly as before. -/
theorem Owes.start (orderly : Orderly traffic) (slots : Option Nat)
    (requests : List (Option Request)) : Orderly (traffic.start slots requests) := by
  have arrivals (batch : Nat) (members : List (Option Request × Nat)) : ∀ traffic : Traffic σ τ,
      Orderly traffic → Orderly (members.foldl (fun traffic member =>
        traffic.arrive batch member.2 member.1) traffic) := by
    induction members with
    | nil => exact fun _ orderly => orderly
    | cons member rest ih => exact fun _ orderly => ih _ (orderly.arrive batch member.2 member.1)
  exact arrivals _ _ _ (orderly.batches _)

variable [Source σ]

theorem Owes.take {turn : Turn} (owes : Owes turn.leg?.toList traffic) :
    Orderly (traffic.take turn) := by
  cases turn with
  | begin number =>
    obtain ⟨flight, _, rfl, _, found⟩ := owes.tidy.flight_of_leg owes.legs
    rw [take_begin found]
    exact Owes.begin owes found
  | enter number =>
    obtain ⟨flight, _, rfl, _, found⟩ := owes.tidy.flight_of_leg owes.legs
    rw [take_enter found]
    exact Owes.enter owes
  | finish number reply => exact Owes.finish owes reply
  | release number => exact Owes.release owes
  | resume call => exact Owes.resume owes call
  | seat batch place request => exact Owes.seat owes batch place request

/-- **A move keeps traffic orderly.** -/
theorem Owes.move (orderly : Orderly traffic) {next : Traffic σ τ} (move : Move traffic next) :
    Orderly next := by
  cases move with
  | turn turn rest queued => exact (orderly.pop queued).take
  | wait wait turn rest queued => exact (orderly.pop queued).push wait rfl
  | giveUp => exact orderly.giveUp

end

end Traffic

end ContractRisk
