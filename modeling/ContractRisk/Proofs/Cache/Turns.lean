/-
**Turns as events of the cache.**

What goes on at a cache is a chain of moves (`Move`): a turn at the head of the queue is taken or sent
back, or the fetches that are late are given up. Whatever every move keeps is kept until nothing can
move (`settle_kept`). A move changes the cache by events only, and so do calls and the start of a batch
(`Reaches`): all that holds of a cache in every order of events holds of one in use. Nobody gives up by
any of them (`Proceeds`).

* `take_cases`: what a turn can come to, said once;
* `settle_proceeds`, `start_proceeds`, `fetch_proceeds`: what becomes of the cache is a run of events;
* `settle_kept`: the principle of induction over moves.
-/

import ContractRisk.Cache.Batch
import ContractRisk.Proofs.Cache.Flights

namespace ContractRisk

/-- A cache comes out of another by events. -/
def Cache.Reaches {τ : Type} [Add τ] [Sub τ] [LE τ] [DecidableLE τ] (before after : Cache τ) : Prop :=
  ∃ events : List (Cache.Event τ), after = before.run events

/-- A cache comes out of another by events, and nobody gives up. -/
def Cache.Proceeds {τ : Type} [Add τ] [Sub τ] [LE τ] [DecidableLE τ] (before after : Cache τ) : Prop :=
  ∃ events : List (Cache.Event τ), after = before.run events ∧
    ∀ event ∈ events, ∀ call, event ≠ .cancel call

namespace Cache

variable {τ : Type} [Add τ] [Sub τ] [LE τ] [DecidableLE τ] {first second third : Cache τ}

namespace Reaches

theorem step (cache : Cache τ) (event : Event τ) : cache.Reaches (cache.step event) := ⟨[event], rfl⟩

theorem trans (former : first.Reaches second) (latter : second.Reaches third) :
    first.Reaches third := by
  obtain ⟨events, rfl⟩ := former
  obtain ⟨more, rfl⟩ := latter
  exact ⟨events ++ more, (first.run_append events more).symm⟩

/-- Bounds stay as they are. -/
theorem limits (reaches : first.Reaches second) : second.limits = first.limits := by
  obtain ⟨events, rfl⟩ := reaches
  have run (events : List (Event τ)) : ∀ cache : Cache τ, (cache.run events).limits = cache.limits := by
    induction events with
    | nil => exact fun _ => rfl
    | cons event rest ih => exact fun cache => (ih _).trans (cache.step_fixed event).1
  exact run events first

end Reaches

namespace Proceeds

theorem refl (cache : Cache τ) : cache.Proceeds cache := ⟨[], rfl, fun _ member => nomatch member⟩

theorem step (cache : Cache τ) (event : Event τ) (stays : ∀ call, event ≠ .cancel call) :
    cache.Proceeds (cache.step event) :=
  ⟨[event], rfl, fun _ member => List.mem_singleton.mp member ▸ stays⟩

theorem call (cache : Cache τ) (given : Value) (limit : Option Number) :
    cache.Proceeds (cache.call given limit) :=
  step cache (.call given limit) fun _ same => nomatch same

theorem begin (cache : Cache τ) (number : Nat) : cache.Proceeds (cache.begin number) :=
  step cache (.begin number) fun _ same => nomatch same

theorem finish (cache : Cache τ) (number : Nat) (reply : Reply) :
    cache.Proceeds (cache.finish number reply) :=
  step cache (.finish number reply) fun _ same => nomatch same

theorem release (cache : Cache τ) (number : Nat) : cache.Proceeds (cache.release number) :=
  step cache (.release number) fun _ same => nomatch same

theorem trans (former : first.Proceeds second) (latter : second.Proceeds third) :
    first.Proceeds third := by
  obtain ⟨events, rfl, stays⟩ := former
  obtain ⟨more, rfl, stays'⟩ := latter
  refine ⟨events ++ more, (first.run_append events more).symm, fun event member => ?_⟩
  rcases List.mem_append.mp member with before | after
  · exact stays event before
  · exact stays' event after

theorem reaches (proceeds : first.Proceeds second) : first.Reaches second :=
  proceeds.imp fun _ => And.left

end Proceeds

end Cache

namespace Traffic

variable {σ τ : Type}

/-! ### Moves -/

section

variable [Sub τ] [LE τ] [DecidableLE τ] [Source σ] {traffic : Traffic σ τ}

/-- **What a turn comes to**: a step of a flight, unless the flight is gone, or a call or a member of a
batch goes on. -/
inductive Taken (traffic : Traffic σ τ) : Turn → Traffic σ τ → Prop
  | gone (turn : Turn) (number : Nat) (own : turn = .begin number ∨ turn = .enter number)
      (missing : traffic.cache.flight? number = none) : Taken traffic turn traffic
  | begin (flight : Cache.Flight) (found : traffic.cache.flight? flight.number = some flight) :
      Taken traffic (.begin flight.number) (traffic.begin flight)
  | enter (flight : Cache.Flight) (found : traffic.cache.flight? flight.number = some flight) :
      Taken traffic (.enter flight.number) (traffic.enter flight)
  | finish (number : Nat) (reply : Reply) :
      Taken traffic (.finish number reply) (traffic.finish number reply)
  | release (number : Nat) : Taken traffic (.release number) (traffic.release number)
  | resume (call : Nat) : Taken traffic (.resume call) (traffic.resume call)
  | seat (batch place : Nat) (request : Option Request) :
      Taken traffic (.seat batch place request) (traffic.seat batch place request)

section

variable {number : Nat} {flight : Cache.Flight}
  (found : traffic.cache.flight? number = some flight)

include found

theorem take_begin : traffic.take (.begin number) = traffic.begin flight := by
  show ((traffic.cache.flight? number).map traffic.begin).getD traffic = _
  rw [found]
  rfl

theorem take_enter : traffic.take (.enter number) = traffic.enter flight := by
  show ((traffic.cache.flight? number).map traffic.enter).getD traffic = _
  rw [found]
  rfl

end

theorem take_cases (traffic : Traffic σ τ) (turn : Turn) : Taken traffic turn (traffic.take turn) := by
  cases turn with
  | begin number =>
    cases found : traffic.cache.flight? number with
    | none =>
      have same : traffic.take (.begin number) = traffic := by
        show ((traffic.cache.flight? number).map traffic.begin).getD traffic = _
        rw [found]
        rfl
      rw [same]
      exact .gone _ number (.inl rfl) found
    | some flight =>
      obtain rfl := traffic.cache.flight?_number found
      rw [take_begin found]
      exact .begin flight found
  | enter number =>
    cases found : traffic.cache.flight? number with
    | none =>
      have same : traffic.take (.enter number) = traffic := by
        show ((traffic.cache.flight? number).map traffic.enter).getD traffic = _
        rw [found]
        rfl
      rw [same]
      exact .gone _ number (.inr rfl) found
    | some flight =>
      obtain rfl := traffic.cache.flight?_number found
      rw [take_enter found]
      exact .enter flight found
  | finish number reply => exact .finish number reply
  | release number => exact .release number
  | resume call => exact .resume call
  | seat batch place request => exact .seat batch place request

/-- What can happen next: the turn at the head is taken, it goes behind the others, or nothing is
queued and the fetches that are late are given up. -/
inductive Move (traffic : Traffic σ τ) : Traffic σ τ → Prop
  | turn (turn : Turn) (rest : List (Nat × Turn)) (queued : traffic.queue = (0, turn) :: rest) :
      Move traffic ({ traffic with queue := rest }.take turn)
  | wait (wait : Nat) (turn : Turn) (rest : List (Nat × Turn))
      (queued : traffic.queue = (wait + 1, turn) :: rest) :
      Move traffic { traffic with queue := rest ++ [(wait, turn)] }
  | giveUp (queued : traffic.queue = []) (late : traffic.late ≠ []) : Move traffic traffic.giveUp

/-- Nothing can move. -/
def AtRest (traffic : Traffic σ τ) : Prop := traffic.queue = [] ∧ traffic.late = []

/-- A turn that is taken is a move, and without a move all is at rest. -/
theorem takeTurns_succ (fuel : Nat) (traffic : Traffic σ τ) :
    (traffic.AtRest ∧ takeTurns (fuel + 1) traffic = traffic) ∨
      ∃ next, Move traffic next ∧ takeTurns (fuel + 1) traffic = takeTurns fuel next := by
  rw [takeTurns]
  split
  · rename_i turn rest queued
    exact .inr ⟨_, .turn turn rest queued, rfl⟩
  · rename_i wait turn rest queued
    exact .inr ⟨_, .wait wait turn rest queued, rfl⟩
  · rename_i queued
    by_cases late : traffic.late.isEmpty = true
    · rw [if_pos late]
      exact .inl ⟨⟨queued, List.isEmpty_iff.mp late⟩, rfl⟩
    · rw [if_neg late]
      exact .inr ⟨_, .giveUp queued (mt List.isEmpty_iff.mpr late), rfl⟩

/-- What every move keeps is kept by any number of turns. -/
theorem takeTurns_kept (kept : Traffic σ τ → Prop)
    (moves : ∀ traffic next, kept traffic → Move traffic next → kept next) (fuel : Nat)
    (holds : kept traffic) : kept (takeTurns fuel traffic) := by
  induction fuel generalizing traffic with
  | zero => exact holds
  | succ fuel ih =>
    rcases takeTurns_succ fuel traffic with ⟨_, same⟩ | ⟨next, move, same⟩
    · rwa [same]
    · rw [same]
      exact ih (moves traffic next holds move)

/-- **What every move keeps is kept until nothing can move.** -/
theorem settle_kept (kept : Traffic σ τ → Prop) (holds : kept traffic)
    (moves : ∀ traffic next, kept traffic → Move traffic next → kept next) : kept traffic.settle :=
  takeTurns_kept kept moves _ holds

/-- **Traffic comes to rest** if every move takes something from what is left to do. -/
theorem settle_atRest (kept : Traffic σ τ → Prop) (holds : kept traffic)
    (moves : ∀ traffic next, kept traffic → Move traffic next →
      kept next ∧ next.effort < traffic.effort) : traffic.settle.AtRest := by
  have turns (fuel : Nat) : ∀ traffic : Traffic σ τ, kept traffic → traffic.effort ≤ fuel →
      (takeTurns fuel traffic).AtRest := by
    induction fuel with
    | zero =>
      intro traffic holds spent
      rcases takeTurns_succ 0 traffic with ⟨rests, _⟩ | ⟨next, move, _⟩
      · exact rests
      · have := (moves traffic next holds move).2
        omega
    | succ fuel ih =>
      intro traffic holds enough
      rcases takeTurns_succ fuel traffic with ⟨rests, same⟩ | ⟨next, move, same⟩
      · rwa [same]
      · obtain ⟨holds', less⟩ := moves traffic next holds move
        rw [same]
        exact ih next holds' (by omega)
  exact turns _ traffic holds (Nat.le_refl _)

end

/-! ### Events of the cache -/

section

variable (traffic : Traffic σ τ)

theorem call_cache [Sub τ] [LE τ] [DecidableLE τ] (request : Request) :
    (traffic.call request).cache = traffic.cache.call request.address request.limit := by
  unfold call
  simp only
  split <;> rfl

@[simp] theorem leave_cache (number : Nat) : (traffic.leave number).cache = traffic.cache := by
  unfold leave
  split
  · rfl
  · split <;> rfl

@[simp] theorem resume_cache (call : Nat) : (traffic.resume call).cache = traffic.cache := by
  unfold resume
  split
  · exact traffic.leave_cache _
  · rfl

/-- A member that has a slot makes the call that it asks for. -/
theorem seat_cache [Sub τ] [LE τ] [DecidableLE τ] (number place : Nat) (request : Request) :
    (traffic.seat number place (some request)).cache =
      traffic.cache.call request.address request.limit := by
  unfold seat
  simp only
  split
  · rw [leave_cache]
    exact traffic.call_cache request
  · exact traffic.call_cache request

/-- The source is asked, and a reply that comes at once finishes the flight. -/
theorem enter_cache [Source σ] (flight : Cache.Flight) :
    (traffic.enter flight).cache = traffic.cache ∨
      ∃ reply, (traffic.enter flight).cache = traffic.cache.finish flight.number reply := by
  unfold enter
  cases Source.ask traffic.source flight.address with
  | mk response source =>
    cases response with
    | reply reply =>
      simp only
      split
      · exact .inr ⟨reply, rfl⟩
      · exact .inl rfl
    | _ => exact .inl rfl

end

section

variable [Add τ] [Sub τ] [LE τ] [DecidableLE τ] (traffic : Traffic σ τ)

theorem call_proceeds (request : Request) : traffic.cache.Proceeds (traffic.call request).cache := by
  rw [call_cache]
  exact .call traffic.cache request.address request.limit

/-- A member that has a slot makes a call, if it has a question. -/
theorem seat_proceeds (number place : Nat) (request : Option Request) :
    traffic.cache.Proceeds (traffic.seat number place request).cache := by
  cases request with
  | none =>
    show traffic.cache.Proceeds (traffic.leave number).cache
    rw [leave_cache]
    exact .refl _
  | some request =>
    rw [seat_cache]
    exact .call traffic.cache request.address request.limit

theorem arrive_proceeds (number place : Nat) (request : Option Request) :
    traffic.cache.Proceeds (traffic.arrive number place request).cache := by
  unfold arrive
  split
  · exact .refl _
  · split
    · exact .refl _
    · exact seat_proceeds _ number place request

theorem start_proceeds (slots : Option Nat) (requests : List (Option Request)) :
    traffic.cache.Proceeds (traffic.start slots requests).cache := by
  have arrivals (number : Nat) (members : List (Option Request × Nat)) : ∀ traffic : Traffic σ τ,
      traffic.cache.Proceeds (members.foldl (fun traffic member =>
        traffic.arrive number member.2 member.1) traffic).cache := by
    induction members with
    | nil => exact fun traffic => .refl _
    | cons member rest ih =>
      exact fun traffic => (traffic.arrive_proceeds number member.2 member.1).trans (ih _)
  exact arrivals _ _ { traffic with batches := _ }

variable [Source σ]

theorem enter_proceeds (flight : Cache.Flight) :
    traffic.cache.Proceeds (traffic.enter flight).cache := by
  rcases traffic.enter_cache flight with same | ⟨reply, same⟩
  · rw [same]
    exact .refl _
  · rw [same]
    exact .finish traffic.cache flight.number reply

theorem take_proceeds (turn : Turn) : traffic.cache.Proceeds (traffic.take turn).cache := by
  have taken := traffic.take_cases turn
  generalize traffic.take turn = next at taken ⊢
  cases taken with
  | gone => exact .refl _
  | begin flight =>
    have begun := Cache.Proceeds.begin traffic.cache flight.number
    unfold begin
    simp only
    split
    · exact begun.trans (enter_proceeds { traffic with cache := _ } flight)
    · split <;> exact begun
  | enter flight => exact traffic.enter_proceeds flight
  | finish number reply => exact .finish traffic.cache number reply
  | release number => exact .release traffic.cache number
  | resume call =>
    rw [resume_cache]
    exact .refl _
  | seat batch place request => exact traffic.seat_proceeds batch place request

theorem move_proceeds {traffic next : Traffic σ τ} (move : Move traffic next) :
    traffic.cache.Proceeds next.cache := by
  cases move with
  | turn turn rest => exact take_proceeds { traffic with queue := rest } turn
  | wait => exact .refl _
  | giveUp => exact .refl _

/-- **What becomes of the cache is a run of events**, and nobody gives up. -/
theorem settle_proceeds : traffic.cache.Proceeds traffic.settle.cache :=
  settle_kept (fun next => traffic.cache.Proceeds next.cache) (.refl _)
    fun _ _ reached move => reached.trans (move_proceeds move)

theorem fetch_proceeds (request : Request) :
    traffic.cache.Proceeds (traffic.fetch request).1.cache :=
  (traffic.call_proceeds request).trans (traffic.call request).settle_proceeds

end

end Traffic

end ContractRisk
