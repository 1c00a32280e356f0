/-
**A round in which every address is asked for once.**

A batch is under way at a cache, and nothing else is: turns are taken, replies that were held back are let
go in any order, and time passes (`Deed.passive`). As long as it is no more time than the entries last, the
batch asks for each address that has no entry, and for no other, and no address is asked for twice
(`Round`). Once all replies have come, every member has its outcome, and whoever has a code finds it in the
cache (`Round.rests`).

* `Round.start`, `Round.move`, `Round.acts`: a batch starts a round, which goes on whatever is done;
* `Round.through`, `Round.rests`: what it has come to at the end.
-/

import ContractRisk.Proofs.Cache.Members
import ContractRisk.Proofs.Cache.Rollcall

namespace ContractRisk

variable {σ τ : Type}

/-! ### Deeds while a batch is under way -/

/-- The time after a deed. -/
def Deed.timeAfter [Add τ] (now : τ) : Deed τ → τ
  | .outOfTurn event => event.timeAfter now
  | _ => now

/-- The readings of a clock before, between and after deeds. -/
def Deed.readings [Add τ] (now : τ) : List (Deed τ) → List τ
  | [] => [now]
  | deed :: rest => now :: readings (deed.timeAfter now) rest

/-- That no two readings are a lifetime apart. -/
abbrev Deed.Timely [Add τ] [Sub τ] [LE τ] (lifetime now : τ) (deeds : List (Deed τ)) : Prop :=
  ∀ early ∈ Deed.readings now deeds, ∀ late ∈ Deed.readings now deeds, ¬ lifetime ≤ late - early

theorem Deed.now_mem_readings [Add τ] (now : τ) (deeds : List (Deed τ)) :
    now ∈ Deed.readings now deeds := by
  cases deeds <;> exact List.mem_cons_self

/-- The readings of some deeds are among those of these deeds and others. -/
theorem Deed.readings_append [Add τ] (now : τ) (first second : List (Deed τ)) :
    Deed.readings now first ⊆ Deed.readings now (first ++ second) ∧
      Deed.readings (first.foldl Deed.timeAfter now) second ⊆ Deed.readings now (first ++ second) := by
  induction first generalizing now with
  | nil =>
    refine ⟨List.cons_subset.mpr ⟨Deed.now_mem_readings now second, List.nil_subset _⟩, ?_⟩
    exact List.Subset.refl _
  | cons deed rest ih =>
    obtain ⟨former, latter⟩ := ih (deed.timeAfter now)
    exact ⟨List.cons_subset_cons _ former, List.subset_cons_of_subset _ latter⟩

namespace Traffic

open Cache

/-- That the call for a request is served, and with a code only if it is in the cache. -/
def Stocked (cache : Cache τ) (request : Request) (call : Nat) : Prop :=
  Served cache.Stocks cache request call

section

variable [Add τ] [Sub τ] [LE τ] [DecidableLE τ]

theorem Stocked.lasting (scope : Scope τ) : Lasting (Stocked (τ := τ)) (Within scope) where
  present := fun _ _ _ => Serves.present
  made := by
    intro cache within request
    have called := within.call request.address request.limit
    refine call_serves within.tidy ?_ request.address request.limit
    exact within.vouched.mono fun address _ stocks done => called.kept address (stocks done)
  lasts := fun _ within request other call served =>
    (within.call request.address request.limit).serves other.address call served
  kept := fun _ within request => (within.call request.address request.limit).within

/-- **A batch under way on its errand**, with nothing else going on. -/
structure Round (errand : Errand τ) (number : Nat) (requests : List (Option Request))
    (traffic : Traffic σ τ) : Prop where
  orderly : Orderly traffic
  booked : Booked traffic
  roster : traffic.rosters = [requests]
  roll : ∃ onWay, Rollcall errand [] [] onWay traffic
  staffed : ∃ batch, Staffed Stocked number requests (· < requests.length) traffic batch

variable {errand : Errand τ} {number : Nat} {requests : List (Option Request)} {traffic next : Traffic σ τ}

/-- **A batch starts a round** at a cache without flights, if the errand is what its members ask for. -/
theorem Round.start {cache : Cache τ} (within : Within errand.toScope cache) (idle : cache.flights = [])
    (stock : ∀ address, address ∈ cache.addresses ↔ address ∈ errand.stock)
    (usual : ∀ request ∈ requests, Usual errand.limits.timeout request)
    (wanted : ∀ address, requests.countP (errand.lacks address) = errand.wanted.count address)
    {slots : Option Nat} (room : slots ≠ some 0) (source : σ) :
    Round errand 0 requests (({ cache, source } : Traffic σ τ).start slots requests) ∧
      (({ cache, source } : Traffic σ τ).start slots requests).cache.now = cache.now := by
  have orderly : Orderly ({ cache, source } : Traffic σ τ) := by
    refine ⟨within.tidy, ?_⟩
    show ([] : List (Nat × Nat)).Perm (cache.flights.map Flight.leg)
    rw [idle]
    rfl
  have keys : cache.keys = [] := by
    unfold keys
    rw [idle]
    rfl
  have roll : Rollcall errand [] requests [] ({ cache, source } : Traffic σ τ) :=
    { within := within
      limited := ⟨congrArg Limits.timeout within.limits, by rw [idle]; exact fun _ member => nomatch member⟩
      usual := by
        intro request member
        rcases List.mem_append.mp member with own | other
        · exact usual request own
        · cases other
      stocked := fun address => (stock address).mpr
      stored := fun address held => .inl ((stock address).mp held)
      counted := by
        intro address
        show (requests ++ []).countP _ + 0 + 0 = _
        rw [List.append_nil]
        exact wanted address
      turns := .refl _
      known := fun _ member => nomatch member
      flown := by
        show ∀ key ∈ cache.keys, _
        rw [keys]
        exact fun _ member => nomatch member }
  obtain ⟨onWay, started, advances⟩ := roll.start slots
  have alone := booked_alone cache source
  exact ⟨⟨orderly.start slots requests, alone.start slots requests, rosters_start _ _ _, ⟨onWay, started⟩,
    alone.staffed (Stocked.lasting errand.toScope) within room requests⟩, advances.now⟩

omit [Add τ] [DecidableLE τ] in
/-- Nothing was asked for but what is wanted. -/
theorem Round.wanted (round : Round errand number requests traffic) : traffic.asked ⊆ errand.wanted := by
  obtain ⟨onWay, roll⟩ := round.roll
  intro address asked
  refine List.count_pos_iff.mp ?_
  have counted := roll.counted address
  have some := List.count_pos_iff.mpr asked
  omega

/-! ### What goes on -/

omit [Add τ] [Sub τ] [LE τ] [DecidableLE τ] in
theorem rosters_letGo (traffic : Traffic σ τ) (address : String) (reply : Reply) :
    (traffic.letGo address reply).rosters = traffic.rosters := by
  unfold letGo
  simp only
  split <;> rfl

section

variable [Source σ]

/-- **A round goes on with every move**, and takes no time by itself. -/
theorem Round.move (round : Round errand number requests traffic) (move : Move traffic next) :
    Round errand number requests next ∧ next.cache.now = traffic.cache.now := by
  obtain ⟨orderly, booked, roster, ⟨onWay, roll⟩, ⟨batch, staffed⟩⟩ := round
  obtain ⟨onWay', moved, advances⟩ := roll.move orderly move
  refine ⟨⟨orderly.move move, booked.move move, (traffic.rosters_move move).trans roster, ⟨onWay', moved⟩, ?_⟩,
    advances.now⟩
  exact staffed.move (Stocked.lasting errand.toScope) roll.within orderly booked move
    fun _ _ _ served => advances.serves _ _ served

theorem Round.turns (round : Round errand number requests traffic) (count : Nat) :
    Round errand number requests (traffic.takeTurns count) ∧
      (traffic.takeTurns count).cache.now = traffic.cache.now := by
  refine takeTurns_kept (fun next => Round errand number requests next ∧
    next.cache.now = traffic.cache.now) ?_ count ⟨round, rfl⟩
  rintro before next ⟨round, same⟩ move
  obtain ⟨moved, now⟩ := round.move move
  exact ⟨moved, now.trans same⟩

omit [Source σ] in
/-- Time passes, but not too much. -/
theorem Round.elapse (round : Round errand number requests traffic) {span : τ}
    (timely : traffic.cache.now + span ∈ errand.times) :
    Round errand number requests { traffic with cache := traffic.cache.advance span } := by
  obtain ⟨orderly, booked, roster, ⟨onWay, roll⟩, ⟨batch, staffed⟩⟩ := round
  refine ⟨orderly.elapse span, booked.elapse span, roster, ⟨onWay, ?_⟩, ⟨batch, ?_⟩⟩
  · exact
    { roll with
      within := roll.within.elapse timely
      limited := ⟨roll.limited.timeout, roll.limited.flights⟩ }
  · exact staffed.aside (.elapse traffic span) fun _ _ _ served => Serves.elapse served span

/-- **A round goes on with every deed** that leaves it to the batch to ask. -/
theorem Round.act (round : Round errand number requests traffic) {deed : Deed τ}
    (passive : deed.passive = true) (timely : deed.timeAfter traffic.cache.now ∈ errand.times) :
    Round errand number requests (traffic.act deed) ∧
      (traffic.act deed).cache.now = deed.timeAfter traffic.cache.now := by
  cases deed with
  | turns count => exact round.turns count
  | letGo address reply =>
    obtain ⟨orderly, booked, roster, ⟨onWay, roll⟩, ⟨batch, staffed⟩⟩ := round
    refine ⟨⟨orderly.letGo address reply, booked.letGo address reply,
      (rosters_letGo traffic address reply).trans roster, ⟨onWay, roll.letGo address reply⟩, batch,
      staffed.aside (.letGo address reply) ?_⟩, ?_⟩
    · show Lasts Stocked batch traffic.cache (traffic.letGo address reply).cache
      rw [letGo_cache]
      exact fun _ _ _ => id
    · exact congrArg Cache.now (traffic.letGo_cache address reply)
  | outOfTurn event =>
    cases event with
    | advance span => exact ⟨round.elapse timely, rfl⟩
    | _ => cases passive
  | _ => cases passive

theorem Round.acts (round : Round errand number requests traffic) {deeds : List (Deed τ)}
    (passive : ∀ deed ∈ deeds, deed.passive = true)
    (timely : ∀ time ∈ Deed.readings traffic.cache.now deeds, time ∈ errand.times) :
    Round errand number requests (traffic.acts deeds) ∧
      (traffic.acts deeds).cache.now = deeds.foldl Deed.timeAfter traffic.cache.now := by
  induction deeds generalizing traffic with
  | nil => exact ⟨round, rfl⟩
  | cons deed rest ih =>
    have readings : ∀ time ∈ Deed.readings (deed.timeAfter traffic.cache.now) rest, time ∈ errand.times :=
      fun time member => timely time (List.mem_cons_of_mem _ member)
    have next : deed.timeAfter traffic.cache.now ∈ errand.times :=
      readings _ (Deed.now_mem_readings _ rest)
    obtain ⟨acted, now⟩ := round.act (passive deed List.mem_cons_self) next
    obtain ⟨done, last⟩ := ih acted (fun other member => passive other (List.mem_cons_of_mem _ member))
      (by rwa [now])
    rw [now] at last
    exact ⟨done, last⟩

/-- **A round comes to a stop** when all turns are taken. -/
theorem Round.settle (round : Round errand number requests traffic) :
    Round errand number requests traffic.settle ∧ traffic.settle.cache.now = traffic.cache.now ∧
      traffic.settle.queue = [] := by
  obtain ⟨settled, now⟩ := round.turns traffic.effort
  exact ⟨settled, now, round.orderly.settle.2.1⟩

/-- **A batch at a cache without flights goes through a round** and comes to a stop, whatever is done in the
course of it. -/
theorem Round.through {cache : Cache τ} (within : Within errand.toScope cache) (idle : cache.flights = [])
    (stock : ∀ address, address ∈ cache.addresses ↔ address ∈ errand.stock)
    (usual : ∀ request ∈ requests, Usual errand.limits.timeout request)
    (wanted : ∀ address, requests.countP (errand.lacks address) = errand.wanted.count address)
    {slots : Option Nat} (room : slots ≠ some 0) (source : σ) {course : List (Deed τ)}
    (passive : ∀ deed ∈ course, deed.passive = true)
    (timely : ∀ time ∈ Deed.readings cache.now course, time ∈ errand.times) :
    let settled := ((({ cache, source } : Traffic σ τ).start slots requests).acts course).settle
    Round errand 0 requests settled ∧ settled.cache.now = course.foldl Deed.timeAfter cache.now ∧
      settled.queue = [] := by
  obtain ⟨started, now⟩ := Round.start within idle stock usual wanted room source
  rw [← now] at timely ⊢
  obtain ⟨acted, now⟩ := started.acts passive timely
  obtain ⟨settled, same, empty⟩ := acted.settle
  exact ⟨settled, same.trans now, empty⟩

end

/-! ### The end of a round -/

omit [Add τ] [DecidableLE τ] in
/-- **All replies have come**: the source was asked for each address that is wanted, once, nothing is on its
way any more, and every member has an outcome, which is a code only if the cache has it. -/
theorem Round.rests (round : Round errand number requests traffic) (empty : traffic.queue = [])
    (ended : traffic.parked = []) :
    traffic.asked.Perm errand.wanted ∧ traffic.cache.flights = [] ∧ Within errand.toScope traffic.cache ∧
      List.Forall₂ (Settled traffic.cache.Stocks) requests (traffic.outcomes number) ∧
      traffic.addressesOf number = requests.map fun request => (request.map (·.address)).getD .null := by
  obtain ⟨orderly, booked, roster, ⟨onWay, roll⟩, ⟨batch, staffed⟩⟩ := round
  have flights : traffic.cache.flights = [] := by
    refine List.eq_nil_iff_forall_not_mem.mpr fun flight there => ?_
    obtain ⟨held, waits⟩ := orderly.parked empty there
    rw [ended] at waits
    cases waits
  have resting : Resting traffic.cache.Stocks errand.limits.timeout traffic.cache :=
    ⟨orderly.tidy, roll.within.vouched, roll.limited.timeout, flights⟩
  have served : Staffed (Served traffic.cache.Stocks) number requests (· < requests.length) traffic batch :=
    { staffed with calls := staffed.calls }
  refine ⟨?_, flights, roll.within, served.settled resting empty, staffed.addressesOf⟩
  -- nobody is awaited, and no flight is on its way
  have slotless : batch.waiting = [] := by
    refine served.slotless empty ?_
    rintro ⟨entry, noted, flight, waiting⟩
    obtain ⟨_, _, own⟩ := served.calls entry noted
    obtain ⟨outcome, answered, _⟩ := resting.answer own
    cases waiting.symm.trans (answer?_eq_some.mp answered)
  have awaited : traffic.awaited = [] := by
    obtain ⟨only, alone, _⟩ := List.map_eq_singleton_iff.mp roster
    have found := List.mem_of_getElem? staffed.found
    rw [alone] at found
    cases List.mem_singleton.mp found
    unfold Traffic.awaited
    rw [empty, alone]
    show [] ++ (batch.waiting.map (·.2) ++ []) = []
    rw [slotless]
    rfl
  have landed : onWay = [] := by
    have turns := roll.turns
    unfold underway at turns
    rw [empty] at turns
    exact List.map_eq_nil_iff.mp turns.symm.eq_nil
  refine List.perm_iff_count.mpr fun address => ?_
  have counted := roll.counted address
  rw [awaited, landed] at counted
  rw [← counted]
  exact (Nat.zero_add _).symm

end

end Traffic

end ContractRisk
