/-
**What the counters of a cache count.**

Each counter goes up at a step of its own, and some of these steps are far apart: a miss is counted with
the call, the fetch when the flight begins, and what became of it when the flight has its reply. What is
counted already and what is still to be counted add up in every state (`Accounts`): misses against the
flights that have not begun, fetches against those that have no reply yet.

A code that is stored finds no entry for its address (`Accounts.fresh`): a call launches a flight only
if there is none, and until the flight is finished nothing else can be stored for its address. So each
fetch with a code adds an entry, and each entry that goes is counted. A fetch that ends in a cancellation
or the like is lost: it leaves no entry and is no failure either.

* `step_accounts`: what an event does to the accounts;
* `Accounts.balanced`: what the counters come to, in particular when no fetch is under way.
-/

import ContractRisk.Proofs.Cache.Outcomes
import ContractRisk.Proofs.Cache.Progress

namespace ContractRisk.Cache

variable {τ : Type}

/-! ### Flights by phase -/

/-- How many flights there are in the phase of a rank. -/
def inRank (cache : Cache τ) (rank : Nat) : Nat := cache.legs.countP (·.2 = rank)

section

variable {cache : Cache τ} {number : Nat} {flight : Flight}

/-- The leg of a flight that is found, before those of the others. -/
theorem legs_perm (found : cache.flight? number = some flight) :
    ((number, flight.phase.rank) :: cache.legs.erase (number, flight.phase.rank)).Perm cache.legs := by
  have own : (number, flight.phase.rank) = flight.leg := by
    rw [← cache.flight?_number found]
    rfl
  rw [own]
  exact (List.perm_cons_erase (List.mem_map_of_mem (List.mem_of_find?_eq_some found))).symm

/-- A flight in another phase counts there, and no longer where it was. -/
theorem Tidy.inRank_inPhase (tidy : cache.Tidy) (found : cache.flight? number = some flight)
    (phase : Phase) (rank : Nat) :
    ((inPhase cache.flights number phase).map Flight.leg).countP (·.2 = rank) +
        (if flight.phase.rank = rank then 1 else 0) =
      cache.inRank rank + (if phase.rank = rank then 1 else 0) := by
  have before := (legs_perm found).countP_eq (·.2 = rank)
  have after := (tidy.legs_inPhase (legs_perm found) phase).countP_eq (·.2 = rank)
  simp only [List.countP_cons, decide_eq_true_eq] at before after
  unfold inRank
  omega

/-- A flight that is gone counts no longer where it was. -/
theorem Tidy.inRank_filter (tidy : cache.Tidy) (found : cache.flight? number = some flight)
    (rank : Nat) :
    ((cache.flights.filter (·.number ≠ number)).map Flight.leg).countP (·.2 = rank) +
        (if flight.phase.rank = rank then 1 else 0) = cache.inRank rank := by
  have before := (legs_perm found).countP_eq (·.2 = rank)
  have after := (tidy.legs_filter (legs_perm found)).countP_eq (·.2 = rank)
  simp only [List.countP_cons, decide_eq_true_eq] at before
  unfold inRank
  omega

end

/-! ### Entries -/

section

variable {entries : List (Entry τ)} {address : String}

theorem without_absent (absent : address ∉ entries.map Entry.address) :
    without entries address = entries := by
  refine List.filter_eq_self.mpr fun entry member => decide_eq_true ?_
  rintro rfl
  exact absent (List.mem_map_of_mem member)

/-- One entry goes with its address. -/
theorem length_without (once : (entries.map Entry.address).Nodup)
    (present : address ∈ entries.map Entry.address) :
    (without entries address).length + 1 = entries.length := by
  induction entries with
  | nil => cases present
  | cons entry rest ih =>
    rw [List.map_cons, List.nodup_cons] at once
    by_cases own : entry.address = address
    · subst own
      have others := without_absent once.1
      unfold without at others ⊢
      rw [List.filter_cons_of_neg (by simp), others, List.length_cons]
    · have inRest : address ∈ rest.map Entry.address :=
        (List.mem_cons.mp present).resolve_left (Ne.symm own)
      have rest := ih once.2 inRest
      unfold without at rest ⊢
      rw [List.filter_cons_of_pos (by simpa using own), List.length_cons, List.length_cons, rest]

/-- Entries are kept or counted as gone. -/
theorem evict_length (size : Number) (entries : List (Entry τ)) :
    (evict size entries).1.length + (evict size entries).2 = entries.length := by
  induction entries with
  | nil => rfl
  | cons entry rest ih =>
    unfold evict
    split
    · rw [List.length_cons, ← ih]
      rfl
    · rfl

variable (cache : Cache τ)

/-- A code for an address without entry makes one more, and others make room for it. -/
theorem store_absent (absent : address ∉ cache.addresses) (code : String) :
    ∃ kept gone, cache.store address code = { cache with
        entries := kept
        counters := { cache.counters with evictions := cache.counters.evictions + gone } } ∧
      kept.length + gone = cache.entries.length + 1 ∧
      (kept.map Entry.address).Sublist (cache.addresses ++ [address]) := by
  have same : without cache.entries address = cache.entries := without_absent absent
  refine ⟨(evict cache.limits.size (cache.entries ++ [⟨address, code, cache.now⟩])).1,
    (evict cache.limits.size (cache.entries ++ [⟨address, code, cache.now⟩])).2, ?_, ?_, ?_⟩
  · unfold store
    rw [same]
  · rw [evict_length, List.length_append, List.length_singleton]
  · have among := evict_sublist cache.limits.size (cache.entries ++ [⟨address, code, cache.now⟩])
    have mapped := among.map Entry.address
    rwa [List.map_append] at mapped

theorem entry?_eq_none : cache.entry? address = none ↔ address ∉ cache.addresses := by
  unfold entry? addresses
  rw [List.find?_eq_none, List.mem_map]
  simp

theorem entry?_address {entry : Entry τ} (found : cache.entry? address = some entry) :
    entry ∈ cache.entries ∧ entry.address = address :=
  ⟨List.mem_of_find?_eq_some found, by simpa using List.find?_some found⟩

end

/-! ### The accounts -/

/-- How many calls with a well-formed address an event is. -/
def Event.gets : Event τ → Nat
  | .call given _ => if (Address.normalize? given).isSome then 1 else 0
  | _ => 0

/-- How many entries an event drops together. -/
def drops (cache : Cache τ) : Event τ → Nat
  | .clear => cache.entries.length
  | _ => 0

/-- Whether what an event finishes is finished in the ordinary way. -/
def Event.IsOrdinary : Event τ → Prop
  | .finish _ reply => reply.isOrdinary = true
  | _ => True

/-- **The accounts of a cache**, after so many calls with a well-formed address and with so many entries
dropped by clearances; no fetch is lost if all are finished in the ordinary way. -/
structure Accounts (ordinary : Prop) (gets dropped : Nat) (cache : Cache τ) : Prop where
  /-- A call is a hit or a miss. -/
  called : cache.counters.hits + cache.counters.misses = gets
  /-- A miss joined a flight, or opened one, which has begun or will. -/
  missed : cache.counters.misses = cache.counters.fetches + cache.counters.shared + cache.inRank 0
  /-- A fetch failed, or left an entry that is held or has gone, or was lost, or has no reply yet. -/
  fetched : ∃ lost, (ordinary → lost = 0) ∧
    cache.counters.fetches = cache.counters.failures + cache.entries.length +
      cache.counters.evictions + cache.counters.expirations + dropped + lost + cache.inRank 1
  /-- There is one entry at most for an address. -/
  once : cache.addresses.Nodup
  /-- There is no entry for an address that is being fetched. -/
  fresh : ∀ flight ∈ cache.flights, flight.phase.rank < 2 → flight.address ∉ cache.addresses

theorem accounts_empty (ordinary : Prop) (limits : Limits τ) (now : τ) :
    Accounts ordinary 0 0 ({ limits, now } : Cache τ) where
  called := rfl
  missed := rfl
  fetched := ⟨0, fun _ => rfl, rfl⟩
  once := List.nodup_nil
  fresh := fun _ member => nomatch member

section

variable {cache : Cache τ} {ordinary : Prop} {gets dropped : Nat}

/-- What leaves counters, entries and flights alone leaves the accounts as they are. -/
theorem Accounts.frame (accounts : Accounts ordinary gets dropped cache) {after : Cache τ}
    (counters : after.counters = cache.counters) (entries : after.entries = cache.entries)
    (flights : after.flights = cache.flights) : Accounts ordinary gets dropped after := by
  obtain ⟨called, missed, fetched, once, fresh⟩ := accounts
  unfold inRank legs at missed fetched
  unfold addresses at once fresh
  rw [← counters] at called missed fetched
  rw [← entries] at fetched once fresh
  rw [← flights] at missed fetched fresh
  exact ⟨called, missed, fetched, once, fresh⟩

/-- An entry that is too old goes and is counted. -/
theorem Accounts.dropStale (accounts : Accounts ordinary gets dropped cache) (address : String) :
    Accounts ordinary gets dropped (cache.dropStale address) := by
  unfold Cache.dropStale
  split
  · rename_i found
    obtain ⟨entry, found⟩ := Option.isSome_iff_exists.mp found
    obtain ⟨member, own⟩ := cache.entry?_address found
    have gone := length_without accounts.once (List.mem_map.mpr ⟨entry, member, own⟩)
    obtain ⟨lost, none, fetched⟩ := accounts.fetched
    refine ⟨accounts.called, accounts.missed, ⟨lost, none, ?_⟩, ?_, ?_⟩
    · show cache.counters.fetches = _ + (without cache.entries address).length + _ +
        (cache.counters.expirations + 1) + _ + lost + cache.inRank 1
      simp only [expire]
      omega
    · exact accounts.once.sublist ((without_sublist _ _).map _)
    · exact fun flight inside under held =>
        accounts.fresh flight inside under (((without_sublist _ _).map _).subset held)
  · exact accounts

/-- An entry that is used stays, behind the others. -/
theorem Accounts.hit (accounts : Accounts ordinary gets dropped cache) {address : String} {entry : Entry τ}
    (found : cache.entry? address = some entry) : Accounts ordinary (gets + 1) dropped (cache.hit entry) := by
  have present : entry.address ∈ cache.addresses :=
    List.mem_map_of_mem (cache.entry?_address found).1
  obtain ⟨called, missed, ⟨lost, none, fetched⟩, once, fresh⟩ := accounts
  have length : (without cache.entries entry.address ++ [entry]).length = cache.entries.length := by
    rw [List.length_append]
    exact length_without once present
  refine ⟨?_, missed, ⟨lost, none, ?_⟩, apart_concat entry once, ?_⟩
  · show cache.counters.hits + 1 + cache.counters.misses = gets + 1
    omega
  · show cache.counters.fetches = _ + (without cache.entries entry.address ++ [entry]).length + _ + _ +
      _ + lost + cache.inRank 1
    rw [length]
    exact fetched
  · intro flight inside under held
    apply fresh flight inside under
    change flight.address ∈ (without cache.entries entry.address ++ [entry]).map Entry.address at held
    rw [List.map_append] at held
    rcases List.mem_append.mp held with before | last
    · exact ((without_sublist _ _).map _).subset before
    · rw [List.mem_singleton.mp last]
      exact present

theorem Accounts.join (accounts : Accounts ordinary gets dropped cache) (flight : Nat) :
    Accounts ordinary (gets + 1) dropped (cache.join flight) := by
  obtain ⟨called, missed, fetched, once, fresh⟩ := accounts
  refine ⟨?_, ?_, fetched, once, fresh⟩
  · show cache.counters.hits + (cache.counters.misses + 1) = gets + 1
    omega
  · show cache.counters.misses + 1 = cache.counters.fetches + (cache.counters.shared + 1) + cache.inRank 0
    omega

/-- A flight is opened for an address without entry. -/
theorem Accounts.launch (accounts : Accounts ordinary gets dropped cache) {address : String}
    (absent : address ∉ cache.addresses) (limit : Option Number) :
    Accounts ordinary (gets + 1) dropped (cache.launch address limit) := by
  obtain ⟨called, missed, ⟨lost, none, fetched⟩, once, fresh⟩ := accounts
  have ranks (rank : Nat) : (cache.launch address limit).inRank rank =
      cache.inRank rank + (if 0 = rank then 1 else 0) := by
    show ((cache.flights ++ [_]).map Flight.leg).countP _ = _
    rw [List.map_append, List.countP_append]
    simp [inRank, legs, Flight.leg, Phase.rank]
  refine ⟨?_, ?_, ⟨lost, none, ?_⟩, once, ?_⟩
  · show cache.counters.hits + (cache.counters.misses + 1) = gets + 1
    omega
  · show cache.counters.misses + 1 = cache.counters.fetches + cache.counters.shared +
      (cache.launch address limit).inRank 0
    rw [ranks, missed]
    rfl
  · show cache.counters.fetches = _ + cache.entries.length + _ + _ + _ + lost +
      (cache.launch address limit).inRank 1
    rw [ranks]
    exact fetched
  · intro flight inside under
    rcases List.mem_append.mp inside with before | last
    · exact fresh flight before under
    · rw [List.mem_singleton.mp last]
      exact absent

theorem Accounts.begin (accounts : Accounts ordinary gets dropped cache) (tidy : cache.Tidy) (number : Nat) :
    Accounts ordinary gets dropped (cache.begin number) := by
  unfold Cache.begin
  split
  · rename_i address limit found
    obtain ⟨called, missed, ⟨lost, none, fetched⟩, once, fresh⟩ := accounts
    have opened := tidy.inRank_inPhase found .running 0
    have running := tidy.inRank_inPhase found .running 1
    simp only [Phase.rank, reduceIte, Nat.reduceEqDiff] at opened running
    refine ⟨called, ?_, ⟨lost, none, ?_⟩, once, ?_⟩
    · show cache.counters.misses = cache.counters.fetches + 1 + cache.counters.shared +
        ((inPhase cache.flights number .running).map Flight.leg).countP (·.2 = 0)
      omega
    · show cache.counters.fetches + 1 = cache.counters.failures + cache.entries.length +
        cache.counters.evictions + cache.counters.expirations + dropped + lost +
        ((inPhase cache.flights number .running).map Flight.leg).countP (·.2 = 1)
      omega
    · intro flight inside under
      rcases mem_inPhase inside with ⟨member, _⟩ | ⟨before, member, own, rfl⟩
      · exact fresh flight member under
      · -- it is the flight that was found, which had not begun
        obtain ⟨there, numbered⟩ := tidy.flight?_eq_some.mp found
        have absent := fresh _ there Nat.two_pos
        rwa [← tidy.eq_of_number member there (own.trans numbered.symm)] at absent
  · exact accounts

/-- When a flight is finished, the others that are under way are for other addresses, without entry. -/
theorem Accounts.others (accounts : Accounts ordinary gets dropped cache) (tidy : cache.Tidy) {number : Nat}
    {flight other : Flight} (found : cache.flight? number = some flight) {outcome : Outcome}
    (inside : other ∈ inPhase cache.flights number (.finished outcome))
    (under : other.phase.rank < 2) :
    other.address ∉ cache.addresses ∧ other.address ≠ flight.address := by
  obtain ⟨there, numbered⟩ := tidy.flight?_eq_some.mp found
  rcases mem_inPhase inside with ⟨member, apart⟩ | ⟨before, _, _, rfl⟩
  · refine ⟨accounts.fresh other member under, fun same => apart ?_⟩
    rw [tidy.eq_of_address member there same, numbered]
  · cases Nat.lt_irrefl 2 under

/-- **A fetch that ends is a failure or one more entry**, since there was none for its address, or it is
lost. -/
theorem Accounts.finish (accounts : Accounts ordinary gets dropped cache) (tidy : cache.Tidy)
    (number : Nat) {reply : Reply} (plain : ordinary → reply.isOrdinary = true) :
    Accounts ordinary gets dropped (cache.finish number reply) := by
  rcases cache.finish_cases number reply with same | ⟨flight, found, fetches, finished⟩
  · rw [same]
    exact accounts
  rw [finished]
  have ends (failure : Failure) (fails : reply.outcome flight.address flight.limit = .error failure)
      (so : ordinary) : failure.isOrdinary = true := outcome_ordinary (plain so) fails
  generalize reply.outcome flight.address flight.limit = outcome at ends
  have others : ∀ other ∈ inPhase cache.flights number (.finished outcome), other.phase.rank < 2 →
      other.address ∉ cache.addresses ∧ other.address ≠ flight.address :=
    fun _ inside under => accounts.others tidy found inside under
  -- the code does not replace an entry: while the flight was running there could be none
  have absent : flight.address ∉ cache.addresses := by
    refine accounts.fresh flight (tidy.flight?_eq_some.mp found).1 ?_
    rw [fetches]
    exact Nat.one_lt_two
  have opened := tidy.inRank_inPhase found (.finished outcome) 0
  have running := tidy.inRank_inPhase found (.finished outcome) 1
  rw [fetches] at opened running
  simp only [Phase.rank, reduceIte, Nat.reduceEqDiff] at opened running
  obtain ⟨called, missed, ⟨lost, none, fetched⟩, once, fresh⟩ := accounts
  cases outcome with
  | error failure =>
    have ends := ends failure rfl
    refine ⟨called, ?_, ⟨lost + (if failure.isOrdinary then 0 else 1), ?_, ?_⟩, once,
      fun other inside under => (others other inside under).1⟩
    · show cache.counters.misses = cache.counters.fetches + cache.counters.shared +
        ((inPhase cache.flights number _).map Flight.leg).countP (·.2 = 0)
      omega
    · intro so
      rw [none so, ends so]
      rfl
    · show cache.counters.fetches = cache.counters.failures + (if failure.isOrdinary then 1 else 0) +
        cache.entries.length + cache.counters.evictions + cache.counters.expirations + dropped +
        (lost + (if failure.isOrdinary then 0 else 1)) +
        ((inPhase cache.flights number (.finished (.error failure))).map Flight.leg).countP (·.2 = 1)
      split <;> omega
  | ok code =>
    obtain ⟨kept, gone, stored, room, among⟩ := cache.store_absent absent code
    show Accounts ordinary gets dropped { cache.store flight.address code with flights := _ }
    rw [stored]
    refine ⟨called, ?_, ⟨lost, none, ?_⟩, ?_, ?_⟩
    · show cache.counters.misses = cache.counters.fetches + cache.counters.shared +
        ((inPhase cache.flights number _).map Flight.leg).countP (·.2 = 0)
      omega
    · show cache.counters.fetches = cache.counters.failures + kept.length +
        (cache.counters.evictions + gone) + cache.counters.expirations + dropped + lost +
        ((inPhase cache.flights number _).map Flight.leg).countP (·.2 = 1)
      omega
    · apply List.Nodup.sublist among
      rw [← List.concat_eq_append]
      exact once.concat absent
    · intro other inside under held
      obtain ⟨notHeld, different⟩ := others other inside under
      rcases List.mem_append.mp (among.subset held) with before | last
      · exact notHeld before
      · exact different (List.mem_singleton.mp last)

/-- A flight that is released was counted long ago. -/
theorem Accounts.release (accounts : Accounts ordinary gets dropped cache) (tidy : cache.Tidy) (number : Nat) :
    Accounts ordinary gets dropped (cache.release number) := by
  rcases cache.release_cases number with same | ⟨flight, outcome, found, ended, released⟩
  · rw [same]
    exact accounts
  obtain ⟨called, missed, ⟨lost, none, fetched⟩, once, fresh⟩ := accounts
  have opened := tidy.inRank_filter found 0
  have running := tidy.inRank_filter found 1
  rw [ended] at opened running
  simp only [Phase.rank, reduceIte, Nat.reduceEqDiff] at opened running
  rw [released]
  refine ⟨called, ?_, ⟨lost, none, ?_⟩, once,
    fun flight inside => fresh flight (List.mem_of_mem_filter inside)⟩
  · show cache.counters.misses = cache.counters.fetches + cache.counters.shared +
      ((cache.flights.filter (·.number ≠ number)).map Flight.leg).countP (·.2 = 0)
    omega
  · show cache.counters.fetches = cache.counters.failures + cache.entries.length +
      cache.counters.evictions + cache.counters.expirations + dropped + lost +
      ((cache.flights.filter (·.number ≠ number)).map Flight.leg).countP (·.2 = 1)
    omega

section

variable [Sub τ] [LE τ] [DecidableLE τ]

theorem Accounts.call (accounts : Accounts ordinary gets dropped cache) (given : Value)
    (limit : Option Number) :
    Accounts ordinary (gets + (if (Address.normalize? given).isSome then 1 else 0)) dropped
      (cache.call given limit) := by
  have called := cache.call_cases given limit
  generalize cache.call given limit = after at called ⊢
  cases called with
  | refused malformed =>
    rw [malformed]
    exact accounts.frame rfl rfl rfl
  | hit address wellFormed entry found =>
    rw [wellFormed]
    exact accounts.hit found
  | joined address wellFormed =>
    rw [wellFormed]
    exact (accounts.dropStale address).join _
  | launched address wellFormed =>
    rw [wellFormed]
    refine (accounts.dropStale address).launch ?_ limit
    unfold addresses
    rw [dropStale_entries]
    rintro held
    obtain ⟨entry, member, own⟩ := List.mem_map.mp held
    exact (mem_without.mp member).2 own

variable [Add τ]

/-- **Every event leaves the accounts in order.** -/
theorem step_accounts (accounts : Accounts ordinary gets dropped cache) (tidy : cache.Tidy)
    {event : Event τ} (plain : ordinary → event.IsOrdinary) :
    Accounts ordinary (gets + event.gets) (dropped + cache.drops event) (cache.step event) := by
  cases event with
  | call given limit => exact accounts.call given limit
  | begin number => exact accounts.begin tidy number
  | finish number reply => exact accounts.finish tidy number plain
  | release number => exact accounts.release tidy number
  | cancel call =>
    show Accounts _ _ _ (cache.cancel call)
    rw [cancel_eq]
    exact accounts.frame rfl rfl rfl
  | clear =>
    obtain ⟨called, missed, ⟨lost, none, fetched⟩, _, _⟩ := accounts
    refine ⟨called, missed, ⟨lost, none, ?_⟩, List.nodup_nil, fun _ _ _ held => nomatch held⟩
    show cache.counters.fetches = cache.counters.failures + 0 + cache.counters.evictions +
      cache.counters.expirations + (dropped + cache.entries.length) + lost + cache.inRank 1
    omega
  | advance span => exact accounts.frame rfl rfl rfl

end

/-! ### At rest -/

/-- No fetch is under way. -/
def Idle (cache : Cache τ) : Prop := ∀ flight ∈ cache.flights, ∃ outcome, flight.phase = .finished outcome

/-- **A cache whose counters add up**, after so many calls with a well-formed address and with so many
entries dropped by clearances. -/
structure Balanced (ordinary : Prop) (gets dropped : Nat) (cache : Cache τ) : Prop where
  /-- Each call is a hit or a miss. -/
  called : cache.counters.hits + cache.counters.misses = gets
  /-- When no fetch is under way, each miss was a fetch or joined one. -/
  fetched : cache.Idle → cache.counters.fetches + cache.counters.shared = cache.counters.misses
  /-- When no fetch is under way and all were finished in the ordinary way, each one that did not fail
  left an entry, which is held or was counted when it went. -/
  held : cache.Idle → ordinary → cache.counters.failures + (cache.entries.length +
    cache.counters.evictions + cache.counters.expirations + dropped) = cache.counters.fetches
  /-- However they were finished, there are no more failures and entries than fetches. -/
  within : cache.counters.failures + (cache.entries.length + cache.counters.evictions +
    cache.counters.expirations + dropped) ≤ cache.counters.fetches
  /-- Whatever a fetch comes to store, there is no entry for its address. -/
  stored : ∀ flight ∈ cache.flights, flight.phase = .running → cache.entry? flight.address = none

theorem Idle.inRank_eq_zero (idle : cache.Idle) {rank : Nat} (under : rank < 2) :
    cache.inRank rank = 0 := by
  refine List.countP_eq_zero.mpr fun leg member => ?_
  obtain ⟨flight, inside, rfl⟩ := List.mem_map.mp member
  obtain ⟨outcome, ended⟩ := idle flight inside
  have last : flight.leg.2 = 2 := congrArg Phase.rank ended
  rw [decide_eq_true_eq]
  omega

theorem Accounts.balanced (accounts : Accounts ordinary gets dropped cache) :
    Balanced ordinary gets dropped cache where
  called := accounts.called
  fetched := by
    intro idle
    have missed := accounts.missed
    rw [idle.inRank_eq_zero Nat.two_pos] at missed
    omega
  held := by
    intro idle so
    obtain ⟨lost, none, fetched⟩ := accounts.fetched
    rw [idle.inRank_eq_zero Nat.one_lt_two, none so] at fetched
    omega
  within := by
    obtain ⟨lost, _, fetched⟩ := accounts.fetched
    omega
  stored := by
    intro flight inside fetches
    refine cache.entry?_eq_none.mpr (accounts.fresh flight inside ?_)
    rw [fetches]
    exact Nat.one_lt_two

end

end ContractRisk.Cache
