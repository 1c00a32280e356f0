/-
**A cache from which nothing goes.**

While a cache stores codes for no more addresses than it has room for, and no longer than its entries last
(`Scope`), every code stays where it was stored, unless all entries are dropped. So an address for which a
call was given a code has an entry from then on (`Stocks`).

* `Within.grown`, `Within.advances`: an event in the scope drops no entry, and keeps the cache in the scope;
* `Within.elapse`: so does the passage of time.
-/

import ContractRisk.Proofs.Cache.Accounts
import ContractRisk.Proofs.Cache.Again
import ContractRisk.Proofs.Cache.Replies

namespace ContractRisk.Cache

variable {τ : Type}

/-! ### Scopes -/

/-- **What a cache may be used for**: the addresses for which it stores codes, all of which it has room
for, and the readings of its clock, no two of which are a lifetime apart. -/
structure Scope (τ : Type) [Sub τ] [LE τ] where
  limits : Limits τ
  addresses : List String
  times : List τ
  fits : ∀ count ≤ addresses.length, ¬ limits.size < ((count : Nat) : Number)
  young : ∀ early ∈ times, ∀ late ∈ times, ¬ limits.lifetime ≤ late - early

/-- An address that has come to a code has an entry. -/
def Stocks (cache : Cache τ) (address : String) (outcome : Outcome) : Prop :=
  outcome.isOk = true → address ∈ cache.addresses

/-- What is good on some terms is good on weaker ones. -/
theorem Vouched.mono {good better : String → Outcome → Prop} {cache : Cache τ}
    (vouched : Vouched better cache)
    (weaker : ∀ address outcome, better address outcome → good address outcome) :
    Vouched good cache where
  entries := fun entry member => weaker _ _ (vouched.entries entry member)
  flights := fun flight member outcome ended => weaker _ _ (vouched.flights flight member outcome ended)

theorem Serves.mono {good better : String → Outcome → Prop} {cache : Cache τ} {given : Value} {call : Nat}
    (serves : Serves better cache given call)
    (weaker : ∀ address outcome, better address outcome → good address outcome) :
    Serves good cache given call := by
  cases serves with
  | waits flight status there own => exact .waits flight status there own
  | answered outcome status owed =>
    refine .answered outcome status ?_
    unfold Owed at owed ⊢
    split
    · rename_i malformed
      rwa [malformed] at owed
    · rename_i address wellFormed
      rw [wellFormed] at owed
      exact weaker address outcome owed

/-- Whoever waits or has an answer is served on while time passes. -/
theorem Serves.elapse [Add τ] {cache : Cache τ} {given : Value} {call : Nat}
    (serves : Serves cache.Stocks cache given call) (span : τ) :
    Serves (cache.advance span).Stocks (cache.advance span) given call := by
  cases serves with
  | waits flight status there own => exact .waits flight status there own
  | answered outcome status owed => exact .answered outcome status owed

/-- Entries that are not too many stay. -/
theorem evict_fits {size : Number} {entries : List (Entry τ)}
    (fits : ¬ size < ((entries.length : Nat) : Number)) : (evict size entries).1 = entries := by
  cases entries with
  | nil => rfl
  | cons entry rest =>
    unfold evict
    rw [List.length_cons] at fits
    rw [if_neg fits]

section

variable [Sub τ] [LE τ] {cache : Cache τ} {scope : Scope τ}

/-- Whether an event is in a scope: a flight that fetches has its reply, or a call or a flight takes another
step. -/
def Scope.Allows (scope : Scope τ) (cache : Cache τ) : Event τ → Prop
  | .finish number _ => ∀ flight, cache.flight? number = some flight →
    flight.phase = .running ∧ flight.address ∈ scope.addresses
  | .cancel _ | .clear | .advance _ => False
  | _ => True

/-- **A cache in its scope**: it holds a code for each of the addresses that have come to one. -/
structure Within (scope : Scope τ) (cache : Cache τ) : Prop where
  tidy : cache.Tidy
  limits : cache.limits = scope.limits
  now : cache.now ∈ scope.times
  once : cache.addresses.Nodup
  entries : ∀ entry ∈ cache.entries, entry.address ∈ scope.addresses ∧ entry.storedAt ∈ scope.times
  vouched : Vouched cache.Stocks cache

/-- **A cache goes on in its scope** and drops no entry, and whoever waits or has an answer is served on. -/
structure Advances (scope : Scope τ) (before after : Cache τ) : Prop where
  within : Within scope after
  now : after.now = before.now
  kept : ∀ address ∈ before.addresses, address ∈ after.addresses
  serves : ∀ given call, Serves before.Stocks before given call → Serves after.Stocks after given call

/-- Where nothing is stored or under way, nothing is out of scope. -/
theorem Within.empty (tidy : cache.Tidy) (limits : cache.limits = scope.limits) (now : cache.now ∈ scope.times)
    (empty : cache.entries = []) (idle : cache.flights = []) : Within scope cache := by
  have addresses : cache.addresses = [] := List.map_eq_nil_iff.mpr empty
  refine ⟨tidy, limits, now, addresses ▸ List.nodup_nil, ?_, ?_, ?_⟩
  · rw [empty]
    exact fun _ member => nomatch member
  · rw [empty]
    exact fun _ member => nomatch member
  · rw [idle]
    exact fun _ member => nomatch member

theorem Within.refl (within : Within scope cache) : Advances scope cache cache :=
  ⟨within, rfl, fun _ => id, fun _ _ => id⟩

theorem Advances.trans {first second third : Cache τ} (former : Advances scope first second)
    (latter : Advances scope second third) : Advances scope first third :=
  ⟨latter.within, latter.now.trans former.now, fun address held => latter.kept address (former.kept address held),
    fun given call serves => latter.serves given call (former.serves given call serves)⟩

/-! ### What an event does -/

/-- What the entries are like after an event: none has gone, and what is new is for an address in the scope
and has just been stored. -/
structure Grown (scope : Scope τ) (cache : Cache τ) (entries : List (Entry τ)) : Prop where
  kept : ∀ address ∈ cache.addresses, address ∈ entries.map Entry.address
  once : (entries.map Entry.address).Nodup
  entries : ∀ entry ∈ entries, entry ∈ cache.entries ∨
    entry.address ∈ scope.addresses ∧ entry.storedAt = cache.now

/-- An entry that is used, or stored, comes behind the others. -/
theorem Within.concat (within : Within scope cache) (entry : Entry τ)
    (source : entry ∈ cache.entries ∨ entry.address ∈ scope.addresses ∧ entry.storedAt = cache.now) :
    Grown scope cache (without cache.entries entry.address ++ [entry]) where
  kept := by
    intro address held
    rw [List.map_append]
    obtain ⟨other, member, rfl⟩ := List.mem_map.mp held
    by_cases own : other.address = entry.address
    · exact List.mem_append_right _ (List.mem_singleton.mpr own)
    · exact List.mem_append_left _ (List.mem_map_of_mem (mem_without.mpr ⟨member, own⟩))
  once := apart_concat entry within.once
  entries := by
    intro other member
    rcases List.mem_append.mp member with before | last
    · exact .inl (mem_without.mp before).1
    · rw [List.mem_singleton.mp last]
      exact source

/-- **A code that a flight comes to is stored**, and stays. -/
theorem Within.stores (within : Within scope cache) {number : Nat} {reply : Reply}
    (allowed : scope.Allows cache (.finish number reply)) {flight : Flight}
    (found : cache.flight? number = some flight) :
    (cache.finish number reply).Stocks flight.address (reply.outcome flight.address flight.limit) := by
  intro done
  obtain ⟨running, inside⟩ := allowed flight found
  obtain ⟨code, outcome⟩ : ∃ code, reply.outcome flight.address flight.limit = .ok code := by
    cases outcome : reply.outcome flight.address flight.limit with
    | ok code => exact ⟨code, rfl⟩
    | error failure =>
      rw [outcome] at done
      cases done
  have stored : (cache.finish number reply).entries = (cache.store flight.address code).entries := by
    unfold finish
    rw [found]
    obtain ⟨_, address, limit, _⟩ := flight
    cases running
    simp only [outcome]
    rfl
  have roomy : ¬ cache.limits.size < 1 :=
    within.limits ▸ scope.fits 1 (List.length_pos_of_mem inside)
  have entry := List.mem_of_find?_eq_some (store_stores roomy flight.address code)
  unfold addresses
  rw [stored]
  exact List.mem_map_of_mem entry

variable [DecidableLE τ]

/-- Only a clearance leaves its mark. -/
theorem mark?_cleared {event : Event τ} (mark : cache.mark? event = some .cleared) : event = .clear := by
  cases mark?_cases mark
  rfl

/-- An address with an entry had one before, or is that of a flight that has its reply. -/
theorem mem_addresses_step [Add τ] {event : Event τ} {address : String}
    (held : address ∈ (cache.step event).addresses) :
    address ∈ cache.addresses ∨ ∃ number reply flight, event = .finish number reply ∧
      cache.flight? number = some flight ∧ flight.address = address := by
  obtain ⟨entry, member, rfl⟩ := List.mem_map.mp held
  rcases (cache.entries_step event).mem member with before | mark
  · exact .inl (List.mem_map_of_mem before)
  · obtain ⟨number, reply, flight, same, found, own, _⟩ := mark?_stored mark
    exact .inr ⟨number, reply, flight, same, found, own⟩

/-- No entry is too old. -/
theorem Within.isExpired (within : Within scope cache) {entry : Entry τ} (member : entry ∈ cache.entries) :
    cache.isExpired entry = false := by
  refine decide_eq_false ?_
  rw [within.limits]
  exact scope.young _ (within.entries entry member).2 _ within.now

/-- **An address with an entry is hit.** -/
theorem Within.hit (within : Within scope cache) {given : Value} {address : String}
    (wellFormed : Address.normalize? given = some address) (held : address ∈ cache.addresses)
    (limit : Option Number) : ∃ entry ∈ cache.entries, entry.address = address ∧
      cache.call given limit = cache.hit entry := by
  obtain ⟨entry, member, rfl⟩ := List.mem_map.mp held
  exact ⟨entry, member, rfl, cache.call_hit wellFormed limit (entry?_of_once within.once member)
    (within.isExpired member)⟩

/-- A call finds no entry only where there is none. -/
theorem Within.missed (within : Within scope cache) {address : String}
    (missed : (cache.entry? address).any (!cache.isExpired ·) = false) : address ∉ cache.addresses := by
  refine cache.entry?_eq_none.mp ?_
  cases found : cache.entry? address with
  | none => rfl
  | some entry =>
    rw [found] at missed
    have young := within.isExpired (cache.entry?_address found).1
    simp [young] at missed

/-- **No entry goes** by an event in the scope: there is room for what is stored, and nothing is too old. -/
theorem Within.grown [Add τ] (within : Within scope cache) {event : Event τ}
    (allowed : scope.Allows cache event) : Grown scope cache (cache.step event).entries := by
  have same : Grown scope cache cache.entries := ⟨fun _ => id, within.once, fun _ => .inl⟩
  have touched := cache.entries_step event
  generalize marks : cache.mark? event = mark at touched
  generalize (cache.step event).entries = entries at touched ⊢
  cases touched with
  | stays => exact same
  | dropped address missed =>
    rw [without_absent (within.missed missed)]
    exact same
  | used entry found => exact within.concat entry (.inl (List.mem_of_find?_eq_some found))
  | stored address code =>
    obtain ⟨number, reply, flight, rfl, found, own, _⟩ := mark?_stored marks
    have inside : address ∈ scope.addresses := own ▸ (allowed flight found).2
    let entry : Entry τ := ⟨address, code, cache.now⟩
    have grown : Grown scope cache (without cache.entries address ++ [entry]) :=
      within.concat entry (.inr ⟨inside, rfl⟩)
    have covered : (without cache.entries address ++ [entry]).map Entry.address ⊆ scope.addresses := by
      intro other held
      obtain ⟨new, member, rfl⟩ := List.mem_map.mp held
      exact (grown.entries new member).elim (fun before => (within.entries new before).1) And.left
    have few := (List.subperm_of_subset grown.once covered).length_le
    rw [List.length_map] at few
    rw [evict_fits (within.limits ▸ scope.fits _ few)]
    exact grown
  | cleared =>
    cases mark?_cleared marks
    exact allowed.elim

/-- **An event in the scope keeps the cache in it.** -/
theorem Within.advances [Add τ] (within : Within scope cache) {event : Event τ}
    (allowed : scope.Allows cache event) : Advances scope cache (cache.step event) := by
  obtain ⟨kept, once, entries⟩ := within.grown allowed
  obtain ⟨limits, time⟩ := cache.step_fixed event
  have now : (cache.step event).now = cache.now := by
    rw [time]
    cases event with
    | advance span => exact allowed.elim
    | _ => rfl
  have later (address : String) (outcome : Outcome) (stocks : cache.Stocks address outcome) :
      (cache.step event).Stocks address outcome := fun done => kept address (stocks done)
  have vouched : Vouched (cache.step event).Stocks cache := within.vouched.mono later
  have truthful : Truthful (cache.step event).Stocks cache event := by
    cases event with
    | finish number reply =>
      exact fun flight found => within.stores allowed found
    | _ => trivial
  refine ⟨⟨step_tidy within.tidy event, limits.trans within.limits, now ▸ within.now, once, ?_,
    step_vouched within.tidy vouched truthful⟩, now, kept, ?_⟩
  · intro entry member
    rcases entries entry member with before | ⟨inside, time⟩
    · exact within.entries entry before
    · exact ⟨inside, time ▸ within.now⟩
  · intro given call serves
    refine step_serves within.tidy vouched (serves.mono later) ?_
    rintro rfl
    exact allowed

variable [Add τ]

theorem Within.call (within : Within scope cache) (given : Value) (limit : Option Number) :
    Advances scope cache (cache.call given limit) := by
  have allowed : scope.Allows cache (.call given limit) := trivial
  exact within.advances allowed

/-- Time passes, but not so much that an entry grows too old. -/
theorem Within.elapse (within : Within scope cache) {span : τ} (timely : cache.now + span ∈ scope.times) :
    Within scope (cache.advance span) :=
  { within with
    tidy := step_tidy within.tidy (.advance span)
    now := timely
    vouched := ⟨within.vouched.entries, within.vouched.flights⟩ }

end

end ContractRisk.Cache
