/-
**Entries by age and by use.**

What a cache holds is a matter of its history: of the codes that were stored and of the calls that
found one, in whichever order these came up among all other events (`Cache.history`). The code for an
address is the one that was stored last, unless all entries were dropped since (`latest`); it has to
make room only for addresses that were touched after it (`othersSince`).

* `entries_step`: what an event does to the entries, by the mark that it leaves in the history;
* `Tracked`: how entries and history go together, kept by every event (`step_tracked`);
* `run_recency`: a cache holds no more than its size, gives out the latest code only and only while it
  is young, and keeps it as long as fewer other addresses were touched than it has places.
-/

import ContractRisk.Proofs.Address
import ContractRisk.Proofs.Cache.Flights
import Mathlib.Algebra.Order.Group.Int
import Mathlib.Algebra.Order.Group.Unbundled.Basic
import Mathlib.Data.List.Dedup
import Mathlib.Data.List.Induction
import Mathlib.Data.List.Perm.Subperm

namespace ContractRisk.Cache

variable {τ : Type}

/-! ### The history of a cache -/

/-- A span of time by which nothing becomes younger. -/
def Forward [Add τ] [Sub τ] [LE τ] (span : τ) : Prop :=
  ∀ age since now : τ, age ≤ now - since → age ≤ now + span - since

theorem forward_of_nonneg [AddCommGroup τ] [PartialOrder τ] [IsOrderedAddMonoid τ] {span : τ}
    (nonneg : 0 ≤ span) : Forward span := by
  intro age since now old
  calc age ≤ now - since := old
    _ ≤ now + span - since := sub_le_sub_right (le_add_of_nonneg_right nonneg) since

/-- What an event leaves behind in the history of a cache. -/
inductive Mark (τ : Type) where
  /-- A code was stored. -/
  | stored (address code : String) (time : τ)
  /-- A call found the entry for an address. -/
  | used (address : String)
  /-- All entries were dropped. -/
  | cleared

/-- The code that was stored last for an address, with the time, unless all was dropped since. The
history has the last mark first. -/
def latest (address : String) : List (Mark τ) → Option (String × τ)
  | [] => none
  | .stored other code time :: before =>
    if other = address then some (code, time) else latest address before
  | .used _ :: before => latest address before
  | .cleared :: _ => none

/-- The other addresses that were stored or used since an address was. -/
def othersSince (address : String) : List (Mark τ) → List String
  | [] => []
  | .stored other _ _ :: before =>
    if other = address then [] else other :: othersSince address before
  | .used other :: before =>
    if other = address then [] else other :: othersSince address before
  | .cleared :: before => othersSince address before

section

variable [Sub τ] [LE τ] [DecidableLE τ]

/-- Whether a call counts as one that an entry answered. -/
def isHit (cache : Cache τ) (given : Value) (limit : Option Number) : Bool :=
  cache.counters.hits < (cache.call given limit).counters.hits

/-- The mark that a reply to a flight leaves: the code is stored if there is one. -/
def storedBy (time : τ) (reply : Reply) (flight : Flight) : Option (Mark τ) :=
  match flight.phase, reply.outcome flight.address flight.limit with
  | .running, .ok code => some (.stored flight.address code time)
  | _, _ => none

/-- The mark that an event leaves. -/
def mark? (cache : Cache τ) : Event τ → Option (Mark τ)
  | .call given limit =>
    if cache.isHit given limit then (Address.normalize? given).map .used else none
  | .finish number reply => (cache.flight? number).bind (storedBy cache.now reply)
  | .clear => some .cleared
  | _ => none

/-- **What leaves a mark**: a hit, a reply with a code to a flight that fetches, or a clearance. -/
inductive Marks (cache : Cache τ) : Event τ → Mark τ → Prop
  | used (given : Value) (limit : Option Number) (address : String)
      (wellFormed : Address.normalize? given = some address) (hit : cache.isHit given limit = true) :
      Marks cache (.call given limit) (.used address)
  | stored (number : Nat) (reply : Reply) (flight : Flight) (code : String)
      (found : cache.flight? number = some flight) (running : flight.phase = .running)
      (outcome : reply.outcome flight.address flight.limit = .ok code) :
      Marks cache (.finish number reply) (.stored flight.address code cache.now)
  | cleared : Marks cache .clear .cleared

theorem mark?_cases {cache : Cache τ} {event : Event τ} {mark : Mark τ}
    (marks : cache.mark? event = some mark) : Marks cache event mark := by
  cases event with
  | call given limit =>
    obtain ⟨hit, used⟩ := Option.ite_none_right_eq_some.mp marks
    obtain ⟨address, wellFormed, rfl⟩ := Option.map_eq_some_iff.mp used
    exact .used given limit address wellFormed hit
  | finish number reply =>
    obtain ⟨flight, found, stored⟩ := Option.bind_eq_some_iff.mp marks
    unfold storedBy at stored
    split at stored
    · rename_i running outcome
      cases stored
      exact .stored number reply flight _ found running outcome
    · cases stored
  | clear =>
    cases marks
    exact .cleared
  | _ => cases marks

/-- The marks that events leave, the last one first. -/
def history [Add τ] (cache : Cache τ) : List (Event τ) → List (Mark τ)
  | [] => []
  | event :: rest => (cache.step event).history rest ++ (cache.mark? event).toList

theorem history_snoc [Add τ] (cache : Cache τ) (events : List (Event τ)) (event : Event τ) :
    cache.history (events ++ [event]) =
      ((cache.run events).mark? event).toList ++ cache.history events := by
  induction events generalizing cache with
  | nil => exact (List.append_nil _).symm
  | cons first rest ih =>
    show (cache.step first).history (rest ++ [event]) ++ _ = _
    rw [ih, List.append_assoc]
    rfl

end

/-! ### What an event does to the entries -/

section

variable (cache : Cache τ)

/-- Room is made by dropping entries from the front. -/
theorem evict_eq (size : Nat) (entries : List (Entry τ)) :
    (evict (.int size) entries).1 = entries.drop (entries.length - size) := by
  induction entries with
  | nil => exact List.drop_nil.symm
  | cons entry rest ih =>
    have full : (Number.int size < ((rest.length + 1 : Nat) : Number)) ↔ size < rest.length + 1 := by
      show decide ((size : Int) < ((rest.length + 1 : Nat) : Int)) = true ↔ _
      rw [decide_eq_true_eq, Int.ofNat_lt]
    unfold evict
    split
    · rename_i below
      have drops : (entry :: rest).length - size = (rest.length - size) + 1 := by
        have := full.mp below
        rw [List.length_cons]
        omega
      show (evict (.int size) rest).1 = _
      rw [ih, drops, List.drop_succ_cons]
    · rename_i fits
      have stays : (entry :: rest).length - size = 0 := by
        have := mt full.mpr fits
        rw [List.length_cons]
        omega
      rw [stays]
      rfl

variable [Sub τ] [LE τ] [DecidableLE τ] {given : Value} {address : String}

/-- A malformed address is no hit. -/
theorem isHit_refused (malformed : Address.normalize? given = none) (limit : Option Number) :
    cache.isHit given limit = false ∧ (cache.call given limit).entries = cache.entries := by
  have refused : cache.call given limit = cache.addCall (.answered (.error (.refused .address))) := by
    unfold call
    rw [malformed]
  unfold isHit
  rw [refused]
  exact ⟨decide_eq_false (Nat.lt_irrefl _), rfl⟩

/-- A call that finds no young entry drops the old one, and does not count as a hit. -/
theorem call_drops (wellFormed : Address.normalize? given = some address) (limit : Option Number)
    (missed : (cache.entry? address).any (!cache.isExpired ·) = false) :
    (cache.call given limit).entries = without cache.entries address ∧
      (cache.call given limit).counters.hits = cache.counters.hits := by
  have hits : (cache.dropStale address).counters.hits = cache.counters.hits := by
    unfold dropStale
    split <;> rfl
  rw [cache.call_missed wellFormed limit missed]
  unfold miss
  split <;> exact ⟨cache.dropStale_entries address, hits⟩

/-- **A call is a hit if and only if there is a young entry.** -/
theorem isHit_eq (wellFormed : Address.normalize? given = some address) (limit : Option Number) :
    cache.isHit given limit = (cache.entry? address).any (!cache.isExpired ·) := by
  unfold isHit
  cases missed : (cache.entry? address).any (!cache.isExpired ·) with
  | false => simp [(cache.call_drops wellFormed limit missed).2]
  | true =>
    obtain ⟨entry, found, young⟩ := (Option.any_eq_true _ _).mp missed
    rw [cache.call_hit wellFormed limit found (by simpa using young)]
    exact decide_eq_true (Nat.lt_succ_self _)

/-- **What an event does to the entries**, by the mark that it leaves. -/
inductive Touched : Option (Mark τ) → List (Entry τ) → Prop
  | stays : Touched none cache.entries
  | dropped (address : String)
      (missed : (cache.entry? address).any (!cache.isExpired ·) = false) :
      Touched none (without cache.entries address)
  | used (entry : Entry τ) (found : cache.entry? entry.address = some entry) :
      Touched (some (.used entry.address)) (without cache.entries entry.address ++ [entry])
  | stored (address code : String) :
      Touched (some (.stored address code cache.now))
        (evict cache.limits.size (without cache.entries address ++ [⟨address, code, cache.now⟩])).1
  | cleared : Touched (some .cleared) []

/-- A call uses an entry, or drops one that is too old. -/
theorem call_touched (given : Value) (limit : Option Number) :
    Touched cache (cache.mark? (.call given limit)) (cache.call given limit).entries := by
  show Touched cache (if cache.isHit given limit then _ else none) _
  cases wellFormed : Address.normalize? given with
  | none =>
    obtain ⟨missed, entries⟩ := cache.isHit_refused wellFormed limit
    rw [missed, entries]
    exact .stays
  | some address =>
    rw [cache.isHit_eq wellFormed]
    cases missed : (cache.entry? address).any (!cache.isExpired ·) with
    | false =>
      rw [(cache.call_drops wellFormed limit missed).1]
      exact .dropped address missed
    | true =>
      obtain ⟨entry, found, young⟩ := (Option.any_eq_true _ _).mp missed
      have same : entry.address = address := by simpa using List.find?_some found
      rw [cache.call_hit wellFormed limit found (by simpa using young), ← same]
      exact .used entry (same ▸ found)

theorem entries_step [Add τ] (event : Event τ) :
    Touched cache (cache.mark? event) (cache.step event).entries := by
  cases event with
  | call given limit => exact cache.call_touched given limit
  | finish number reply =>
    show Touched cache ((cache.flight? number).bind (storedBy cache.now reply))
      (cache.finish number reply).entries
    unfold finish
    cases cache.flight? number with
    | none => exact .stays
    | some flight =>
      obtain ⟨_, address, limit, phase⟩ := flight
      cases phase with
      | running =>
        simp only [Option.bind_some, storedBy]
        cases reply.outcome address limit with
        | ok code => exact .stored address code
        | error failure => exact .stays
      | _ => exact .stays
  | begin number =>
    show Touched cache none (cache.begin number).entries
    unfold begin
    split <;> exact .stays
  | release number =>
    show Touched cache none (cache.release number).entries
    unfold release
    split <;> exact .stays
  | cancel call =>
    show Touched cache none (cache.cancel call).entries
    rw [cancel_eq]
    exact .stays
  | clear => exact .cleared
  | advance span => exact .stays

end

/-! ### Entries and history go together -/

/-- Entries are told apart by their addresses. -/
theorem entry?_of_once {cache : Cache τ} (once : cache.addresses.Nodup) {entry : Entry τ}
    (member : entry ∈ cache.entries) : cache.entry? entry.address = some entry := by
  unfold entry?
  cases found : cache.entries.find? (·.address = entry.address) with
  | none =>
    rw [List.find?_eq_none] at found
    exact absurd (decide_eq_true rfl) (found entry member)
  | some other =>
    have same : other.address = entry.address := by simpa using List.find?_some found
    rw [List.inj_on_of_nodup_map once (List.mem_of_find?_eq_some found) member same]

/-- **What holds of the entries** of a cache with so many places, by its history. -/
structure Tracked [Sub τ] [LE τ] [DecidableLE τ] (size : Nat) (cache : Cache τ)
    (history : List (Mark τ)) : Prop where
  /-- There are no more entries than places. -/
  bounded : cache.entries.length ≤ size
  /-- No two entries are for one address. -/
  apart : cache.addresses.Nodup
  /-- An entry has the code that was stored last. -/
  current : ∀ entry ∈ cache.entries,
    latest entry.address history = some (entry.code, entry.storedAt)
  /-- A young code is there while others leave it a place, and what was used less recently was not
  touched since. -/
  kept : ∀ address code time, latest address history = some (code, time) →
    cache.isExpired ⟨address, code, time⟩ = false →
    (othersSince address history).dedup.length < size →
    ∃ before after, cache.entries = before ++ ⟨address, code, time⟩ :: after ∧
      after.map Entry.address ⊆ othersSince address history

section

variable [Sub τ] [LE τ] [DecidableLE τ] {size : Nat} {cache : Cache τ} {history : List (Mark τ)}

/-- A young code in the history is found, as long as others leave it a place. -/
theorem Tracked.entry?_of_latest (tracked : Tracked size cache history) {address code : String}
    {time : τ} (found : latest address history = some (code, time))
    (young : cache.isExpired ⟨address, code, time⟩ = false)
    (room : (othersSince address history).dedup.length < size) :
    cache.entry? address = some ⟨address, code, time⟩ := by
  obtain ⟨before, after, split, _⟩ := tracked.kept address code time found young room
  have member : ⟨address, code, time⟩ ∈ cache.entries := by
    rw [split]
    exact List.mem_append_right _ List.mem_cons_self
  exact entry?_of_once tracked.apart member

end

section

variable {entries before after : List (Entry τ)} {entry : Entry τ} {address : String}

theorem mem_without : entry ∈ without entries address ↔ entry ∈ entries ∧ entry.address ≠ address := by
  unfold without
  rw [List.mem_filter, decide_eq_true_eq]

theorem without_sublist (entries : List (Entry τ)) (address : String) :
    (without entries address).Sublist entries :=
  List.filter_sublist

/-- An entry for another address stays between the same entries. -/
theorem without_split (different : entry.address ≠ address) :
    without (before ++ entry :: after) address =
      without before address ++ entry :: without after address := by
  unfold without
  rw [List.filter_append, List.filter_cons_of_pos (by simpa using different)]

theorem without_subset {addresses : List String} (covered : after.map Entry.address ⊆ addresses) :
    (without after address).map Entry.address ⊆ addresses :=
  fun _ member => covered (((without_sublist after address).map _).subset member)

/-- An entry that is put behind the others keeps addresses apart. -/
theorem apart_concat (entry : Entry τ) (apart : (entries.map Entry.address).Nodup) :
    ((without entries entry.address ++ [entry]).map Entry.address).Nodup := by
  rw [List.map_append]
  refine List.nodup_append.mpr ⟨apart.sublist ((without_sublist _ _).map _), List.nodup_singleton _, ?_⟩
  intro first member second last same
  obtain ⟨other, inside, rfl⟩ := List.mem_map.mp member
  rw [List.mem_singleton.mp last] at same
  exact (mem_without.mp inside).2 same

/-- An address that is touched comes behind every other entry. -/
theorem touch_split (before : List (Entry τ)) (entry last : Entry τ) {others : List String}
    (different : entry.address ≠ last.address) (covered : after.map Entry.address ⊆ others) :
    ∃ behind, without (before ++ entry :: after) last.address ++ [last] =
        without before last.address ++ entry :: behind ∧
      behind.map Entry.address ⊆ last.address :: others := by
  refine ⟨without after last.address ++ [last], ?_, ?_⟩
  · rw [without_split different, List.append_assoc, List.cons_append]
  · rw [List.map_append]
    refine List.append_subset.mpr ⟨fun _ member => ?_, fun _ member => ?_⟩
    · exact List.mem_cons_of_mem _ (without_subset covered member)
    · rw [List.mem_singleton.mp member]
      exact List.mem_cons_self

/-- Room is made in front of an entry with fewer behind it than there are places. -/
theorem drop_split {size : Nat} (room : after.length < size) :
    (before ++ entry :: after).drop ((before ++ entry :: after).length - size) =
      before.drop ((before ++ entry :: after).length - size) ++ entry :: after := by
  refine List.drop_append_of_le_length ?_
  rw [List.length_append, List.length_cons]
  omega

theorem length_le_dedup {short long : List String} (distinct : short.Nodup) (inside : short ⊆ long) :
    short.length ≤ long.dedup.length :=
  (List.subperm_of_subset distinct fun _ member => List.mem_dedup.mpr (inside member)).length_le

/-- With one more address touched there were no more of them before. -/
theorem room_before {touched : String} {others : List String} {size : Nat}
    (room : (touched :: others).dedup.length < size) : others.dedup.length < size :=
  Nat.lt_of_le_of_lt (length_le_dedup (List.nodup_dedup others) fun _ member =>
    List.mem_cons_of_mem _ (List.mem_dedup.mp member)) room

end

section

variable [Sub τ] [LE τ] [DecidableLE τ] {size : Nat} {cache after : Cache τ}
  {history : List (Mark τ)}

theorem Tracked.dropped (tracked : Tracked size cache history) {address : String}
    (missed : (cache.entry? address).any (!cache.isExpired ·) = false)
    (entries : after.entries = without cache.entries address)
    (older : ∀ entry, after.isExpired entry = false → cache.isExpired entry = false) :
    Tracked size after history := by
  have sublist := without_sublist cache.entries address
  refine ⟨?_, ?_, ?_, ?_⟩
  · rw [entries]
    exact Nat.le_trans sublist.length_le tracked.bounded
  · unfold addresses
    rw [entries]
    exact tracked.apart.sublist (sublist.map _)
  · rw [entries]
    exact fun entry member => tracked.current entry (sublist.subset member)
  · intro other code time found young room
    -- the entry that was dropped was too old, and this one is not
    have different : other ≠ address := by
      rintro rfl
      rw [tracked.entry?_of_latest found (older _ young) room] at missed
      simp [older _ young] at missed
    obtain ⟨before, behind, split, covered⟩ := tracked.kept other code time found (older _ young) room
    rw [entries, split, without_split different]
    exact ⟨_, _, rfl, without_subset covered⟩

/-- With another address touched, a young code is still there while there is room for both. -/
theorem Tracked.touched (tracked : Tracked size cache history) (entry : Entry τ)
    {address code : String} {time : τ} (other : address ≠ entry.address)
    (found : latest address history = some (code, time))
    (young : cache.isExpired ⟨address, code, time⟩ = false)
    (room : (entry.address :: othersSince address history).dedup.length < size) :
    ∃ before behind, without cache.entries entry.address ++ [entry] =
        before ++ ⟨address, code, time⟩ :: behind ∧
      behind.map Entry.address ⊆ entry.address :: othersSince address history := by
  obtain ⟨before, behind, split, covered⟩ := tracked.kept address code time found young (room_before room)
  obtain ⟨behind', split', covered'⟩ := touch_split before ⟨address, code, time⟩ entry other covered
  rw [split]
  exact ⟨_, behind', split', covered'⟩

theorem Tracked.used (tracked : Tracked size cache history) {entry : Entry τ}
    (member : entry ∈ cache.entries)
    (entries : after.entries = without cache.entries entry.address ++ [entry])
    (older : ∀ entry, after.isExpired entry = false → cache.isExpired entry = false) :
    Tracked size after (.used entry.address :: history) := by
  refine ⟨?_, ?_, ?_, ?_⟩
  · rw [entries, List.length_append, List.length_singleton]
    refine Nat.le_trans (List.length_filter_lt_length_iff_exists.mpr ?_) tracked.bounded
    exact ⟨entry, member, by simp⟩
  · unfold addresses
    rw [entries]
    exact apart_concat entry tracked.apart
  · rw [entries]
    intro other inside
    rcases List.mem_append.mp inside with before | last
    · exact tracked.current other ((without_sublist _ _).subset before)
    · rw [List.mem_singleton.mp last]
      exact tracked.current entry member
  · intro other code time found young room
    change latest other history = _ at found
    change (if entry.address = other then [] else _ : List String).dedup.length < size at room
    show ∃ before behind, _ ∧ _ ⊆ if entry.address = other then [] else _
    by_cases own : entry.address = other
    · subst own
      cases (tracked.current entry member).symm.trans found
      exact ⟨_, [], entries, List.nil_subset _⟩
    · rw [if_neg own] at room ⊢
      rw [entries]
      exact tracked.touched entry (Ne.symm own) found (older _ young) room

theorem Tracked.stored (tracked : Tracked size cache history) (entry : Entry τ)
    (entries : after.entries = (evict (.int size) (without cache.entries entry.address ++ [entry])).1)
    (older : ∀ entry, after.isExpired entry = false → cache.isExpired entry = false) :
    Tracked size after (.stored entry.address entry.code entry.storedAt :: history) := by
  rw [evict_eq] at entries
  have apart : (after.entries.map Entry.address).Nodup := by
    rw [entries, List.map_drop]
    exact (apart_concat entry tracked.apart).sublist (List.drop_sublist _ _)
  refine ⟨?_, apart, ?_, ?_⟩
  · rw [entries, List.length_drop]
    omega
  · rw [entries]
    intro other inside
    show (if entry.address = other.address then _ else latest other.address history) = _
    rcases List.mem_append.mp (List.mem_of_mem_drop inside) with before | last
    · obtain ⟨member, different⟩ := mem_without.mp before
      rw [if_neg (Ne.symm different)]
      exact tracked.current other member
    · rw [List.mem_singleton.mp last, if_pos rfl]
  · intro other code time found young room
    change (if entry.address = other then _ else latest other history) = _ at found
    change (if entry.address = other then [] else _ : List String).dedup.length < size at room
    show ∃ before behind, _ ∧ _ ⊆ if entry.address = other then [] else _
    by_cases own : entry.address = other
    · subst own
      rw [if_pos rfl] at found room
      cases found
      rw [entries, drop_split room]
      exact ⟨_, [], rfl, List.nil_subset _⟩
    · rw [if_neg own] at found room ⊢
      obtain ⟨before, behind, split, covered⟩ :=
        tracked.touched entry (Ne.symm own) found (older _ young) room
      -- what is behind it are other addresses, each once, so it is not what makes room
      have distinct : (behind.map Entry.address).Nodup := by
        have all := apart_concat entry tracked.apart
        rw [split, List.map_append, List.map_cons] at all
        exact (List.nodup_cons.mp (List.nodup_append.mp all).2.1).2
      have fewer : behind.length < size := by
        have covers := length_le_dedup distinct covered
        rw [List.length_map] at covers
        exact Nat.lt_of_le_of_lt covers room
      rw [entries, split, drop_split fewer]
      exact ⟨_, behind, rfl, covered⟩

theorem tracked_nil (entries : cache.entries = []) {before : List (Mark τ)}
    (unknown : ∀ address, latest address before = none) : Tracked size cache before := by
  refine ⟨?_, ?_, ?_, ?_⟩
  · rw [entries]
    exact Nat.zero_le _
  · unfold addresses
    rw [entries]
    exact List.nodup_nil
  · rw [entries]
    exact fun entry member => nomatch member
  · intro address code time found
    rw [unknown] at found
    cases found

/-- **Entries and history go together whatever happens**, as long as time goes forward. -/
theorem step_tracked [Add τ] (tracked : Tracked size cache history)
    (sized : cache.limits.size = .int size) (event : Event τ)
    (forward : ∀ span, event = .advance span → Forward span) :
    Tracked size (cache.step event) ((cache.mark? event).toList ++ history) := by
  obtain ⟨limits, now⟩ := cache.step_fixed event
  have older (entry : Entry τ) (young : (cache.step event).isExpired entry = false) :
      cache.isExpired entry = false := by
    unfold isExpired at young ⊢
    rw [limits, now] at young
    cases event with
    | advance span =>
      rw [decide_eq_false_iff_not] at young ⊢
      exact fun old => young (forward span rfl _ _ _ old)
    | _ => exact young
  have touched := cache.entries_step event
  generalize entries : (cache.step event).entries = after at touched
  generalize cache.mark? event = mark at touched
  cases touched with
  | stays =>
    refine ⟨?_, ?_, ?_, ?_⟩
    · rw [entries]
      exact tracked.bounded
    · unfold addresses
      rw [entries]
      exact tracked.apart
    · rw [entries]
      exact tracked.current
    · rw [entries]
      exact fun address code time found young => tracked.kept address code time found (older _ young)
  | dropped address missed => exact tracked.dropped missed entries older
  | used entry found => exact tracked.used (List.mem_of_find?_eq_some found) entries older
  | stored address code =>
    rw [sized] at entries
    exact tracked.stored ⟨address, code, cache.now⟩ entries older
  | cleared => exact tracked_nil entries fun address => rfl

/-- Entries and history go together after every run of events. -/
theorem run_tracked [Add τ] (tracked : Tracked size cache []) (sized : cache.limits.size = .int size)
    {events : List (Event τ)} (forward : ∀ span, .advance span ∈ events → Forward span) :
    Tracked size (cache.run events) (cache.history events) ∧
      (cache.run events).limits = cache.limits := by
  induction events using List.reverseRecOn with
  | nil => exact ⟨tracked, rfl⟩
  | append_singleton events event ih =>
    obtain ⟨before, limits⟩ := ih fun span member => forward span (List.mem_append_left _ member)
    rw [run_append, history_snoc]
    refine ⟨step_tracked before (by rw [limits, sized]) event fun span same => ?_, ?_⟩
    · exact forward span (List.mem_append_right _ (by simp [same]))
    · exact ((cache.run events).step_fixed event).1.trans limits

end

/-! ### Age and use -/

section

variable [Sub τ] [LE τ] [DecidableLE τ]

/-- A call is answered by an entry: it counts as a hit and opens no flight. -/
structure AnswersAtOnce (cache : Cache τ) (given : Value) (limit : Option Number) (code : String) :
    Prop where
  answered : (cache.call given limit).calls = cache.calls ++ [.answered (.ok code)]
  counted : (cache.call given limit).counters =
    { cache.counters with hits := cache.counters.hits + 1 }
  flights : (cache.call given limit).flights = cache.flights
  registered : (cache.call given limit).registered = cache.registered
  opened : (cache.call given limit).opened = cache.opened

/-- **A cache by age and by use**, with so many places and after such a history. -/
structure Recency (size : Nat) (cache : Cache τ) (history : List (Mark τ)) : Prop where
  /-- There are no more entries than places. -/
  bounded : cache.entries.length ≤ size
  /-- A hit gives the code that was stored last for the address, which is young. -/
  current : ∀ given limit, cache.isHit given limit = true →
    ∃ address code time, Address.normalize? given = some address ∧
      latest address history = some (code, time) ∧
      ¬ cache.limits.lifetime ≤ cache.now - time ∧ cache.AnswersAtOnce given limit code
  /-- A young code is found as long as fewer other addresses were touched since than there are
  places. -/
  kept : ∀ given limit address code time, Address.normalize? given = some address →
    latest address history = some (code, time) → ¬ cache.limits.lifetime ≤ cache.now - time →
    (othersSince address history).dedup.length < size → cache.AnswersAtOnce given limit code
  /-- Whether the next call is a hit is known beforehand. -/
  foreseen : ∀ given limit address, Address.normalize? given = some address →
    cache.contains (.text address) = cache.isHit given limit

theorem answersAtOnce {cache : Cache τ} {given : Value} {address : String}
    (wellFormed : Address.normalize? given = some address) (limit : Option Number) {entry : Entry τ}
    (found : cache.entry? address = some entry) (young : cache.isExpired entry = false) :
    cache.AnswersAtOnce given limit entry.code := by
  have hit := cache.call_hit wellFormed limit found young
  constructor <;> rw [hit] <;> rfl

theorem Tracked.recency {size : Nat} {cache : Cache τ} {history : List (Mark τ)}
    (tracked : Tracked size cache history) : Recency size cache history where
  bounded := tracked.bounded
  current := by
    intro given limit hit
    cases wellFormed : Address.normalize? given with
    | none =>
      rw [(cache.isHit_refused wellFormed limit).1] at hit
      cases hit
    | some address =>
      rw [cache.isHit_eq wellFormed] at hit
      obtain ⟨entry, found, young⟩ := (Option.any_eq_true _ _).mp hit
      rw [Bool.not_eq_true'] at young
      have same : entry.address = address := by simpa using List.find?_some found
      have stored := tracked.current entry (List.mem_of_find?_eq_some found)
      rw [same] at stored
      exact ⟨address, entry.code, entry.storedAt, rfl, stored, of_decide_eq_false young,
        answersAtOnce wellFormed limit found young⟩
  kept := by
    intro given limit address code time wellFormed stored young room
    have young' : cache.isExpired ⟨address, code, time⟩ = false := decide_eq_false young
    exact answersAtOnce wellFormed limit (tracked.entry?_of_latest stored young' room) young'
  foreseen := by
    intro given limit address wellFormed
    rw [contains_eq cache (Address.lower_normalize? wellFormed), cache.isHit_eq wellFormed]

/-- **What a cache holds is what its history leaves young and recent**, after every run of events in
which time goes forward. -/
theorem run_recency [Add τ] (limits : Limits τ) (size : Nat) (now : τ) (events : List (Event τ))
    (forward : ∀ span, .advance span ∈ events → Forward span) :
    let start : Cache τ := { limits := { limits with size := .int size }, now }
    Recency size (start.run events) (start.history events) :=
  (run_tracked (tracked_nil rfl fun _ => rfl) rfl forward).1.recency

end

/-- A call for the code at an address that is fetched without delay, by the number of its flight. -/
def fetched (flight : Nat) (address code : String) : List (Event Int) :=
  [.call (.text address) none, .begin flight, .finish flight (.returned (.text code)),
    .release flight]

/-- Codes are fetched for three addresses, and the first is asked for again before the third. -/
def threeFetched : List (Event Int) :=
  fetched 0 "0x00000000000000000000000000000000000000aa" "0x0a" ++
    fetched 1 "0x00000000000000000000000000000000000000bb" "0x0b" ++ [.advance 20,
      .call (.text "0x00000000000000000000000000000000000000AA") none] ++
    fetched 2 "0x00000000000000000000000000000000000000cc" "0x0c" ++ [.advance 20]

/-- With two places it is the second address that makes room for the third. -/
theorem run_recency_threeFetched :
    let start : Cache Int := { limits := ⟨60, .int 2, 1, none⟩, now := 0 }
    (∀ span, .advance span ∈ threeFetched → Forward span) ∧
      (start.run threeFetched).AnswersAtOnce
        (.text "0x00000000000000000000000000000000000000AA") none "0x0a" ∧
      (start.run threeFetched).isHit
        (.text "0x00000000000000000000000000000000000000bb") none = false := by
  have forward : ∀ span, .advance span ∈ threeFetched → Forward span := by
    intro span member
    have nonneg : 0 ≤ span := by
      simp [threeFetched, fetched] at member
      omega
    exact forward_of_nonneg nonneg
  have recency := run_recency ⟨60, 1, 1, none⟩ 2 (0 : Int) threeFetched forward
  refine ⟨forward, ?_, by decide⟩
  exact recency.kept _ none "0x00000000000000000000000000000000000000aa" "0x0a" 0 (by decide)
    (by decide) (by decide) (by decide)

end ContractRisk.Cache
