/-
**Every address is asked for once.**

Of the addresses that a batch asks for, some have an entry from the start, and the others are to be asked
for (`Errand`). At any time such an address is awaited, since its member has no slot yet, or a flight for it
is on its way to the source, or the source was asked for it (`Rollcall`): a call takes it from the first
list to the second, and a fetch from the second to the third. So none is lost, and none is asked for twice.

* `Rollcall.call`: a call for an address is a hit, or the only one to open a flight for it;
* `Rollcall.enter`: a flight comes to the source;
* `Rollcall.move`: every move keeps the three lists together, and the cache in its scope.
-/

import ContractRisk.Proofs.Cache.Ledger
import ContractRisk.Proofs.Cache.Rosters
import ContractRisk.Proofs.Cache.Scope
import ContractRisk.Proofs.Cache.Sparing

namespace ContractRisk

variable {σ τ : Type}

/-! ### Who is awaited -/

/-- The member whose seat a turn is. -/
def Turn.seated? : Turn → Option (Option Request)
  | .seat _ _ request => some request
  | _ => none

/-- The flight that a turn brings on its way to the source. -/
def Turn.brings? : Turn → Option Nat
  | .begin flight | .enter flight => some flight
  | _ => none

/-- One of several lists is replaced. -/
theorem flatMap_set_perm {β γ : Type} {items : List β} {place : Nat} {before : β}
    (found : items[place]? = some before) (after : β) (part : β → List γ) :
    (part before ++ (items.set place after).flatMap part).Perm (part after ++ items.flatMap part) := by
  induction items generalizing place with
  | nil => cases found
  | cons first rest ih =>
    cases place with
    | zero =>
      cases found
      exact List.perm_append_comm_assoc _ _ _
    | succ place =>
      have later := (ih found).append_left (part first)
      exact ((List.perm_append_comm_assoc _ _ _).trans later).trans (List.perm_append_comm_assoc _ _ _)

/-- The keys of flights are told apart by their numbers. -/
theorem Cache.Tidy.key_unique {cache : Cache τ} (tidy : cache.Tidy) {first second : String × Nat}
    (member : first ∈ cache.keys) (member' : second ∈ cache.keys) (same : first.2 = second.2) :
    first = second := by
  obtain ⟨flight, inside, own⟩ := List.mem_map.mp member
  obtain ⟨flight', inside', own'⟩ := List.mem_map.mp member'
  subst own own'
  rw [tidy.eq_of_number inside inside' same]

namespace Traffic

/-- The members that have come up and have not asked yet: their seats are queued, or they wait for one. -/
def awaited (traffic : Traffic σ τ) : List (Option Request) :=
  traffic.queue.filterMap (·.2.seated?) ++ traffic.batches.flatMap fun batch => batch.waiting.map (·.2)

/-- The flights on their way to the source. -/
def underway (traffic : Traffic σ τ) : List Nat := traffic.queue.filterMap (·.2.brings?)

section

variable {traffic : Traffic σ τ}

theorem awaited_push (traffic : Traffic σ τ) (wait : Nat) (turn : Turn) :
    (traffic.push wait turn).awaited.Perm (turn.seated?.toList ++ traffic.awaited) := by
  unfold awaited push
  have last : [(wait, turn)].filterMap (·.2.seated?) = turn.seated?.toList := by
    cases turn <;> rfl
  rw [List.filterMap_append, last]
  exact (List.perm_append_comm.append_right _).trans (List.append_assoc _ _ _ ▸ .refl _)

theorem underway_push (traffic : Traffic σ τ) (wait : Nat) (turn : Turn) :
    (traffic.push wait turn).underway = traffic.underway ++ turn.brings?.toList := by
  unfold underway push
  rw [List.filterMap_append]
  cases turn <;> rfl

theorem awaited_pop {wait : Nat} {turn : Turn} {rest : List (Nat × Turn)}
    (queued : traffic.queue = (wait, turn) :: rest) :
    traffic.awaited = turn.seated?.toList ++ ({ traffic with queue := rest } : Traffic σ τ).awaited := by
  unfold awaited
  rw [queued]
  cases turn <;> rfl

theorem underway_pop {wait : Nat} {turn : Turn} {rest : List (Nat × Turn)}
    (queued : traffic.queue = (wait, turn) :: rest) :
    traffic.underway = turn.brings?.toList ++ ({ traffic with queue := rest } : Traffic σ τ).underway := by
  unfold underway
  rw [queued]
  cases turn <;> rfl

/-- A batch is replaced by one for which others wait. -/
theorem awaited_set {number : Nat} {batch : Batch} (found : traffic.batches[number]? = some batch)
    (after : Batch) :
    (batch.waiting.map (·.2) ++
        ({ traffic with batches := traffic.batches.set number after } : Traffic σ τ).awaited).Perm
      (after.waiting.map (·.2) ++ traffic.awaited) := by
  have others := (flatMap_set_perm found after fun batch => batch.waiting.map (·.2)).append_left
    (traffic.queue.filterMap (·.2.seated?))
  exact ((List.perm_append_comm_assoc _ _ _).trans others).trans (List.perm_append_comm_assoc _ _ _)

/-- A batch is replaced by one for which the same members wait. -/
theorem awaited_set_same {number : Nat} {batch after : Batch}
    (found : traffic.batches[number]? = some batch) (same : after.waiting = batch.waiting) :
    ({ traffic with batches := traffic.batches.set number after } : Traffic σ τ).awaited.Perm
      traffic.awaited := by
  have swapped := awaited_set found after
  rw [same] at swapped
  exact (List.perm_append_left_iff _).mp swapped

/-- Whoever is given a slot that was left waited for it. -/
theorem awaited_leave (traffic : Traffic σ τ) (number : Nat) :
    (traffic.leave number).awaited.Perm traffic.awaited := by
  unfold leave
  split
  · exact .refl _
  · rename_i batch found
    split
    · exact awaited_set_same found rfl
    · rename_i place request rest waits
      have swapped := awaited_set found { batch with waiting := rest }
      rw [waits] at swapped
      have pushed := awaited_push ({ traffic with
        batches := traffic.batches.set number { batch with waiting := rest } } : Traffic σ τ) 0
          (.seat number place request)
      refine (List.perm_append_left_iff (rest.map (·.2))).mp (.trans ?_ swapped)
      exact (pushed.append_left _).trans List.perm_middle

theorem underway_leave (traffic : Traffic σ τ) (number : Nat) :
    (traffic.leave number).underway = traffic.underway := by
  unfold leave
  split
  · rfl
  · split
    · rfl
    · exact (underway_push _ _ _).trans (List.append_nil _)

/-- A batch that notes a call waits for the same members. -/
theorem awaited_note (traffic : Traffic σ τ) (number : Nat) (entry : Nat × Nat) :
    ({ traffic with batches := traffic.batches.modify number fun batch =>
        { batch with calls := batch.calls ++ [entry] } } : Traffic σ τ).awaited.Perm traffic.awaited := by
  cases found : traffic.batches[number]? with
  | none =>
    have same : (traffic.batches.modify number fun batch =>
        { batch with calls := batch.calls ++ [entry] }) = traffic.batches := by
      refine List.ext_getElem? fun other => ?_
      rw [List.getElem?_modify]
      cases there : traffic.batches[other]? with
      | none => rfl
      | some batch =>
        have apart : number ≠ other := by
          rintro rfl
          cases found.symm.trans there
        show some (if number = other then _ else batch) = some batch
        rw [if_neg apart]
    rw [same]
  | some batch =>
    rw [modify_found found]
    exact awaited_set_same found rfl

/-- A flight on its way to the source has its leg in the queue. -/
theorem mem_underway {number : Nat} (way : number ∈ traffic.underway) :
    ∃ leg ∈ traffic.legs, leg.1 = number := by
  obtain ⟨entry, member, brings⟩ := List.mem_filterMap.mp way
  have leg : ∃ rank, entry.2.leg? = some (number, rank) := by
    cases turn : entry.2 with
    | begin flight =>
      rw [turn] at brings
      cases brings
      exact ⟨0, rfl⟩
    | enter flight =>
      rw [turn] at brings
      cases brings
      exact ⟨1, rfl⟩
    | _ =>
      rw [turn] at brings
      cases brings
  obtain ⟨rank, leg⟩ := leg
  exact ⟨_, List.mem_append_left _ (List.mem_filterMap.mpr ⟨entry, member, leg⟩), rfl⟩

end

end Traffic

/-! ### Errands -/

/-- **What a batch is to ask for**, in the scope of a cache in which some addresses have an entry: the other
addresses, each once, and with the time that a fetch takes. -/
structure Errand (τ : Type) [Sub τ] [LE τ] extends Cache.Scope τ where
  stock : List String
  wanted : List String
  once : wanted.Nodup
  inside : wanted ⊆ addresses
  time : ¬ Immediate limits.timeout

/-- Whether a member asks for an address that has no entry. -/
def Errand.lacks [Sub τ] [LE τ] (errand : Errand τ) (address : String) (request : Option Request) : Bool :=
  address ∉ errand.stock ∧ (request.bind fun request => Address.normalize? request.address) = some address

/-- No member asks for two addresses. -/
theorem Errand.lacks_only [Sub τ] [LE τ] (errand : Errand τ) {address : String} {request : Option Request}
    (lacks : errand.lacks address request = true) (other : String) :
    errand.lacks other request = (address == other) := by
  by_cases same : address = other
  · rw [← same, lacks, beq_self_eq_true]
  · rw [beq_false_of_ne same]
    refine decide_eq_false fun asked => same ?_
    exact Option.some.inj ((of_decide_eq_true lacks).2.symm.trans asked.2)

namespace Traffic

open Cache

section

variable [Sub τ] [LE τ]

/-- **The addresses of an errand are awaited, on their way, or asked for**, each in one of these ways.
Members that are about to come up, and flights whose turn has just been taken, count with the others. -/
structure Rollcall (errand : Errand τ) (taken : List Nat) (aside : List (Option Request))
    (onWay : List (String × Nat)) (traffic : Traffic σ τ) : Prop where
  within : Within errand.toScope traffic.cache
  limited : Limited errand.limits.timeout traffic.cache
  usual : ∀ request ∈ aside ++ traffic.awaited, Usual errand.limits.timeout request
  /-- What was held from the start is held still, and what was stored since was asked for. -/
  stocked : ∀ address ∈ errand.stock, address ∈ traffic.cache.addresses
  stored : ∀ address ∈ traffic.cache.addresses, address ∈ errand.stock ∨ address ∈ traffic.asked
  counted : ∀ address, (aside ++ traffic.awaited).countP (errand.lacks address) +
    (onWay.map (·.1)).count address + traffic.asked.count address = errand.wanted.count address
  turns : (taken ++ traffic.underway).Perm (onWay.map (·.2))
  known : ∀ key ∈ onWay, key ∈ traffic.cache.keys
  flown : ∀ key ∈ traffic.cache.keys, key ∈ onWay ∨ key.1 ∈ traffic.asked

variable {errand : Errand τ} {taken : List Nat} {aside : List (Option Request)}
  {onWay : List (String × Nat)} {traffic next : Traffic σ τ}

/-- What was asked for is in the scope. -/
theorem Rollcall.inside (roll : Rollcall errand taken aside onWay traffic) {address : String}
    (asked : address ∈ traffic.asked) : address ∈ errand.addresses := by
  refine errand.inside (List.count_pos_iff.mp ?_)
  have counted := roll.counted address
  have some := List.count_pos_iff.mpr asked
  omega

/-- **An address that is still awaited** was not asked for, and has no flight and no entry. -/
theorem Rollcall.fresh {request : Option Request} {address : String}
    (roll : Rollcall errand taken (request :: aside) onWay traffic)
    (lacks : errand.lacks address request = true) :
    address ∉ traffic.asked ∧ (∀ key ∈ onWay, key.1 ≠ address) ∧ address ∉ traffic.cache.addresses ∧
      traffic.cache.registered? address = none := by
  have counted := roll.counted address
  have once := List.nodup_iff_count_le_one.mp errand.once address
  rw [List.cons_append, List.countP_cons_of_pos lacks] at counted
  have unasked : address ∉ traffic.asked := List.count_eq_zero.mp (by omega)
  have apart : ∀ key ∈ onWay, key.1 ≠ address := by
    have none : address ∉ onWay.map (·.1) := List.count_eq_zero.mp (by omega)
    rintro key member rfl
    exact none (List.mem_map_of_mem member)
  refine ⟨unasked, apart, fun held => ?_, ?_⟩
  · rcases roll.stored address held with stocked | asked
    · exact (of_decide_eq_true lacks).1 stocked
    · exact unasked asked
  · cases registered : traffic.cache.registered? address with
    | none => rfl
    | some number =>
      rcases roll.flown _ (roll.within.tidy.registered?_eq_some.mp registered) with way | asked
      · exact absurd rfl (apart _ way)
      · exact absurd asked unasked

/-- Queue and batches change, and nothing else. -/
theorem Rollcall.requeue (roll : Rollcall errand taken aside onWay traffic) {taken' : List Nat}
    {aside' : List (Option Request)} (cache : next.cache = traffic.cache) (asked : next.asked = traffic.asked)
    (awaited : (aside' ++ next.awaited).Perm (aside ++ traffic.awaited))
    (turns : (taken' ++ next.underway).Perm (taken ++ traffic.underway)) :
    Rollcall errand taken' aside' onWay next where
  within := cache ▸ roll.within
  limited := cache ▸ roll.limited
  usual := fun request member => roll.usual request (awaited.subset member)
  stocked := cache ▸ roll.stocked
  stored := by
    rw [cache, asked]
    exact roll.stored
  counted := by
    intro address
    rw [awaited.countP_eq, asked]
    exact roll.counted address
  turns := turns.trans roll.turns
  known := cache ▸ roll.known
  flown := by
    rw [cache, asked]
    exact roll.flown

/-- A member that asks for nothing, or for what is held, is not counted. -/
theorem Rollcall.spare {request : Option Request} (roll : Rollcall errand taken (request :: aside) onWay traffic)
    (spared : ∀ address, errand.lacks address request = false) : Rollcall errand taken aside onWay traffic :=
  { roll with
    usual := fun other member => roll.usual other (List.mem_cons_of_mem _ member)
    counted := by
      intro address
      rw [← roll.counted address, List.cons_append, List.countP_cons_of_neg]
      rw [spared address]
      exact Bool.false_ne_true }

theorem Rollcall.pop (roll : Rollcall errand [] [] onWay traffic) {wait : Nat} {turn : Turn}
    {rest : List (Nat × Turn)} (queued : traffic.queue = (wait, turn) :: rest) :
    Rollcall errand turn.brings?.toList turn.seated?.toList onWay { traffic with queue := rest } := by
  refine roll.requeue ?_ ?_ ?_ ?_
  · rfl
  · rfl
  · rw [awaited_pop queued]
    exact .refl _
  · rw [underway_pop queued]
    exact .refl _

theorem Rollcall.push (roll : Rollcall errand taken aside onWay traffic) {taken' : List Nat} (wait : Nat)
    {turn : Turn} (unseated : turn.seated? = none) (turns : taken = turn.brings?.toList ++ taken') :
    Rollcall errand taken' aside onWay (traffic.push wait turn) := by
  refine roll.requeue ?_ ?_ (.append_left aside ?_) ?_
  · rfl
  · rfl
  · have pushed := awaited_push traffic wait turn
    rwa [unseated] at pushed
  · rw [underway_push, turns, List.append_assoc, ← List.append_assoc]
    exact List.perm_append_comm

theorem Rollcall.leave (roll : Rollcall errand taken aside onWay traffic) (number : Nat) :
    Rollcall errand taken aside onWay (traffic.leave number) := by
  refine roll.requeue (traffic.leave_cache number) ?_ ((awaited_leave traffic number).append_left aside) ?_
  · unfold Traffic.leave
    split
    · rfl
    · split <;> rfl
  · rw [underway_leave]

theorem Rollcall.resume (roll : Rollcall errand taken aside onWay traffic) (call : Nat) :
    Rollcall errand taken aside onWay (traffic.resume call) := by
  unfold Traffic.resume
  split
  · exact roll.leave _
  · exact roll

/-- Turns are queued that are no seats, and bring no flight to the source. -/
theorem Rollcall.append (roll : Rollcall errand taken aside onWay traffic) (turns : List (Nat × Turn))
    (plain : ∀ entry ∈ turns, entry.2.seated? = none ∧ entry.2.brings? = none) :
    Rollcall errand taken aside onWay { traffic with queue := traffic.queue ++ turns } := by
  refine roll.requeue ?_ ?_ (.append_left aside ?_) (.append_left taken ?_)
  · rfl
  · rfl
  · unfold awaited
    rw [List.filterMap_append, List.filterMap_eq_nil_iff.mpr fun entry member => (plain entry member).1,
      List.append_nil]
  · unfold Traffic.underway
    rw [List.filterMap_append, List.filterMap_eq_nil_iff.mpr fun entry member => (plain entry member).2,
      List.append_nil]

/-! ### Flights -/

/-- A flight that has come to the source is no longer on its way. -/
theorem Rollcall.landed {number rank : Nat} (roll : Rollcall errand [] aside onWay traffic)
    (owes : Owes [(number, rank)] traffic) : ∀ key ∈ onWay, key.2 ≠ number := by
  intro key member
  have way : key.2 ∈ traffic.underway := roll.turns.symm.subset (List.mem_map_of_mem member)
  obtain ⟨leg, inside, same⟩ := mem_underway way
  rw [← same]
  exact owes.tidy.legs_apart owes.legs leg inside

/-- Flights that are late run out of time. -/
theorem Rollcall.giveUp (roll : Rollcall errand taken aside onWay traffic) :
    Rollcall errand taken aside onWay traffic.giveUp := by
  have queued := roll.append (traffic.late.map fun entry => (0, .finish entry.1 .overdue)) (by
    intro entry member
    obtain ⟨late, _, rfl⟩ := List.mem_map.mp member
    exact ⟨rfl, rfl⟩)
  refine queued.requeue ?_ ?_ (.refl _) (.refl _)
  · rfl
  · rfl

/-- A reply that was held back is let go. -/
theorem Rollcall.letGo (roll : Rollcall errand taken aside onWay traffic) (address : String) (reply : Reply) :
    Rollcall errand taken aside onWay (traffic.letGo address reply) := by
  unfold Traffic.letGo
  simp only
  split
  · exact roll
  · rename_i flight _ _
    have parted : Rollcall errand taken aside onWay
        { traffic with parked := traffic.parked.filter (·.1 ≠ flight) } := by
      refine roll.requeue ?_ ?_ (.refl _) (.refl _)
      · rfl
      · rfl
    exact parted.push _ rfl rfl

variable [DecidableLE τ] [Add τ]

/-- **Something happens to a flight**, or time passes. -/
theorem Rollcall.event (roll : Rollcall errand taken aside onWay traffic) {event : Event τ}
    (allowed : errand.Allows traffic.cache event) (flies : ∀ given own, event ≠ .call given own)
    (replied : ∀ number reply flight, event = .finish number reply →
      traffic.cache.flight? number = some flight → flight.address ∈ traffic.asked)
    (known : ∀ key ∈ onWay, key ∈ (traffic.cache.step event).keys) :
    Rollcall errand taken aside onWay { traffic with cache := traffic.cache.step event } ∧
      Advances errand.toScope traffic.cache (traffic.cache.step event) := by
  have advances := roll.within.advances allowed
  refine ⟨?_, advances⟩
  exact
  { within := advances.within
    limited := roll.limited.step fun given own same => absurd same (flies given own)
    usual := roll.usual
    stocked := fun address held => advances.kept address (roll.stocked address held)
    stored := by
      intro address held
      rcases mem_addresses_step held with before | ⟨number, reply, flight, same, found, rfl⟩
      · exact roll.stored address before
      · exact .inr (replied number reply flight same found)
    counted := roll.counted
    turns := roll.turns
    known := known
    flown := by
      rintro ⟨address, number⟩ member
      obtain ⟨flight, inside, rfl, rfl⟩ := mem_keys.mp member
      -- a flight that is there was there before
      have before : (flight.address, flight.number) ∈ traffic.cache.keys := by
        cases traffic.cache.came_step inside with
        | stays _ _ before => exact mem_keys.mpr ⟨flight, before, rfl, rfl⟩
        | opens given limit => exact absurd rfl (flies given limit)
        | starts before there => exact mem_keys.mpr ⟨before, there, rfl, rfl⟩
        | ends before _ _ there => exact mem_keys.mpr ⟨before, there, rfl, rfl⟩
      exact roll.flown _ before }

/-- **A flight has its reply.** -/
theorem Rollcall.finish {number : Nat} (roll : Rollcall errand taken aside onWay traffic)
    (owes : Owes [(number, 1)] traffic) (reply : Reply)
    (asked : ∀ flight, traffic.cache.flight? number = some flight → flight.address ∈ traffic.asked) :
    Rollcall errand taken aside onWay (traffic.finish number reply) ∧
      Advances errand.toScope traffic.cache (traffic.finish number reply).cache := by
  have allowed : errand.Allows traffic.cache (.finish number reply) := by
    intro flight found
    refine ⟨?_, roll.inside (asked flight found)⟩
    obtain ⟨other, _, _, fetches, found'⟩ := owes.tidy.flight_of_leg owes.legs
    cases found.symm.trans found'
    cases phase : flight.phase with
    | running => rfl
    | _ =>
      rw [phase] at fetches
      cases fetches
  obtain ⟨finished, advances⟩ := roll.event allowed (fun _ _ same => nomatch same)
    (fun _ _ flight same found => asked flight (by cases same; exact found)) (by
      intro key member
      show key ∈ (traffic.cache.finish number reply).keys
      rw [(traffic.cache.finish_frame number reply).1]
      exact roll.known key member)
  exact ⟨finished.push 0 rfl rfl, advances⟩

/-- **A flight that is finished is gone**, and those who waited for it go on. -/
theorem Rollcall.release {number : Nat} (roll : Rollcall errand [] aside onWay traffic)
    (owes : Owes [(number, 2)] traffic) :
    Rollcall errand [] aside onWay (traffic.release number) ∧
      Advances errand.toScope traffic.cache (traffic.release number).cache := by
  have known : ∀ key ∈ onWay, key ∈ (traffic.cache.step (.release number)).keys := by
    intro key member
    have apart := roll.landed owes key member
    obtain ⟨flight, inside, own⟩ := mem_keys.mp (roll.known key member)
    obtain ⟨outcome, released⟩ := owes.released
    refine mem_keys.mpr ⟨flight, ?_, own⟩
    show flight ∈ (traffic.cache.release number).flights
    rw [released]
    refine List.mem_filter.mpr ⟨inside, decide_eq_true ?_⟩
    rwa [own.2]
  have allowed : errand.Allows traffic.cache (.release number) := trivial
  obtain ⟨released, advances⟩ := roll.event allowed (by rintro _ _ ⟨⟩) (by rintro _ _ _ ⟨⟩) known
  refine ⟨released.append _ fun entry member => ?_, advances⟩
  obtain ⟨call, _, rfl⟩ := List.mem_map.mp member
  exact ⟨rfl, rfl⟩

variable [Source σ]

omit [Source σ] [Add τ] [DecidableLE τ] in
/-- **An address is asked for**: its flight is no longer on its way. -/
theorem Rollcall.ask {flight : Flight} (roll : Rollcall errand [flight.number] aside onWay traffic)
    (there : (flight.address, flight.number) ∈ traffic.cache.keys) (source : σ) :
    Rollcall errand [] aside (onWay.erase (flight.address, flight.number))
      { traffic with source, asked := traffic.asked ++ [flight.address] } := by
  -- it is the flight of that number on its way
  have way : (flight.address, flight.number) ∈ onWay := by
    obtain ⟨key, member, number⟩ := List.mem_map.mp (roll.turns.subset List.mem_cons_self)
    have same := roll.within.tidy.key_unique (roll.known key member) there number
    rwa [← same]
  have parted := List.perm_cons_erase way
  exact
  { roll with
    stored := fun address held => (roll.stored address held).imp_right (List.mem_append_left _)
    counted := by
      intro address
      have before := roll.counted address
      have moved := (parted.map (·.1)).count_eq address
      rw [List.map_cons, List.count_cons] at moved
      change _ = _ + (if flight.address == address then 1 else 0) at moved
      show (aside ++ traffic.awaited).countP _ + _ + (traffic.asked ++ [flight.address]).count address = _
      rw [List.count_append, List.count_singleton]
      omega
    turns := by
      have moved := roll.turns.trans (parted.map (·.2))
      exact (List.perm_cons _).mp moved
    known := fun key member => roll.known key (List.mem_of_mem_erase member)
    flown := by
      intro key member
      by_cases same : key = (flight.address, flight.number)
      · subst same
        exact .inr (List.mem_append_right _ List.mem_cons_self)
      · exact (roll.flown key member).imp (List.mem_erase_of_ne same).mpr (List.mem_append_left _) }

/-- **A flight comes to the source**, which is asked for its address. -/
theorem Rollcall.enter {flight : Flight} (roll : Rollcall errand [flight.number] aside onWay traffic)
    (owes : Owes [(flight.number, 1)] traffic)
    (there : (flight.address, flight.number) ∈ traffic.cache.keys) :
    ∃ onWay', Rollcall errand [] aside onWay' (traffic.enter flight) ∧
      Advances errand.toScope traffic.cache (traffic.enter flight).cache := by
  refine ⟨onWay.erase (flight.address, flight.number), ?_⟩
  unfold Traffic.enter
  cases Source.ask traffic.source flight.address with
  | mk response source =>
    have asked := roll.ask there source
    have parked (held : Bool) : Rollcall errand [] aside (onWay.erase (flight.address, flight.number))
        { traffic with
          source, asked := traffic.asked ++ [flight.address],
          parked := traffic.parked ++ [(flight.number, held)] } := by
      refine asked.requeue ?_ ?_ (.refl _) (.refl _)
      · rfl
      · rfl
    cases response with
    | reply reply =>
      simp only
      split
      · refine asked.finish ⟨owes.tidy, owes.legs⟩ reply fun other found => ?_
        obtain ⟨inside, number⟩ := owes.tidy.flight?_eq_some.mp found
        have same := owes.tidy.key_unique (mem_keys.mpr ⟨other, inside, rfl, rfl⟩) there number
        exact List.mem_append_right _ (List.mem_singleton.mpr (congrArg Prod.fst same))
      · exact ⟨asked.push 1 rfl rfl, roll.within.refl⟩
    | silent => exact ⟨parked false, roll.within.refl⟩
    | held => exact ⟨parked true, roll.within.refl⟩

/-- **A flight starts**, for which there is time. -/
theorem Rollcall.begin {flight : Flight} (roll : Rollcall errand [flight.number] aside onWay traffic)
    (owes : Owes [(flight.number, 0)] traffic) (there : flight ∈ traffic.cache.flights) :
    ∃ onWay', Rollcall errand [] aside onWay' (traffic.begin flight) ∧
      Advances errand.toScope traffic.cache (traffic.begin flight).cache := by
  have found := owes.tidy.flight?_eq_some.mpr ⟨there, rfl⟩
  have keys := (traffic.cache.begin_frame flight.number).1
  have allowed : errand.Allows traffic.cache (.begin flight.number) := trivial
  obtain ⟨begun, advances⟩ := roll.event allowed (by rintro _ _ ⟨⟩) (by rintro _ _ _ ⟨⟩) (by
    intro key member
    show key ∈ (traffic.cache.begin flight.number).keys
    rw [keys]
    exact roll.known key member)
  have limited := roll.limited.flights flight there
  unfold Traffic.begin
  simp only
  split
  · have there' : (flight.address, flight.number) ∈ (traffic.cache.begin flight.number).keys := by
      rw [keys]
      exact mem_keys.mpr ⟨flight, there, rfl, rfl⟩
    obtain ⟨onWay', entered, advances'⟩ := begun.enter (owes.begun found) there'
    exact ⟨onWay', entered, advances.trans advances'⟩
  · rename_i span own
    split
    · rename_i past
      exact absurd ⟨span, limited.symm.trans own, past⟩ errand.time
    · exact ⟨onWay, begun.push 0 rfl rfl, advances⟩

/-! ### Calls and members -/

omit [Source σ]

theorem Rollcall.limited_call (roll : Rollcall errand taken aside onWay traffic) {request : Request}
    (usual : Usual errand.limits.timeout (some request)) :
    Limited errand.limits.timeout (traffic.cache.call request.address request.limit) := by
  have called : Limited errand.limits.timeout
      (traffic.cache.step (.call request.address request.limit)) := by
    refine roll.limited.step ?_
    rintro _ _ ⟨⟩
    exact usual request rfl
  exact called

/-- A call that opens no flight changes nothing that counts. -/
theorem Rollcall.unopened {request : Request} (roll : Rollcall errand taken aside onWay traffic)
    (usual : Usual errand.limits.timeout (some request))
    (opened : (traffic.cache.call request.address request.limit).opened = traffic.cache.opened)
    (flights : (traffic.cache.call request.address request.limit).flights = traffic.cache.flights) :
    Rollcall errand taken aside onWay (traffic.call request) := by
  have advances := roll.within.call request.address request.limit
  have keys : (traffic.cache.call request.address request.limit).keys = traffic.cache.keys := by
    unfold keys
    rw [flights]
  have called : Rollcall errand taken aside onWay
      { traffic with cache := traffic.cache.call request.address request.limit } :=
    { roll with
      within := advances.within
      limited := roll.limited_call usual
      stocked := fun address held => advances.kept address (roll.stocked address held)
      stored := by
        intro address held
        have event : address ∈ (traffic.cache.step (.call request.address request.limit)).addresses := held
        rcases mem_addresses_step event with before | ⟨_, _, _, same, _⟩
        · exact roll.stored address before
        · cases same
      known := fun key member => keys ▸ roll.known key member
      flown := fun key member => roll.flown key (keys ▸ member) }
  unfold Traffic.call
  simp only
  rw [if_neg (by omega)]
  exact called

/-- **The first call for an address** opens a flight, which is on its way from then on. -/
theorem Rollcall.launch {request : Request} {address : String}
    (roll : Rollcall errand taken (some request :: aside) onWay traffic)
    (lacks : errand.lacks address (some request) = true) :
    Rollcall errand taken aside ((address, traffic.cache.opened) :: onWay) (traffic.call request) := by
  have advances := roll.within.call request.address request.limit
  obtain ⟨_, _, absent, unregistered⟩ := roll.fresh lacks
  have launched := traffic.cache.call_new (of_decide_eq_true lacks).2 request.limit
    (traffic.cache.entry?_eq_none.mpr absent) unregistered
  have keys : (traffic.cache.call request.address request.limit).keys =
      traffic.cache.keys ++ [(address, traffic.cache.opened)] := by
    rw [launched]
    exact List.map_append
  have opened : Rollcall errand (traffic.cache.opened :: taken) aside
      ((address, traffic.cache.opened) :: onWay)
      { traffic with cache := traffic.cache.call request.address request.limit } :=
    { within := advances.within
      limited := roll.limited_call (roll.usual _ List.mem_cons_self)
      usual := fun other member => roll.usual other (List.mem_cons_of_mem _ member)
      stocked := fun address held => advances.kept address (roll.stocked address held)
      stored := by
        rw [launched]
        exact roll.stored
      counted := by
        intro other
        have counted := roll.counted other
        rw [List.cons_append, List.countP_cons, errand.lacks_only lacks] at counted
        show (aside ++ traffic.awaited).countP _ + (address :: onWay.map (·.1)).count other +
          traffic.asked.count other = _
        rw [List.count_cons]
        omega
      turns := roll.turns.cons _
      known := by
        intro key member
        rw [keys]
        rcases List.mem_cons.mp member with same | before
        · exact List.mem_append_right _ (List.mem_singleton.mpr same)
        · exact List.mem_append_left _ (roll.known key before)
      flown := by
        intro key member
        rw [keys] at member
        rcases List.mem_append.mp member with before | last
        · exact (roll.flown key before).imp_left (List.mem_cons_of_mem _)
        · exact .inl (List.mem_cons.mpr (.inl (List.mem_singleton.mp last))) }
  unfold Traffic.call
  simp only
  rw [if_pos (by rw [launched]; exact Nat.lt_succ_self _)]
  exact opened.push 0 rfl rfl

/-- **A call is a hit**, a refusal, or the first for its address. -/
theorem Rollcall.call {request : Request}
    (roll : Rollcall errand taken (some request :: aside) onWay traffic) :
    ∃ onWay', Rollcall errand taken aside onWay' (traffic.call request) ∧
      Advances errand.toScope traffic.cache (traffic.call request).cache := by
  have advances := roll.within.call request.address request.limit
  have usual := roll.usual _ List.mem_cons_self
  rw [call_cache]
  by_cases lacking : ∃ address, errand.lacks address (some request) = true
  · obtain ⟨address, lacks⟩ := lacking
    exact ⟨_, roll.launch lacks, advances⟩
  · have spare := roll.spare fun address => Bool.eq_false_iff.mpr fun lacks => lacking ⟨address, lacks⟩
    refine ⟨onWay, ?_, advances⟩
    cases wellFormed : Address.normalize? request.address with
    | none =>
      have refused : traffic.cache.call request.address request.limit =
          traffic.cache.addCall (.answered (.error (.refused .address))) := by
        unfold Cache.call
        rw [wellFormed]
      refine spare.unopened usual ?_ ?_ <;> rw [refused] <;> rfl
    | some address =>
      have stocked : address ∈ errand.stock := by
        by_contra missing
        exact lacking ⟨address, decide_eq_true ⟨missing, wellFormed⟩⟩
      obtain ⟨entry, _, _, hit⟩ := roll.within.hit wellFormed (roll.stocked address stocked) request.limit
      refine spare.unopened usual ?_ ?_ <;> rw [hit] <;> rfl

/-- **A member that has a slot** makes its call, if it has a question. -/
theorem Rollcall.seat {request : Option Request}
    (roll : Rollcall errand taken (request :: aside) onWay traffic) (number place : Nat) :
    ∃ onWay', Rollcall errand taken aside onWay' (traffic.seat number place request) ∧
      Advances errand.toScope traffic.cache (traffic.seat number place request).cache := by
  unfold Traffic.seat
  cases request with
  | none =>
    have spare := roll.spare fun _ => decide_eq_false fun asked => nomatch asked.2
    simp only
    rw [leave_cache]
    exact ⟨onWay, spare.leave number, roll.within.refl⟩
  | some request =>
    obtain ⟨onWay', called, advances⟩ := roll.call
    have noted : Rollcall errand taken aside onWay' { traffic.call request with
        batches := (traffic.call request).batches.modify number fun batch =>
          { batch with calls := batch.calls ++ [(place, traffic.cache.calls.length)] } } := by
      refine called.requeue ?_ ?_ ((awaited_note _ _ _).append_left aside) (.refl _)
      · rfl
      · rfl
    simp only
    split
    · rw [leave_cache]
      exact ⟨onWay', noted.leave number, advances⟩
    · exact ⟨onWay', noted, advances⟩

/-- **A member that comes up** takes a free slot, or is awaited from then on. -/
theorem Rollcall.arrive {request : Option Request}
    (roll : Rollcall errand taken (request :: aside) onWay traffic) {number : Nat}
    (there : number < traffic.batches.length) (place : Nat) :
    ∃ onWay', Rollcall errand taken aside onWay' (traffic.arrive number place request) ∧
      Advances errand.toScope traffic.cache (traffic.arrive number place request).cache := by
  have found := List.getElem?_eq_getElem there
  generalize traffic.batches[number] = batch at found
  unfold Traffic.arrive
  rw [found]
  simp only
  split
  · refine ⟨onWay, roll.requeue ?_ ?_ ?_ (.refl _), roll.within.refl⟩
    · rfl
    · rfl
    · have swapped := awaited_set found { batch with waiting := batch.waiting ++ [(place, request)] }
      rw [List.map_append, List.append_assoc] at swapped
      have moved := (List.perm_append_left_iff _).mp swapped
      exact (moved.append_left aside).trans List.perm_middle
  · have taken' : Rollcall errand taken (request :: aside) onWay { traffic with
        batches := traffic.batches.set number { batch with free := batch.free.map (· - 1) } } := by
      refine roll.requeue ?_ ?_ (.append_left _ ?_) (.refl _)
      · rfl
      · rfl
      · exact awaited_set_same found rfl
    exact taken'.seat number place

/-- Members come up one after the other. -/
theorem Rollcall.arrivals {number : Nat} (members : List (Option Request × Nat)) :
    ∀ {onWay : List (String × Nat)} {traffic : Traffic σ τ},
      Rollcall errand taken (members.map (·.1) ++ aside) onWay traffic → number < traffic.batches.length →
      ∃ onWay', Rollcall errand taken aside onWay' (members.foldl (fun traffic member =>
          traffic.arrive number member.2 member.1) traffic) ∧
        Advances errand.toScope traffic.cache (members.foldl (fun traffic member =>
          traffic.arrive number member.2 member.1) traffic).cache := by
  induction members with
  | nil => exact fun roll _ => ⟨_, roll, roll.within.refl⟩
  | cons member rest ih =>
    intro onWay traffic roll there
    obtain ⟨next, arrived, advances⟩ := Rollcall.arrive roll there member.2
    have there' : number < (traffic.arrive number member.2 member.1).batches.length := by
      have same := congrArg List.length (traffic.rosters_arrive number member.2 member.1)
      unfold rosters at same
      rw [List.length_map, List.length_map] at same
      rwa [same]
    obtain ⟨last, roll', advances'⟩ := ih arrived there'
    exact ⟨last, roll', advances.trans advances'⟩

/-- **A batch starts**, for members that are counted. -/
theorem Rollcall.start {requests : List (Option Request)}
    (roll : Rollcall errand taken requests onWay traffic) (slots : Option Nat) :
    ∃ onWay', Rollcall errand taken [] onWay' (traffic.start slots requests) ∧
      Advances errand.toScope traffic.cache (traffic.start slots requests).cache := by
  let batch : Batch :=
    { members := requests, free := slots, waiting := [], calls := [], cancelled := false }
  have joined : Rollcall errand taken (requests.zipIdx.map (·.1) ++ []) onWay
      { traffic with batches := traffic.batches ++ [batch] } := by
    rw [List.zipIdx_map_fst, List.append_nil]
    refine roll.requeue ?_ ?_ (.append_left _ ?_) (.refl _)
    · rfl
    · rfl
    · unfold awaited
      rw [List.flatMap_append]
      exact .of_eq (congrArg _ (List.append_nil _))
  have there : traffic.batches.length < (traffic.batches ++ [batch]).length := by
    rw [List.length_append]
    exact Nat.lt_succ_self _
  exact Rollcall.arrivals _ joined there

/-! ### Turns -/

variable [Source σ]

/-- **A turn that is taken** leaves nobody out. -/
theorem Rollcall.take {turn : Turn}
    (roll : Rollcall errand turn.brings?.toList turn.seated?.toList onWay traffic)
    (owes : Owes turn.leg?.toList traffic) :
    ∃ onWay', Rollcall errand [] [] onWay' (traffic.take turn) ∧
      Advances errand.toScope traffic.cache (traffic.take turn).cache := by
  cases turn with
  | begin number =>
    obtain ⟨flight, member, rfl, _, found⟩ := owes.tidy.flight_of_leg owes.legs
    rw [take_begin found]
    exact roll.begin owes member
  | enter number =>
    obtain ⟨flight, member, rfl, _, found⟩ := owes.tidy.flight_of_leg owes.legs
    rw [take_enter found]
    exact roll.enter owes (mem_keys.mpr ⟨flight, member, rfl, rfl⟩)
  | finish number reply =>
    refine ⟨onWay, roll.finish owes reply fun flight found => ?_⟩
    -- a flight that has its reply has come to the source
    obtain ⟨member, own⟩ := owes.tidy.flight?_eq_some.mp found
    refine (roll.flown _ (mem_keys.mpr ⟨flight, member, rfl, rfl⟩)).resolve_left fun way => ?_
    exact roll.landed owes _ way own
  | release number => exact ⟨onWay, roll.release owes⟩
  | resume call =>
    refine ⟨onWay, roll.resume call, ?_⟩
    show Advances errand.toScope traffic.cache (traffic.resume call).cache
    rw [resume_cache]
    exact roll.within.refl
  | seat batch place request => exact roll.seat batch place

/-- **A move leaves nobody out**, and the cache in its scope. -/
theorem Rollcall.move (roll : Rollcall errand [] [] onWay traffic) (orderly : Orderly traffic)
    (move : Move traffic next) :
    ∃ onWay', Rollcall errand [] [] onWay' next ∧
      Advances errand.toScope traffic.cache next.cache := by
  cases move with
  | turn turn rest queued => exact (roll.pop queued).take (orderly.pop queued)
  | wait wait turn rest queued =>
    have popped := roll.pop queued
    refine ⟨onWay, popped.requeue ?_ ?_ ?_ ?_, roll.within.refl⟩
    · rfl
    · rfl
    · exact awaited_push { traffic with queue := rest } wait turn
    · show (({ traffic with queue := rest } : Traffic σ τ).push wait turn).underway.Perm _
      rw [underway_push]
      exact List.perm_append_comm
  | giveUp => exact ⟨onWay, roll.giveUp, roll.within.refl⟩

end

end Traffic

end ContractRisk
