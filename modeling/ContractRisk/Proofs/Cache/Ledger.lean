/-
**The accounts of a cache in use.**

While a cache is in use (`Deed`), calls are counted where they are made: those of direct callers with the
deed, those of the members of a batch with the batch, which notes each of them (`Batch.gets`). Fetches are
all finished in the ordinary way if the source raises nothing else, and nothing else is let go.

* `Books`: the accounts of the cache agree with both, and whoever is seated in a batch is one of its members;
* `Books.take`, `Books.act`: every turn and every deed keeps the books;
* `acts_balanced`: whatever is done, the counters add up.
-/

import ContractRisk.Proofs.Cache.Accounts
import ContractRisk.Proofs.Cache.Deeds
import ContractRisk.Proofs.Cache.Sources
import Mathlib.Algebra.Ring.Nat

namespace ContractRisk

variable {σ τ : Type}

/-! ### Replacing one of a list -/

/-- What is changed where something was found is replaced there. -/
theorem modify_found {β : Type} {items : List β} {place : Nat} {item : β}
    (found : items[place]? = some item) (change : β → β) :
    items.modify place change = items.set place (change item) := by
  have inside := (List.getElem?_eq_some_iff.mp found).1
  refine List.ext_getElem? fun other => ?_
  by_cases own : other = place
  · subst own
    rw [List.getElem?_modify_eq, found, List.getElem?_set_self inside]
    rfl
  · rw [List.getElem?_modify_ne change items (Ne.symm own), List.getElem?_set_ne (Ne.symm own)]

/-- A sum in which one number is replaced. -/
theorem sum_set {counts : List Nat} {place before : Nat} (found : counts[place]? = some before)
    (after : Nat) : (counts.set place after).sum + before = counts.sum + after := by
  induction counts generalizing place with
  | nil => cases found
  | cons first rest ih =>
    cases place with
    | zero =>
      cases found
      simp only [List.set_cons_zero, List.sum_cons]
      omega
    | succ place =>
      have later := ih found
      simp only [List.set_cons_succ, List.sum_cons]
      omega

/-! ### Calls of batches -/

/-- Whether a question is about a well-formed address. -/
def Request.isWellFormed (request : Request) : Bool := (Address.normalize? request.address).isSome

/-- How many calls with a well-formed address the members of a batch have made. -/
def Batch.gets (batch : Batch) : Nat :=
  batch.calls.countP fun entry =>
    (batch.members[entry.1]?).any fun member => member.any Request.isWellFormed

/-- How many calls with a well-formed address the members of all batches have made. -/
def Traffic.batchGets (traffic : Traffic σ τ) : Nat := (traffic.batches.map Batch.gets).sum

/-! ### Deeds -/

/-- How many direct calls with a well-formed address a deed is. -/
def Deed.gets : Deed τ → Nat
  | .get request => if request.isWellFormed then 1 else 0
  | .outOfTurn event => event.gets
  | _ => 0

/-- Whether what a deed finishes, or lets go, is finished in the ordinary way. -/
def Deed.IsOrdinary : Deed τ → Prop
  | .letGo _ reply => reply.isOrdinary = true
  | .outOfTurn event => event.IsOrdinary
  | _ => True

/-- A member of a batch by its place, among the members of all batches. -/
def Listed (rosters : List (List (Option Request))) (number place : Nat) (request : Option Request) :
    Prop :=
  ∃ roster, rosters[number]? = some roster ∧ roster[place]? = some request

/-- A member stays one when another batch starts. -/
theorem Listed.append {rosters : List (List (Option Request))} {number place : Nat}
    {request : Option Request} (listed : Listed rosters number place request)
    (roster : List (Option Request)) : Listed (rosters ++ [roster]) number place request := by
  obtain ⟨own, there, member⟩ := listed
  refine ⟨own, ?_, member⟩
  rw [List.getElem?_append_left (List.getElem?_eq_some_iff.mp there).1, there]

/-- A turn that may be queued: a member of a batch has a seat, or a reply is passed on, an ordinary one
if all are. -/
def Turn.Proper (ordinary : Prop) (rosters : List (List (Option Request))) : Turn → Prop
  | .seat number place request => Listed rosters number place request
  | .finish _ reply => ordinary → reply.isOrdinary = true
  | _ => True

/-- A turn stays proper when another batch starts. -/
theorem Turn.Proper.append {ordinary : Prop} {rosters : List (List (Option Request))} {turn : Turn}
    (proper : turn.Proper ordinary rosters) (roster : List (Option Request)) :
    turn.Proper ordinary (rosters ++ [roster]) := by
  cases turn with
  | seat number place request => exact Listed.append proper roster
  | _ => exact proper

namespace Traffic

section

variable [Add τ] [Sub τ] [LE τ] [DecidableLE τ] [Source σ]

/-- How many entries a deed drops together. -/
def drops (traffic : Traffic σ τ) : Deed τ → Nat
  | .outOfTurn event => traffic.cache.drops event
  | _ => 0

/-- How many entries were dropped together in the course of deeds. -/
def dropped (traffic : Traffic σ τ) : List (Deed τ) → Nat
  | [] => 0
  | deed :: rest => traffic.drops deed + (traffic.act deed).dropped rest

end

/-! ### The books -/

/-- **The books of a cache in use**, with the members of all batches. -/
structure Books [Source σ] (ordinary : Prop) (rosters : List (List (Option Request))) (gets dropped : Nat)
    (traffic : Traffic σ τ) : Prop where
  tidy : traffic.cache.Tidy
  accounts : traffic.cache.Accounts ordinary (gets + traffic.batchGets) dropped
  source : ordinary → Source.IsOrdinary traffic.source
  members : traffic.batches.map Batch.members = rosters
  turns : ∀ turn, traffic.Queued turn → turn.Proper ordinary rosters
  /-- Whoever waits for a slot is a member of the batch. -/
  waiting : ∀ number batch, traffic.batches[number]? = some batch →
    ∀ entry ∈ batch.waiting, Listed rosters number entry.1 entry.2

section

variable [Source σ] {ordinary : Prop} {rosters : List (List (Option Request))} {gets dropped more : Nat}
  {traffic next : Traffic σ τ}

/-- What leaves the batches alone keeps the books if it keeps the accounts, the source and the turns. -/
theorem Books.frame (books : Books ordinary rosters gets dropped traffic)
    (batches : next.batches = traffic.batches)
    (source : ordinary → Source.IsOrdinary next.source)
    (turns : ∀ turn, next.Queued turn → turn.Proper ordinary rosters)
    (tidy : next.cache.Tidy) {gets' dropped' : Nat}
    (accounts : next.cache.Accounts ordinary (gets' + traffic.batchGets) dropped') :
    Books ordinary rosters gets' dropped' next where
  tidy := tidy
  accounts := by
    unfold batchGets
    rw [batches]
    exact accounts
  source := source
  members := batches ▸ books.members
  turns := turns
  waiting := batches ▸ books.waiting

/-- Something happens at the cache. -/
theorem Books.event [Add τ] [Sub τ] [LE τ] [DecidableLE τ]
    (books : Books ordinary rosters gets dropped traffic) (event : Cache.Event τ)
    (plain : ordinary → event.IsOrdinary) :
    Books ordinary rosters (gets + event.gets) (dropped + traffic.cache.drops event)
      { traffic with cache := traffic.cache.step event } := by
  refine books.frame ?_ ?_ ?_ ?_ ?_
  · rfl
  · exact books.source
  · exact books.turns
  · exact Cache.step_tidy books.tidy event
  · have accounts := Cache.step_accounts books.accounts books.tidy plain
    rwa [Nat.add_right_comm] at accounts

/-- Turns are taken from the queue or put elsewhere in it. -/
theorem Books.requeue (books : Books ordinary rosters gets dropped traffic) {queue : List (Nat × Turn)}
    (turns : ∀ turn, ({ traffic with queue } : Traffic σ τ).Queued turn → traffic.Queued turn) :
    Books ordinary rosters gets dropped { traffic with queue } := by
  refine books.frame ?_ ?_ ?_ ?_ ?_
  · rfl
  · exact books.source
  · exact fun turn queued => books.turns turn (turns turn queued)
  · exact books.tidy
  · exact books.accounts

/-- One more turn is queued. -/
theorem Books.push (books : Books ordinary rosters gets dropped traffic) (wait : Nat) {turn : Turn}
    (proper : turn.Proper ordinary rosters) :
    Books ordinary rosters gets dropped (traffic.push wait turn) where
  tidy := books.tidy
  accounts := books.accounts
  source := books.source
  members := books.members
  turns := by
    intro other queued
    rcases (queued_push traffic wait turn other).mp queued with before | same
    · exact books.turns other before
    · exact same ▸ proper
  waiting := books.waiting

/-- Of a member there is the batch. -/
theorem Books.batch (books : Books ordinary rosters gets dropped traffic) {number place : Nat}
    {request : Option Request} (listed : Listed rosters number place request) :
    ∃ batch, traffic.batches[number]? = some batch ∧ batch.members[place]? = some request := by
  obtain ⟨roster, there, member⟩ := listed
  rw [← books.members, List.getElem?_map] at there
  obtain ⟨batch, found, rfl⟩ := Option.map_eq_some_iff.mp there
  exact ⟨batch, found, member⟩

/-- A batch is replaced by one with the same members, which has noted more calls. -/
theorem Books.set (books : Books ordinary rosters (gets + more) dropped traffic) {number : Nat}
    {batch after : Batch} (found : traffic.batches[number]? = some batch)
    (members : after.members = batch.members) (counted : after.gets = batch.gets + more)
    (waiting : ∀ entry ∈ after.waiting, Listed rosters number entry.1 entry.2) :
    Books ordinary rosters gets dropped { traffic with batches := traffic.batches.set number after } where
  tidy := books.tidy
  accounts := by
    have before : (traffic.batches.map Batch.gets)[number]? = some batch.gets := by
      rw [List.getElem?_map, found]
      rfl
    -- what was still to be noted is part of the sum over the batches now
    have total := sum_set before after.gets
    have same : gets + ((traffic.batches.set number after).map Batch.gets).sum =
        gets + more + (traffic.batches.map Batch.gets).sum := by
      rw [List.map_set]
      omega
    show traffic.cache.Accounts ordinary (gets + ((traffic.batches.set number after).map Batch.gets).sum) dropped
    rw [same]
    exact books.accounts
  members := by
    have own : rosters[number]? = some after.members := by
      rw [← books.members, List.getElem?_map, found, members]
      rfl
    obtain ⟨inside, own⟩ := List.getElem?_eq_some_iff.mp own
    show (traffic.batches.set number after).map Batch.members = rosters
    rw [List.map_set, books.members, ← own]
    exact List.set_getElem_self inside
  source := books.source
  turns := books.turns
  waiting := by
    intro other batch' found' entry member
    change (traffic.batches.set number after)[other]? = some batch' at found'
    by_cases own : other = number
    · subst own
      rw [List.getElem?_set_self (List.getElem?_eq_some_iff.mp found).1] at found'
      cases found'
      exact waiting entry member
    · rw [List.getElem?_set_ne (Ne.symm own)] at found'
      exact books.waiting other batch' found' entry member

/-- Slots of a batch are taken or left, and members wait for them. -/
theorem Books.slots (books : Books ordinary rosters gets dropped traffic) {number : Nat} {batch after : Batch}
    (found : traffic.batches[number]? = some batch) (members : after.members = batch.members)
    (calls : after.calls = batch.calls)
    (waiting : ∀ entry ∈ after.waiting, Listed rosters number entry.1 entry.2) :
    Books ordinary rosters gets dropped { traffic with batches := traffic.batches.set number after } := by
  have counted : after.gets = batch.gets + 0 := by
    unfold Batch.gets
    rw [members, calls]
    rfl
  exact Books.set books found members counted waiting

/-- A slot that is left goes to a member, or is free. -/
theorem Books.leave (books : Books ordinary rosters gets dropped traffic) (number : Nat) :
    Books ordinary rosters gets dropped (traffic.leave number) := by
  unfold Traffic.leave
  split
  · exact books
  rename_i batch found
  have members := books.waiting number batch found
  split
  · exact books.slots found rfl rfl members
  · rename_i place request rest waits
    rw [waits] at members
    have passed : Books ordinary rosters gets dropped
        { traffic with batches := traffic.batches.set number { batch with waiting := rest } } :=
      books.slots found rfl rfl fun entry member => members entry (List.mem_cons_of_mem _ member)
    exact passed.push 0 (members _ List.mem_cons_self)

/-- A member whose call is resumed leaves its slot. -/
theorem Books.resume (books : Books ordinary rosters gets dropped traffic) (call : Nat) :
    Books ordinary rosters gets dropped (traffic.resume call) := by
  unfold Traffic.resume
  split
  · exact books.leave _
  · exact books

section

variable [Sub τ] [LE τ] [DecidableLE τ]

/-- Someone asks: a flight that is opened has its first turn queued. -/
theorem Books.call [Add τ] (books : Books ordinary rosters gets dropped traffic) (request : Request) :
    Books ordinary rosters (gets + (if request.isWellFormed then 1 else 0)) dropped (traffic.call request) := by
  have called : Books ordinary rosters (gets + (if request.isWellFormed then 1 else 0)) dropped
      { traffic with cache := traffic.cache.call request.address request.limit } :=
    books.event (.call request.address request.limit) fun _ => trivial
  generalize gets + _ = total at called ⊢
  unfold Traffic.call
  simp only
  split
  · exact called.push 0 trivial
  · exact called

/-- **A member that has a slot** makes its call, and the batch notes it. -/
theorem Books.seat [Add τ] (books : Books ordinary rosters gets dropped traffic) {number place : Nat}
    {request : Option Request} (listed : Listed rosters number place request) :
    Books ordinary rosters gets dropped (traffic.seat number place request) := by
  unfold Traffic.seat
  cases request with
  | none => exact books.leave number
  | some request =>
    -- the call counts as a direct one until the batch has noted it
    have called := books.call request
    obtain ⟨batch, found, member⟩ := called.batch listed
    have noted : Books ordinary rosters gets dropped { traffic.call request with
        batches := (traffic.call request).batches.modify number fun batch =>
          { batch with calls := batch.calls ++ [(place, traffic.cache.calls.length)] } } := by
      rw [modify_found found]
      refine called.set found rfl ?_ (called.waiting number batch found)
      show (batch.calls ++ [_]).countP _ = batch.calls.countP _ + _
      rw [List.countP_append, List.countP_singleton, member]
      rfl
    simp only
    split
    · exact noted.leave number
    · exact noted

/-- A member that comes up has a slot, or waits for one. -/
theorem Books.arrive [Add τ] (books : Books ordinary rosters gets dropped traffic) {number place : Nat}
    {request : Option Request} (listed : Listed rosters number place request) :
    Books ordinary rosters gets dropped (traffic.arrive number place request) := by
  unfold Traffic.arrive
  split
  · exact books
  rename_i batch found
  have members := books.waiting number batch found
  split
  · refine books.slots found rfl rfl fun entry member => ?_
    rcases List.mem_append.mp member with before | last
    · exact members entry before
    · rw [List.mem_singleton.mp last]
      exact listed
  · have taken : Books ordinary rosters gets dropped { traffic with
        batches := traffic.batches.set number { batch with free := batch.free.map (· - 1) } } :=
      books.slots found rfl rfl members
    exact taken.seat listed

/-- Members come up one after the other. -/
theorem Books.arrivals [Add τ] {number : Nat} {members : List (Option Request × Nat)}
    (listed : ∀ member ∈ members, Listed rosters number member.2 member.1)
    (books : Books ordinary rosters gets dropped traffic) :
    Books ordinary rosters gets dropped (members.foldl (fun traffic member =>
      traffic.arrive number member.2 member.1) traffic) := by
  induction members generalizing traffic with
  | nil => exact books
  | cons member rest ih =>
    refine ih (fun other inside => listed other (List.mem_cons_of_mem _ inside)) ?_
    exact books.arrive (listed member List.mem_cons_self)

/-- **A batch that starts** is noted with its members. -/
theorem Books.start [Add τ] (books : Books ordinary rosters gets dropped traffic) (slots : Option Nat)
    (requests : List (Option Request)) :
    Books ordinary (rosters ++ [requests]) gets dropped (traffic.start slots requests) := by
  have next : traffic.batches.length = rosters.length := by
    rw [← books.members, List.length_map]
  -- the new batch has no calls and nobody waits yet; its members are listed under the next number
  refine Books.arrivals ?_ ⟨books.tidy, ?_, books.source, ?_, ?_, ?_⟩
  · intro member inside
    refine ⟨requests, ?_, List.mk_mem_zipIdx_iff_getElem?.mp inside⟩
    rw [next]
    exact List.getElem?_concat_length
  · show traffic.cache.Accounts ordinary (gets + ((traffic.batches ++ [_]).map Batch.gets).sum) dropped
    rw [List.map_append, List.sum_append]
    exact books.accounts
  · show (traffic.batches ++ [_]).map Batch.members = _
    rw [List.map_append, books.members]
    rfl
  · exact fun turn queued => (books.turns turn queued).append requests
  · intro number batch found entry member
    change (traffic.batches ++ [_])[number]? = some batch at found
    rw [List.getElem?_append] at found
    split at found
    · exact (books.waiting number batch found entry member).append requests
    · rw [List.mem_singleton.mp (List.mem_of_getElem? found)] at member
      cases member

end

/-! ### Turns of flights -/

/-- A flight has a reply, and is to be released. -/
theorem Books.finish [Add τ] [Sub τ] [LE τ] [DecidableLE τ] (books : Books ordinary rosters gets dropped traffic)
    (number : Nat) {reply : Reply} (plain : ordinary → reply.isOrdinary = true) :
    Books ordinary rosters gets dropped (traffic.finish number reply) :=
  (books.event (.finish number reply) plain).push 0 trivial

theorem Books.release (books : Books ordinary rosters gets dropped traffic) (number : Nat) :
    Books ordinary rosters gets dropped (traffic.release number) := by
  refine books.frame ?_ ?_ ?_ ?_ ?_
  · rfl
  · exact books.source
  · rintro turn ⟨wait, queued⟩
    rcases List.mem_append.mp queued with before | resumed
    · exact books.turns turn ⟨wait, before⟩
    · obtain ⟨call, _, same⟩ := List.mem_map.mp resumed
      cases same
      trivial
  · exact books.tidy.release number
  · exact books.accounts.release books.tidy number

/-- The source is asked, and replies in the ordinary way if it always does. -/
theorem Books.enter [Add τ] [Sub τ] [LE τ] [DecidableLE τ] (books : Books ordinary rosters gets dropped traffic)
    (flight : Cache.Flight) : Books ordinary rosters gets dropped (traffic.enter flight) := by
  have plain : ordinary → (Source.ask traffic.source flight.address).1.isOrdinary = true :=
    fun so => (books.source so).now flight.address
  have asked : Books ordinary rosters gets dropped { traffic with
      source := (Source.ask traffic.source flight.address).2
      asked := traffic.asked ++ [flight.address] } :=
    ⟨books.tidy, books.accounts, fun so => (books.source so).ask flight.address, books.members, books.turns,
      books.waiting⟩
  unfold Traffic.enter
  generalize Source.ask traffic.source flight.address = answer at plain asked
  obtain ⟨response, source⟩ := answer
  cases response with
  | reply reply =>
    simp only
    split
    · exact asked.finish flight.number plain
    · exact asked.push 1 plain
  | silent => exact ⟨asked.tidy, asked.accounts, asked.source, asked.members, asked.turns, asked.waiting⟩
  | held => exact ⟨asked.tidy, asked.accounts, asked.source, asked.members, asked.turns, asked.waiting⟩

theorem Books.begin [Add τ] [Sub τ] [LE τ] [DecidableLE τ] (books : Books ordinary rosters gets dropped traffic)
    (flight : Cache.Flight) : Books ordinary rosters gets dropped (traffic.begin flight) := by
  have begun : Books ordinary rosters gets dropped
      { traffic with cache := traffic.cache.begin flight.number } :=
    books.event (.begin flight.number) fun _ => trivial
  unfold Traffic.begin
  simp only
  split
  · exact begun.enter flight
  · split
    · exact begun.push 2 fun _ => rfl
    · exact begun.push 0 trivial

/-! ### Every deed -/

section

variable [Add τ] [Sub τ] [LE τ] [DecidableLE τ]

/-- **Every proper turn keeps the books.** -/
theorem Books.take (books : Books ordinary rosters gets dropped traffic) {turn : Turn}
    (proper : turn.Proper ordinary rosters) :
    Books ordinary rosters gets dropped (traffic.take turn) := by
  have taken := traffic.take_cases turn
  generalize traffic.take turn = next at taken ⊢
  cases taken with
  | gone => exact books
  | begin flight => exact books.begin flight
  | enter flight => exact books.enter flight
  | finish number reply => exact books.finish number proper
  | release number => exact books.release number
  | resume call => exact books.resume call
  | seat number place request => exact books.seat proper

theorem Books.move (books : Books ordinary rosters gets dropped traffic) (move : Move traffic next) :
    Books ordinary rosters gets dropped next := by
  cases move with
  | turn turn rest queued =>
    have popped : Books ordinary rosters gets dropped { traffic with queue := rest } :=
      books.requeue fun other inside => (queued_pop queued).mpr (.inl inside)
    exact popped.take (books.turns turn ((queued_pop queued).mpr (.inr rfl)))
  | wait wait turn rest queued =>
    apply books.requeue
    rintro other ⟨later, inside⟩
    refine (queued_pop queued).mpr ?_
    rcases List.mem_append.mp inside with before | last
    · exact .inl ⟨later, before⟩
    · cases List.mem_singleton.mp last
      exact .inr rfl
  | giveUp =>
    refine books.frame ?_ ?_ ?_ ?_ ?_
    · rfl
    · exact books.source
    · rintro turn ⟨wait, queued⟩
      rcases List.mem_append.mp queued with before | late
      · exact books.turns turn ⟨wait, before⟩
      · obtain ⟨parked, _, same⟩ := List.mem_map.mp late
        cases same
        exact fun _ => rfl
    · exact books.tidy
    · exact books.accounts

omit [Add τ] [Sub τ] [LE τ] [DecidableLE τ] in
theorem Books.letGo (books : Books ordinary rosters gets dropped traffic) (address : String)
    {reply : Reply} (plain : ordinary → reply.isOrdinary = true) :
    Books ordinary rosters gets dropped (traffic.letGo address reply) := by
  unfold Traffic.letGo
  simp only
  split
  · exact books
  · rename_i flight held found
    have parted : Books ordinary rosters gets dropped
        { traffic with parked := traffic.parked.filter (·.1 ≠ flight) } :=
      ⟨books.tidy, books.accounts, books.source, books.members, books.turns, books.waiting⟩
    exact parted.push _ plain

theorem Books.cancelBatch (books : Books ordinary rosters gets dropped traffic) (number : Nat) :
    Books ordinary rosters gets dropped (traffic.cancelBatch number) := by
  have cancelled (calls : List (Nat × Nat)) : ∀ traffic : Traffic σ τ,
      Books ordinary rosters gets dropped traffic → Books ordinary rosters gets dropped { traffic with
        cache := calls.foldl (fun cache entry => cache.cancel entry.2) traffic.cache } := by
    induction calls with
    | nil => exact fun _ books => books
    | cons entry rest ih => exact fun traffic books => ih _ (books.event (.cancel entry.2) fun _ => trivial)
  unfold Traffic.cancelBatch
  split
  · exact books
  · rename_i batch found
    exact (cancelled batch.calls traffic books).slots found rfl rfl fun _ waits => nomatch waits

/-- **Every deed keeps the books.** -/
theorem Books.act (books : Books ordinary rosters gets dropped traffic) {deed : Deed τ}
    (plain : ordinary → deed.IsOrdinary) :
    ∃ rosters, Books ordinary rosters (gets + deed.gets) (dropped + traffic.drops deed) (traffic.act deed) := by
  cases deed with
  | get request => exact ⟨_, books.call request⟩
  | batch slots requests => exact ⟨_, books.start slots requests⟩
  | turns count => exact ⟨_, takeTurns_kept _ (fun _ _ books move => books.move move) count books⟩
  | letGo address reply => exact ⟨_, books.letGo address plain⟩
  | cancelBatch number => exact ⟨_, books.cancelBatch number⟩
  | outOfTurn event => exact ⟨_, books.event event plain⟩

theorem Books.acts (books : Books ordinary rosters gets dropped traffic) {deeds : List (Deed τ)}
    (plain : ordinary → ∀ deed ∈ deeds, deed.IsOrdinary) :
    ∃ rosters, Books ordinary rosters (gets + (deeds.map Deed.gets).sum) (dropped + traffic.dropped deeds)
      (traffic.acts deeds) := by
  induction deeds generalizing traffic rosters gets dropped with
  | nil => exact ⟨rosters, books⟩
  | cons deed rest ih =>
    obtain ⟨rosters, done⟩ := books.act fun so => plain so deed List.mem_cons_self
    have later := ih done fun so other member => plain so other (List.mem_cons_of_mem _ member)
    rw [Nat.add_assoc, Nat.add_assoc] at later
    exact later

/-- **Whatever is done at a cache that was empty, its counters add up**: with the calls that were made,
directly or by members of batches, and with the entries that clearances dropped. A fetch that did not fail
has left an entry, unless the source raised something extraordinary, a cancellation for one. -/
theorem acts_balanced (limits : Cache.Limits τ) (now : τ) (source : σ) (deeds : List (Deed τ)) :
    let start : Traffic σ τ := { cache := { limits, now }, source }
    Cache.Balanced (Source.IsOrdinary source ∧ ∀ deed ∈ deeds, deed.IsOrdinary)
      ((deeds.map Deed.gets).sum + (start.acts deeds).batchGets) (start.dropped deeds)
      (start.acts deeds).cache := by
  intro start
  have opened : Books (Source.IsOrdinary source ∧ ∀ deed ∈ deeds, deed.IsOrdinary) [] 0 0 start :=
    { tidy := Cache.tidy_empty limits now
      accounts := Cache.accounts_empty _ limits now
      source := And.left
      members := rfl
      turns := fun _ ⟨_, queued⟩ => nomatch queued
      waiting := fun _ _ found => nomatch found }
  obtain ⟨rosters, books⟩ := opened.acts And.right
  have balanced := books.accounts.balanced
  rwa [Nat.zero_add, Nat.zero_add] at balanced

end

end

/-- A source with a code for every address but one, for which it holds its reply back. -/
def mixedSource : Replay where
  queues := [("0x00000000000000000000000000000000000000bb", [.held])]
  others := [.reply (.returned (.text "0x0a"))]

theorem mixedSource_ordinary : Source.IsOrdinary mixedSource := by
  refine Replay.always (fun address response member => ?_) fun _ _ => rfl
  unfold Replay.queue at member
  show response.isOrdinary = true
  cases found : mixedSource.queues.lookup address with
  | none =>
    rw [found] at member
    rw [List.mem_singleton.mp member]
    rfl
  | some queue =>
    rw [found] at member
    cases List.mem_singleton.mp (mem_of_lookup found)
    rw [List.mem_singleton.mp member]
    rfl

/-- Two addresses are asked for directly and in a batch with a malformed one; a fetch fails, an entry
grows too old and the next one is dropped. -/
def mixedDeeds : List (Deed Int) := [
  .get ⟨.text "0x00000000000000000000000000000000000000AA", none⟩, .turns 9,
  .batch (some 1) [some ⟨.text "0x00000000000000000000000000000000000000aa", none⟩,
    some ⟨.text "0x00000000000000000000000000000000000000bb", none⟩, some ⟨.text "0xcc", none⟩],
  .turns 9, .get ⟨.text "0x00000000000000000000000000000000000000BB", none⟩,
  .letGo "0x00000000000000000000000000000000000000bb" .overdue, .turns 9,
  .outOfTurn (.advance 60), .get ⟨.text "0x00000000000000000000000000000000000000aa", none⟩, .turns 9,
  .outOfTurn .clear]

theorem mixedDeeds_ordinary : ∀ deed ∈ mixedDeeds, deed.IsOrdinary := by
  simp [mixedDeeds, Deed.IsOrdinary, Cache.Event.IsOrdinary, Reply.isOrdinary]

theorem acts_balanced_mixed :
    let start : Traffic Replay Int :=
      { cache := { limits := ⟨60, .int 2, 1, none⟩, now := 0 }, source := mixedSource }
    let counters := (start.acts mixedDeeds).cache.counters
    (start.acts mixedDeeds).cache.Idle ∧ counters.hits + counters.misses = 5 ∧
      counters.fetches + counters.shared = counters.misses ∧
      counters.failures + (0 + counters.evictions + counters.expirations + 1) = counters.fetches ∧
      counters = ⟨1, 4, 3, 1, 1, 0, 1⟩ := by
  intro start counters
  obtain ⟨landed, gets, dropped, empty, counted⟩ :
      (start.acts mixedDeeds).cache.flights.length = 0 ∧
        (mixedDeeds.map Deed.gets).sum + (start.acts mixedDeeds).batchGets = 5 ∧
        start.dropped mixedDeeds = 1 ∧ (start.acts mixedDeeds).cache.entries.length = 0 ∧
        counters = ⟨1, 4, 3, 1, 1, 0, 1⟩ := by
    decide +kernel
  have balanced : Cache.Balanced _ _ _ (start.acts mixedDeeds).cache :=
    acts_balanced ⟨60, .int 2, 1, none⟩ (0 : Int) mixedSource mixedDeeds
  rw [gets, dropped] at balanced
  have idle : (start.acts mixedDeeds).cache.Idle := by
    intro flight member
    rw [List.eq_nil_of_length_eq_zero landed] at member
    cases member
  have held := balanced.held idle ⟨mixedSource_ordinary, mixedDeeds_ordinary⟩
  rw [empty] at held
  exact ⟨idle, balanced.called, balanced.fetched idle, held, counted⟩

end Traffic

end ContractRisk
