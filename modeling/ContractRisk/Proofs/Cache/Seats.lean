/-
**No slot of a batch is lost.**

A member that has come up has its place: in a seat that is queued, among those that wait for a slot, or
at a call of its own (`Seated`). As long as members wait or no slot is free, someone has a slot that will
be passed on (`HasHolder`, `Staffed`): a member whose seat is queued, one whose call waits, or one whose
call is to be resumed. Whatever else goes on leaves all of this alone (`Aside`), so it does not matter how
many other batches there are. What holds of the calls of a batch is left open, as long as it lasts
(`Lasting`).

* `Seated.leave`, `Seated.seat`, `Staffed.arrive`, `Staffed.resume`: a slot is passed on or kept;
* `Booked.staffed`, `Staffed.move`: a batch starts staffed, and a move leaves it staffed;
* `Seated.told`, `Staffed.rests`: what its members have come to, and have at rest.
-/

import ContractRisk.Proofs.Cache.Bookings
import Mathlib.Algebra.Order.Ring.Unbundled.Rat
import Mathlib.Data.List.Forall2

namespace ContractRisk.Traffic

open Cache

variable {σ τ : Type} {holds : Cache τ → Request → Nat → Prop} {number : Nat}
  {requests : List (Option Request)} {due : Nat → Prop}

/-! ### Seats and slots -/

/-- Where a member with a question is: its seat is queued, it waits for a slot, or it has called. -/
def Placed (traffic : Traffic σ τ) (number : Nat) (batch : Batch) (place : Nat) (request : Request) :
    Prop :=
  traffic.Queued (.seat number place (some request)) ∨ (place, some request) ∈ batch.waiting ∨
    ∃ call, (place, call) ∈ batch.calls

/-- Someone has a slot that will be passed on. -/
def HasHolder (traffic : Traffic σ τ) (number : Nat) (batch : Batch) : Prop :=
  (∃ place request, traffic.Queued (.seat number place request)) ∨
    ∃ entry ∈ batch.calls, (∃ flight, traffic.cache.calls[entry.2]? = some (.waiting flight)) ∨
      traffic.Queued (.resume entry.2)

/-- **A batch whose members have their places**, as far as they are due, and what holds of their calls. -/
structure Seated (holds : Cache τ → Request → Nat → Prop) (number : Nat)
    (requests : List (Option Request)) (due : Nat → Prop) (traffic : Traffic σ τ) (batch : Batch) :
    Prop where
  found : traffic.batches[number]? = some batch
  members : batch.members = requests
  seats : ∀ place request, traffic.Queued (.seat number place request) → requests[place]? = some request
  waiting : ∀ entry ∈ batch.waiting, requests[entry.1]? = some entry.2
  calls : ∀ entry ∈ batch.calls, ∃ request, requests[entry.1]? = some (some request) ∧
    holds traffic.cache request entry.2
  placed : ∀ place request, due place → requests[place]? = some (some request) →
    Placed traffic number batch place request

/-- **A batch in which no slot is lost.** -/
structure Staffed (holds : Cache τ → Request → Nat → Prop) (number : Nat)
    (requests : List (Option Request)) (due : Nat → Prop) (traffic : Traffic σ τ) (batch : Batch) :
    Prop extends Seated holds number requests due traffic batch where
  held : batch.free = some 0 ∨ batch.waiting ≠ [] → HasHolder traffic number batch

/-- What holds of the calls of a batch goes on to hold. -/
def Lasts (holds : Cache τ → Request → Nat → Prop) (batch : Batch) (before after : Cache τ) : Prop :=
  ∀ entry ∈ batch.calls, ∀ request, holds before request entry.2 → holds after request entry.2

section

variable {traffic : Traffic σ τ} {batch : Batch}

theorem Staffed.mono (staffed : Staffed holds number requests due traffic batch) {fewer : Nat → Prop}
    (less : ∀ place, fewer place → due place) : Staffed holds number requests fewer traffic batch :=
  { staffed with
    placed := fun place request isDue => staffed.placed place request (less place isDue) }

/-- A batch that is replaced is found as it is now. -/
theorem Seated.replaced (seated : Seated holds number requests due traffic batch) (other : Batch) :
    (traffic.batches.set number other)[number]? = some other :=
  List.getElem?_set_self (List.getElem?_eq_some_iff.mp seated.found).1

/-- A slot that nobody waits for is free. -/
theorem Seated.free (seated : Seated holds number requests due traffic batch)
    (nobody : batch.waiting = []) :
    Staffed holds number requests due
      { traffic with
        batches := traffic.batches.set number { batch with free := batch.free.map (· + 1) } }
      { batch with free := batch.free.map (· + 1) } where
  found := seated.replaced _
  members := seated.members
  seats := seated.seats
  waiting := seated.waiting
  calls := seated.calls
  placed := seated.placed
  held := by
    rintro (full | waits)
    · obtain ⟨_, _, zero⟩ := Option.map_eq_some_iff.mp full
      cases zero
    · exact absurd nobody waits

/-- **A slot that a member waits for** goes to the one that waited longest, whose seat is queued. -/
theorem Seated.pass (seated : Seated holds number requests due traffic batch) {place : Nat}
    {request : Option Request} {rest : List (Nat × Option Request)}
    (waits : batch.waiting = (place, request) :: rest) :
    Staffed holds number requests due
      (({ traffic with batches := traffic.batches.set number { batch with waiting := rest } } :
        Traffic σ τ).push 0 (.seat number place request))
      { batch with waiting := rest } where
  found := seated.replaced _
  members := seated.members
  seats := by
    intro other asked queued
    rcases (queued_push _ _ _ _).mp queued with before | last
    · exact seated.seats other asked before
    · cases last
      exact seated.waiting _ (waits ▸ List.mem_cons_self)
  waiting := fun entry member => seated.waiting entry (waits ▸ List.mem_cons_of_mem _ member)
  calls := seated.calls
  placed := by
    intro other asked isDue member
    rcases seated.placed other asked isDue member with seat | wait | call
    · exact .inl ((queued_push _ _ _ _).mpr (.inl seat))
    · rw [waits] at wait
      rcases List.mem_cons.mp wait with first | later
      · cases first
        exact .inl ((queued_push _ _ _ _).mpr (.inr rfl))
      · exact .inr (.inl later)
    · exact .inr (.inr call)
  held := fun _ => .inl ⟨place, request, (queued_push _ _ _ _).mpr (.inr rfl)⟩

/-- **A slot that is left** goes to the first member that waits, or is free. -/
theorem Seated.leave (seated : Seated holds number requests due traffic batch) :
    ∃ after, Staffed holds number requests due (traffic.leave number) after := by
  unfold Traffic.leave
  rw [seated.found]
  simp only
  cases waits : batch.waiting with
  | nil => exact ⟨_, waits ▸ seated.free waits⟩
  | cons first rest => exact ⟨_, seated.pass waits⟩

end

/-! ### What goes on aside -/

/-- **What does not concern a batch**: it stays as it is and its seats stay queued; who is to be resumed
is resumed in time, and so is a member whose call no longer waits. -/
structure Aside (number : Nat) (before after : Traffic σ τ) : Prop where
  batch : after.batches[number]? = before.batches[number]?
  seats : ∀ place request,
    after.Queued (.seat number place request) ↔ before.Queued (.seat number place request)
  resumed : ∀ call, before.Queued (.resume call) → after.Queued (.resume call)
  waits : ∀ batch, before.batches[number]? = some batch → ∀ entry ∈ batch.calls, ∀ flight,
    before.cache.calls[entry.2]? = some (.waiting flight) →
      after.cache.calls[entry.2]? = some (.waiting flight) ∨ after.Queued (.resume entry.2)

section

variable {traffic next last : Traffic σ τ} {batch : Batch} {other : Nat}

theorem Aside.refl (traffic : Traffic σ τ) : Aside number traffic traffic :=
  ⟨rfl, fun _ _ => Iff.rfl, fun _ => id, fun _ _ _ _ _ => .inl⟩

theorem Aside.trans (former : Aside number traffic next) (latter : Aside number next last) :
    Aside number traffic last where
  batch := latter.batch.trans former.batch
  seats := fun place request => (latter.seats place request).trans (former.seats place request)
  resumed := fun call queued => latter.resumed call (former.resumed call queued)
  waits := by
    intro batch found entry member flight waits
    rcases former.waits batch found entry member flight waits with still | resume
    · exact latter.waits batch (former.batch.trans found) entry member flight still
    · exact .inr (latter.resumed entry.2 resume)

/-- What happens to flights alone. -/
theorem Flies.aside (flies : Flies traffic next) : Aside number traffic next where
  batch := congrArg (·[number]?) flies.batches
  seats := fun _ _ => flies.queued _ rfl
  resumed := fun _ => (flies.queued _ rfl).mpr
  waits := by
    intro batch found entry member flight waits
    rw [flies.calls]
    exact .inl waits

/-- **What goes on aside** leaves every member in its place. -/
theorem Seated.aside (seated : Seated holds number requests due traffic batch)
    (aside : Aside number traffic next)
    (lasts : Lasts holds batch traffic.cache next.cache) : Seated holds number requests due next batch where
  found := aside.batch.trans seated.found
  members := seated.members
  seats := fun place request queued => seated.seats place request ((aside.seats place request).mp queued)
  waiting := seated.waiting
  calls := by
    intro entry member
    obtain ⟨request, asked, held⟩ := seated.calls entry member
    exact ⟨request, asked, lasts entry member request held⟩
  placed := by
    intro place request isDue member
    rcases seated.placed place request isDue member with seat | elsewhere
    · exact .inl ((aside.seats place (some request)).mpr seat)
    · exact .inr elsewhere

/-- **What goes on aside** leaves the slots where they are. -/
theorem Staffed.aside (staffed : Staffed holds number requests due traffic batch)
    (aside : Aside number traffic next)
    (lasts : Lasts holds batch traffic.cache next.cache) : Staffed holds number requests due next batch where
  toSeated := staffed.toSeated.aside aside lasts
  held := by
    intro needed
    rcases staffed.held needed with ⟨place, request, seat⟩ | ⟨entry, member, waiting | resume⟩
    · exact .inl ⟨place, request, (aside.seats place request).mpr seat⟩
    · obtain ⟨flight, status⟩ := waiting
      rcases aside.waits batch staffed.found entry member flight status with still | resume
      · exact .inr ⟨entry, member, .inl ⟨flight, still⟩⟩
      · exact .inr ⟨entry, member, .inr resume⟩
    · exact .inr ⟨entry, member, .inr (aside.resumed entry.2 resume)⟩

/-- Another batch is replaced. -/
theorem Aside.set (apart : other ≠ number) (after : Batch) :
    Aside number traffic { traffic with batches := traffic.batches.set other after } :=
  ⟨List.getElem?_set_ne apart, fun _ _ => Iff.rfl, fun _ => id, fun _ _ _ _ _ => .inl⟩

/-- A turn is queued that is no seat in the batch. -/
theorem Aside.push (wait : Nat) {turn : Turn} (elsewhere : ∀ place request, turn ≠ .seat number place request) :
    Aside number traffic (traffic.push wait turn) where
  batch := rfl
  seats := fun place request => (queued_push traffic wait turn _).trans
    (or_iff_left fun same => elsewhere place request same.symm)
  resumed := fun _ queued => (queued_push traffic wait turn _).mpr (.inl queued)
  waits := fun _ _ _ _ _ => .inl

theorem Aside.leave (apart : other ≠ number) : Aside number traffic (traffic.leave other) := by
  unfold Traffic.leave
  split
  · exact .refl _
  · split
    · exact .set apart _
    · exact (Aside.set apart _).trans (.push 0 fun _ _ same => apart (by cases same; rfl))

variable [Sub τ] [LE τ] [DecidableLE τ]

/-- A call leaves the other calls as they are. -/
theorem Aside.call (request : Request) : Aside number traffic (traffic.call request) where
  batch := congrArg (·[number]?) (call_batches request)
  seats := fun _ _ => queued_call request rfl
  resumed := fun _ => (queued_call request rfl).mpr
  waits := by
    intro batch found entry member flight waits
    obtain ⟨status, calls⟩ := traffic.cache.calls_call request.address request.limit
    left
    rw [call_cache, calls, List.getElem?_append_left (List.getElem?_eq_some_iff.mp waits).1]
    exact waits

/-- A member of another batch has a slot. -/
theorem Aside.seat (apart : other ≠ number) (place : Nat) (request : Option Request) :
    Aside number traffic (traffic.seat other place request) := by
  unfold Traffic.seat
  cases request with
  | none => exact .leave apart
  | some request =>
    have noted : Aside number traffic { traffic.call request with
        batches := (traffic.call request).batches.modify other fun batch =>
          { batch with calls := batch.calls ++ [(place, traffic.cache.calls.length)] } } :=
      (Aside.call request).trans
        ⟨List.getElem?_modify_ne _ _ apart, fun _ _ => Iff.rfl, fun _ => id, fun _ _ _ _ _ => .inl⟩
    simp only
    split
    · exact noted.trans (.leave apart)
    · exact noted

theorem Aside.arrive (apart : other ≠ number) (place : Nat) (request : Option Request) :
    Aside number traffic (traffic.arrive other place request) := by
  unfold Traffic.arrive
  split
  · exact .refl _
  · split
    · exact .set apart _
    · exact (Aside.set apart _).trans (.seat apart place request)

/-- **Another batch starts.** -/
theorem Aside.start (there : number < traffic.batches.length) (slots : Option Nat)
    (requests : List (Option Request)) : Aside number traffic (traffic.start slots requests) := by
  have apart : traffic.batches.length ≠ number := Nat.ne_of_gt there
  have arrivals (members : List (Option Request × Nat)) : ∀ next : Traffic σ τ,
      Aside number next (members.foldl (fun next member =>
        next.arrive traffic.batches.length member.2 member.1) next) := by
    induction members with
    | nil => exact .refl
    | cons member rest ih => exact fun next => (Aside.arrive apart member.2 member.1).trans (ih _)
  refine Aside.trans ?_ (arrivals _ _)
  exact ⟨List.getElem?_append_left there, fun _ _ => Iff.rfl, fun _ => id, fun _ _ _ _ _ => .inl⟩

end

/-! ### A member with a slot -/

/-- A bound of at least one leaves a slot. -/
theorem slots_ne_zero {count : Number} (positive : ¬ count < 1) : slots count ≠ some 0 := by
  cases count with
  | int n =>
    have above : ¬ n < 1 := fun below => positive (decide_eq_true below)
    intro none
    have zero : n.toNat = 0 := Option.some.inj none
    omega
  | float x =>
    show (if x.isFinite && (Decimal.exactly x).den = 1 then
      some (Decimal.exactly x).num.toNat else none) ≠ some 0
    split
    · rename_i whole
      intro none
      have zero : (Decimal.exactly x).num.toNat = 0 := Option.some.inj none
      have finite := (Bool.and_eq_true_iff.mp whole).1
      have above : ¬ Decimal.exactly x < 1 := by
        intro below
        refine positive ?_
        show Number.below (.float x) (.int 1) = true
        simp only [Number.below, Number.rational?, finite, if_true]
        exact decide_eq_true below
      have num : 0 < (Decimal.exactly x).num :=
        Rat.num_pos.mpr (lt_of_lt_of_le (by decide) (Rat.not_lt.mp above))
      omega
    · exact fun none => nomatch none

section

variable [Sub τ] [LE τ] [DecidableLE τ]

/-- **What calls keep**: it holds of each call that is made, as long as the cache is kept, and goes on to
hold of it when others are made. A call of which it holds waits or has its answer. -/
structure Lasting (holds : Cache τ → Request → Nat → Prop) (kept : Cache τ → Prop) : Prop where
  present : ∀ cache request call, holds cache request call →
    (∃ flight, cache.calls[call]? = some (.waiting flight)) ∨
      ∃ outcome, cache.calls[call]? = some (.answered outcome)
  made : ∀ cache, kept cache → ∀ request : Request,
    holds (cache.call request.address request.limit) request cache.calls.length
  lasts : ∀ cache, kept cache → ∀ request : Request, ∀ other call, holds cache other call →
    holds (cache.call request.address request.limit) other call
  kept : ∀ cache, kept cache → ∀ request : Request, kept (cache.call request.address request.limit)

variable {kept : Cache τ → Prop} {traffic : Traffic σ τ} {batch : Batch}

/-- A member with a slot makes a call, or none. -/
theorem Lasting.seat (lasting : Lasting holds kept) (traffic : Traffic σ τ) (held : kept traffic.cache)
    (number place : Nat) (request : Option Request) :
    kept (traffic.seat number place request).cache ∧ ∀ other call, holds traffic.cache other call →
      holds (traffic.seat number place request).cache other call := by
  cases request with
  | none =>
    show kept (traffic.leave number).cache ∧ ∀ _ _, _ → holds (traffic.leave number).cache _ _
    rw [leave_cache]
    exact ⟨held, fun _ _ => id⟩
  | some request =>
    rw [seat_cache]
    exact ⟨lasting.kept _ held request, lasting.lasts _ held request⟩

theorem Lasting.arrive (lasting : Lasting holds kept) (held : kept traffic.cache) (number place : Nat)
    (request : Option Request) : kept (traffic.arrive number place request).cache := by
  unfold Traffic.arrive
  split
  · exact held
  · split
    · exact held
    · refine (lasting.seat _ ?_ number place request).1
      exact held

/-- A member's call is noted for its place. -/
theorem Seated.note (seated : Seated holds number requests due traffic batch)
    (lasting : Lasting holds kept) (held : kept traffic.cache) {place : Nat} {request : Request}
    (member : requests[place]? = some (some request)) :
    Seated holds number requests (fun other => due other ∨ other = place)
      { traffic.call request with
        batches := (traffic.call request).batches.modify number fun batch =>
          { batch with calls := batch.calls ++ [(place, traffic.cache.calls.length)] } }
      { batch with calls := batch.calls ++ [(place, traffic.cache.calls.length)] } where
  found := by
    show ((traffic.call request).batches.modify number _)[number]? = _
    rw [List.getElem?_modify_eq, call_batches, seated.found]
    rfl
  members := seated.members
  seats := fun place other queued => seated.seats place other ((queued_call request rfl).mp queued)
  waiting := seated.waiting
  calls := by
    show ∀ entry ∈ batch.calls ++ [_], ∃ other, _ ∧ holds (traffic.call request).cache other entry.2
    rw [call_cache]
    intro entry inside
    rcases List.mem_append.mp inside with before | last
    · obtain ⟨other, asked, holding⟩ := seated.calls entry before
      exact ⟨other, asked, lasting.lasts _ held request other entry.2 holding⟩
    · rw [List.mem_singleton.mp last]
      exact ⟨request, member, lasting.made _ held request⟩
  placed := by
    rintro other asked (isDue | rfl) question
    · rcases seated.placed other asked isDue question with seat | wait | ⟨call, noted⟩
      · exact .inl ((queued_call request rfl).mpr seat)
      · exact .inr (.inl wait)
      · exact .inr (.inr ⟨call, List.mem_append_left _ noted⟩)
    · exact .inr (.inr ⟨_, List.mem_append_right _ (List.mem_singleton_self _)⟩)

/-- **A member that has a slot** keeps it for as long as its call waits, or leaves it. -/
theorem Seated.seat (seated : Seated holds number requests due traffic batch)
    (lasting : Lasting holds kept) (held : kept traffic.cache) {place : Nat} {request : Option Request}
    (member : requests[place]? = some request) :
    ∃ after, Staffed holds number requests (fun other => due other ∨ other = place)
      (traffic.seat number place request) after := by
  cases request with
  | none =>
    have due' : Seated holds number requests (fun other => due other ∨ other = place) traffic batch := by
      refine { seated with placed := ?_ }
      rintro other asked (isDue | rfl) question
      · exact seated.placed other asked isDue question
      · rw [member] at question
        cases question
    exact due'.leave
  | some request =>
    have noted := seated.note lasting held member
    unfold Traffic.seat
    simp only
    split
    · exact noted.leave
    · rename_i unanswered
      rw [call_cache] at unanswered
      refine ⟨_, noted, fun _ => .inr ⟨_, List.mem_append_right _ (List.mem_singleton_self _), .inl ?_⟩⟩
      show ∃ flight, (traffic.call request).cache.calls[_]? = _
      rw [call_cache]
      rcases lasting.present _ request _ (lasting.made _ held request) with waiting | ⟨outcome, status⟩
      · exact waiting
      · exact absurd (Option.isSome_iff_exists.mpr ⟨outcome, answer?_eq_some.mpr status⟩) unanswered

/-- **A member that comes up** takes a free slot, or waits for those who have one. -/
theorem Staffed.arrive (staffed : Staffed holds number requests due traffic batch)
    (lasting : Lasting holds kept) (held : kept traffic.cache) {place : Nat} {request : Option Request}
    (member : requests[place]? = some request) :
    ∃ after, Staffed holds number requests (fun other => due other ∨ other = place)
      (traffic.arrive number place request) after := by
  unfold Traffic.arrive
  rw [staffed.found]
  simp only
  split
  · rename_i none
    refine ⟨{ batch with waiting := batch.waiting ++ [(place, request)] },
      ⟨staffed.replaced _, staffed.members, staffed.seats, ?_, staffed.calls, ?_⟩, fun _ => ?_⟩
    · intro entry waits
      rcases List.mem_append.mp waits with before | last
      · exact staffed.waiting entry before
      · rw [List.mem_singleton.mp last]
        exact member
    · rintro other asked (isDue | rfl) question
      · rcases staffed.placed other asked isDue question with seat | wait | call
        · exact .inl seat
        · exact .inr (.inl (List.mem_append_left _ wait))
        · exact .inr (.inr call)
      · cases member.symm.trans question
        exact .inr (.inl (List.mem_append_right _ (List.mem_singleton_self _)))
    · refine staffed.held ?_
      rcases Bool.or_eq_true_iff.mp none with full | waits
      · exact .inl (of_decide_eq_true full)
      · refine .inr fun empty => ?_
        rw [empty] at waits
        cases waits
  · have seated : Seated holds number requests due
        { traffic with
          batches := traffic.batches.set number { batch with free := batch.free.map (· - 1) } }
        { batch with free := batch.free.map (· - 1) } :=
      ⟨staffed.replaced _, staffed.members, staffed.seats, staffed.waiting, staffed.calls, staffed.placed⟩
    exact seated.seat lasting held member

/-- **Members that come up one after the other** are all served. -/
theorem Staffed.arrivals (staffed : Staffed holds number requests due traffic batch)
    (lasting : Lasting holds kept) (held : kept traffic.cache) (members : List (Option Request × Nat))
    (inside : ∀ member ∈ members, requests[member.2]? = some member.1) :
    ∃ after, Staffed holds number requests (fun place => due place ∨ place ∈ members.map (·.2))
      (members.foldl (fun traffic member => traffic.arrive number member.2 member.1) traffic) after := by
  induction members generalizing traffic batch due with
  | nil => exact ⟨batch, staffed.mono fun _ isDue => isDue.resolve_right List.not_mem_nil⟩
  | cons member rest ih =>
    obtain ⟨next, staffed'⟩ := staffed.arrive lasting held (inside member List.mem_cons_self)
    obtain ⟨after, staffed''⟩ := ih staffed' (lasting.arrive held number member.2 member.1)
      fun other later => inside other (List.mem_cons_of_mem _ later)
    refine ⟨after, staffed''.mono fun place isDue => ?_⟩
    rcases isDue with before | later
    · exact .inl (.inl before)
    · rcases List.mem_cons.mp later with same | later
      · exact .inl (.inr same)
      · exact .inr later

/-- **A batch that starts with a slot** has every member in its place, whatever else is going on. -/
theorem Booked.staffed (booked : Booked traffic) (lasting : Lasting holds kept)
    (held : kept traffic.cache) {slots : Option Nat} (room : slots ≠ some 0)
    (requests : List (Option Request)) :
    ∃ after, Staffed holds traffic.batches.length requests (· < requests.length)
      (traffic.start slots requests) after := by
  let batch : Batch :=
    { members := requests, free := slots, waiting := [], calls := [], cancelled := false }
  have staffed : Staffed holds traffic.batches.length requests (fun _ => False)
      { traffic with batches := traffic.batches ++ [batch] } batch :=
    { found := List.getElem?_concat_length
      members := rfl
      seats := fun place request queued =>
        absurd (booked.seats _ place request queued) (Nat.lt_irrefl _)
      waiting := fun _ member => nomatch member
      calls := fun _ member => nomatch member
      placed := fun _ _ isDue => isDue.elim
      held := fun needed => needed.elim (absurd · room) fun waits => absurd rfl waits }
  obtain ⟨after, staffed'⟩ := staffed.arrivals lasting held requests.zipIdx
    fun member inside => List.mk_mem_zipIdx_iff_getElem?.mp inside
  refine ⟨after, staffed'.mono fun place isDue => .inr ?_⟩
  rw [List.zipIdx_map_snd]
  exact List.mem_range'_1.mpr ⟨Nat.zero_le _, by omega⟩

end

/-! ### Turns -/

section

variable {traffic : Traffic σ τ} {batch : Batch} {wait : Nat} {turn : Turn}
  {rest : List (Nat × Turn)}

/-- Without the turn at its head, the queue lacks at most the place of a member with a seat. -/
theorem Seated.pop (seated : Seated holds number requests due traffic batch)
    (queued : traffic.queue = (wait, turn) :: rest) :
    Seated holds number requests (fun place => due place ∧ ∀ request, turn ≠ .seat number place request)
      { traffic with queue := rest } batch where
  found := seated.found
  members := seated.members
  seats := fun place request inside =>
    seated.seats place request ((queued_pop queued).mpr (.inl inside))
  waiting := seated.waiting
  calls := seated.calls
  placed := by
    rintro place request ⟨isDue, others⟩ member
    rcases seated.placed place request isDue member with seat | elsewhere
    · rcases (queued_pop queued).mp seat with inside | first
      · exact .inl inside
      · exact absurd first.symm (others (some request))
    · exact .inr elsewhere

/-- A turn that is taken from the queue is no matter of a batch, unless it is a seat in it or resumes a
call that it has noted. -/
theorem Staffed.pop (staffed : Staffed holds number requests due traffic batch)
    (queued : traffic.queue = (wait, turn) :: rest)
    (seat : ∀ place request, turn ≠ .seat number place request)
    (call : ∀ entry ∈ batch.calls, turn ≠ .resume entry.2) :
    Staffed holds number requests due { traffic with queue := rest } batch where
  toSeated :=
    { staffed.toSeated.pop queued with
      placed := fun place request isDue =>
        (staffed.toSeated.pop queued).placed place request ⟨isDue, seat place⟩ }
  held := by
    intro needed
    rcases staffed.held needed with ⟨place, request, inside⟩ | ⟨entry, member, waiting | resume⟩
    · refine .inl ⟨place, request, ((queued_pop queued).mp inside).resolve_right fun first => ?_⟩
      exact seat place request first.symm
    · exact .inr ⟨entry, member, .inl waiting⟩
    · refine .inr ⟨entry, member, .inr (((queued_pop queued).mp resume).resolve_right fun first => ?_)⟩
      exact call entry member first.symm

/-- **A call that is resumed** passes its slot on, if it is the call of a member. -/
theorem Staffed.resume {call : Nat} (staffed : Staffed holds number requests due traffic batch)
    (booked : Booked traffic) (queued : traffic.queue = (wait, .resume call) :: rest) :
    ∃ after, Staffed holds number requests due
      (({ traffic with queue := rest } : Traffic σ τ).resume call) after := by
  unfold Traffic.resume
  by_cases own : ∃ entry ∈ batch.calls, entry.2 = call
  · obtain ⟨entry, noted, rfl⟩ := own
    have found := booked.findIdx? staffed.found noted
    have popped : Seated holds number requests due { traffic with queue := rest } batch :=
      { staffed.toSeated.pop queued with
        placed := fun place request isDue =>
          (staffed.toSeated.pop queued).placed place request ⟨isDue, fun _ same => nomatch same⟩ }
    simp only [found]
    exact popped.leave
  · have popped := staffed.pop queued (fun _ _ same => nomatch same) fun entry noted same =>
      own ⟨entry, noted, by cases same; rfl⟩
    split
    · rename_i other found
      -- the batch that noted the call is another one
      have apart : other ≠ number := by
        rintro rfl
        obtain ⟨inside, noted, _⟩ := List.findIdx?_eq_some_iff_getElem.mp found
        obtain ⟨entry, member, same⟩ := List.any_eq_true.mp noted
        have batch' := List.getElem?_eq_some_iff.mp staffed.found
        exact own ⟨entry, batch'.2 ▸ member, of_decide_eq_true same⟩
      refine ⟨batch, popped.aside (.leave apart) ?_⟩
      rw [leave_cache]
      exact fun _ _ _ => id
    · exact ⟨batch, popped⟩

/-- **A flight that is released** resumes those who waited for it. -/
theorem Aside.release {flight : Nat} (owes : Owes [(flight, 2)] traffic) :
    Aside number traffic (traffic.release flight) where
  batch := rfl
  seats := fun place request => (queued_release traffic flight _).trans
    (or_iff_left fun ⟨_, _, same⟩ => nomatch same)
  resumed := fun call queued => (queued_release traffic flight _).mpr (.inl queued)
  waits := by
    intro batch found entry noted awaited waits
    obtain ⟨outcome, released⟩ := owes.released
    by_cases own : awaited = flight
    · subst own
      refine .inr ((queued_release traffic awaited _).mpr (.inr ⟨entry.2, ?_, rfl⟩))
      refine List.mem_filter.mpr
        ⟨List.mem_range.mpr (List.getElem?_eq_some_iff.mp waits).1, ?_⟩
      rw [waits]
      exact decide_eq_true rfl
    · left
      show (traffic.cache.release flight).calls[entry.2]? = _
      have calls : (traffic.cache.release flight).calls =
          answerAll traffic.cache.calls flight outcome := congrArg Cache.calls released
      rw [calls]
      unfold answerAll
      rw [List.getElem?_map, waits]
      exact congrArg some (if_neg fun same => own (of_decide_eq_true same))

variable [Sub τ] [LE τ] [DecidableLE τ]

/-- **A seat that is taken** is that of a member, or in another batch. -/
theorem Staffed.seat {kept : Cache τ → Prop} {other place : Nat} {request : Option Request}
    (staffed : Staffed holds number requests due traffic batch) (lasting : Lasting holds kept)
    (held : kept traffic.cache) (queued : traffic.queue = (wait, .seat other place request) :: rest) :
    ∃ after, Staffed holds number requests due
      (({ traffic with queue := rest } : Traffic σ τ).seat other place request) after := by
  by_cases same : other = number
  · subst same
    have member := staffed.seats place request ((queued_pop queued).mpr (.inr rfl))
    obtain ⟨after, staffed'⟩ := (staffed.toSeated.pop queued).seat lasting held member
    refine ⟨after, staffed'.mono fun other isDue => ?_⟩
    by_cases same : other = place
    · exact .inr same
    · exact .inl ⟨isDue, fun _ own => same (by cases own; rfl)⟩
  · have popped := staffed.pop queued (fun _ _ own => same (by cases own; rfl))
      fun _ _ own => nomatch own
    exact ⟨batch, popped.aside (.seat same place request) fun entry _ asked =>
      (lasting.seat { traffic with queue := rest } held other place request).2 asked entry.2⟩

variable [Source σ]

/-- **A move leaves the batch staffed**, if what holds of its calls goes on to hold. -/
theorem Staffed.move {kept : Cache τ → Prop}
    (staffed : Staffed holds number requests due traffic batch) (lasting : Lasting holds kept)
    (held : kept traffic.cache) (orderly : Orderly traffic)
    (booked : Booked traffic) {next : Traffic σ τ} (move : Move traffic next)
    (lasts : Lasts holds batch traffic.cache next.cache) :
    ∃ after, Staffed holds number requests due next after := by
  have flies (flies : Flies traffic next) : ∃ after, Staffed holds number requests due next after :=
    ⟨batch, staffed.aside flies.aside lasts⟩
  cases move with
  | giveUp => exact flies .giveUp
  | wait wait turn rest queued =>
    have kept (other : Turn) : ({ traffic with queue := rest ++ [(wait, turn)] } : Traffic σ τ).Queued
        other ↔ traffic.Queued other :=
      (queued_push { traffic with queue := rest } wait turn other).trans (queued_pop queued).symm
    exact ⟨batch, staffed.aside ⟨rfl, fun _ _ => kept _, fun _ => (kept _).mpr, fun _ _ _ _ _ => .inl⟩
      lasts⟩
  | turn turn rest queued =>
    have owes := orderly.pop queued
    have popped (leg : turn.leg? ≠ none) : Flies traffic { traffic with queue := rest } :=
      .pop queued leg
    cases turn with
    | begin number =>
      obtain ⟨flight, _, rfl, _, found⟩ := owes.tidy.flight_of_leg owes.legs
      refine flies ((popped fun same => nomatch same).trans ?_)
      rw [take_begin found]
      exact .begin flight
    | enter number =>
      obtain ⟨flight, _, rfl, _, found⟩ := owes.tidy.flight_of_leg owes.legs
      refine flies ((popped fun same => nomatch same).trans ?_)
      rw [take_enter found]
      exact .enter flight
    | finish number reply =>
      exact flies ((popped fun same => nomatch same).trans (.finish number reply))
    | release flight =>
      have resumed : Aside number traffic _ := (popped fun same => nomatch same).aside.trans (Aside.release owes)
      exact ⟨batch, staffed.aside resumed lasts⟩
    | resume call => exact staffed.resume booked queued
    | seat other place request => exact staffed.seat lasting held queued

end

/-! ### At rest -/

section

variable {traffic : Traffic σ τ} {batch : Batch}

/-- What a member has come to: it has no outcome, or that of a call of its own. -/
inductive Told (holds : Cache τ → Request → Nat → Prop) (cache : Cache τ) :
    Option Request → Option Outcome → Prop
  | yet (request : Option Request) : Told holds cache request none
  | answered (request : Request) (call : Nat) (outcome : Outcome) (held : holds cache request call)
      (status : cache.calls[call]? = some (.answered outcome)) :
      Told holds cache (some request) (some outcome)

/-- What each member comes to is told by the call that is noted for its place. -/
theorem Seated.forall₂ (seated : Seated holds number requests due traffic batch)
    {property : Option Request → Option Outcome → Prop}
    (each : ∀ place request, requests[place]? = some request →
      property request ((batch.calls.lookup place).bind traffic.cache.answer?)) :
    List.Forall₂ property requests (traffic.outcomes number) := by
  have outcomes : traffic.outcomes number = (List.range requests.length).map fun place =>
      (batch.calls.lookup place).bind traffic.cache.answer? := by
    unfold Traffic.outcomes
    rw [seated.found, ← seated.members]
  rw [outcomes, List.forall₂_iff_get]
  refine ⟨by simp, fun place inside inside' => ?_⟩
  have own := each place (requests.get ⟨place, inside⟩) (by simp)
  simpa using own

/-- **The outcomes of a batch** are those of its members' own calls, each in its place. -/
theorem Seated.told (seated : Seated holds number requests due traffic batch) :
    List.Forall₂ (Told holds traffic.cache) requests (traffic.outcomes number) := by
  refine seated.forall₂ fun place request asked => ?_
  cases found : batch.calls.lookup place with
  | none => exact .yet request
  | some call =>
    obtain ⟨own, asked', held⟩ := seated.calls _ (mem_of_lookup found)
    cases asked.symm.trans asked'
    show Told holds traffic.cache (some own) (traffic.cache.answer? call)
    cases answer : traffic.cache.answer? call with
    | none => exact .yet _
    | some outcome => exact .answered own call outcome held (answer?_eq_some.mp answer)

/-- At rest nobody waits for a slot, unless some member's call waits for a flight. -/
theorem Staffed.slotless (staffed : Staffed holds number requests due traffic batch)
    (empty : traffic.queue = [])
    (nobody : ¬ ∃ entry ∈ batch.calls, ∃ flight, traffic.cache.calls[entry.2]? = some (.waiting flight)) :
    batch.waiting = [] := by
  by_contra waits
  rcases staffed.held (.inr waits) with ⟨_, _, seat⟩ | ⟨entry, member, waiting | resume⟩
  · exact not_queued empty _ seat
  · exact nobody ⟨entry, member, waiting⟩
  · exact not_queued empty _ resume

/-- **At rest nobody waits for a slot**: every member with a question has its outcome, unless some
member's call waits for a flight. -/
theorem Staffed.rests (present : ∀ request call, holds traffic.cache request call →
      (∃ flight, traffic.cache.calls[call]? = some (.waiting flight)) ∨
        ∃ outcome, traffic.cache.calls[call]? = some (.answered outcome))
    (staffed : Staffed holds number requests (· < requests.length) traffic batch)
    (empty : traffic.queue = []) :
    (∃ entry ∈ batch.calls, ∃ flight, traffic.cache.calls[entry.2]? = some (.waiting flight)) ∨
      ∀ place request, requests[place]? = some (some request) → ∃ call outcome,
        batch.calls.lookup place = some call ∧ traffic.cache.calls[call]? = some (.answered outcome) := by
  refine or_iff_not_imp_left.mpr fun nobody place request asked => ?_
  have slotless := staffed.slotless empty nobody
  cases found : batch.calls.lookup place with
  | some call =>
    have noted := mem_of_lookup found
    obtain ⟨own, _, held⟩ := staffed.calls _ noted
    rcases present own call held with waiting | ⟨outcome, status⟩
    · exact absurd ⟨_, noted, waiting⟩ nobody
    · exact ⟨call, outcome, rfl, status⟩
  | none =>
    have inside := (List.getElem?_eq_some_iff.mp asked).1
    rcases staffed.placed place request inside asked with seat | wait | ⟨call, made⟩
    · exact absurd seat (not_queued empty _)
    · rw [slotless] at wait
      cases wait
    · have missing := List.lookup_eq_none_iff.mp found _ made
      simp at missing

theorem Seated.addressesOf (seated : Seated holds number requests due traffic batch) :
    traffic.addressesOf number = requests.map fun request => (request.map (·.address)).getD .null := by
  unfold Traffic.addressesOf
  rw [seated.found, ← seated.members]
  rfl

end

end ContractRisk.Traffic
