/-
**Every member of a batch is served.**

The calls of a batch are served like any others (`Served`), and no slot is lost, whatever is done in the
course of the batch (`Attended`): so at rest nobody waits, and each member with a question has the outcome
that it is owed.

* `Faithful.start`: a batch may start whenever it likes;
* `Resting.settled`, `Resting.batch`: a batch of requests, from rest to rest.
-/

import ContractRisk.Proofs.Cache.Replies
import ContractRisk.Proofs.Cache.Seats

namespace ContractRisk.Traffic

open Cache

variable {σ τ : Type} {good : String → Outcome → Prop} {limit : Option Number} {held : Prop}
  {number : Nat} {requests : List (Option Request)}

/-! ### The start of a batch -/

section

variable [Add τ] [Sub τ] [LE τ] [DecidableLE τ] {kind : σ → Prop} {traffic : Traffic σ τ}

theorem Faithful.arrive (faithful : Faithful good limit held kind traffic) (tidy : traffic.cache.Tidy)
    (number place : Nat) {request : Option Request} (usual : Usual limit request) :
    Faithful good limit held kind (traffic.arrive number place request) ∧
      GoesOn good traffic.cache (traffic.arrive number place request).cache := by
  unfold Traffic.arrive
  split
  · exact ⟨faithful, .refl⟩
  · rename_i batch found
    split
    · refine ⟨{ faithful with members := ?_ }, .refl⟩
      intro other member entry waits
      rcases List.mem_or_eq_of_mem_set member with before | same
      · exact faithful.members other before entry waits
      · subst same
        rcases List.mem_append.mp waits with before | last
        · exact faithful.members batch (List.mem_of_getElem? found) entry before
        · rw [List.mem_singleton.mp last]
          exact usual
    · have taken : Faithful good limit held kind { traffic with
          batches := traffic.batches.set number { batch with free := batch.free.map (· - 1) } } :=
        faithful.set found fun _ waits => waits
      exact taken.seat tidy number place usual

/-- **A batch with usual requests** may start whenever it likes. -/
theorem Faithful.start (faithful : Faithful good limit held kind traffic) (tidy : traffic.cache.Tidy)
    (slots : Option Nat) (usual : ∀ request ∈ requests, Usual limit request) :
    Faithful good limit held kind (traffic.start slots requests) := by
  have arrivals (number : Nat) (members : List (Option Request × Nat)) : ∀ traffic : Traffic σ τ,
      Faithful good limit held kind traffic → traffic.cache.Tidy →
      (∀ member ∈ members, Usual limit member.1) →
      Faithful good limit held kind (members.foldl (fun traffic member =>
        traffic.arrive number member.2 member.1) traffic) := by
    induction members with
    | nil => exact fun _ faithful _ _ => faithful
    | cons member rest ih =>
      intro traffic faithful tidy usual
      obtain ⟨faithful', goes⟩ :=
        faithful.arrive tidy number member.2 (usual member List.mem_cons_self)
      exact ih _ faithful' (goes.kept tidy faithful.vouched).1
        fun other later => usual other (List.mem_cons_of_mem _ later)
  refine arrivals _ _ _ { faithful with members := ?_ } tidy fun member inside =>
    usual member.1 (List.fst_mem_of_mem_zipIdx inside)
  intro batch member entry waits
  rcases List.mem_append.mp member with before | last
  · exact faithful.members batch before entry waits
  · cases List.mem_singleton.mp last
    cases waits

end

/-! ### From rest to rest -/

section

/-- That the call for a request is served. -/
def Served (good : String → Outcome → Prop) (cache : Cache τ) (request : Request) (call : Nat) : Prop :=
  Serves good cache request.address call

/-- **A member that asks has the outcome that it is owed**, and one that does not has none. -/
def Settled (good : String → Outcome → Prop) (request : Option Request) (outcome : Option Outcome) :
    Prop :=
  match request with
  | none => outcome = none
  | some request => ∃ answer, outcome = some answer ∧ Owed good request.address answer

/-- At rest nobody waits for a slot, so every member has called and has its answer. -/
theorem Staffed.settled {traffic : Traffic σ τ} {batch : Batch}
    (staffed : Staffed (Served good) number requests (· < requests.length) traffic batch)
    (resting : Resting good limit traffic.cache) (empty : traffic.queue = []) :
    List.Forall₂ (Settled good) requests (traffic.outcomes number) := by
  refine staffed.forall₂ fun place request asked => ?_
  cases request with
  | none =>
    cases found : batch.calls.lookup place with
    | none => rfl
    | some call =>
      obtain ⟨_, asked', _⟩ := staffed.calls _ (mem_of_lookup found)
      cases asked.symm.trans asked'
  | some request =>
    rcases staffed.rests (fun _ _ => Serves.present) empty with
      ⟨entry, noted, flight, waiting⟩ | answered
    · obtain ⟨other, _, served⟩ := staffed.calls entry noted
      obtain ⟨outcome, status, _⟩ := resting.answer served
      cases waiting.symm.trans (answer?_eq_some.mp status)
    · obtain ⟨call, _, found, _⟩ := answered place request asked
      obtain ⟨own, asked', served⟩ := staffed.calls _ (mem_of_lookup found)
      cases asked.symm.trans asked'
      rw [found]
      exact resting.answer served

variable [Add τ] [Sub τ] [LE τ] [DecidableLE τ]

theorem Served.lasting (good : String → Outcome → Prop) :
    Lasting (Served good) fun cache : Cache τ => cache.Tidy ∧ Vouched good cache where
  present := fun _ _ _ => Serves.present
  made := fun _ ⟨tidy, vouched⟩ request => call_serves tidy vouched request.address request.limit
  lasts := fun _ ⟨tidy, vouched⟩ request _ call served =>
    step_serves tidy vouched served
      (fun same => nomatch same : (.call request.address request.limit : Event τ) ≠ .cancel call)
  kept := by
    rintro cache ⟨tidy, vouched⟩ request
    have truthful : Truthful good cache (.call request.address request.limit) := trivial
    exact ⟨tidy.call request.address request.limit, step_vouched tidy vouched truthful⟩

variable [Source σ] {kind : σ → Prop}

/-- **A batch that is served** among traffic that is in order. -/
structure Attended (good : String → Outcome → Prop) (limit : Option Number) (held : Prop)
    (kind : σ → Prop) (requests : List (Option Request)) (traffic : Traffic σ τ) : Prop where
  orderly : Orderly traffic
  booked : Booked traffic
  faithful : Faithful good limit held kind traffic
  staffed : ∃ batch, Staffed (Served good) 0 requests (· < requests.length) traffic batch

variable {cache : Cache τ} {source : σ} {course : List (Deed τ)}

omit [Source σ] in
/-- A batch that starts at a cache at rest is served. -/
theorem Resting.attended (resting : Resting good limit cache) (known : kind source) {slots : Option Nat}
    (room : slots ≠ some 0) (usual : ∀ request ∈ requests, Usual limit request) :
    Attended good limit held kind requests (({ cache, source } : Traffic σ τ).start slots requests) := by
  have alone := booked_alone cache source
  exact ⟨resting.orderly.start slots requests, alone.start slots requests,
    (resting.faithful known).start resting.tidy slots usual,
    alone.staffed (Served.lasting good) ⟨resting.tidy, resting.vouched⟩ room requests⟩

variable (honest : Honest good limit held kind)

include honest

theorem Attended.move {traffic next : Traffic σ τ} (attended : Attended good limit held kind requests traffic)
    (move : Move traffic next) : Attended good limit held kind requests next := by
  obtain ⟨orderly, booked, faithful, batch, staffed⟩ := attended
  obtain ⟨faithful', goes⟩ := faithful.move honest orderly move
  obtain ⟨_, _, served⟩ := goes.kept orderly.tidy faithful.vouched
  exact ⟨orderly.move move, booked.move move, faithful',
    staffed.move (Served.lasting good) ⟨orderly.tidy, faithful.vouched⟩ orderly booked move
      fun _ _ _ => served _ _⟩

/-- **A batch is served in a course of deeds that ask for nothing**, until it comes to rest. -/
theorem Attended.through {traffic : Traffic σ τ} (attended : Attended good limit held kind requests traffic)
    (passive : ∀ deed ∈ course, deed.passive = true)
    (truthful : ∀ deed ∈ course, deed.Truthful good limit) :
    Attended good limit held kind requests (traffic.acts course).settle := by
  refine settle_kept _ (acts_kept _ ?_ ?_ ?_ passive attended) fun _ _ attended => attended.move honest
  · exact fun _ _ attended => attended.move honest
  · rintro before address reply member ⟨orderly, booked, faithful, batch, staffed⟩
    refine ⟨orderly.letGo address reply, booked.letGo address reply,
      faithful.letGo orderly (truthful _ member), batch, staffed.aside (.letGo address reply) ?_⟩
    rw [letGo_cache]
    exact fun _ _ _ => id
  · rintro before span ⟨orderly, booked, faithful, batch, staffed⟩
    have elapsed := faithful.event orderly.tidy (.advance span) trivial fun _ _ same => nomatch same
    have stays (call : Nat) : (.advance span : Event τ) ≠ .cancel call := fun same => nomatch same
    exact ⟨orderly.elapse span, booked.elapse span, elapsed, batch, staffed.aside (.elapse before span)
      fun entry _ _ served => step_serves orderly.tidy faithful.vouched served (stays entry.2)⟩

/-- A batch of requests comes to rest, if no flight waits for a reply that is held back. -/
theorem Resting.settled (resting : Resting good limit cache) (known : kind source)
    (limited : limit.isSome = true) (slots : Option Nat)
    (usual : ∀ request ∈ requests, Usual limit request)
    (passive : ∀ deed ∈ course, deed.passive = true)
    (truthful : ∀ deed ∈ course, deed.Truthful good limit)
    (ended : held →
      ((({ cache, source } : Traffic σ τ).start slots requests).acts course).settle.cache.flights = []) :
    let last := ((({ cache, source } : Traffic σ τ).start slots requests).acts course).settle
    Resting good limit last.cache ∧ kind last.source ∧ last.queue = [] :=
  ((resting.faithful known).start resting.tidy slots usual).resting honest
    (resting.orderly.start slots requests) limited passive truthful ended

/-- **A batch of requests with a slot** has for each member what it is owed. -/
theorem Resting.batch (resting : Resting good limit cache) (known : kind source)
    (limited : limit.isSome = true) {slots : Option Nat} (room : slots ≠ some 0)
    (usual : ∀ request ∈ requests, Usual limit request)
    (passive : ∀ deed ∈ course, deed.passive = true)
    (truthful : ∀ deed ∈ course, deed.Truthful good limit)
    (ended : held →
      ((({ cache, source } : Traffic σ τ).start slots requests).acts course).settle.cache.flights = []) :
    let last := ((({ cache, source } : Traffic σ τ).start slots requests).acts course).settle
    List.Forall₂ (Settled good) requests (last.outcomes 0) ∧
      last.addressesOf 0 = requests.map fun request => (request.map (·.address)).getD .null := by
  obtain ⟨resting', _, empty⟩ :=
    resting.settled honest known limited slots usual passive truthful ended
  obtain ⟨_, _, _, _, staffed⟩ :=
    (resting.attended known room usual).through honest passive truthful
  exact ⟨staffed.settled resting' empty, staffed.addressesOf⟩

end

end ContractRisk.Traffic
