/-
**The rosters of batches.**

Turns move the members of a batch through its slots, but nobody joins a batch after it has started and
nobody leaves it: the members of all batches (`Traffic.rosters`) are the same after every move
(`rosters_move`). So what becomes of a batch of addresses (`fetchBatch_result`) is told by the outcomes
of its members, in the order in which the addresses were given.
-/

import ContractRisk.Proofs.Cache.Bookings

namespace ContractRisk

/-! ### Addresses with their outcomes -/

/-- All items are there if each of them is. -/
theorem mapM_id_eq_some {β : Type} {items : List (Option β)} {values : List β} :
    items.mapM id = some values ↔ items = values.map some := by
  induction items generalizing values with
  | nil => cases values <;> simp
  | cons item rest ih =>
    rw [List.mapM_cons]
    cases item with
    | none => cases values <;> simp
    | some first =>
      constructor
      · intro all
        change (rest.mapM id).bind (fun others => some (first :: others)) = some values at all
        obtain ⟨others, there, same⟩ := Option.bind_eq_some_iff.mp all
        cases same
        exact congrArg (List.cons (some first)) (ih.mp there)
      · intro same
        cases values with
        | nil => cases same
        | cons value others =>
          cases same
          show ((others.map some).mapM id).bind _ = _
          rw [ih.mpr rfl]
          rfl

namespace BatchResult

/-- The addresses that have a failure. -/
theorem failures_ofOutcomes (entries : List (Value × Outcome)) :
    (ofOutcomes entries).failures.map (·.1) = (entries.filter fun entry => !entry.2.isOk).map (·.1) := by
  induction entries with
  | nil => rfl
  | cons entry rest ih =>
    obtain ⟨address, outcome⟩ := entry
    cases outcome with
    | ok code => exact ih
    | error failure => exact congrArg (List.cons address) ih

end BatchResult

namespace Traffic

variable {σ τ : Type}

/-! ### Rosters -/

/-- The members of every batch. -/
def rosters (traffic : Traffic σ τ) : List (List (Option Request)) :=
  traffic.batches.map Batch.members

section

variable (traffic : Traffic σ τ)

/-- Whatever else changes of a batch, its members are as before. -/
theorem rosters_set {number : Nat} {batch after : Batch} (found : traffic.batches[number]? = some batch)
    (same : after.members = batch.members) :
    ({ traffic with batches := traffic.batches.set number after } : Traffic σ τ).rosters =
      traffic.rosters := by
  show (traffic.batches.set number after).map Batch.members = traffic.batches.map Batch.members
  rw [List.map_set, same]
  refine List.ext_getElem? fun place => ?_
  rw [List.getElem?_set]
  split
  · rename_i own
    subst own
    split
    · rw [List.getElem?_map, found]
      rfl
    · rename_i outside
      exact absurd (List.getElem?_eq_some_iff.mp found).1 (by rwa [List.length_map] at outside)
  · rfl

theorem rosters_leave (number : Nat) : (traffic.leave number).rosters = traffic.rosters := by
  unfold leave
  split
  · rfl
  · rename_i batch found
    split
    · exact traffic.rosters_set found rfl
    · exact traffic.rosters_set found rfl

theorem rosters_resume (call : Nat) : (traffic.resume call).rosters = traffic.rosters := by
  unfold resume
  split
  · exact traffic.rosters_leave _
  · rfl

variable [Sub τ] [LE τ] [DecidableLE τ]

theorem rosters_call (request : Request) : (traffic.call request).rosters = traffic.rosters := by
  unfold call
  simp only
  split <;> rfl

theorem rosters_seat (number place : Nat) (request : Option Request) :
    (traffic.seat number place request).rosters = traffic.rosters := by
  unfold seat
  cases request with
  | none => exact traffic.rosters_leave number
  | some request =>
    -- the call that is noted is no matter of the members
    have noted : ({ traffic.call request with
        batches := (traffic.call request).batches.modify number fun batch =>
          { batch with calls := batch.calls ++ [(place, traffic.cache.calls.length)] } } :
            Traffic σ τ).rosters = traffic.rosters := by
      rw [← traffic.rosters_call request]
      show ((traffic.call request).batches.modify number _).map Batch.members = _
      refine List.ext_getElem? fun other => ?_
      unfold rosters
      rw [List.getElem?_map, List.getElem?_map, List.getElem?_modify]
      cases (traffic.call request).batches[other]? with
      | none => rfl
      | some batch =>
        show some (Batch.members (if number = other then _ else batch)) = some batch.members
        split <;> rfl
    simp only
    split
    · exact (rosters_leave _ number).trans noted
    · exact noted

theorem rosters_arrive (number place : Nat) (request : Option Request) :
    (traffic.arrive number place request).rosters = traffic.rosters := by
  unfold arrive
  split
  · rfl
  · rename_i batch found
    split
    · exact traffic.rosters_set found rfl
    · exact (rosters_seat _ number place request).trans (traffic.rosters_set found rfl)

/-- A batch that starts has the last roster. -/
theorem rosters_start (slots : Option Nat) (requests : List (Option Request)) :
    (traffic.start slots requests).rosters = traffic.rosters ++ [requests] := by
  have arrivals (number : Nat) (members : List (Option Request × Nat)) : ∀ traffic : Traffic σ τ,
      (members.foldl (fun traffic member => traffic.arrive number member.2 member.1) traffic).rosters =
        traffic.rosters := by
    induction members with
    | nil => exact fun _ => rfl
    | cons member rest ih => exact fun traffic => (ih _).trans (traffic.rosters_arrive _ _ _)
  refine (arrivals _ _ _).trans ?_
  exact List.map_append

variable [Source σ]

theorem rosters_take (turn : Turn) : (traffic.take turn).rosters = traffic.rosters := by
  have flies {next : Traffic σ τ} (flies : Flies traffic next) : next.rosters = traffic.rosters :=
    congrArg (List.map Batch.members) flies.batches
  have taken := traffic.take_cases turn
  generalize traffic.take turn = next at taken ⊢
  cases taken with
  | gone => rfl
  | begin flight => exact flies (.begin flight)
  | enter flight => exact flies (.enter flight)
  | finish number reply => rfl
  | release number => rfl
  | resume call => exact traffic.rosters_resume call
  | seat number place request => exact traffic.rosters_seat number place request

theorem rosters_move {next : Traffic σ τ} (move : Move traffic next) : next.rosters = traffic.rosters := by
  cases move with
  | turn turn rest queued => exact rosters_take { traffic with queue := rest } turn
  | wait wait turn rest queued => rfl
  | giveUp queued late => rfl

/-- **Nobody joins or leaves a batch** while it is carried out. -/
theorem rosters_settle : traffic.settle.rosters = traffic.rosters :=
  settle_kept (fun next => next.rosters = traffic.rosters) rfl
    fun before _ same move => (before.rosters_move move).trans same

/-- **What becomes of a batch of addresses**: each has the outcome of its own member. -/
theorem fetchBatch_result (addresses : List Value) :
    (traffic.fetchBatch addresses).2 =
      (((traffic.startBatch addresses).settle.outcomes traffic.batches.length).mapM id).map
        fun outcomes => .ofOutcomes (addresses.zip outcomes) := by
  have asked : (traffic.startBatch addresses).settle.addressesOf traffic.batches.length = addresses := by
    have roster : (traffic.startBatch addresses).settle.rosters[traffic.batches.length]? =
        some (addresses.map fun address => some ⟨address, none⟩) := by
      rw [rosters_settle]
      unfold startBatch
      rw [rosters_start, show traffic.batches.length = traffic.rosters.length from
        (List.length_map _).symm]
      exact List.getElem?_concat_length
    unfold rosters at roster
    rw [List.getElem?_map] at roster
    obtain ⟨batch, found, members⟩ := Option.map_eq_some_iff.mp roster
    unfold addressesOf
    rw [found]
    show batch.members.map _ = addresses
    rw [members, List.map_map]
    exact List.map_id _
  show Traffic.batchResult? _ _ = _
  unfold batchResult?
  rw [asked]

end

end Traffic

end ContractRisk
