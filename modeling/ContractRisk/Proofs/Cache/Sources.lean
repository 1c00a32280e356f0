/-
**What a source always does.**

Whatever a source was asked before, some of its responses can be relied on (`Source.Always`): it may be
that it never holds a reply back (`Forthcoming`), or that it raises ordinary failures only
(`Source.IsOrdinary`). What is always so stays so when the source is asked (`Always.ask`), and a source
whose responses are given beforehand does always what its responses do (`Replay.always`).
-/

import ContractRisk.Cache.Source
import ContractRisk.Proofs.Cache.Outcomes

namespace ContractRisk

section

variable {σ : Type} [Source σ] {source : σ} {allowed : String → Response → Prop}

/-- A source after it was asked for addresses, the first of them first. -/
def Source.after (source : σ) (addresses : List String) : σ :=
  addresses.foldl (fun source address => (Source.ask source address).2) source

/-- **What a source always does**, whatever it was asked before. -/
def Source.Always (allowed : String → Response → Prop) (source : σ) : Prop :=
  ∀ (earlier : List String) (address : String),
    allowed address (Source.ask (Source.after source earlier) address).1

theorem Source.Always.now (always : Source.Always allowed source) (address : String) :
    allowed address (Source.ask source address).1 := always [] address

theorem Source.Always.ask (always : Source.Always allowed source) (address : String) :
    Source.Always allowed (Source.ask source address).2 :=
  fun earlier => always (address :: earlier)

/-- A source that holds no reply back. -/
def Forthcoming (source : σ) : Prop := Source.Always (fun _ response => response ≠ .held) source

/-- Whether a response is anything but the reply that something extraordinary was raised. -/
def Response.isOrdinary : Response → Bool
  | .reply given => given.isOrdinary
  | _ => true

/-- A source that raises ordinary failures only, as far as it replies by itself. -/
def Source.IsOrdinary (source : σ) : Prop :=
  Source.Always (fun _ response => response.isOrdinary = true) source

end

namespace Replay

variable {replay : Replay} {allowed : String → Response → Prop}

/-- What is asked for next was in the queue, and all that is left. -/
theorem next_subset (queue : List Response) :
    (queue ≠ [] → (next queue).1 ∈ queue) ∧ (next queue).2 ⊆ queue ∧ ((next queue).2 = [] → queue = []) := by
  match queue with
  | [] => exact ⟨fun some => absurd rfl some, List.Subset.refl _, fun _ => rfl⟩
  | [_] => exact ⟨fun _ => List.mem_cons_self, List.Subset.refl _, fun none => nomatch none⟩
  | _ :: _ :: _ => exact ⟨fun _ => List.mem_cons_self, List.subset_cons_self _ _, fun none => nomatch none⟩

/-- The queues after a question: only that of the address has changed. -/
theorem queue_ask (replay : Replay) (first address : String) :
    (replay.ask first).2.queue address =
      if address = first then (next (replay.queue first)).2 else replay.queue address := by
  show ((((first, (next (replay.queue first)).2) :: replay.queues.filter (·.1 ≠ first)).lookup
    address).getD replay.others) = _
  rw [List.lookup_cons]
  by_cases same : address = first
  · rw [same, beq_self_eq_true, if_pos rfl]
    rfl
  · rw [beq_false_of_ne same, if_neg same]
    exact congrArg (Option.getD · replay.others) (lookup_without replay.queues same)

/-- **Responses that are given beforehand are all that there is**; where there are none, the source is
silent. -/
theorem always (given : ∀ address, ∀ response ∈ replay.queue address, allowed address response)
    (silent : ∀ address, replay.queue address = [] → allowed address .silent) :
    Source.Always allowed replay := by
  intro earlier
  induction earlier generalizing replay with
  | nil =>
    intro address
    show allowed address (next (replay.queue address)).1
    by_cases empty : replay.queue address = []
    · rw [empty]
      exact silent address empty
    · exact given address _ ((next_subset _).1 empty)
  | cons first rest ih =>
    obtain ⟨_, fewer, emptied⟩ := next_subset (replay.queue first)
    refine ih (fun address response member => ?_) fun address empty => ?_
    · change response ∈ (replay.ask first).2.queue address at member
      rw [queue_ask] at member
      split at member
      · rename_i same
        rw [same]
        exact given first response (fewer member)
      · exact given address response member
    · change (replay.ask first).2.queue address = [] at empty
      rw [queue_ask] at empty
      split at empty
      · rename_i same
        rw [same]
        exact silent first (emptied empty)
      · exact silent address empty

end Replay

end ContractRisk
