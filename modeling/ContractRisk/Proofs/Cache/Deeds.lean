/-
**What is done while a cache is in use.**

Callers ask, batches start, turns are taken, replies that were held back are let go, and entries are dropped,
in any order; flights may also take their steps out of turn (`Deed`). What is kept by every turn, by replies
that are let go and by time that passes is kept by every course of deeds that ask for nothing
(`acts_kept`).
-/

import ContractRisk.Proofs.Cache.Seats

namespace ContractRisk

variable {σ τ : Type}

/-- Something that is done while a cache is in use. -/
inductive Deed (τ : Type) where
  /-- Someone asks. -/
  | get (request : Request)
  /-- A batch starts with so many slots, as `Traffic.startBatch` starts one for addresses. -/
  | batch (slots : Option Nat) (requests : List (Option Request))
  /-- So many turns are taken. -/
  | turns (count : Nat)
  /-- A reply that is held back is let go. -/
  | letGo (address : String) (reply : Reply)
  /-- The callers of a batch give up. -/
  | cancelBatch (number : Nat)
  /-- Something happens at the cache out of turn. -/
  | outOfTurn (event : Cache.Event τ)

/-- Whether a deed leaves it to a batch to ask: turns are taken, a reply is let go, or time passes. -/
def Deed.passive : Deed τ → Bool
  | .turns _ | .letGo _ _ | .outOfTurn (.advance _) => true
  | _ => false

namespace Traffic

open Cache

section

variable [Add τ] [Sub τ] [LE τ] [DecidableLE τ] [Source σ]

/-- What becomes of traffic with a deed. -/
def act (traffic : Traffic σ τ) : Deed τ → Traffic σ τ
  | .get request => traffic.call request
  | .batch slots requests => traffic.start slots requests
  | .turns count => traffic.takeTurns count
  | .letGo address reply => traffic.letGo address reply
  | .cancelBatch number => traffic.cancelBatch number
  | .outOfTurn event => { traffic with cache := traffic.cache.step event }

/-- What becomes of traffic with deeds, the first of them first. -/
def acts (traffic : Traffic σ τ) (deeds : List (Deed τ)) : Traffic σ τ := deeds.foldl act traffic

/-- **What every turn, a reply that is let go and time keep** is kept by a course of deeds that ask for
nothing. -/
theorem acts_kept (kept : Traffic σ τ → Prop) {deeds : List (Deed τ)} {traffic : Traffic σ τ}
    (move : ∀ before next, kept before → Move before next → kept next)
    (letGo : ∀ before address reply, Deed.letGo address reply ∈ deeds → kept before →
      kept (before.letGo address reply))
    (advance : ∀ before span, kept before → kept { before with cache := before.cache.advance span })
    (passive : ∀ deed ∈ deeds, deed.passive = true) (holds : kept traffic) : kept (traffic.acts deeds) := by
  induction deeds generalizing traffic with
  | nil => exact holds
  | cons deed rest ih =>
    refine ih (fun before address reply member => letGo before address reply (List.mem_cons_of_mem _ member))
      (fun other member => passive other (List.mem_cons_of_mem _ member)) ?_
    have own := passive deed List.mem_cons_self
    cases deed with
    | turns count => exact takeTurns_kept kept move count holds
    | letGo address reply => exact letGo traffic address reply List.mem_cons_self holds
    | outOfTurn event =>
      cases event with
      | advance span => exact advance traffic span holds
      | _ => cases own
    | _ => cases own

end

/-! ### Replies that are held back -/

section

variable {traffic : Traffic σ τ}

@[simp] theorem letGo_cache (traffic : Traffic σ τ) (address : String) (reply : Reply) :
    (traffic.letGo address reply).cache = traffic.cache := by
  unfold letGo
  simp only
  split <;> rfl

/-- A flight without a leg in the queue waits for a reply. -/
theorem Owes.parked (orderly : Orderly traffic) (empty : traffic.queue = []) {flight : Flight}
    (there : flight ∈ traffic.cache.flights) : ∃ held, (flight.number, held) ∈ traffic.parked := by
  have leg := orderly.legs.symm.subset (List.mem_map_of_mem there : flight.leg ∈ traffic.cache.legs)
  unfold Traffic.legs at leg
  rw [empty] at leg
  obtain ⟨⟨number, held⟩, member, same⟩ := List.mem_map.mp leg
  obtain rfl : number = flight.number := congrArg Prod.fst same
  exact ⟨held, member⟩

/-- **A reply that is let go** ends the wait for it. -/
theorem Owes.letGo (orderly : Orderly traffic) (address : String) (reply : Reply) :
    Orderly (traffic.letGo address reply) := by
  unfold Traffic.letGo
  simp only
  split
  · exact orderly
  · rename_i flight held found
    let leg (entry : Nat × Bool) : Nat × Nat := (entry.1, 1)
    obtain ⟨former, latter, parked⟩ := List.append_of_mem (List.mem_of_find?_eq_some found)
    -- the leg of this flight is taken out, and there is no other leg of it
    have apart : ((flight, 1) :: (traffic.queue.filterMap (·.2.leg?) ++ (former ++ latter).map leg)).Perm
        traffic.cache.legs := by
      refine List.Perm.trans ?_ orderly.legs
      show List.Perm _ (traffic.queue.filterMap (·.2.leg?) ++ traffic.parked.map leg)
      rw [parked, List.map_append, List.map_append, List.map_cons, ← List.append_assoc,
        ← List.append_assoc]
      exact List.perm_middle.symm
    have others : traffic.parked.filter (·.1 ≠ flight) = former ++ latter := by
      rw [parked, List.filter_append, List.filter_cons_of_neg (by simp), ← List.filter_append]
      refine List.filter_eq_self.mpr fun entry member => decide_eq_true ?_
      exact orderly.tidy.legs_apart apart (leg entry)
        (List.mem_append_right _ (List.mem_map_of_mem member))
    have taken : Owes [(flight, 1)]
        { traffic with parked := traffic.parked.filter (·.1 ≠ flight) } := by
      refine ⟨orderly.tidy, ?_⟩
      show ((flight, 1) :: (traffic.queue.filterMap (·.2.leg?) ++
        (traffic.parked.filter (·.1 ≠ flight)).map leg)).Perm _
      rw [others]
      exact apart
    exact taken.push _ rfl

theorem Booked.letGo (booked : Booked traffic) (address : String) (reply : Reply) :
    Booked (traffic.letGo address reply) := by
  unfold Traffic.letGo
  simp only
  split
  · exact booked
  · rename_i flight held found
    have parted : Booked { traffic with parked := traffic.parked.filter (·.1 ≠ flight) } :=
      ⟨booked.seats, booked.made, booked.apart⟩
    exact parted.push _ fun _ _ _ same => nomatch same

theorem Aside.letGo {number : Nat} (address : String) (reply : Reply) :
    Aside number traffic (traffic.letGo address reply) := by
  unfold Traffic.letGo
  simp only
  split
  · exact .refl _
  · rename_i flight held found
    have parted : Aside number traffic
        { traffic with parked := traffic.parked.filter (·.1 ≠ flight) } :=
      ⟨rfl, fun _ _ => Iff.rfl, fun _ => id, fun _ _ _ _ _ => .inl⟩
    exact parted.trans (.push _ fun _ _ same => nomatch same)

end

/-! ### Time -/

section

variable [Add τ] {traffic : Traffic σ τ}

theorem Owes.elapse (orderly : Orderly traffic) (span : τ) :
    Orderly { traffic with cache := traffic.cache.advance span } :=
  ⟨{ orderly.tidy with }, orderly.legs⟩

theorem Booked.elapse (booked : Booked traffic) (span : τ) :
    Booked { traffic with cache := traffic.cache.advance span } :=
  ⟨booked.seats, booked.made, booked.apart⟩

theorem Aside.elapse {number : Nat} (traffic : Traffic σ τ) (span : τ) :
    Aside number traffic { traffic with cache := traffic.cache.advance span } :=
  ⟨rfl, fun _ _ => Iff.rfl, fun _ => id, fun _ _ _ _ _ => .inl⟩

/-- What becomes of a cache in such a course comes out of it by events. -/
theorem acts_reaches [Sub τ] [LE τ] [DecidableLE τ] [Source σ] {course : List (Deed τ)}
    (passive : ∀ deed ∈ course, deed.passive = true) :
    traffic.cache.Reaches (traffic.acts course).cache := by
  refine acts_kept (fun next => traffic.cache.Reaches next.cache) ?_ ?_ ?_ passive ⟨[], rfl⟩
  · exact fun _ _ reaches move => reaches.trans (move_proceeds move).reaches
  · rintro before address reply _ reaches
    rwa [letGo_cache]
  · exact fun before span reaches => reaches.trans (.step before.cache (.advance span))

end

end Traffic

end ContractRisk
