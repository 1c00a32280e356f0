/-
**Traffic comes to rest.**

Every move costs something: what is left to do afterwards is less (`effort`). A leg costs more than
those that follow from it, a call that waits pays for its own resumption, and a member that waits for a
slot for its own seat.

* `effort_enter`, `effort_leave`, `effort_call`, `Owes.effort_release`: what each step adds;
* `Owes.effort_move`: a move takes from what is left to do;
* `Owes.settle`: orderly traffic comes to rest, and is orderly then.
-/

import ContractRisk.Proofs.Cache.Progress

namespace ContractRisk.Traffic

variable {σ τ : Type}

/-! ### Costs -/

section

variable (traffic : Traffic σ τ)

/-- The cost of what is queued. -/
def queueCost : List (Nat × Turn) → Nat
  | [] => 0
  | (wait, turn) :: rest => wait + cost turn + queueCost rest

/-- The calls that wait. -/
def waitingCount (calls : List Cache.Status) : Nat := (calls.filter isWaiting).length

/-- The cost of the members that wait for a slot. -/
def batchCost : List Batch → Nat
  | [] => 0
  | batch :: rest => 7 * batch.waiting.length + batchCost rest

theorem effort_eq : traffic.effort = queueCost traffic.queue + 3 * traffic.parked.length +
    waitingCount traffic.cache.calls + batchCost traffic.batches := by
  have queue (queue : List (Nat × Turn)) :
      queue.foldr (fun entry rest => entry.1 + cost entry.2 + rest) 0 = queueCost queue := by
    induction queue with
    | nil => rfl
    | cons entry rest ih => rw [List.foldr_cons, queueCost, ih]
  have batches (batches : List Batch) :
      batches.foldr (fun batch rest => 7 * batch.waiting.length + rest) 0 = batchCost batches := by
    induction batches with
    | nil => rfl
    | cons batch rest ih => rw [List.foldr_cons, batchCost, ih]
  unfold effort
  rw [queue, batches]
  rfl

theorem queueCost_append (first second : List (Nat × Turn)) :
    queueCost (first ++ second) = queueCost first + queueCost second := by
  induction first with
  | nil => exact (Nat.zero_add _).symm
  | cons entry rest ih =>
    simp only [List.cons_append, queueCost, ih]
    omega

theorem effort_push (wait : Nat) (turn : Turn) :
    (traffic.push wait turn).effort = traffic.effort + (wait + cost turn) := by
  rw [effort_eq, effort_eq]
  unfold push
  simp only [queueCost_append]
  have last : queueCost [(wait, turn)] = wait + cost turn := Nat.add_zero _
  omega

variable {traffic}

theorem effort_pop {wait : Nat} {turn : Turn} {rest : List (Nat × Turn)}
    (queued : traffic.queue = (wait, turn) :: rest) :
    traffic.effort = ({ traffic with queue := rest } : Traffic σ τ).effort + (wait + cost turn) := by
  have head : queueCost traffic.queue = (wait + cost turn) + queueCost rest := by
    rw [queued, queueCost]
  rw [effort_eq, effort_eq, head]
  simp only
  omega

/-- What changes no call leaves as much to do as before. -/
theorem effort_cache {cache : Cache τ} (calls : cache.calls = traffic.cache.calls) :
    ({ traffic with cache } : Traffic σ τ).effort = traffic.effort := by
  rw [effort_eq, effort_eq]
  simp only [calls]

theorem effort_finish (number : Nat) (reply : Reply) :
    (traffic.finish number reply).effort = traffic.effort + 1 := by
  unfold finish
  rw [effort_push, effort_cache (traffic.cache.finish_frame number reply).2.2.2]
  rfl

theorem effort_enter [Source σ] (flight : Cache.Flight) :
    (traffic.enter flight).effort ≤ traffic.effort + 3 := by
  unfold enter
  cases Source.ask traffic.source flight.address with
  | mk response source =>
    have asked : ({ traffic with source, asked := traffic.asked ++ [flight.address] } :
        Traffic σ τ).effort = traffic.effort := rfl
    have parked (held : Bool) : ({ traffic with
        source
        asked := traffic.asked ++ [flight.address]
        parked := traffic.parked ++ [(flight.number, held)] } : Traffic σ τ).effort =
          traffic.effort + 3 := by
      rw [effort_eq, effort_eq]
      simp only [List.length_append, List.length_singleton]
      omega
    cases response with
    | reply reply =>
      simp only
      split
      · rw [effort_finish, asked]
        omega
      · rw [effort_push, asked]
        exact Nat.le_refl _
    | silent => exact Nat.le_of_eq (parked false)
    | held => exact Nat.le_of_eq (parked true)

theorem effort_begin [Source σ] (flight : Cache.Flight) :
    (traffic.begin flight).effort ≤ traffic.effort + 4 := by
  have begun : ({ traffic with cache := traffic.cache.begin flight.number } : Traffic σ τ).effort =
      traffic.effort := effort_cache (traffic.cache.begin_frame flight.number).2.2.2
  unfold begin
  simp only
  split
  · refine Nat.le_trans (effort_enter flight) ?_
    rw [begun]
    omega
  · split
    · rw [effort_push, begun]
      exact Nat.le_refl _
    · rw [effort_push, begun]
      exact Nat.le_refl _

/-- The calls that wait for a flight, counted by their places and by their states. -/
theorem waitingFor_length (calls : List Cache.Status) (number : Nat) :
    ((List.range calls.length).filter fun call =>
      (calls[call]?).any (Cache.Status.waitsFor number)).length =
        (calls.filter (Cache.Status.waitsFor number)).length := by
  induction calls using List.reverseRecOn with
  | nil => rfl
  | append_singleton calls status ih =>
    have before : (List.range calls.length).filter (fun call =>
        ((calls ++ [status])[call]?).any (Cache.Status.waitsFor number)) =
          (List.range calls.length).filter fun call =>
            (calls[call]?).any (Cache.Status.waitsFor number) := by
      refine List.filter_congr fun call member => ?_
      rw [List.getElem?_append_left (List.mem_range.mp member)]
    rw [List.length_append, List.length_singleton, List.range_succ, List.filter_append, before,
      List.filter_append, List.length_append, List.length_append, ih]
    congr 1
    simp only [List.filter_cons, List.filter_nil, List.getElem?_concat_length, Option.any_some]
    split <;> rfl

/-- Each call that is answered is one that waited. -/
theorem waitingCount_answerAll (calls : List Cache.Status) (number : Nat) (outcome : Outcome) :
    waitingCount (Cache.answerAll calls number outcome) +
      (calls.filter (Cache.Status.waitsFor number)).length = waitingCount calls := by
  unfold waitingCount Cache.answerAll
  induction calls with
  | nil => rfl
  | cons status rest ih =>
    rw [List.map_cons]
    by_cases waits : status.waitsFor number = true
    · have waiting : isWaiting status = true := by
        cases status with
        | waiting flight => rfl
        | _ => cases waits
      have answered : ¬ isWaiting (.answered outcome) = true := Bool.false_ne_true
      rw [if_pos waits, List.filter_cons_of_neg answered, List.filter_cons_of_pos waits,
        List.filter_cons_of_pos waiting, List.length_cons, List.length_cons]
      omega
    · rw [if_neg waits, List.filter_cons_of_neg waits, List.filter_cons, List.filter_cons]
      split
      · rw [List.length_cons, List.length_cons]
        omega
      · exact ih

/-- A call that is resumed has waited for it. -/
theorem Owes.effort_release {number : Nat} (owes : Owes [(number, 2)] traffic) :
    (traffic.release number).effort = traffic.effort := by
  obtain ⟨outcome, released⟩ := owes.released
  have resumed (calls : List Nat) : queueCost (calls.map fun call => (0, .resume call)) =
      calls.length := by
    induction calls with
    | nil => rfl
    | cons call rest ih =>
      rw [List.map_cons, queueCost, ih, List.length_cons]
      exact Nat.add_comm _ _
  have counted := waitingCount_answerAll traffic.cache.calls number outcome
  rw [effort_eq, effort_eq]
  unfold Traffic.release Cache.waitingFor
  rw [released]
  simp only
  rw [queueCost_append, resumed, waitingFor_length]
  omega

/-- A batch in the place of another. -/
theorem batchCost_set {batches : List Batch} {number : Nat} {batch : Batch}
    (found : batches[number]? = some batch) (other : Batch) :
    batchCost (batches.set number other) + 7 * batch.waiting.length =
      batchCost batches + 7 * other.waiting.length := by
  induction batches generalizing number with
  | nil => cases found
  | cons first rest ih =>
    cases number with
    | zero =>
      cases found
      simp only [List.set_cons_zero, batchCost]
      omega
    | succ number =>
      have later := ih found
      simp only [List.set_cons_succ, batchCost]
      omega

theorem effort_leave (number : Nat) : (traffic.leave number).effort ≤ traffic.effort := by
  unfold leave
  split
  · exact Nat.le_refl _
  · rename_i batch found
    split
    · rename_i empty
      have costs := batchCost_set found { batch with free := batch.free.map (· + 1) }
      rw [effort_eq, effort_eq]
      simp only
      simp only [empty] at costs ⊢
      omega
    · rename_i place request rest waiting
      have costs := batchCost_set found { batch with waiting := rest }
      rw [effort_push, effort_eq, effort_eq]
      simp only [waiting, List.length_cons] at costs ⊢
      have seat : cost (.seat number place request) = 7 := rfl
      omega

theorem effort_resume (call : Nat) : (traffic.resume call).effort ≤ traffic.effort := by
  unfold resume
  split
  · exact effort_leave _
  · exact Nat.le_refl _

/-- A flight that runs out of time no longer has to be given up. -/
theorem effort_giveUp : traffic.giveUp.effort + traffic.late.length = traffic.effort := by
  have finishing (late : List (Nat × Bool)) :
      queueCost (late.map fun entry => (0, .finish entry.1 .overdue)) = 2 * late.length := by
    induction late with
    | nil => rfl
    | cons entry rest ih =>
      rw [List.map_cons, queueCost, ih, List.length_cons]
      show 0 + 2 + 2 * rest.length = _
      omega
  have parts : traffic.late.length + (traffic.parked.filter fun entry =>
      entry.2 || !traffic.isLimited entry.1).length = traffic.parked.length := by
    rw [← List.length_append]
    exact (late_append_perm traffic).length_eq
  rw [effort_eq, effort_eq]
  unfold giveUp
  simp only
  rw [queueCost_append, finishing]
  omega

variable [Sub τ] [LE τ] [DecidableLE τ]

/-- A call may wait, and a flight that it opens has to be started. -/
theorem effort_call (request : Request) : (traffic.call request).effort ≤ traffic.effort + 6 := by
  have waiting : waitingCount (traffic.cache.call request.address request.limit).calls ≤
      waitingCount traffic.cache.calls + 1 := by
    obtain ⟨status, calls⟩ := traffic.cache.calls_call request.address request.limit
    unfold waitingCount
    rw [calls, List.filter_append, List.length_append]
    have last := List.length_filter_le isWaiting [status]
    rw [List.length_singleton] at last
    omega
  have called : ({ traffic with cache := traffic.cache.call request.address request.limit } :
      Traffic σ τ).effort ≤ traffic.effort + 1 := by
    rw [effort_eq, effort_eq]
    simp only
    omega
  unfold call
  simp only
  split
  · rw [effort_push]
    have start : cost (.begin traffic.cache.opened) = 5 := rfl
    omega
  · omega

theorem effort_seat (number place : Nat) (request : Option Request) :
    (traffic.seat number place request).effort ≤ traffic.effort + 6 := by
  unfold seat
  cases request with
  | none => exact Nat.le_trans (effort_leave number) (Nat.le_add_right _ _)
  | some request =>
    have called := traffic.effort_call request
    -- a place for the call is noted in the batch, which costs nothing
    have noted (traffic : Traffic σ τ) (change : List (Nat × Nat) → List (Nat × Nat)) :
        ({ traffic with batches := traffic.batches.modify number fun batch =>
          { batch with calls := change batch.calls } } : Traffic σ τ).effort = traffic.effort := by
      rw [effort_eq, effort_eq]
      simp only
      congr 1
      generalize traffic.batches = batches
      induction batches generalizing number with
      | nil => rw [List.modify_nil]
      | cons batch rest ih =>
        cases number with
        | zero => rfl
        | succ number => rw [List.modify_succ_cons, batchCost, ih, batchCost]
    simp only
    split
    · refine Nat.le_trans (effort_leave number) ?_
      rw [noted (traffic.call request) fun calls => calls ++ [(place, traffic.cache.calls.length)]]
      exact called
    · rw [noted (traffic.call request) fun calls => calls ++ [(place, traffic.cache.calls.length)]]
      exact called

variable [Source σ]

/-- **A turn is not taken in vain**: it leaves less to do than there was with it. -/
theorem Owes.effort_take {turn : Turn} (owes : Owes turn.leg?.toList traffic) :
    (traffic.take turn).effort < traffic.effort + cost turn := by
  cases turn with
  | begin number =>
    obtain ⟨flight, _, rfl, _, found⟩ := owes.tidy.flight_of_leg owes.legs
    rw [take_begin found]
    exact Nat.lt_succ_of_le (effort_begin flight)
  | enter number =>
    obtain ⟨flight, _, rfl, _, found⟩ := owes.tidy.flight_of_leg owes.legs
    rw [take_enter found]
    exact Nat.lt_succ_of_le (effort_enter flight)
  | finish number reply =>
    show (traffic.finish number reply).effort < _
    rw [effort_finish]
    exact Nat.lt_succ_self _
  | release number =>
    show (traffic.release number).effort < _
    rw [Owes.effort_release owes]
    exact Nat.lt_succ_self _
  | resume call => exact Nat.lt_succ_of_le (effort_resume call)
  | seat batch place request => exact Nat.lt_succ_of_le (effort_seat batch place request)

/-- **Every move takes from what is left to do.** -/
theorem Owes.effort_move (orderly : Orderly traffic) {next : Traffic σ τ}
    (move : Move traffic next) : next.effort < traffic.effort := by
  cases move with
  | turn turn rest queued =>
    rw [effort_pop queued, Nat.zero_add]
    exact (orderly.pop queued).effort_take
  | wait wait turn rest queued =>
    rw [effort_pop queued]
    show (({ traffic with queue := rest } : Traffic σ τ).push wait turn).effort < _
    rw [effort_push]
    omega
  | giveUp queued late =>
    have some := List.length_pos_iff.mpr late
    have all : traffic.giveUp.effort + traffic.late.length = traffic.effort := effort_giveUp
    omega

/-! ### Coming to rest -/

/-- **Orderly traffic comes to rest**, and is orderly then. -/
theorem Owes.settle (orderly : Orderly traffic) : Orderly traffic.settle ∧ traffic.settle.AtRest :=
  ⟨settle_kept Orderly orderly fun _ _ orderly move => orderly.move move,
    settle_atRest Orderly orderly fun _ _ orderly move =>
      ⟨orderly.move move, orderly.effort_move move⟩⟩

end

end ContractRisk.Traffic
