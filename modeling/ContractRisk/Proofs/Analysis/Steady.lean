/-
**Steady sources.**

A source is steady if it responds to an address always in the same way, whatever it was asked before
(`Steady`); it is consistent if it is steady but for the time that it takes: it may also hold the reply back
(`Consistent`). A fetch then comes to the outcome that the response makes (`Steady.answerTo`), whether the
cache has the code or not and whatever is done meanwhile, if what is let go is what was held back
(`Deed.Fair`): consistent sources are honest about this outcome (`Consistent.honest`), so that the cache of
such a source holds nothing else (`Reliable`), at every time in the life of an analyzer.

* `reliable_stays`, `Reliable.call`, `Reliable.settled`: such a cache stays reliable;
* `Reliable.call`, `Reliable.outcomes`, `Reliable.batchResult`: what a call and what a batch come to.
-/

import ContractRisk.Proofs.Analysis.Courses
import ContractRisk.Proofs.Cache.Members
import ContractRisk.Proofs.Cache.Sources

namespace ContractRisk

/-! ### Sources -/

/-- **A source that responds to an address always in the same way**, whatever it was asked before: with a
reply, or with silence. -/
def Steady {σ : Type} [Source σ] (respond : String → Option Reply) (source : σ) : Prop :=
  ∀ (earlier : List String) (address : String), (Source.ask (earlier.foldl (fun source address =>
    (Source.ask source address).2) source) address).1 = (respond address).elim .silent .reply

/-- **A source that is steady but for the time that it takes**: whatever it was asked before, it responds
always in the same way, or it holds its reply back, if it may. -/
def Consistent {σ : Type} [Source σ] (held : Prop) (respond : String → Option Reply) (source : σ) : Prop :=
  Source.Always (fun address response =>
    response = (respond address).elim .silent .reply ∨ held ∧ response = .held) source

namespace Steady

variable {σ : Type} [Source σ] {respond : String → Option Reply} {source : σ} {timeout : Number}

/-- What a fetch for an address comes to. -/
def answer (respond : String → Option Reply) (timeout : Number) (address : String) : Outcome :=
  let reply := if timeout ≤ 0 then .overdue else (respond address).getD .overdue
  reply.outcome address (some timeout)

/-- What a fetch comes to for an address as it is given. -/
def answerTo (respond : String → Option Reply) (timeout : Number) (given : Value) : Outcome :=
  match Address.normalize? given with
  | none => .error (.refused .address)
  | some address => answer respond timeout address

/-- Whether an outcome is the one that a fetch comes to. -/
abbrev Good (respond : String → Option Reply) (timeout : Number) (address : String)
    (outcome : Outcome) : Prop :=
  outcome = answer respond timeout address

theorem owed_eq {given : Value} {outcome : Outcome}
    (owed : Cache.Owed (Good respond timeout) given outcome) :
    outcome = answerTo respond timeout given := by
  unfold answerTo
  unfold Cache.Owed at owed
  cases wellFormed : Address.normalize? given with
  | none =>
    rw [wellFormed] at owed
    exact owed
  | some address =>
    rw [wellFormed] at owed
    exact owed

theorem settled_eq {requests : List (Option Request)} {outcomes : List (Option Outcome)}
    (settled : List.Forall₂ (Traffic.Settled (Good respond timeout)) requests outcomes) :
    outcomes = requests.map (·.map fun request => answerTo respond timeout request.address) := by
  induction settled with
  | nil => rfl
  | @cons request outcome requests outcomes own _ ih =>
    rw [List.map_cons, ih]
    congr 1
    cases request with
    | none => exact own
    | some request =>
      obtain ⟨answer, rfl, owed⟩ := own
      exact congrArg some (owed_eq owed)

end Steady

section

variable {σ : Type} [Source σ] {respond : String → Option Reply} {source : σ} {timeout : Number} {held : Prop}

theorem Steady.consistent (steady : Steady respond source) : Consistent held respond source :=
  fun earlier address => .inl (steady earlier address)

theorem Consistent.honest :
    Honest (Steady.Good respond timeout) (some timeout) held (Consistent (σ := σ) held respond) where
  asked := by
    intro source consistent address
    refine ⟨consistent.ask address, fun time => ?_⟩
    have inTime : ¬ timeout ≤ 0 := fun past => time ⟨timeout, rfl, past⟩
    have own : Steady.answer respond timeout address =
        ((respond address).getD .overdue).outcome address (some timeout) := by
      unfold Steady.answer
      rw [if_neg inTime]
    rcases consistent.now address with responds | ⟨back, responds⟩
    · rw [responds]
      cases reply : respond address <;>
      · rw [reply] at own
        exact own.symm
    · rw [responds]
      exact back
  immediate := by
    rintro ⟨span, same, past⟩ address
    cases same
    show Reply.overdue.outcome address (some timeout) = Steady.answer respond timeout address
    unfold Steady.answer
    rw [if_pos past]

/-- **A deed that asks for nothing, and lets go only what comes to the same** as what the source would have
replied by itself. -/
def Deed.Fair (respond : String → Option Reply) (timeout : Number) (deed : Deed Number) : Prop :=
  deed.passive = true ∧ deed.Truthful (Steady.Good respond timeout) (some timeout)

end

/-- Responses that are given once for each address make a steady source. -/
theorem Replay.steady {replay : Replay} {respond : String → Option Reply}
    (once : ∀ address, replay.queue address = [(respond address).elim .silent .reply]) :
    Steady respond replay := by
  have always : Source.Always (fun address response =>
      response = (respond address).elim .silent .reply) replay := by
    refine Replay.always (fun address response member => ?_) fun address none => ?_
    · rw [once] at member
      exact List.mem_singleton.mp member
    · cases (once address).symm.trans none
  exact always

namespace Analyzer

variable {σ : Type} [Source σ] {respond : String → Option Reply} {settings : Settings} {held : Prop}

/-! ### Caches of consistent sources -/

/-- **A cache at rest that holds what a consistent source gives.** -/
structure Reliable (settings : Settings) (respond : String → Option Reply) (cache : Cache Number) :
    Prop where
  limits : cache.limits = limits settings
  resting : Traffic.Resting (Steady.Good respond settings.analysisTimeout)
    (some settings.analysisTimeout) cache

section

variable {cache : Cache Number} {source : σ} {course : List (Deed Number)}

omit [Source σ] in
/-- What keeps the bounds and is a truthful event leaves a cache reliable, if there is no flight. -/
theorem Reliable.step (reliable : Reliable settings respond cache) (event : Cache.Event Number)
    (truthful : Cache.Truthful (Steady.Good respond settings.analysisTimeout) cache event)
    (none : (cache.step event).flights = []) : Reliable settings respond (cache.step event) := by
  have same : (cache.step event).limits = cache.limits := (cache.step_fixed event).1
  refine ⟨same.trans reliable.limits, ?_⟩
  obtain ⟨tidy, vouched, timeout, _⟩ := reliable.resting
  exact ⟨Cache.step_tidy tidy event, Cache.step_vouched tidy vouched truthful,
    (congrArg _ same).trans timeout, none⟩

omit [Source σ] in
/-- **Reliable caches stay reliable** when time passes and entries are dropped. -/
theorem reliable_stays (settings : Settings) (origin : Origin) (respond : String → Option Reply) :
    Stays settings fun name cache => origin.source? = .ok name → Reliable settings respond cache where
  fresh := fun _ now _ => ⟨rfl, Cache.tidy_empty _ now, Cache.vouched_empty _ now, rfl, rfl⟩
  advance := fun _ _ span held own =>
    (held own).step (.advance span) trivial (held own).resting.flights
  clear := fun _ _ held own => (held own).step .clear trivial (held own).resting.flights

variable (reliable : Reliable settings respond cache) (consistent : Consistent held respond source)
  (fair : ∀ deed ∈ course, deed.Fair respond settings.analysisTimeout)

include reliable consistent fair

/-- **A call at a reliable cache** comes to what its address makes of it, and leaves the cache reliable. -/
theorem Reliable.call (address : Value) :
    let settled := ((({ cache, source } : Traffic σ Number).call
      ⟨address, some settings.analysisTimeout⟩).acts course).settle
    (held → settled.cache.flights = []) →
      Reliable settings respond settled.cache ∧ Consistent held respond settled.source ∧
        settled.cache.answer? cache.calls.length =
          some (Steady.answerTo respond settings.analysisTimeout address) := by
  intro settled ended
  have passive : ∀ deed ∈ course, deed.passive = true := fun deed member => (fair deed member).1
  obtain ⟨resting, consistent', outcome, answered, owed⟩ := reliable.resting.call Consistent.honest consistent
    rfl (.inr rfl : (⟨address, some settings.analysisTimeout⟩ : Request).limit = none ∨ _) passive
    (fun deed member => (fair deed member).2) ended
  have reaches := ((({ cache, source } : Traffic σ Number).call_proceeds
    ⟨address, some settings.analysisTimeout⟩).reaches.trans (Traffic.acts_reaches passive)).trans
    (Traffic.settle_proceeds _).reaches
  refine ⟨⟨reaches.limits.trans reliable.limits, resting⟩, consistent', ?_⟩
  rw [answered]
  exact congrArg some (Steady.owed_eq owed)

variable {requests : List (Option Request)}
  (usual : ∀ request ∈ requests, Usual (some settings.analysisTimeout) request)

include usual

/-- **A batch leaves the cache reliable.** -/
theorem Reliable.settled (slots : Option Nat) :
    let settled := ((({ cache, source } : Traffic σ Number).start slots requests).acts course).settle
    (held → settled.cache.flights = []) →
      Reliable settings respond settled.cache ∧ Consistent held respond settled.source := by
  intro settled ended
  have passive : ∀ deed ∈ course, deed.passive = true := fun deed member => (fair deed member).1
  obtain ⟨resting, consistent', _⟩ := reliable.resting.settled Consistent.honest consistent rfl slots usual
    passive (fun deed member => (fair deed member).2) ended
  have reaches := ((({ cache, source } : Traffic σ Number).start_proceeds slots requests).reaches.trans
    (Traffic.acts_reaches passive)).trans (Traffic.settle_proceeds _).reaches
  exact ⟨⟨reaches.limits.trans reliable.limits, resting⟩, consistent'⟩

/-- The members of a batch at a reliable cache. -/
theorem Reliable.outcomes {slots : Option Nat} (room : slots ≠ some 0) :
    let settled := ((({ cache, source } : Traffic σ Number).start slots requests).acts course).settle
    (held → settled.cache.flights = []) →
      settled.outcomes 0 = requests.map (·.map fun request =>
        Steady.answerTo respond settings.analysisTimeout request.address) ∧
      settled.addressesOf 0 = requests.map fun request => (request.map (·.address)).getD .null := by
  intro settled ended
  obtain ⟨settled, places⟩ := reliable.resting.batch Consistent.honest consistent rfl room usual
    (fun deed member => (fair deed member).1) (fun deed member => (fair deed member).2) ended
  exact ⟨Steady.settled_eq settled, places⟩

omit usual in
/-- A batch of addresses at a reliable cache. -/
theorem Reliable.batchResult (room : Traffic.slots settings.batchConcurrency ≠ some 0)
    (addresses : List Value) :
    let settled := ((({ cache, source } : Traffic σ Number).startBatch addresses).acts course).settle
    (held → settled.cache.flights = []) →
      settled.batchResult? 0 = some (.ofOutcomes (addresses.map fun address =>
        (address, Steady.answerTo respond settings.analysisTimeout address))) := by
  intro settled ended
  have room : Traffic.slots cache.limits.concurrency ≠ some 0 := by
    rw [reliable.limits]
    exact room
  obtain ⟨outcomes, places⟩ := reliable.outcomes consistent fair
    (usual_open (some settings.analysisTimeout) addresses) room ended
  let answer := Steady.answerTo respond settings.analysisTimeout
  have answers : (addresses.map fun address => some (answer address)).mapM id =
      some (addresses.map answer) := by
    rw [List.mapM_map]
    exact List.mapM_pure
  rw [List.map_map] at outcomes places
  have members : settled.outcomes 0 = addresses.map fun address => some (answer address) := outcomes
  have keys : settled.addressesOf 0 = addresses := places.trans (List.map_id _)
  unfold Traffic.batchResult?
  rw [members, answers, keys, List.map_prod_left_eq_zip]
  rfl

end

end Analyzer

end ContractRisk
