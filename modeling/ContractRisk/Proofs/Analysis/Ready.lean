/-
**Analyzers with a consistent source.**

If the source behind an origin is consistent, its cache is reliable, and stays so whatever the analyzer goes
through (`Ready`): analyses, batches, warmed caches, time and clearances, each with a course of its own
(`Been`). At the caches of other sources anything may be done; at this one only what is fair, and no flight
may be left that waits for a reply that is held back (`Idle`).

* `Ready.fetchThrough`, `Ready.analyzeBatchThrough` and the like: every task leaves an analyzer ready;
* `Been.ready`: so it is whatever it has gone through;
* `Ready.fetched`, `Ready.prefetched`, `Ready.fetchedEach`: what a single fetch and the two rounds of a batch
  come to.
-/

import ContractRisk.Proofs.Analysis.Stages
import ContractRisk.Proofs.Analysis.Steady

namespace ContractRisk.Analyzer

variable {σ α : Type} {respond : String → Option Reply} {held : Prop}

/-! ### What a fetch comes to -/

/-- What keeps an origin from having a source. -/
def obstacle (known : String → Bool) (origin : Origin) : Option Failure :=
  match origin.source? with
  | .error failure => some failure
  | .ok name => if known name then none else some (.refused .noSource)

/-- What a fetch through an origin comes to, if the source behind it is consistent. -/
def outcomeThrough (known : String → Bool) (origin : Origin) (respond : String → Option Reply)
    (timeout : Number) (address : Value) : Outcome :=
  match obstacle known origin with
  | some failure => .error failure
  | none => Steady.answerTo respond timeout address

/-- The failures of the valid addresses, each with its address. -/
def failuresThrough (known : String → Bool) (origin : Origin) (respond : String → Option Reply)
    (timeout : Number) (addresses : List Value) : List (Value × Failure) :=
  match obstacle known origin with
  | some _ => []
  | none => (addresses.filter fun address => (Address.normalize? address).isSome).filterMap
    fun address => BatchResult.failure? (address, Steady.answerTo respond timeout address)

/-! ### Reliable caches -/

/-- No flight is left at the cache of the source that an origin is. -/
def Idle (origin : Origin) (analyzer : Analyzer σ α) : Prop :=
  ∀ name, origin.source? = .ok name → (analyzer.cacheOf name).flights = []

/-- A course at the cache of the source that is `given`; it is fair if that is the source of the origin. -/
def Proper (origin given : Origin) (respond : String → Option Reply) (timeout : Number)
    (course : List (Deed Number)) : Prop :=
  given.source? = origin.source? → ∀ deed ∈ course, deed.Fair respond timeout

/-- **An analyzer whose source behind an origin is consistent.** -/
abbrev Ready [Source σ] (setup : Setup α) (known : String → Bool) (origin : Origin) (held : Prop)
    (respond : String → Option Reply) (analyzer : Analyzer σ α) : Prop :=
  Holds setup known (fun name cache => origin.source? = .ok name →
    Reliable setup.settings respond cache) (fun name source => origin.source? = .ok name →
      Consistent held respond source) analyzer

section

variable {setup : Setup α} {known : String → Bool} {origin given : Origin} {analyzer : Analyzer σ α}
  {name : String} {source : σ} {course : List (Deed Number)}

/-- Counting records touches no cache. -/
theorem cacheOf_countIf (ending : Except Failure (Analysis α)) (analyzer : Analyzer σ α) (name : String) :
    (analyzer.countIf ending).cacheOf name = analyzer.cacheOf name := by
  cases ending <;> rfl

theorem cacheOf_countEach (endings : List (Value × Except Failure (Analysis α))) (analyzer : Analyzer σ α)
    (name : String) : (endings.foldl (fun analyzer entry => analyzer.countIf entry.2) analyzer).cacheOf name =
      analyzer.cacheOf name := by
  induction endings generalizing analyzer with
  | nil => rfl
  | cons entry rest ih => exact (ih _).trans (cacheOf_countIf entry.2 analyzer name)

theorem cacheOf_extract (endings : List (Value × Except Failure (Analysis α))) (analyzer : Analyzer σ α)
    (name : String) : (analyzer.extract endings).2.cacheOf name = analyzer.cacheOf name := by
  induction endings generalizing analyzer with
  | nil => rfl
  | cons entry rest ih =>
    obtain ⟨address, ending⟩ := entry
    cases ending with
    | ok record => exact ih analyzer
    | error failure =>
      unfold Analyzer.extract
      split
      · rfl
      · exact ih (analyzer.count _)

variable [Source σ]

theorem Ready.resolve_error (ready : Ready setup known origin held respond analyzer) {failure : Failure}
    (unreachable : obstacle known origin = some failure) : analyzer.resolve origin = .error failure := by
  unfold obstacle at unreachable
  cases named : origin.source? with
  | error other =>
    rw [named] at unreachable
    cases unreachable
    unfold Analyzer.resolve
    rw [named]
    rfl
  | ok name =>
    rw [named] at unreachable
    simp only [← ready.names name] at unreachable
    rw [analyzer.resolve_named named]
    cases found : analyzer.sources.lookup name with
    | some source =>
      rw [found] at unreachable
      cases unreachable
    | none =>
      rw [found] at unreachable
      cases unreachable
      rfl

/-- **An origin without an obstacle** leads to a consistent source and its reliable cache. -/
theorem Ready.reach (ready : Ready setup known origin held respond analyzer)
    (reachable : obstacle known origin = none) :
    ∃ name source cache, analyzer.resolve origin = .ok (name, source) ∧
      (analyzer.visit name source).1 = { cache, source } ∧
      Reliable setup.settings respond cache ∧ Consistent held respond source := by
  unfold obstacle at reachable
  cases named : origin.source? with
  | error failure =>
    rw [named] at reachable
    cases reachable
  | ok name =>
    rw [named] at reachable
    simp only at reachable
    split at reachable
    · rename_i here
      rw [← ready.names name] at here
      obtain ⟨source, found⟩ := Option.isSome_iff_exists.mp here
      have resolved : analyzer.resolve origin = .ok (name, source) := by
        rw [analyzer.resolve_named named, found]
      obtain ⟨⟨cache, lawful, visited⟩, _⟩ :=
        Holds.visit (reliable_stays setup.settings origin respond) ready name source
      exact ⟨name, source, cache, resolved, visited, lawful named, (ready.resolve resolved).2 named⟩
    · cases reachable

/-! ### Every task leaves an analyzer ready -/

/-- **A cache that has been through a course** is reliable if the course makes it so, and it has to be only if
it is that of the origin. -/
theorem Ready.through (ready : Ready setup known origin held respond analyzer)
    (resolved : analyzer.resolve given = .ok (name, source)) {settled : Traffic σ Number}
    (idle : held → Idle origin (((analyzer.visit name source).2.passes course).leave name settled))
    (lasting : ∀ cache, (analyzer.visit name source).1 = { cache, source } →
      given.source? = origin.source? → Reliable setup.settings respond cache →
      Consistent held respond source → (held → settled.cache.flights = []) →
      Reliable setup.settings respond settled.cache ∧ Consistent held respond settled.source) :
    Ready setup known origin held respond
      (((analyzer.visit name source).2.passes course).leave name settled) := by
  refine Holds.through (reliable_stays setup.settings origin respond) ready resolved
    fun cache visited lawful own => ?_
  rw [← imp_and]
  intro named
  refine lasting cache visited ((resolve_name resolved).trans named.symm) (lawful named) (own named) ?_
  intro back
  rw [← cacheOf_leave ((analyzer.visit name source).2.passes course) name settled]
  exact idle back name named

theorem Ready.fetchThrough (ready : Ready setup known origin held respond analyzer)
    (proper : Proper origin given respond setup.settings.analysisTimeout course) (address : Value)
    (idle : held → Idle origin (analyzer.fetchThrough course given address).2) :
    Ready setup known origin held respond (analyzer.fetchThrough course given address).2 := by
  unfold Analyzer.fetchThrough at idle ⊢
  cases resolved : analyzer.resolve given with
  | error failure => exact ready
  | ok pair =>
    obtain ⟨name, source⟩ := pair
    rw [resolved] at idle
    refine ready.through resolved idle fun cache visited same reliable consistent ended => ?_
    have request : (analyzer.visit name source).2.request address =
        ⟨address, some setup.settings.analysisTimeout⟩ := by
      rw [← ready.setup]
      rfl
    rw [visited, request] at ended ⊢
    obtain ⟨reliable', consistent', _⟩ := reliable.call consistent (proper same) address ended
    exact ⟨reliable', consistent'⟩

theorem Ready.batchThrough (ready : Ready setup known origin held respond analyzer)
    (proper : Proper origin given respond setup.settings.analysisTimeout course)
    (resolved : analyzer.resolve given = .ok (name, source)) (addresses : List Value)
    (idle : held → Idle origin (((analyzer.visit name source).2.passes course).leave name
      (((analyzer.visit name source).1.startBatch addresses).acts course).settle)) :
    Ready setup known origin held respond (((analyzer.visit name source).2.passes course).leave name
      (((analyzer.visit name source).1.startBatch addresses).acts course).settle) := by
  refine ready.through resolved idle fun cache visited same reliable consistent ended => ?_
  rw [visited] at ended ⊢
  exact reliable.settled consistent (proper same) (usual_open _ addresses) _ ended

theorem Ready.preloadThrough (ready : Ready setup known origin held respond analyzer)
    (proper : Proper origin (setup.originFor given) respond setup.settings.analysisTimeout course)
    (addresses : Value) (idle : held → Idle origin (analyzer.preloadThrough course addresses given).2) :
    Ready setup known origin held respond (analyzer.preloadThrough course addresses given).2 := by
  unfold Analyzer.preloadThrough at idle ⊢
  rw [ready.setup] at idle ⊢
  simp only at idle ⊢
  split
  · exact ready
  · rename_i isGiven
    rw [if_neg isGiven] at idle
    cases resolved : analyzer.resolve (setup.originFor given) with
    | error failure => exact ready
    | ok pair =>
      obtain ⟨name, source⟩ := pair
      rw [resolved] at idle
      simp only at idle ⊢
      split
      · exact (Holds.visit (reliable_stays setup.settings origin respond) ready name source).2
      · rename_i keys distinct
        rw [distinct] at idle
        exact ready.batchThrough proper resolved keys idle

theorem Ready.prefetchThrough (ready : Ready setup known origin held respond analyzer)
    (proper : Proper origin given respond setup.settings.analysisTimeout course) (addresses : List Value)
    (idle : held → Idle origin (analyzer.prefetchThrough course addresses given).2) :
    Ready setup known origin held respond (analyzer.prefetchThrough course addresses given).2 := by
  unfold Analyzer.prefetchThrough at idle ⊢
  cases resolved : analyzer.resolve given with
  | error failure => exact ready
  | ok pair =>
    obtain ⟨name, source⟩ := pair
    rw [resolved] at idle
    simp only at idle ⊢
    split
    · exact ready
    · rename_i some
      rw [if_neg some] at idle
      -- the tally does not count here
      have batch := ready.batchThrough proper resolved _ idle
      exact ⟨batch.setup, batch.names, batch.shelf, batch.sources⟩

theorem Ready.fetchEachThrough (ready : Ready setup known origin held respond analyzer)
    (proper : Proper origin given respond setup.settings.analysisTimeout course) (addresses : List Value)
    (asks : Value → Bool)
    (idle : held → Idle origin (analyzer.fetchEachThrough course given addresses asks).2) :
    Ready setup known origin held respond (analyzer.fetchEachThrough course given addresses asks).2 := by
  unfold Analyzer.fetchEachThrough at idle ⊢
  cases resolved : analyzer.resolve given with
  | error failure => exact ready
  | ok pair =>
    obtain ⟨name, source⟩ := pair
    rw [resolved] at idle
    simp only at idle ⊢
    split
    · exact ready
    · rename_i somebody
      rw [if_neg somebody] at idle
      refine ready.through resolved idle fun cache visited same reliable consistent ended => ?_
      have usual : ∀ request ∈ addresses.map fun address => if asks address then
          some ((analyzer.visit name source).2.request address) else none,
          Usual (some setup.settings.analysisTimeout) request := by
        rw [← ready.setup]
        exact usual_stated _ addresses asks
      rw [visited] at ended ⊢
      exact reliable.settled consistent (proper same) usual _ ended

variable [Add α] [Sub α] [Mul α] [Div α] [LT α] [LE α] [DecidableLT α] [DecidableLE α]
  [OfScientific α] [NatCast α] [Decimal.Rendered α]

theorem Ready.analyzeThrough (ready : Ready setup known origin held respond analyzer) (question : Question)
    (proper : Proper origin (setup.originFor question.origin) respond setup.settings.analysisTimeout course)
    (idle : held → Idle origin (analyzer.analyzeThrough course question).2) :
    Ready setup known origin held respond (analyzer.analyzeThrough course question).2 := by
  unfold Analyzer.analyzeThrough at idle ⊢
  split
  · exact ready
  · rename_i sound
    rw [sound] at idle
    simp only at idle ⊢
    split
    · rename_i asks
      rw [if_pos asks] at idle
      rw [ready.setup] at idle ⊢
      refine (ready.fetchThrough proper question.address fun back name named => ?_).countIf _
      have none := idle back name named
      rwa [cacheOf_countIf] at none
    · exact ready.countIf _

/-- **A batch leaves an analyzer ready** if its rounds do. -/
theorem Ready.analyzeBatchThrough (ready : Ready setup known origin held respond analyzer)
    {first second : List (Deed Number)} (addresses abis : Value)
    (proper : Proper origin (setup.originFor given) respond setup.settings.analysisTimeout (first ++ second))
    (between : held → ∀ keys, distinctKeys addresses = .ok keys →
      Idle origin (analyzer.prefetchThrough first keys (setup.originFor given)).2)
    (idle : held → Idle origin (analyzer.analyzeBatchThrough first second addresses abis given).2) :
    Ready setup known origin held respond
      (analyzer.analyzeBatchThrough first second addresses abis given).2 := by
  unfold Analyzer.analyzeBatchThrough at idle ⊢
  split
  · exact ready
  · rename_i keys distinct
    rw [distinct] at idle
    simp only [ready.setup] at idle ⊢
    have ready := ready.prefetchThrough
      (fun same deed member => proper same deed (List.mem_append_left _ member)) keys
      fun back => between back keys distinct
    refine Holds.extract (Holds.countEach (ready.fetchEachThrough
      (fun same deed member => proper same deed (List.mem_append_right _ member)) keys _
      fun back name named => ?_) _) _
    have none := idle back name named
    rwa [cacheOf_extract, cacheOf_countEach] at none

end

/-! ### What an analyzer has gone through -/

section

variable [Source σ] [Add α] [Sub α] [Mul α] [Div α] [LT α] [LE α] [DecidableLT α] [DecidableLE α]
  [OfScientific α] [NatCast α] [Decimal.Rendered α]

/-- **What an analyzer has gone through**, each task with its course: at the cache of the source of an origin
only what is fair was done, and after each round no flight was left, if replies may be held back at all. -/
inductive Been (held : Prop) (origin : Origin) (respond : String → Option Reply) (start : Analyzer σ α) :
    Analyzer σ α → Prop
  | new : Been held origin respond start start
  | analyze {before : Analyzer σ α} (been : Been held origin respond start before) (question : Question)
      {course : List (Deed Number)}
      (proper : Proper origin (start.setup.originFor question.origin) respond
        start.setup.settings.analysisTimeout course)
      (idle : held → Idle origin (before.analyzeThrough course question).2) :
      Been held origin respond start (before.analyzeThrough course question).2
  | analyzeBatch {before : Analyzer σ α} (been : Been held origin respond start before)
      (addresses abis : Value) {given : Origin} {first second : List (Deed Number)}
      (proper : Proper origin (start.setup.originFor given) respond start.setup.settings.analysisTimeout
        (first ++ second))
      (between : held → ∀ keys, distinctKeys addresses = .ok keys →
        Idle origin (before.prefetchThrough first keys (start.setup.originFor given)).2)
      (idle : held → Idle origin (before.analyzeBatchThrough first second addresses abis given).2) :
      Been held origin respond start (before.analyzeBatchThrough first second addresses abis given).2
  | preload {before : Analyzer σ α} (been : Been held origin respond start before) (addresses : Value)
      {given : Origin} {course : List (Deed Number)}
      (proper : Proper origin (start.setup.originFor given) respond start.setup.settings.analysisTimeout
        course)
      (idle : held → Idle origin (before.preloadThrough course addresses given).2) :
      Been held origin respond start (before.preloadThrough course addresses given).2
  | advance {before : Analyzer σ α} (been : Been held origin respond start before) (span : Number) :
      Been held origin respond start (before.advance span)
  | clear {before : Analyzer σ α} (been : Been held origin respond start before) :
      Been held origin respond start before.clear

variable {start analyzer : Analyzer σ α} {origin : Origin}

/-- **An analyzer is ready whatever it has gone through.** -/
theorem Been.ready (new : start.shelf = [])
    (consistent : ∀ name source, origin.source? = .ok name → (name, source) ∈ start.sources →
      Consistent held respond source) (been : Been held origin respond start analyzer) :
    Ready start.setup (fun name => (start.sources.lookup name).isSome) origin held respond analyzer := by
  induction been with
  | new =>
    refine ⟨rfl, fun _ => rfl, ?_, fun entry member own => consistent entry.1 entry.2 own member⟩
    rw [new]
    exact fun _ member => nomatch member
  | analyze been question proper idle ih => exact ih.analyzeThrough question proper idle
  | analyzeBatch been addresses abis proper between idle ih =>
    exact ih.analyzeBatchThrough addresses abis proper between idle
  | preload been addresses proper idle ih => exact ih.preloadThrough proper addresses idle
  | advance been span ih => exact Holds.advance (reliable_stays _ origin respond) ih span
  | clear been ih => exact Holds.clear (reliable_stays _ origin respond) ih

/-- Tasks without deeds in their course are among what an analyzer may go through. -/
theorem Been.perform (been : Been False origin respond start analyzer) (task : Task) :
    Been False origin respond start (analyzer.perform task) := by
  have nothing (given : Origin) (timeout : Number) : Proper origin given respond timeout [] :=
    fun _ _ member => nomatch member
  cases task with
  | analyze question =>
    show Been _ _ _ _ (analyzer.analyze question).2
    rw [← analyzeThrough_nil]
    exact been.analyze question (nothing _ _) False.elim
  | analyzeBatch addresses abis given =>
    show Been _ _ _ _ (analyzer.analyzeBatch addresses abis given).2
    rw [← analyzeBatchThrough_nil]
    exact been.analyzeBatch addresses abis (nothing _ _) False.elim False.elim
  | preload addresses given =>
    show Been _ _ _ _ (analyzer.preload addresses given).2
    rw [← preloadThrough_nil]
    exact been.preload addresses (nothing _ _) False.elim
  | advance span => exact been.advance span
  | clear => exact been.clear

theorem Been.after (been : Been False origin respond start analyzer) (tasks : List Task) :
    Been False origin respond start (analyzer.after tasks) := by
  induction tasks generalizing analyzer with
  | nil => exact been
  | cons task rest ih => exact ih (been.perform task)

end

/-! ### What fetches and rounds come to -/

section

variable [Source σ] {setup : Setup α} {known : String → Bool} {origin : Origin} {analyzer : Analyzer σ α}
  {course : List (Deed Number)} (ready : Ready setup known origin held respond analyzer)
  (fair : ∀ deed ∈ course, deed.Fair respond setup.settings.analysisTimeout)

include ready fair

/-- **A single fetch** comes to what its address makes of it. -/
theorem Ready.fetched (address : Value)
    (idle : held → Idle origin (analyzer.fetchThrough course origin address).2) :
    (analyzer.fetchThrough course origin address).1 =
      outcomeThrough known origin respond setup.settings.analysisTimeout address := by
  unfold Analyzer.fetchThrough at idle ⊢
  unfold outcomeThrough
  cases obstacle : obstacle known origin with
  | some failure => rw [ready.resolve_error obstacle]
  | none =>
    obtain ⟨name, source, cache, resolved, visited, reliable, consistent⟩ := ready.reach obstacle
    rw [resolved] at idle ⊢
    simp only at idle ⊢
    have request : (analyzer.visit name source).2.request address =
        ⟨address, some setup.settings.analysisTimeout⟩ := by
      rw [← ready.setup]
      rfl
    have ended (back : held) : ((((analyzer.visit name source).1.call
        ((analyzer.visit name source).2.request address)).acts course).settle).cache.flights = [] := by
      rw [← cacheOf_leave ((analyzer.visit name source).2.passes course) name]
      exact idle back name (resolve_name resolved)
    show ((((analyzer.visit name source).1.call ((analyzer.visit name source).2.request address)).acts
      course).settle.cache.answer? (analyzer.visit name source).1.cache.calls.length).getD _ = _
    rw [visited, request] at ended ⊢
    obtain ⟨_, _, answered⟩ := reliable.call consistent fair address ended
    rw [answered]
    rfl

/-- **The first round** finds the failures of the valid addresses. -/
theorem Ready.prefetched (room : Traffic.slots setup.settings.batchConcurrency ≠ some 0)
    (addresses : List Value) (idle : held → Idle origin (analyzer.prefetchThrough course addresses origin).2) :
    (analyzer.prefetchThrough course addresses origin).1 =
      failuresThrough known origin respond setup.settings.analysisTimeout addresses := by
  unfold Analyzer.prefetchThrough at idle ⊢
  unfold failuresThrough
  cases obstacle : obstacle known origin with
  | some failure => rw [ready.resolve_error obstacle]
  | none =>
    obtain ⟨name, source, cache, resolved, visited, reliable, consistent⟩ := ready.reach obstacle
    rw [resolved] at idle ⊢
    simp only at idle ⊢
    split
    · rename_i empty
      rw [List.isEmpty_iff.mp empty]
      rfl
    · rename_i some
      rw [if_neg some] at idle
      have ended (back : held) :
          (analyzer.firstRound name source course addresses).cache.flights = [] := by
        rw [← cacheOf_leave ((analyzer.visit name source).2.passes course) name]
        exact idle back name (resolve_name resolved)
      unfold firstRound at ended ⊢
      rw [visited] at ended ⊢
      rw [reliable.batchResult consistent fair room _ ended]
      show (List.map _ _).filterMap _ = _
      rw [List.filterMap_map]
      rfl

/-- **The second round** has for each address that asks what the address makes of it. -/
theorem Ready.fetchedEach (room : Traffic.slots setup.settings.batchConcurrency ≠ some 0)
    (addresses : List Value) (asks : Value → Bool)
    (idle : held → Idle origin (analyzer.fetchEachThrough course origin addresses asks).2) :
    (analyzer.fetchEachThrough course origin addresses asks).1 = addresses.map fun address =>
      if asks address && (obstacle known origin).isNone then
        some (Steady.answerTo respond setup.settings.analysisTimeout address)
      else none := by
  unfold Analyzer.fetchEachThrough at idle ⊢
  cases obstacle : obstacle known origin with
  | some failure =>
    rw [ready.resolve_error obstacle]
    refine List.map_congr_left fun address _ => ?_
    rw [Option.isNone_some, Bool.and_false]
    rfl
  | none =>
    obtain ⟨name, source, cache, resolved, visited, reliable, consistent⟩ := ready.reach obstacle
    rw [resolved] at idle ⊢
    simp only [Option.isNone_none, Bool.and_true] at idle ⊢
    split
    · rename_i nobody
      refine List.map_congr_left fun address member => ?_
      rw [if_neg]
      intro asked
      rw [List.any_eq_true.mpr ⟨address, member, asked⟩] at nobody
      cases nobody
    · rename_i somebody
      rw [if_neg somebody] at idle
      let slots := Traffic.slots analyzer.setup.settings.batchConcurrency
      let requests := addresses.map fun address => if asks address then
        some (⟨address, some analyzer.setup.settings.analysisTimeout⟩ : Request) else none
      have usual : ∀ request ∈ requests, Usual (some setup.settings.analysisTimeout) request := by
        rw [← ready.setup]
        exact usual_stated _ addresses asks
      have room : slots ≠ some 0 := by
        unfold slots
        rw [ready.setup]
        exact room
      have ended (back : held) :
          ((((analyzer.visit name source).1.start slots requests).acts course).settle).cache.flights = [] := by
        rw [← cacheOf_leave ((analyzer.visit name source).2.passes course) name]
        exact idle back name (resolve_name resolved)
      show (((analyzer.visit name source).1.start slots requests).acts course).settle.outcomes 0 = _
      rw [visited] at ended ⊢
      rw [(reliable.outcomes consistent fair usual room ended).1, List.map_map]
      refine List.map_congr_left fun address _ => ?_
      show Option.map _ (if asks address then _ else none) = _
      split <;> rfl

end

/-! ### A node that keeps silent -/

/-- A node that has a code at every address but one, for which it keeps silent. -/
def quietNode : Replay where
  queues := [("0x1111111111111111111111111111111111111111", [.silent])]
  others := [.reply (.returned (.text "0x00"))]

/-- What the node responds. -/
def quietReply (address : String) : Option Reply :=
  if address = "0x1111111111111111111111111111111111111111" then none
  else some (.returned (.text "0x00"))

theorem quietNode_steady : Steady quietReply quietNode := by
  refine Replay.steady fun address => ?_
  unfold Replay.queue quietReply
  show (List.lookup address [(_, _)]).getD _ = _
  by_cases quiet : address = "0x1111111111111111111111111111111111111111"
  · rw [if_pos quiet, List.lookup_cons, quiet, beq_self_eq_true]
    rfl
  · rw [if_neg quiet, List.lookup_cons, beq_false_of_ne quiet]
    rfl

/-- The usual parts and that node. -/
def withQuietNode : Analyzer Replay Float where
  setup := { (usual .standard).setup with
    settings := { usualSettings with analysisTimeout := 10 }
    default := .source "node" }
  sources := [("node", quietNode)]
  now := 0

end ContractRisk.Analyzer
