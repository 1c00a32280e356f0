/-
**Analyses that take their time.**

While a code is under way time passes, and replies that were held back come in any order: what an analyzer
does at the cache of a source goes through a course of deeds that ask for nothing (`Deed.passive`) before all
is at rest there. A single analysis, both rounds of a batch and the warming of a cache have such a course
(`analyzeThrough`, `analyzeBatchThrough`, `preloadThrough`); without deeds in it they are what they are
(`analyzeThrough_nil` and the like). Meanwhile time passes for the other caches too (`passes`).

* `Holds.through`: what holds of all caches holds still when one of them has been through a course;
* `cacheOf_leave`, `resolve_leave`: the cache that is left is the one that is found, and its source.
-/

import ContractRisk.Proofs.Analysis.History
import ContractRisk.Proofs.Cache.Deeds

namespace ContractRisk.Analyzer

variable {σ α : Type}

/-! ### Courses -/

/-- The cache of a source, a fresh one if it has none. -/
def cacheOf (analyzer : Analyzer σ α) (name : String) : Cache Number :=
  (analyzer.shelf.use name analyzer.fresh).1

/-- Time passes for all caches while deeds are done at one of them. -/
def passes (analyzer : Analyzer σ α) (course : List (Deed Number)) : Analyzer σ α :=
  course.foldl (fun analyzer deed => match deed with
    | .outOfTurn (.advance span) => analyzer.advance span
    | _ => analyzer) analyzer

section

variable [Source σ]

/-- A fetch for the code at an address, with deeds in its course. -/
def fetchThrough (analyzer : Analyzer σ α) (course : List (Deed Number)) (origin : Origin)
    (address : Value) : Outcome × Analyzer σ α :=
  match analyzer.resolve origin with
  | .error failure => (.error failure, analyzer)
  | .ok (name, source) =>
    let (traffic, analyzer) := analyzer.visit name source
    let settled := ((traffic.call (analyzer.request address)).acts course).settle
    ((settled.cache.answer? traffic.cache.calls.length).getD (analyzer.stalled address),
      (analyzer.passes course).leave name settled)

/-- What goes on at the cache of a source in the first round, in the course of which deeds are done. -/
def firstRound (analyzer : Analyzer σ α) (name : String) (source : σ) (course : List (Deed Number))
    (addresses : List Value) : Traffic σ Number :=
  let valid := addresses.filter fun address => (Address.normalize? address).isSome
  (((analyzer.visit name source).1.startBatch valid).acts course).settle

/-- The first round of a batch, with deeds in its course. -/
def prefetchThrough (analyzer : Analyzer σ α) (course : List (Deed Number)) (addresses : List Value)
    (origin : Origin) : List (Value × Failure) × Analyzer σ α :=
  let valid := addresses.filter fun address => (Address.normalize? address).isSome
  match analyzer.resolve origin with
  | .error _ => ([], analyzer)
  | .ok (name, source) =>
    if valid.isEmpty then ([], analyzer)
    else
      let settled := analyzer.firstRound name source course addresses
      let result := (settled.batchResult? 0).getD ⟨[], []⟩
      let analyzer := ((analyzer.visit name source).2.passes course).leave name settled
      (result.failures, { analyzer with
        tally := { analyzer.tally with
          fetchFailures := analyzer.tally.fetchFailures + result.failures.length } })

/-- The second round of a batch, with deeds in its course. -/
def fetchEachThrough (analyzer : Analyzer σ α) (course : List (Deed Number)) (origin : Origin)
    (addresses : List Value) (asks : Value → Bool) : List (Option Outcome) × Analyzer σ α :=
  match analyzer.resolve origin with
  | .error _ => (addresses.map fun _ => none, analyzer)
  | .ok (name, source) =>
    if !addresses.any asks then (addresses.map fun _ => none, analyzer)
    else
      let (traffic, analyzer) := analyzer.visit name source
      let settled := ((traffic.start (Traffic.slots analyzer.setup.settings.batchConcurrency)
        (addresses.map fun address =>
          if asks address then some (analyzer.request address) else none)).acts course).settle
      (settled.outcomes traffic.batches.length, (analyzer.passes course).leave name settled)

/-- The cache of a source is warmed for a collection of addresses, with deeds in the course of it. -/
def preloadThrough (analyzer : Analyzer σ α) (course : List (Deed Number)) (addresses : Value)
    (origin : Origin) : Except Failure BatchResult × Analyzer σ α :=
  let origin := analyzer.setup.originFor origin
  if !origin.isGiven then (.error (.refused .noSource), analyzer)
  else match analyzer.resolve origin with
    | .error failure => (.error failure, analyzer)
    | .ok (name, source) =>
      match distinctKeys addresses with
      | .error failure => (.error failure, (analyzer.visit name source).2)
      | .ok keys =>
        let (traffic, analyzer) := analyzer.visit name source
        let settled := ((traffic.startBatch keys).acts course).settle
        (.ok ((settled.batchResult? traffic.batches.length).getD ⟨[], []⟩),
          (analyzer.passes course).leave name settled)

/-- Without deeds in its course, the warming of a cache is what it is. -/
theorem preloadThrough_nil (analyzer : Analyzer σ α) (addresses : Value) (origin : Origin) :
    analyzer.preloadThrough [] addresses origin = analyzer.preload addresses origin := by
  rfl

variable [Add α] [Sub α] [Mul α] [Div α] [LT α] [LE α] [DecidableLT α]
  [DecidableLE α] [OfScientific α] [NatCast α] [Decimal.Rendered α]

/-- The record for an address, with deeds in the course of the fetch for its code. -/
def analyzeThrough (analyzer : Analyzer σ α) (course : List (Deed Number)) (question : Question) :
    Except Failure (Analysis α) × Analyzer σ α :=
  match analyzer.setup.faults.analysis with
  | some outage => (.error outage, analyzer)
  | none =>
    let origin := analyzer.setup.originFor question.origin
    let (fetched, analyzer) :=
      if origin.isGiven && analyzer.setup.asksForCode question.address then
        let (outcome, analyzer) := analyzer.fetchThrough course origin question.address
        (some outcome, analyzer)
      else (none, analyzer)
    let ending := analyzer.setup.analysis question fetched
    (ending, analyzer.countIf ending)

/-- Without deeds in its course, an analysis is what it is. -/
theorem analyzeThrough_nil (analyzer : Analyzer σ α) (question : Question) :
    analyzer.analyzeThrough [] question = analyzer.analyze question := by
  rfl

/-- The records for a collection of addresses, with deeds in the course of both rounds. -/
def analyzeBatchThrough (analyzer : Analyzer σ α) (first second : List (Deed Number))
    (addresses abis : Value) (given : Origin) :
    Except Failure (List (Value × Analysis α)) × Analyzer σ α :=
  match distinctKeys addresses with
  | .error failure => (.error failure, analyzer)
  | .ok keys =>
    let origin := analyzer.setup.originFor given
    let (failures, analyzer) := analyzer.prefetchThrough first keys origin
    let asks (address : Value) : Bool :=
      analyzer.setup.asksForCode address && (failureFor failures address).isNone
    let (fetched, analyzer) := analyzer.fetchEachThrough second origin keys asks
    let endings := (keys.zip fetched).map fun (address, outcome) =>
      let question : Question := { address, abi := abiFor abis address, origin := given }
      (address, analyzer.ending question (analyzer.outcomeFor origin failures address outcome))
    (endings.foldl (fun analyzer (_, ending) => analyzer.countIf ending) analyzer).extract endings

/-- Without deeds in its course, a batch is what it is. -/
theorem analyzeBatchThrough_nil (analyzer : Analyzer σ α) (addresses abis : Value) (given : Origin) :
    analyzer.analyzeBatchThrough [] [] addresses abis given =
      analyzer.analyzeBatch addresses abis given := by
  rfl

end

/-! ### The analyzer after a course -/

section

variable {origin : Origin} {name : String} {source : σ} {analyzer : Analyzer σ α}

theorem passes_frame (analyzer : Analyzer σ α) (course : List (Deed Number)) :
    (analyzer.passes course).setup = analyzer.setup ∧ (analyzer.passes course).asked = analyzer.asked := by
  induction course generalizing analyzer with
  | nil => exact ⟨rfl, rfl⟩
  | cons deed rest ih =>
    obtain ⟨setup, asked⟩ := ih ([deed].foldl (fun analyzer deed => match deed with
      | .outOfTurn (.advance span) => analyzer.advance span
      | _ => analyzer) analyzer)
    refine ⟨setup.trans ?_, asked.trans ?_⟩ <;>
    · cases deed with
      | outOfTurn event => cases event <;> rfl
      | _ => rfl

/-- A source that is found goes by the name of its origin. -/
theorem resolve_name (resolved : analyzer.resolve origin = .ok (name, source)) :
    origin.source? = .ok name := by
  obtain ⟨other, named, found⟩ := Attempt.bind_eq_ok.mp resolved
  split at found
  · cases found
    exact named
  · cases found

/-- An origin with a name has its source, if there is one of that name. -/
theorem resolve_named (analyzer : Analyzer σ α) (named : origin.source? = .ok name) :
    analyzer.resolve origin = match analyzer.sources.lookup name with
      | some source => .ok (name, source)
      | none => .error (.refused .noSource) := by
  unfold Analyzer.resolve
  rw [named]
  rfl

/-- **The cache that is left is the one that is found**, with the source behind it. -/
theorem cacheOf_leave (analyzer : Analyzer σ α) (name : String) (traffic : Traffic σ Number) :
    (analyzer.leave name traffic).cacheOf name = traffic.cache := by
  unfold cacheOf leave Shelf.use
  simp only
  rw [Shelf.lookup_put]

theorem resolve_leave (analyzer : Analyzer σ α) (named : origin.source? = .ok name)
    (traffic : Traffic σ Number) :
    (analyzer.leave name traffic).resolve origin = .ok (name, traffic.source) := by
  rw [resolve_named _ named]
  unfold leave
  simp only
  rw [List.lookup_cons_self]

/-! ### What holds of all caches -/

variable {setup : Setup α} {known : String → Bool} {held : String → Cache Number → Prop}
  {kind : String → σ → Prop} (stays : Stays setup.settings held)

include stays

theorem Holds.passes (holds : Holds setup known held kind analyzer) (course : List (Deed Number)) :
    Holds setup known held kind (analyzer.passes course) := by
  induction course generalizing analyzer with
  | nil => exact holds
  | cons deed rest ih =>
    refine ih ?_
    cases deed with
    | outOfTurn event =>
      cases event with
      | advance span => exact holds.advance stays span
      | _ => exact holds
    | _ => exact holds

/-- **A cache that has been through a course** leaves an analyzer as sound as before, if it is so itself. -/
theorem Holds.through (holds : Holds setup known held kind analyzer)
    (resolved : analyzer.resolve origin = .ok (name, source)) {course : List (Deed Number)}
    {settled : Traffic σ Number} (lasting : ∀ cache, (analyzer.visit name source).1 = { cache, source } →
      held name cache → kind name source → held name settled.cache ∧ kind name settled.source) :
    Holds setup known held kind (((analyzer.visit name source).2.passes course).leave name settled) := by
  obtain ⟨named, own⟩ := holds.resolve resolved
  obtain ⟨⟨cache, lawful, visited⟩, visiting⟩ := holds.visit stays name source
  obtain ⟨cache', source'⟩ := lasting cache visited lawful own
  exact (visiting.passes stays course).leave named cache' source'

end

end ContractRisk.Analyzer
