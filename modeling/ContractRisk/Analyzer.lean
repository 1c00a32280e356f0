/-
**The analyzer**: sources of code, their caches, and the analyses that were made.

An analyzer answers a quick check, analyzes one address or many, and warms its caches. The code for
an address comes through the cache of its source (`Analyzer.fetch`). Many addresses are analyzed in
two rounds: first the code of every valid one is fetched in one batch, then each is analyzed on its
own, so that an address whose fetch failed is not fetched again. An analysis that came to no record is
made into one in the end (`Analyzer.extract`), unless its address cannot be written: then the whole
batch fails. `Tally` counts the records.
-/

import ContractRisk.Analysis.Pipeline
import ContractRisk.Cache.Batch
import ContractRisk.Cache.Shelf

namespace ContractRisk

open Scoring

/-- How many analyses were made and what became of them. -/
structure Tally where
  total : Nat := 0
  failed : Nat := 0
  degraded : Nat := 0
  fetchFailures : Nat := 0
deriving DecidableEq

/-- The counts after one more record. -/
def Tally.add {α : Type} (tally : Tally) (record : Analysis α) : Tally :=
  { tally with
    total := tally.total + 1
    failed := tally.failed + if record.verdict = .failed then 1 else 0
    degraded := tally.degraded +
      if record.verdict = .complete && !record.errors.isEmpty then 1 else 0 }

/-- An analyzer with the sources that it knows by name. -/
structure Analyzer (σ α : Type) where
  setup : Setup α
  sources : List (String × σ)
  shelf : Shelf String (Cache Number) := []
  now : Number
  tally : Tally := {}
  /-- The sources that were asked, each with the address. -/
  asked : List (String × String) := []

namespace Analyzer

variable {σ α : Type}

/-! ### Sources and caches -/

/-- The bounds that the settings put on a cache. -/
def limits (settings : Settings) : Cache.Limits Number where
  lifetime := settings.cacheLifetime
  size := settings.cacheSize
  concurrency := settings.batchConcurrency
  timeout := some settings.analysisTimeout

/-- A new cache. -/
def fresh (analyzer : Analyzer σ α) : Cache Number :=
  { limits := limits analyzer.setup.settings, now := analyzer.now }

/-- The source that an origin is, by name. -/
def resolve (analyzer : Analyzer σ α) (origin : Origin) : Except Failure (String × σ) := do
  let name ← origin.source?
  match analyzer.sources.lookup name with
  | some source => return (name, source)
  | none => throw (.refused .noSource)

/-- What goes on at the cache of a source, which is thereby the one used last. -/
def visit (analyzer : Analyzer σ α) (name : String) (source : σ) :
    Traffic σ Number × Analyzer σ α :=
  let (cache, shelf) := analyzer.shelf.use name analyzer.fresh
  ({ cache, source }, { analyzer with shelf })

/-- What is left when nothing goes on at the cache of a source any more. -/
def leave (analyzer : Analyzer σ α) (name : String) (traffic : Traffic σ Number) :
    Analyzer σ α :=
  { analyzer with
    shelf := analyzer.shelf.put name traffic.cache
    sources := (name, traffic.source) :: analyzer.sources.filter (·.1 ≠ name)
    asked := analyzer.asked ++ traffic.asked.map (name, ·) }

/-- The question to a cache for the code at an address. -/
def request (analyzer : Analyzer σ α) (address : Value) : Request :=
  ⟨address, some analyzer.setup.settings.analysisTimeout⟩

/-- The outcome of a fetch that nothing can move any further. -/
def stalled (analyzer : Analyzer σ α) (address : Value) : Outcome :=
  .error (.timedOut ((Address.normalize? address).getD "")
    (some analyzer.setup.settings.analysisTimeout))

section

variable [Source σ]

/-- The outcome of a fetch for the code at an address. -/
def fetch (analyzer : Analyzer σ α) (origin : Origin) (address : Value) :
    Outcome × Analyzer σ α :=
  match analyzer.resolve origin with
  | .error failure => (.error failure, analyzer)
  | .ok (name, source) =>
    let (traffic, analyzer) := analyzer.visit name source
    let (traffic, outcome) := traffic.fetch (analyzer.request address)
    (outcome.getD (analyzer.stalled address), analyzer.leave name traffic)

/-- What became of a batch of addresses at a source. -/
def fetchBatch (analyzer : Analyzer σ α) (name : String) (source : σ) (addresses : List Value) :
    BatchResult × Analyzer σ α :=
  let (traffic, analyzer) := analyzer.visit name source
  let (traffic, result) := traffic.fetchBatch addresses
  (result.getD ⟨[], []⟩, analyzer.leave name traffic)

/-- The cache of a source is warmed for a collection of addresses. -/
def preload (analyzer : Analyzer σ α) (addresses : Value) (origin : Origin) :
    Except Failure BatchResult × Analyzer σ α :=
  let origin := analyzer.setup.originFor origin
  if !origin.isGiven then (.error (.refused .noSource), analyzer)
  else match analyzer.resolve origin with
    | .error failure => (.error failure, analyzer)
    | .ok (name, source) =>
      match distinctKeys addresses with
      | .error failure => (.error failure, (analyzer.visit name source).2)
      | .ok keys =>
        let (result, analyzer) := analyzer.fetchBatch name source keys
        (.ok result, analyzer)

end

/-- Time passes. -/
def advance (analyzer : Analyzer σ α) (span : Number) : Analyzer σ α :=
  { analyzer with
    now := analyzer.now + span
    shelf := analyzer.shelf.map fun (name, cache) => (name, cache.advance span) }

/-- All entries of all caches are dropped. -/
def clear (analyzer : Analyzer σ α) : Analyzer σ α :=
  { analyzer with shelf := analyzer.shelf.map fun (name, cache) => (name, cache.clear) }

/-! ### Analyses -/

/-- A record is counted. -/
def count (analyzer : Analyzer σ α) (record : Analysis α) : Analyzer σ α :=
  { analyzer with tally := analyzer.tally.add record }

/-- The record of an analysis is counted, if it came to one. -/
def countIf (analyzer : Analyzer σ α) : Except Failure (Analysis α) → Analyzer σ α
  | .ok record => analyzer.count record
  | .error _ => analyzer

variable [Source σ] [Add α] [Sub α] [Mul α] [Div α] [LT α] [LE α] [DecidableLT α]
  [DecidableLE α] [OfScientific α] [NatCast α] [Decimal.Rendered α]

/-- The record for an address. -/
def analyze (analyzer : Analyzer σ α) (question : Question) :
    Except Failure (Analysis α) × Analyzer σ α :=
  match analyzer.setup.faults.analysis with
  | some outage => (.error outage, analyzer)
  | none =>
    let origin := analyzer.setup.originFor question.origin
    let (fetched, analyzer) :=
      if origin.isGiven && analyzer.setup.asksForCode question.address then
        let (outcome, analyzer) := analyzer.fetch origin question.address
        (some outcome, analyzer)
      else (none, analyzer)
    let ending := analyzer.setup.analysis question fetched
    (ending, analyzer.countIf ending)

/-! ### Analyses of many addresses -/

/-- The first round: the code of every valid address is fetched, and the failures are kept. -/
def prefetch (analyzer : Analyzer σ α) (addresses : List Value) (origin : Origin) :
    List (Value × Failure) × Analyzer σ α :=
  let valid := addresses.filter fun address => (Address.normalize? address).isSome
  match analyzer.resolve origin with
  | .error _ => ([], analyzer)
  | .ok (name, source) =>
    if valid.isEmpty then ([], analyzer)
    else
      let (result, analyzer) := analyzer.fetchBatch name source valid
      (result.failures, { analyzer with
        tally := { analyzer.tally with
          fetchFailures := analyzer.tally.fetchFailures + result.failures.length } })

/-- The failure that is filed under an address. -/
def failureFor (failures : List (Value × Failure)) (address : Value) : Option Failure :=
  (failures.find? (·.1.same address)).map (·.2)

/-- The interface that is filed under an address as it is given or else in lower case. -/
def abiFor (abis address : Value) : Value :=
  match address with
  | .text text =>
    match abis.field? text with
    | none | some .null => (abis.field? (Text.lower text)).getD .null
    | some abi => abi
  | _ => .null

/-- The second round: the outcomes of the fetches for the addresses that ask for their code, as many
at a time as the settings allow. -/
def fetchEach (analyzer : Analyzer σ α) (origin : Origin) (addresses : List Value)
    (asks : Value → Bool) : List (Option Outcome) × Analyzer σ α :=
  match analyzer.resolve origin with
  | .error _ => (addresses.map fun _ => none, analyzer)
  | .ok (name, source) =>
    if !addresses.any asks then (addresses.map fun _ => none, analyzer)
    else
      let (traffic, analyzer) := analyzer.visit name source
      let settled := (traffic.start (Traffic.slots analyzer.setup.settings.batchConcurrency)
        (addresses.map fun address =>
          if asks address then some (analyzer.request address) else none)).settle
      (settled.outcomes traffic.batches.length, analyzer.leave name settled)

/-- What an analysis of the second round goes by: the failure of the first round, or what has been
fetched since. -/
def outcomeFor (analyzer : Analyzer σ α) (origin : Origin) (failures : List (Value × Failure))
    (address : Value) (fetched : Option Outcome) : Option Outcome :=
  if !origin.isGiven then none
  else match failureFor failures address, analyzer.resolve origin with
    | some failure, _ => some (.error failure)
    | none, .error failure => some (.error failure)
    | none, .ok _ => some (fetched.getD (analyzer.stalled address))

/-- What the analysis of an address of a batch comes to. -/
def ending (analyzer : Analyzer σ α) (question : Question) (outcome : Option Outcome) :
    Except Failure (Analysis α) :=
  match analyzer.setup.faults.analysis with
  | some outage => .error outage
  | none => analyzer.setup.analysis question outcome

/-- The records of a batch. An analysis that came to none is given one, which is counted, and the first
address that cannot be written ends them all. -/
def extract (analyzer : Analyzer σ α) : List (Value × Except Failure (Analysis α)) →
    Except Failure (List (Value × Analysis α)) × Analyzer σ α
  | [] => (.ok [], analyzer)
  | (address, .ok record) :: rest =>
    let (records, analyzer) := analyzer.extract rest
    (records.map ((address, record) :: ·), analyzer)
  | (address, .error failure) :: rest =>
    match analyzer.setup.shown address with
    | .error unwritable => (.error unwritable, analyzer)
    | .ok shown =>
      let record := analyzer.setup.brokenOff shown .null failure {}
      let (records, analyzer) := (analyzer.count record).extract rest
      (records.map ((address, record) :: ·), analyzer)

/-- The records for a collection of addresses, each once and under the address as it is given. -/
def analyzeBatch (analyzer : Analyzer σ α) (addresses abis : Value) (given : Origin) :
    Except Failure (List (Value × Analysis α)) × Analyzer σ α :=
  match distinctKeys addresses with
  | .error failure => (.error failure, analyzer)
  | .ok keys =>
    let origin := analyzer.setup.originFor given
    let (failures, analyzer) := analyzer.prefetch keys origin
    let asks (address : Value) : Bool :=
      analyzer.setup.asksForCode address && (failureFor failures address).isNone
    let (fetched, analyzer) := analyzer.fetchEach origin keys asks
    let endings := (keys.zip fetched).map fun (address, outcome) =>
      let question : Question := { address, abi := abiFor abis address, origin := given }
      (address, analyzer.ending question (analyzer.outcomeFor origin failures address outcome))
    (endings.foldl (fun analyzer (_, ending) => analyzer.countIf ending) analyzer).extract endings

end Analyzer

end ContractRisk
