/-
**The parts of an analyzer.**

A `Setup` holds the settings and the parts that an analysis uses: the list of threats, the proxy
templates, the configuration of the score and the detectors. Each part can be out of order
(`Faults`), and then fails whenever it is used. How deep a value may be nested depends on where the
analyzer is called from (`Room`).
-/

import ContractRisk.Analysis.Record
import ContractRisk.Scoring.Aggregate
import ContractRisk.Settings
import ContractRisk.ThreatList

namespace ContractRisk

open Scoring

/-- What a part that is out of order ends in. -/
abbrev Outage := { failure : Failure // failure.isOrdinary = true }

/-- The parts that are out of order, each with the failure that it ends in. -/
structure Faults where
  registry : Option Outage := none
  classifier : Option Outage := none
  detectors : Option Outage := none
  detector : List (Category × Outage) := []
  aggregator : Option Outage := none
  warnings : Option Outage := none
  pipeline : Option Outage := none
  analysis : Option Outage := none

/-- A part that is out of order fails, any other gives its result. -/
def Faults.guard {β : Type} (fault : Option Outage) (result : Except Failure β) :
    Except Failure β :=
  match fault with
  | some outage => .error outage
  | none => result

/-- How many brackets can stand inside one another. -/
structure Room where
  /-- In the text of an interface that is read. -/
  reading : Nat
  /-- In an address that is written. -/
  writing : Nat

/-- What an analysis uses. Detectors stand under the category for which they are asked. -/
structure Setup (α : Type) where
  settings : Settings
  threats : ThreatList
  templates : List Proxy.Template
  config : Config α
  detectors : List (Category × Category)
  default : Origin
  faults : Faults
  room : Room

/-- The detectors, each under its own category. -/
def standardDetectors : List (Category × Category) := Category.all.map fun c => (c, c)

namespace Setup

variable {α : Type}

/-- The threats that count: those given, or those known from the start and those of the settings if
none are. -/
def threatsFor (settings : Settings) (given : Option ThreatList) : Except Failure ThreatList :=
  match given with
  | some ⟨address :: rest⟩ => .ok ⟨address :: rest⟩
  | _ => ThreatList.withExtras (settings.extraAddresses.map .text)

/-- The origin of code without another one: the one given, or the node of the settings. -/
def defaultFor (settings : Settings) (given : Origin) : Origin :=
  match settings.nodeUrl with
  | some url => given.orElse (.node url)
  | none => given

/-- The parts with settings that are usable. -/
def create (draft : Draft) (threats : Option ThreatList) (templates : List Proxy.Template)
    (config : Config α) (detectors : List (Category × Category)) (default : Origin)
    (faults : Faults) (room : Room) : Except Failure (Setup α) := do
  let settings ← draft.check
  let threats ← threatsFor settings threats
  let default := defaultFor settings default
  return { settings, threats, templates, config, detectors, default, faults, room }

/-- The advice that stands before every analysis. -/
def advice : String :=
  "This analysis is for educational and security research purposes only. " ++
    "Never interact with or send funds to analyzed contracts."

/-- Whether an address in normal form is listed. -/
def isListed (setup : Setup α) (address : String) : Except Failure Bool :=
  Faults.guard setup.faults.registry (.ok (setup.threats.isKnown (.text address)))

/-- What a code is. -/
def classify (setup : Setup α) (code : String) : Except Failure Proxy.Classification :=
  Faults.guard setup.faults.classifier (Proxy.classify setup.templates (.text code))

variable [Add α] [Mul α] [Div α] [LT α] [LE α] [DecidableLT α] [DecidableLE α] [OfScientific α]
  [NatCast α] [Decimal.Rendered α]

/-- What the detector under a category finds; a failure is one that finds nothing. -/
def probe (setup : Setup α) (entries : List Abi.Entry) (code : Value) (key category : Category) :
    Finding α :=
  match setup.faults.detector.lookup key with
  | some outage => .failed category outage
  | none => detectSafely category (.ofEntries entries) code

/-- What the detectors find. -/
def examine (setup : Setup α) (entries : List Abi.Entry) (code : Value) :
    Except Failure (Results α) :=
  Faults.guard (if setup.detectors.isEmpty then none else setup.faults.detectors)
    (.ok (setup.detectors.map fun (key, category) =>
      (key, setup.probe entries code key category)))

/-- The verdict on results, each of which must stand under its own category. -/
def aggregate [Sub α] (setup : Setup α) (results : Results α) (listed : Bool) :
    Except Failure (Assessment α) :=
  Faults.guard setup.faults.aggregator
    (Scoring.aggregate setup.config
      (results.map fun (key, finding) => (.known key, .finding finding)) listed)

/-- The warnings about results. -/
def warningsAbout (setup : Setup α) (results : Results α) (address : String) :
    Except Failure (List Warning) :=
  Faults.guard setup.faults.warnings (.ok (Scoring.warnings results (some address)))

end Setup

end ContractRisk
