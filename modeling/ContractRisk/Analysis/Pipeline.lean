/-
**From an address and its code to the record of an analysis.**

`Setup.analysis` is the record for an address, given the outcome of the fetch for its code. Only a
malformed address and a failure outside the stages end an analysis; a stage that fails leaves a note
in the `Progress`, and the next ones go on with what there is. There is no record at all if a malformed
address cannot be written, or if the fetch ended in a failure that is no ordinary one. Whether a fetch
is needed is `Setup.asksForCode`.
-/

import ContractRisk.Analysis.Setup
import ContractRisk.Cache
import ContractRisk.ContractName

namespace ContractRisk

open Scoring

/-- What an analysis has done so far. -/
structure Progress where
  stages : List Stage := [.start]
  errors : List (Concern × String) := []
  warnings : List Warning := []
  vulnerabilities : List String := []

namespace Progress

/-- A stage is reached. -/
def reach (progress : Progress) (stage : Stage) : Progress :=
  { progress with stages := progress.stages ++ [stage] }

/-- Something went wrong. -/
def fail (progress : Progress) (concern : Concern) (failure : Failure) : Progress :=
  { progress with errors := progress.errors ++ [(concern, failure.message)] }

/-- A vulnerability is noted. -/
def note (progress : Progress) (line : String) : Progress :=
  { progress with vulnerabilities := progress.vulnerabilities ++ [line] }

/-- Warnings are given. -/
def warn (progress : Progress) (warnings : List Warning) : Progress :=
  { progress with warnings := progress.warnings ++ warnings }

end Progress

/-- What is asked: an address, its interface, a name for it and where its code is asked for. -/
structure Question where
  address : Value
  abi : Value := .null
  name : Value := .null
  origin : Origin := .absent

namespace Setup

variable {α : Type}

/-! ### The frame of a record -/

/-- The warnings with which every analysis begins. -/
def opening (setup : Setup α) : List Warning :=
  if setup.settings.securityWarnings then [⟨.info, advice, none, none⟩] else []

/-- Where the code of an analysis comes from. -/
def provider (setup : Setup α) (origin : Origin) : Provider :=
  if origin.isGiven then .custom else if setup.default.isGiven then .default else .none

/-- Whether there is a source; an empty value that is given counts as none. -/
def sourceConfigured (setup : Setup α) (origin : Origin) : Bool :=
  origin.holds || setup.default.isGiven

/-- The record of an analysis that came to no end. -/
def failedAnalysis (setup : Setup α) (address : String) (name : Value) (message : String)
    (progress : Progress) : Analysis α where
  address
  name := match name with
    | .text text => some text
    | _ => none
  verdict := .failed
  vulnerabilities := [message]
  level := .medium
  provider := setup.provider .absent
  sourceConfigured := setup.sourceConfigured .absent
  stages := progress.stages ++ [.failed]
  errors := progress.errors
  code := none
  classification := none
  results := none
  assessment := none
  warnings := progress.warnings ++ [⟨.error, message, none, none⟩]

/-- The record of an analysis that something outside its stages ended. -/
def brokenOff (setup : Setup α) (address : String) (name : Value) (failure : Failure)
    (progress : Progress) : Analysis α :=
  setup.failedAnalysis address name s!"Analysis failed: {failure.message}" progress

/-- An address as it is shown, if it can be. -/
def shown (setup : Setup α) (address : Value) : Except Failure String :=
  if setup.room.writing < address.nesting then .error (.misuse .deepValue) else address.written

/-! ### Before the stages -/

/-- The origin of the code for a question. -/
def originFor (setup : Setup α) (origin : Origin) : Origin := origin.orElse setup.default

/-- Whether the stages of an analysis come to ask for the code at an address. -/
def asksForCode (setup : Setup α) (address : Value) : Bool :=
  (Address.normalize? address).isSome && setup.faults.pipeline.isNone &&
    setup.faults.analysis.isNone

/-- What can be said about an address at once. -/
def quickCheck (setup : Setup α) (address : Value) : Except Failure QuickCheck :=
  let opening := if setup.settings.securityWarnings then [advice] else []
  match Address.normalize? address with
  | none =>
    .ok ⟨false, false, .medium,
      opening ++ [s!"Invalid contract address: {Refusal.address.message}"]⟩
  | some address => do
    if ← setup.isListed address then
      return ⟨true, true, .critical, opening ++ [(ThreatList.warning address).message]⟩
    else
      return ⟨true, false, .low, opening⟩

/-! ### Stages -/

/-- The name to be shown. -/
def nameStage (name : Value) (progress : Progress) : Option String × Progress :=
  match name with
  | .null => (none, progress)
  | name =>
    match contractName name with
    | .ok text => (some (sanitize text), progress)
    | .error failure => (none, progress.fail .contractName failure)

/-- Whether the address is listed. -/
def threatStage (setup : Setup α) (address : String) (progress : Progress) : Bool × Progress :=
  match setup.isListed address with
  | .error failure => (false, progress.fail .threatCheck failure)
  | .ok false => (false, progress.reach .threatChecked)
  | .ok true =>
    (true, ((progress.warn [ThreatList.warning address]).note
      "Address is listed as a known malicious contract").reach .threatChecked)

/-- The warnings about what a code is. -/
def codeWarnings (address : String) (kind : Proxy.Classification) : List Warning :=
  if !kind.isContract then
    [⟨.warning, "Address has no deployed code (externally owned account)", some address, none⟩]
  else if kind.isProxy then
    let templates := ", ".intercalate kind.matched
    [⟨.warning, "Contract is a delegate-call proxy; behaviour depends on an " ++
      s!"implementation that may change ({templates})", some address, none⟩]
  else []

/-- The code and what it is, unless there is no source or a fetch failed. -/
def codeStage (setup : Setup α) (address : String) (fetched : Option Outcome)
    (progress : Progress) : Option String × Option Proxy.Classification × Progress :=
  match fetched with
  | none => (none, none, progress)
  | some (.error failure) =>
    (none, none, (progress.fail .bytecode failure).note
      s!"Bytecode analysis unavailable: {failure.message}")
  | some (.ok code) =>
    let progress := progress.reach .bytecodeFetched
    match setup.classify code with
    | .error failure => (some code, none, progress.fail .proxy failure)
    | .ok kind =>
      (some code, some kind, (progress.reach .proxyClassified).warn (codeWarnings address kind))

/-- The entries of the interface. One that is malformed is noted; one that cannot be decoded at all
ends the analysis. -/
def abiStage (setup : Setup α) (abi : Value) (progress : Progress) :
    Except Failure (List Abi.Entry × Progress) :=
  match abi with
  | .null => .ok ([], progress)
  | abi =>
    match Abi.read (.value abi setup.room.reading) with
    | .ok entries => .ok (entries, progress)
    | .error failure =>
      if failure.isRefusal then
        .ok ([], (progress.fail .abi failure).note
          s!"ABI analysis unavailable: {failure.message}")
      else .error failure

variable [Add α] [Mul α] [Div α] [LT α] [LE α] [DecidableLT α] [DecidableLE α] [OfScientific α]
  [NatCast α] [Decimal.Rendered α]

/-- What the detectors find, if there is an interface or a code. -/
def patternStage (setup : Setup α) (entries : List Abi.Entry) (code : Option String)
    (kind : Option Proxy.Classification) (progress : Progress) : Option (Results α) × Progress :=
  let hasCode := kind.any (·.isContract)
  if entries.isEmpty && !hasCode then (none, progress)
  else
    let given := if hasCode then (code.map Value.text).getD .null else .null
    match setup.examine entries given with
    | .ok results => (some results, progress.reach .patternsRun)
    | .error failure => (none, progress.fail .patterns failure)

/-- A line for each detected category. -/
def findingLines (results : Results α) : List String :=
  (results.filter (·.2.detected)).map fun (category, finding) =>
    s!"{category.name}: {finding.description}"

/-- The verdict on the results, if there are any. -/
def verdictStage [Sub α] (setup : Setup α) (address : String) (listed : Bool)
    (results : Results α) (progress : Progress) : Option (Assessment α) × Progress :=
  match setup.aggregate results listed with
  | .error failure => (none, progress.fail .aggregation failure)
  | .ok assessment =>
    match setup.warningsAbout results address with
    | .error failure => (some assessment, progress.fail .aggregation failure)
    | .ok warnings => (some assessment, (progress.warn warnings).reach .aggregated)

/-- The verdict on the results and the lines about them. -/
def aggregationStage [Sub α] (setup : Setup α) (address : String) (listed : Bool)
    (results : Option (Results α)) (progress : Progress) : Option (Assessment α) × Progress :=
  match results with
  | none | some [] => (none, progress)
  | some results =>
    let (assessment, progress) := setup.verdictStage address listed results progress
    (assessment, (findingLines results).foldl Progress.note progress)

/-! ### The whole -/

/-- The failure of a fetch, if it is no ordinary one: no stage deals with it. -/
def interruption? : Option Outcome → Option Failure
  | some (.error failure) => if failure.isOrdinary then none else some failure
  | _ => none

variable [Sub α]

/-- The stages after the validation of the address. A failure outside them comes with the progress
up to there. -/
def stages (setup : Setup α) (question : Question) (address : String) (fetched : Option Outcome)
    (progress : Progress) : Except (Failure × Progress) (Analysis α) :=
  let (name, progress) := nameStage question.name progress
  let (listed, progress) := setup.threatStage address progress
  let (code, kind, progress) := setup.codeStage address fetched progress
  match setup.abiStage question.abi progress with
  | .error failure => .error (failure, progress)
  | .ok (entries, progress) =>
    let (results, progress) := setup.patternStage entries code kind progress
    let (assessment, progress) := setup.aggregationStage address listed results progress
    .ok {
      address, name
      verdict := .complete
      vulnerabilities := progress.vulnerabilities
      level := match assessment with
        | some assessment => assessment.level
        | none => if listed then .critical else .low
      provider := setup.provider question.origin
      sourceConfigured := setup.sourceConfigured question.origin
      stages := progress.stages ++ [.complete]
      errors := progress.errors
      code, results, assessment
      classification := kind
      warnings := progress.warnings }

/-- The record for an address, given what was fetched for it; without a source nothing was. -/
def analysis (setup : Setup α) (question : Question) (fetched : Option Outcome) :
    Except Failure (Analysis α) :=
  let opened : Progress := { warnings := setup.opening }
  match Address.normalize? question.address with
  | none => do
    let shown ← setup.shown question.address
    return setup.failedAnalysis shown question.name
      s!"Invalid contract address: {Refusal.address.message}" opened
  | some address =>
    let progress := opened.reach .addressValidated
    match setup.faults.pipeline, interruption? fetched with
    | some outage, _ => .ok (setup.brokenOff address question.name outage progress)
    | none, some failure => .error failure
    | none, none =>
      match setup.stages question address fetched progress with
      | .ok analysis => .ok analysis
      | .error (failure, progress) =>
        .ok (setup.brokenOff address question.name failure progress)

end Setup

end ContractRisk
