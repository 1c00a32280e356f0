/-
**What each stage of an analysis leaves behind.**

A stage only adds to what is noted before it, and what it adds does not depend on that: `nameStage_eq`,
`threatStage_eq`, `codeStage_eq`, `abiStage_eq`, `patternStage_eq` and `aggregationStage_eq` say so,
each by `Progress.join`. The stages can therefore be looked at one by one, each as if it were alone,
and `stages_eq` puts together what all of them come to (`Setup.completed`). Only an interface that ends
the analysis keeps it from that.
-/

import ContractRisk.Analyzer
import ContractRisk.Proofs.Attempt

namespace ContractRisk

open Scoring

/-! ### Joining what is noted -/

namespace Progress

/-- Nothing is noted yet. -/
def empty : Progress := { stages := [] }

/-- What is noted first, and what is noted behind it. -/
def join (first second : Progress) : Progress where
  stages := first.stages ++ second.stages
  errors := first.errors ++ second.errors
  warnings := first.warnings ++ second.warnings
  vulnerabilities := first.vulnerabilities ++ second.vulnerabilities

section

variable (first second third : Progress)

@[simp] theorem join_empty : first.join empty = first := by
  simp [join, empty]

theorem join_assoc : (first.join second).join third = first.join (second.join third) := by
  simp [join]

@[simp] theorem join_reach (stage : Stage) :
    first.join (second.reach stage) = (first.join second).reach stage := by
  simp [join, reach]

@[simp] theorem join_fail (concern : Concern) (failure : Failure) :
    first.join (second.fail concern failure) = (first.join second).fail concern failure := by
  simp [join, fail]

@[simp] theorem join_note (line : String) :
    first.join (second.note line) = (first.join second).note line := by
  simp [join, note]

@[simp] theorem join_warn (warnings : List Warning) :
    first.join (second.warn warnings) = (first.join second).warn warnings := by
  simp [join, warn]

theorem foldl_note (lines : List String) :
    lines.foldl note first = { first with vulnerabilities := first.vulnerabilities ++ lines } := by
  induction lines generalizing first with
  | nil =>
    rw [List.append_nil]
    rfl
  | cons line rest ih =>
    rw [List.foldl_cons, ih]
    simp [note]

@[simp] theorem join_foldl_note (lines : List String) :
    first.join (lines.foldl note second) = lines.foldl note (first.join second) := by
  rw [foldl_note, foldl_note]
  simp [join]

end

end Progress

namespace Setup

variable {α : Type}

/-! ### One stage after the other -/

section

variable (setup : Setup α) (address : String) (progress : Progress)

theorem nameStage_eq (name : Value) :
    nameStage name progress = ((nameStage name .empty).1, progress.join (nameStage name .empty).2) := by
  unfold nameStage
  cases name with
  | null => simp
  | _ =>
    simp only
    split <;> simp

/-- The stage of the name notes a failure at most. -/
theorem nameStage_notes (name : Value) : (nameStage name .empty).2 =
    { stages := [], errors := (nameStage name .empty).2.errors } := by
  unfold nameStage
  cases name with
  | null => rfl
  | _ =>
    simp only
    split <;> rfl

theorem threatStage_eq :
    setup.threatStage address progress = ((setup.threatStage address .empty).1,
      progress.join (setup.threatStage address .empty).2) := by
  unfold threatStage
  split <;> simp

theorem codeStage_eq (fetched : Option Outcome) :
    setup.codeStage address fetched progress = ((setup.codeStage address fetched .empty).1,
      (setup.codeStage address fetched .empty).2.1,
      progress.join (setup.codeStage address fetched .empty).2.2) := by
  unfold codeStage
  split
  · simp
  · simp
  · simp only
    split <;> simp

theorem abiStage_eq (abi : Value) :
    setup.abiStage abi progress = (setup.abiStage abi .empty).map fun stage =>
      (stage.1, progress.join stage.2) := by
  unfold abiStage
  cases abi with
  | null => simp [Except.map]
  | _ =>
    simp only
    split
    · simp [Except.map]
    · split <;> simp [Except.map]

/-- The stage of the interface notes nothing, or one failure with its line. -/
theorem abiStage_notes {abi : Value} {entries : List Abi.Entry} {noted : Progress}
    (passed : setup.abiStage abi .empty = .ok (entries, noted)) :
    noted = .empty ∨ ∃ failure, noted = (Progress.empty.fail .abi failure).note
      s!"ABI analysis unavailable: {failure.message}" := by
  unfold abiStage at passed
  split at passed
  · cases passed
    exact .inl rfl
  · split at passed
    · cases passed
      exact .inl rfl
    · split at passed
      · cases passed
        exact .inr ⟨_, rfl⟩
      · cases passed

end

section

variable [Add α] [Mul α] [Div α] [LT α] [LE α] [DecidableLT α] [DecidableLE α] [OfScientific α]
  [NatCast α] [Decimal.Rendered α]
variable (setup : Setup α) (address : String) (progress : Progress)

theorem patternStage_eq (entries : List Abi.Entry) (code : Option String)
    (kind : Option Proxy.Classification) :
    setup.patternStage entries code kind progress =
      ((setup.patternStage entries code kind .empty).1,
        progress.join (setup.patternStage entries code kind .empty).2) := by
  unfold patternStage
  simp only
  split
  · simp
  · split <;> simp

variable [Sub α]

theorem verdictStage_eq (listed : Bool) (results : Results α) :
    setup.verdictStage address listed results progress =
      ((setup.verdictStage address listed results .empty).1,
        progress.join (setup.verdictStage address listed results .empty).2) := by
  unfold verdictStage
  split
  · simp
  · split <;> simp

theorem aggregationStage_eq (listed : Bool) (results : Option (Results α)) :
    setup.aggregationStage address listed results progress =
      ((setup.aggregationStage address listed results .empty).1,
        progress.join (setup.aggregationStage address listed results .empty).2) := by
  unfold aggregationStage
  split
  · simp
  · simp
  · rw [verdictStage_eq]
    simp

/-! ### All stages -/

/-- What is noted up to the interface: about the name, the list of threats and the code. -/
def notesBefore (setup : Setup α) (question : Question) (address : String)
    (fetched : Option Outcome) : Progress :=
  (nameStage question.name .empty).2.join ((setup.threatStage address .empty).2.join
    (setup.codeStage address fetched .empty).2.2)

/-- The results of an analysis with the entries of the interface. -/
def resultsOf (setup : Setup α) (address : String) (fetched : Option Outcome)
    (entries : List Abi.Entry) : Option (Results α) × Progress :=
  let code := setup.codeStage address fetched .empty
  setup.patternStage entries code.1 code.2.1 .empty

/-- The verdict of an analysis with the entries of the interface. -/
def verdictOf (setup : Setup α) (address : String) (fetched : Option Outcome)
    (entries : List Abi.Entry) : Option (Assessment α) × Progress :=
  setup.aggregationStage address (setup.threatStage address .empty).1
    (setup.resultsOf address fetched entries).1 .empty

/-- What is noted behind the interface: about the detectors and the verdict. -/
def notesAfter (setup : Setup α) (address : String) (fetched : Option Outcome)
    (entries : List Abi.Entry) : Progress :=
  (setup.resultsOf address fetched entries).2.join (setup.verdictOf address fetched entries).2

/-- The record of an analysis that came to its end, after `progress`. -/
def completed (setup : Setup α) (question : Question) (address : String)
    (fetched : Option Outcome) (entries : List Abi.Entry) (progress : Progress) : Analysis α where
  address := address
  name := (nameStage question.name .empty).1
  verdict := .complete
  vulnerabilities := progress.vulnerabilities
  level := match (setup.verdictOf address fetched entries).1 with
    | some assessment => assessment.level
    | none => if (setup.threatStage address .empty).1 then .critical else .low
  provider := setup.provider question.origin
  sourceConfigured := setup.sourceConfigured question.origin
  stages := progress.stages ++ [.complete]
  errors := progress.errors
  code := (setup.codeStage address fetched .empty).1
  classification := (setup.codeStage address fetched .empty).2.1
  results := (setup.resultsOf address fetched entries).1
  assessment := (setup.verdictOf address fetched entries).1
  warnings := progress.warnings

/-- **The stages come to an end unless the interface ends them.** -/
theorem stages_eq (question : Question) (fetched : Option Outcome) :
    setup.stages question address fetched progress =
      match setup.abiStage question.abi .empty with
      | .error failure =>
        .error (failure, progress.join (setup.notesBefore question address fetched))
      | .ok (entries, noted) =>
        .ok (setup.completed question address fetched entries
          (progress.join ((setup.notesBefore question address fetched).join
            (noted.join (setup.notesAfter address fetched entries))))) := by
  unfold stages
  -- each stage is cut off from the progress that it is given, in the order of the stages
  rw [nameStage_eq]
  simp only
  rw [threatStage_eq]
  simp only
  rw [codeStage_eq]
  simp only
  rw [abiStage_eq, Progress.join_assoc, Progress.join_assoc]
  cases setup.abiStage question.abi .empty with
  | error failure => rfl
  | ok stage =>
    simp only [Except.map]
    rw [patternStage_eq]
    simp only
    rw [aggregationStage_eq]
    simp only [notesBefore, notesAfter, Progress.join_assoc]
    rfl

/-! ### The record for a question -/

/-- The record for a malformed address, if the address can be written. -/
theorem analysis_malformed {question : Question} {fetched : Option Outcome}
    (malformed : Address.normalize? question.address = none) :
    setup.analysis question fetched = (setup.shown question.address).map fun shown =>
      setup.failedAnalysis shown question.name
        s!"Invalid contract address: {Refusal.address.message}" { warnings := setup.opening } := by
  unfold analysis
  rw [malformed]
  rfl

/-- What is noted when the stages begin. -/
def validated (setup : Setup α) : Progress :=
  ({ warnings := setup.opening } : Progress).reach .addressValidated

/-- The record for a well-formed address. -/
theorem analysis_wellFormed {question : Question} {address : String}
    (wellFormed : Address.normalize? question.address = some address) (fetched : Option Outcome) :
    setup.analysis question fetched =
      match setup.faults.pipeline, interruption? fetched with
      | some outage, _ => .ok (setup.brokenOff address question.name outage setup.validated)
      | none, some failure => .error failure
      | none, none =>
        match setup.stages question address fetched setup.validated with
        | .ok analysis => .ok analysis
        | .error (failure, progress) =>
          .ok (setup.brokenOff address question.name failure progress) := by
  unfold analysis
  rw [wellFormed]
  rfl

/-- **Why there is no record**: a malformed address cannot be written, or the fetch ended in a failure that
is no ordinary one. -/
inductive Unanswered (setup : Setup α) (question : Question) (fetched : Option Outcome) (failure : Failure) :
    Prop
  | unwritable (malformed : Address.normalize? question.address = none)
      (unwritten : setup.shown question.address = .error failure)
  | interrupted (wellFormed : (Address.normalize? question.address).isSome = true)
      (ended : fetched = some (.error failure)) (extraordinary : failure.isOrdinary = false)

theorem interruption?_eq_some {fetched : Option Outcome} {failure : Failure} :
    interruption? fetched = some failure ↔
      fetched = some (.error failure) ∧ failure.isOrdinary = false := by
  unfold interruption?
  split
  · rename_i other
    by_cases ordinary : other.isOrdinary = true
    · rw [if_pos ordinary]
      refine iff_of_false nofun ?_
      rintro ⟨same, extraordinary⟩
      cases same
      cases ordinary.symm.trans extraordinary
    · rw [if_neg ordinary]
      constructor
      · intro same
        cases same
        exact ⟨rfl, Bool.eq_false_iff.mpr ordinary⟩
      · rintro ⟨same, _⟩
        cases same
        rfl
  · rename_i noFailure
    exact iff_of_false nofun fun same => noFailure failure same.1

/-- An analysis comes to no record for these two reasons only. -/
theorem analysis_error {question : Question} {fetched : Option Outcome} {failure : Failure}
    (ended : setup.analysis question fetched = .error failure) :
    setup.Unanswered question fetched failure := by
  cases wellFormed : Address.normalize? question.address with
  | none =>
    rw [setup.analysis_malformed wellFormed] at ended
    exact .unwritable wellFormed (Attempt.map_eq_error.mp ended)
  | some address =>
    rw [setup.analysis_wellFormed wellFormed] at ended
    split at ended
    · cases ended
    · rename_i interrupted
      cases ended
      obtain ⟨same, extraordinary⟩ := interruption?_eq_some.mp interrupted
      exact .interrupted (by rw [wellFormed]; rfl) same extraordinary
    · split at ended <;> cases ended

/-- **A record is completed, or it is one of an analysis that came to no end.** In the first case the
address is well-formed and the interface has passed, in the second the record is the one for a failure. -/
theorem analysis_cases {question : Question} {fetched : Option Outcome} {record : Analysis α}
    (given : setup.analysis question fetched = .ok record) :
    (∃ address entries noted, Address.normalize? question.address = some address ∧
        setup.abiStage question.abi .empty = .ok (entries, noted) ∧
        record = setup.completed question address fetched entries
          (setup.validated.join ((setup.notesBefore question address fetched).join
            (noted.join (setup.notesAfter address fetched entries))))) ∨
      ∃ address message progress,
        record = setup.failedAnalysis address question.name message progress := by
  cases wellFormed : Address.normalize? question.address with
  | none =>
    rw [setup.analysis_malformed wellFormed] at given
    obtain ⟨shown, _, rfl⟩ := Attempt.map_eq_ok.mp given
    exact .inr ⟨_, _, _, rfl⟩
  | some address =>
    rw [setup.analysis_wellFormed wellFormed] at given
    split at given
    · cases given
      exact .inr ⟨_, _, _, rfl⟩
    · cases given
    · rw [stages_eq] at given
      cases interface : setup.abiStage question.abi .empty with
      | error failure =>
        rw [interface] at given
        cases given
        exact .inr ⟨_, _, _, rfl⟩
      | ok stage =>
        obtain ⟨entries, noted⟩ := stage
        rw [interface] at given
        cases given
        exact .inl ⟨address, entries, noted, rfl, rfl, rfl⟩

end

end Setup

namespace Analyzer

variable {σ α : Type} [Source σ]

/-- What an analysis is given for the code at an address: nothing without a source. -/
def outcome (analyzer : Analyzer σ α) (question : Question) : Option Outcome :=
  let origin := analyzer.setup.originFor question.origin
  if origin.isGiven && analyzer.setup.asksForCode question.address then
    some (analyzer.fetch origin question.address).1
  else none

/-- A fetch leaves the parts of an analyzer as they are. -/
theorem fetch_setup (analyzer : Analyzer σ α) (origin : Origin) (address : Value) :
    (analyzer.fetch origin address).2.setup = analyzer.setup := by
  unfold fetch
  split <;> rfl

/-- **A question is answered by its analysis** unless that itself is out of order. -/
theorem analyze_eq [Add α] [Sub α] [Mul α] [Div α] [LT α] [LE α] [DecidableLT α] [DecidableLE α]
    [OfScientific α] [NatCast α] [Decimal.Rendered α] (analyzer : Analyzer σ α)
    (sound : analyzer.setup.faults.analysis = none) (question : Question) :
    (analyzer.analyze question).1 =
      analyzer.setup.analysis question (analyzer.outcome question) := by
  unfold analyze outcome
  rw [sound]
  by_cases asks : ((analyzer.setup.originFor question.origin).isGiven &&
      analyzer.setup.asksForCode question.address) = true
  · simp only [if_pos asks, fetch_setup]
  · simp only [if_neg asks]

/-! ### The usual parts -/

/-- The settings if nothing is set. -/
def usualSettings : Settings where
  appName := "scam-analyzer"
  appVersion := analysisVersion
  environment := "development"
  logLevel := "INFO"
  securityWarnings := true
  explicitConsent := true
  nodeUrl := none
  allowLocalNode := true
  analysisTimeout := .float 10.0
  cacheLifetime := 600
  cacheSize := 1000
  batchConcurrency := 5
  extraAddresses := []

/-- The room of a call that is not deep itself. -/
def usualRoom : Room := ⟨960, 960⟩

/-- An analyzer of the usual parts, with a list of threats and no source. -/
def usual (threats : ThreatList) : Analyzer Replay Float where
  setup := {
    settings := usualSettings
    threats := threats
    templates := Proxy.knownTemplates
    config := .standard
    detectors := standardDetectors
    default := .absent
    faults := {}
    room := usualRoom }
  sources := []
  now := 0

end Analyzer

end ContractRisk
