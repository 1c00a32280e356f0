/-
**What is said about a listed address.**

The quick check and the analysis ask the same list of threats in the same way. Only the stage of the
list speaks of a listing: whatever the other stages note is worded otherwise (`Progress.Silent`), so
that the first vulnerability and the warnings of a complete record tell a listed address from any other
(`completed_listed`, `completed_unlisted`). The verdict on a listed address is critical, whether an
assessment makes it or there is none: the score of an assessment is then one, and no accepted
configuration has a critical threshold above one (`assess_listed`).

* `analyze_listed`: quick check and analysis agree on malformed, listed and other addresses, and a
  complete record of a listed address is critical.
-/

import ContractRisk.Proofs.Address
import ContractRisk.Proofs.Analysis.Stages
import ContractRisk.Proofs.Scoring.Acceptance

namespace ContractRisk

open Scoring

/-! ### Wordings -/

/-- How a text begins. -/
def Begins (start text : String) : Prop := start.toList <+: text.toList

theorem begins_append (start rest : String) : Begins start (start ++ rest) := by
  unfold Begins
  rw [String.toList_append]
  exact List.prefix_append _ _

theorem Begins.append {start text : String} (begins : Begins start text) (rest : String) :
    Begins start (text ++ rest) := by
  unfold Begins
  rw [String.toList_append]
  exact begins.trans (List.prefix_append _ _)

/-- Texts that begin differently are different. -/
theorem Begins.ne {start start' text text' : String} (begins : Begins start text)
    (begins' : Begins start' text')
    (apart : ¬ start.toList <+: start'.toList ∧ ¬ start'.toList <+: start.toList) :
    text ≠ text' := by
  rintro rfl
  rcases List.prefix_or_prefix_of_prefix begins begins' with before | behind
  · exact apart.1 before
  · exact apart.2 behind

/-- The line about a listed address. -/
def listedLine : String := "Address is listed as a known malicious contract"

/-- How the message of a warning about a listed address begins. -/
def warningStart : String := "CRITICAL WARNING: This contract address ("

theorem warning_begins (address : String) :
    Begins warningStart (ThreatList.warning address).message :=
  ((begins_append warningStart address).append _).append _

/-- The warning about a finding begins with its category. -/
theorem findingWarning_begins {α : Type} (category : Category) (finding : Finding α)
    (address : Option String) :
    Begins (category.title ++ " pattern detected (")
      (Scoring.warning category finding address).message :=
  ((begins_append (category.title ++ " pattern detected (") finding.severity.name).append _).append _

theorem findingWarning_ne {α : Type} (category : Category) (finding : Finding α)
    (address : String) :
    Scoring.warning category finding (some address) ≠ ThreatList.warning address := by
  intro same
  refine (findingWarning_begins category finding (some address)).ne (warning_begins address) ?_
    (congrArg Warning.message same)
  cases category <;> decide

/-- The line about a finding begins with the word for its category. -/
theorem findingLine_ne (category : Category) (description : String) :
    s!"{category.name}: {description}" ≠ listedLine := by
  refine (begins_append (category.name ++ ": ") description).ne (List.prefix_refl _) ?_
  cases category <;> decide

/-- A line about a stage that has nothing to go by. -/
theorem codeLine_ne (message : String) :
    s!"Bytecode analysis unavailable: {message}" ≠ listedLine := by
  refine (begins_append "Bytecode analysis unavailable: " message).ne (List.prefix_refl _) ?_
  decide

theorem abiLine_ne (message : String) : s!"ABI analysis unavailable: {message}" ≠ listedLine := by
  refine (begins_append "ABI analysis unavailable: " message).ne (List.prefix_refl _) ?_
  decide

/-! ### Silence about a listing -/

namespace Progress

/-- **Nothing that is noted speaks of a listing of the address.** -/
structure Silent (address : String) (progress : Progress) : Prop where
  line : listedLine ∉ progress.vulnerabilities
  warning : ThreatList.warning address ∉ progress.warnings

section

variable {address : String} {first second : Progress}

theorem silent_empty : Silent address empty where
  line := List.not_mem_nil
  warning := List.not_mem_nil

theorem Silent.join (silent : first.Silent address) (silent' : second.Silent address) :
    (first.join second).Silent address where
  line := fun member => (List.mem_append.mp member).elim silent.line silent'.line
  warning := fun member => (List.mem_append.mp member).elim silent.warning silent'.warning

theorem Silent.reach (silent : first.Silent address) (stage : Stage) :
    (first.reach stage).Silent address :=
  ⟨silent.line, silent.warning⟩

theorem Silent.fail (silent : first.Silent address) (concern : Concern) (failure : Failure) :
    (first.fail concern failure).Silent address :=
  ⟨silent.line, silent.warning⟩

theorem Silent.note (silent : first.Silent address) {line : String} (other : line ≠ listedLine) :
    (first.note line).Silent address where
  line := by
    intro member
    rcases List.mem_append.mp member with before | last
    · exact silent.line before
    · exact other (List.mem_singleton.mp last).symm
  warning := silent.warning

theorem Silent.warn (silent : first.Silent address) {warnings : List Warning}
    (others : ThreatList.warning address ∉ warnings) : (first.warn warnings).Silent address where
  line := silent.line
  warning := fun member => (List.mem_append.mp member).elim silent.warning others

end

end Progress

namespace Setup

open Progress

variable {α : Type} (setup : Setup α) (address : String)

theorem validated_silent : setup.validated.Silent address where
  line := List.not_mem_nil
  warning := by
    unfold validated opening
    split
    · intro member
      have level : WarningLevel.critical = .info :=
        congrArg Warning.level (List.mem_singleton.mp member)
      cases level
    · exact List.not_mem_nil

theorem nameStage_silent (name : Value) : (nameStage name .empty).2.Silent address := by
  rw [nameStage_notes]
  exact ⟨List.not_mem_nil, List.not_mem_nil⟩

/-- The warnings about a code are no errors. -/
theorem codeWarnings_others (kind : Proxy.Classification) :
    ThreatList.warning address ∉ codeWarnings address kind := by
  have other {message : String} {about : Option String} :
      ThreatList.warning address ∉ [⟨.warning, message, about, none⟩] := by
    intro member
    have level : WarningLevel.critical = .warning :=
      congrArg Warning.level (List.mem_singleton.mp member)
    cases level
  unfold codeWarnings
  split
  · exact other
  · split
    · exact other
    · exact List.not_mem_nil

theorem codeStage_silent (fetched : Option Outcome) :
    (setup.codeStage address fetched .empty).2.2.Silent address := by
  unfold codeStage
  split
  · exact silent_empty
  · exact (silent_empty.fail _ _).note (codeLine_ne _)
  · simp only
    split
    · exact (silent_empty.reach _).fail _ _
    · exact ((silent_empty.reach _).reach _).warn (codeWarnings_others _ _)

theorem abiStage_silent {abi : Value} {entries : List Abi.Entry} {noted : Progress}
    (passed : setup.abiStage abi .empty = .ok (entries, noted)) : noted.Silent address := by
  rcases setup.abiStage_notes passed with rfl | ⟨failure, rfl⟩
  · exact silent_empty
  · exact (silent_empty.fail _ _).note (abiLine_ne _)

section

variable [Add α] [Mul α] [Div α] [LT α] [LE α] [DecidableLT α] [DecidableLE α] [OfScientific α]
  [NatCast α] [Decimal.Rendered α]

theorem patternStage_silent (entries : List Abi.Entry) (code : Option String)
    (kind : Option Proxy.Classification) :
    (setup.patternStage entries code kind .empty).2.Silent address := by
  unfold patternStage
  simp only
  split
  · exact silent_empty
  · split
    · exact silent_empty.reach _
    · exact silent_empty.fail _ _

variable [Sub α]

theorem verdictStage_silent (listed : Bool) (results : Results α) :
    (setup.verdictStage address listed results .empty).2.Silent address := by
  unfold verdictStage
  split
  · exact silent_empty.fail _ _
  · split
    · exact silent_empty.fail _ _
    · rename_i warnings given
      refine (silent_empty.warn ?_).reach _
      unfold warningsAbout Faults.guard at given
      split at given
      · cases given
      · cases given
        intro member
        obtain ⟨⟨category, finding⟩, _, same⟩ := List.mem_map.mp member
        exact findingWarning_ne category finding address same

theorem aggregationStage_silent (listed : Bool) (results : Option (Results α)) :
    (setup.aggregationStage address listed results .empty).2.Silent address := by
  unfold aggregationStage
  split
  · exact silent_empty
  · exact silent_empty
  · rename_i results _
    have verdict := setup.verdictStage_silent address listed results
    simp only [Progress.foldl_note]
    refine ⟨?_, verdict.warning⟩
    intro member
    rcases List.mem_append.mp member with before | line
    · exact verdict.line before
    · obtain ⟨⟨category, finding⟩, _, same⟩ := List.mem_map.mp line
      exact findingLine_ne category finding.description same

end

/-! ### The list of threats -/

section

variable {setup address} {given : Value}
  (wellFormed : Address.normalize? given = some address)
  (registry : setup.faults.registry = none)

include wellFormed registry

theorem isListed_eq : setup.isListed address = .ok (decide (address ∈ setup.threats.addresses)) := by
  unfold isListed
  rw [registry]
  show Except.ok _ = _
  congr 1
  rw [Bool.eq_iff_iff, setup.threats.isKnown_normalize? wellFormed, decide_eq_true_eq]

theorem threatStage_listed (listed : address ∈ setup.threats.addresses) :
    setup.threatStage address .empty =
      (true, ((Progress.empty.warn [ThreatList.warning address]).note listedLine).reach
        .threatChecked) := by
  unfold threatStage
  rw [isListed_eq wellFormed registry, decide_eq_true listed]
  rfl

theorem threatStage_unlisted (unlisted : address ∉ setup.threats.addresses) :
    setup.threatStage address .empty = (false, Progress.empty.reach .threatChecked) := by
  unfold threatStage
  rw [isListed_eq wellFormed registry, decide_eq_false unlisted]

/-- In the record of a listed address the line about it comes first. -/
theorem completed_listed (listed : address ∈ setup.threats.addresses) (question : Question)
    (fetched : Option Outcome) (rest : Progress) :
    let progress := setup.validated.join ((setup.notesBefore question address fetched).join rest)
    progress.vulnerabilities.head? = some listedLine ∧
      ThreatList.warning address ∈ progress.warnings := by
  have threat := threatStage_listed wellFormed registry listed
  constructor
  · -- the opening and the stage of the name note no vulnerability before the list of threats
    show (([] : List String) ++ ((_ ++ (_ ++ _)) ++ _)).head? = _
    rw [nameStage_notes, threat]
    rfl
  · refine List.mem_append_right _ (List.mem_append_left _ (List.mem_append_right _
      (List.mem_append_left _ ?_)))
    rw [threat]
    exact List.mem_singleton_self _

/-- **The quick check of a well-formed address asks the list of threats.** -/
theorem quickCheck_wellFormed : ∃ check, setup.quickCheck given = .ok check ∧
    check.isValid = true ∧ (check.isMalicious = true ↔ address ∈ setup.threats.addresses) := by
  unfold quickCheck
  rw [wellFormed]
  simp only
  rw [isListed_eq wellFormed registry]
  by_cases listed : address ∈ setup.threats.addresses
  · rw [decide_eq_true listed]
    exact ⟨_, rfl, rfl, iff_of_true rfl listed⟩
  · rw [decide_eq_false listed]
    exact ⟨_, rfl, rfl, iff_of_false Bool.false_ne_true listed⟩

end

/-! ### The verdict -/

section

variable [Add α] [Sub α] [Mul α] [Div α] [LT α] [LE α] [DecidableLT α] [DecidableLE α]
  [OfScientific α] [NatCast α] [Decimal.Rendered α]

/-- An assessment of a listed address has the score one, whatever the results are. -/
theorem assess_listed {config : Config α} (bounded : config.critical ≤ 1.0) (results : Results α) :
    (assess config results true).score = 1.0 ∧ (assess config results true).confidence = 1.0 ∧
      (assess config results true).level = .critical :=
  ⟨rfl, rfl, if_pos bounded⟩

/-- The assessment of an analysis is one of the aggregator. -/
theorem aggregationStage_assessment {setup : Setup α} {address : String} {listed : Bool}
    {results : Option (Results α)} {assessment : Assessment α}
    (made : (setup.aggregationStage address listed results .empty).1 = some assessment) :
    ∃ checked, assessment = assess setup.config checked listed := by
  unfold aggregationStage at made
  split at made
  · cases made
  · cases made
  · simp only at made
    unfold verdictStage at made
    split at made
    · cases made
    · rename_i verdict aggregated
      have same : verdict = assessment := by
        split at made <;> exact Option.some.inj made
      unfold aggregate Faults.guard at aggregated
      split at aggregated
      · cases aggregated
      · obtain ⟨checked, _, accepted⟩ := Attempt.bind_eq_ok.mp aggregated
        exact ⟨checked, same.symm.trans (Assessment.checked_eq accepted)⟩

/-! ### The record -/

/-- **What a complete record says of a listing**, and how it judges a listed address. -/
structure Reports (setup : Setup α) (address : String) (record : Analysis α) : Prop where
  line : record.vulnerabilities.head? = some listedLine ↔ address ∈ setup.threats.addresses
  warning : ThreatList.warning address ∈ record.warnings ↔ address ∈ setup.threats.addresses
  level : address ∈ setup.threats.addresses → record.level = .critical
  assessment : address ∈ setup.threats.addresses → ∀ assessment,
    record.assessment = some assessment →
      assessment.score = 1.0 ∧ assessment.confidence = 1.0 ∧ assessment.level = .critical

variable {setup : Setup α} {address : String} {question : Question}
  (wellFormed : Address.normalize? question.address = some address)
  (registry : setup.faults.registry = none)

include wellFormed registry

/-- The record of an address that is not listed is silent about a listing. -/
theorem completed_unlisted (unlisted : address ∉ setup.threats.addresses)
    (fetched : Option Outcome) (entries : List Abi.Entry) {noted : Progress}
    (silent : noted.Silent address) :
    (setup.validated.join ((setup.notesBefore question address fetched).join
      (noted.join (setup.notesAfter address fetched entries)))).Silent address := by
  have threat : (setup.threatStage address .empty).2.Silent address := by
    rw [threatStage_unlisted wellFormed registry unlisted]
    exact silent_empty.reach _
  have before := (nameStage_silent address question.name).join
    (threat.join (setup.codeStage_silent address fetched))
  have after : (setup.notesAfter address fetched entries).Silent address :=
    (setup.patternStage_silent address entries _ _).join
      (setup.aggregationStage_silent address _ _)
  exact (setup.validated_silent address).join (before.join (silent.join after))

/-- **A complete record reports a listing, and judges a listed address to be critical.** -/
theorem analysis_reports (bounded : setup.config.critical ≤ 1.0) {fetched : Option Outcome}
    {record : Analysis α} (given : setup.analysis question fetched = .ok record)
    (complete : record.verdict = .complete) : setup.Reports address record := by
  rcases setup.analysis_cases given with
    ⟨other, entries, noted, same, interface, rfl⟩ | ⟨other, message, progress, rfl⟩
  · cases wellFormed.symm.trans same
    by_cases listed : address ∈ setup.threats.addresses
    · have told := completed_listed wellFormed registry listed question fetched
        (noted.join (setup.notesAfter address fetched entries))
      have threat := threatStage_listed wellFormed registry listed
      have judged (assessment : Assessment α)
          (made : (setup.verdictOf address fetched entries).1 = some assessment) :
          assessment.score = 1.0 ∧ assessment.confidence = 1.0 ∧ assessment.level = .critical := by
        obtain ⟨checked, rfl⟩ := aggregationStage_assessment made
        rw [threat]
        exact assess_listed bounded checked
      refine ⟨iff_of_true told.1 listed, iff_of_true told.2 listed, fun _ => ?_, fun _ => judged⟩
      unfold Setup.completed
      simp only
      cases made : (setup.verdictOf address fetched entries).1 with
      | none => rw [threat]; rfl
      | some assessment => exact (judged assessment made).2.2
    · have silent := completed_unlisted wellFormed registry listed fetched entries
        (setup.abiStage_silent address interface)
      refine ⟨iff_of_false ?_ listed, iff_of_false silent.warning listed,
        fun member => absurd member listed, fun member => absurd member listed⟩
      intro first
      exact silent.line (List.mem_of_mem_head? first)
  · cases complete

omit registry

/-- A well-formed address is validated, however the analysis ends. -/
theorem analysis_validated {fetched : Option Outcome} {record : Analysis α}
    (given : setup.analysis question fetched = .ok record) : .addressValidated ∈ record.stages := by
  have reached : Stage.addressValidated ∈ setup.validated.stages := by
    unfold validated
    exact List.mem_append_right _ (List.mem_singleton_self _)
  rw [setup.analysis_wellFormed wellFormed] at given
  split at given
  · cases given
    exact List.mem_append_left _ reached
  · cases given
  · rw [stages_eq] at given
    cases interface : setup.abiStage question.abi .empty with
    | error failure =>
      rw [interface] at given
      cases given
      exact List.mem_append_left _ (List.mem_append_left _ reached)
    | ok stage =>
      rw [interface] at given
      cases given
      exact List.mem_append_left _ (List.mem_append_left _ reached)

end

/-- **An analysis fails at the validation of the address**: its record has failed without that stage, or
there is no record, since the address cannot be written. -/
inductive FailsAtValidation (setup : Setup α) (address : Value) : Except Failure (Analysis α) → Prop
  | recorded {record : Analysis α} (failed : record.verdict = .failed)
      (unreached : .addressValidated ∉ record.stages) : FailsAtValidation setup address (.ok record)
  | unwritten {failure : Failure} (refused : setup.shown address = .error failure) :
      FailsAtValidation setup address (.error failure)

/-- A well-formed address can be written. -/
theorem shown_wellFormed (setup : Setup α) {given : Value} {address : String}
    (wellFormed : Address.normalize? given = some address) : ∃ shown, setup.shown given = .ok shown := by
  cases given with
  | text text => exact ⟨text, rfl⟩
  | _ => cases wellFormed

end Setup

namespace Analyzer

variable {σ : Type} [Source σ]

/-- **Quick check and analysis agree about every address.** For every list of threats, every accepted
configuration, every source and every question, whatever other parts are out of order: the quick check
finds the address malformed if and only if the analysis fails at its validation; it finds a well-formed
address listed if and only if the list has its normal form; and a complete record reports exactly
that, and is critical for a listed address. -/
theorem analyze_listed (analyzer : Analyzer σ Float)
    (registry : analyzer.setup.faults.registry = none)
    (analysis : analyzer.setup.faults.analysis = none)
    (accepted : analyzer.setup.config.Accepted) (question : Question) :
    ∃ check, analyzer.setup.quickCheck question.address = .ok check ∧
      (check.isValid = false ↔
        analyzer.setup.FailsAtValidation question.address (analyzer.analyze question).1) ∧
      ∀ address, Address.normalize? question.address = some address →
        (check.isMalicious = true ↔ address ∈ analyzer.setup.threats.addresses) ∧
        ∀ record, (analyzer.analyze question).1 = .ok record → record.verdict = .complete →
          analyzer.setup.Reports address record := by
  rw [analyzer.analyze_eq analysis question]
  cases wellFormed : Address.normalize? question.address with
  | none =>
    refine ⟨_, by unfold Setup.quickCheck; rw [wellFormed], iff_of_true rfl ?_, ?_⟩
    · have unreached : Stage.addressValidated ∉ [Stage.start, Stage.failed] := by decide
      rw [analyzer.setup.analysis_malformed wellFormed]
      cases shown : analyzer.setup.shown question.address with
      | ok text => exact .recorded rfl unreached
      | error failure => exact .unwritten shown
    · intro address same
      cases same
  | some address =>
    obtain ⟨check, checked, valid, malicious⟩ := Setup.quickCheck_wellFormed wellFormed registry
    refine ⟨check, checked, iff_of_false ?_ ?_, ?_⟩
    · rw [valid]
      decide
    · intro fails
      cases answer : analyzer.setup.analysis question (analyzer.outcome question) with
      | ok record =>
        rw [answer] at fails
        cases fails with
        | recorded failed unreached => exact unreached (Setup.analysis_validated wellFormed answer)
      | error failure =>
        rw [answer] at fails
        cases fails with
        | unwritten refused =>
          obtain ⟨text, shown⟩ := analyzer.setup.shown_wellFormed wellFormed
          cases shown.symm.trans refused
    · intro other same
      cases same
      exact ⟨malicious, fun record => Setup.analysis_reports wellFormed registry
        (Config.accepted_inRange accepted).critical.2⟩

/-- A listed address in capitals. -/
def listedQuestion : Question where
  address := .text "0xACBA164135904DC63C5418B57FF87EFD341D7C80"

theorem analyze_listed_standard :
    (usual .standard).setup.config.Accepted ∧
      ∃ check record, (usual .standard).setup.quickCheck listedQuestion.address = .ok check ∧
        ((usual .standard).analyze listedQuestion).1 = .ok record ∧
        check.isValid = true ∧ check.isMalicious = true ∧
        record.verdict = .complete ∧ record.level = .critical := by
  have normal : Address.normalize? listedQuestion.address =
      some "0xacba164135904dc63c5418b57ff87efd341d7c80" := by decide
  have listed : "0xacba164135904dc63c5418b57ff87efd341d7c80" ∈
      (usual .standard).setup.threats.addresses := List.mem_cons_self
  obtain ⟨check, checked, valid, reports⟩ :=
    analyze_listed (usual .standard) rfl rfl Config.standard_accepted listedQuestion
  obtain ⟨malicious, reports⟩ := reports _ normal
  obtain ⟨record, answered, complete⟩ : ∃ record,
      ((usual .standard).analyze listedQuestion).1 = .ok record ∧ record.verdict = .complete := by
    rw [(usual .standard).analyze_eq rfl listedQuestion, Setup.analysis_wellFormed _ normal]
    exact ⟨_, rfl, rfl⟩
  refine ⟨Config.standard_accepted, check, record, checked, answered, ?_, malicious.mpr listed,
    complete, (reports record answered complete).level listed⟩
  cases validity : check.isValid with
  | true => rfl
  | false =>
    have fails := valid.mp validity
    rw [answered] at fails
    cases fails with
    | recorded failed unreached =>
      rw [complete] at failed
      cases failed

end Analyzer

end ContractRisk
