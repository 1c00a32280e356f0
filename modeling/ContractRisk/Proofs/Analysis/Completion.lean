/-
**Which analyses come to an end.**

An analysis with all parts in order can go wrong at the name, at the code and at the interface.
Whatever goes wrong at the first two, and an interface that is refused, is only noted
(`Setup.troubles`), one entry for each matter at most. An interface that breaks the reader is not
refused, and nothing but it ends an analysis of a well-formed address whose fetch did not end in a failure
outside of the ordinary ones:

* `abiStage_error`, `abiStage_ok`: the stage of the interface fails on the inputs of `Abi.Breaks` and
  on no others;
* `examine_sound`, `aggregationStage_sound`: the detectors file each finding under its own category, with
  a share as its confidence, and the verdict on such findings is never refused;
* `analyze_complete_iff`: hence the record is complete unless the interface breaks the reader, and
  a complete one notes exactly what went wrong.
-/

import ContractRisk.Proofs.Abi.Reading
import ContractRisk.Proofs.Analysis.Stages
import ContractRisk.Proofs.Share.Doubles

namespace ContractRisk

open Scoring

/-! ### What can go wrong -/

/-- The failure of an attempt on a value; there is none if no value is given. -/
def troubleWith {β : Type} (attempt : Value → Except Failure β) : Value → Option Failure
  | .null => none
  | value =>
    match attempt value with
    | .ok _ => none
    | .error failure => some failure

/-- The entry under which a failure is noted. -/
def entryFor (concern : Concern) (failure : Option Failure) : List (Concern × String) :=
  failure.toList.map fun failure => (concern, failure.message)

namespace Setup

variable {α : Type}

/-- What goes wrong with the code that was fetched. -/
def codeTrouble (setup : Setup α) : Option Outcome → List (Concern × String)
  | none => []
  | some (.error failure) => entryFor .bytecode (some failure)
  | some (.ok code) =>
    match Proxy.classify setup.templates (.text code) with
    | .ok _ => []
    | .error failure => entryFor .proxy (some failure)

/-- What goes wrong with the interface. -/
def abiTrouble (setup : Setup α) (abi : Value) : Option Failure :=
  troubleWith (fun abi => Abi.read (.value abi setup.room.reading)) abi

/-- **What goes wrong with name, code and interface**, in the order of the stages. -/
def troubles (setup : Setup α) (question : Question) (fetched : Option Outcome) :
    List (Concern × String) :=
  entryFor .contractName (troubleWith contractName question.name) ++
    (setup.codeTrouble fetched ++
      entryFor .abi (setup.abiTrouble question.abi))

/-! ### Name, list of threats, code -/

theorem nameStage_errors (name : Value) :
    (nameStage name .empty).2.errors = entryFor .contractName (troubleWith contractName name) := by
  unfold nameStage troubleWith
  cases name with
  | null => rfl
  | _ =>
    simp only
    split
    · rename_i accepted
      rw [accepted]
      rfl
    · rename_i refused
      rw [refused]
      rfl

section

variable {setup : Setup α} (sound : setup.faults = {})

include sound

theorem threatStage_errors (address : String) :
    (setup.threatStage address .empty).2.errors = [] := by
  unfold threatStage isListed
  rw [sound]
  split
  · rename_i failed
    cases failed
  · rfl
  · rfl

theorem codeStage_errors (address : String) (fetched : Option Outcome) :
    (setup.codeStage address fetched .empty).2.2.errors = setup.codeTrouble fetched := by
  unfold codeStage codeTrouble classify
  rw [sound]
  cases fetched with
  | none => rfl
  | some outcome =>
    cases outcome with
    | error failure => rfl
    | ok code =>
      simp only [Faults.guard]
      cases Proxy.classify setup.templates (.text code) <;> rfl

/-- What is noted up to the interface is about the name and the code. -/
theorem notesBefore_errors (question : Question) (address : String) (fetched : Option Outcome) :
    (setup.notesBefore question address fetched).errors =
      entryFor .contractName (troubleWith contractName question.name) ++ setup.codeTrouble fetched := by
  unfold notesBefore
  show _ ++ (_ ++ _) = _
  rw [nameStage_errors, threatStage_errors sound, codeStage_errors sound, List.nil_append]

end

/-! ### Interface -/

/-- An interface that is given is read, and a failure that is a refusal is noted. -/
theorem abiStage_given {abi : Value} (given : abi ≠ .null) (setup : Setup α) (progress : Progress) :
    setup.abiStage abi progress =
      match Abi.read (.value abi setup.room.reading) with
      | .ok entries => .ok (entries, progress)
      | .error failure =>
        if failure.isRefusal then
          .ok ([], (progress.fail .abi failure).note
            s!"ABI analysis unavailable: {failure.message}")
        else .error failure := by
  unfold abiStage
  cases abi with
  | null => exact absurd rfl given
  | _ => rfl

theorem troubleWith_given {β : Type} {attempt : Value → Except Failure β} {value : Value}
    (given : value ≠ .null) :
    troubleWith attempt value =
      match attempt value with
      | .ok _ => none
      | .error failure => some failure := by
  unfold troubleWith
  cases value with
  | null => exact absurd rfl given
  | _ => rfl

section

variable {setup : Setup α} {abi : Value}

/-- **Only an interface that breaks the reader ends the stages.** -/
theorem abiStage_error {progress : Progress} {failure : Failure}
    (ended : setup.abiStage abi progress = .error failure) : Abi.Breaks setup.room.reading abi := by
  have given : abi ≠ .null := by
    rintro rfl
    cases ended
  rw [abiStage_given given] at ended
  cases reading : Abi.read (.value abi setup.room.reading) with
  | ok entries =>
    rw [reading] at ended
    cases ended
  | error other =>
    refine Classical.byContradiction fun holds => ?_
    rw [reading] at ended
    simp only [if_pos ((Abi.read_error reading).mpr holds)] at ended
    cases ended

/-- An interface that does not break the reader has its failure noted, if there is one. -/
theorem abiStage_ok {entries : List Abi.Entry} {noted : Progress}
    (passed : setup.abiStage abi .empty = .ok (entries, noted)) :
    ¬ Abi.Breaks setup.room.reading abi ∧ noted.errors = entryFor .abi (setup.abiTrouble abi) := by
  by_cases given : abi = .null
  · subst given
    cases passed
    exact ⟨not_false, rfl⟩
  rw [abiStage_given given] at passed
  unfold abiTrouble
  rw [troubleWith_given given]
  cases reading : Abi.read (.value abi setup.room.reading) with
  | ok found =>
    rw [reading] at passed
    cases passed
    exact ⟨Abi.read_ok reading, rfl⟩
  | error failure =>
    rw [reading] at passed
    by_cases refused : failure.isRefusal = true
    · simp only [if_pos refused] at passed
      cases passed
      exact ⟨(Abi.read_error reading).mp refused, rfl⟩
    · simp only [if_neg refused] at passed
      cases passed

end

/-! ### Detectors and verdict -/

section

variable [Add α] [Mul α] [Div α] [LT α] [LE α] [DecidableLT α] [DecidableLE α] [OfScientific α]
  [NatCast α] [Decimal.Rendered α]

/-- A detector makes findings of its own category only. -/
theorem detectSafely_category (category : Category) (abi : Abi.Input) (code : Value) :
    (detectSafely category abi code : Finding α).category = category := by
  have concludes (inspection : Inspection α) : (inspection.conclude category).category = category := by
    cases inspection <;> rfl
  unfold detectSafely
  cases run : (detect category abi code : Except Failure (Finding α)) with
  | error failure => rfl
  | ok finding =>
    obtain ⟨entries, _, run⟩ := Attempt.bind_eq_ok.mp run
    obtain ⟨bytes, _, same⟩ := Attempt.bind_eq_ok.mp run
    cases same
    exact concludes _

/-- The finding under a category is one of its detector, or tells of the detector's failure. -/
theorem probe_category (setup : Setup α) (entries : List Abi.Entry) (code : Value)
    (key category : Category) : (setup.probe entries code key category).category = category := by
  unfold probe
  split
  · rfl
  · exact detectSafely_category _ _ _

/-- The usual detectors come to results for every category, in the order of reports. -/
theorem examine_usual {setup : Setup α} (sound : setup.faults = {})
    (usual : setup.detectors = standardDetectors) (entries : List Abi.Entry) (code : Value) :
    setup.examine entries code = .ok (Category.all.map fun category =>
      (category, detectSafely category (.ofEntries entries) code)) := by
  unfold examine probe
  rw [sound, usual]
  rfl

/-- **Findings that can be judged**: each stands under its own category, and its confidence is a share. -/
structure Judgeable (results : Results α) : Prop where
  filed : ∀ entry ∈ results, entry.2.category = entry.1
  shares : ∀ entry ∈ results, IsShare entry.2.confidence

/-- The finding under a category has a share as its confidence. -/
theorem probe_share [LawfulShares α] (setup : Setup α) (entries : List Abi.Entry) (code : Value)
    (key category : Category) : IsShare (setup.probe entries code key category).confidence := by
  unfold probe
  split
  · exact LawfulShares.zero
  · exact detectSafely_share _ _ _

/-- **What the detectors find can be judged.** -/
theorem examine_sound [LawfulShares α] {setup : Setup α} (usual : setup.detectors = standardDetectors)
    {entries : List Abi.Entry} {code : Value} {results : Results α}
    (found : setup.examine entries code = .ok results) : Judgeable results := by
  unfold examine Faults.guard at found
  split at found
  · cases found
  · cases found
    constructor <;> intro entry member <;> obtain ⟨⟨key, category⟩, listed, rfl⟩ := List.mem_map.mp member
    · rw [usual] at listed
      obtain ⟨same, _, pair⟩ := List.mem_map.mp listed
      cases pair
      exact probe_category _ _ _ _ _
    · exact probe_share _ _ _ _ _

theorem patternStage_judgeable [LawfulShares α] {setup : Setup α} (usual : setup.detectors = standardDetectors)
    {entries : List Abi.Entry} {code : Option String} {kind : Option Proxy.Classification}
    {results : Results α}
    (found : (setup.patternStage entries code kind .empty).1 = some results) : Judgeable results := by
  unfold patternStage at found
  simp only at found
  split at found
  · cases found
  · split at found
    · rename_i examined
      cases found
      exact examine_sound usual examined
    · cases found

section

variable {setup : Setup α} (sound : setup.faults = {})

include sound

theorem patternStage_errors (entries : List Abi.Entry) (code : Option String)
    (kind : Option Proxy.Classification) :
    (setup.patternStage entries code kind .empty).2.errors = [] := by
  unfold patternStage examine
  rw [sound]
  simp only [Faults.guard, ite_self]
  split <;> rfl

variable [Sub α] [LawfulShares α]

/-- **The verdict on findings that can be judged is not refused.** -/
theorem verdictStage_sound (address : String) (listed : Bool) {results : Results α}
    (nonempty : results ≠ []) (judgeable : Judgeable results) (progress : Progress) :
    setup.verdictStage address listed results progress =
      (some (assess setup.config results listed),
        (progress.warn (Scoring.warnings results (some address))).reach .aggregated) := by
  have judged : setup.aggregate results listed = .ok (assess setup.config results listed) := by
    unfold aggregate
    rw [sound, Faults.guard, aggregate_of_check, assess_checked judgeable.shares]
    rw [List.map_map]
    exact Results.check_given nonempty judgeable.filed
  have warned : setup.warningsAbout results address =
      .ok (Scoring.warnings results (some address)) := by
    unfold warningsAbout
    rw [sound]
    rfl
  unfold verdictStage
  rw [judged, warned]

/-- **Findings that can be judged are judged**, and behind the verdict each of them has its warning and its
line. -/
theorem aggregationStage_sound (address : String) (listed : Bool) {results : Results α}
    (nonempty : results ≠ []) (judgeable : Judgeable results) :
    setup.aggregationStage address listed (some results) .empty =
      (some (assess setup.config results listed),
        { stages := [.aggregated]
          warnings := Scoring.warnings results (some address)
          vulnerabilities := findingLines results }) := by
  obtain ⟨entry, others, rfl⟩ := List.exists_cons_of_ne_nil nonempty
  unfold aggregationStage
  simp only
  rw [verdictStage_sound sound address listed nonempty judgeable]
  simp only [Progress.foldl_note]
  rfl

theorem aggregationStage_errors (address : String) (listed : Bool) {results : Option (Results α)}
    (judgeable : ∀ found, results = some found → Judgeable found) :
    (setup.aggregationStage address listed results .empty).2.errors = [] := by
  cases results with
  | none => rfl
  | some results =>
    by_cases nonempty : results = []
    · rw [nonempty]
      rfl
    · rw [aggregationStage_sound sound address listed nonempty (judgeable results rfl)]

/-! ### The record -/

/-- What is noted behind the interface has no failure in it. -/
theorem notesAfter_errors (usual : setup.detectors = standardDetectors) (address : String)
    (fetched : Option Outcome) (entries : List Abi.Entry) :
    (setup.notesAfter address fetched entries).errors = [] := by
  have results : (setup.resultsOf address fetched entries).2.errors = [] :=
    patternStage_errors sound _ _ _
  have verdict : (setup.verdictOf address fetched entries).2.errors = [] :=
    aggregationStage_errors sound address _ fun _ found => patternStage_judgeable usual found
  unfold notesAfter
  show _ ++ _ = _
  rw [results, verdict]
  rfl

/-- **The record for a well-formed address is complete unless the interface breaks the reader**, and
a complete record notes whatever went wrong and nothing else. -/
theorem analysis_complete_iff (usual : setup.detectors = standardDetectors) {question : Question}
    {address : String} (wellFormed : Address.normalize? question.address = some address)
    {fetched : Option Outcome} {record : Analysis α}
    (given : setup.analysis question fetched = .ok record) :
    (record.verdict = .complete ↔ ¬ Abi.Breaks setup.room.reading question.abi) ∧
      (record.verdict = .complete → record.errors = setup.troubles question fetched) := by
  have inOrder : setup.faults.pipeline = none := by rw [sound]
  rw [setup.analysis_wellFormed wellFormed, inOrder] at given
  split at given
  · rename_i outage broken
    cases broken
  · cases given
  rw [stages_eq] at given
  cases interface : setup.abiStage question.abi .empty with
  | error failure =>
    rw [interface] at given
    cases given
    refine ⟨iff_of_false nofun (not_not_intro (abiStage_error interface)), nofun⟩
  | ok stage =>
    obtain ⟨entries, noted⟩ := stage
    obtain ⟨holds, errors⟩ := abiStage_ok interface
    rw [interface] at given
    cases given
    refine ⟨iff_of_true rfl holds, fun _ => ?_⟩
    -- up to the interface, about the interface, behind it; the opening notes no failure
    show [] ++ (_ ++ (_ ++ _)) = _
    rw [notesBefore_errors sound, errors, notesAfter_errors sound usual, List.append_nil,
      List.nil_append, List.append_assoc]
    rfl

end

end

end Setup

namespace Analyzer

variable {σ α : Type} [Source σ] [Add α] [Sub α] [Mul α] [Div α] [LT α] [LE α] [DecidableLT α]
  [DecidableLE α] [OfScientific α] [NatCast α] [Decimal.Rendered α]

end Analyzer

end ContractRisk
