/-
**What a record tells of its findings.**

A complete record speaks of a detected category in four places: among the vulnerabilities, among the
warnings, in the count of its assessment and in the scores of its assessment. Different stages write
these, and any of the stages may have had nothing to go by. All four nevertheless tell of the same
categories, those that are detected in the results, each once and in the order of reports (`Tells`);
besides them the vulnerabilities hold a line about a listing and one for code and interface each, if
their failures are noted, and nothing else.

* `resultsOf_cases`: results are there for each category in order, or not at all;
* `notesAfter_results`: whenever there are results they are judged, and the warnings and lines about
  them follow;
* `returned_tells`: every complete record that an analyzer returns tells of all its findings, whatever
  it is asked for and in whatever order.
-/

import ContractRisk.Proofs.Analysis.Coherence
import ContractRisk.Proofs.Analysis.Listed
import ContractRisk.Proofs.Analysis.Tallies
import ContractRisk.Proofs.Fraction

namespace ContractRisk

open Scoring

/-! ### What is told -/

variable {α : Type}

/-- The detected findings of a record; without results there are none. -/
def Analysis.found (record : Analysis α) : Results α :=
  (record.results.getD []).filter (·.2.detected)

theorem Analysis.found_eq {record : Analysis α}
    (complete : ∀ results, record.results = some results → results.map (·.1) = Category.all) :
    record.found = (record.results.getD []).detected := by
  unfold found Results.detected
  cases given : record.results with
  | none => rfl
  | some results => rw [Option.getD_some, Results.inOrder_eq (complete results given)]

namespace Setup

/-- The line about a matter that is noted, if it is noted. -/
def unavailable (label : String) (concern : Concern) (errors : List (Concern × String)) :
    List String :=
  (errors.lookup concern).toList.map fun message => s!"{label} analysis unavailable: {message}"

/-- The warnings of a record that tell of no finding: the advice, a listing, and what the code is. -/
def preliminary (setup : Setup α) (record : Analysis α) : List Warning :=
  setup.opening ++
    (if record.address ∈ setup.threats.addresses then [ThreatList.warning record.address] else []) ++
    record.classification.toList.flatMap (codeWarnings record.address)

/-- **A record that tells of its findings**, of each once and in order. -/
structure Tells (setup : Setup α) (record : Analysis α) : Prop where
  /-- Results are there for every category, in the order of reports. -/
  results : ∀ results, record.results = some results → results.map (·.1) = Category.all
  /-- Each matter is noted once at most. -/
  errors : (record.errors.map (·.1)).Nodup
  vulnerabilities : record.vulnerabilities =
    (if record.address ∈ setup.threats.addresses then [listedLine] else []) ++
      unavailable "Bytecode" .bytecode record.errors ++ unavailable "ABI" .abi record.errors ++
      record.found.map fun (category, finding) => s!"{category.name}: {finding.description}"
  warnings : ∃ derived, record.warnings = setup.preliminary record ++ derived ∧
    derived.map (·.category) = record.found.map fun entry => some entry.1
  /-- There is an assessment if and only if there are results. -/
  judged : record.assessment.isSome = record.results.isSome
  assessment : ∀ assessment, record.assessment = some assessment →
    assessment.detected = record.found.length ∧
      (assessment.breakdown.scores.filter (·.2.detected)).map (·.1) = record.found.map (·.1)

/-! ### What goes wrong, and its lines -/

section

variable {label : String} {concern : Concern} {first second : List (Concern × String)}

theorem lookup_other (other : concern ∉ first.map (·.1)) : first.lookup concern = none := by
  rw [List.lookup_eq_none_iff]
  intro entry member
  have apart : entry.1 ≠ concern := fun same => other (same ▸ List.mem_map_of_mem member)
  simpa using apart.symm

/-- What is noted about other matters makes no line. -/
theorem unavailable_append_right (other : concern ∉ first.map (·.1)) :
    unavailable label concern (first ++ second) = unavailable label concern second := by
  unfold unavailable
  rw [List.lookup_append, lookup_other other, Option.none_or]

theorem unavailable_append_left (other : concern ∉ second.map (·.1)) :
    unavailable label concern (first ++ second) = unavailable label concern first := by
  unfold unavailable
  rw [List.lookup_append, lookup_other other, Option.or_none]

end

/-- What goes wrong with the code is its fetch or its classification. -/
theorem codeTrouble_keys (setup : Setup α) (fetched : Option Outcome) :
    ∃ matter ∈ [Concern.bytecode, .proxy],
      ((setup.codeTrouble fetched).map (·.1)).Sublist [matter] := by
  cases fetched with
  | none => exact ⟨.bytecode, by decide, List.nil_sublist _⟩
  | some outcome =>
    cases outcome with
    | error failure => exact ⟨.bytecode, by decide, entryFor_keys _ _⟩
    | ok code =>
      refine ⟨.proxy, by decide, ?_⟩
      unfold codeTrouble
      simp only
      split
      · exact List.nil_sublist _
      · exact entryFor_keys _ _

/-- **Each matter is noted once at most**, and the lines about code and interface are those of their
own stages. -/
theorem troubles_lines (setup : Setup α) (question : Question) (fetched : Option Outcome) :
    ((setup.troubles question fetched).map (·.1)).Nodup ∧
      unavailable "Bytecode" .bytecode (setup.troubles question fetched) =
        unavailable "Bytecode" .bytecode (setup.codeTrouble fetched) ∧
      unavailable "ABI" .abi (setup.troubles question fetched) = unavailable "ABI" .abi
        (entryFor .abi (setup.abiTrouble question.abi)) := by
  obtain ⟨matter, among, code⟩ := setup.codeTrouble_keys fetched
  have name := entryFor_keys .contractName (troubleWith contractName question.name)
  have abi := entryFor_keys .abi (setup.abiTrouble question.abi)
  have outside {keys : List Concern} {own other : Concern} (inside : keys.Sublist [own])
      (apart : other ≠ own) : other ∉ keys :=
    fun member => apart (List.mem_singleton.mp (inside.subset member))
  have matters : matter ≠ .contractName ∧ matter ≠ .abi := by
    rcases List.mem_pair.mp among with rfl | rfl <;> decide
  unfold troubles
  refine ⟨?_, ?_, ?_⟩
  · rw [List.map_append, List.map_append]
    refine (name.append (code.append abi)).nodup ?_
    rcases List.mem_pair.mp among with rfl | rfl <;> decide
  · rw [unavailable_append_right (outside name (by decide)),
      unavailable_append_left (outside abi (by decide))]
  · rw [unavailable_append_right (outside name (by decide)),
      unavailable_append_right (outside code matters.2.symm)]

/-! ### Lines of the stages -/

/-- The stage of the interface tells of its failure, and warns of nothing. -/
theorem abiStage_lines {setup : Setup α} {abi : Value} {entries : List Abi.Entry} {noted : Progress}
    (passed : setup.abiStage abi .empty = .ok (entries, noted)) :
    noted.vulnerabilities = unavailable "ABI" .abi noted.errors ∧ noted.warnings = [] := by
  rcases setup.abiStage_notes passed with rfl | ⟨failure, rfl⟩ <;> exact ⟨rfl, rfl⟩

section

variable {setup : Setup α} (sound : setup.faults = {})

include sound

/-- The stage of the list of threats tells of a listing, and warns of it. -/
theorem threatStage_lines {given : Value} {address : String}
    (wellFormed : Address.normalize? given = some address) :
    (setup.threatStage address .empty).2.vulnerabilities =
        (if address ∈ setup.threats.addresses then [listedLine] else []) ∧
      (setup.threatStage address .empty).2.warnings =
        (if address ∈ setup.threats.addresses then [ThreatList.warning address] else []) := by
  have registry : setup.faults.registry = none := by rw [sound]
  by_cases listed : address ∈ setup.threats.addresses
  · rw [threatStage_listed wellFormed registry listed, if_pos listed, if_pos listed]
    exact ⟨rfl, rfl⟩
  · rw [threatStage_unlisted wellFormed registry listed, if_neg listed, if_neg listed]
    exact ⟨rfl, rfl⟩

/-- The stage of the code tells of a failed fetch, and warns of what the code is. -/
theorem codeStage_lines (address : String) (fetched : Option Outcome) :
    (setup.codeStage address fetched .empty).2.2.vulnerabilities =
        unavailable "Bytecode" .bytecode (setup.codeTrouble fetched) ∧
      (setup.codeStage address fetched .empty).2.2.warnings =
        (setup.codeStage address fetched .empty).2.1.toList.flatMap (codeWarnings address) := by
  cases fetched with
  | none => exact ⟨rfl, rfl⟩
  | some outcome =>
    cases outcome with
    | error failure => exact ⟨rfl, rfl⟩
    | ok code =>
      unfold codeStage codeTrouble classify
      rw [sound]
      simp only [Faults.guard]
      cases Proxy.classify setup.templates (.text code) with
      | error failure => exact ⟨rfl, rfl⟩
      | ok kind => exact ⟨rfl, (List.append_nil _).symm⟩

end

/-! ### Results and verdict -/

section

variable [Add α] [Mul α] [Div α] [LT α] [LE α] [DecidableLT α] [DecidableLE α] [OfScientific α]
  [NatCast α] [Decimal.Rendered α] {setup : Setup α} (sound : setup.faults = {})
  (usual : setup.detectors = standardDetectors) (address : String) (fetched : Option Outcome)
  (entries : List Abi.Entry)

include sound usual

/-- **Results are there for each category, or not at all**, and nothing is told of them yet. -/
theorem resultsOf_cases :
    setup.resultsOf address fetched entries = (none, .empty) ∨
      ∃ results, setup.resultsOf address fetched entries =
          (some results, Progress.empty.reach .patternsRun) ∧ results.map (·.1) = Category.all := by
  unfold resultsOf patternStage
  simp only
  split
  · exact .inl rfl
  · refine .inr ⟨_, by rw [examine_usual sound usual], ?_⟩
    rw [List.map_map]
    exact List.map_id _

variable [Sub α] [LawfulShares α]

/-- **What is noted behind the interface is about the results**, and so is the verdict. -/
theorem notesAfter_results :
    let results := (setup.resultsOf address fetched entries).1
    let verdict := (setup.verdictOf address fetched entries).1
    let noted := setup.notesAfter address fetched entries
    (∀ table, results = some table → table.map (·.1) = Category.all) ∧
      noted.vulnerabilities = findingLines (results.getD []) ∧
      noted.warnings = Scoring.warnings (results.getD []) (some address) ∧
      verdict.isSome = results.isSome ∧
      ∀ assessment, verdict = some assessment →
        ∃ listed, assessment = assess setup.config (results.getD []) listed := by
  intro results verdict after
  rcases resultsOf_cases sound usual address fetched entries with none | ⟨table, given, complete⟩
  · have unjudged : setup.verdictOf address fetched entries = (.none, .empty) := by
      unfold verdictOf
      rw [none]
      rfl
    simp only [results, verdict, after, notesAfter, none, unjudged]
    refine ⟨fun table same => ?_, rfl, rfl, rfl, fun assessment same => ?_⟩ <;> cases same
  · have nonempty : table ≠ [] := by
      rintro rfl
      cases complete
    have found : (setup.resultsOf address fetched entries).1 = some table := by rw [given]
    have judgeable : Judgeable table := patternStage_judgeable usual found
    simp only [results, verdict, after, notesAfter, verdictOf, given,
      aggregationStage_sound sound address _ nonempty judgeable]
    refine ⟨fun other same => ?_, rfl, rfl, rfl, fun assessment same => ?_⟩
    · cases same
      exact complete
    · cases same
      exact ⟨_, rfl⟩

/-- **An analysis that comes to its end tells of its findings.** -/
theorem completed_tells {question : Question} {noted progress : Progress}
    (wellFormed : Address.normalize? question.address = some address)
    (passed : setup.abiStage question.abi .empty = .ok (entries, noted))
    (reached : progress = setup.validated.join ((setup.notesBefore question address fetched).join
      (noted.join (setup.notesAfter address fetched entries))))
    (errors : progress.errors = setup.troubles question fetched) :
    Tells setup (setup.completed question address fetched entries progress) := by
  obtain ⟨once, code, abi⟩ := setup.troubles_lines question fetched
  obtain ⟨complete, lines, warned, judged, assessed⟩ :=
    notesAfter_results sound usual address fetched entries
  have nameLines : (nameStage question.name .empty).2.vulnerabilities = [] := by rw [nameStage_notes]
  have nameWarnings : (nameStage question.name .empty).2.warnings = [] := by rw [nameStage_notes]
  obtain ⟨listedLines, listedWarnings⟩ := threatStage_lines sound wellFormed
  obtain ⟨codeLines, codeWarned⟩ := codeStage_lines sound address fetched
  obtain ⟨abiLines, abiWarnings⟩ := abiStage_lines passed
  rw [(abiStage_ok passed).2] at abiLines
  rw [← errors] at once code abi
  let record := setup.completed question address fetched entries progress
  have found : record.found = _ := Analysis.found_eq complete
  have vulnerabilities : progress.vulnerabilities =
      (if address ∈ setup.threats.addresses then [listedLine] else []) ++
        unavailable "Bytecode" .bytecode progress.errors ++ unavailable "ABI" .abi progress.errors ++
        findingLines ((setup.resultsOf address fetched entries).1.getD []) := by
    rw [code, abi, ← listedLines, ← codeLines, ← abiLines, ← lines, reached]
    show [] ++ ((_ ++ (_ ++ _)) ++ (_ ++ _)) = _
    simp only [nameLines, List.nil_append, List.append_assoc]
  have preliminary : setup.preliminary record = setup.opening ++
      (setup.threatStage address .empty).2.warnings ++
      (setup.codeStage address fetched .empty).2.2.warnings := by
    rw [listedWarnings, codeWarned]
    rfl
  have warnings : progress.warnings = setup.preliminary record ++
      Scoring.warnings ((setup.resultsOf address fetched entries).1.getD []) (some address) := by
    rw [preliminary, ← warned, reached]
    show setup.opening ++ ((_ ++ (_ ++ _)) ++ (_ ++ _)) = _
    simp only [nameWarnings, abiWarnings, List.nil_append, List.append_assoc]
  refine ⟨complete, once, vulnerabilities, ⟨_, warnings, ?_⟩, judged, fun assessment same => ?_⟩
  · rw [found]
    unfold Scoring.warnings
    rw [List.map_map]
    rfl
  · obtain ⟨listed, rfl⟩ := assessed assessment same
    rw [found]
    refine ⟨rfl, ?_⟩
    show List.map _ (List.filter _ (List.map _ _)) = List.map _ (List.filter _ _)
    rw [List.filter_map, List.map_map]
    rfl

/-- **A complete record tells of its findings.** -/
theorem analysis_tells {question : Question} {record : Analysis α}
    (given : setup.analysis question fetched = .ok record) (finished : record.verdict = .complete) :
    Tells setup record := by
  rcases setup.analysis_cases given with
    ⟨address, entries, noted, wellFormed, passed, rfl⟩ | ⟨address, message, progress, rfl⟩
  · have errors := (analysis_complete_iff sound usual wellFormed given).2 finished
    exact completed_tells sound usual address fetched entries wellFormed passed rfl errors
  · cases finished

end

end Setup

/-! ### Records that are returned -/

namespace Analyzer

variable {σ : Type} [Add α] [Sub α] [Mul α] [Div α] [LT α] [LE α] [DecidableLT α] [DecidableLE α]
  [OfScientific α] [NatCast α] [Decimal.Rendered α] (analyzer : Analyzer σ α)

/-- An analysis of a batch is one by the parts of the analyzer. -/
theorem ending_eq (sound : analyzer.setup.faults.analysis = none) (question : Question)
    (fetched : Option Outcome) :
    analyzer.ending question fetched = analyzer.setup.analysis question fetched := by
  unfold ending
  rw [sound]

variable [Source σ]

/-- What the analyses of a batch come to, they come to by the parts that the batch began with. -/
theorem endings_analysis (sound : analyzer.setup.faults.analysis = none) (keys : List Value) (abis : Value)
    (given : Origin) : ∀ entry ∈ (analyzer.endings keys abis given).1, ∃ question fetched,
      entry.2 = analyzer.setup.analysis question fetched := by
  intro entry member
  have same := (analyzer.endings_frame keys abis given).1
  have later : (analyzer.endings keys abis given).2.setup.faults.analysis = none := same ▸ sound
  obtain ⟨pair, _, rfl⟩ := List.mem_map.mp member
  exact ⟨_, _, (ending_eq _ later _ _).trans (by rw [same])⟩

/-- **Every complete record that is returned is the one of an analysis**, of an address alone or in a
batch. -/
theorem returned_analysis (sound : analyzer.setup.faults.analysis = none) (errand : Errand) :
    ∀ record ∈ analyzer.returned errand, record.verdict = .complete → ∃ question fetched,
      analyzer.setup.analysis question fetched = .ok record := by
  intro record member complete
  match errand with
  | .quickCheck _ | .task (.preload _ _) | .task (.advance _) | .task .clear => cases member
  | .task (.analyze question) =>
    cases answered : (analyzer.analyze question).1 with
    | error failure =>
      simp only [returned, answered] at member
      cases member
    | ok answer =>
      simp only [returned, answered] at member
      cases List.mem_singleton.mp member
      exact ⟨question, _, (analyzer.analyze_eq sound question).symm.trans answered⟩
  | .task (.analyzeBatch addresses abis origin) =>
    cases answered : (analyzer.analyzeBatch addresses abis origin).1 with
    | error failure =>
      simp only [returned, answered] at member
      cases member
    | ok records =>
      simp only [returned, answered] at member
      cases keyed : distinctKeys addresses with
      | error failure =>
        rw [analyzer.analyzeBatch_unkeyed keyed] at answered
        cases answered
      | ok keys =>
        rw [analyzer.analyzeBatch_keyed keyed] at answered
        rcases List.mem_append.mp ((extract_perm answered).mem_iff.mp member) with first | last
        · obtain ⟨address, listed⟩ := mem_made first
          obtain ⟨question, fetched, same⟩ := analyzer.endings_analysis sound keys abis origin _ listed
          exact ⟨question, fetched, same.symm⟩
        · cases complete.symm.trans (remade_failed last)

/-- **No finding is lost or told twice.** Whatever an analyzer is asked for and in whatever order, each
complete record that it returns tells of all its findings, and of nothing else. -/
theorem returned_tells [LawfulShares α] (sound : analyzer.setup.faults = {})
    (usual : analyzer.setup.detectors = standardDetectors) (errands : List Errand) :
    ∀ record ∈ analyzer.allReturned errands, record.verdict = .complete →
      analyzer.setup.Tells record := by
  induction errands generalizing analyzer with
  | nil => exact fun _ member => nomatch member
  | cons errand rest ih =>
    intro record member complete
    rcases List.mem_append.mp member with now | later
    · obtain ⟨question, fetched, given⟩ :=
        analyzer.returned_analysis (by rw [sound]) errand record now complete
      exact Setup.analysis_tells sound usual fetched given complete
    · have same := analyzer.attend_setup errand
      rw [← same]
      exact ih (analyzer.attend errand) (same ▸ sound) (same ▸ usual) record later complete

/-- The usual parts over fractions, a silent node, and a list of one address. -/
def withSilentNode : Analyzer Replay Rat where
  setup := {
    settings := { usualSettings with analysisTimeout := 10 }
    threats := ⟨["0x1111111111111111111111111111111111111111"]⟩
    templates := Proxy.knownTemplates
    config := .standard
    detectors := standardDetectors
    default := .source "node"
    faults := {}
    room := usualRoom }
  sources := [("node", ⟨[], [.silent]⟩)]
  now := 0

/-- The listed address, with a transfer that is declared read-only. -/
def readOnlyTransfer : Question where
  address := .text "0x1111111111111111111111111111111111111111"
  abi := .list [.record [("type", .text "function"), ("name", .text "transfer"),
    ("inputs", .list []), ("outputs", .list []), ("stateMutability", .text "view")]]

theorem returned_tells_silent :
    withSilentNode.setup.faults = {} ∧ withSilentNode.setup.detectors = standardDetectors ∧
      ∃ record ∈ withSilentNode.allReturned [.task .clear, .task (.analyze readOnlyTransfer)],
        record.verdict = .complete ∧ withSilentNode.setup.Tells record ∧
        record.errors.map (·.1) = [.bytecode] ∧
        record.found.map (·.1) = [.fakeBalance, .nonFunctionalTransfer] ∧
        record.vulnerabilities.length = 4 := by
  obtain ⟨record, member, complete, listed, errors, found⟩ : ∃ record ∈ withSilentNode.allReturned
      [.task .clear, .task (.analyze readOnlyTransfer)], record.verdict = .complete ∧
        record.address ∈ withSilentNode.setup.threats.addresses ∧
        record.errors.map (·.1) = [.bytecode] ∧
        record.found.map (·.1) = [.fakeBalance, .nonFunctionalTransfer] :=
    ⟨_, List.mem_cons_self, rfl, List.mem_cons_self, by decide +kernel⟩
  have tells := returned_tells withSilentNode rfl rfl _ record member complete
  refine ⟨rfl, rfl, record, member, complete, tells, errors, found, ?_⟩
  have count : record.found.length = 2 := by
    rw [← List.length_map, found]
    rfl
  obtain ⟨message, noted⟩ : ∃ message, record.errors = [(.bytecode, message)] := by
    match record.errors, errors with
    | [(.bytecode, message)], _ => exact ⟨message, rfl⟩
  rw [tells.vulnerabilities, if_pos listed, noted]
  simp [Setup.unavailable, count]

end Analyzer

end ContractRisk
