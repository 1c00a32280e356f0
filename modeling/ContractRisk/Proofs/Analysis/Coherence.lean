/-
**Stages and fields of a record agree.**

A complete record has reached the stages that its fields ask for, in order and each once: those about
the code if and only if a code is there, those about the patterns if and only if results are there, and
results are there if and only if there was an interface or a code to look at (`Coherent`). A record
that came to no end has neither (`BrokenOff`). Code comes through a cache, and whatever a cache gives
out is a canonical text (`outcome_canonical`); what is canonical can be classified, and no detector
fails on it.

* `detectSafely_metadata`: no detector fails on entries that were read and on a canonical code;
* `codeStage_sound`, `patternStage_sound`: the stages of the code and of the detectors;
* `results_sound`: results and verdict, and the stages that are reached for them;
* `analyze_coherent`: every record of an analyzer is coherent, whatever the analyzer has gone through.
-/

import ContractRisk.Proofs.Analysis.Completion
import ContractRisk.Proofs.Analysis.History
import ContractRisk.Proofs.Bytecode.Canonical
import ContractRisk.Proofs.Cache.Outcomes

namespace ContractRisk

open Scoring

/-! ### Detectors -/

section

variable {α : Type} [Add α] [Mul α] [Div α] [LT α] [LE α] [DecidableLT α] [DecidableLE α]
  [OfScientific α] [NatCast α] [Decimal.Rendered α]

/-- What a detector observes is filed under names of its own, none of which tells of an error. -/
theorem inspect_metadata (category : Category) (entries : List Abi.Entry) (code : List UInt8) :
    ∀ field ∈ ((Detector.inspect category entries code : Inspection α).conclude category).metadata,
      field.1 ≠ "error" := by
  cases category with
  | fakeBalance =>
    simp [Detector.inspect, Detector.FakeBalance.inspect, Inspection.conclude, Finding.ofObservation]
  | hiddenRedirection =>
    unfold Detector.inspect Detector.HiddenRedirection.inspect
    simp only
    split <;> simp [Inspection.conclude, Finding.ofObservation, Finding.skipped]
  | nonFunctionalTransfer =>
    unfold Detector.inspect Detector.NonFunctionalTransfer.inspect
    simp only
    split <;> simp [Inspection.conclude, Finding.ofObservation, Finding.skipped]
  | deceptiveEvents =>
    unfold Detector.inspect Detector.DeceptiveEvents.inspect
    simp only
    split <;> simp [Inspection.conclude, Finding.ofObservation, Finding.skipped]

/-- **No detector fails on entries and a code that can be read.** -/
theorem detectSafely_metadata (category : Category) (entries : List Abi.Entry) {code : Value}
    {bytes : List UInt8} (reads : Bytecode.read code = .ok bytes) :
    ∀ field ∈ (detectSafely category (.ofEntries entries) code : Finding α).metadata,
      field.1 ≠ "error" := by
  have detects : ∃ seen, (detect category (.ofEntries entries) code : Except Failure (Finding α)) =
      .ok ((Detector.inspect category entries seen).conclude category) := by
    unfold detect Detector.codeFor
    rw [Abi.entriesOf_ofEntries, reads]
    split
    · exact ⟨bytes, rfl⟩
    · exact ⟨[], rfl⟩
  obtain ⟨seen, detects⟩ := detects
  unfold detectSafely
  rw [detects]
  exact inspect_metadata category entries seen

end

/-! ### Stages and what they give -/

/-- A code in canonical form: the text that some bytes have, which is read as them. -/
def Bytecode.IsCanonical (code : String) (bytes : List UInt8) : Prop :=
  code = Bytecode.write bytes ∧ Bytecode.canonical (.text code) = .ok code ∧
    Bytecode.read (.text code) = .ok bytes

/-- Whether an interface is given that has an entry. -/
def Abi.HasEntries (room : Nat) (abi : Value) : Prop :=
  abi ≠ .null ∧ ∃ entry others, Abi.read (.value abi room) = .ok (entry :: others)

namespace Setup

variable {α : Type}

/-- The interface reaches no stage, and its entries are those that were read. -/
theorem abiStage_stages {setup : Setup α} {abi : Value} {entries : List Abi.Entry} {noted : Progress}
    (passed : setup.abiStage abi .empty = .ok (entries, noted)) :
    noted.stages = [] ∧ (entries ≠ [] ↔ Abi.HasEntries setup.room.reading abi) := by
  by_cases given : abi = .null
  · subst given
    cases passed
    exact ⟨rfl, iff_of_false (fun none => none rfl) fun has => has.1 rfl⟩
  rw [abiStage_given given] at passed
  cases reading : Abi.read (.value abi setup.room.reading) with
  | ok found =>
    rw [reading] at passed
    cases passed
    refine ⟨rfl, fun nonempty => ⟨given, ?_⟩, fun ⟨_, entry, others, same⟩ none => ?_⟩
    · obtain ⟨entry, others, rfl⟩ := List.exists_cons_of_ne_nil nonempty
      exact ⟨entry, others, reading⟩
    · rw [reading, none] at same
      cases same
  | error failure =>
    have unread : ¬ Abi.HasEntries setup.room.reading abi := by
      rintro ⟨_, entry, others, same⟩
      rw [reading] at same
      cases same
    rw [reading] at passed
    by_cases refused : failure.isRefusal = true
    · simp only [if_pos refused] at passed
      cases passed
      exact ⟨rfl, iff_of_false (fun none => none rfl) unread⟩
    · simp only [if_neg refused] at passed
      cases passed

section

variable {setup : Setup α} (sound : setup.faults = {})

include sound

theorem threatStage_stages (address : String) :
    (setup.threatStage address .empty).2.stages = [.threatChecked] := by
  unfold threatStage isListed
  rw [sound]
  simp only [Faults.guard]
  cases setup.threats.isKnown (.text address) <;> rfl

/-- **A canonical code is classified**, and without a code nothing is known about it. -/
theorem codeStage_sound (address : String) {fetched : Option Outcome}
    (canonical : ∀ code, fetched = some (.ok code) → ∃ bytes, Bytecode.IsCanonical code bytes) :
    (∃ noted, setup.codeStage address fetched .empty = (none, none, noted) ∧ noted.stages = []) ∨
      ∃ code bytes noted, Bytecode.IsCanonical code bytes ∧
        setup.codeStage address fetched .empty =
          (some code, some (Proxy.classifyBytes setup.templates bytes), noted) ∧
        noted.stages = [.bytecodeFetched, .proxyClassified] := by
  unfold codeStage
  split
  · exact .inl ⟨_, rfl, rfl⟩
  · exact .inl ⟨_, rfl, rfl⟩
  · rename_i code
    obtain ⟨bytes, canonical⟩ := canonical code rfl
    have classified : setup.classify code = .ok (Proxy.classifyBytes setup.templates bytes) := by
      unfold classify Proxy.classify
      rw [sound, canonical.2.2]
      rfl
    simp only
    rw [classified]
    exact .inr ⟨code, bytes, _, canonical, rfl, rfl⟩

/-- A code that is there is canonical, and is classified by its bytes. -/
theorem codeStage_some (address : String) {fetched : Option Outcome}
    (canonical : ∀ code, fetched = some (.ok code) → ∃ bytes, Bytecode.IsCanonical code bytes)
    {code : String} (found : (setup.codeStage address fetched .empty).1 = some code) :
    ∃ bytes, Bytecode.IsCanonical code bytes ∧ (setup.codeStage address fetched .empty).2.1 =
      some (Proxy.classifyBytes setup.templates bytes) := by
  rcases codeStage_sound sound address canonical with
    ⟨_, stage, _⟩ | ⟨other, bytes, _, canonical, stage, _⟩
  · rw [stage] at found
    cases found
  · rw [stage] at found ⊢
    cases found
    exact ⟨bytes, canonical, rfl⟩

/-- A code is classified if and only if it is there. -/
theorem codeStage_classified (address : String) {fetched : Option Outcome}
    (canonical : ∀ code, fetched = some (.ok code) → ∃ bytes, Bytecode.IsCanonical code bytes) :
    (setup.codeStage address fetched .empty).2.1.isSome =
      (setup.codeStage address fetched .empty).1.isSome := by
  rcases codeStage_sound sound address canonical with ⟨_, stage, _⟩ | ⟨_, _, _, _, stage, _⟩ <;>
    rw [stage] <;> rfl

variable [Add α] [Mul α] [Div α] [LT α] [LE α] [DecidableLT α] [DecidableLE α] [OfScientific α]
  [NatCast α] [Decimal.Rendered α]

/-- **The detectors run if and only if there is something to look at**, and none of them fails. -/
theorem patternStage_sound (usual : setup.detectors = standardDetectors) (entries : List Abi.Entry)
    {code : Option String} {kind : Option Proxy.Classification}
    (reads : ∀ text, code = some text → ∃ bytes, Bytecode.read (.text text) = .ok bytes) :
    (setup.patternStage entries code kind .empty = (none, .empty) ∧
        ¬ (entries ≠ [] ∨ kind.any (·.isContract) = true)) ∨
      ∃ results, setup.patternStage entries code kind .empty =
          (some results, Progress.empty.reach .patternsRun) ∧ results ≠ [] ∧
        (entries ≠ [] ∨ kind.any (·.isContract) = true) ∧
        ∀ entry ∈ results, ∀ field ∈ entry.2.metadata, field.1 ≠ "error" := by
  unfold patternStage
  simp only
  split
  · rename_i nothing
    rw [Bool.and_eq_true, List.isEmpty_iff, Bool.not_eq_true'] at nothing
    refine .inl ⟨rfl, ?_⟩
    rintro (some | some)
    · exact some nothing.1
    · rw [nothing.2] at some
      cases some
  · rename_i something
    -- what the detectors are given for a code can be read
    obtain ⟨bytes, reads⟩ : ∃ bytes, Bytecode.read
        (if kind.any (·.isContract) then (code.map Value.text).getD .null else .null) = .ok bytes := by
      split
      · cases code with
        | none => exact ⟨[], rfl⟩
        | some text => exact reads text rfl
      · exact ⟨[], rfl⟩
    refine .inr ⟨_, by rw [examine_usual sound usual], by simp [Category.all], ?_, ?_⟩
    · by_cases has : entries = []
      · refine .inr ?_
        simpa [has] using something
      · exact .inl has
    · intro entry member
      obtain ⟨category, _, rfl⟩ := List.mem_map.mp member
      exact detectSafely_metadata category entries reads

end

end Setup

/-! ### Records -/

/-- The stages of a complete record with or without code, and with or without results. -/
def stagesFor (code results : Bool) : List Stage :=
  [.start, .addressValidated, .threatChecked] ++
    (if code then [.bytecodeFetched, .proxyClassified] else []) ++
    (if results then [.patternsRun, .aggregated] else []) ++ [.complete]

section

variable (code results : Bool)

theorem nodup_stagesFor : (stagesFor code results).Nodup := by
  revert code results
  decide

theorem fetched_mem_stagesFor : .bytecodeFetched ∈ stagesFor code results ↔ code = true := by
  revert code results
  decide

theorem run_mem_stagesFor : .patternsRun ∈ stagesFor code results ↔ results = true := by
  revert code results
  decide

theorem aggregated_mem_stagesFor : .aggregated ∈ stagesFor code results ↔ results = true := by
  revert code results
  decide

end

/-- **A complete record whose stages and fields agree.** -/
structure Coherent {α : Type} (room : Room) (question : Question) (record : Analysis α) : Prop where
  /-- The stages come in order, those about code and those about results in pairs. -/
  stages : record.stages = stagesFor record.code.isSome record.results.isSome
  /-- Each stage is reached once at most. -/
  once : record.stages.Nodup
  code : record.code.isSome = true ↔ .bytecodeFetched ∈ record.stages
  classification : record.classification.isSome = true ↔ .bytecodeFetched ∈ record.stages
  /-- The code is in canonical form, and its size is the count of its bytes. -/
  canonical : ∀ code, record.code = some code → ∃ bytes kind, Bytecode.IsCanonical code bytes ∧
    record.classification = some kind ∧ kind.size = bytes.length ∧ (kind.isContract = true ↔ bytes ≠ [])
  results : record.results.isSome = true ↔ .patternsRun ∈ record.stages
  assessment : record.assessment.isSome = true ↔ .aggregated ∈ record.stages
  /-- The patterns are looked for if and only if the interface has an entry or there is a contract. -/
  looked : .patternsRun ∈ record.stages ↔
    Abi.HasEntries room.reading question.abi ∨ record.classification.any (·.isContract) = true
  /-- Nothing goes wrong but with name, code and interface, and each is noted once at most. -/
  errors : (record.errors.map (·.1)).Sublist [.contractName, .bytecode, .abi]
  /-- No finding tells of an error. -/
  findings : ∀ results, record.results = some results → ∀ entry ∈ results,
    ∀ field ∈ entry.2.metadata, field.1 ≠ "error"

/-- **A record that came to no end.** -/
structure BrokenOff {α : Type} (record : Analysis α) : Prop where
  last : record.stages.getLast? = some .failed
  incomplete : .complete ∉ record.stages
  code : record.code = none
  classification : record.classification = none
  results : record.results = none
  assessment : record.assessment = none

namespace Setup

variable {α : Type}

theorem entryFor_keys (concern : Concern) (failure : Option Failure) :
    ((entryFor concern failure).map (·.1)).Sublist [concern] := by
  cases failure with
  | none => exact List.nil_sublist _
  | some failure => exact List.Sublist.refl _

/-- Name, code and interface are the only matters in which something can go wrong. -/
theorem troubles_keys (setup : Setup α) (question : Question) {fetched : Option Outcome}
    (canonical : ∀ code, fetched = some (.ok code) → ∃ bytes, Bytecode.IsCanonical code bytes) :
    ((setup.troubles question fetched).map (·.1)).Sublist [.contractName, .bytecode, .abi] := by
  have code : ((setup.codeTrouble fetched).map (·.1)).Sublist [.bytecode] := by
    cases fetched with
    | none => exact List.nil_sublist _
    | some outcome =>
      cases outcome with
      | error failure => exact List.Sublist.refl _
      | ok code =>
        obtain ⟨bytes, _, _, reads⟩ := canonical code rfl
        unfold codeTrouble Proxy.classify
        simp only
        rw [reads]
        exact List.nil_sublist _
  unfold troubles
  rw [List.map_append, List.map_append]
  exact (entryFor_keys _ _).append (code.append (entryFor_keys _ _))

theorem failedAnalysis_brokenOff (setup : Setup α) (address : String) (name : Value) (message : String)
    {progress : Progress} (incomplete : .complete ∉ progress.stages) :
    BrokenOff (setup.failedAnalysis address name message progress) where
  last := List.getLast?_concat
  incomplete := by
    intro member
    rcases List.mem_append.mp member with before | last
    · exact incomplete before
    · cases List.mem_singleton.mp last
  code := rfl
  classification := rfl
  results := rfl
  assessment := rfl

/-- The stages up to the interface are those for the code that is there. -/
theorem notesBefore_stages {setup : Setup α} (sound : setup.faults = {}) (question : Question)
    (address : String) {fetched : Option Outcome}
    (canonical : ∀ code, fetched = some (.ok code) → ∃ bytes, Bytecode.IsCanonical code bytes) :
    (setup.notesBefore question address fetched).stages =
      .threatChecked :: if (setup.codeStage address fetched .empty).1.isSome then
        [.bytecodeFetched, .proxyClassified] else [] := by
  unfold notesBefore
  show _ ++ (_ ++ _) = _
  rw [nameStage_notes, threatStage_stages sound]
  rcases codeStage_sound sound address canonical with
    ⟨noted, stage, stages⟩ | ⟨code, bytes, noted, _, stage, stages⟩
  · rw [stage, stages]
    rfl
  · rw [stage, stages]
    rfl

section

variable [Add α] [Sub α] [Mul α] [Div α] [LT α] [LE α] [DecidableLT α] [DecidableLE α]
  [OfScientific α] [NatCast α] [Decimal.Rendered α] [LawfulShares α] {setup : Setup α}
  (sound : setup.faults = {}) (usual : setup.detectors = standardDetectors)

include sound usual

/-- The results and the verdict of an analysis with some entries of the interface. -/
theorem results_sound (address : String) {fetched : Option Outcome} (entries : List Abi.Entry)
    (canonical : ∀ code, fetched = some (.ok code) → ∃ bytes, Bytecode.IsCanonical code bytes) :
    ((setup.resultsOf address fetched entries).1.isSome = true ↔
        entries ≠ [] ∨ (setup.codeStage address fetched .empty).2.1.any (·.isContract) = true) ∧
      (setup.verdictOf address fetched entries).1.isSome =
        (setup.resultsOf address fetched entries).1.isSome ∧
      (setup.notesAfter address fetched entries).stages =
        (if (setup.resultsOf address fetched entries).1.isSome then [.patternsRun, .aggregated] else []) ∧
      ∀ results, (setup.resultsOf address fetched entries).1 = some results →
        ∀ entry ∈ results, ∀ field ∈ entry.2.metadata, field.1 ≠ "error" := by
  have reads : ∀ text, (setup.codeStage address fetched .empty).1 = some text →
      ∃ bytes, Bytecode.read (.text text) = .ok bytes := by
    intro text found
    obtain ⟨bytes, canonical, _⟩ := codeStage_some sound address canonical found
    exact ⟨bytes, canonical.2.2⟩
  have judgeable : ∀ results, (setup.resultsOf address fetched entries).1 = some results →
      Judgeable results := fun _ found => patternStage_judgeable usual found
  unfold notesAfter verdictOf
  rcases patternStage_sound sound usual entries reads with
    ⟨stage, nothing⟩ | ⟨results, stage, nonempty, something, findings⟩
  · have none : setup.resultsOf address fetched entries = (none, .empty) := stage
    rw [none]
    exact ⟨iff_of_false (by simp) nothing, rfl, rfl, fun _ found => nomatch found⟩
  · have found : setup.resultsOf address fetched entries =
        (some results, Progress.empty.reach .patternsRun) := stage
    rw [found]
    simp only
    rw [aggregationStage_sound sound address _ nonempty (judgeable results (by rw [found]))]
    refine ⟨iff_of_true rfl something, rfl, rfl, fun _ same => ?_⟩
    cases same
    exact findings

/-- The stages of an analysis that comes to its end are those for the code and the results that there are,
whichever these are. -/
theorem completed_stages (question : Question) (address : String) {fetched : Option Outcome}
    (canonical : ∀ code, fetched = some (.ok code) → ∃ bytes, Bytecode.IsCanonical code bytes)
    {entries : List Abi.Entry} {noted : Progress}
    (passed : setup.abiStage question.abi .empty = .ok (entries, noted)) {progress : Progress}
    (reached : progress = setup.validated.join ((setup.notesBefore question address fetched).join
      (noted.join (setup.notesAfter address fetched entries)))) :
    (setup.completed question address fetched entries progress).stages =
      stagesFor (setup.codeStage address fetched .empty).1.isSome
        (setup.resultsOf address fetched entries).1.isSome := by
  obtain ⟨silent, _⟩ := abiStage_stages passed
  obtain ⟨_, _, after, _⟩ := results_sound sound usual address entries canonical
  have before := notesBefore_stages sound question address canonical
  show progress.stages ++ [.complete] = _
  rw [reached]
  show (setup.validated.stages ++ (_ ++ (noted.stages ++ _))) ++ _ = _
  rw [before, silent, after]
  simp [stagesFor, validated, Progress.reach]

/-- **An analysis that comes to its end is coherent.** -/
theorem completed_coherent (question : Question) (address : String) {fetched : Option Outcome}
    (canonical : ∀ code, fetched = some (.ok code) → ∃ bytes, Bytecode.IsCanonical code bytes)
    {entries : List Abi.Entry} {noted : Progress}
    (passed : setup.abiStage question.abi .empty = .ok (entries, noted)) {progress : Progress}
    (reached : progress = setup.validated.join ((setup.notesBefore question address fetched).join
      (noted.join (setup.notesAfter address fetched entries))))
    (errors : progress.errors = setup.troubles question fetched) :
    Coherent setup.room question (setup.completed question address fetched entries progress) := by
  have has := (abiStage_stages passed).2
  obtain ⟨looked, judged, _, findings⟩ := results_sound sound usual address entries canonical
  have stages := completed_stages sound usual question address canonical passed reached
  have classified := codeStage_classified sound address canonical
  refine ⟨stages, ?_, ?_, ?_, ?_, ?_, ?_, ?_, ?_, findings⟩
  · rw [stages]
    exact nodup_stagesFor _ _
  · rw [stages, fetched_mem_stagesFor]
    exact Iff.rfl
  · rw [stages, fetched_mem_stagesFor, ← classified]
    exact Iff.rfl
  · intro code found
    obtain ⟨bytes, canonical, kind⟩ := codeStage_some sound address canonical found
    refine ⟨bytes, _, canonical, kind, ?_⟩
    unfold Proxy.classifyBytes
    cases bytes <;> simp
  · rw [stages, run_mem_stagesFor]
    exact Iff.rfl
  · rw [stages, aggregated_mem_stagesFor, ← judged]
    exact Iff.rfl
  · rw [stages, run_mem_stagesFor, looked, has]
    exact Iff.rfl
  · show (progress.errors.map (·.1)).Sublist _
    rw [errors]
    exact setup.troubles_keys question canonical

/-- **A complete record is coherent**, and every other one is broken off. -/
theorem analysis_coherent (question : Question) {fetched : Option Outcome}
    (canonical : ∀ code, fetched = some (.ok code) → ∃ bytes, Bytecode.IsCanonical code bytes)
    {record : Analysis α} (given : setup.analysis question fetched = .ok record) :
    (record.verdict = .complete → Coherent setup.room question record) ∧
      (record.verdict = .failed → BrokenOff record) := by
  cases wellFormed : Address.normalize? question.address with
  | none =>
    rw [setup.analysis_malformed wellFormed] at given
    obtain ⟨shown, _, rfl⟩ := Attempt.map_eq_ok.mp given
    have unreached : Stage.complete ∉ [Stage.start] := by decide
    exact ⟨fun complete => (nomatch complete), fun _ =>
      setup.failedAnalysis_brokenOff _ _ _ unreached⟩
  | some address =>
    have noted := (analysis_complete_iff sound usual wellFormed given).2
    have inOrder : setup.faults.pipeline = none := by rw [sound]
    rw [setup.analysis_wellFormed wellFormed, inOrder] at given
    split at given
    · rename_i outage broken
      cases broken
    · cases given
    rw [stages_eq] at given
    cases interface : setup.abiStage question.abi .empty with
    | error failure =>
      rw [interface] at given
      cases given
      refine ⟨fun complete => (nomatch complete), fun _ => ?_⟩
      refine setup.failedAnalysis_brokenOff _ _ _ ?_
      show .complete ∉ [.start, .addressValidated] ++
        (setup.notesBefore question address fetched).stages
      rw [notesBefore_stages sound question address canonical]
      split <;> decide
    | ok stage =>
      obtain ⟨entries, silent⟩ := stage
      rw [interface] at given
      cases given
      exact ⟨fun complete => completed_coherent sound usual question address canonical interface rfl
        (noted complete), fun failed => (nomatch failed)⟩

end

end Setup

namespace Analyzer

variable {σ α : Type} [Source σ]

/-- Whether a code that is given is a canonical one, for whichever address. -/
def GivesCanonical (_ : String) (outcome : Outcome) : Prop :=
  ∀ code, outcome = .ok code → ∃ bytes, Bytecode.IsCanonical code bytes

theorem reply_canonical (reply : Reply) (address : String) (limit : Option Number) :
    GivesCanonical address (reply.outcome address limit) := by
  intro code given
  have fetched := Cache.reply_fetched reply address limit
  rw [given] at fetched
  exact Bytecode.canonical_ok fetched

/-- **What a cache gives out is canonical**, whatever has happened at it. -/
theorem Lived.canonical {settings : Settings} {cache : Cache Number} (lived : Lived settings cache)
    {call : Nat} {code : String} (answer : cache.answer? call = some (.ok code)) :
    ∃ bytes, Bytecode.IsCanonical code bytes := by
  obtain ⟨now, events, rfl⟩ := lived
  have answers := (Cache.run_vouched reply_canonical (limits settings) now events).2
  rcases answers _ (List.mem_of_getElem? (Cache.answer?_eq_some.mp answer)) with
    refused | ⟨_, canonical⟩
  · cases refused
  · exact canonical code rfl

/-- **What is fetched for an analysis is canonical**, whatever the analyzer has gone through. -/
theorem outcome_canonical {analyzer : Analyzer σ α} {setup : Setup α} {known : String → Bool}
    (lived : Holds setup known (fun _ cache => Lived setup.settings cache) (fun _ _ => True) analyzer)
    (question : Question) {code : String} (fetched : analyzer.outcome question = some (.ok code)) :
    ∃ bytes, Bytecode.IsCanonical code bytes := by
  unfold outcome at fetched
  simp only at fetched
  split at fetched
  · have fetched := Option.some.inj fetched
    unfold Analyzer.fetch at fetched
    split at fetched
    · cases fetched
    · rename_i name source _
      obtain ⟨⟨cache, before, visited⟩, _⟩ :=
        lived.visit (lived_kept (σ := σ) setup.settings).toStays name source
      simp only at fetched
      rw [visited] at fetched
      have after (request : Request) :=
        before.reaches (Traffic.fetch_proceeds ({ cache, source } : Traffic σ Number) request).reaches
      cases answer : (({ cache, source } : Traffic σ Number).fetch
          ((analyzer.visit name source).2.request question.address)).2 with
      | none =>
        rw [answer] at fetched
        cases fetched
      | some outcome =>
        rw [answer] at fetched
        cases fetched
        exact (after _).canonical answer
  · cases fetched

variable [Add α] [Sub α] [Mul α] [Div α] [LT α] [LE α] [DecidableLT α] [DecidableLE α]
  [OfScientific α] [NatCast α] [Decimal.Rendered α] [LawfulShares α]

/-- **Stages and fields of every record agree**, whatever the address, the interface and the name are,
whatever the sources do, and whatever the analyzer has gone through. There is a record unless the address
is malformed and cannot be written, or the fetch ended in a failure that is no ordinary one. -/
theorem analyze_coherent (analyzer : Analyzer σ α) (new : analyzer.shelf = [])
    (sound : analyzer.setup.faults = {}) (usual : analyzer.setup.detectors = standardDetectors)
    (tasks : List Task) (question : Question) :
    (∀ record, ((analyzer.after tasks).analyze question).1 = .ok record →
      (record.verdict = .complete → Coherent analyzer.setup.room question record) ∧
        (record.verdict = .failed → BrokenOff record)) ∧
      ∀ failure, ((analyzer.after tasks).analyze question).1 = .error failure →
        analyzer.setup.Unanswered question ((analyzer.after tasks).outcome question) failure := by
  have lived := analyzer.after_lived new tasks
  have same : (analyzer.after tasks).setup = analyzer.setup := lived.setup
  have inOrder : (analyzer.after tasks).setup.faults.analysis = none := by rw [same, sound]
  rw [(analyzer.after tasks).analyze_eq inOrder question, same]
  refine ⟨fun record given => ?_, fun failure => Setup.analysis_error _⟩
  exact Setup.analysis_coherent sound usual question (fun code fetched =>
    outcome_canonical lived question fetched) given

/-- The usual parts and a node that has the same code at every address. -/
def withNode (code : Value) : Analyzer Replay Float where
  setup := { (usual .standard).setup with
    settings := { usualSettings with analysisTimeout := 10 }
    default := .source "node" }
  sources := [("node", ⟨[], [.reply (.returned code)]⟩)]
  now := 0

/-- An address of which nothing but the code is known. -/
def nodeQuestion : Question where
  address := .text "0x1234567890ABCDEF1234567890abcdef12345678"

theorem analyze_coherent_withNode :
    let analyzer := withNode (.text "00")
    analyzer.shelf = [] ∧ analyzer.setup.faults = {} ∧
      analyzer.setup.detectors = standardDetectors ∧
      ∃ record, ((analyzer.after [.analyze nodeQuestion, .clear]).analyze nodeQuestion).1 =
          .ok record ∧ record.verdict = .complete ∧ record.code = some "0x00" ∧
        record.stages = stagesFor true true := by
  refine ⟨rfl, rfl, rfl, ?_⟩
  have coherent := (analyze_coherent (withNode (.text "00")) rfl rfl rfl
    [.analyze nodeQuestion, .clear] nodeQuestion).1
  have parts : (((withNode (.text "00")).after [.analyze nodeQuestion, .clear]).analyze
      nodeQuestion).1.toOption.map (fun record => (record.verdict, record.code, record.results.isSome)) =
        some (.complete, some "0x00", true) := by decide +kernel
  generalize (((withNode (.text "00")).after [.analyze nodeQuestion, .clear]).analyze nodeQuestion).1 =
    answer at coherent parts ⊢
  cases answer with
  | error failure => cases parts
  | ok record =>
    obtain ⟨verdict, code, results⟩ : record.verdict = .complete ∧ record.code = some "0x00" ∧
        record.results.isSome = true := by simpa [Except.toOption] using parts
    have stages := ((coherent record rfl).1 verdict).stages
    rw [code, results] at stages
    exact ⟨record, rfl, verdict, code, stages⟩

end Analyzer

end ContractRisk
