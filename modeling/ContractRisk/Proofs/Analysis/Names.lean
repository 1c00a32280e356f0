/-
**The name that a record shows.**

A complete record shows the name that was given in its cleaned form, and nothing if the name was
refused. A record that came to no end shows a text that was given as it is, with markup, with blanks
and of any length. So what is shown need not be presentable, and `analyze_name` tells exactly when it is:
a complete record falls short only if the cleaning leaves nothing of an accepted name, and a failed one
unless there was nothing to clean.

* `nameStage_shown`, `failedAnalysis_shown`: the name on the two ways to a record;
* `presentable_cleaned`, `presentable_raw`: when what they show is presentable;
* `analyze_name`: the name of every record of an analyzer.
-/

import ContractRisk.Proofs.Analysis.Stages
import ContractRisk.Proofs.ContractName

namespace ContractRisk

open Text

/-- **A presentable name**: what is shown for a name, if anything is, is the cleaned form of the name,
and not empty. -/
def Presentable (given : Value) (shown : Option String) : Prop :=
  ∀ text, shown = some text →
    text ≠ "" ∧ ∃ name, contractName given = .ok name ∧ text = sanitize name

section

variable {given : Value} {shown : Option String}

/-- What is cleaned is presentable unless nothing is left of it. -/
theorem presentable_cleaned
    (cleaned : ∀ text,
      shown = some text ↔ ∃ name, contractName given = .ok name ∧ text = sanitize name) :
    Presentable given shown ↔ ∀ name, contractName given = .ok name →
      ∃ c ∈ stripMarkup name.toList, isBlank c = false := by
  have left (name : String) :
      sanitize name ≠ "" ↔ ∃ c ∈ stripMarkup name.toList, isBlank c = false := by
    rw [Ne, sanitize_eq_empty]
    simp
  constructor
  · intro presentable name accepted
    exact (left name).mp (presentable _ ((cleaned _).mpr ⟨name, accepted, rfl⟩)).1
  · intro something text same
    obtain ⟨name, accepted, rfl⟩ := (cleaned text).mp same
    exact ⟨(left name).mpr (something name accepted), name, accepted, rfl⟩

/-- What is shown as it is given is presentable only if there was nothing to clean. -/
theorem presentable_raw (raw : ∀ text, shown = some text ↔ given = .text text) :
    Presentable given shown ↔ ∀ text, given = .text text →
      text ≠ "" ∧ text.length ≤ Refusal.maxNameLength ∧ Plain text.toList := by
  constructor
  · rintro presentable text rfl
    exact (cleaned_iff text).mp (presentable text ((raw text).mpr rfl))
  · intro clean text same
    cases (raw text).mp same
    exact (cleaned_iff text).mpr (clean text rfl)

end

namespace Setup

/-- The stage of the name shows the cleaned form of an accepted name. -/
theorem nameStage_shown (given : Value) (text : String) :
    (nameStage given .empty).1 = some text ↔
      ∃ name, contractName given = .ok name ∧ text = sanitize name := by
  unfold nameStage
  cases given with
  | null =>
    refine iff_of_false (fun same => nomatch same) ?_
    rintro ⟨name, accepted, _⟩
    cases accepted
  | _ =>
    simp only
    split
    · rename_i name accepted
      rw [accepted]
      simp [eq_comm]
    · rename_i refused
      rw [refused]
      simp

/-- A record that came to no end shows a text as it is given. -/
theorem failedAnalysis_shown {α : Type} (setup : Setup α) (address : String) (given : Value)
    (message : String) (progress : Progress) (text : String) :
    (setup.failedAnalysis address given message progress).name = some text ↔ given = .text text := by
  cases given <;> simp [failedAnalysis]

end Setup

namespace Analyzer

variable {σ α : Type} [Source σ] [Add α] [Sub α] [Mul α] [Div α] [LT α] [LE α] [DecidableLT α]
  [DecidableLE α] [OfScientific α] [NatCast α] [Decimal.Rendered α]

/-- **The name of every record**, whatever the address, the name, the interface and the sources are. A
complete record shows the cleaned name, a failed one the text that was given; and what is shown is
presentable if and only if the cleaning leaves something of the name in the first case, and has nothing
to take away in the second. There is a record unless the address cannot be written or the fetch is
interrupted. -/
theorem analyze_name (analyzer : Analyzer σ α) (sound : analyzer.setup.faults.analysis = none)
    (question : Question) :
    (∀ record, (analyzer.analyze question).1 = .ok record →
      (record.verdict = .complete → ∀ text, record.name = some text ↔
        ∃ name, contractName question.name = .ok name ∧ text = sanitize name) ∧
      (record.verdict = .failed → ∀ text, record.name = some text ↔ question.name = .text text) ∧
      (Presentable question.name record.name ↔
        (record.verdict = .complete → ∀ name, contractName question.name = .ok name →
          ∃ c ∈ stripMarkup name.toList, isBlank c = false) ∧
        (record.verdict = .failed → ∀ text, question.name = .text text →
          text ≠ "" ∧ text.length ≤ Refusal.maxNameLength ∧ Plain text.toList))) ∧
    ∀ failure, (analyzer.analyze question).1 = .error failure →
      analyzer.setup.Unanswered question (analyzer.outcome question) failure := by
  rw [analyzer.analyze_eq sound question]
  refine ⟨fun record given => ?_, fun failure => analyzer.setup.analysis_error⟩
  rcases analyzer.setup.analysis_cases given with
    ⟨address, entries, noted, _, _, rfl⟩ | ⟨address, message, progress, rfl⟩
  · have cleaned := Setup.nameStage_shown question.name
    exact ⟨fun _ => cleaned, fun failed => (nomatch failed), (presentable_cleaned cleaned).trans
      ⟨fun left => ⟨fun _ => left, fun failed => nomatch failed⟩, fun both => both.1 rfl⟩⟩
  · have raw := analyzer.setup.failedAnalysis_shown address question.name message progress
    exact ⟨fun complete => (nomatch complete), fun _ => raw, (presentable_raw raw).trans
      ⟨fun clean => ⟨fun complete => (nomatch complete), fun _ => clean⟩, fun both => both.2 rfl⟩⟩

/-- A name with markup for an address that is malformed. -/
def markedQuestion : Question where
  address := .text "nowhere"
  name := .text "<b>Token</b>"

/-- A name that is nothing but brackets. -/
def bracketsQuestion : Question where
  address := .text "0x1234567890abcdef1234567890abcdef12345678"
  name := .text "<>"

theorem analyze_name_unpresentable :
    (usual .standard).setup.faults.analysis = none ∧
      (∃ record, ((usual .standard).analyze markedQuestion).1 = .ok record ∧
        record.verdict = .failed ∧ record.name = some "<b>Token</b>" ∧
        ¬ Presentable markedQuestion.name record.name) ∧
      ∃ record, ((usual .standard).analyze bracketsQuestion).1 = .ok record ∧
        record.verdict = .complete ∧ record.name = some "" ∧
        ¬ Presentable bracketsQuestion.name record.name := by
  refine ⟨rfl, ?_, ?_⟩
  · obtain ⟨named, _⟩ := analyze_name (usual .standard) rfl markedQuestion
    obtain ⟨record, answered, failed⟩ : ∃ record,
        ((usual .standard).analyze markedQuestion).1 = .ok record ∧ record.verdict = .failed := by
      rw [(usual .standard).analyze_eq rfl, Setup.analysis_malformed _ (by decide)]
      exact ⟨_, rfl, rfl⟩
    obtain ⟨_, raw, presentable⟩ := named record answered
    refine ⟨record, answered, failed, (raw failed _).mpr rfl, fun shown => ?_⟩
    have plain := ((presentable.mp shown).2 failed _ rfl).2.2
    exact (plain.brackets '<' (by decide)).1 rfl
  · obtain ⟨named, _⟩ := analyze_name (usual .standard) rfl bracketsQuestion
    have normal : Address.normalize? bracketsQuestion.address =
        some "0x1234567890abcdef1234567890abcdef12345678" := by decide
    obtain ⟨record, answered, complete⟩ : ∃ record,
        ((usual .standard).analyze bracketsQuestion).1 = .ok record ∧ record.verdict = .complete := by
      rw [(usual .standard).analyze_eq rfl, Setup.analysis_wellFormed _ normal]
      exact ⟨_, rfl, rfl⟩
    obtain ⟨cleaned, _, presentable⟩ := named record answered
    have accepted : contractName bracketsQuestion.name = .ok "<>" := rfl
    refine ⟨record, answered, complete, (cleaned complete _).mpr ⟨"<>", accepted, by decide⟩,
      fun shown => ?_⟩
    obtain ⟨c, left, _⟩ := (presentable.mp shown).1 complete _ accepted
    have nothing : stripMarkup "<>".toList = [] := by decide
    rw [nothing] at left
    nomatch left

end Analyzer

end ContractRisk
