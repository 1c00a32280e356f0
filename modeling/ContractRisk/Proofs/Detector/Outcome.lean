/-
**Detectors fail on malformed input only.**

A detector ends in trouble on an interface or a code that cannot be read (`Malformed`), and never by a
mishap of its own: `Attempted.detect` takes every step that can go wrong and comes to what `detect` says.
A safe detector makes a finding of any trouble and counts the run, which never goes wrong either.

* `Attempted.detect_eq`, `Attempted.detectSafely_eq`: the detectors, step by step;
* `detect_ok_iff`: a detector comes to a finding unless the input is malformed;
* `detectSafely_outcome`: what a safe detector comes to, on every input.
-/

import ContractRisk.Proofs.Analysis.Coherence
import ContractRisk.Proofs.Detector.Attempted

namespace ContractRisk

/-- What ends an attempt: malformed input, or a mishap. -/
inductive Trouble where
  | malformed (failure : Failure)
  | mishap (happened : Mishap)

namespace Trouble

/-- The family under which a trouble is reported. -/
def family : Trouble → String
  | malformed failure => failure.kind.name
  | mishap happened => happened.family

/-- The wording of a trouble. -/
def message : Trouble → String
  | malformed failure => failure.message
  | mishap happened => happened.message

/-- The finding of a detector that ended in trouble. -/
def finding (category : Category) (trouble : Trouble) : Finding Float where
  detected := false
  confidence := 0.0
  category := category
  description := s!"Detection failed: {trouble.message}"
  evidence := []
  severity := .low
  metadata := [("error", .text trouble.message), ("error_type", .text trouble.family)]

end Trouble

namespace Detector.Attempted

/-! ### Detectors, step by step -/

/-- The finding of the detector of a category. -/
def detect (category : Category) (abi : Abi.Input) (code : Value) : Except Trouble (Finding Float) := do
  let entries ← (Abi.entriesOf abi).mapError Trouble.malformed
  let bytes ← (codeFor category code).mapError Trouble.malformed
  let seen ← (inspect category entries bytes).mapError Trouble.mishap
  (accepted (seen.conclude category)).mapError Trouble.mishap

/-- What a detector keeps of its runs: how often they came to what, and how long they took on average. -/
structure Runs where
  counts : DetectorState
  average : Float

/-- What is kept after one more run. -/
def Runs.after (runs : Runs) (length : Float) (failed detected : Bool) : Except Mishap Runs := do
  let counts : DetectorState :=
    { runs := runs.counts.runs + 1
      positives := runs.counts.positives + if !failed && detected then 1 else 0
      failures := runs.counts.failures + if failed then 1 else 0 }
  let average ← divided (runs.average * (counts.runs - 1 : Nat) + length) counts.runs
  return { counts, average }

/-- The finding of a detector, a trouble being one that detects nothing, with what is kept of the run. -/
def detectSafely (runs : Runs) (length : Float) (category : Category) (abi : Abi.Input) (code : Value) :
    Except Mishap (Finding Float × Runs) :=
  match detect category abi code with
  | .ok finding => do
    let runs ← runs.after length false finding.detected
    return (finding, runs)
  | .error trouble => do
    let finding ← accepted (trouble.finding category)
    let runs ← runs.after length true finding.detected
    return (finding, runs)

theorem conclude_unit (category : Category) (seen : Inspection Float) :
    0.0 ≤ (seen.conclude category).confidence ∧ (seen.conclude category).confidence ≤ 1.0 := by
  cases seen with
  | skipped reason metadata => exact (by decide : (0.0 : Float) ≤ 0.0 ∧ (0.0 : Float) ≤ 1.0)
  | observed observation => exact clamped_unit _

/-- **A detector fails on malformed input only**, on which it fails as soon as that is read. -/
theorem detect_eq (category : Category) (abi : Abi.Input) (code : Value) :
    detect category abi code = (ContractRisk.detect category abi code).mapError Trouble.malformed := by
  unfold detect ContractRisk.detect
  cases Abi.entriesOf abi with
  | error failure => rfl
  | ok entries =>
    cases codeFor category code with
    | error failure => rfl
    | ok bytes =>
      obtain ⟨low, high⟩ := conclude_unit category (Detector.inspect category entries bytes)
      change (do
        let seen ← (inspect category entries bytes).mapError Trouble.mishap
        _) = _
      rw [inspect_eq]
      change (accepted ((Detector.inspect category entries bytes).conclude category)).mapError _ = _
      rw [accepted_eq low high]
      rfl

theorem after_eq (runs : Runs) (length : Float) (failed detected : Bool) :
    ∃ average, runs.after length failed detected = .ok {
      counts :=
        { runs := runs.counts.runs + 1
          positives := runs.counts.positives + if !failed && detected then 1 else 0
          failures := runs.counts.failures + if failed then 1 else 0 }
      average } := by
  unfold Runs.after
  simp only
  rw [divided_eq _ (Nat.succ_ne_zero _)]
  exact ⟨_, rfl⟩

/-- **A safe detector never fails**, and counts its runs. -/
theorem detectSafely_eq (runs : Runs) (length : Float) (category : Category) (abi : Abi.Input)
    (code : Value) :
    ∃ average, detectSafely runs length category abi code =
      .ok (ContractRisk.detectSafely category abi code, {
        counts := runs.counts.record (ContractRisk.detect category abi code : Except Failure (Finding Float))
        average }) := by
  unfold detectSafely ContractRisk.detectSafely
  rw [detect_eq]
  cases (ContractRisk.detect category abi code : Except Failure (Finding Float)) with
  | ok finding =>
    obtain ⟨average, counted⟩ := after_eq runs length false finding.detected
    refine ⟨average, ?_⟩
    change (do
      let runs ← runs.after length false finding.detected
      _) = _
    rw [counted]
    rfl
  | error failure =>
    obtain ⟨average, counted⟩ := after_eq runs length true false
    have told : accepted (.failed category failure) = .ok (.failed category failure) :=
      accepted_eq (by decide : (0.0 : Float) ≤ 0.0) (by decide : (0.0 : Float) ≤ 1.0)
    refine ⟨average, ?_⟩
    change (do
      let finding ← accepted (.failed category failure)
      _) = _
    rw [told]
    change (do
      let runs ← runs.after length true false
      return (Finding.failed category failure, runs)) = _
    rw [counted]
    rfl

end Detector.Attempted

/-! ### Malformed input -/

/-- An interface that is neither absent, nor made of entries, nor readable, or a code that cannot be read
by a detector that looks at it. -/
def Malformed (category : Category) (abi : Abi.Input) (code : Value) : Prop :=
  ((∀ room, abi ≠ .value .null room) ∧ (∀ entries, abi ≠ .ofEntries entries) ∧
      ∀ entries, Abi.read abi ≠ .ok entries) ∨
    (category = .hiddenRedirection ∨ category = .nonFunctionalTransfer) ∧
      ∀ bytes, Bytecode.read code ≠ .ok bytes

section

variable {category : Category} {abi : Abi.Input} {code : Value}

theorem Abi.entriesOf_present (present : ∀ room, abi ≠ .value .null room) :
    Abi.entriesOf abi = Abi.read abi := by
  unfold Abi.entriesOf
  split
  · exact absurd rfl (present _)
  · rfl

theorem Abi.entriesOf_ok_iff :
    (∃ entries, Abi.entriesOf abi = .ok entries) ↔
      ¬ ((∀ room, abi ≠ .value .null room) ∧ (∀ entries, abi ≠ .ofEntries entries) ∧
        ∀ entries, Abi.read abi ≠ .ok entries) := by
  constructor
  · rintro ⟨entries, reads⟩ ⟨present, -, unreadable⟩
    refine unreadable entries ?_
    rwa [Abi.entriesOf_present present] at reads
  · intro usable
    by_cases absent : ∃ room, abi = .value .null room
    · obtain ⟨room, rfl⟩ := absent
      exact ⟨[], rfl⟩
    by_cases parsed : ∃ entries, abi = .ofEntries entries
    · obtain ⟨entries, rfl⟩ := parsed
      exact ⟨entries, Abi.entriesOf_ofEntries entries⟩
    · rw [Abi.entriesOf_present (not_exists.mp absent)]
      by_contra unreadable
      exact usable ⟨not_exists.mp absent, not_exists.mp parsed, not_exists.mp unreadable⟩

theorem Detector.codeFor_ok_iff :
    (∃ bytes, Detector.codeFor category code = .ok bytes) ↔
      ¬ ((category = .hiddenRedirection ∨ category = .nonFunctionalTransfer) ∧
        ∀ bytes, Bytecode.read code ≠ .ok bytes) := by
  have looks : Detector.readsCode category = true ↔
      (category = .hiddenRedirection ∨ category = .nonFunctionalTransfer) := by
    cases category <;> decide
  unfold Detector.codeFor
  by_cases needed : Detector.readsCode category = true
  · rw [if_pos needed]
    constructor
    · rintro ⟨bytes, reads⟩ ⟨-, unreadable⟩
      exact unreadable bytes (Attempt.mapError_eq_ok.mp reads)
    · intro usable
      by_contra unreadable
      refine usable ⟨looks.mp needed, fun bytes reads => unreadable ⟨bytes, ?_⟩⟩
      exact Attempt.mapError_eq_ok.mpr reads
  · rw [if_neg needed]
    exact iff_of_true ⟨[], rfl⟩ fun unusable => needed (looks.mpr unusable.1)

/-- **A detector comes to a finding if and only if the input is well formed.** -/
theorem detect_ok_iff :
    (∃ finding, (detect category abi code : Except Failure (Finding Float)) = .ok finding) ↔
      ¬ Malformed category abi code := by
  unfold Malformed
  rw [not_or, ← Abi.entriesOf_ok_iff, ← Detector.codeFor_ok_iff]
  constructor
  · rintro ⟨finding, detects⟩
    obtain ⟨entries, reads, detects⟩ := Attempt.bind_eq_ok.mp detects
    obtain ⟨bytes, looks, -⟩ := Attempt.bind_eq_ok.mp detects
    exact ⟨⟨entries, reads⟩, bytes, looks⟩
  · rintro ⟨⟨entries, reads⟩, bytes, looks⟩
    refine ⟨(Detector.inspect category entries bytes).conclude category, ?_⟩
    unfold detect
    rw [reads, looks]
    rfl

/-- What a detector finds lies in the unit interval, is of its category and tells of no failure. -/
theorem detect_finding {finding : Finding Float}
    (detects : (detect category abi code : Except Failure (Finding Float)) = .ok finding) :
    finding.category = category ∧ (0.0 ≤ finding.confidence ∧ finding.confidence ≤ 1.0) ∧
      ∀ failure, finding ≠ .failed category failure := by
  obtain ⟨entries, -, detects⟩ := Attempt.bind_eq_ok.mp detects
  obtain ⟨bytes, -, same⟩ := Attempt.bind_eq_ok.mp detects
  cases same
  refine ⟨?_, Detector.Attempted.conclude_unit _ _, fun failure same => ?_⟩
  · cases Detector.inspect category entries bytes <;> rfl
  · -- a failure is filed under a name that no observation is filed under
    have filed := inspect_metadata category entries bytes ("error", .text failure.message)
    rw [same] at filed
    exact filed List.mem_cons_self rfl

end

/-- **A safe detector reports a failure if and only if the input is malformed**, and a finding of its own
category in the unit interval otherwise. It never fails itself, whatever it is given. -/
theorem detectSafely_outcome (runs : Detector.Attempted.Runs) (length : Float) (category : Category)
    (abi : Abi.Input) (code : Value) :
    (∃ after, Detector.Attempted.detectSafely runs length category abi code =
      .ok (detectSafely category abi code, after)) ∧
    ((∃ failure, (detectSafely category abi code : Finding Float) = .failed category failure) ↔
      Malformed category abi code) ∧
    (¬ Malformed category abi code →
      ∃ finding, Detector.Attempted.detect category abi code = .ok finding ∧
        (detectSafely category abi code : Finding Float) = finding ∧
        finding.category = category ∧ 0.0 ≤ finding.confidence ∧ finding.confidence ≤ 1.0) := by
  obtain ⟨average, safe⟩ := Detector.Attempted.detectSafely_eq runs length category abi code
  refine ⟨⟨_, safe⟩, ?_⟩
  have outcome := @detect_ok_iff category abi code
  rw [Detector.Attempted.detect_eq]
  unfold detectSafely
  cases detects : (detect category abi code : Except Failure (Finding Float)) with
  | error failure =>
    rw [detects] at outcome
    have malformed : Malformed category abi code := by
      by_contra usable
      obtain ⟨finding, detects⟩ := outcome.mpr usable
      cases detects
    exact ⟨iff_of_true ⟨failure, rfl⟩ malformed, fun usable => absurd malformed usable⟩
  | ok finding =>
    rw [detects] at outcome
    have usable := outcome.mp ⟨finding, rfl⟩
    obtain ⟨own, unit, sound⟩ := detect_finding detects
    exact ⟨iff_of_false (not_exists.mpr sound) usable, fun _ => ⟨finding, rfl, rfl, own, unit⟩⟩

/-- An event without a name and a code that cannot be read are nothing that the detector of deceptive
events fails on. -/
theorem detectSafely_outcome_nameless :
    let abi : Abi.Input := .ofEntries [⟨.event, none, [], [], none⟩]
    ¬ Malformed .deceptiveEvents abi (.text "no code") ∧
      ∃ finding, Detector.Attempted.detect .deceptiveEvents abi (.text "no code") = .ok finding ∧
        finding.category = .deceptiveEvents ∧ 0.0 ≤ finding.confidence ∧ finding.confidence ≤ 1.0 := by
  intro abi
  have usable : ¬ Malformed .deceptiveEvents abi (.text "no code") := by
    rintro (⟨-, unparsed, -⟩ | ⟨looks | looks, -⟩)
    · exact unparsed _ rfl
    · cases looks
    · cases looks
  obtain ⟨-, -, finds⟩ := detectSafely_outcome ⟨{}, 0.0⟩ 1.0 .deceptiveEvents abi (.text "no code")
  obtain ⟨finding, detects, -, own, unit⟩ := finds usable
  exact ⟨usable, finding, detects, own, unit⟩

end ContractRisk
