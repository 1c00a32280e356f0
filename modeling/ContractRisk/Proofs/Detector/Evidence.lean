/-
**No confidence without evidence.**

A detector computes its confidence from the sizes of its buckets, and its lines of evidence from what
lies in them. Some lines weigh nothing, such as that of a malformed event, but each bucket that weighs
has a line for everything in it (`improperLines_ne_nil` where the lines depend on what is wrong). So over
exact fractions the test for evidence never decides: a confidence above the threshold is explained.

* `FakeBalance.confidence_silent` and its like: without a line of evidence the confidence is zero;
* `Explained.conclude`: hence a category is detected exactly if its confidence is above the threshold;
* `detect_decided`: this holds of each detector, on every input that can be read.
-/

import ContractRisk.Proofs.Attempt
import ContractRisk.Proofs.Fraction

namespace ContractRisk

open Attempt Abi

/-! ### Conclusions -/

theorem capped_zero : capped (0 : Rat) = 0 := by simp [capped_eq_min]

theorem clamped_zero : clamped (0 : Rat) = 0 := by simp [clamped_eq]

theorem Finding.threshold_pos (category : Category) : (0 : Rat) < threshold category := by
  cases category <;> norm_num [threshold]

/-- **An inspection that explains itself**: it shows no confidence without a line of evidence. -/
def Inspection.Explained (inspection : Inspection Rat) : Prop :=
  ∀ seen, inspection = .observed seen → seen.evidence = [] → seen.confidence = 0

/-- An inspection that may be skipped explains itself if what is observed else does. -/
theorem Inspection.explained_ite {nothing : Prop} [Decidable nothing] {reason : String}
    {metadata : List (String × Value)} {seen : Observation Rat}
    (silent : seen.evidence = [] → seen.confidence = 0) :
    Inspection.Explained (if nothing then .skipped reason metadata else .observed seen) := by
  intro seen' observed
  split at observed
  · cases observed
  · cases observed
    exact silent

/-- **A finding that its confidence decides**: the category is detected exactly if the confidence is
above the threshold, and there is a line of evidence for every confidence but zero. -/
structure Finding.Decided (finding : Finding Rat) : Prop where
  detected : finding.detected = true ↔ threshold finding.category < finding.confidence
  silent : finding.evidence = [] → finding.confidence = 0
  told : 0 < finding.confidence → finding.evidence ≠ []

theorem Inspection.conclude_category (category : Category) (inspection : Inspection Rat) :
    (inspection.conclude category).category = category := by
  cases inspection <;> rfl

/-- **An inspection that explains itself is decided by its confidence.** -/
theorem Inspection.Explained.conclude {inspection : Inspection Rat} (explained : inspection.Explained)
    (category : Category) : (inspection.conclude category).Decided := by
  have positive := Finding.threshold_pos category
  cases inspection with
  | skipped reason metadata =>
    have nothing : (0.0 : Rat) = 0 := by norm_num
    refine ⟨?_, fun _ => nothing, fun some => absurd nothing some.ne'⟩
    show false = true ↔ Finding.threshold category < (0.0 : Rat)
    simp [nothing, positive.le]
  | observed seen =>
    have silent (none : seen.evidence = []) : clamped seen.confidence = 0 := by
      rw [explained seen rfl none, clamped_zero]
    refine ⟨?_, silent, fun some none => some.ne' (silent none)⟩
    show (decide (Finding.threshold category < clamped seen.confidence) && !seen.evidence.isEmpty) =
      true ↔ Finding.threshold category < clamped seen.confidence
    by_cases none : seen.evidence = []
    · simp [silent none, positive.le]
    · simp [none]

namespace Detector

/-! ### Buckets and lines -/

namespace FakeBalance

/-- An improper function is charged with something. -/
theorem improperLines_ne_nil {function : Entry} (improper : isImproper function = true) :
    improperLines function ≠ [] := by
  unfold isImproper at improper
  unfold improperLines
  cases known : standardShape? function with
  | none => simp [known] at improper
  | some shape =>
    cases bad : badReturn? function with
    | none => simp_all
    | some types => simp

theorem improper_silent {entries : List Entry}
    (silent : (improper entries).flatMap improperLines = []) : improper entries = [] := by
  refine List.eq_nil_iff_forall_not_mem.mpr fun function member => ?_
  have charged := (List.mem_filter.mp member).2
  exact improperLines_ne_nil charged (List.flatMap_eq_nil_iff.mp silent function member)

theorem confidence_silent {entries : List Entry} (silent : evidence entries = []) :
    (confidence entries : Rat) = 0 := by
  simp only [evidence, List.append_eq_nil_iff, List.map_eq_nil_iff] at silent
  obtain ⟨⟨⟨times, improper⟩, -⟩, -⟩ := silent
  simp [confidence, times, improper_silent improper, capped_zero]

end FakeBalance

namespace HiddenRedirection

theorem confidence_silent {found : List Signal} {entries : List Entry}
    (silent : evidence found entries = []) : (confidence found entries : Rat) = 0 := by
  simp only [evidence, List.append_eq_nil_iff, List.map_eq_nil_iff] at silent
  obtain ⟨⟨⟨calls, destructs⟩, literals⟩, setters⟩ := silent
  simp [confidence, codeScore, setterScore, calls, destructs, literals, setters, capped_zero]

end HiddenRedirection

namespace NonFunctionalTransfer

theorem confidence_silent {entries : List Entry} {storageLess : Bool}
    (silent : evidence entries storageLess = []) : (confidence entries storageLess : Rat) = 0 := by
  simp only [evidence, List.append_eq_nil_iff, List.map_eq_nil_iff] at silent
  obtain ⟨⟨⟨⟨views, broken⟩, orphans⟩, -⟩, -⟩ := silent
  simp [confidence, views, broken, orphans, capped_zero]

end NonFunctionalTransfer

namespace DeceptiveEvents

theorem confidence_silent {entries : List Entry} (silent : evidence entries = []) :
    (confidence entries : Rat) = 0 := by
  simp only [evidence, List.append_eq_nil_iff, List.map_eq_nil_iff] at silent
  obtain ⟨⟨unbacked, silent⟩, misordered⟩ := silent
  simp [confidence, unbacked, silent, misordered, capped_zero]

end DeceptiveEvents

/-! ### All detectors -/

/-- **Every detector explains itself.** -/
theorem inspect_explained (category : Category) (entries : List Entry) (code : List UInt8) :
    (inspect category entries code).Explained := by
  cases category with
  | fakeBalance =>
    intro seen observed
    cases observed
    exact FakeBalance.confidence_silent
  | hiddenRedirection => exact Inspection.explained_ite HiddenRedirection.confidence_silent
  | nonFunctionalTransfer => exact Inspection.explained_ite NonFunctionalTransfer.confidence_silent
  | deceptiveEvents => exact Inspection.explained_ite DeceptiveEvents.confidence_silent

end Detector

/-- **The test for evidence never decides.** On every input that can be read a detector comes to a
finding of its category that its confidence decides. -/
theorem detect_decided {category : Category} {abi : Abi.Input} {entries : List Entry} {code : Value}
    {bytes : List UInt8} (read : entriesOf abi = .ok entries)
    (accepted : Detector.codeFor category code = .ok bytes) :
    ∃ finding : Finding Rat, detect category abi code = .ok finding ∧ finding.category = category ∧
      finding.Decided := by
  refine ⟨(Detector.inspect category entries bytes).conclude category, ?_,
    Inspection.conclude_category category _, ?_⟩
  · exact bind_eq_ok.mpr ⟨entries, read, bind_eq_ok.mpr ⟨bytes, accepted, rfl⟩⟩
  · exact (Detector.inspect_explained category entries bytes).conclude category

/-- A malformed event is a line of evidence that weighs nothing, and nothing is detected. -/
theorem detect_decided_malformedEvent :
    let abi : Abi.Input := .ofEntries [⟨.event, some "Transfer", [], [], none⟩]
    entriesOf abi = .ok [⟨.event, some "Transfer", [], [], none⟩] ∧
      Detector.codeFor .fakeBalance .null = .ok [] ∧
      ∃ finding : Finding Rat, detect .fakeBalance abi .null = .ok finding ∧
        finding.category = .fakeBalance ∧ finding.Decided ∧ finding.evidence ≠ [] ∧
        finding.detected = false := by
  intro abi
  have read : entriesOf abi = .ok [⟨.event, some "Transfer", [], [], none⟩] := rfl
  have accepted : Detector.codeFor .fakeBalance .null = .ok [] := rfl
  obtain ⟨finding, detects, own, decided⟩ := detect_decided read accepted
  refine ⟨read, accepted, finding, detects, own, decided, ?_⟩
  cases detects
  exact ⟨by decide, by decide +kernel⟩

end ContractRisk
