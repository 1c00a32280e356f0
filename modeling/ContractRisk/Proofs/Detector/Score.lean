/-
**The score of a summary**, over exact fractions.

What is detected has a confidence above a fifth, the least of the thresholds, and so has the mean. The
least multiplier is eight fifteenths of the greatest, so that more than ten hundredths are left before
rounding, and what counts for further categories is only added. Nothing of this depends on the order in
which the categories were selected.

* `detectSafely_above`, `Summary.riskScoreOf_bounds`: what is detected is above a fifth, and the score of
  such findings is one from eleven to a hundred;
* `Summary.severityOf_perm`, `Summary.confidenceOf_perm`: findings in any order have the same severity and
  confidence;
* `summarize_score`: so it is for every summary, and a selection in another order is summed up alike.
-/

import ContractRisk.Proofs.Detector.Selection
import ContractRisk.Proofs.Scoring.Rearranged
import Mathlib.Data.List.Perm.Basic

namespace ContractRisk

/-! ### Rounding -/

namespace Decimal

/-- Ten hundredths and two thirds of another round to eleven at least. -/
theorem nearest_hundredths {share : Rat} (low : 8 / 75 ≤ share) (high : share ≤ 1) :
    11 ≤ nearest (share * 100.0) ∧ nearest (share * 100.0) ≤ 100 := by
  obtain ⟨up, down⟩ := nearest_near (show 0 ≤ share * 100.0 by linarith)
  have moreThanTen : (10 : Rat) < nearest (share * 100.0) := by linarith
  have lessThanNext : (nearest (share * 100.0) : Rat) < 101 := by linarith
  norm_cast at moreThanTen lessThanNext
  omega

end Decimal

/-! ### What is detected -/

theorem Finding.fifth_le_threshold (category : Category) : (1 / 5 : Rat) ≤ threshold category := by
  cases category <;> norm_num [threshold]

/-- No inspection finds a category below its threshold. -/
theorem Inspection.conclude_above {category : Category} {inspection : Inspection Rat}
    (found : (inspection.conclude category).detected = true) :
    Finding.threshold category < (inspection.conclude category).confidence := by
  cases inspection with
  | skipped reason metadata => exact absurd found Bool.false_ne_true
  | observed seen => exact of_decide_eq_true (Bool.and_eq_true_iff.mp found).1

/-- **What is detected has a confidence above a fifth.** -/
theorem detectSafely_above {category : Category} {abi : Abi.Input} {code : Value}
    (found : (detectSafely category abi code : Finding Rat).detected = true) :
    1 / 5 < (detectSafely category abi code : Finding Rat).confidence := by
  refine (Finding.fifth_le_threshold category).trans_lt ?_
  unfold detectSafely at found ⊢
  cases detects : (detect category abi code : Except Failure (Finding Rat)) with
  | error failure =>
    rw [detects] at found
    exact absurd found Bool.false_ne_true
  | ok finding =>
    rw [detects] at found
    obtain ⟨entries, -, detects⟩ := Attempt.bind_eq_ok.mp detects
    obtain ⟨bytes, -, detects⟩ := Attempt.bind_eq_ok.mp detects
    cases detects
    exact Inspection.conclude_above found

namespace Summary

open Scoring

/-! ### The score -/

section

variable {found : Results Rat}

/-- The mean confidence is that of a verdict on an address that is not listed. -/
theorem confidenceOf_eq (found : Results Rat) : confidenceOf found = meanConfidence found false := rfl

/-- A mean of numbers above a fifth is not below it. -/
theorem confidenceOf_above (some : found ≠ []) (above : ∀ entry ∈ found, 1 / 5 < entry.2.confidence) :
    1 / 5 ≤ confidenceOf found := by
  have least : ∀ x ∈ found.map (·.2.confidence), 1 / 5 ≤ x := by
    simp only [List.forall_mem_map]
    exact fun entry member => (above entry member).le
  have greatest : ∀ x ∈ found.map (·.2.confidence), x ≤ greatestConfidence found := by
    simp only [List.forall_mem_map]
    exact fun entry => le_greatestConfidence
  rw [confidenceOf_eq, meanConfidence_eq some]
  exact (mean_bounds (by simpa using some) least greatest).1

theorem le_standardMultiplier (severity : Severity) : (4 / 5 : Rat) ≤ standardMultiplier severity := by
  cases severity <;> norm_num [standardMultiplier]

/-- **The score of what is detected is one from eleven to a hundred.** -/
theorem riskScoreOf_bounds (some : found ≠ []) (above : ∀ entry ∈ found, 1 / 5 < entry.2.confidence) :
    11 ≤ riskScoreOf found ∧ riskScoreOf found ≤ 100 := by
  have product : 1 / 5 * (4 / 5) ≤ confidenceOf found * standardMultiplier (severityOf found) := by
    have mean := confidenceOf_above some above
    exact mul_le_mul mean (le_standardMultiplier _) (by norm_num) (by linarith)
  have critical : standardMultiplier .critical = (3 / 2 : Rat) := by norm_num [standardMultiplier]
  have further : (0 : Rat) ≤ (found.length - 1 : Nat) := Nat.cast_nonneg _
  have least : 8 / 75 ≤ confidenceOf found * standardMultiplier (severityOf found) /
      standardMultiplier .critical + 0.1 * (found.length - 1 : Nat) := by
    rw [critical]
    linarith
  unfold riskScoreOf
  rw [if_neg (by simpa using some)]
  dsimp only
  rw [capped_eq_min]
  exact Decimal.nearest_hundredths (le_min least (by norm_num)) (min_le_right _ _)

theorem riskScoreOf_eq_zero_iff (above : ∀ entry ∈ found, 1 / 5 < entry.2.confidence) :
    riskScoreOf found = 0 ↔ found = [] := by
  constructor
  · intro zero
    by_contra some
    have least := (riskScoreOf_bounds some above).1
    omega
  · rintro rfl
    rfl

end

/-! ### Findings in any order -/

/-- Of three severities the first is compared with the others in any order. -/
theorem graver_right_comm (first second third : Severity) :
    (first.graver second).graver third = (first.graver third).graver second := by
  cases first <;> cases second <;> cases third <;> rfl

theorem severityOf_perm {α : Type} {found found' : Results α} (perm : found.Perm found') :
    severityOf found = severityOf found' := by
  unfold severityOf
  rw [perm.length_eq, (perm.map _).foldl_eq' fun _ _ _ _ _ => graver_right_comm _ _ _]

variable {found found' : Results Rat}

theorem confidenceOf_perm (perm : found.Perm found') : confidenceOf found = confidenceOf found' := by
  unfold confidenceOf
  rw [perm.isEmpty_eq, perm.length_eq, total_eq_sum, total_eq_sum, (perm.map _).sum_eq]

theorem riskScoreOf_perm (perm : found.Perm found') : riskScoreOf found = riskScoreOf found' := by
  unfold riskScoreOf
  rw [perm.isEmpty_eq, perm.length_eq, confidenceOf_perm perm, severityOf_perm perm]

/-! ### Summaries -/

/-- **Summaries that say the same**, although they may list it in another order. -/
structure Matches (summary other : Summary Rat) : Prop where
  results : ∀ category, summary.results.get? category = other.results.get? category
  detected : summary.detected = other.detected
  confidence : summary.confidence = other.confidence
  severity : summary.severity = other.severity
  riskScore : summary.riskScore = other.riskScore
  patterns : summary.patterns.Perm other.patterns

/-- **The score of a summary**: none if no category is detected, else one from eleven to a hundred. -/
structure Scored (summary : Summary Rat) : Prop where
  detected : summary.detected = true ↔ ∃ entry ∈ summary.results, entry.2.detected = true
  none : summary.riskScore = 0 ↔ summary.detected = false
  some : summary.detected = true → 11 ≤ summary.riskScore ∧ summary.riskScore ≤ 100

end Summary

variable (abi : Abi.Input) (code : Value) (included excluded : List Category)

theorem summaryOf_scored : (summaryOf abi code included excluded : Summary Rat).Scored := by
  let results : Scoring.Results Rat := (Summary.once (included.filter (!excluded.contains ·))).map
    fun category => (category, detectSafely category abi code)
  let found := results.filter (·.2.detected)
  have above : ∀ entry ∈ found, 1 / 5 < entry.2.confidence := by
    intro entry member
    obtain ⟨member, detected⟩ := List.mem_filter.mp member
    obtain ⟨category, -, rfl⟩ := List.mem_map.mp member
    exact detectSafely_above detected
  have some_iff : (!found.isEmpty) = true ↔ found ≠ [] := by simp
  refine ⟨?_, ?_, ?_⟩
  · show (!found.isEmpty) = true ↔ ∃ entry ∈ results, entry.2.detected = true
    rw [some_iff, ne_eq, List.filter_eq_nil_iff]
    simp
  · show Summary.riskScoreOf found = 0 ↔ (!found.isEmpty) = false
    rw [Summary.riskScoreOf_eq_zero_iff above]
    simp
  · intro detected
    exact Summary.riskScoreOf_bounds (some_iff.mp detected) above

/-- Categories in another order, with the same repetitions, are summed up alike. -/
theorem summaryOf_matches {included' : List Category} (perm : included.Perm included') :
    (summaryOf abi code included excluded : Summary Rat).Matches
      (summaryOf abi code included' excluded) := by
  have selects := Summary.selection included excluded
  let resultOf (category : Category) : Category × Finding Rat := (category, detectSafely category abi code)
  have results := (selects.perm (Summary.selection included' excluded) perm).map resultOf
  have once : ((Summary.once (included.filter (!excluded.contains ·))).map resultOf |>.map (·.1)).Nodup := by
    simpa [Function.comp_def, resultOf] using selects.once
  have found := results.filter (·.2.detected)
  exact {
    results := Scoring.Results.get?_perm results once
    detected := congrArg (!·) found.isEmpty_eq
    confidence := Summary.confidenceOf_perm found
    severity := Summary.severityOf_perm found
    riskScore := Summary.riskScoreOf_perm found
    patterns := found.map _ }

/-- **A summary has a score from eleven to a hundred, or finds nothing**, whatever it is made from, and
categories that are selected in another order are summed up alike. -/
theorem summarize_score : ∃ summary : Summary Rat,
    summarize abi code included excluded = .ok summary ∧ summary.Scored ∧
      ∀ included', included.Perm included' → ∃ other : Summary Rat,
        summarize abi code included' excluded = .ok other ∧ summary.Matches other :=
  ⟨_, summarize_eq abi code included excluded, summaryOf_scored abi code included excluded,
    fun included' perm => ⟨_, summarize_eq abi code included' excluded,
      summaryOf_matches abi code included excluded perm⟩⟩

/-- Thirteen functions, of which seven set a recipient. -/
def sparseSetters : List Abi.Entry :=
  List.replicate 7 ⟨.function, some "setTreasury", [⟨"treasury", "address", none⟩], [], none⟩ ++
    List.replicate 6 ⟨.function, some "pause", [], [], none⟩

/-- The least score is reached, and categories that are selected twice in either order reach it alike. -/
theorem summarize_score_sparseSetters :
    let abi : Abi.Input := .ofEntries sparseSetters
    let included : List Category := [.hiddenRedirection, .fakeBalance, .hiddenRedirection]
    let included' : List Category := [.hiddenRedirection, .hiddenRedirection, .fakeBalance]
    included.Perm included' ∧ ∃ summary other : Summary Rat,
      summarize abi .null included [] = .ok summary ∧ summary.Scored ∧
        summarize abi .null included' [] = .ok other ∧ summary.Matches other ∧
        summary.riskScore = 11 := by
  intro abi included included'
  have perm : included.Perm included' := by decide
  obtain ⟨summary, summed, scored, same⟩ := summarize_score abi .null included []
  obtain ⟨other, summed', alike⟩ := same included' perm
  have least : summary = summaryOf abi .null included [] := by
    rw [summarize_eq] at summed
    exact (Except.ok.inj summed).symm
  refine ⟨perm, summary, other, summed, scored, summed', alike, ?_⟩
  rw [least]
  decide +kernel

end ContractRisk
