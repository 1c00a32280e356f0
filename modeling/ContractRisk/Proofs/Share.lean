/-
**Shares stay shares.**

Score and confidence of a verdict are shares of one, and the score of a summary is one of a hundred. The
range is checked once more when the record of it is made, and what is rounded on the way could be out of
range by then. `LawfulShares` says of a kind of number that it is not: what is clamped is a share, and
so is the mean of as many shares as there are categories. No check fails for such numbers:

* `detectSafely_share`: the confidence of every finding is a share;
* `detected_length_le`: of a table no more findings are detected than there are categories;
* `assess_checked`: hence no verdict is refused.
-/

import ContractRisk.Proofs.Scoring.Results
import ContractRisk.Scoring.Aggregate

namespace ContractRisk

open Scoring

variable {α : Type} [LE α] [OfScientific α]

/-- A share of one. -/
def IsShare (x : α) : Prop := 0.0 ≤ x ∧ x ≤ 1.0

/-- A share is in range. -/
theorem IsShare.unit [DecidableLE α] {x : α} (share : IsShare x) : Shape.unit x = .ok x := by
  unfold Shape.unit
  simp [share.1, share.2]

/-- **Numbers whose shares stay shares**, as far as the scores of up to four categories go. -/
class LawfulShares (α : Type) [Add α] [Mul α] [Div α] [LT α] [LE α] [DecidableLT α] [OfScientific α]
    [NatCast α] [Decimal.Rendered α] : Prop where
  zero : IsShare (0.0 : α)
  one : IsShare (1.0 : α)
  clamped (x : α) : IsShare (clamped x)
  mean {shares : List α} (some : shares ≠ []) (few : shares.length ≤ Category.all.length)
    (all : ∀ x ∈ shares, IsShare x) : IsShare (total shares / (shares.length : Nat))
  /-- A share that is graded by a severity, with a tenth for each of up to three further categories, is
  one of a hundred. -/
  percentage {x : α} (share : IsShare x) (severity : Severity) {further : Nat}
    (few : further < Category.all.length) :
    let scaled := x * standardMultiplier severity / standardMultiplier .critical + 0.1 * further
    0 ≤ Decimal.nearest (capped scaled * 100.0) ∧ Decimal.nearest (capped scaled * 100.0) ≤ 100

variable [Add α] [Mul α] [Div α] [LT α] [DecidableLT α] [NatCast α] [Decimal.Rendered α]
  [LawfulShares α]

/-! ### Findings -/

/-- An inspection comes to a share. -/
theorem Inspection.conclude_share (category : Category) (inspection : Inspection α) :
    IsShare (inspection.conclude category).confidence := by
  cases inspection with
  | skipped reason metadata => exact LawfulShares.zero
  | observed seen => exact LawfulShares.clamped _

/-- **The confidence of every finding is a share**, also of one that tells of a failure. -/
theorem detectSafely_share [DecidableLE α] (category : Category) (abi : Abi.Input) (code : Value) :
    IsShare (detectSafely category abi code : Finding α).confidence := by
  unfold detectSafely
  cases run : (detect category abi code : Except Failure (Finding α)) with
  | error failure => exact LawfulShares.zero
  | ok finding =>
    obtain ⟨entries, _, run⟩ := Attempt.bind_eq_ok.mp run
    obtain ⟨bytes, _, same⟩ := Attempt.bind_eq_ok.mp run
    cases same
    exact Inspection.conclude_share _ _

/-! ### Verdicts -/

namespace Scoring

/-- **No more findings are detected than there are categories.** -/
theorem Results.detected_length_le {β : Type} (results : Results β) :
    results.detected.length ≤ Category.all.length :=
  Nat.le_trans (List.length_filter_le _ _) (List.length_filterMap_le _ _)

variable {results : Results α}

/-- The mean confidence of as many findings as there are categories is a share. -/
theorem meanConfidence_share (few : results.length ≤ Category.all.length)
    (shares : ∀ entry ∈ results, IsShare entry.2.confidence) (listed : Bool) :
    IsShare (meanConfidence results listed) := by
  unfold meanConfidence
  cases listed with
  | true => exact LawfulShares.one
  | false =>
    by_cases none : results = []
    · rw [none]
      exact LawfulShares.zero
    · have mean : IsShare (total (results.map (·.2.confidence)) /
          ((results.map (·.2.confidence)).length : Nat)) := by
        refine LawfulShares.mean (by simpa using none) (by rwa [List.length_map]) ?_
        simp only [List.forall_mem_map]
        exact shares
      rw [List.length_map] at mean
      simpa [none] using mean

variable [Sub α] [DecidableLE α]

/-- The final score is a share. -/
theorem finalScore_share (config : Config α) (found : Results α) (listed : Bool) :
    IsShare (finalScore config found listed) := by
  unfold finalScore
  cases listed with
  | true => exact LawfulShares.one
  | false => exact LawfulShares.clamped _

/-- **No verdict on findings with shares is refused.** -/
theorem assess_checked (shares : ∀ entry ∈ results, IsShare entry.2.confidence) (config : Config α)
    (listed : Bool) : (assess config results listed).checked = .ok (assess config results listed) := by
  have detected : ∀ entry ∈ results.detected, IsShare entry.2.confidence :=
    fun entry member => shares entry (Results.mem_of_mem_detected member)
  exact Assessment.checked_of_unit (finalScore_share config results.detected listed).unit
    (meanConfidence_share results.detected_length_le detected listed).unit

end Scoring

end ContractRisk
