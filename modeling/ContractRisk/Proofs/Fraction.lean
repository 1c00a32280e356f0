/-
**Scores over exact fractions.**

Scores are computed over any kind of number. Over the fractions nothing is rounded, so that what is
capped, clamped or summed can be compared:

* `capped_eq_min`, `clamped_eq`, `smaller_eq_min` — the three ways to bound a number are the least and
  the greatest of two, and therefore keep the order (`capped_mono`, `clamped_mono`);
* `total_eq_sum` — a sum from the left is the sum of the list.
-/

import Mathlib.Algebra.Order.Field.Rat
import Mathlib.Algebra.Order.BigOperators.Group.List
import Mathlib.Tactic.NormNum
import ContractRisk.Scoring.Assessment

namespace ContractRisk

/-- A fraction is written as its quotient. -/
instance renderedRat : Decimal.Rendered Rat where
  negative x := decide (x < 0)
  magnitude x := |x|
  text x := toString x

/-! ### Bounds -/

theorem capped_eq_min (x : Rat) : capped x = min x 1 := by
  unfold capped
  rw [show (1.0 : Rat) = 1 by norm_num]
  split
  · rename_i below
    exact (min_eq_left below.le).symm
  · rename_i above
    exact (min_eq_right (not_lt.mp above)).symm

theorem clamped_eq (x : Rat) : clamped x = max 0 (min x 1) := by
  unfold clamped
  rw [capped_eq_min, show (0.0 : Rat) = 0 by norm_num]
  split
  · rename_i positive
    exact (max_eq_right positive.le).symm
  · rename_i negative
    exact (max_eq_left (not_lt.mp negative)).symm

theorem capped_mono {x y : Rat} (le : x ≤ y) : capped x ≤ capped y := by
  rw [capped_eq_min, capped_eq_min]
  exact min_le_min_right 1 le

theorem clamped_mono {x y : Rat} (le : x ≤ y) : clamped x ≤ clamped y := by
  rw [clamped_eq, clamped_eq]
  exact max_le_max_left 0 (min_le_min_right 1 le)

theorem clamped_nonneg (x : Rat) : 0 ≤ clamped x := by
  rw [clamped_eq]
  exact le_max_left 0 _

namespace Scoring

theorem smaller_eq_min (x y : Rat) : smaller x y = min x y := by
  unfold smaller
  split
  · rename_i below
    exact (min_eq_right below.le).symm
  · rename_i above
    exact (min_eq_left (not_lt.mp above)).symm

/-! ### Sums -/

theorem total_eq_sum (numbers : List Rat) : total numbers = numbers.sum := by
  unfold total
  rw [List.sum_eq_foldl]
  norm_num

end Scoring

/-! ### Findings -/

namespace Finding

/-- **A finding says at most what another one says.** -/
structure AtMost (finding more : Finding Rat) : Prop where
  confidence : finding.confidence ≤ more.confidence
  severity : finding.severity.rank ≤ more.severity.rank
  evidence : finding.evidence.Sublist more.evidence
  detected : finding.detected = true → more.detected = true

/-- The confidence of a finding is never negative. -/
theorem conclude_nonneg (category : Category) (inspection : Inspection Rat) :
    0 ≤ (inspection.conclude category).confidence := by
  cases inspection with
  | skipped reason metadata =>
    show (0 : Rat) ≤ 0.0
    norm_num
  | observed seen => exact clamped_nonneg _

/-- A detector that had nothing to look at says nothing. -/
theorem skipped_atMost (category : Category) (reason : String) (metadata : List (String × Value))
    (inspection : Inspection Rat) :
    ((Inspection.skipped reason metadata).conclude category : Finding Rat).AtMost
      (inspection.conclude category) where
  confidence := by
    refine le_trans (le_of_eq ?_) (conclude_nonneg category inspection)
    show (0.0 : Rat) = 0
    norm_num
  severity := Nat.zero_le _
  evidence := List.nil_sublist _
  detected := by
    intro found
    exact absurd found Bool.false_ne_true

/-- More confidence, severity and evidence never say less. -/
theorem ofObservation_atMost (category : Category) {seen more : Observation Rat}
    (confidence : seen.confidence ≤ more.confidence)
    (severity : seen.severity.rank ≤ more.severity.rank)
    (evidence : seen.evidence.Sublist more.evidence) :
    (ofObservation category seen).AtMost (ofObservation category more) where
  confidence := clamped_mono confidence
  severity := severity
  evidence := evidence
  detected := by
    unfold ofObservation
    simp only [Bool.and_eq_true, decide_eq_true_eq, Bool.not_eq_true', List.isEmpty_eq_false_iff]
    rintro ⟨above, some⟩
    refine ⟨above.trans_le (clamped_mono confidence), fun none => some ?_⟩
    rw [none] at evidence
    exact List.sublist_nil.mp evidence

end Finding

end ContractRisk
