/-
**Shares of exact fractions.**

A mean lies between any bounds of the numbers, and rounding to a whole number moves a number by a half at
most. Nothing else is rounded among the fractions, so that shares stay shares.
-/

import ContractRisk.Proofs.Fraction
import ContractRisk.Proofs.Share
import Mathlib.Tactic.Linarith

namespace ContractRisk

open Scoring

/-- A mean lies between any bounds of the numbers. -/
theorem mean_bounds {numbers : List Rat} {low high : Rat} (some : numbers ≠ [])
    (above : ∀ x ∈ numbers, low ≤ x) (below : ∀ x ∈ numbers, x ≤ high) :
    low ≤ numbers.sum / numbers.length ∧ numbers.sum / numbers.length ≤ high := by
  have length : (0 : Rat) < numbers.length := by
    exact_mod_cast List.length_pos_iff.mpr some
  have least := List.card_nsmul_le_sum numbers low above
  have greatest := List.sum_le_card_nsmul numbers high below
  rw [nsmul_eq_mul] at least greatest
  rw [le_div_iff₀ length, div_le_iff₀ length]
  constructor <;> linarith

/-! ### Rounding -/

namespace Decimal

/-- A quotient is rounded by half of its unit at most. -/
theorem roundQuotient_near (num : Nat) {den : Nat} (positive : 0 < den) :
    2 * num ≤ 2 * (den * roundQuotient num den) + den ∧
      2 * (den * roundQuotient num den) ≤ 2 * num + den := by
  have parts := Nat.div_add_mod num den
  have rest := Nat.mod_lt num positive
  unfold roundQuotient
  dsimp only
  split
  · rename_i down
    simp only [Bool.or_eq_true, Bool.and_eq_true, decide_eq_true_eq] at down
    omega
  · rename_i up
    simp only [Bool.or_eq_true, Bool.and_eq_true, decide_eq_true_eq] at up
    rw [Nat.mul_succ]
    omega

/-- **Rounding moves a number by a half at most.** -/
theorem nearest_near {x : Rat} (nonneg : 0 ≤ x) :
    x ≤ nearest x + 1 / 2 ∧ (nearest x : Rat) ≤ x + 1 / 2 := by
  have rounded : nearest x = roundQuotient x.num.toNat x.den := by
    unfold nearest Rendered.negative Rendered.magnitude renderedRat
    simp [abs_of_nonneg nonneg, nonneg]
  have den : (0 : Rat) < x.den := by exact_mod_cast x.den_pos
  have num : ((x.num.toNat : Nat) : Rat) = x.den * x := by
    have whole : ((x.num.toNat : Nat) : Int) = x.num := Int.toNat_of_nonneg (Rat.num_nonneg.mpr nonneg)
    rw [Rat.den_mul_eq_num, ← whole]
    rfl
  obtain ⟨below, above⟩ := roundQuotient_near x.num.toNat x.den_pos
  have below : 2 * (x.den * x) ≤ 2 * (x.den * (roundQuotient x.num.toNat x.den : Rat)) + x.den := by
    rw [← num]
    exact_mod_cast below
  have above : 2 * (x.den * (roundQuotient x.num.toNat x.den : Rat)) ≤ 2 * (x.den * x) + x.den := by
    rw [← num]
    exact_mod_cast above
  rw [rounded]
  constructor
  · refine le_of_mul_le_mul_left ?_ den
    push_cast
    linarith
  · refine le_of_mul_le_mul_left ?_ den
    push_cast
    linarith

/-- Rounding does not pass a whole number. -/
theorem nearest_bounds {x : Rat} {high : Nat} (nonneg : 0 ≤ x) (most : x ≤ high) :
    0 ≤ nearest x ∧ nearest x ≤ high := by
  obtain ⟨up, down⟩ := nearest_near nonneg
  have above : (-1 : Rat) < nearest x := by linarith
  have below : (nearest x : Rat) < high + 1 := by linarith
  norm_cast at above below
  omega

end Decimal

/-! ### Shares -/

/-- The shares of fractions. -/
theorem isShare_iff {x : Rat} : IsShare x ↔ 0 ≤ x ∧ x ≤ 1 := by
  unfold IsShare
  norm_num

theorem standardMultiplier_pos (severity : Severity) : (0 : Rat) < standardMultiplier severity := by
  cases severity <;> norm_num [standardMultiplier]

/-- **The shares of exact fractions are lawful.** -/
instance lawfulShares_fractions : LawfulShares Rat where
  zero := isShare_iff.mpr (by norm_num)
  one := isShare_iff.mpr (by norm_num)
  clamped x := by
    rw [isShare_iff, clamped_eq]
    exact ⟨le_max_left _ _, max_le (by norm_num) (min_le_right _ _)⟩
  mean some _ all := by
    rw [isShare_iff, total_eq_sum]
    exact mean_bounds some (fun x member => (isShare_iff.mp (all x member)).1)
      fun x member => (isShare_iff.mp (all x member)).2
  percentage := by
    intro x share severity further _ scaled
    have graded : 0 ≤ x * standardMultiplier severity / standardMultiplier .critical :=
      div_nonneg (mul_nonneg (isShare_iff.mp share).1 (standardMultiplier_pos severity).le)
        (standardMultiplier_pos .critical).le
    have nonneg : 0 ≤ scaled := add_nonneg graded (mul_nonneg (by norm_num) (Nat.cast_nonneg _))
    have low : 0 ≤ capped scaled := by
      rw [capped_eq_min]
      exact le_min nonneg zero_le_one
    have high : capped scaled ≤ 1 := by
      rw [capped_eq_min]
      exact min_le_right _ _
    exact @Decimal.nearest_bounds _ 100 (by linarith) (by norm_num; linarith)

end ContractRisk
