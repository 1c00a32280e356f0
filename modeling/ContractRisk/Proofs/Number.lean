/-
**Bounds on numbers of any kind.**

A bound is any number, also one that is not whole, not finite, or no number at all. What a size has room
for comes in order all the same: if it has room for one and for some, it has room for fewer
(`fits_fewer`). But a number that is none (`isUndefined`) is on no side of a bound: what is not at most
zero need not be above it, and what is not below one need not be at least one (`not_le_iff`,
`not_lt_iff`).
-/

import ContractRisk.Number
import Mathlib.Algebra.Order.Ring.Unbundled.Rat

namespace ContractRisk.Number

open Float.Model

/-- The order of floating numbers, by their parts. -/
theorem float_lt_iff (a b : Float) :
    a < b ↔ (a.toModel.unpack.compare b.toModel.unpack == some .lt) = true := by
  show Float.lt a b = true ↔ _
  unfold Float.lt
  rw [decide_eq_true_eq]
  exact Iff.rfl

/-- A floating number that is not finite and not below a finite one is not below any. -/
theorem not_lt_of_infinite {x one : Float} (infinite : x.isFinite = false) (finite : one.isFinite = true)
    (above : ¬ x < one) (y : Float) : ¬ x < y := by
  rw [float_lt_iff] at above ⊢
  have parts : x.toModel.unpack.isFinite = false := infinite
  have whole : one.toModel.unpack.isFinite = true := finite
  cases form : x.toModel.unpack with
  | infinity sign =>
    rw [form] at above
    cases sign with
    | positive =>
      cases y.toModel.unpack with
      | infinity other => cases other <;> exact Bool.false_ne_true
      | _ => exact Bool.false_ne_true
    | negative =>
      refine absurd ?_ above
      cases unit : one.toModel.unpack with
      | infinity | notANumber =>
        rw [unit] at whole
        cases whole
      | zero | finite => rfl
  | notANumber => exact Bool.false_ne_true
  | zero | finite =>
    rw [form] at parts
    cases parts

/-- **A size that has room for some has room for fewer.** -/
theorem fits_fewer {size : Number} {count most : Nat} (roomy : ¬ size < 1)
    (fits : ¬ size < ((most : Nat) : Number)) (fewer : count ≤ most) : ¬ size < ((count : Nat) : Number) := by
  cases size with
  | int n =>
    intro below
    have less : n < count := of_decide_eq_true below
    exact fits (decide_eq_true (by omega))
  | float x =>
    have order (n : Nat) : (Number.float x < ((n : Nat) : Number)) ↔
        if x.isFinite then Decimal.exactly x < ((n : Int) : Rat) else x < Float.ofInt n := by
      show Number.below (.float x) (.int n) = true ↔ _
      simp only [below, rational?]
      cases x.isFinite with
      | true => simp
      | false =>
        rw [if_neg Bool.false_ne_true]
        exact decide_eq_true_iff
    rw [order] at fits ⊢
    have roomy : ¬ if x.isFinite then Decimal.exactly x < ((1 : Int) : Rat) else x < Float.ofInt 1 :=
      fun below => roomy ((order 1).mpr below)
    cases finite : x.isFinite with
    | true =>
      rw [finite, if_pos rfl] at fits
      rw [if_pos rfl]
      refine fun below => fits (lt_of_lt_of_le below ?_)
      exact_mod_cast fewer
    | false =>
      rw [finite, if_neg Bool.false_ne_true] at roomy
      rw [if_neg Bool.false_ne_true]
      exact not_lt_of_infinite finite (by decide +kernel) roomy _

/-! ### Numbers that are none -/

/-- Whether a number is the floating one that compares with none. -/
def isUndefined : Number → Bool
  | int _ => false
  | float x => x.isNaN

theorem float_le_iff (a b : Float) :
    a ≤ b ↔ (a.toModel.unpack.compare b.toModel.unpack).any (·.isLE) = true := by
  show Float.le a b = true ↔ _
  unfold Float.le
  rw [decide_eq_true_eq]
  exact Iff.rfl

theorem isNaN_of_isFinite {x : Float} (finite : x.isFinite = true) : x.isNaN = false := by
  have parts : x.toModel.unpack.isFinite = true := finite
  show x.toModel.unpack.isNaN = false
  cases form : x.toModel.unpack with
  | notANumber =>
    rw [form] at parts
    cases parts
  | _ => rfl

/-- A floating number that is not finite lies on one side of each finite one, unless it is no number. -/
theorem infinite_sides {x bound : Float} (infinite : x.isFinite = false) (finite : bound.isFinite = true) :
    (¬ x ≤ bound ↔ (bound < x ↔ x.isNaN = false)) ∧ (¬ x < bound ↔ (bound ≤ x ↔ x.isNaN = false)) := by
  have parts : x.toModel.unpack.isFinite = false := infinite
  have whole : bound.toModel.unpack.isFinite = true := finite
  have undefined : x.isNaN = x.toModel.unpack.isNaN := rfl
  rw [float_lt_iff, float_lt_iff, float_le_iff, float_le_iff, undefined]
  cases form : x.toModel.unpack with
  | zero | finite =>
    rw [form] at parts
    cases parts
  | infinity sign =>
    cases unit : bound.toModel.unpack with
    | infinity | notANumber =>
      rw [unit] at whole
      cases whole
    | zero | finite =>
      cases sign with
      | positive =>
        show (¬ false = true ↔ (true = true ↔ false = false)) ∧
          (¬ false = true ↔ (true = true ↔ false = false))
        decide
      | negative =>
        show (¬ true = true ↔ (false = true ↔ false = false)) ∧
          (¬ true = true ↔ (false = true ↔ false = false))
        decide
  | notANumber =>
    cases bound.toModel.unpack <;>
    · show (¬ false = true ↔ (false = true ↔ true = false)) ∧
        (¬ false = true ↔ (false = true ↔ true = false))
      decide

/-- **What is not at most a whole number** is above it exactly if it is a number at all. -/
theorem not_le_iff {n : Number} {bound : Int} (finite : (Float.ofInt bound).isFinite = true) :
    ¬ n ≤ int bound ↔ (int bound < n ↔ n.isUndefined = false) := by
  show ¬ atMost _ _ = true ↔ (below _ _ = true ↔ _)
  cases n with
  | int m => simp [below, atMost, isUndefined]
  | float x =>
    cases whole : x.isFinite with
    | true =>
      simp only [below, atMost, rational?, whole, isUndefined, isNaN_of_isFinite whole, decide_eq_true_eq,
        if_true, not_le, iff_true]
    | false =>
      simp only [below, atMost, rational?, whole, isUndefined, decide_eq_true_eq, Bool.false_eq_true,
        if_false]
      exact (infinite_sides whole finite).1

/-- **What is not below a whole number** is at least that exactly if it is a number at all. -/
theorem not_lt_iff {n : Number} {bound : Int} (finite : (Float.ofInt bound).isFinite = true) :
    ¬ n < int bound ↔ (int bound ≤ n ↔ n.isUndefined = false) := by
  show ¬ below _ _ = true ↔ (atMost _ _ = true ↔ _)
  cases n with
  | int m => simp [below, atMost, isUndefined]
  | float x =>
    cases whole : x.isFinite with
    | true =>
      simp only [below, atMost, rational?, whole, isUndefined, isNaN_of_isFinite whole, decide_eq_true_eq,
        if_true, not_lt, iff_true]
    | false =>
      simp only [below, atMost, rational?, whole, isUndefined, decide_eq_true_eq, Bool.false_eq_true,
        if_false]
      exact (infinite_sides whole finite).2

end ContractRisk.Number
