/-
**Shares of doubles.**

Whatever is clamped lies between zero and one, also a number that is none. The sum of `n` shares is not
above `n`, and divided by `n` it is not above one, since rounding does not pass a whole number. A hundred
times a share is a hundred at most, and is rounded to a whole number that is no more.
-/

import ContractRisk.Proofs.Double.Arithmetic
import Mathlib.Data.List.Induction

namespace ContractRisk

open Double Float.Model UnpackedFloat Scoring

namespace Double

/-! ### Order -/

theorem le_of_lt {a b : Float} (below : a < b) : a ≤ b := by
  rw [Number.float_lt_iff] at below
  rw [Number.float_le_iff, beq_iff_eq.mp below]
  rfl

/-- What is within a bound is not below zero. -/
theorem Within.nonneg {k : Nat} {x : Float} (within : Within k x) : 0.0 ≤ x := by
  have zero : (0.0 : Float).toModel.unpack = .zero .positive := rfl
  rw [Number.float_le_iff, zero]
  unfold Within at within
  cases form : x.toModel.unpack with
  | zero sign => rfl
  | finite sign mantissa exponent some =>
    rw [form] at within
    cases within
    rfl
  | infinity | notANumber =>
    rw [form] at within
    cases within

/-- Positive numbers are compared by the unit first. -/
theorem isLE_iff {m m' : Nat} {e e' : Int} :
    ((compare e e').then (compare m m')).isLE = true ↔ e < e' ∨ e = e' ∧ m ≤ m' := by
  rw [Ordering.isLE_then_iff_or, Std.compare_eq_lt, Std.compare_eq_iff_eq, Std.isLE_compare]

/-- A positive number is not above one if its unit is a finer one, or its mantissa is at most that of one. -/
theorem compare_one_iff {m : Nat} {e : Int} (some : 0 < m) :
    ((finite .positive m e some).compare (1.0 : Float).toModel.unpack).any (·.isLE) = true ↔
      e < -52 ∨ e = -52 ∧ m ≤ 2 ^ 52 := isLE_iff

theorem within_of_isShare {x : Float} (share : IsShare x) : Within 1 x := by
  obtain ⟨nonneg, below⟩ := share
  have zero : (0.0 : Float).toModel.unpack = .zero .positive := rfl
  rw [Number.float_le_iff, zero] at nonneg
  rw [Number.float_le_iff] at below
  unfold Within
  cases form : x.toModel.unpack with
  | zero sign => exact .zero
  | infinity sign =>
    rw [form] at nonneg below
    cases sign
    · cases nonneg
    · cases below
  | notANumber =>
    rw [form] at nonneg
    cases nonneg
  | finite sign m e some =>
    rw [form] at nonneg below
    cases sign with
    | negative => cases nonneg
    | positive =>
      obtain ⟨-, -, short, full, fine⟩ := ofFloat_finite form
      obtain ⟨p, rfl⟩ : ∃ p : Nat, e = -(p : Int) := ⟨(-e).toNat, by
        rcases (compare_one_iff some).mp below with less | same <;> omega⟩
      refine .finite some short (full.imp_right fun least => by omega) (by omega) ?_
      rcases (compare_one_iff some).mp below with less | ⟨same, least⟩
      · refine short.le.trans ?_
        rw [Nat.one_mul]
        exact Nat.pow_le_pow_right (by decide) (by omega)
      · obtain rfl : p = 52 := by omega
        simpa using least

theorem Within.le_one {x : Float} (within : Within 1 x) : x ≤ 1.0 := by
  rw [Number.float_le_iff]
  unfold Within at within
  cases form : x.toModel.unpack with
  | zero sign => rfl
  | finite sign m e some =>
    rw [form] at within
    cases within with
    | @finite _ p _ short full fine within =>
      refine (compare_one_iff some).mpr ?_
      rw [Nat.one_mul] at within
      rcases Nat.lt_trichotomy p 52 with coarse | rfl | fine'
      · -- a unit that is so coarse has no number with all its bits below one
        have less : 2 ^ p < 2 ^ 52 := Nat.pow_lt_pow_right (by decide) coarse
        rcases full with all | rfl
        · exact absurd (all.trans within) (Nat.not_le_of_lt less)
        · omega
      · exact .inr ⟨rfl, within⟩
      · exact .inl (by omega)
  | infinity | notANumber =>
    rw [form] at within
    cases within

/-- **What is within one is a share**, and there are no other shares. -/
theorem isShare_iff_within {x : Float} : IsShare x ↔ Within 1 x :=
  ⟨within_of_isShare, fun within => ⟨within.nonneg, within.le_one⟩⟩

/-- A number that is capped is at most one. -/
theorem capped_le (x : Float) : capped x ≤ 1.0 := by
  unfold capped
  split
  · rename_i below
    exact le_of_lt below
  · exact (Number.float_le_iff _ _).mpr rfl

/-- **Whatever is clamped is a share.** -/
theorem clamped_share (x : Float) : IsShare (clamped x) := by
  unfold clamped
  split
  · rename_i above
    exact ⟨le_of_lt above, capped_le x⟩
  · exact isShare_iff_within.mpr .zero

theorem Within.capped {k : Nat} {x : Float} (within : Within k x) : Within 1 (capped x) := by
  refine isShare_iff_within.mp ⟨?_, capped_le x⟩
  unfold ContractRisk.capped
  split
  · exact within.nonneg
  · exact (Number.float_le_iff _ _).mpr rfl

/-! ### Means -/

/-- **A sum of shares is not above their number.** -/
theorem total_within {shares : List Float} (few : shares.length < 2 ^ 51)
    (all : ∀ x ∈ shares, IsShare x) : Within shares.length (total shares) := by
  induction shares using List.reverseRecOn with
  | nil => exact .zero
  | append_singleton shares last ih =>
    rw [List.length_append, List.length_singleton] at few ⊢
    unfold total
    rw [List.foldl_append]
    refine Within.add (ih (by omega) fun x member => all x (List.mem_append_left _ member)) ?_ (by omega)
    exact isShare_iff_within.mp (all last (List.mem_append_right _ (List.mem_singleton_self _)))

/-- As many as there are categories. -/
theorem natCast_unpack {n : Nat} (some : 0 < n) (few : n ≤ Category.all.length) :
    ∃ m p, ∃ positive : 0 < m, ((n : Nat) : Float).toModel.unpack = .finite .positive m (-(p : Nat)) positive ∧
      n * 2 ^ p ≤ 1 * m := by
  have few : n ≤ 4 := few
  match n, some, few with
  | 1, _, _ => exact ⟨2 ^ 52, 52, by decide, rfl, by decide⟩
  | 2, _, _ => exact ⟨2 ^ 52, 51, by decide, rfl, by decide⟩
  | 3, _, _ => exact ⟨3 * 2 ^ 51, 51, by decide, rfl, by decide⟩
  | 4, _, _ => exact ⟨2 ^ 52, 50, by decide, rfl, by decide⟩

theorem mean_share {shares : List Float} (some : shares ≠ []) (few : shares.length ≤ Category.all.length)
    (all : ∀ x ∈ shares, IsShare x) : IsShare (total shares / (shares.length : Nat)) := by
  obtain ⟨m, p, positive, divisor, ratio⟩ := natCast_unpack (List.length_pos_iff.mpr some) few
  have short : shares.length < 2 ^ 51 := few.trans_lt (by decide)
  exact isShare_iff_within.mpr (Within.div divisor (total_within short all) (by decide) ratio)

/-! ### Hundredths -/

/-- A number with all its bits is within the bounds of its magnitude. -/
theorem within_of_unpack {x : Float} {k m p : Nat} {positive : 0 < m}
    (unpacks : x.toModel.unpack = .finite .positive m (-(p : Nat)) positive)
    (parts : m < 2 ^ 53 ∧ 2 ^ 52 ≤ m ∧ p ≤ 1074 ∧ m ≤ k * 2 ^ p) : Within k x := by
  unfold Within
  rw [unpacks]
  exact .finite positive parts.1 (.inl parts.2.1) parts.2.2.1 parts.2.2.2

theorem multiplier_within (severity : Severity) : Within 2 (standardMultiplier severity) := by
  cases severity with
  | low => exact @within_of_unpack 0.8 2 7205759403792794 53 (by decide) rfl (by decide)
  | medium => exact @within_of_unpack 1.0 2 (2 ^ 52) 52 (by decide) rfl (by decide)
  | high => exact @within_of_unpack 1.2 2 5404319552844595 52 (by decide) rfl (by decide)
  | critical => exact @within_of_unpack 1.5 2 (3 * 2 ^ 51) 52 (by decide) rfl (by decide)

theorem tenth_within : Within 1 0.1 :=
  @within_of_unpack 0.1 1 7205759403792794 56 (by decide) rfl (by decide)

theorem hundred_within : Within 100 100.0 :=
  @within_of_unpack 100.0 100 (25 * 2 ^ 48) 46 (by decide) rfl (by decide)

theorem natCast_within {n : Nat} (few : n < Category.all.length) : Within 3 ((n : Nat) : Float) := by
  have few : n < 4 := few
  match n, few with
  | 0, _ => exact .zero
  | 1, _ => exact @within_of_unpack _ 3 (2 ^ 52) 52 (by decide) rfl (by decide)
  | 2, _ => exact @within_of_unpack _ 3 (2 ^ 52) 51 (by decide) rfl (by decide)
  | 3, _ => exact @within_of_unpack _ 3 (3 * 2 ^ 51) 51 (by decide) rfl (by decide)

open Decimal

/-- The magnitude of a double with a unit below one. -/
theorem value_eq (m p : Nat) : Binary.value ⟨m, -(p : Int)⟩ = (m : Rat) / (2 ^ p : Nat) := by
  have up : (-(p : Int)).toNat = 0 := by omega
  have down : (- -(p : Int)).toNat = p := by omega
  unfold Binary.value Binary.quotient
  simp only [up, down]
  rw [Rat.mkRat_eq_div]
  push_cast
  simp

/-- A number without a sign is rounded like its exact value. -/
theorem nearest_eq {x : Float} (unsigned : signed x = false) (nonneg : 0 ≤ (Binary.ofFloat x).value) :
    nearest x = nearest (Binary.ofFloat x).value := by
  unfold nearest Rendered.magnitude Rendered.negative
  show (if signed x then _ else _) = if decide ((Binary.ofFloat x).value < 0) then _ else _
  rw [unsigned, decide_eq_false (not_lt.mpr nonneg)]
  simp only [renderedRat, abs_of_nonneg nonneg]
  rfl

/-- A zero of either sign is rounded to zero. -/
theorem nearest_zero {x : Float} (zero : (Binary.ofFloat x).value = 0) : nearest x = 0 := by
  have magnitude : Rendered.magnitude x = 0 := zero
  unfold nearest
  rw [magnitude]
  show (if Rendered.negative x then -((roundQuotient 0 1 : Nat) : Int) else _) = _
  split <;> rfl

/-- **What is within a whole number is rounded to no more.** -/
theorem nearest_within {k : Nat} {x : Float} (within : Within k x) : 0 ≤ nearest x ∧ nearest x ≤ k := by
  unfold Within at within
  cases form : x.toModel.unpack with
  | infinity | notANumber =>
    rw [form] at within
    cases within
  | zero sign =>
    have value : (Binary.ofFloat x).value = 0 := by
      rw [ofFloat_zero form]
      exact (value_eq 0 1074).trans (by rw [Nat.cast_zero, zero_div])
    rw [nearest_zero value]
    exact ⟨le_rfl, Int.natCast_nonneg k⟩
  | finite sign m e some =>
    rw [form] at within
    cases within with
    | @finite _ p _ short full fine within =>
      have value : (Binary.ofFloat x).value = (m : Rat) / (2 ^ p : Nat) := by
        rw [(ofFloat_finite form).2.1, value_eq]
      have unit : (0 : Rat) < (2 ^ p : Nat) := by exact_mod_cast Nat.two_pow_pos p
      have nonneg : 0 ≤ (Binary.ofFloat x).value := by
        rw [value]
        exact div_nonneg (Nat.cast_nonneg m) unit.le
      rw [nearest_eq (signed_finite form) nonneg]
      refine nearest_bounds nonneg ?_
      rw [value, div_le_iff₀ unit]
      exact_mod_cast within

end Double

open Double in
/-- **The shares of doubles are lawful.** -/
instance lawfulShares_doubles : LawfulShares Float where
  zero := isShare_iff_within.mpr .zero
  one := ⟨(Number.float_le_iff _ _).mpr rfl, (Number.float_le_iff _ _).mpr rfl⟩
  clamped := clamped_share
  mean := mean_share
  percentage := by
    intro x share severity further few scaled
    have graded : Within 2 (x * standardMultiplier severity / standardMultiplier .critical) := by
      have critical : (standardMultiplier .critical : Float).toModel.unpack =
        .finite .positive (3 * 2 ^ 51) (-(52 : Nat)) (by decide) := rfl
      have product := Within.mul (isShare_iff_within.mp share) (multiplier_within severity) (by decide)
      exact Within.div critical product (by decide) (by decide)
    have bonus := Within.mul tenth_within (natCast_within few) (by decide)
    have sum : Within 5 scaled := Within.add graded bonus (by decide)
    exact nearest_within (Within.mul sum.capped hundred_within (by decide))

end ContractRisk
