/-
**Rounding does not pass a whole number.**

`UpTo k` is the canonical form of a double that is neither negative nor above the whole number `k`. A
mantissa whose exact value is at most `k` rounds to such a form (`roundWithAccuracy_upTo`): while bits are
shifted out, the round and the sticky bit still tell whether anything lies below what is left
(`AtMost`), and `k` is a multiple of every unit to which it is rounded. Sums, products and quotients are
rounded exact values, and `unpack_pack` says that a canonical form is stored without loss.
-/

import Mathlib

namespace ContractRisk.Double

open Float.Model UnpackedFloat

/-! ### Mantissas -/

/-- What a mantissa with its residual bits stands for is at most a whole number of units. -/
def AtMost (bound : Nat) (extended : ExtendedMantissa) : Prop :=
  extended.mantissa < bound ∨ extended = ⟨bound, false, false⟩

variable {bound : Nat} {extended : ExtendedMantissa}

theorem atMost_start {mantissa : Nat} {accuracy : Accuracy}
    (within : mantissa < bound ∨ mantissa = bound ∧ accuracy = .exact) :
    AtMost bound (.ofMantissaAndAccuracy mantissa accuracy) := by
  rcases within with below | ⟨rfl, rfl⟩
  · left
    cases accuracy with
    | exact => exact below
    | inexact side => cases side <;> exact below
  · exact .inr rfl

theorem AtMost.half (within : AtMost (bound * 2) extended) : AtMost bound extended.shiftRightOne := by
  rcases within with below | rfl
  · exact .inl (Nat.div_lt_of_lt_mul (Nat.mul_comm bound 2 ▸ below))
  · right
    simp [ExtendedMantissa.shiftRightOne]

/-- **A shift keeps a bound that is a multiple of the new unit.** -/
theorem AtMost.shift {places : Nat} (within : AtMost (bound * 2 ^ places) extended) :
    AtMost bound (extended >>> places) := by
  induction places generalizing bound with
  | zero =>
    rw [Nat.pow_zero, Nat.mul_one] at within
    exact within
  | succ places ih =>
    rw [Nat.pow_succ', ← Nat.mul_assoc] at within
    exact (ih within).half

/-- Rounding keeps a whole bound. -/
theorem AtMost.rounded (within : AtMost bound extended) : extended.roundedMantissa ≤ bound := by
  obtain ⟨mantissa, round, sticky⟩ := extended
  rcases within with below | same
  · replace below : mantissa < bound := below
    cases round <;> cases sticky <;>
      simp only [ExtendedMantissa.roundedMantissa, ExtendedMantissa.accuracy,
        Accuracy.roundToNearestEven] <;> omega
  · cases same
    exact le_rfl

theorem mantissa_shift (places : Nat) : (extended >>> places).mantissa = extended.mantissa / 2 ^ places := by
  induction places with
  | zero => exact (Nat.div_one _).symm
  | succ places ih =>
    show (extended >>> places).mantissa / 2 = _
    rw [ih, Nat.div_div_eq_div_mul, Nat.pow_succ]

theorem mantissa_start (mantissa : Nat) (accuracy : Accuracy) :
    (ExtendedMantissa.ofMantissaAndAccuracy mantissa accuracy).mantissa = mantissa := by
  cases accuracy with
  | exact => rfl
  | inexact side => cases side <;> rfl

/-- Rounding adds one unit at most. -/
theorem roundedMantissa_near (extended : ExtendedMantissa) : extended.mantissa ≤ extended.roundedMantissa ∧
    extended.roundedMantissa ≤ extended.mantissa + 1 := by
  obtain ⟨mantissa, round, sticky⟩ := extended
  cases round <;> cases sticky <;>
    simp only [ExtendedMantissa.roundedMantissa, ExtendedMantissa.accuracy,
      Accuracy.roundToNearestEven] <;> omega

/-! ### Canonical forms -/

/-- **A double that is not below zero and at most `k`**, in canonical form: the mantissa has all its bits,
or the unit is the least there is. -/
inductive UpTo (k : Nat) : UnpackedFloat → Prop
  | zero {sign : Sign} : UpTo k (.zero sign)
  | finite {mantissa places : Nat} (positive : 0 < mantissa) (short : mantissa < 2 ^ 53)
      (full : 2 ^ 52 ≤ mantissa ∨ places = 1074) (fine : places ≤ 1074)
      (within : mantissa ≤ k * 2 ^ places) :
      UpTo k (.finite .positive mantissa (-places) positive)

theorem UpTo.mono {k l : Nat} {x : UnpackedFloat} (upTo : UpTo k x) (le : k ≤ l) : UpTo l x := by
  cases upTo with
  | zero => exact .zero
  | finite positive short full fine within =>
    exact .finite positive short full fine (within.trans (Nat.mul_le_mul_right _ le))

/-- The exponent that a mantissa is rounded to. -/
theorem targetExponent_eq (mantissa : Nat) (exponent : Int) :
    Format.binary64.targetExponent (totalExponent mantissa exponent) =
      max (mantissa.log2 + exponent - 52) (-1074) := by
  show max ((mantissa.log2 : Int) + 1 + exponent - 53) (-1074) = _
  omega

theorem log2_le_of_lt {n : Nat} (places : Nat) (below : n < 2 ^ (places + 1)) : n.log2 ≤ places := by
  by_cases none : n = 0
  · rw [none]
    exact Nat.zero_le _
  · exact Nat.lt_succ_iff.mp ((Nat.log2_lt none).mpr below)

theorem le_log2_of_le {n places : Nat} (above : 2 ^ places ≤ n) : places ≤ n.log2 :=
  (Nat.le_log2 (Nat.ne_of_gt (Nat.lt_of_lt_of_le (Nat.two_pow_pos _) above))).mpr above

/-- A mantissa that is short enough stays as it is. -/
theorem shiftToTargetExponent_short {mantissa places : Nat} (short : mantissa < 2 ^ 53)
    (fine : places ≤ 1074) :
    shiftToTargetExponent .binary64 mantissa (-places) .exact =
      (⟨mantissa, false, false⟩, -(places : Int)) := by
  have bits := log2_le_of_lt 52 short
  have still : (Format.binary64.targetExponent (totalExponent mantissa (-places)) -
      (-(places : Int))).toNat = 0 := by
    rw [targetExponent_eq]
    omega
  unfold shiftToTargetExponent shiftToExponent
  simp only [still]
  exact Prod.ext rfl (Int.add_zero _)

/-- A mantissa that has become too long by rounding is halved. -/
theorem shiftToTargetExponent_long {places : Nat} (some : 0 < places) (fine : places ≤ 1074) :
    shiftToTargetExponent .binary64 (2 ^ 53) (-places) .exact =
      (⟨2 ^ 52, false, false⟩, -((places - 1 : Nat) : Int)) := by
  have one : (Format.binary64.targetExponent (totalExponent (2 ^ 53) (-places)) -
      (-(places : Int))).toNat = 1 := by
    rw [targetExponent_eq, Nat.log2_two_pow]
    omega
  unfold shiftToTargetExponent shiftToExponent
  simp only [one]
  refine Prod.ext rfl ?_
  show -(places : Int) + (1 : Nat) = _
  omega

/-! ### Rounding -/

section

variable {k : Nat}

/-- The second shift, after a mantissa was rounded. -/
theorem roundWithAccuracy_eq {mantissa rounded places : Nat} {exponent : Int} {accuracy : Accuracy}
    {first : ExtendedMantissa}
    (shifted : shiftToTargetExponent .binary64 mantissa exponent accuracy = (first, -(places : Int)))
    (rounds : first.roundedMantissa = rounded) {last : ExtendedMantissa × Int}
    (again : shiftToTargetExponent .binary64 rounded (-places) .exact = last) :
    roundWithAccuracy .binary64 .positive mantissa exponent accuracy =
      if h : last.1.mantissa = 0 then .zero .positive
      else .finite .positive last.1.mantissa last.2 (Nat.pos_of_ne_zero h) := by
  subst again rounds
  unfold roundWithAccuracy
  rw [shifted]

theorem roundWithAccuracy_of_first {mantissa rounded places : Nat} {exponent : Int} {accuracy : Accuracy}
    {first : ExtendedMantissa}
    (shifted : shiftToTargetExponent .binary64 mantissa exponent accuracy = (first, -(places : Int)))
    (rounds : first.roundedMantissa = rounded) (short : rounded ≤ 2 ^ 53) (some : 0 < places)
    (full : 2 ^ 52 ≤ rounded ∨ places = 1074) (fine : places ≤ 1074) (within : rounded ≤ k * 2 ^ places) :
    UpTo k (roundWithAccuracy .binary64 .positive mantissa exponent accuracy) := by
  rcases Nat.lt_or_eq_of_le short with below | same
  · rw [roundWithAccuracy_eq shifted rounds (shiftToTargetExponent_short below fine)]
    split
    · exact .zero
    · exact .finite _ below full fine within
  · rw [same] at rounds
    rw [roundWithAccuracy_eq shifted rounds (shiftToTargetExponent_long some fine)]
    obtain ⟨less, rfl⟩ : ∃ less, places = less + 1 := ⟨places - 1, by omega⟩
    have half : 2 ^ 52 ≤ k * 2 ^ less := by
      rw [same, Nat.pow_succ 2 less, ← Nat.mul_assoc] at within
      exact Nat.le_of_mul_le_mul_right within (by decide)
    exact .finite (Nat.two_pow_pos 52) (Nat.pow_lt_pow_right (by decide) (by decide)) (.inl le_rfl)
      (by omega) half

/-- The shift to a unit that is coarser than the present one drops the digits below it. -/
theorem shiftToTargetExponent_eq {mantissa left gone : Nat} {accuracy : Accuracy}
    (unit : Format.binary64.targetExponent (totalExponent mantissa (-((left + gone : Nat) : Int))) =
      -(left : Int)) :
    shiftToTargetExponent .binary64 mantissa (-((left + gone : Nat) : Int)) accuracy =
      (ExtendedMantissa.ofMantissaAndAccuracy mantissa accuracy >>> gone, -(left : Int)) := by
  have shift : (-(left : Int) - (-((left + gone : Nat) : Int))).toNat = gone := by omega
  unfold shiftToTargetExponent shiftToExponent
  simp only [unit, shift]
  refine Prod.ext rfl ?_
  show -((left + gone : Nat) : Int) + (gone : Int) = _
  omega

/-- The digits that are left when some are dropped. -/
theorem div_two_pow_lt {mantissa gone bits : Nat} (short : mantissa.log2 < bits + gone) :
    mantissa / 2 ^ gone < 2 ^ bits := by
  refine Nat.div_lt_of_lt_mul ?_
  rw [← Nat.pow_add]
  exact Nat.lt_log2_self.trans_le (Nat.pow_le_pow_right (by decide) (by omega))

theorem two_pow_le_div {mantissa gone bits : Nat} (some : mantissa ≠ 0) (long : bits + gone ≤ mantissa.log2) :
    2 ^ bits ≤ mantissa / 2 ^ gone := by
  rw [Nat.le_div_iff_mul_le (Nat.two_pow_pos _), ← Nat.pow_add]
  exact (Nat.pow_le_pow_right (by decide) long).trans (Nat.log2_self_le some)

/-- **What is at most `k` is rounded to what is at most `k`.** -/
theorem roundWithAccuracy_upTo {mantissa places : Nat} {accuracy : Accuracy} (small : k < 2 ^ 52)
    (within : mantissa < k * 2 ^ places ∨ mantissa = k * 2 ^ places ∧ accuracy = .exact)
    (enough : 52 ≤ mantissa.log2 ∨ 1074 ≤ places) :
    UpTo k (roundWithAccuracy .binary64 .positive mantissa (-places) accuracy) := by
  have least : mantissa ≤ k * 2 ^ places := by omega
  -- the new unit is a fraction of one, so that `k` is a multiple of it
  have bits : mantissa.log2 ≤ 51 + places := by
    refine log2_le_of_lt _ (least.trans_lt ?_)
    rw [show 51 + places + 1 = 52 + places by omega, Nat.pow_add]
    exact Nat.mul_lt_mul_of_pos_right small (Nat.two_pow_pos _)
  have target := targetExponent_eq mantissa (-places)
  obtain ⟨left, unit⟩ : ∃ left : Nat,
      Format.binary64.targetExponent (totalExponent mantissa (-places)) = -(left : Int) :=
    ⟨(-Format.binary64.targetExponent (totalExponent mantissa (-places))).toNat, by omega⟩
  obtain ⟨gone, rfl⟩ : ∃ gone, places = left + gone := ⟨places - left, by omega⟩
  have atMost : AtMost (k * 2 ^ left)
      (ExtendedMantissa.ofMantissaAndAccuracy mantissa accuracy >>> gone) := by
    refine AtMost.shift (atMost_start ?_)
    rwa [Nat.mul_assoc, ← Nat.pow_add]
  obtain ⟨least', most'⟩ := roundedMantissa_near
    (ExtendedMantissa.ofMantissaAndAccuracy mantissa accuracy >>> gone)
  rw [mantissa_shift, mantissa_start] at least' most'
  refine roundWithAccuracy_of_first (shiftToTargetExponent_eq unit) rfl ?_ (by omega) ?_ (by omega)
    atMost.rounded
  · have floor : mantissa / 2 ^ gone < 2 ^ 53 := div_two_pow_lt (by omega)
    omega
  · by_cases subnormal : left = 1074
    · exact .inr subnormal
    · left
      have some : mantissa ≠ 0 := by
        rintro rfl
        rw [Nat.log2_zero] at target enough
        omega
      have full : 2 ^ 52 ≤ mantissa / 2 ^ gone := two_pow_le_div some (by omega)
      omega

/-- A whole count of units that is at most `k` is rounded to what is at most `k`. -/
theorem round_upTo {mantissa places : Nat} (small : k < 2 ^ 52) (some : 0 < mantissa)
    (within : mantissa ≤ k * 2 ^ places) :
    UpTo k (round .binary64 .positive mantissa (-places)) := by
  unfold UnpackedFloat.round decreaseExponent
  simp only [targetExponent_eq]
  obtain ⟨gained, shift⟩ : ∃ gained : Nat,
      (-(places : Int) - max (mantissa.log2 + -(places : Int) - 52) (-1074)).toNat = gained := ⟨_, rfl⟩
  rw [shift, Nat.shiftLeft_eq, show -(places : Int) - (gained : Int) = -((places + gained : Nat) : Int) by
    omega]
  refine roundWithAccuracy_upTo small ?_ ?_
  · have more : mantissa * 2 ^ gained ≤ k * 2 ^ (places + gained) := by
      rw [Nat.pow_add, ← Nat.mul_assoc]
      exact Nat.mul_le_mul_right _ within
    rcases Nat.lt_or_eq_of_le more with below | same
    · exact .inl below
    · exact .inr ⟨same, rfl⟩
  · by_cases deep : 1074 ≤ places + gained
    · exact .inr deep
    · left
      refine le_log2_of_le ?_
      refine le_trans ?_ (Nat.mul_le_mul_right _ (Nat.log2_self_le (Nat.ne_of_gt some)))
      rw [← Nat.pow_add]
      exact Nat.pow_le_pow_right (by decide) (by omega)

end

end ContractRisk.Double
