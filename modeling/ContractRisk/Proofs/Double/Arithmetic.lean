/-
**Doubles between zero and a whole number.**

`Within k x` says that `x` is not below zero and not above `k`. Sums, products and quotients keep such
bounds as those of the exact results would be kept, since rounding does not pass a whole number:
`Within.add`, `Within.mul` and `Within.div`. What is within one is a share.
-/

import ContractRisk.Proofs.Double.Packing
import ContractRisk.Proofs.Number
import ContractRisk.Proofs.Share.Fractions

namespace ContractRisk.Double

open Float.Model UnpackedFloat

/-! ### Exact results -/

variable {k l : Nat} {x y : UnpackedFloat}

/-- A positive mantissa is rounded. -/
theorem normalize_positive {mantissa : Nat} (some : 0 < mantissa) (exponent : Int) (sign : Sign) :
    UnpackedFloat.normalize .binary64 mantissa exponent sign =
      UnpackedFloat.round .binary64 .positive mantissa exponent := by
  have above : compare (mantissa : Int) 0 = .gt := Std.compare_eq_gt.mpr (Int.natCast_pos.mpr some)
  unfold UnpackedFloat.normalize
  rw [above]
  rfl

/-- A mantissa in a finer unit. -/
theorem finer_le {mantissa bound places more : Nat} (within : mantissa ≤ bound * 2 ^ places)
    (finer : places ≤ more) : mantissa * 2 ^ (more - places) ≤ bound * 2 ^ more := by
  have exponents : 2 ^ places * 2 ^ (more - places) = 2 ^ more := by
    rw [← Nat.pow_add, Nat.add_sub_cancel' finer]
  rw [← exponents, ← Nat.mul_assoc]
  exact Nat.mul_le_mul_right _ within

theorem UpTo.add (left : UpTo k x) (right : UpTo l y) (small : k + l < 2 ^ 52) :
    UpTo (k + l) (UnpackedFloat.add .binary64 x y) := by
  cases left with
  | @zero sign =>
    cases right with
    | @zero other =>
      unfold UnpackedFloat.add
      simp only
      split <;> exact .zero
    | finite positive short full fine within =>
      exact UpTo.mono (.finite positive short full fine within) (Nat.le_add_left _ _)
  | @finite m p positive short full fine within =>
    cases right with
    | zero => exact UpTo.mono (.finite positive short full fine within) (Nat.le_add_right _ _)
    | @finite m' p' positive' short' full' fine' within' =>
      -- both mantissas in the finer of the two units
      let more := max p p'
      have smaller : min (-(p : Int)) (-(p' : Int)) = -(more : Int) := by omega
      have gain : (-(p : Int) - -(more : Int)).toNat = more - p := by omega
      have gain' : (-(p' : Int) - -(more : Int)).toNat = more - p' := by omega
      have some : 0 < m * 2 ^ (more - p) + m' * 2 ^ (more - p') :=
        Nat.add_pos_left (Nat.mul_pos positive (Nat.two_pow_pos _)) _
      have sum : UnpackedFloat.add .binary64 (.finite .positive m (-p) positive)
          (.finite .positive m' (-p') positive') =
            round .binary64 .positive (m * 2 ^ (more - p) + m' * 2 ^ (more - p')) (-more) := by
        rw [← normalize_positive some (-more) .positive]
        unfold UnpackedFloat.add decreaseExponent
        simp only [smaller, gain, gain', Nat.shiftLeft_eq]
        rfl
      rw [sum]
      refine round_upTo small some ?_
      rw [Nat.add_mul]
      exact Nat.add_le_add (finer_le within (Nat.le_max_left _ _)) (finer_le within' (Nat.le_max_right _ _))

theorem UpTo.mul (left : UpTo k x) (right : UpTo l y) (small : k * l < 2 ^ 52) :
    UpTo (k * l) (UnpackedFloat.mul .binary64 x y) := by
  cases left with
  | @zero sign => cases right <;> exact .zero
  | @finite m p positive short full fine within =>
    cases right with
    | zero => exact .zero
    | @finite m' p' positive' short' full' fine' within' =>
      have exponents : -(p : Int) + -(p' : Int) = -((p + p' : Nat) : Int) := by omega
      have product : UnpackedFloat.mul .binary64 (.finite .positive m (-p) positive)
          (.finite .positive m' (-p') positive') =
            roundWithAccuracy .binary64 .positive (m * m') (-((p + p' : Nat) : Int)) .exact := by
        rw [← exponents]
        rfl
      rw [product]
      refine roundWithAccuracy_upTo small ?_ ?_
      · have most : m * m' ≤ k * l * 2 ^ (p + p') := by
          calc m * m' ≤ k * 2 ^ p * (l * 2 ^ p') := Nat.mul_le_mul within within'
            _ = k * l * 2 ^ (p + p') := by ring
        rcases Nat.lt_or_eq_of_le most with below | same
        · exact .inl below
        · exact .inr ⟨same, rfl⟩
      · -- with all bits in one of them there are enough in the product
        rcases full with all | rfl
        · exact .inl (le_log2_of_le (all.trans (Nat.le_mul_of_pos_right _ positive')))
        · exact .inr (Nat.le_add_right _ _)

/-- A quotient is computed in a unit of its own, with all bits or in the finest unit there is. -/
theorem divCore_eq {m m' p p' : Nat} (positive : 0 < m) (positive' : 0 < m')
    (below : m.log2 + p' < m'.log2 + p + 53) :
    ∃ places more, more + p = p' + places ∧
      divCore .binary64 m (-p) m' (-p') =
        (m * 2 ^ more / m', -(places : Int), accuracyOfFraction (m * 2 ^ more % m') m') ∧
      (52 ≤ (m * 2 ^ more / m').log2 ∨ 1074 ≤ places) := by
  have total : totalExponent m (-(p : Int)) - totalExponent m' (-(p' : Int)) =
      (m.log2 : Int) - p - m'.log2 + p' := by
    unfold totalExponent
    omega
  have target : Format.binary64.targetExponent ((m.log2 : Int) - p - m'.log2 + p') =
      max ((m.log2 : Int) - p - m'.log2 + p' - 53) (-1074) := rfl
  obtain ⟨places, unit⟩ : ∃ places : Nat, min (-(p : Int) - -(p' : Int))
      (max ((m.log2 : Int) - p - m'.log2 + p' - 53) (-1074)) = -(places : Int) :=
    ⟨(-min (-(p : Int) - -(p' : Int)) (max ((m.log2 : Int) - p - m'.log2 + p' - 53) (-1074))).toNat,
      by omega⟩
  obtain ⟨more, shift⟩ : ∃ more : Nat, more + p = p' + places := ⟨p' + places - p, by omega⟩
  have amount : (-(p : Int) - -(p' : Int) - -(places : Int)).toNat = more := by omega
  refine ⟨places, more, shift, ?_, ?_⟩
  · unfold divCore
    rw [total, target, unit]
    simp only [amount, Nat.shiftLeft_eq]
  · by_cases finest : 1074 ≤ places
    · exact .inr finest
    · left
      refine le_log2_of_le ((Nat.le_div_iff_mul_le positive').mpr ?_)
      calc 2 ^ 52 * m' ≤ 2 ^ 52 * 2 ^ (m'.log2 + 1) := Nat.mul_le_mul_left _ Nat.lt_log2_self.le
        _ = 2 ^ (53 + m'.log2) := by rw [← Nat.pow_add]; congr 1; omega
        _ ≤ 2 ^ (m.log2 + more) := Nat.pow_le_pow_right (by decide) (by omega)
        _ = 2 ^ m.log2 * 2 ^ more := Nat.pow_add _ _ _
        _ ≤ m * 2 ^ more := Nat.mul_le_mul_right _ (Nat.log2_self_le (Nat.ne_of_gt positive))

/-- **A quotient is bounded by the bound of the dividend**, over the divisor. -/
theorem UpTo.div {m' p' : Nat} {positive' : 0 < m'} (left : UpTo k x) (small : l < 2 ^ 52)
    (ratio : k * 2 ^ p' ≤ l * m') :
    UpTo l (UnpackedFloat.div .binary64 x (.finite .positive m' (-p') positive')) := by
  cases left with
  | zero => exact .zero
  | @finite m p positive short full fine within =>
    have cross : m * 2 ^ p' ≤ l * m' * 2 ^ p := by
      calc m * 2 ^ p' ≤ k * 2 ^ p * 2 ^ p' := Nat.mul_le_mul_right _ within
        _ = k * 2 ^ p' * 2 ^ p := by ring
        _ ≤ l * m' * 2 ^ p := Nat.mul_le_mul_right _ ratio
    have below : m.log2 + p' < m'.log2 + p + 53 := by
      refine (Nat.pow_lt_pow_iff_right (show 1 < 2 by decide)).mp ?_
      calc 2 ^ (m.log2 + p') = 2 ^ m.log2 * 2 ^ p' := Nat.pow_add _ _ _
        _ ≤ m * 2 ^ p' := Nat.mul_le_mul_right _ (Nat.log2_self_le (Nat.ne_of_gt positive))
        _ ≤ l * m' * 2 ^ p := cross
        _ < 2 ^ 52 * 2 ^ (m'.log2 + 1) * 2 ^ p :=
          Nat.mul_lt_mul_of_pos_right (Nat.mul_lt_mul'' small Nat.lt_log2_self) (Nat.two_pow_pos _)
        _ = 2 ^ (m'.log2 + p + 53) := by rw [← Nat.pow_add, ← Nat.pow_add]; congr 1; omega
    obtain ⟨places, more, shift, core, enough⟩ := divCore_eq positive positive' below
    have quotient : UnpackedFloat.div .binary64 (.finite .positive m (-p) positive)
        (.finite .positive m' (-p') positive') =
          roundWithAccuracy .binary64 .positive (divCore .binary64 m (-p) m' (-p')).1
            (divCore .binary64 m (-p) m' (-p')).2.1 (divCore .binary64 m (-p) m' (-p')).2.2 := rfl
    rw [quotient, core]
    simp only
    refine roundWithAccuracy_upTo small ?_ enough
    have most : m * 2 ^ more ≤ m' * (l * 2 ^ places) := by
      refine Nat.le_of_mul_le_mul_right ?_ (Nat.two_pow_pos p)
      calc m * 2 ^ more * 2 ^ p = m * 2 ^ (more + p) := by rw [Nat.pow_add, Nat.mul_assoc]
        _ = m * 2 ^ p' * 2 ^ places := by rw [shift, Nat.pow_add, Nat.mul_assoc]
        _ ≤ l * m' * 2 ^ p * 2 ^ places := Nat.mul_le_mul_right _ cross
        _ = m' * (l * 2 ^ places) * 2 ^ p := by ring
    rcases Nat.lt_or_eq_of_le most with less | same
    · exact .inl (Nat.div_lt_of_lt_mul less)
    · right
      rw [same, Nat.mul_div_cancel_left _ positive', Nat.mul_mod_right]
      exact ⟨rfl, rfl⟩

/-! ### Doubles -/

/-- **A double that is not below zero and not above a whole number.** -/
def Within (k : Nat) (x : Float) : Prop := UpTo k x.toModel.unpack

section

variable {a b : Float}

/-- What is stored is within the bounds of what was computed. -/
theorem within_pack {result : UnpackedFloat} (upTo : UpTo k result) :
    UpTo k (Float.Model.pack result).unpack := by
  have same : (Float.Model.pack result).unpack = result := unpack_pack upTo
  rwa [same]

theorem Within.add (left : Within k a) (right : Within l b) (small : k + l < 2 ^ 52) :
    Within (k + l) (a + b) :=
  within_pack (UpTo.add left right small)

theorem Within.mul (left : Within k a) (right : Within l b) (small : k * l < 2 ^ 52) :
    Within (k * l) (a * b) :=
  within_pack (UpTo.mul left right small)

theorem Within.div {m p : Nat} {positive : 0 < m}
    (divisor : b.toModel.unpack = .finite .positive m (-p) positive) (left : Within k a)
    (small : l < 2 ^ 52) (ratio : k * 2 ^ p ≤ l * m) : Within l (a / b) := by
  have quotient : UpTo l (UnpackedFloat.div .binary64 a.toModel.unpack
      (.finite .positive m (-p) positive)) := UpTo.div left small ratio
  have stored := within_pack quotient
  rw [← divisor] at stored
  exact stored

end

end ContractRisk.Double
