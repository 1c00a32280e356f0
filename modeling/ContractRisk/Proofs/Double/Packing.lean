/-
**What the bits of a double stand for.**

* `unpack_pack`: a canonical form is stored without loss;
* `ofFloat_finite`, `ofFloat_zero`: the magnitude that is printed is the one that is unpacked.
-/

import ContractRisk.Decimal.Shortest
import ContractRisk.Proofs.Double.Rounding

namespace ContractRisk.Double

open Float.Model UnpackedFloat

/-! ### Fields -/

theorem unpackMantissa_toNat (bits : BitVec 64) :
    (@unpackMantissa .binary64 bits).toNat = bits.toNat % 2 ^ 52 := by
  unfold unpackMantissa
  rw [BitVec.toNat_cast, BitVec.extractLsb_toNat]
  rfl

theorem unpackExponent_toNat (bits : BitVec 64) :
    (@unpackExponent .binary64 bits).toNat = bits.toNat / 2 ^ 52 % 2 ^ 11 := by
  unfold unpackExponent
  rw [BitVec.toNat_cast, BitVec.extractLsb_toNat, Nat.shiftRight_eq_div_pow]
  rfl

theorem unpackSign_toNat (bits : BitVec 64) :
    (@unpackSign .binary64 bits).toNat = bits.toNat / 2 ^ 63 % 2 := by
  unfold unpackSign
  rw [BitVec.toNat_cast, BitVec.extractLsb_toNat, Nat.shiftRight_eq_div_pow]
  rfl

theorem implicit_toNat (mantissa : BitVec 52) : (1#1 ++ mantissa).toNat = 2 ^ 52 + mantissa.toNat := by
  rw [BitVec.toNat_append, ← Nat.shiftLeft_add_eq_or_of_lt mantissa.isLt]
  rfl

/-! ### Storing -/

theorem finite_congr {sign : Sign} {mantissa mantissa' : Nat} {exponent exponent' : Int}
    {some : 0 < mantissa} {some' : 0 < mantissa'} (mantissas : mantissa = mantissa')
    (exponents : exponent = exponent') :
    UnpackedFloat.finite sign mantissa exponent some = .finite sign mantissa' exponent' some' := by
  subst mantissas exponents
  rfl

/-- A normal number has one bit more than is stored. -/
theorem unpack_normal {sign : Sign} {exponent : BitVec 11} {fraction : BitVec 52}
    (below : exponent ≠ -1#11) (above : exponent ≠ 0#11) :
    UnpackedFloat.unpack .binary64 (packComponents .binary64 sign exponent fraction) =
      .finite sign (2 ^ 52 + fraction.toNat) (exponent.toNat - 1075) (by omega) := by
  unfold UnpackedFloat.unpack
  simp only [unpackMantissa_packComponents, unpackExponent_packComponents, unpackSign_packComponents,
    Sign.ofBitVec_toBitVec]
  rw [if_neg below, if_neg above]
  exact finite_congr (implicit_toNat fraction) rfl

/-- A subnormal number has the least unit. -/
theorem unpack_subnormal {sign : Sign} {fraction : BitVec 52} (some : 0 < fraction.toNat) :
    UnpackedFloat.unpack .binary64 (packComponents .binary64 sign 0#11 fraction) =
      .finite sign fraction.toNat (-1074) some := by
  have nonzero : fraction ≠ 0#52 := by
    rintro rfl
    exact absurd some (Nat.lt_irrefl 0)
  unfold UnpackedFloat.unpack
  simp only [unpackMantissa_packComponents, unpackExponent_packComponents, unpackSign_packComponents,
    Sign.ofBitVec_toBitVec]
  rw [if_neg (show ¬ (0#11 : BitVec 11) = -1#11 by decide), if_pos trivial, dif_neg nonzero]
  exact finite_congr rfl rfl

/-- A form with a leading digit is stored under its biased exponent. -/
theorem unpack_pack_normal {mantissa biased : Nat} (normal : 2 ^ 52 ≤ mantissa) (short : mantissa < 2 ^ 53)
    (least : 0 < biased) (most : biased < 2047) :
    UnpackedFloat.unpack .binary64
      (packComponents .binary64 .positive (BitVec.ofNat 11 biased) (BitVec.ofNat 52 mantissa)) =
        .finite .positive mantissa (biased - 1075) (by omega) := by
  have stored : (BitVec.ofNat 11 biased).toNat = biased := by
    rw [BitVec.toNat_ofNat]
    exact Nat.mod_eq_of_lt (by omega)
  have below : BitVec.ofNat 11 biased ≠ -1#11 := by
    intro same
    have same : (BitVec.ofNat 11 biased).toNat = 2047 := congrArg BitVec.toNat same
    omega
  have above : BitVec.ofNat 11 biased ≠ 0#11 := by
    intro same
    have same : (BitVec.ofNat 11 biased).toNat = 0 := congrArg BitVec.toNat same
    omega
  refine (unpack_normal below above).trans (finite_congr ?_ ?_)
  · rw [BitVec.toNat_ofNat]
    omega
  · rw [stored]

/-- **A canonical form is stored without loss.** -/
theorem unpack_pack {k : Nat} {x : UnpackedFloat} (upTo : UpTo k x) :
    UnpackedFloat.unpack .binary64 (UnpackedFloat.pack .binary64 x) = x := by
  cases upTo with
  | @zero sign =>
    unfold UnpackedFloat.pack packedZero UnpackedFloat.unpack
    simp only [unpackMantissa_packComponents, unpackExponent_packComponents, unpackSign_packComponents,
      Sign.ofBitVec_toBitVec]
    rfl
  | @finite mantissa places positive short full fine within =>
    have bits := log2_le_of_lt 52 short
    have biased : (-(places : Int) + Format.binary64.exponentBias +
        Format.binary64.mantissaBitsWithoutImplicit).toNat = 1075 - places := by
      show (-(places : Int) + (1023 : Nat) + (52 : Nat)).toNat = _
      omega
    unfold UnpackedFloat.pack
    simp only [biased, show Format.binary64.mantissaBits = 53 from rfl]
    rw [if_neg (show ¬ 2 ^ 11 ≤ 1075 - places + 1 by omega)]
    by_cases normal : 2 ^ 52 ≤ mantissa
    · have all := le_log2_of_le normal
      rw [if_pos (show mantissa.log2 + 1 = 53 by omega)]
      refine (unpack_pack_normal normal short (by omega) (by omega)).trans (finite_congr rfl ?_)
      omega
    · obtain rfl := full.resolve_left normal
      have shorter := log2_le_of_lt 51 (Nat.lt_of_not_le normal)
      have stored : (BitVec.ofNat 52 mantissa).toNat = mantissa := by
        rw [BitVec.toNat_ofNat]
        exact Nat.mod_eq_of_lt (Nat.lt_of_not_le normal)
      rw [if_neg (show ¬ mantissa.log2 + 1 = 53 by omega)]
      exact (unpack_subnormal (by omega)).trans (finite_congr stored rfl)

/-! ### Reading -/

open Decimal

/-- The magnitude of a double, by the fields that are unpacked. -/
theorem ofFloat_fields (x : Float) :
    Binary.ofFloat x =
      if (@unpackExponent .binary64 x.toModel.toBits.toBitVec).toNat = 0 then
        ⟨(@unpackMantissa .binary64 x.toModel.toBits.toBitVec).toNat, -1074⟩
      else ⟨(@unpackMantissa .binary64 x.toModel.toBits.toBitVec).toNat + 2 ^ 52,
        (@unpackExponent .binary64 x.toModel.toBits.toBitVec).toNat - 1075⟩ := by
  rw [unpackExponent_toNat, unpackMantissa_toNat]
  rfl

/-- **The magnitude that is printed is the one that is unpacked**, and that is in canonical form. -/
theorem ofFloat_finite {x : Float} {sign : Sign} {mantissa : Nat} {exponent : Int} {some : 0 < mantissa}
    (unpacks : x.toModel.unpack = .finite sign mantissa exponent some) :
    Sign.ofBitVec (@unpackSign .binary64 x.toModel.toBits.toBitVec) = sign ∧
      Binary.ofFloat x = ⟨mantissa, exponent⟩ ∧ mantissa < 2 ^ 53 ∧
      (2 ^ 52 ≤ mantissa ∨ exponent = -1074) ∧ -1074 ≤ exponent := by
  have short : (@unpackMantissa .binary64 x.toModel.toBits.toBitVec).toNat < 2 ^ 52 := BitVec.isLt _
  have bias : ((Format.binary64.exponentBias : Nat) : Int) = 1023 := rfl
  rw [ofFloat_fields]
  unfold Float.Model.unpack UnpackedFloat.unpack at unpacks
  simp only [bias, implicit_toNat] at unpacks
  split at unpacks
  · split at unpacks <;> cases unpacks
  · split at unpacks
    · rename_i subnormal
      have zero : (@unpackExponent .binary64 x.toModel.toBits.toBitVec).toNat = 0 :=
        congrArg BitVec.toNat subnormal
      split at unpacks
      · cases unpacks
      · cases unpacks
        rw [if_pos zero, zero]
        exact ⟨rfl, rfl, by omega, .inr rfl, by decide⟩
    · rename_i normal
      have nonzero : (@unpackExponent .binary64 x.toModel.toBits.toBitVec).toNat ≠ 0 :=
        fun zero => normal (BitVec.eq_of_toNat_eq zero)
      cases unpacks
      rw [if_neg nonzero, Nat.add_comm]
      exact ⟨rfl, rfl, by omega, .inl (Nat.le_add_right _ _), by omega⟩

/-- The magnitude of a zero is zero. -/
theorem ofFloat_zero {x : Float} {sign : Sign} (unpacks : x.toModel.unpack = .zero sign) :
    Binary.ofFloat x = ⟨0, -1074⟩ := by
  rw [ofFloat_fields]
  unfold Float.Model.unpack UnpackedFloat.unpack at unpacks
  simp only at unpacks
  split at unpacks
  · split at unpacks <;> cases unpacks
  · split at unpacks
    · rename_i subnormal
      split at unpacks
      · rename_i none
        have least : (@unpackExponent .binary64 x.toModel.toBits.toBitVec).toNat = 0 :=
          congrArg BitVec.toNat subnormal
        rw [if_pos least, none]
        rfl
      · cases unpacks
    · cases unpacks

/-- A positive number is printed without a sign. -/
theorem signed_finite {x : Float} {mantissa : Nat} {exponent : Int} {some : 0 < mantissa}
    (unpacks : x.toModel.unpack = .finite .positive mantissa exponent some) : signed x = false := by
  have sign := (ofFloat_finite unpacks).1
  have clear : (@unpackSign .binary64 x.toModel.toBits.toBitVec).toNat = 0 := by
    unfold Sign.ofBitVec at sign
    split at sign
    · rename_i positive
      exact congrArg BitVec.toNat positive
    · cases sign
  rw [unpackSign_toNat] at clear
  unfold signed
  refine decide_eq_false fun set => ?_
  have set : x.toModel.toBits.toBitVec.toNat / 2 ^ 63 = 1 := set
  rw [set] at clear
  cases clear

end ContractRisk.Double
