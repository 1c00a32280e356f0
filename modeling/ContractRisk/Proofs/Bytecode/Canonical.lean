/-
**Canonical code texts.**

Each pair of hexadecimal digits writes one byte, and each byte is written by one pair of lower-case
digits: reading digits and writing bytes undo each other (`ofDigits_digits`, `digits_ofDigits`). A text
that `Bytecode.canonical` gives is therefore what `Bytecode.write` gives for some bytes, it is its own
canonical text, and reading it gives those bytes (`canonical_ok`).
-/

import ContractRisk.Bytecode
import ContractRisk.Proofs.Attempt

namespace ContractRisk.Bytecode

open Attempt

/-! ### Digits -/

/-- A lower-case digit stands for its number. -/
theorem hexDigit_spec : ∀ n < 16,
    isHexDigit (Text.hexDigit n) = true ∧ (Text.hexDigit n).toLower = Text.hexDigit n ∧
      digitValue (Text.hexDigit n) = n := by
  decide

/-- A digit in either case is the digit of its value, but for the case. -/
theorem hexDigit_digitValue {c : Char} (digit : isHexDigit c = true) :
    digitValue c < 16 ∧ Text.hexDigit (digitValue c) = c.toLower := by
  have ascii : c.toNat < 128 := by
    unfold isHexDigit at digit
    simp only [Char.le_def, Char.isDigit, Bool.or_eq_true, Bool.and_eq_true, decide_eq_true_eq]
      at digit
    grind [Char.toNat, UInt32.le_iff_toNat_le]
  have all : ∀ n < 128, isHexDigit (Char.ofNat n) = true →
      digitValue (Char.ofNat n) < 16 ∧
        Text.hexDigit (digitValue (Char.ofNat n)) = (Char.ofNat n).toLower := by decide
  rw [← Char.ofNat_toNat c] at digit ⊢
  exact all c.toNat ascii digit

/-! ### Bytes -/

/-- The two digits of a byte are read as that byte. -/
theorem byteDigits_spec (byte : UInt8) :
    (∀ c ∈ byteDigits byte, isHexDigit c = true ∧ c.toLower = c) ∧
      ofDigits (byteDigits byte) = [byte] := by
  have bound : byte.toNat < 256 := byte.toNat_lt_size
  obtain ⟨high, highLower, highValue⟩ := hexDigit_spec (byte.toNat / 16) (by omega)
  obtain ⟨low, lowLower, lowValue⟩ := hexDigit_spec (byte.toNat % 16) (by omega)
  constructor
  · intro c member
    simp only [byteDigits, List.mem_cons, List.not_mem_nil, or_false] at member
    rcases member with rfl | rfl
    · exact ⟨high, highLower⟩
    · exact ⟨low, lowLower⟩
  · have whole : 16 * (byte.toNat / 16) + byte.toNat % 16 = byte.toNat := Nat.div_add_mod _ _
    simp only [byteDigits, ofDigits, highValue, lowValue, whole]
    exact congrArg (· :: []) UInt8.ofNat_toNat

theorem length_digits (bytes : List UInt8) : (digits bytes).length = 2 * bytes.length := by
  induction bytes with
  | nil => rfl
  | cons byte rest ih =>
    have head : (digits (byte :: rest)).length = 2 + (digits rest).length := by
      simp [digits, byteDigits]
      omega
    rw [head, ih, List.length_cons]
    omega

/-- All digits of bytes are lower-case digits. -/
theorem digits_lower (bytes : List UInt8) :
    ∀ c ∈ digits bytes, isHexDigit c = true ∧ c.toLower = c := by
  intro c member
  obtain ⟨byte, _, inside⟩ := List.mem_flatMap.mp member
  exact (byteDigits_spec byte).1 c inside

theorem digits_map_toLower (bytes : List UInt8) :
    (digits bytes).map Char.toLower = digits bytes := by
  calc (digits bytes).map Char.toLower = (digits bytes).map id :=
        List.map_congr_left fun c member => (digits_lower bytes c member).2
    _ = digits bytes := List.map_id _

/-- **The digits of bytes are read as those bytes.** -/
theorem ofDigits_digits (bytes : List UInt8) : ofDigits (digits bytes) = bytes := by
  induction bytes with
  | nil => rfl
  | cons byte rest ih =>
    have head := (byteDigits_spec byte).2
    unfold byteDigits at head
    show ofDigits (byteDigits byte ++ digits rest) = _
    unfold byteDigits
    simp only [ofDigits, List.cons.injEq, and_true, List.cons_append, List.nil_append] at head ⊢
    exact ⟨head, ih⟩

/-- **Pairs of digits are written by the bytes that they stand for**, in lower case. -/
theorem digits_ofDigits {chars : List Char} (even : chars.length % 2 = 0)
    (hexadecimal : ∀ c ∈ chars, isHexDigit c = true) :
    digits (ofDigits chars) = chars.map Char.toLower := by
  induction chars using ofDigits.induct with
  | case1 high low rest ih =>
    obtain ⟨highBound, highDigit⟩ := hexDigit_digitValue (hexadecimal high List.mem_cons_self)
    obtain ⟨lowBound, lowDigit⟩ := hexDigit_digitValue
      (hexadecimal low (List.mem_cons_of_mem _ List.mem_cons_self))
    have rest := ih (by simp only [List.length_cons] at even; omega) fun c member =>
      hexadecimal c (List.mem_cons_of_mem _ (List.mem_cons_of_mem _ member))
    have value : (16 * digitValue high + digitValue low).toUInt8.toNat =
        16 * digitValue high + digitValue low := by
      rw [Nat.toUInt8_eq, UInt8.toNat_ofNat']
      omega
    have upper : (16 * digitValue high + digitValue low) / 16 = digitValue high := by omega
    have lower : (16 * digitValue high + digitValue low) % 16 = digitValue low := by omega
    show byteDigits _ ++ digits (ofDigits _) = _
    unfold byteDigits
    rw [value, upper, lower, highDigit, lowDigit, rest]
    rfl
  | case2 chars short =>
    cases chars with
    | nil => rfl
    | cons c rest =>
      cases rest with
      | nil => cases even
      | cons d rest => exact absurd rfl (short c d rest)

/-! ### Canonical texts -/

theorem checkDigits_eq_ok {chars lower : List Char} :
    checkDigits chars = .ok lower ↔
      chars.length + 2 ≤ maxLength ∧ chars.length % 2 = 0 ∧ lower = chars.map Char.toLower := by
  constructor
  · intro accepted
    unfold checkDigits at accepted
    split at accepted
    · cases accepted
    · split at accepted
      · cases accepted
      · cases accepted
        exact ⟨by omega, by omega, rfl⟩
  · rintro ⟨bound, even, rfl⟩
    unfold checkDigits
    rw [if_neg (by omega), if_neg (by omega)]

/-- The digits of a code within the bounds are the digits of some bytes. -/
theorem canonicalDigits_ok {value : Value} {lower : List Char}
    (accepted : canonicalDigits value = .ok lower) :
    ∃ bytes, lower = digits bytes ∧ 2 * bytes.length + 2 ≤ maxLength := by
  have written {chars : List Char} (hexadecimal : ∀ c ∈ chars, isHexDigit c = true)
      (accepted : checkDigits chars = .ok lower) :
      ∃ bytes, lower = digits bytes ∧ 2 * bytes.length + 2 ≤ maxLength := by
    obtain ⟨bound, even, rfl⟩ := checkDigits_eq_ok.mp accepted
    have same := digits_ofDigits even hexadecimal
    refine ⟨ofDigits chars, same.symm, ?_⟩
    rw [← length_digits, same, List.length_map]
    exact bound
  unfold canonicalDigits at accepted
  split at accepted
  · exact written (fun c member => (digits_lower _ c member).1) accepted
  · simp only at accepted
    split at accepted
    · rename_i hexadecimal
      exact written (List.all_eq_true.mp hexadecimal) accepted
    · cases accepted
  · cases accepted

theorem canonicalDigits_write {bytes : List UInt8} (bound : 2 * bytes.length + 2 ≤ maxLength) :
    canonicalDigits (.text (write bytes)) = .ok (digits bytes) := by
  have hexadecimal : (digits bytes).all isHexDigit = true :=
    List.all_eq_true.mpr fun c member => (digits_lower bytes c member).1
  unfold canonicalDigits write
  simp only [String.toList_ofList, bareDigits]
  rw [if_pos hexadecimal]
  refine checkDigits_eq_ok.mpr ⟨?_, ?_, (digits_map_toLower bytes).symm⟩
  · rw [length_digits]
    exact bound
  · rw [length_digits, Nat.mul_mod_right]

/-- **A canonical text is written by bytes**, it is its own canonical text, and it is read as them. -/
theorem canonical_ok {value : Value} {code : String} (accepted : canonical value = .ok code) :
    ∃ bytes, code = write bytes ∧ canonical (.text code) = .ok code ∧
      read (.text code) = .ok bytes := by
  obtain ⟨lower, digits, rfl⟩ := map_eq_ok.mp accepted
  obtain ⟨bytes, rfl, bound⟩ := canonicalDigits_ok digits
  have again := canonicalDigits_write bound
  refine ⟨bytes, rfl, ?_, ?_⟩
  · show (canonicalDigits (.text (write bytes))).map _ = _
    rw [again]
    rfl
  · show (canonicalDigits (.text (write bytes))).map ofDigits = _
    rw [again]
    exact congrArg Except.ok (ofDigits_digits bytes)

end ContractRisk.Bytecode
