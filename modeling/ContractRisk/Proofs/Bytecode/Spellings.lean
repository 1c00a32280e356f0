/-
**The spellings of a code.**

A code can be given as its bytes, or as their digits in either case, bare or behind `0x` (`Spells`). A
text is accepted if it is whole bytes of digits with one `0x` taken off (`Strips`), a byte string if
it is not too long, and the bound is the same for both: the `0x` counts, whether it is given or not.

* `canonical_text`: the texts that are accepted, and their canonical form;
* `canonicalDigits_spelling`: all spellings of a code pass the check with the same digits, or all are
  refused as too long;
* `spellings_agree`: hence a code within the bound is the same code for whatever looks at it
  (`OneCode`), in whichever way it is given.
-/

import ContractRisk.Bytecode.Proxy
import ContractRisk.Detector
import ContractRisk.Proofs.Address
import ContractRisk.Proofs.Bytecode.Canonical

namespace ContractRisk

open Attempt

/-- The hexadecimal digits of a canonical text. -/
def lowerAlphabet : List Char := "0123456789abcdef".toList

/-- The hexadecimal digits in either case. -/
def hexAlphabet : List Char := "0123456789abcdefABCDEF".toList

/-- The digits that are read are those of the alphabet, and no characters of other scripts. -/
theorem isHexDigit_iff {c : Char} : isHexDigit c = true ↔ c ∈ hexAlphabet := by
  have listed : ∀ code < 128, isHexDigit (Char.ofNat code) = true → Char.ofNat code ∈ hexAlphabet := by
    decide
  have read : hexAlphabet.all isHexDigit = true := by decide
  constructor
  · intro digit
    have own := listed c.toNat (hexDigit_ascii digit).2
    rw [Char.ofNat_toNat] at own
    exact own digit
  · exact List.all_eq_true.mp read c

/-- A digit in lower case is one of a canonical text. -/
theorem toLower_mem_lowerAlphabet {c : Char} (digit : c ∈ hexAlphabet) :
    c.toLower ∈ lowerAlphabet := by
  have lowered : (hexAlphabet.all fun c => lowerAlphabet.contains c.toLower) = true := by decide
  exact List.contains_iff_mem.mp (List.all_eq_true.mp lowered c digit)

namespace Bytecode

/-! ### Texts -/

/-- The text of a code with one `0x` taken off, if it begins with it. -/
def Strips (text : String) (chars : List Char) : Prop :=
  text = "0x" ++ String.ofList chars ∨
    ¬ "0x".toList <+: text.toList ∧ text = String.ofList chars

/-- The characters that are read as digits are those behind one `0x`. -/
theorem bareDigits_eq_iff {text : String} {chars : List Char} :
    bareDigits text.toList = chars ↔ Strips text chars := by
  have spelled : text = "0x" ++ String.ofList chars ↔ text.toList = '0' :: 'x' :: chars := by
    rw [show "0x" ++ String.ofList chars = _ from Address.append_digits 'x' chars,
      ← String.toList_inj, String.toList_ofList]
  have bare : text = String.ofList chars ↔ text.toList = chars := by
    rw [← String.toList_inj, String.toList_ofList]
  unfold Strips
  rw [spelled, bare]
  generalize text.toList = given
  unfold bareDigits
  split
  · rename_i rest
    constructor
    · rintro rfl
      exact .inl rfl
    · rintro (same | ⟨unmarked, -⟩)
      · exact List.cons.inj (List.cons.inj same).2 |>.2
      · exact absurd ⟨rest, rfl⟩ unmarked
  · rename_i other
    have unmarked : ¬ "0x".toList <+: given := by
      rintro ⟨rest, rfl⟩
      exact other rest rfl
    constructor
    · intro same
      exact .inr ⟨unmarked, same⟩
    · rintro (rfl | ⟨-, same⟩)
      · exact absurd rfl (other chars)
      · exact same

/-- A canonical text is `0x` and digits in lower case. -/
theorem prefixed_eq (chars : List Char) :
    String.ofList ('0' :: 'x' :: chars) = "0x" ++ String.ofList chars :=
  (Address.append_digits 'x' chars).symm

/-- **The texts that are accepted** are whole bytes of digits behind one `0x` or none, and their
canonical form has the digits in lower case. -/
theorem canonical_text {text code : String} :
    canonical (.text text) = .ok code ↔
      ∃ chars, Strips text chars ∧ chars.length % 2 = 0 ∧ chars.length ≤ 49998 ∧
        (∀ c ∈ chars, c ∈ hexAlphabet) ∧ code = "0x" ++ String.ofList (chars.map Char.toLower) := by
  have bound (chars : List Char) : chars.length + 2 ≤ maxLength ↔ chars.length ≤ 49998 := by
    unfold maxLength
    omega
  have hexadecimal (chars : List Char) :
      chars.all isHexDigit = true ↔ ∀ c ∈ chars, c ∈ hexAlphabet := by
    simp only [List.all_eq_true, isHexDigit_iff]
  unfold canonical
  rw [map_eq_ok]
  unfold canonicalDigits
  simp only
  constructor
  · rintro ⟨lower, accepted, rfl⟩
    split at accepted
    · rename_i digits
      obtain ⟨short, even, rfl⟩ := checkDigits_eq_ok.mp accepted
      exact ⟨_, bareDigits_eq_iff.mp rfl, even, (bound _).mp short, (hexadecimal _).mp digits,
        prefixed_eq _⟩
    · cases accepted
  · rintro ⟨chars, strips, even, short, digits, rfl⟩
    rw [bareDigits_eq_iff.mpr strips, if_pos ((hexadecimal chars).mpr digits)]
    exact ⟨_, checkDigits_eq_ok.mpr ⟨(bound chars).mpr short, even, rfl⟩, prefixed_eq _⟩

/-! ### Spellings -/

/-- **The ways to give a code**: as its bytes, or as their digits in either case, with `0x` or
without. -/
inductive Spells (bytes : List UInt8) : Value → Prop
  | raw : Spells bytes (.bytes bytes)
  | bare {chars : List Char} (same : chars.map Char.toLower = digits bytes) :
      Spells bytes (.text (String.ofList chars))
  | marked {chars : List Char} (same : chars.map Char.toLower = digits bytes) :
      Spells bytes (.text ("0x" ++ String.ofList chars))

section

variable {bytes : List UInt8} {chars : List Char}

/-- Characters that are lowered to the digits of bytes are digits. -/
theorem digits_spelled (same : chars.map Char.toLower = digits bytes) :
    ∀ c ∈ chars, isHexDigit c = true := by
  refine hexDigits_toLower.mp ?_
  rw [same]
  exact fun c member => (digits_lower bytes c member).1

/-- The check of digits depends on the count of bytes that they write. -/
theorem checkDigits_spelled (same : chars.map Char.toLower = digits bytes) :
    checkDigits chars =
      if maxLength < 2 * bytes.length + 2 then .error .tooLong else .ok (digits bytes) := by
  have count : chars.length = 2 * bytes.length := by
    rw [← length_digits, ← same, List.length_map]
  unfold checkDigits
  rw [count, same, if_neg (show ¬ 2 * bytes.length % 2 = 1 by omega)]

/-- Digits are their own text without `0x`, since `x` is none. -/
theorem strips_spelled (same : chars.map Char.toLower = digits bytes) :
    Strips (String.ofList chars) chars := by
  refine .inr ⟨?_, rfl⟩
  rintro ⟨rest, begins⟩
  simp only [String.toList_ofList] at begins
  have digit : isHexDigit 'x' = true := by
    refine digits_spelled same 'x' ?_
    rw [← begins]
    exact List.mem_cons_of_mem _ List.mem_cons_self
  exact absurd digit (by decide)

theorem canonicalDigits_strips {text : String} (strips : Strips text chars)
    (same : chars.map Char.toLower = digits bytes) :
    canonicalDigits (.text text) =
      if maxLength < 2 * bytes.length + 2 then .error .tooLong else .ok (digits bytes) := by
  unfold canonicalDigits
  simp only
  rw [bareDigits_eq_iff.mpr strips, if_pos (List.all_eq_true.mpr (digits_spelled same)),
    checkDigits_spelled same]

/-- **All spellings of a code pass the check, or none does.** -/
theorem canonicalDigits_spelling {value : Value} (spells : Spells bytes value) :
    canonicalDigits value =
      if maxLength < 2 * bytes.length + 2 then .error .tooLong else .ok (digits bytes) := by
  cases spells with
  | raw => exact checkDigits_spelled (digits_map_toLower bytes)
  | bare same => exact canonicalDigits_strips (strips_spelled same) same
  | marked same => exact canonicalDigits_strips (.inl rfl) same

variable {value : Value} (spells : Spells bytes value)

include spells

/-- A code that is too long is refused in every spelling, and as too long. -/
theorem canonical_tooLong (long : 24999 < bytes.length) : canonical value = .error .tooLong := by
  have beyond : maxLength < 2 * bytes.length + 2 := by
    unfold maxLength
    omega
  unfold canonical
  rw [canonicalDigits_spelling spells, if_pos beyond]
  rfl

theorem canonicalDigits_short (short : bytes.length ≤ 24999) :
    canonicalDigits value = .ok (digits bytes) := by
  have within : ¬ maxLength < 2 * bytes.length + 2 := by
    unfold maxLength
    omega
  rw [canonicalDigits_spelling spells, if_neg within]

/-- **A code is written in one way and read as its bytes**, whatever its spelling. -/
theorem canonical_short (short : bytes.length ≤ 24999) : canonical value = .ok (write bytes) := by
  unfold canonical
  rw [canonicalDigits_short spells short]
  rfl

theorem read_short (short : bytes.length ≤ 24999) : read value = .ok bytes := by
  have decoded : (canonicalDigits value).map ofDigits = .ok bytes := by
    rw [canonicalDigits_short spells short]
    exact congrArg Except.ok (ofDigits_digits bytes)
  cases spells with
  | raw => rfl
  | bare same => exact decoded
  | marked same => exact decoded

end

/-- The canonical text of a code is one of its spellings. -/
theorem spells_write (bytes : List UInt8) : Spells bytes (.text (write bytes)) := by
  unfold write
  rw [prefixed_eq]
  exact .marked (digits_map_toLower bytes)

/-- A byte string is accepted if it is short enough, and its canonical form is what it writes. -/
theorem canonical_bytes {bytes : List UInt8} {code : String} :
    canonical (.bytes bytes) = .ok code ↔ bytes.length ≤ 24999 ∧ code = write bytes := by
  by_cases short : bytes.length ≤ 24999
  · rw [canonical_short .raw short, Except.ok.injEq, eq_comm]
    exact (and_iff_right short).symm
  · rw [canonical_tooLong .raw (Nat.lt_of_not_le short)]
    exact iff_of_false (nomatch ·) fun accepted => short accepted.1

/-- **What is accepted is written in lower case**, and that text is accepted as it is. -/
theorem canonical_lower {value : Value} {code : String} (accepted : canonical value = .ok code) :
    canonical (.text code) = .ok code ∧
      ∃ chars, code = "0x" ++ String.ofList chars ∧ ∀ c ∈ chars, c ∈ lowerAlphabet := by
  obtain ⟨bytes, rfl, again, -⟩ := canonical_ok accepted
  refine ⟨again, digits bytes, prefixed_eq _, fun c member => ?_⟩
  obtain ⟨digit, own⟩ := digits_lower bytes c member
  rw [← own]
  exact toLower_mem_lowerAlphabet (isHexDigit_iff.mp digit)

/-! ### One code -/

section

variable (α : Type) [Add α] [Mul α] [Div α] [LT α] [LE α] [DecidableLT α] [DecidableLE α]
  [OfScientific α] [NatCast α] [Decimal.Rendered α]

/-- **A value that is a code**: its canonical text is that of the bytes, and what is said about it is
what is said about the bytes. -/
structure OneCode (bytes : List UInt8) (value : Value) : Prop where
  canonical : canonical value = .ok (write bytes)
  decoded : read (.text (write bytes)) = .ok bytes
  size : (read value).map List.length = .ok bytes.length
  classify : ∀ templates, Proxy.classify templates value = Proxy.classify templates (.bytes bytes)
  detect : ∀ category abi, (detect category abi value : Except Failure (Finding α)) =
    detect category abi (.bytes bytes)
  detectSafely : ∀ category abi, (detectSafely category abi value : Finding α) =
    detectSafely category abi (.bytes bytes)

variable {α} in
theorem Spells.oneCode {bytes : List UInt8} {value : Value} (spells : Spells bytes value)
    (short : bytes.length ≤ 24999) : OneCode α bytes value := by
  have reads : read value = read (.bytes bytes) := read_short spells short
  have seen (category : Category) :
      Detector.codeFor category value = Detector.codeFor category (.bytes bytes) := by
    unfold Detector.codeFor
    rw [reads]
  have detects (category : Category) (abi : Abi.Input) :
      (ContractRisk.detect category abi value : Except Failure (Finding α)) =
        ContractRisk.detect category abi (.bytes bytes) := by
    unfold ContractRisk.detect
    rw [seen]
  refine ⟨canonical_short spells short, read_short (spells_write bytes) short, ?_, ?_, detects, ?_⟩
  · rw [reads]
    rfl
  · intro templates
    unfold Proxy.classify
    rw [reads]
  · intro category abi
    unfold ContractRisk.detectSafely
    rw [detects]

/-- **Every spelling of a code is the same code.** Texts are accepted if they are whole bytes of digits,
one `0x` taken off, and byte strings if they are short enough; what is accepted is written in one way,
which is accepted as it is. The spellings of a code that is short enough have one canonical text, from
which its bytes are read, and are judged alike by the classification and by every detector; those of
one that is too long are all refused. -/
theorem spellings_agree :
    (∀ text code, canonical (.text text) = .ok code ↔
      ∃ chars, Strips text chars ∧ chars.length % 2 = 0 ∧ chars.length ≤ 49998 ∧
        (∀ c ∈ chars, c ∈ hexAlphabet) ∧ code = "0x" ++ String.ofList (chars.map Char.toLower)) ∧
    (∀ bytes code, canonical (.bytes bytes) = .ok code ↔
      bytes.length ≤ 24999 ∧ code = write bytes) ∧
    (∀ value code, canonical value = .ok code → canonical (.text code) = .ok code ∧
      ∃ chars, code = "0x" ++ String.ofList chars ∧ ∀ c ∈ chars, c ∈ lowerAlphabet) ∧
    ∀ bytes value, Spells bytes value →
      (bytes.length ≤ 24999 → OneCode α bytes value) ∧
      (24999 < bytes.length → canonical value = .error .tooLong) := by
  refine ⟨fun text code => canonical_text, fun bytes code => canonical_bytes,
    fun value code => canonical_lower, fun bytes value spells => ⟨?_, ?_⟩⟩
  · exact spells.oneCode
  · exact canonical_tooLong spells

end

/-- A code of two bytes, its digits in both cases and without `0x`. -/
theorem spellings_agree_mixedCase :
    Spells [0xab, 0xcd] (.text "aBCd") ∧ canonical (.text "aBCd") = .ok "0xabcd" ∧
      canonical (.text "0xabcd") = .ok "0xabcd" ∧
      Proxy.classify Proxy.knownTemplates (.text "aBCd") =
        Proxy.classify Proxy.knownTemplates (.bytes [0xab, 0xcd]) := by
  have spells : Spells [0xab, 0xcd] (.text (String.ofList ['a', 'B', 'C', 'd'])) := .bare (by decide)
  obtain ⟨-, -, lower, agree⟩ := spellings_agree Float
  have one := (agree _ _ spells).1 (by decide)
  have written : write [0xab, 0xcd] = "0xabcd" := by decide
  have accepted : canonical (.text "aBCd") = .ok "0xabcd" := by
    rw [← written]
    exact one.canonical
  exact ⟨spells, accepted, (lower _ _ accepted).1, one.classify _⟩

end Bytecode

end ContractRisk
