/-
**Addresses in normal form.**

A value is an address if it is `0x` and forty hexadecimal digits, and its normal form has them in
lower case (`normalize?_eq_some`). The normal form is made of ASCII characters in lower case
(`normalize?_chars`), so that lowering it once more changes nothing (`lower_normalize?`).

* `lowerAt_beyond`, `ascii_of_lowerFrom`: a character beyond ASCII leaves a mark in the lower case of
  a text, though the sign of the kelvin alone is lowered to a letter of ASCII; so no text with such a
  character is lowered to an address.
* `lower_eq_iff`: the texts that are lowered to a normal form are the addresses that have it, and the
  same with `0X` for `0x`, which are no addresses.

A list of threats is asked with the lower case of what it is given; for a normal form it therefore
answers whether that very text is listed (`isKnown_normalize?`).
-/

import ContractRisk.ThreatList

namespace ContractRisk

/-! ### Lower case -/

/-- A hexadecimal digit is a character of ASCII. -/
theorem hexDigit_ascii {c : Char} (digit : isHexDigit c = true) : 48 ≤ c.toNat ∧ c.toNat < 128 := by
  unfold isHexDigit at digit
  simp only [Char.le_def, Char.isDigit, Bool.or_eq_true, Bool.and_eq_true, decide_eq_true_eq] at digit
  grind [Char.toNat, UInt32.le_iff_toNat_le]

theorem isHexDigit_toLower (c : Char) : isHexDigit c.toLower = isHexDigit c := by
  unfold isHexDigit Char.toLower
  simp only [Char.le_def, Char.isDigit]
  grind [Char.toNat, UInt32.toNat_add, UInt32.le_iff_toNat_le]

/-- A hexadecimal digit in lower case is one that has no other. -/
theorem toLower_hexDigit {c : Char} (digit : isHexDigit c = true) :
    c.toLower.toNat < 128 ∧ c.toLower.toLower = c.toLower := by
  unfold isHexDigit at digit
  unfold Char.toLower
  simp only [Char.le_def, Char.isDigit, Bool.or_eq_true, Bool.and_eq_true, decide_eq_true_eq] at digit
  grind [Char.toNat, UInt32.toNat_add, UInt32.le_iff_toNat_le]

/-- Digits are hexadecimal in lower case if they are. -/
theorem hexDigits_toLower {digits : List Char} :
    (∀ c ∈ digits.map Char.toLower, isHexDigit c = true) ↔ ∀ c ∈ digits, isHexDigit c = true := by
  simp only [List.forall_mem_map, isHexDigit_toLower]

theorem toLower_eq_zero {c : Char} : c.toLower = '0' ↔ c = '0' := by
  unfold Char.toLower
  simp only [Char.ext_iff]
  grind [Char.toNat, UInt32.toNat_add, UInt32.le_iff_toNat_le]

theorem toLower_eq_x {c : Char} : c.toLower = 'x' ↔ c = 'x' ∨ c = 'X' := by
  unfold Char.toLower
  simp only [Char.ext_iff]
  grind [Char.toNat, UInt32.toNat_add, UInt32.le_iff_toNat_le]

namespace Text

/-- A text of ASCII is lowered character by character. -/
theorem lowerFrom_ascii {chars : List Char} (ascii : ∀ c ∈ chars, c.toNat < 128)
    (before : List Char) : lowerFrom before chars = chars.map Char.toLower := by
  induction chars generalizing before with
  | nil => rfl
  | cons c rest ih =>
    rw [lowerFrom, lowerAt, if_pos (ascii c List.mem_cons_self),
      ih fun other member => ascii other (List.mem_cons_of_mem _ member)]
    rfl

/-- Characters of ASCII in lower case are left as they are. -/
theorem lowerFrom_eq {chars : List Char} (low : ∀ c ∈ chars, c.toNat < 128 ∧ c.toLower = c)
    (before : List Char) : lowerFrom before chars = chars := by
  rw [lowerFrom_ascii fun c member => (low c member).1,
    List.map_congr_left fun c member => (low c member).2, List.map_id']

/-- A code point of no character is read as zero. -/
theorem toNat_ofNat (code : Nat) : (Char.ofNat code).toNat = code ∨ (Char.ofNat code).toNat = 0 := by
  by_cases valid : code.isValidChar
  · have read : Char.ofNat code = Char.ofNatAux code valid := dif_pos valid
    rw [read]
    exact .inl rfl
  · have zero : Char.ofNat code = '\x00' := dif_neg valid
    rw [zero]
    exact .inr rfl

/-- No run but that of the sign of the kelvin leads to ASCII. -/
theorem lowerRuns_image : ∀ run ∈ lowerRuns.toList,
    128 ≤ run.image ∨ run.image = 'k'.toNat ∧ run.first = run.last := by
  decide +kernel

/-- The mappings of single characters lead out of ASCII, except for the sign of the kelvin. -/
theorem mapRuns?_lowerRuns {code image : Nat} (mapped : mapRuns? lowerRuns code = some image) :
    128 ≤ image ∨ image = 'k'.toNat := by
  obtain ⟨run, inTable, covers⟩ := Array.exists_of_findSome?_eq_some mapped
  unfold Run.map? at covers
  split at covers
  · rename_i range
    cases covers
    rcases lowerRuns_image run inTable.val with high | ⟨kelvin, single⟩ <;> omega
  · cases covers

/-- A character beyond ASCII has a character in its lower case that no address has. -/
theorem lowerAt_beyond {c : Char} (beyond : ¬ c.toNat < 128) (before after : List Char) :
    ∃ d ∈ lowerAt before c after, isHexDigit d = false ∧ d ≠ 'x' := by
  have far {d : Char} (outside : d.toNat = 0 ∨ 128 ≤ d.toNat) : isHexDigit d = false ∧ d ≠ 'x' := by
    constructor
    · refine Bool.eq_false_iff.mpr fun digit => ?_
      have := hexDigit_ascii digit
      omega
    · rintro rfl
      simp at outside
  unfold lowerAt
  rw [if_neg beyond]
  split
  · exact ⟨_, List.mem_singleton_self _, by split <;> decide⟩
  split
  · exact ⟨'i', List.mem_cons_self, by decide⟩
  refine ⟨_, List.mem_singleton_self _, ?_⟩
  cases mapped : mapRuns? lowerRuns c.toNat with
  | none => exact far (.inr (Nat.le_of_not_lt beyond))
  | some image =>
    rcases mapRuns?_lowerRuns mapped with high | rfl
    · apply far
      show (Char.ofNat image).toNat = 0 ∨ 128 ≤ (Char.ofNat image).toNat
      rcases toNat_ofNat image with same | zero
      · rw [same]
        exact .inr high
      · exact .inl zero
    · exact (by decide : isHexDigit 'k' = false ∧ 'k' ≠ 'x')

/-- A text is of ASCII if its lower case has only characters that an address may have. -/
theorem ascii_of_lowerFrom {chars before : List Char}
    (spelled : ∀ d ∈ lowerFrom before chars, isHexDigit d = true ∨ d = 'x') :
    ∀ c ∈ chars, c.toNat < 128 := by
  induction chars generalizing before with
  | nil => exact fun _ member => nomatch member
  | cons head rest ih =>
    rw [lowerFrom] at spelled
    intro c member
    rcases List.mem_cons.mp member with rfl | inRest
    · by_cases ascii : c.toNat < 128
      · exact ascii
      obtain ⟨d, inside, noDigit, noMarker⟩ := lowerAt_beyond ascii before rest
      rcases spelled d (List.mem_append_left _ inside) with digit | marker
      · rw [noDigit] at digit
        cases digit
      · exact absurd marker noMarker
    · exact ih (fun d inside => spelled d (List.mem_append_right _ inside)) c inRest

end Text

/-! ### Normal forms -/

namespace Address

theorem isWellFormed_iff {chars : List Char} : isWellFormed chars = true ↔
    ∃ digits, chars = '0' :: 'x' :: digits ∧ digits.length = digitCount ∧
      ∀ c ∈ digits, isHexDigit c = true := by
  constructor
  · intro shape
    unfold isWellFormed at shape
    split at shape
    · rename_i digits
      rw [Bool.and_eq_true, decide_eq_true_eq, List.all_eq_true] at shape
      exact ⟨digits, rfl, shape⟩
    · cases shape
  · rintro ⟨digits, rfl, count, hexadecimal⟩
    exact Bool.and_eq_true_iff.mpr ⟨decide_eq_true count, List.all_eq_true.mpr hexadecimal⟩

/-- Digits after a prefix, as one list of characters. -/
theorem append_digits (marker : Char) (digits : List Char) :
    String.ofList ['0', marker] ++ String.ofList digits = String.ofList ('0' :: marker :: digits) :=
  String.ofList_append.symm

/-- An address is `0x` and its digits, and its normal form has the digits in lower case. -/
theorem normalize?_eq_some {given : Value} {address : String} :
    normalize? given = some address ↔
      ∃ digits, digits.length = digitCount ∧ (∀ c ∈ digits, isHexDigit c = true) ∧
        given = .text ("0x" ++ String.ofList digits) ∧
        address = "0x" ++ String.ofList (digits.map Char.toLower) := by
  constructor
  · intro wellFormed
    cases given with
    | text text =>
      change ofText? text = some address at wellFormed
      unfold ofText? at wellFormed
      split at wellFormed
      · rename_i shape
        obtain ⟨digits, spelled, count, hexadecimal⟩ := isWellFormed_iff.mp shape
        refine ⟨digits, count, hexadecimal, ?_, ?_⟩
        · rw [← text.ofList_toList, spelled]
          exact congrArg Value.text (append_digits 'x' digits).symm
        · rw [← Option.some.inj wellFormed, spelled]
          exact (append_digits 'x' _).symm
      · cases wellFormed
    | _ => cases wellFormed
  · rintro ⟨digits, count, hexadecimal, rfl, rfl⟩
    show ofText? (String.ofList ['0', 'x'] ++ _) = some (String.ofList ['0', 'x'] ++ _)
    rw [append_digits, append_digits, ofText?, String.toList_ofList,
      if_pos (isWellFormed_iff.mpr ⟨digits, rfl, count, hexadecimal⟩)]
    rfl

/-- Nothing with the prefix `0X` is an address. -/
theorem normalize?_capital (digits : String) : normalize? (.text ("0X" ++ digits)) = none := by
  have spelled : ("0X" ++ digits).toList = '0' :: 'X' :: digits.toList := by
    rw [String.toList_append]
    rfl
  show ofText? _ = none
  rw [ofText?, spelled]
  rfl

theorem normalize?_chars {given : Value} {address : String}
    (wellFormed : normalize? given = some address) :
    ∀ c ∈ address.toList, c.toNat < 128 ∧ c.toLower = c := by
  obtain ⟨digits, -, hexadecimal, -, rfl⟩ := normalize?_eq_some.mp wellFormed
  rw [show "0x" ++ String.ofList _ = _ from append_digits 'x' _, String.toList_ofList]
  intro c member
  rcases List.mem_cons.mp member with rfl | member
  · decide
  rcases List.mem_cons.mp member with rfl | member
  · decide
  obtain ⟨digit, inside, rfl⟩ := List.mem_map.mp member
  exact toLower_hexDigit (hexadecimal digit inside)

/-- Digits after `0x` or `0X` have the normal form with that prefix as their lower case. -/
theorem lower_digits {digits : List Char} (hexadecimal : ∀ c ∈ digits, isHexDigit c = true)
    {marker : Char} (isMarker : marker = 'x' ∨ marker = 'X') :
    Text.lower (String.ofList ['0', marker] ++ String.ofList digits) =
      "0x" ++ String.ofList (digits.map Char.toLower) := by
  have ascii : ∀ c ∈ '0' :: marker :: digits, c.toNat < 128 := by
    intro c member
    rcases List.mem_cons.mp member with rfl | member
    · decide
    rcases List.mem_cons.mp member with rfl | member
    · rcases isMarker with rfl | rfl <;> decide
    · exact (hexDigit_ascii (hexadecimal c member)).2
  unfold Text.lower
  rw [append_digits, String.toList_ofList, Text.lowerFrom_ascii ascii, List.map_cons, List.map_cons,
    toLower_eq_x.mpr isMarker]
  exact (append_digits 'x' _).symm

/-- **What a text is whose lower case is a normal form**: the address in any case of its digits,
with `0x` before them or with `0X`. -/
theorem lower_eq_iff {given : Value} {text address : String}
    (normal : normalize? given = some address) : Text.lower text = address ↔
      ∃ digits, (text = "0x" ++ digits ∨ text = "0X" ++ digits) ∧
        normalize? (.text ("0x" ++ digits)) = some address := by
  constructor
  · intro lowered
    obtain ⟨low, count, hexadecimal, -, rfl⟩ := normalize?_eq_some.mp normal
    replace lowered : Text.lowerFrom [] text.toList = '0' :: 'x' :: low.map Char.toLower := by
      exact String.ofList_injective (lowered.trans (append_digits 'x' _))
    have ascii : ∀ c ∈ text.toList, c.toNat < 128 := by
      refine @Text.ascii_of_lowerFrom text.toList [] ?_
      rw [lowered]
      exact List.forall_mem_cons.mpr ⟨.inl rfl, List.forall_mem_cons.mpr ⟨.inr rfl,
        fun c member => .inl (hexDigits_toLower.mpr hexadecimal c member)⟩⟩
    rw [Text.lowerFrom_ascii ascii] at lowered
    obtain ⟨zero, tail, spelled, isZero, lowered⟩ := List.map_eq_cons_iff.mp lowered
    obtain ⟨marker, digits, rfl, isMarker, lowered⟩ := List.map_eq_cons_iff.mp lowered
    cases toLower_eq_zero.mp isZero
    have written : text = String.ofList ['0', marker] ++ String.ofList digits := by
      rw [append_digits, ← spelled, String.ofList_toList]
    refine ⟨String.ofList digits, ?_, ?_⟩
    · rcases toLower_eq_x.mp isMarker with rfl | rfl
      · exact .inl written
      · exact .inr written
    · refine normalize?_eq_some.mpr ⟨digits, ?_, ?_, rfl, ?_⟩
      · rw [← count, ← List.length_map Char.toLower, lowered, List.length_map]
      · rw [← hexDigits_toLower, lowered, hexDigits_toLower]
        exact hexadecimal
      · rw [lowered]
  · rintro ⟨digits, prefixed, wellFormed⟩
    obtain ⟨digits, -, hexadecimal, same, rfl⟩ := normalize?_eq_some.mp wellFormed
    cases String.append_right_inj _ |>.mp (Value.text.inj same)
    rcases prefixed with rfl | rfl
    · exact lower_digits hexadecimal (.inl rfl)
    · exact lower_digits hexadecimal (.inr rfl)

theorem lower_normalize? {given : Value} {address : String}
    (wellFormed : normalize? given = some address) : Text.lower address = address := by
  unfold Text.lower
  rw [Text.lowerFrom_eq (normalize?_chars wellFormed), String.ofList_toList]

end Address

/-- **A normal form is known if and only if it is listed.** -/
theorem ThreatList.isKnown_normalize? (threats : ThreatList) {given : Value} {address : String}
    (wellFormed : Address.normalize? given = some address) :
    threats.isKnown (.text address) = true ↔ address ∈ threats.addresses := by
  show threats.addresses.contains (Text.lower address) = true ↔ _
  rw [Address.lower_normalize? wellFormed, List.contains_iff_mem]

end ContractRisk
