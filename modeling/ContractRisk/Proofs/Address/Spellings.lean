/-
**The spellings of an address.**

Two texts are spellings of one address if they differ in the case of their digits only (`SameDigits`);
among addresses these are the texts with one normal form (`sameDigits_iff`). The checksummed form of an
address is a spelling of it, whatever letters the digest selects (`checksum_sameDigits`): a digit that is
raised is lowered to itself again, and a digest is long enough for all of them. So the spellings of an
address have one normal form and one checksummed form (`OneAddress`), and a list of threats has one
answer for them (`answers_sameDigits`).
-/

import ContractRisk.Proofs.Address

namespace ContractRisk

namespace Keccak

/-- A digest is 32 bytes. -/
theorem length_digest (message : List UInt8) : (digest message).length = 32 := by
  unfold digest bytesOfLane
  rw [List.length_flatMap]
  simp only [List.length_map, List.length_range]
  rfl

end Keccak

namespace Address

/-! ### Spellings -/

/-- **Two spellings of an address**: they differ in the case of their digits only. -/
def SameDigits (first second : String) : Prop :=
  ∃ digits others : List Char, first = "0x" ++ String.ofList digits ∧
    second = "0x" ++ String.ofList others ∧ digits.map Char.toLower = others.map Char.toLower

theorem prefixed_inj {digits others : List Char}
    (same : "0x" ++ String.ofList digits = "0x" ++ String.ofList others) : digits = others :=
  String.ofList_injective ((String.append_right_inj _).mp same)

/-- **The spellings of an address are the texts that have its normal form.** -/
theorem sameDigits_iff {first second address : String}
    (wellFormed : normalize? (.text first) = some address) :
    SameDigits first second ↔ normalize? (.text second) = some address := by
  obtain ⟨digits, count, hexadecimal, written, rfl⟩ := normalize?_eq_some.mp wellFormed
  constructor
  · rintro ⟨digits', others, written', rfl, same⟩
    have own : digits = digits' := prefixed_inj ((Value.text.inj written).symm.trans written')
    subst own
    refine normalize?_eq_some.mpr ⟨others, ?_, ?_, rfl, ?_⟩
    · rw [← count, ← List.length_map Char.toLower, ← same, List.length_map]
    · rw [← hexDigits_toLower, ← same, hexDigits_toLower]
      exact hexadecimal
    · rw [same]
  · intro wellFormed'
    obtain ⟨others, -, -, written', same⟩ := normalize?_eq_some.mp wellFormed'
    exact ⟨digits, others, Value.text.inj written, Value.text.inj written', prefixed_inj same⟩

/-- A normal form is an address and its own normal form. -/
theorem normalize?_normal {given : Value} {address : String}
    (wellFormed : normalize? given = some address) : normalize? (.text address) = some address := by
  obtain ⟨digits, count, hexadecimal, -, rfl⟩ := normalize?_eq_some.mp wellFormed
  refine normalize?_eq_some.mpr ⟨digits.map Char.toLower, ?_, hexDigits_toLower.mpr hexadecimal, rfl, ?_⟩
  · rw [List.length_map, count]
  · rw [List.map_map]
    refine congrArg (fun low => "0x" ++ String.ofList low) (List.map_congr_left fun c member => ?_)
    exact (toLower_hexDigit (hexadecimal c member)).2.symm

/-! ### The checksummed form -/

/-- A character of ASCII in lower case that is raised or not is lowered to itself. -/
theorem toLower_withDigest {digit : Char} (ascii : digit.toNat < 128) (low : digit.toLower = digit)
    (nibble : Nat) : (withDigest digit nibble).toLower = digit := by
  have raised : ∀ code < 128, (Char.ofNat code).toLower = Char.ofNat code →
      (Char.ofNat code).toUpper.toLower = Char.ofNat code := by decide +kernel
  unfold withDigest
  split
  · have own := raised digit.toNat ascii
    rw [Char.ofNat_toNat] at own
    exact own low
  · exact low

/-- Digits of which some are raised are lowered to what they were, if there is a half byte for each. -/
theorem map_toLower_raised {digits : List Char} {nibbles : List Nat}
    (low : ∀ c ∈ digits, c.toNat < 128 ∧ c.toLower = c) (enough : digits.length ≤ nibbles.length) :
    (List.zipWith withDigest digits nibbles).map Char.toLower = digits := by
  induction digits generalizing nibbles with
  | nil => rfl
  | cons digit rest ih =>
    cases nibbles with
    | nil => cases enough
    | cons nibble nibbles =>
      obtain ⟨ascii, own⟩ := low digit List.mem_cons_self
      rw [List.zipWith_cons_cons, List.map_cons, toLower_withDigest ascii own,
        ih (fun c member => low c (List.mem_cons_of_mem _ member)) (Nat.le_of_succ_le_succ enough)]

/-- The half bytes of a digest, two for each byte. -/
theorem length_nibbles (message : List UInt8) :
    ((Keccak.digest message).flatMap fun byte => [byte.toNat / 16, byte.toNat % 16]).length = 64 := by
  have pairs (bytes : List UInt8) :
      (bytes.flatMap fun byte => [byte.toNat / 16, byte.toNat % 16]).length = 2 * bytes.length := by
    induction bytes with
    | nil => rfl
    | cons byte rest ih =>
      rw [List.flatMap_cons, List.length_append, ih, List.length_cons]
      simp only [List.length_cons, List.length_nil]
      omega
  rw [pairs, Keccak.length_digest]

/-- **The checksummed form is a spelling**, whatever the digest selects. -/
theorem checksum_sameDigits {given : Value} {address : String}
    (wellFormed : normalize? given = some address) : SameDigits address (checksum address) := by
  obtain ⟨digits, count, hexadecimal, -, rfl⟩ := normalize?_eq_some.mp wellFormed
  have low : ∀ c ∈ digits.map Char.toLower, c.toNat < 128 ∧ c.toLower = c := by
    intro c member
    obtain ⟨digit, inside, rfl⟩ := List.mem_map.mp member
    exact toLower_hexDigit (hexadecimal digit inside)
  have count : (digits.map Char.toLower).length = digitCount := (List.length_map _).trans count
  generalize digits.map Char.toLower = digits at low count
  have again : digits.map Char.toLower = digits := by
    rw [List.map_congr_left fun c member => (low c member).2, List.map_id']
  let nibbles := (Keccak.digest (digits.map fun c => c.toNat.toUInt8)).flatMap
    fun byte => [byte.toNat / 16, byte.toNat % 16]
  have enough : digits.length ≤ nibbles.length := by
    rw [count, length_nibbles]
    decide
  refine ⟨digits, List.zipWith withDigest digits nibbles, rfl, ?_, ?_⟩
  · unfold checksum
    rw [show "0x" ++ String.ofList digits = _ from append_digits 'x' digits, String.toList_ofList]
    show String.ofList ('0' :: 'x' :: List.zipWith withDigest (digits.map Char.toLower)
      ((Keccak.digest ((digits.map Char.toLower).map _)).flatMap _)) = _
    rw [again]
    exact (append_digits 'x' _).symm
  · rw [again, map_toLower_raised low enough]

/-- **One address for two texts**: they have one normal form and one checksummed form, which is a
spelling too, and neither form changes any more. -/
structure OneAddress (address first second : String) : Prop where
  first_normal : normalize? (.text first) = some address
  second_normal : normalize? (.text second) = some address
  normal_again : normalize? (.text address) = some address
  first_checksum : checksum? (.text first) = some (checksum address)
  second_checksum : checksum? (.text second) = some (checksum address)
  checksum_again : checksum? (.text (checksum address)) = some (checksum address)
  checksum_normal : normalize? (.text (checksum address)) = some address
  checksum_spells : SameDigits first (checksum address)

theorem SameDigits.oneAddress {first second address : String} (same : SameDigits first second)
    (wellFormed : normalize? (.text first) = some address) : OneAddress address first second := by
  have checksum {text : String} (spells : normalize? (.text text) = some address) :
      checksum? (.text text) = some (checksum address) := by
    unfold checksum?
    rw [spells]
    rfl
  have normal := normalize?_normal wellFormed
  have spells := (sameDigits_iff wellFormed).mp same
  have raised := (sameDigits_iff normal).mp (checksum_sameDigits wellFormed)
  exact ⟨wellFormed, spells, normal, checksum wellFormed, checksum spells, checksum raised, raised,
    (sameDigits_iff wellFormed).mpr raised⟩

end Address

/-! ### Lists of threats -/

namespace ThreatList

/-- **A list of threats answers for all spellings of an address alike.** -/
theorem answers_sameDigits (threats : ThreatList) {first second address : String}
    (wellFormed : Address.normalize? (.text first) = some address)
    (wellFormed' : Address.normalize? (.text second) = some address) :
    threats.isKnown (.text second) = threats.isKnown (.text first) ∧
      threats.contains (.text second) = threats.contains (.text first) ∧
      ∀ warning, threats.warningFor (.text second) = .ok warning ↔
        threats.warningFor (.text first) = .ok warning := by
  have lowered {text : String} (spelled : Address.normalize? (.text text) = some address) :
      Text.lower text = address := by
    obtain ⟨digits, -, -, written, -⟩ := Address.normalize?_eq_some.mp spelled
    refine (Address.lower_eq_iff spelled).mpr ⟨String.ofList digits, .inl (Value.text.inj written), ?_⟩
    rwa [← written]
  have known : threats.isKnown (.text second) = threats.isKnown (.text first) := by
    show threats.addresses.contains (Text.lower second) = threats.addresses.contains (Text.lower first)
    rw [lowered wellFormed, lowered wellFormed']
  refine ⟨known, known, fun warning => ?_⟩
  unfold warningFor
  simp only
  rw [known, lowered wellFormed, lowered wellFormed']
  cases threats.isKnown (.text first) with
  | true => exact Iff.rfl
  | false => exact ⟨(nomatch ·), (nomatch ·)⟩

end ThreatList

end ContractRisk
