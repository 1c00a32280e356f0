/-
**What passes the check of the input, and what detectors make of it.**

`checkInput` takes whatever has the length zero for absent and does not look at it any further. Detectors
take nothing but null for absent, and read everything else. So what passes the check is read by every
detector, but for the values that are empty and yet no interface or no code (`Abi.Hollow`,
`Bytecode.Hollow`).

* `checkInput_eq_ok`: what passes the check;
* `entriesOf_of_checked`, `read_of_checked`: what can be read of what has passed;
* `checkInput_detectors`: the detectors that fail on what has passed.
-/

import ContractRisk.Detector.Summary
import ContractRisk.Proofs.Detector.Outcome

namespace ContractRisk

open Attempt

/-- Values that are empty, and not even an empty interface. -/
inductive Abi.Hollow : Abi.Input → Prop
  | text (room : Nat) : Hollow (.value (.text "") room)
  | bytes (room : Nat) : Hollow (.value (.bytes []) room)
  | record (room : Nat) : Hollow (.value (.record []) room)

/-- Values that are empty, and not even an empty code. -/
inductive Bytecode.Hollow : Value → Prop
  | list : Hollow (.list [])
  | record : Hollow (.record [])

variable {abi : Abi.Input} {code : Value} {category : Category}

/-! ### What passes -/

theorem discard_eq_ok {ε β : Type} {attempt : Except ε β} :
    discard attempt = .ok () ↔ ∃ value, attempt = .ok value := by
  cases attempt with
  | error failure => exact iff_of_false (fun same => nomatch same) fun ⟨_, same⟩ => nomatch same
  | ok value => exact iff_of_true rfl ⟨value, rfl⟩

/-- A step that is taken only if there is something to read. -/
theorem readIf_eq_ok {ε β : Type} {size : Nat} {attempt : Except ε β} :
    (if 0 < size then discard attempt else .ok ()) = .ok () ↔ (0 < size → ∃ value, attempt = .ok value) := by
  split
  · rename_i there
    rw [discard_eq_ok]
    exact ⟨fun reads _ => reads, fun reads => reads there⟩
  · rename_i empty
    exact iff_of_true rfl fun there => absurd there empty

/-- The check of parts whose lengths are known. -/
theorem checkInput_sized {abiSize codeSize : Nat} (measured : abiLength abi = .ok abiSize)
    (measured' : givenLength code = .ok codeSize) :
    checkInput abi code = if abiSize = 0 ∧ codeSize = 0 then .error (.refused .noInput) else
      (if 0 < abiSize then discard (Abi.read abi) else .ok ()) >>= fun _ =>
        if 0 < codeSize then
          discard ((Bytecode.read code).mapError fun fault => Failure.refused (.inputCode fault))
        else .ok () := by
  unfold checkInput
  rw [measured, measured']
  by_cases nothing : abiSize = 0 ∧ codeSize = 0
  · rw [if_pos nothing, nothing.1, nothing.2]
    rfl
  · have something : (decide (abiSize = 0) && decide (codeSize = 0)) = false := by
      rw [← Bool.not_eq_true, Bool.and_eq_true, decide_eq_true_iff, decide_eq_true_iff]
      exact nothing
    rw [if_neg nothing]
    show (if (decide (abiSize = 0) && decide (codeSize = 0)) = true then _ else _) = _
    rw [something]
    by_cases there : 0 < abiSize
    · simp only [there, if_true]
      rfl
    · simp only [there, if_false]
      rfl

/-- **The input passes** if and only if both parts have a length, one of them is not empty, and each that
is not empty can be read. -/
theorem checkInput_eq_ok : checkInput abi code = .ok () ↔
    ∃ abiSize codeSize, abiLength abi = .ok abiSize ∧ givenLength code = .ok codeSize ∧
      (0 < abiSize ∨ 0 < codeSize) ∧
      (0 < abiSize → ∃ entries, Abi.read abi = .ok entries) ∧
      (0 < codeSize → ∃ bytes, Bytecode.read code = .ok bytes) := by
  constructor
  · intro accepted
    obtain ⟨abiSize, measured, rest⟩ := bind_eq_ok.mp accepted
    obtain ⟨codeSize, measured', -⟩ := bind_eq_ok.mp rest
    rw [checkInput_sized measured measured'] at accepted
    split at accepted
    · cases accepted
    · rename_i something
      obtain ⟨⟨⟩, reads, looks⟩ := bind_eq_ok.mp accepted
      refine ⟨abiSize, codeSize, measured, measured', by omega, readIf_eq_ok.mp reads, fun there => ?_⟩
      obtain ⟨bytes, looks⟩ := readIf_eq_ok.mp looks there
      exact ⟨bytes, mapError_eq_ok.mp looks⟩
  · rintro ⟨abiSize, codeSize, measured, measured', something, reads, looks⟩
    rw [checkInput_sized measured measured', if_neg (by omega)]
    refine bind_eq_ok.mpr ⟨(), readIf_eq_ok.mpr reads, readIf_eq_ok.mpr fun there => ?_⟩
    obtain ⟨bytes, looks⟩ := looks there
    exact ⟨bytes, mapError_eq_ok.mpr looks⟩

/-! ### What is empty -/

/-- A value without a length is none that is read as an interface or a code. -/
theorem givenLength_eq_zero {value : Value} (empty : givenLength value = .ok 0) :
    value = .null ∨ value = .text "" ∨ value = .bytes [] ∨ value = .list [] ∨ value = .record [] := by
  cases value with
  | null => exact .inl rfl
  | text s =>
    have none : s.length = 0 := Except.ok.inj empty
    rw [String.length_eq_zero_iff] at none
    exact .inr (.inl (congrArg Value.text none))
  | bytes b =>
    have none : b.length = 0 := Except.ok.inj empty
    exact .inr (.inr (.inl (congrArg Value.bytes (List.eq_nil_of_length_eq_zero none))))
  | list items =>
    have none : items.length = 0 := Except.ok.inj empty
    exact .inr (.inr (.inr (.inl (congrArg Value.list (List.eq_nil_of_length_eq_zero none)))))
  | record fields =>
    have none : fields.length = 0 := Except.ok.inj empty
    exact .inr (.inr (.inr (.inr (congrArg Value.record (List.eq_nil_of_length_eq_zero none)))))
  | bool b => cases empty
  | number n => cases empty

/-- **What is empty is read as no entries**, unless it is hollow. -/
theorem entriesOf_empty (empty : abiLength abi = .ok 0) :
    (∃ entries, Abi.entriesOf abi = .ok entries) ↔ ¬ Abi.Hollow abi := by
  cases abi with
  | items items =>
    have none : items.length = 0 := Except.ok.inj empty
    rw [List.eq_nil_of_length_eq_zero none]
    exact iff_of_true ⟨[], rfl⟩ fun hollow => nomatch hollow
  | value value room =>
    rcases givenLength_eq_zero empty with rfl | rfl | rfl | rfl | rfl
    · exact iff_of_true ⟨[], rfl⟩ fun hollow => nomatch hollow
    · refine iff_of_false ?_ (not_not_intro (.text room))
      rintro ⟨entries, reads⟩
      cases reads
    · refine iff_of_false ?_ (not_not_intro (.bytes room))
      rintro ⟨entries, reads⟩
      cases reads
    · exact iff_of_true ⟨[], rfl⟩ fun hollow => nomatch hollow
    · refine iff_of_false ?_ (not_not_intro (.record room))
      rintro ⟨entries, reads⟩
      cases reads

/-- **What is empty is read as no bytes**, unless it is hollow. -/
theorem read_empty (empty : givenLength code = .ok 0) :
    (∃ bytes, Bytecode.read code = .ok bytes) ↔ ¬ Bytecode.Hollow code := by
  rcases givenLength_eq_zero empty with rfl | rfl | rfl | rfl | rfl
  · exact iff_of_true ⟨[], rfl⟩ fun hollow => nomatch hollow
  · exact iff_of_true ⟨[], rfl⟩ fun hollow => nomatch hollow
  · exact iff_of_true ⟨[], rfl⟩ fun hollow => nomatch hollow
  · refine iff_of_false ?_ (not_not_intro .list)
    rintro ⟨bytes, reads⟩
    cases reads
  · refine iff_of_false ?_ (not_not_intro .record)
    rintro ⟨bytes, reads⟩
    cases reads

/-! ### What detectors make of it -/

/-- A safe detector reports a failure if and only if it cannot read what it looks at. -/
theorem detectSafely_failed_iff :
    (∃ failure, (detectSafely category abi code : Finding Float) = .failed category failure) ↔
      ¬ ((∃ entries, Abi.entriesOf abi = .ok entries) ∧
        ∃ bytes, Detector.codeFor category code = .ok bytes) := by
  have outcome := @detect_ok_iff category abi code
  unfold Malformed at outcome
  rw [not_or, ← Abi.entriesOf_ok_iff, ← Detector.codeFor_ok_iff] at outcome
  rw [← outcome]
  unfold detectSafely
  cases detects : (detect category abi code : Except Failure (Finding Float)) with
  | error failure => exact iff_of_true ⟨failure, rfl⟩ fun ⟨_, same⟩ => nomatch same
  | ok finding =>
    exact iff_of_false (not_exists.mpr (detect_finding detects).2.2) (not_not_intro ⟨finding, rfl⟩)

/-- What has passed is read as entries, unless it is hollow. -/
theorem entriesOf_of_checked (accepted : checkInput abi code = .ok ()) :
    (∃ entries, Abi.entriesOf abi = .ok entries) ↔ ¬ Abi.Hollow abi := by
  obtain ⟨abiSize, -, measured, -, -, reads, -⟩ := checkInput_eq_ok.mp accepted
  rcases Nat.eq_zero_or_pos abiSize with rfl | there
  · exact entriesOf_empty measured
  · obtain ⟨entries, reads⟩ := reads there
    refine iff_of_true ⟨entries, Abi.entriesOf_read reads⟩ fun hollow => ?_
    cases hollow <;> cases reads

/-- What has passed is read as bytes, unless it is hollow. -/
theorem read_of_checked (accepted : checkInput abi code = .ok ()) :
    (∃ bytes, Bytecode.read code = .ok bytes) ↔ ¬ Bytecode.Hollow code := by
  obtain ⟨-, codeSize, -, measured, -, -, looks⟩ := checkInput_eq_ok.mp accepted
  rcases Nat.eq_zero_or_pos codeSize with rfl | there
  · exact read_empty measured
  · obtain ⟨bytes, reads⟩ := looks there
    refine iff_of_true ⟨bytes, reads⟩ fun hollow => ?_
    cases hollow <;> cases reads

/-- **Of input that has passed the check, every detector makes a finding, unless the input is hollow**: all
of them fail on an interface that is an empty text, byte string or record, those that look at the code on a
code that is an empty list or record, and on nothing else. -/
theorem checkInput_detectors (accepted : checkInput abi code = .ok ()) (category : Category) :
    (∃ failure, (detectSafely category abi code : Finding Float) = .failed category failure) ↔
      Abi.Hollow abi ∨
        (category = .hiddenRedirection ∨ category = .nonFunctionalTransfer) ∧ Bytecode.Hollow code := by
  have unreadable : (∀ bytes, Bytecode.read code ≠ .ok bytes) ↔ Bytecode.Hollow code := by
    rw [← not_exists, read_of_checked accepted, not_not]
  rw [detectSafely_failed_iff, entriesOf_of_checked accepted, Detector.codeFor_ok_iff, unreadable,
    not_and_or, not_not, not_not]

/-- An empty text passes beside a code that calls a fixed address, and the detector that would report the
call fails on it. -/
theorem checkInput_detectors_emptyText :
    let code : Value := .text "0x73dead00000000000000000000000000000000beef5af1"
    checkInput (.value (.text "") 0) code = .ok () ∧
      ∃ failure, (detectSafely .hiddenRedirection (.value (.text "") 0) code : Finding Float) =
        .failed .hiddenRedirection failure := by
  intro code
  have accepted : checkInput (.value (.text "") 0) code = .ok () := by rfl
  exact ⟨accepted, (checkInput_detectors accepted .hiddenRedirection).mpr (.inl (.text 0))⟩

end ContractRisk
