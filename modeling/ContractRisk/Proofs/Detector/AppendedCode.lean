/-
**Hidden redirections in a code that goes on.**

Whatever the scan for redirections finds in a code it still finds when bytes are appended, in the
same places and in the same order. A signal depends on its instruction and on those before it, and
the instructions change at most in a cut one at the end (`sweep_append`), which signals nothing
(`signalAt?_cut`).

* `signals_append`: the signals of `a` are those that `a ++ b` begins with. The same holds of the
  calls, the self-destructions and the first places of made-up addresses among them;
* `codeScore_mono`, `confidence_mono`, `severity_mono`: over exact fractions, more signals never
  weigh less, although the weight jumps when a second sort of signals comes in;
* `detect_append`: hence the finding about `a ++ b` says at least as much as the one about `a`.
-/

import Mathlib.Tactic.Linarith
import ContractRisk.Detector
import ContractRisk.Proofs.Bytecode.Sweep
import ContractRisk.Proofs.Fraction

namespace ContractRisk.Detector.HiddenRedirection

open Abi

/-! ### Signals -/

/-- A cut instruction pushes no whole address, and its opcode is that of a push. -/
theorem signalAt?_cut {instruction : Instruction} (cut : instruction.IsCut)
    (before : List Instruction) : signalAt? before instruction = none := by
  have range : 0x60 ≤ instruction.opcode ∧ instruction.opcode ≤ 0x7f := by
    simpa [Instruction.isPush, Instruction.pushes] using cut.isPush
  have noCall : callName? instruction.opcode = none := by
    unfold callName?
    grind
  have noDestruct : instruction.opcode ≠ destructOpcode := by
    unfold destructOpcode
    grind
  have noJump : instruction.opcode ≠ jumpOpcode := by
    unfold jumpOpcode
    grind
  unfold signalAt?
  rw [cut.pushedAddress?]
  simp [noCall, noDestruct, noJump]

theorem signalsFrom_cut {cut : List Instruction} (isCut : ∀ instruction ∈ cut, instruction.IsCut)
    (before : List Instruction) : signalsFrom before cut = [] := by
  induction cut generalizing before with
  | nil => rfl
  | cons instruction rest ih =>
    rw [signalsFrom, signalAt?_cut (isCut instruction List.mem_cons_self),
      ih fun other member => isCut other (List.mem_cons_of_mem _ member)]
    rfl

theorem signalsFrom_append (before first second : List Instruction) :
    signalsFrom before (first ++ second) =
      signalsFrom before first ++ signalsFrom (first.reverse ++ before) second := by
  induction first generalizing before with
  | nil => rfl
  | cons instruction rest ih =>
    rw [List.cons_append, signalsFrom, signalsFrom, ih, List.reverse_cons, List.append_assoc,
      List.append_assoc]
    rfl

/-- **Appended bytes add signals behind those that are there.** -/
theorem signals_append (code more : List UInt8) : signals code <+: signals (code ++ more) := by
  obtain ⟨kept, cut, split, ⟨rest, begins⟩, isCut⟩ := sweep_append code more
  unfold signals
  rw [split, signalsFrom_append, signalsFrom_cut isCut, List.append_nil, ← begins,
    signalsFrom_append]
  exact List.prefix_append _ _

/-- The first places of addresses depend on the places before them only. -/
theorem firstPlaces_extend {places more : List Place} (begins : places <+: more)
    (seen : List String) : firstPlaces seen places <+: firstPlaces seen more := by
  induction places generalizing more seen with
  | nil => exact List.nil_prefix
  | cons place rest ih =>
    obtain ⟨tail, rfl⟩ := begins
    rw [List.cons_append, firstPlaces, firstPlaces]
    have begins : rest <+: rest ++ tail := List.prefix_append rest tail
    by_cases known : seen.contains place.address = true
    · rw [if_pos known, if_pos known]
      exact ih begins seen
    · rw [if_neg known, if_neg known]
      exact List.cons_prefix_cons.mpr ⟨rfl, ih begins _⟩

section Found

variable {found more : List Signal}

theorem calls_extend (begins : found <+: more) : calls found <+: calls more :=
  begins.filterMap _

theorem destructs_extend (begins : found <+: more) : destructs found <+: destructs more :=
  begins.filterMap _

theorem literals_extend (begins : found <+: more) : literals found <+: literals more :=
  firstPlaces_extend (begins.filterMap _) []

theorem jumps_mono (begins : found <+: more) : jumps found ≤ jumps more :=
  begins.sublist.countP_le

/-- A sort of signals that occurs still occurs. -/
theorem sorts_mono (begins : found <+: more) : sorts found ≤ sorts more := by
  have keeps {β : Type} {short long : List β} (begins : short <+: long) :
      long.isEmpty = true → short.isEmpty = true := by
    rw [List.isEmpty_iff, List.isEmpty_iff]
    rintro rfl
    exact List.prefix_nil.mp begins
  have call := keeps (calls_extend begins)
  have destruct := keeps (destructs_extend begins)
  have literal := keeps (literals_extend begins)
  unfold sorts
  simp only [List.countP_cons, List.countP_nil]
  grind

/-- Every line of evidence is kept, in order. -/
theorem evidence_sublist (begins : found <+: more) (entries : List Entry) :
    (evidence found entries).Sublist (evidence more entries) := by
  unfold evidence
  exact ((((calls_extend begins).sublist.map callLine).append
    ((destructs_extend begins).sublist.map destructLine)).append
    ((literals_extend begins).sublist.map literalLine)).append (List.Sublist.refl _)

/-! ### Scores -/

/-- **More signals never weigh less.** The weight is a sum of counts, and it is raised by a half as
soon as two sorts of signals occur, which is never undone. -/
theorem codeScore_mono (begins : found <+: more) :
    (codeScore found : Rat) ≤ codeScore more := by
  have call : ((calls found).length : Rat) ≤ (calls more).length := by
    exact_mod_cast (calls_extend begins).length_le
  have destruct : ((destructs found).length : Rat) ≤ (destructs more).length := by
    exact_mod_cast (destructs_extend begins).length_le
  have literal : ((literals found).length : Rat) ≤ (literals more).length := by
    exact_mod_cast (literals_extend begins).length_le
  have calls_nonneg : (0 : Rat) ≤ (calls found).length := Nat.cast_nonneg _
  have destructs_nonneg : (0 : Rat) ≤ (destructs found).length := Nat.cast_nonneg _
  have literals_nonneg : (0 : Rat) ≤ (literals found).length := Nat.cast_nonneg _
  have sort := sorts_mono begins
  unfold codeScore
  norm_num
  split
  · rename_i several
    rw [if_pos (lt_of_lt_of_le several sort)]
    linarith
  · split <;> linarith

theorem confidence_mono (begins : found <+: more) (entries : List Entry) :
    (confidence found entries : Rat) ≤ confidence more entries :=
  capped_mono (add_le_add_left (codeScore_mono begins) _)

/-- The grounds for each severity remain, so that a lesser one is never chosen instead. -/
theorem severity_mono (begins : found <+: more) (entries : List Entry) {share share' : Rat}
    (le : share ≤ share') :
    (severity found entries share).rank ≤ (severity more entries share').rank := by
  have calls_le : (calls found).length ≤ (calls more).length := (calls_extend begins).length_le
  have destructs_keep : (!(destructs found).isEmpty) = true → (!(destructs more).isEmpty) = true := by
    have le := (destructs_extend begins).length_le
    simp only [Bool.not_eq_true', List.isEmpty_eq_false_iff, ← List.length_pos_iff]
    omega
  unfold severity
  by_cases critical : 0.6 ≤ share' ∧ !(destructs more).isEmpty
  · rw [if_pos critical]
    exact Severity.rank_le_critical _
  rw [if_neg critical, if_neg fun ground => critical ⟨ground.1.trans le, destructs_keep ground.2⟩]
  by_cases high : 0.5 ≤ share' ∧ (2 < (calls more).length ∨ 2 ≤ (setters entries).length)
  · rw [if_pos high]
    split
    · exact le_rfl
    · split <;> decide
  rw [if_neg high, if_neg fun ground => high ⟨ground.1.trans le,
    ground.2.imp_left fun many => many.trans_le calls_le⟩]
  by_cases medium : 0.4 ≤ share'
  · rw [if_pos medium]
    split <;> decide
  · rw [if_neg medium, if_neg fun ground => medium (ground.trans le)]

end Found

/-! ### Findings -/

/-- The finding about a byte string comes of what the scan observes in it. -/
theorem detect_bytes {abi : Input} {entries : List Entry} (parsed : entriesOf abi = .ok entries)
    (code : List UInt8) :
    detect .hiddenRedirection abi (.bytes code) =
      .ok ((inspect entries code : Inspection Rat).conclude .hiddenRedirection) := by
  unfold detect
  rw [parsed]
  rfl

theorem inspect_append (entries : List Entry) (code more : List UInt8) :
    ((inspect entries code).conclude .hiddenRedirection : Finding Rat).AtMost
      ((inspect entries (code ++ more)).conclude .hiddenRedirection) := by
  have begins := signals_append code more
  unfold inspect
  by_cases nothing : (code.isEmpty && (functions entries).isEmpty) = true
  · rw [if_pos nothing]
    exact Finding.skipped_atMost _ _ _ _
  · have something : ¬ ((code ++ more).isEmpty && (functions entries).isEmpty) = true := by
      simp only [Bool.and_eq_true, List.isEmpty_iff, List.append_eq_nil_iff] at nothing ⊢
      exact fun both => nothing ⟨both.1.1, both.2⟩
    rw [if_neg nothing, if_neg something]
    exact Finding.ofObservation_atMost _ (confidence_mono begins entries)
      (severity_mono begins entries (confidence_mono begins entries))
      (evidence_sublist begins entries)

/-- **Findings survive appended code.** For every interface that can be read and all byte strings,
what the scan finds in `code` is what it finds first in `code ++ more`; the detector finds at least as
much confidence and severity there, keeps every line of evidence, and never takes a detection back. -/
theorem detect_append {abi : Input} {entries : List Entry} (parsed : entriesOf abi = .ok entries)
    (code more : List UInt8) :
    calls (signals code) <+: calls (signals (code ++ more)) ∧
      destructs (signals code) <+: destructs (signals (code ++ more)) ∧
      literals (signals code) <+: literals (signals (code ++ more)) ∧
      jumps (signals code) ≤ jumps (signals (code ++ more)) ∧
      ∃ finding finding' : Finding Rat,
        detect .hiddenRedirection abi (.bytes code) = .ok finding ∧
        detect .hiddenRedirection abi (.bytes (code ++ more)) = .ok finding' ∧
        finding.confidence ≤ finding'.confidence ∧
        finding.severity.rank ≤ finding'.severity.rank ∧
        finding.evidence.Sublist finding'.evidence ∧
        (finding.detected = true → finding'.detected = true) := by
  have begins := signals_append code more
  have atMost := inspect_append entries code more
  exact ⟨calls_extend begins, destructs_extend begins, literals_extend begins, jumps_mono begins,
    _, _, detect_bytes parsed code, detect_bytes parsed (code ++ more), atMost.confidence,
    atMost.severity, atMost.evidence, atMost.detected⟩

/-- A self-destruction in favour of a made-up address, and a push that the code ends in. -/
def cutCode : List UInt8 :=
  0x73 :: List.replicate 16 0x00 ++ [0xde, 0xad, 0xbe, 0xef, 0xff, 0x61, 0xff]

/-- The cut push is completed by what is appended, and the finding stays. -/
theorem detect_append_cutCode :
    entriesOf (.value .null 0) = .ok [] ∧
      (calls (signals cutCode) <+: calls (signals (cutCode ++ [0xff, 0xff])) ∧
        destructs (signals cutCode) <+: destructs (signals (cutCode ++ [0xff, 0xff])) ∧
        literals (signals cutCode) <+: literals (signals (cutCode ++ [0xff, 0xff])) ∧
        jumps (signals cutCode) ≤ jumps (signals (cutCode ++ [0xff, 0xff])) ∧
        ∃ finding finding' : Finding Rat,
          detect .hiddenRedirection (.value .null 0) (.bytes cutCode) = .ok finding ∧
          detect .hiddenRedirection (.value .null 0) (.bytes (cutCode ++ [0xff, 0xff])) =
            .ok finding' ∧
          finding.confidence ≤ finding'.confidence ∧
          finding.severity.rank ≤ finding'.severity.rank ∧
          finding.evidence.Sublist finding'.evidence ∧
          (finding.detected = true → finding'.detected = true)) :=
  ⟨rfl, detect_append rfl cutCode [0xff, 0xff]⟩

end ContractRisk.Detector.HiddenRedirection
