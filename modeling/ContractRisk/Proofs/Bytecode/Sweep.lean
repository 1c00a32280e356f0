/-
**The sweep of a code that goes on.**

The instructions of a code stay what they are when more bytes are appended, with one exception: a
push at the very end may have fewer bytes than it asks for, and takes the missing ones from what
follows. Such an instruction is cut (`Instruction.IsCut`).

* `sweep_append`: the instructions of `a` are some that `a ++ b` begins with as well, and behind them
  cut ones at most;
* `Instruction.IsCut.pushedAddress?`: a cut instruction pushes no whole address.
-/

import ContractRisk.Bytecode.Instruction

namespace ContractRisk

namespace Instruction

/-- **A cut instruction** has fewer bytes than its opcode asks for. -/
def IsCut (instruction : Instruction) : Prop :=
  instruction.immediate.length < width instruction.opcode

/-- Only opcodes that push ask for bytes. -/
theorem IsCut.isPush {instruction : Instruction} (cut : instruction.IsCut) :
    instruction.isPush = true := by
  unfold IsCut width at cut
  unfold Instruction.isPush
  by_cases pushing : pushes instruction.opcode = true
  · exact pushing
  · rw [if_neg pushing] at cut
    exact absurd cut (Nat.not_lt_zero _)

theorem IsCut.pushedAddress? {instruction : Instruction} (cut : instruction.IsCut) :
    instruction.pushedAddress? = none := by
  unfold Instruction.pushedAddress? isAddressPush
  by_cases opcode : instruction.opcode = 0x73
  · unfold IsCut at cut
    rw [opcode, show width 0x73 = 20 by decide] at cut
    simp [opcode, Nat.ne_of_lt cut]
  · simp [opcode]

end Instruction

/-- **Appended bytes change nothing but a cut instruction at the end.** -/
theorem sweepFrom_append (position : Nat) (code more : List UInt8) :
    ∃ kept cut, sweepFrom position code = kept ++ cut ∧
      kept <+: sweepFrom position (code ++ more) ∧ ∀ instruction ∈ cut, instruction.IsCut := by
  induction position, code using sweepFrom.induct with
  | case1 position => exact ⟨[], [], by simp [sweepFrom], List.nil_prefix, by simp⟩
  | case2 position opcode rest width ih =>
    rw [List.cons_append, sweepFrom, sweepFrom]
    by_cases whole : width ≤ rest.length
    · -- The instruction has all its bytes, and the rest of the code goes on behind it.
      obtain ⟨kept, cut, split, begins, isCut⟩ := ih
      rw [List.take_append_of_le_length whole, List.drop_append_of_le_length whole, split]
      exact ⟨_ :: kept, cut, rfl, List.cons_prefix_cons.mpr ⟨rfl, begins⟩, isCut⟩
    · -- The instruction is the last one, and lacks bytes.
      have short : rest.length < width := Nat.lt_of_not_le whole
      rw [List.take_of_length_le (Nat.le_of_lt short), List.drop_of_length_le (Nat.le_of_lt short),
        sweepFrom]
      refine ⟨[], _, rfl, List.nil_prefix, fun instruction member => ?_⟩
      rw [List.mem_singleton] at member
      subst member
      exact short

/-- The same from the beginning of a code. -/
theorem sweep_append (code more : List UInt8) :
    ∃ kept cut, sweep code = kept ++ cut ∧ kept <+: sweep (code ++ more) ∧
      ∀ instruction ∈ cut, instruction.IsCut :=
  sweepFrom_append 0 code more

end ContractRisk
