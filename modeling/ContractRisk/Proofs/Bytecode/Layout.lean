/-
**The instructions of a code, and no others.**

Instructions are a layout of a code if their bytes, one after the other, are the code, each stands where
the one before it ends, and each has as many bytes as its opcode asks for: the `n`-th of the opcodes
from `0x60` to `0x7f` asks for `n`, any other for none. Only the last one may lack some, and then the
code ends with it (`Layout`).

* `Layout.head`, `Layout.tail`: a layout is a first instruction and a layout of what follows it;
* `Layout.eq_sweepFrom`: there is one layout at most;
* `eq_sweep_iff`: the sweep of a code is its layout, and nothing else is.
-/

import ContractRisk.Proofs.Bytecode.Sweep
import Mathlib.Data.List.Chain

namespace ContractRisk

namespace Instruction

/-- Whether an instruction pushes `n` bytes, by its opcode: `0x60` one, and so on to `0x7f` thirty-two. -/
def AsksFor (instruction : Instruction) (n : Nat) : Prop :=
  1 ≤ n ∧ n ≤ 32 ∧ instruction.opcode.toNat = 0x5f + n

theorem AsksFor.width_eq {instruction : Instruction} {n : Nat} (asks : instruction.AsksFor n) :
    width instruction.opcode = n := by
  obtain ⟨some, most, opcode⟩ := asks
  have pushing : pushes instruction.opcode = true := by
    simp [pushes, UInt8.le_iff_toNat_le]
    omega
  rw [width, if_pos pushing, opcode]
  omega

/-- An opcode outside of the pushes asks for no bytes. -/
theorem width_outside {opcode : UInt8} (outside : opcode < 0x60 ∨ 0x7f < opcode) :
    width opcode = 0 := by
  have other : pushes opcode = false := by
    simp [pushes, UInt8.lt_iff_toNat_lt, UInt8.le_iff_toNat_le] at outside ⊢
    omega
  simp [width, other]

/-- An instruction pushes as many bytes as its opcode asks for, or is no push. -/
theorem width_cases (instruction : Instruction) :
    instruction.AsksFor (width instruction.opcode) ∨
      (instruction.opcode < 0x60 ∨ 0x7f < instruction.opcode) := by
  by_cases pushing : pushes instruction.opcode = true
  · simp [pushes, UInt8.le_iff_toNat_le] at pushing
    simp [AsksFor, width, pushes, UInt8.le_iff_toNat_le, pushing]
    omega
  · simp [pushes, UInt8.lt_iff_toNat_lt, UInt8.le_iff_toNat_le] at pushing ⊢
    omega

theorem length_bytes (instruction : Instruction) :
    instruction.bytes.length = 1 + instruction.immediate.length :=
  Nat.add_comm _ _

end Instruction

/-- **A layout** of a code of which the first byte stands at `position`. -/
structure Layout (position : Nat) (code : List UInt8) (instructions : List Instruction) : Prop where
  /-- The bytes of the instructions are the code. -/
  bytes : instructions.flatMap Instruction.bytes = code
  /-- The first instruction stands where the code begins. -/
  first : ∀ instruction, instructions.head? = some instruction → instruction.position = position
  /-- Each further one stands where the one before it ends. -/
  next : instructions.IsChain fun before after =>
    after.position = before.position + 1 + before.immediate.length
  /-- An instruction that is no push has an opcode only. -/
  bare : ∀ instruction ∈ instructions, instruction.opcode < 0x60 ∨ 0x7f < instruction.opcode →
    instruction.immediate = []
  /-- A push has all its bytes, unless it is the last instruction and the code ends with it. -/
  push : ∀ instruction ∈ instructions, ∀ n, instruction.AsksFor n →
    instruction.immediate.length = n ∨ instruction.immediate.length < n ∧
      instructions.getLast? = some instruction ∧
      instruction.position + 1 + instruction.immediate.length = position + code.length

namespace Layout

variable {position : Nat} {code : List UInt8} {instruction : Instruction}
  {instructions rest : List Instruction}

theorem nil (position : Nat) : Layout position [] [] where
  bytes := rfl
  first := by simp
  next := .nil
  bare := by simp
  push := by simp

/-! ### Taking a layout apart -/

/-- What follows the first instruction is laid out behind it. -/
theorem tail (layout : Layout position code (instruction :: rest)) :
    code = instruction.bytes ++ rest.flatMap Instruction.bytes ∧
      Layout (position + 1 + instruction.immediate.length) (rest.flatMap Instruction.bytes) rest := by
  have split : code = instruction.bytes ++ rest.flatMap Instruction.bytes := by
    rw [← layout.bytes, List.flatMap_cons]
  have start : instruction.position = position := layout.first instruction rfl
  refine ⟨split, rfl, ?_, layout.next.of_cons, ?_, ?_⟩
  · intro other head
    have chain := layout.next.rel_head? head
    rw [chain, start]
  · exact fun other member => layout.bare other (List.mem_cons_of_mem _ member)
  · intro other member n asks
    refine (layout.push other (List.mem_cons_of_mem _ member) n asks).imp_right ?_
    rintro ⟨short, last, ends⟩
    refine ⟨short, ?_, ?_⟩
    · rwa [List.getLast?_cons_of_ne_nil (List.ne_nil_of_mem member)] at last
    · rw [ends, split, List.length_append, instruction.length_bytes]
      omega

/-- The first instruction stands at the beginning and has the bytes that it asks for, or is alone. -/
theorem head (layout : Layout position code (instruction :: rest)) :
    instruction.position = position ∧
      (instruction.immediate.length = Instruction.width instruction.opcode ∨
        instruction.IsCut ∧ rest = []) := by
  have start : instruction.position = position := layout.first instruction rfl
  refine ⟨start, ?_⟩
  rcases instruction.width_cases with asks | outside
  · refine (layout.push instruction List.mem_cons_self _ asks).imp_right fun ⟨short, _, ends⟩ => ?_
    refine ⟨short, ?_⟩
    -- the code ends with this instruction, and every further one would have a byte of its own
    rw [layout.tail.1, List.length_append, instruction.length_bytes, start] at ends
    cases rest with
    | nil => rfl
    | cons other rest =>
      rw [List.flatMap_cons, List.length_append, other.length_bytes] at ends
      omega
  · rw [layout.bare instruction List.mem_cons_self outside, Instruction.width_outside outside]
    exact .inl rfl

/-- **There is one layout at most**, which the sweep finds. -/
theorem eq_sweepFrom (layout : Layout position code instructions) :
    instructions = sweepFrom position code := by
  induction instructions generalizing position code with
  | nil =>
    rw [← layout.bytes]
    simp [sweepFrom]
  | cons instruction rest ih =>
    obtain ⟨split, behind⟩ := layout.tail
    obtain ⟨start, extent⟩ := layout.head
    have sweep := ih behind
    subst start
    rw [split, Instruction.bytes, List.cons_append, sweepFrom]
    rcases extent with whole | ⟨cut, rfl⟩
    · rw [← whole, List.take_left, List.drop_left, ← sweep]
    · have short : instruction.immediate.length ≤ Instruction.width instruction.opcode :=
        Nat.le_of_lt cut
      simp [List.take_of_length_le short, List.drop_of_length_le short, sweepFrom]

/-! ### Putting a layout together -/

/-- An instruction with all its bytes goes in front of a layout. -/
theorem cons (instruction : Instruction)
    (whole : instruction.immediate.length = Instruction.width instruction.opcode)
    (layout : Layout (instruction.position + 1 + instruction.immediate.length) code rest) :
    Layout instruction.position (instruction.bytes ++ code) (instruction :: rest) where
  bytes := by rw [List.flatMap_cons, layout.bytes]
  first := by simp
  next := List.isChain_cons.mpr ⟨fun other head => layout.first other head, layout.next⟩
  bare := by
    intro other member outside
    rcases List.mem_cons.mp member with rfl | inside
    · exact List.length_eq_zero_iff.mp (whole.trans (Instruction.width_outside outside))
    · exact layout.bare other inside outside
  push := by
    intro other member n asks
    rcases List.mem_cons.mp member with rfl | inside
    · exact .inl (whole.trans asks.width_eq)
    · refine (layout.push other inside n asks).imp_right fun ⟨short, last, ends⟩ => ⟨short, ?_, ?_⟩
      · rwa [List.getLast?_cons_of_ne_nil (List.ne_nil_of_mem inside)]
      · rw [ends, List.length_append, instruction.length_bytes]
        omega

/-- A cut instruction is the layout of its own bytes. -/
theorem cut (instruction : Instruction) (isCut : instruction.IsCut) :
    Layout instruction.position instruction.bytes [instruction] where
  bytes := by simp
  first := by simp
  next := .singleton _
  bare := by
    intro other member outside
    cases List.mem_singleton.mp member
    rw [Instruction.IsCut, Instruction.width_outside outside] at isCut
    exact absurd isCut (Nat.not_lt_zero _)
  push := by
    intro other member n asks
    cases List.mem_singleton.mp member
    refine .inr ⟨asks.width_eq ▸ isCut, rfl, ?_⟩
    rw [instruction.length_bytes]
    omega

/-- **The sweep is a layout**: instruction by instruction, the last of which may be cut. -/
theorem of_sweepFrom (position : Nat) (code : List UInt8) :
    Layout position code (sweepFrom position code) := by
  induction position, code using sweepFrom.induct with
  | case1 position =>
    rw [sweepFrom]
    exact nil position
  | case2 position opcode rest width ih =>
    rw [sweepFrom]
    change Layout position (opcode :: rest)
      (⟨position, opcode, rest.take width⟩ :: sweepFrom (position + 1 + width) (rest.drop width))
    by_cases whole : width ≤ rest.length
    · have length : (rest.take width).length = width := List.length_take_of_le whole
      have behind : Layout (position + 1 + (rest.take width).length) (rest.drop width)
          (sweepFrom (position + 1 + width) (rest.drop width)) := by
        rw [length]
        exact ih
      have split : opcode :: rest =
          (⟨position, opcode, rest.take width⟩ : Instruction).bytes ++ rest.drop width := by
        simp [Instruction.bytes]
      rw [split]
      exact cons ⟨position, opcode, rest.take width⟩ length behind
    · have short : rest.length < width := Nat.lt_of_not_le whole
      rw [List.take_of_length_le (Nat.le_of_lt short), List.drop_of_length_le (Nat.le_of_lt short),
        sweepFrom]
      exact cut ⟨position, opcode, rest⟩ short

end Layout

/-- **The sweep of a code is its layout, and nothing else is.** -/
theorem eq_sweep_iff (code : List UInt8) (instructions : List Instruction) :
    instructions = sweep code ↔ Layout 0 code instructions := by
  constructor
  · rintro rfl
    exact Layout.of_sweepFrom 0 code
  · exact fun layout => layout.eq_sweepFrom

/-- A push of two bytes, an addition, and a push of three bytes of which the code has one. -/
example : sweep [0x61, 0x01, 0x02, 0x01, 0x62, 0xff] =
    [⟨0, 0x61, [0x01, 0x02]⟩, ⟨3, 0x01, []⟩, ⟨4, 0x62, [0xff]⟩] := by cbv

end ContractRisk
