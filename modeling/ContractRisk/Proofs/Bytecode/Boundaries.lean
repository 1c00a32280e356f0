/-
**The boundaries of a code.**

A boundary is an offset that is reached from the beginning of a code by stepping over an opcode and the
bytes that it pushes, any number of times (`Boundary`; `Leads` counts the steps). This speaks of the
bytes alone. The sweep passes one instruction a step:

* `Leads.sweep`, `leads_of_sweep`: steps over the bytes are instructions passed, and the other way round;
* `mem_sweep`: the instructions of a code are what stands at the boundaries within it;
* `sweep_sorted`: they are swept in the order of the boundaries;
* `Boundary.leads`: of two boundaries the later one is reached from the earlier one, so that no boundary
  lies among pushed bytes (`Boundary.not_data`).
-/

import ContractRisk.Bytecode.Instruction

namespace ContractRisk

/-- **Steps over a code**: `count` opcodes and the bytes that they push lie between two offsets. -/
inductive Leads (code : List UInt8) : Nat → Nat → Nat → Prop
  | stay (offset : Nat) : Leads code 0 offset offset
  | step {offset target count : Nat} {opcode : UInt8} (here : code[offset]? = some opcode)
      (rest : Leads code count (offset + 1 + Instruction.width opcode) target) :
      Leads code (count + 1) offset target

/-- **A boundary** of a code: an offset that steps from the beginning lead to. -/
def Boundary (code : List UInt8) (offset : Nat) : Prop := ∃ count, Leads code count 0 offset

/-- Whether an offset lies among the bytes that an opcode of the code pushes. -/
def IsData (code : List UInt8) (offset : Nat) : Prop :=
  ∃ start opcode, Boundary code start ∧ code[start]? = some opcode ∧
    start < offset ∧ offset ≤ start + Instruction.width opcode

/-- An instruction is what the code has at its position: the opcode, and behind it as many bytes as the
opcode pushes or as there are. -/
structure Instruction.StandsIn (instruction : Instruction) (code : List UInt8) : Prop where
  opcode : code[instruction.position]? = some instruction.opcode
  immediate : instruction.immediate =
    (code.drop (instruction.position + 1)).take (Instruction.width instruction.opcode)

variable {code : List UInt8} {offset target start count : Nat} {opcode : UInt8}
  {instruction : Instruction} {passed rest : List Instruction}

/-! ### Steps -/

namespace Leads

theorem trans {more : Nat} (first : Leads code count offset target)
    (second : Leads code more target start) : Leads code (count + more) offset start := by
  induction first with
  | stay offset =>
    rw [Nat.zero_add]
    exact second
  | step here _ ih =>
    rw [Nat.add_right_comm]
    exact .step here (ih second)

theorem le (leads : Leads code count offset target) : offset + count ≤ target := by
  induction leads with
  | stay offset => exact Nat.le_refl _
  | step _ _ ih => omega

/-- Steps are taken in one way only. -/
theorem unique {other : Nat} (leads : Leads code count offset target)
    (leads' : Leads code count offset other) : target = other := by
  induction leads with
  | stay offset =>
    cases leads'
    rfl
  | step here _ ih =>
    cases leads' with
    | step here' rest' =>
      cases here.symm.trans here'
      exact ih rest'

/-- Some of the steps lead to an offset on the way. -/
theorem split {more : Nat} (leads : Leads code (count + more) offset target) :
    ∃ between, Leads code count offset between ∧ Leads code more between target := by
  induction count generalizing offset with
  | zero => exact ⟨offset, .stay offset, by rwa [Nat.zero_add] at leads⟩
  | succ count ih =>
    rw [Nat.add_right_comm] at leads
    cases leads with
    | step here rest =>
      obtain ⟨between, first, second⟩ := ih rest
      exact ⟨between, .step here first, second⟩

/-- Between two offsets there is one number of steps. -/
theorem count_unique {count' : Nat} (leads : Leads code count offset target)
    (leads' : Leads code count' offset target) : count = count' := by
  have notMore {count count' : Nat} (leads : Leads code count offset target)
      (leads' : Leads code count' offset target) : ¬ count < count' := by
    intro less
    obtain ⟨more, rfl⟩ := Nat.exists_eq_add_of_lt less
    rw [Nat.add_assoc] at leads'
    obtain ⟨between, first, second⟩ := leads'.split
    have := first.unique leads
    have := second.le
    omega
  exact Nat.le_antisymm (Nat.not_lt.mp (notMore leads' leads)) (Nat.not_lt.mp (notMore leads leads'))

end Leads

namespace Boundary

theorem beginning (code : List UInt8) : Boundary code 0 := ⟨0, .stay 0⟩

theorem after (boundary : Boundary code start) (leads : Leads code count start target) :
    Boundary code target := by
  obtain ⟨_, toStart⟩ := boundary
  exact ⟨_, toStart.trans leads⟩

theorem next (boundary : Boundary code offset) (here : code[offset]? = some opcode) :
    Boundary code (offset + 1 + Instruction.width opcode) :=
  boundary.after (.step here (.stay _))

/-- **Of two boundaries the later one is reached from the earlier one.** -/
theorem leads (boundary : Boundary code start) (later : Boundary code target) (before : start < target) :
    ∃ count, Leads code (count + 1) start target := by
  obtain ⟨first, toStart⟩ := boundary
  obtain ⟨second, toTarget⟩ := later
  rcases Nat.lt_or_ge first second with fewer | more
  · obtain ⟨steps, rfl⟩ := Nat.exists_eq_add_of_lt fewer
    rw [Nat.add_assoc] at toTarget
    obtain ⟨between, toBetween, onward⟩ := toTarget.split
    rw [toStart.unique toBetween]
    exact ⟨steps, onward⟩
  · -- else the way to the start would lead over the target
    obtain ⟨steps, rfl⟩ := Nat.exists_eq_add_of_le more
    obtain ⟨between, toBetween, onward⟩ := toStart.split
    rw [← toTarget.unique toBetween] at onward
    have := onward.le
    omega

/-- **No boundary lies among pushed bytes.** -/
theorem not_data (boundary : Boundary code offset) : ¬ IsData code offset := by
  rintro ⟨start, opcode, begins, here, behind, within⟩
  obtain ⟨count, leads⟩ := begins.leads boundary behind
  cases leads with
  | step here' rest =>
    cases here.symm.trans here'
    have := rest.le
    omega

end Boundary

/-! ### The sweep from an offset -/

/-- At an offset within the code the sweep reads one instruction, and goes on behind it. -/
theorem sweepFrom_drop (here : code[offset]? = some opcode) :
    sweepFrom offset (code.drop offset) =
      ⟨offset, opcode, (code.drop (offset + 1)).take (Instruction.width opcode)⟩ ::
        sweepFrom (offset + 1 + Instruction.width opcode)
          (code.drop (offset + 1 + Instruction.width opcode)) := by
  obtain ⟨inside, read⟩ := List.getElem?_eq_some_iff.mp here
  rw [List.drop_eq_getElem_cons inside, read, sweepFrom, List.drop_drop]

theorem sweepFrom_beyond (beyond : code[offset]? = none) :
    sweepFrom offset (code.drop offset) = [] := by
  rw [List.drop_eq_nil_of_le (List.getElem?_eq_none_iff.mp beyond), sweepFrom]

/-- What stands at an offset is what a sweep that begins there reads first. -/
theorem Instruction.StandsIn.sweepFrom (stands : instruction.StandsIn code) :
    ∃ rest, sweepFrom instruction.position (code.drop instruction.position) = instruction :: rest := by
  rw [sweepFrom_drop stands.opcode, ← stands.immediate]
  exact ⟨_, rfl⟩

/-- **The steps from an offset pass that many instructions.** -/
theorem Leads.sweep (leads : Leads code count offset target) :
    ∃ passed, passed.length = count ∧
      sweepFrom offset (code.drop offset) = passed ++ sweepFrom target (code.drop target) := by
  induction leads with
  | stay offset => exact ⟨[], rfl, rfl⟩
  | step here _ ih =>
    obtain ⟨passed, length, split⟩ := ih
    rw [sweepFrom_drop here, split]
    exact ⟨_ :: passed, congrArg (· + 1) length, rfl⟩

/-- **An instruction stands where the steps over those before it lead to**, and the sweep can begin
there. -/
theorem leads_of_sweep (split : sweepFrom offset (code.drop offset) = passed ++ instruction :: rest) :
    Leads code passed.length offset instruction.position ∧ instruction.StandsIn code ∧
      sweepFrom instruction.position (code.drop instruction.position) = instruction :: rest := by
  induction passed generalizing offset with
  | nil =>
    cases read : code[offset]? with
    | none =>
      rw [sweepFrom_beyond read] at split
      cases split
    | some opcode =>
      have whole := split
      rw [sweepFrom_drop read] at split
      obtain ⟨rfl, -⟩ := List.cons.inj split
      exact ⟨.stay offset, ⟨read, rfl⟩, whole⟩
  | cons first passed ih =>
    cases read : code[offset]? with
    | none =>
      rw [sweepFrom_beyond read] at split
      cases split
    | some opcode =>
      rw [sweepFrom_drop read] at split
      obtain ⟨-, later⟩ := List.cons.inj split
      obtain ⟨leads, stands, begins⟩ := ih later
      exact ⟨.step read leads, stands, begins⟩

/-! ### The instructions of a code -/

/-- **The instructions of a code are what stands at its boundaries.** -/
theorem mem_sweep : instruction ∈ sweep code ↔
    Boundary code instruction.position ∧ instruction.StandsIn code := by
  constructor
  · intro member
    obtain ⟨passed, rest, split⟩ := List.append_of_mem member
    have fromStart : sweepFrom 0 (code.drop 0) = passed ++ instruction :: rest := split
    obtain ⟨leads, stands, -⟩ := leads_of_sweep fromStart
    exact ⟨⟨_, leads⟩, stands⟩
  · rintro ⟨⟨count, leads⟩, stands⟩
    obtain ⟨passed, -, split⟩ := leads.sweep
    obtain ⟨rest, begins⟩ := stands.sweepFrom
    have whole : sweep code = passed ++
        sweepFrom instruction.position (code.drop instruction.position) := split
    rw [whole, begins]
    exact List.mem_append_right _ List.mem_cons_self

/-- Instructions stand at the offset where a sweep begins, or behind it. -/
theorem sweepFrom_behind (offset : Nat) (code : List UInt8) :
    ∀ instruction ∈ sweepFrom offset code, offset ≤ instruction.position := by
  induction offset, code using sweepFrom.induct with
  | case1 offset => simp [sweepFrom]
  | case2 offset opcode rest width ih =>
    intro instruction member
    rw [sweepFrom] at member
    rcases List.mem_cons.mp member with rfl | later
    · exact Nat.le_refl offset
    · have := ih instruction later
      omega

/-- **Instructions are swept from front to back.** -/
theorem sweepFrom_sorted (offset : Nat) (code : List UInt8) :
    (sweepFrom offset code).Pairwise fun before after => before.position < after.position := by
  induction offset, code using sweepFrom.induct with
  | case1 offset =>
    rw [sweepFrom]
    exact .nil
  | case2 offset opcode rest width ih =>
    rw [sweepFrom]
    refine List.pairwise_cons.mpr ⟨fun instruction later => ?_, ih⟩
    have := sweepFrom_behind _ _ instruction later
    show offset < instruction.position
    omega

theorem sweep_sorted (code : List UInt8) :
    (sweep code).Pairwise fun before after => before.position < after.position :=
  sweepFrom_sorted 0 code

/-- **Two instructions in the order of the code**, with as many others between them as the steps from
one to the other pass. -/
theorem sweep_of_leads {first last : Instruction} (boundary : Boundary code first.position)
    (standsFirst : first.StandsIn code) (standsLast : last.StandsIn code)
    (leads : Leads code (count + 1) first.position last.position) :
    ∃ front between back, sweep code = front ++ first :: (between ++ last :: back) ∧
      between.length = count := by
  obtain ⟨_, toFirst⟩ := boundary
  obtain ⟨front, -, split⟩ := toFirst.sweep
  obtain ⟨passed, length, split'⟩ := leads.sweep
  obtain ⟨behind, fromFirst⟩ := standsFirst.sweepFrom
  obtain ⟨back, fromLast⟩ := standsLast.sweepFrom
  have whole : sweep code = front ++ sweepFrom first.position (code.drop first.position) := split
  rw [whole, split', fromLast]
  rw [split', fromLast] at fromFirst
  cases passed with
  | nil => cases length
  | cons head between =>
    obtain ⟨rfl, -⟩ := List.cons.inj fromFirst
    exact ⟨front, between, back, rfl, Nat.succ.inj length⟩

/-- **What is swept between two instructions is what stands between them.** -/
theorem mem_between {front between back : List Instruction} {first last : Instruction}
    (whole : sweep code = front ++ first :: (between ++ last :: back)) :
    instruction ∈ between ↔ Boundary code instruction.position ∧ instruction.StandsIn code ∧
      first.position < instruction.position ∧ instruction.position < last.position := by
  have sorted := sweep_sorted code
  rw [← and_assoc, ← mem_sweep, whole]
  rw [whole] at sorted
  simp only [List.pairwise_append, List.pairwise_cons, List.mem_append, List.mem_cons] at sorted ⊢
  grind

/-- An instruction that another one follows has all its bytes. -/
theorem Instruction.StandsIn.length_immediate (stands : instruction.StandsIn code)
    (leads : Leads code (count + 1) instruction.position target) (inside : target < code.length) :
    instruction.immediate.length = Instruction.width instruction.opcode := by
  cases leads with
  | step here rest =>
    cases here.symm.trans stands.opcode
    have := rest.le
    rw [stands.immediate, List.length_take, List.length_drop]
    omega

end ContractRisk
