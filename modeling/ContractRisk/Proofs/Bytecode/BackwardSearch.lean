/-
**The search back for a pushed address.**

The places that a search may look at form a window in front of an index (`PushesWithin`). A step back
over an instruction that pushes no address leaves its place out of the window, and no push with it
(`pushesWithin_step`), so that the answer for the smaller window is the answer for the larger one
(`Answers`). The search ends with its steps used up or at the beginning of the instructions, where the
window is empty, or at a push, which is the last one in the window.

* `Answers.unique`: a window has one answer;
* `searchBack_answers`: an index within the instructions is searched from without a failure, to the
  answer for its window;
* `precedingPush?_eq_nearestPush?`: it finds what `nearestPush?` finds in the instructions before it;
* `precedingPush?_exact`: what the search comes to, for every index and every look back.
-/

import ContractRisk.Bytecode.Instruction

namespace ContractRisk

variable {instructions : List Instruction} {index lookback : Int} {place steps : Nat}
  {candidate push : Instruction}

theorem Instruction.isAddressPush_iff :
    push.isAddressPush = true ↔ push.opcode = 0x73 ∧ push.immediate.length = 20 := by
  unfold isAddressPush
  rw [Bool.and_eq_true, decide_eq_true_eq, decide_eq_true_eq]

/-! ### Windows -/

/-- **A push of an address within a window**: all of it is there, and its place lies before an index,
`lookback` places at most. -/
structure PushesWithin (instructions : List Instruction) (index lookback : Int) (place : Nat)
    (push : Instruction) : Prop where
  there : instructions[place]? = some push
  opcode : push.opcode = 0x73
  whole : push.immediate.length = 20
  reach : index - lookback ≤ place
  before : place < index

/-- The last of what stands in a window. -/
structure IsLast (window : Nat → Instruction → Prop) (place : Nat) (push : Instruction) : Prop where
  inside : window place push
  greatest : ∀ later other, window later other → later ≤ place

/-- **The answer for a window**: the last push in it, or nothing if there is none. -/
def Answers (window : Nat → Instruction → Prop) : Option Instruction → Prop
  | some push => ∃ place, IsLast window place push
  | none => ∀ place push, ¬ window place push

/-- **A window has one answer.** -/
theorem Answers.unique {found other : Option Instruction}
    (answers : Answers (PushesWithin instructions index lookback) found)
    (answers' : Answers (PushesWithin instructions index lookback) other) : found = other := by
  cases found with
  | none =>
    cases other with
    | none => rfl
    | some push =>
      obtain ⟨place, last⟩ := answers'
      exact absurd last.inside (answers place push)
  | some push =>
    obtain ⟨place, last⟩ := answers
    cases other with
    | none => exact absurd last.inside (answers' place push)
    | some push' =>
      obtain ⟨place', last'⟩ := answers'
      have same : place = place' :=
        Nat.le_antisymm (last'.greatest _ _ last.inside) (last.greatest _ _ last'.inside)
      exact last.inside.there.symm.trans (same ▸ last'.inside.there)

/-- No place lies before the beginning, or within no places of an index. -/
theorem not_pushesWithin (empty : index ≤ 0 ∨ lookback ≤ 0) :
    ¬ PushesWithin instructions index lookback place push := by
  intro within
  have reach := within.reach
  have before := within.before
  omega

/-- A look back over fewer than no places is one over none. -/
theorem pushesWithin_toNat (instructions : List Instruction) (index lookback : Int) :
    PushesWithin instructions index lookback.toNat = PushesWithin instructions index lookback := by
  rcases Int.le_total 0 lookback with counts | less
  · rw [Int.toNat_of_nonneg counts]
  · funext place push
    exact propext (iff_of_false (not_pushesWithin (.inr (by omega))) (not_pushesWithin (.inr less)))

/-- **A step back over an instruction that pushes no address leaves no push out.** -/
theorem pushesWithin_step (there : instructions[place]? = some candidate)
    (passed : candidate.isAddressPush = false) (lookback : Int) :
    PushesWithin instructions (place + 1) (lookback + 1) = PushesWithin instructions place lookback := by
  funext other push
  refine propext ⟨fun within => ?_, fun within => ?_⟩
  · have elsewhere : other ≠ place := by
      rintro rfl
      cases there.symm.trans within.there
      rw [Instruction.isAddressPush_iff.mpr ⟨within.opcode, within.whole⟩] at passed
      cases passed
    have reach := within.reach
    have before := within.before
    exact ⟨within.there, within.opcode, within.whole, by omega, by omega⟩
  · have reach := within.reach
    have before := within.before
    exact ⟨within.there, within.opcode, within.whole, by omega, by omega⟩

/-- A push right before the index is the last one in the window. -/
theorem isLast_step (there : instructions[place]? = some push) (pushes : push.isAddressPush = true)
    (positive : 0 < lookback) :
    IsLast (PushesWithin instructions (place + 1) lookback) place push := by
  obtain ⟨opcode, whole⟩ := Instruction.isAddressPush_iff.mp pushes
  refine ⟨⟨there, opcode, whole, by omega, by omega⟩, fun later other within => ?_⟩
  have before := within.before
  omega

/-! ### The search -/

/-- The search ends at the beginning of the instructions. -/
theorem searchBack_beginning (beginning : index ≤ 0) : searchBack instructions index steps = .ok none := by
  cases steps with
  | zero => rfl
  | succ steps => rw [searchBack, if_pos (by omega)]

/-- A step back to an instruction ends the search if it is a push, and goes on before it if not. -/
theorem searchBack_step (there : instructions[place]? = some candidate) :
    searchBack instructions (place + 1) (steps + 1) =
      if candidate.isAddressPush then .ok (some candidate) else searchBack instructions place steps := by
  rw [searchBack, if_neg (by omega), Int.add_sub_cancel, Int.toNat_natCast, there]

/-- A step back to no instruction fails. -/
theorem searchBack_beyond (beyond : instructions.length < index) :
    searchBack instructions index (steps + 1) = .error (.misuse .indexOutOfRange) := by
  have nothing : instructions[(index - 1).toNat]? = none := List.getElem?_eq_none (by omega)
  rw [searchBack, if_neg (by omega), nothing]

/-- **The search comes to the answer for its window**, and does not fail, from an index within the
instructions. -/
theorem searchBack_answers (inside : index ≤ instructions.length) :
    ∃ found, searchBack instructions index steps = .ok found ∧
      Answers (PushesWithin instructions index steps) found := by
  -- by induction on the steps left: the window that they reach has the answer for the whole window
  induction steps generalizing index with
  | zero => exact ⟨none, rfl, fun _ _ => not_pushesWithin (.inr (Int.le_refl _))⟩
  | succ steps ih =>
    by_cases beginning : index ≤ 0
    · exact ⟨none, searchBack_beginning beginning, fun _ _ => not_pushesWithin (.inl beginning)⟩
    · obtain ⟨place, rfl⟩ : ∃ place : Nat, index = place + 1 := ⟨(index - 1).toNat, by omega⟩
      have there : instructions[place]? = some instructions[place] :=
        List.getElem?_eq_getElem (by omega)
      rw [searchBack_step there, Int.natCast_add, Int.natCast_one]
      cases pushes : instructions[place].isAddressPush with
      | true => exact ⟨_, rfl, place, isLast_step there pushes (by omega)⟩
      | false =>
        rw [pushesWithin_step there pushes]
        exact ih (by omega)

/-- **The search by places finds what the search through the instructions before them finds**, which has
these in reverse. -/
theorem searchBack_eq_nearestPush? (inside : place ≤ instructions.length) :
    searchBack instructions place steps =
      .ok (nearestPush? (instructions.take place).reverse steps) := by
  induction steps generalizing place with
  | zero => rfl
  | succ steps ih =>
    cases place with
    | zero => exact searchBack_beginning (Int.le_refl 0)
    | succ place =>
      have there : instructions[place]? = some instructions[place] := List.getElem?_eq_getElem inside
      rw [Int.natCast_add, Int.natCast_one, searchBack_step there, ih (Nat.le_of_lt inside),
        List.take_succ_eq_append_getElem inside, List.reverse_append]
      unfold nearestPush?
      rw [List.reverse_singleton, List.singleton_append, List.take_succ_cons, List.find?_cons]
      cases instructions[place].isAddressPush <;> rfl

/-! ### Every index, every look back -/

/-- A place within the instructions is searched from without a failure. -/
theorem precedingPush?_eq_nearestPush? (inside : place ≤ instructions.length) (window : Nat) :
    precedingPush? instructions place window =
      .ok (nearestPush? (instructions.take place).reverse window) :=
  searchBack_eq_nearestPush? inside

/-- A look back from an index beyond the end of the instructions. -/
def Overshoots (instructions : List Instruction) (index lookback : Int) : Prop :=
  1 ≤ lookback ∧ instructions.length < index

theorem precedingPush?_overshoots (overshoots : Overshoots instructions index lookback) :
    precedingPush? instructions index lookback = .error (.misuse .indexOutOfRange) := by
  obtain ⟨looks, beyond⟩ := overshoots
  obtain ⟨steps, positive⟩ : ∃ steps, lookback.toNat = steps + 1 := ⟨lookback.toNat - 1, by omega⟩
  rw [precedingPush?, positive]
  exact searchBack_beyond beyond

theorem precedingPush?_answers (stays : ¬ Overshoots instructions index lookback) :
    ∃ found, precedingPush? instructions index lookback = .ok found ∧
      Answers (PushesWithin instructions index lookback) found := by
  rw [← pushesWithin_toNat]
  by_cases inside : index ≤ instructions.length
  · exact searchBack_answers inside
  · have noSteps : lookback.toNat = 0 := by
      unfold Overshoots at stays
      omega
    rw [precedingPush?, noSteps]
    exact ⟨none, rfl, fun _ _ => not_pushesWithin (.inr (Int.le_refl _))⟩

/-- An answer is given if and only if it is that for the window. -/
theorem precedingPush?_eq_ok {found : Option Instruction} :
    precedingPush? instructions index lookback = .ok found ↔
      ¬ Overshoots instructions index lookback ∧
        Answers (PushesWithin instructions index lookback) found := by
  by_cases overshoots : Overshoots instructions index lookback
  · rw [precedingPush?_overshoots overshoots]
    exact iff_of_false nofun fun stays => stays.1 overshoots
  · obtain ⟨given, comes, answers⟩ := precedingPush?_answers overshoots
    rw [comes, Except.ok.injEq]
    constructor
    · rintro rfl
      exact ⟨overshoots, answers⟩
    · exact fun answers' => answers.unique answers'.2

/-- **The search back**, for all instructions, every index and every look back: it fails exactly if a
look back is taken from beyond the end, it finds the last whole push within the window, and it finds
nothing exactly if there is none. -/
theorem precedingPush?_exact (instructions : List Instruction) (index lookback : Int) :
    (∀ failure, precedingPush? instructions index lookback = .error failure ↔
      Overshoots instructions index lookback ∧ failure = .misuse .indexOutOfRange) ∧
    (∀ push, precedingPush? instructions index lookback = .ok (some push) ↔
      ¬ Overshoots instructions index lookback ∧
        ∃ place, IsLast (PushesWithin instructions index lookback) place push) ∧
    (precedingPush? instructions index lookback = .ok none ↔
      ¬ Overshoots instructions index lookback ∧
        ∀ place push, ¬ PushesWithin instructions index lookback place push) := by
  refine ⟨fun failure => ?_, fun push => precedingPush?_eq_ok, precedingPush?_eq_ok⟩
  by_cases overshoots : Overshoots instructions index lookback
  · rw [precedingPush?_overshoots overshoots, Except.error.injEq, eq_comm]
    exact (and_iff_right overshoots).symm
  · obtain ⟨found, comes, -⟩ := precedingPush?_answers overshoots
    rw [comes]
    exact iff_of_false nofun fun fails => overshoots fails.1

/-- Eight steps back do not reach a push nine instructions back. -/
example (push : Instruction) :
    precedingPush? (push :: List.replicate 8 ⟨21, 0x5b, []⟩) 9 8 = .ok none := rfl

end ContractRisk
