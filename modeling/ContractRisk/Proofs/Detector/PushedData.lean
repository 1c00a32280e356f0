/-
**Pushed bytes are never read as code.**

Two codes of one length may differ in bytes that opcodes push, and nowhere else (`SameButData`). No
boundary lies among such bytes, so that the same steps lead through both codes, and instruction by
instruction position, opcode and number of pushed bytes are the same (`Instruction.Alike`).

* `SameButData.sweep`: the two sweeps are alike, a cut push at the end included;
* `isStorageLess_alike`: whether a code logs and writes storage is told by its opcodes;
* `signalsFrom_alike`: the scan for redirections signals the same calls, self-destructions and jumps, of
  which only the addresses depend on pushed bytes (`Signal.erased?`), and `jumps_signals` tells which
  instructions the counted jumps are;
* `sameButData_agree`: hence the findings about non-functional transfers are equal, and redirections
  are found at the same places.
-/

import ContractRisk.Detector
import ContractRisk.Proofs.Alike
import ContractRisk.Proofs.Bytecode.Boundaries
import ContractRisk.Proofs.Detector.RedirectionScan
import ContractRisk.Proofs.Fraction

namespace ContractRisk

/-! ### Alike instructions -/

/-- **Codes that differ in pushed bytes only**, those that the opcodes of the first one push. -/
structure SameButData (code code' : List UInt8) : Prop where
  length : code.length = code'.length
  data : ∀ offset, code[offset]? ≠ code'[offset]? → IsData code offset

/-- The place of an opcode, and the opcode. -/
def Instruction.site (instruction : Instruction) : Nat × UInt8 :=
  (instruction.position, instruction.opcode)

/-- **Instructions that differ in the values of their bytes only.** -/
structure Instruction.Alike (instruction instruction' : Instruction) : Prop where
  position : instruction.position = instruction'.position
  opcode : instruction.opcode = instruction'.opcode
  length : instruction.immediate.length = instruction'.immediate.length

namespace SameButData

variable {code code' : List UInt8} (same : SameButData code code')
include same

/-- The byte at a boundary is no pushed one. -/
theorem at_boundary {offset : Nat} (boundary : Boundary code offset) :
    code'[offset]? = code[offset]? := by
  by_contra differ
  exact boundary.not_data (same.data offset (Ne.symm differ))

/-- **From a boundary on the sweeps are alike.** -/
theorem sweepFrom {offset : Nat} (boundary : Boundary code offset) :
    List.Forall₂ Instruction.Alike (sweepFrom offset (code.drop offset))
      (sweepFrom offset (code'.drop offset)) := by
  -- by induction on what is left of the code
  induction left : code.length - offset using Nat.strongRecOn generalizing offset with
  | ind left ih =>
    have here := same.at_boundary boundary
    cases read : code[offset]? with
    | none =>
      rw [read] at here
      rw [sweepFrom_beyond read, sweepFrom_beyond here]
      exact .nil
    | some opcode =>
      rw [read] at here
      rw [sweepFrom_drop read, sweepFrom_drop here]
      have inside : offset < code.length := (List.getElem?_eq_some_iff.mp read).1
      refine .cons ⟨rfl, rfl, ?_⟩ (ih _ (by omega) (boundary.next read) rfl)
      rw [List.length_take, List.length_take, List.length_drop, List.length_drop, same.length]

/-- **The instructions of the two codes are alike.** -/
theorem sweep : List.Forall₂ Instruction.Alike (sweep code) (ContractRisk.sweep code') :=
  same.sweepFrom (Boundary.beginning code)

end SameButData

section Alike

variable {instructions instructions' : List Instruction}

/-- The places of the opcodes are the same. -/
theorem sites_alike (alike : List.Forall₂ Instruction.Alike instructions instructions') :
    instructions.map Instruction.site = instructions'.map Instruction.site :=
  map_alike alike _ fun same => congrArg₂ Prod.mk same.position same.opcode

theorem containsOpcode_alike (alike : List.Forall₂ Instruction.Alike instructions instructions')
    (opcodes : List UInt8) :
    containsOpcode instructions opcodes = containsOpcode instructions' opcodes := by
  have same := map_alike alike _ Instruction.Alike.opcode
  have read (list : List Instruction) : containsOpcode list opcodes =
      (list.map (·.opcode)).any fun opcode => opcodes.contains opcode := by
    rw [List.any_map]
    rfl
  rw [read, read, same]

theorem Instruction.Alike.isAddressPush {instruction instruction' : Instruction}
    (alike : instruction.Alike instruction') :
    instruction.isAddressPush = instruction'.isAddressPush := by
  unfold Instruction.isAddressPush
  rw [alike.opcode, alike.length]

theorem Instruction.Alike.isPush {instruction instruction' : Instruction}
    (alike : instruction.Alike instruction') : instruction.isPush = instruction'.isPush := by
  unfold Instruction.isPush
  rw [alike.opcode]

end Alike

namespace Detector

variable {code code' : List UInt8}

/-! ### Non-functional transfers -/

theorem NonFunctionalTransfer.isStorageLess_alike (same : SameButData code code') :
    isStorageLess code = isStorageLess code' := by
  unfold isStorageLess
  simp only [containsOpcode_alike same.sweep]

section

variable {α : Type} [Add α] [Mul α] [Div α] [LT α] [LE α] [DecidableLT α] [DecidableLE α]
  [OfScientific α] [NatCast α]

/-- Pushed bytes have no part in what the detector of non-functional transfers sees. -/
theorem NonFunctionalTransfer.inspect_alike (same : SameButData code code')
    (entries : List Abi.Entry) :
    (inspect entries code : Inspection α) = inspect entries code' := by
  have empty : code.isEmpty = code'.isEmpty := by
    rw [Bool.eq_iff_iff, List.isEmpty_iff_length_eq_zero, List.isEmpty_iff_length_eq_zero, same.length]
  unfold inspect
  rw [isStorageLess_alike same, empty]

end

/-! ### Redirections -/

namespace HiddenRedirection

variable {before before' instructions instructions' : List Instruction}
  {instruction instruction' : Instruction}

/-- A signal without the address that it reports, and none for a made-up address. -/
def Signal.erased? : Signal → Option Signal
  | .call position name _ => some (.call position name "")
  | .destruct position _ => some (.destruct position "")
  | .literal _ _ => none
  | .jump => some .jump

/-- Whether a call finds a target among the instructions before it, which `before` holds in reverse. -/
def isAimed (before : List Instruction) : Bool := (before.take lookback).any (·.isAddressPush)

/-- What an instruction signals behind others, without any address. -/
def erasedSignalAt? (before : List Instruction) (instruction : Instruction) : Option Signal :=
  match callName? instruction.opcode with
  | some name => if isAimed before then some (.call instruction.position name "") else none
  | none =>
    if instruction.opcode = destructOpcode then
      if isAimed before then some (.destruct instruction.position "") else none
    else if instruction.opcode = jumpOpcode && before.head?.any (·.isPush) then some .jump
    else none

/-- A call signals if a whole push of an address is in reach. -/
theorem bind_target? (before : List Instruction) {signal : String → Signal} {item : Signal}
    (erased : ∀ address, (signal address).erased? = some item) :
    ((target? before).map signal).bind Signal.erased? = if isAimed before then some item else none := by
  unfold target? nearestPush? isAimed
  cases found : (before.take lookback).find? (·.isAddressPush) with
  | none =>
    have no : (before.take lookback).any (·.isAddressPush) = false := by
      rw [List.any_eq_false]
      exact List.find?_eq_none.mp found
    rw [no]
    rfl
  | some push =>
    have whole : push.isAddressPush = true := List.find?_some found
    have yes : (before.take lookback).any (·.isAddressPush) = true :=
      List.any_eq_true.mpr ⟨push, List.mem_of_find?_eq_some found, whole⟩
    have pushed : push.pushedAddress? = some (Bytecode.write push.immediate) := if_pos whole
    rw [yes, Option.bind_some, pushed]
    exact erased _

/-- **Without the address, a signal depends on opcodes and on the number of pushed bytes only.** -/
theorem bind_signalAt? (before : List Instruction) (instruction : Instruction) :
    (signalAt? before instruction).bind Signal.erased? = erasedSignalAt? before instruction := by
  unfold signalAt?
  cases push : instruction.pushedAddress? with
  | some address =>
    -- an instruction that pushes is no call, no self-destruction and no jump
    have opcode : instruction.opcode = 0x73 := (Instruction.pushedAddress?_eq_some.mp push).1
    have silent : erasedSignalAt? before instruction = none := by
      unfold erasedSignalAt?
      rw [opcode]
      rfl
    rw [silent]
    dsimp only
    split <;> rfl
  | none =>
    unfold erasedSignalAt?
    cases callName? instruction.opcode with
    | some name => exact bind_target? before fun _ => rfl
    | none =>
      dsimp only
      split
      · exact bind_target? before fun _ => rfl
      · split <;> rfl

theorem filterMap_signalAt? (before : List Instruction) (instruction : Instruction) :
    (signalAt? before instruction).toList.filterMap Signal.erased? =
      (erasedSignalAt? before instruction).toList := by
  rw [← bind_signalAt?]
  cases signalAt? before instruction with
  | none => rfl
  | some signal => cases signal <;> rfl

theorem isAimed_alike (alike : List.Forall₂ Instruction.Alike before before') :
    isAimed before = isAimed before' := by
  have read (list : List Instruction) :
      isAimed list = ((list.map (·.isAddressPush)).take lookback).any id := by
    rw [← List.map_take, List.any_map]
    rfl
  rw [read, read, map_alike alike _ Instruction.Alike.isAddressPush]

theorem erasedSignalAt?_alike (behind : List.Forall₂ Instruction.Alike before before')
    (alike : instruction.Alike instruction') :
    erasedSignalAt? before instruction = erasedSignalAt? before' instruction' := by
  have pushes : before.head?.any (·.isPush) = before'.head?.any (·.isPush) := by
    cases behind with
    | nil => rfl
    | cons first _ => exact first.isPush
  unfold erasedSignalAt?
  rw [alike.opcode, alike.position, isAimed_alike behind, pushes]

/-- **Alike instructions signal the same, but for addresses.** -/
theorem signalsFrom_alike (behind : List.Forall₂ Instruction.Alike before before')
    (alike : List.Forall₂ Instruction.Alike instructions instructions') :
    (signalsFrom before instructions).filterMap Signal.erased? =
      (signalsFrom before' instructions').filterMap Signal.erased? := by
  induction alike generalizing before before' with
  | nil => rfl
  | cons here _ ih =>
    rw [signalsFrom, signalsFrom, List.filterMap_append, List.filterMap_append, filterMap_signalAt?,
      filterMap_signalAt?, erasedSignalAt?_alike behind here, ih (.cons here behind)]

/-! ### Places of the findings -/

/-- Where calls are found, each with the name of its opcode. -/
def callSites (code : List UInt8) : List (Nat × String) :=
  (calls (signals code)).map fun call => (call.2.position, call.1)

/-- Where self-destructions are found. -/
def destructSites (code : List UInt8) : List Nat := (destructs (signals code)).map (·.position)

/-- The conditional jumps of a code that stand behind a push, each with the push. -/
def jumpPairs (instructions : List Instruction) : List (Instruction × Instruction) :=
  (instructions.zip instructions.tail).filter fun pair =>
    pair.1.isPush && pair.2.opcode = jumpOpcode

/-- Positions and opcodes of the pushes and jumps in pairs. -/
def jumpSites (code : List UInt8) : List ((Nat × UInt8) × (Nat × UInt8)) :=
  (jumpPairs (sweep code)).map fun pair => (pair.1.site, pair.2.site)

/-- An instruction signals a jump if it makes a pair with the one before it. -/
theorem signalAt?_jump : signalAt? before instruction = some .jump ↔
    before.head?.any (·.isPush) = true ∧ instruction.opcode = jumpOpcode := by
  rw [signalAt?_eq_some]
  constructor
  · intro signals
    cases signals with
    | jump opcode behind => exact ⟨behind, opcode⟩
  · exact fun ⟨behind, opcode⟩ => .jump opcode behind

theorem jumps_signalAt? (before : List Instruction) (instruction : Instruction) :
    jumps (signalAt? before instruction).toList =
      if before.head?.any (·.isPush) && instruction.opcode = jumpOpcode then 1 else 0 := by
  by_cases jump : signalAt? before instruction = some .jump
  · rw [jump, if_pos (by simpa using signalAt?_jump.mp jump)]
    rfl
  · rw [if_neg (by simpa [signalAt?_jump] using jump)]
    refine List.countP_eq_zero.mpr fun signal member same => jump ?_
    rw [Option.mem_toList] at member
    exact of_decide_eq_true same ▸ member

theorem jumps_signalsFrom (before instructions : List Instruction) :
    jumps (signalsFrom before instructions) =
      (jumpPairs (before.head?.toList ++ instructions)).length := by
  induction instructions generalizing before with
  | nil => cases before <;> rfl
  | cons first rest ih =>
    have counted : jumps (signalsFrom before (first :: rest)) =
        jumps (signalAt? before first).toList + jumps (signalsFrom (first :: before) rest) :=
      List.countP_append
    rw [counted, ih, jumps_signalAt?]
    cases before with
    | nil => exact Nat.zero_add _
    | cons last before =>
      have pairs : jumpPairs ((last :: before).head?.toList ++ first :: rest) =
          if last.isPush && first.opcode = jumpOpcode then
            (last, first) :: jumpPairs (first :: rest)
          else jumpPairs (first :: rest) := List.filter_cons
      rw [pairs]
      change (if last.isPush && first.opcode = jumpOpcode then 1 else 0) +
        (jumpPairs (first :: rest)).length = _
      by_cases pair : (last.isPush && first.opcode = jumpOpcode) = true
      · rw [if_pos pair, if_pos pair, List.length_cons, Nat.add_comm]
      · rw [if_neg pair, if_neg pair, Nat.zero_add]

/-- **The scan counts the pairs of a push and a conditional jump.** -/
theorem jumps_signals (code : List UInt8) : jumps (signals code) = (jumpSites code).length := by
  unfold jumpSites
  rw [List.length_map]
  exact jumps_signalsFrom [] (sweep code)

/-- Which instructions make a pair is told by their opcodes. -/
theorem jumpSites_eq (code : List UInt8) :
    jumpSites code =
      (((sweep code).map Instruction.site).zip ((sweep code).map Instruction.site).tail).filter
        fun pair => Instruction.pushes pair.1.2 && pair.2.2 = jumpOpcode := by
  rw [← List.map_tail, List.zip_map, List.filter_map]
  rfl

section Same

variable (same : SameButData code code')
include same

/-- **Whatever is read off signals without their addresses is the same.** -/
theorem readings_alike {A : Type} {read : Signal → Option A}
    (blind : ∀ signal : Signal, signal.erased?.bind read = read signal) :
    (signals code).filterMap read = (signals code').filterMap read := by
  have erased (found : List Signal) :
      (found.filterMap Signal.erased?).filterMap read = found.filterMap read := by
    rw [List.filterMap_filterMap]
    exact List.filterMap_congr fun signal _ => blind signal
  unfold signals
  rw [← erased, signalsFrom_alike .nil same.sweep, erased]

theorem callSites_alike : callSites code = callSites code' := by
  unfold callSites calls
  rw [List.map_filterMap, List.map_filterMap]
  exact readings_alike same fun signal => by cases signal <;> rfl

theorem destructSites_alike : destructSites code = destructSites code' := by
  unfold destructSites destructs
  rw [List.map_filterMap, List.map_filterMap]
  exact readings_alike same fun signal => by cases signal <;> rfl

theorem jumpSites_alike : jumpSites code = jumpSites code' := by
  rw [jumpSites_eq, jumpSites_eq, sites_alike same.sweep]

end Same

end HiddenRedirection

/-! ### Two codes -/

/-- **What two codes have in common** if they differ in pushed bytes only: the places of their opcodes,
the findings about non-functional transfers for every interface, and the places of redirections. -/
structure SameFindings (α : Type) [Add α] [Mul α] [Div α] [LT α] [LE α] [DecidableLT α] [DecidableLE α]
    [OfScientific α] [NatCast α] [Decimal.Rendered α] (code code' : List UInt8) : Prop where
  opcodes : (sweep code).map Instruction.site = (sweep code').map Instruction.site
  transfers : ∀ abi : Abi.Input, (detect .nonFunctionalTransfer abi (.bytes code) :
    Except Failure (Finding α)) = detect .nonFunctionalTransfer abi (.bytes code')
  calls : HiddenRedirection.callSites code = HiddenRedirection.callSites code'
  destructs : HiddenRedirection.destructSites code = HiddenRedirection.destructSites code'
  jumps : HiddenRedirection.jumpSites code = HiddenRedirection.jumpSites code'
  /-- The jumps are those that the scan counts. -/
  counted : HiddenRedirection.jumps (HiddenRedirection.signals code) =
      (HiddenRedirection.jumpSites code).length ∧
    HiddenRedirection.jumps (HiddenRedirection.signals code') =
      (HiddenRedirection.jumpSites code').length

/-- **Pushed bytes are never read as code**: codes that differ in them only give the same findings at
the same places. -/
theorem sameButData_agree (α : Type) [Add α] [Mul α] [Div α] [LT α] [LE α] [DecidableLT α]
    [DecidableLE α] [OfScientific α] [NatCast α] [Decimal.Rendered α]
    (same : SameButData code code') : SameFindings α code code' where
  opcodes := sites_alike same.sweep
  transfers abi := by
    have read (code : List UInt8) :
        (detect .nonFunctionalTransfer abi (.bytes code) : Except Failure (Finding α)) =
          (Abi.entriesOf abi).map fun entries =>
            (NonFunctionalTransfer.inspect entries code).conclude .nonFunctionalTransfer := by
      unfold detect
      cases Abi.entriesOf abi <;> rfl
    have seen (entries : List Abi.Entry) :
        (NonFunctionalTransfer.inspect entries code : Inspection α) =
          NonFunctionalTransfer.inspect entries code' :=
      NonFunctionalTransfer.inspect_alike same entries
    simp only [read, seen]
  calls := HiddenRedirection.callSites_alike same
  destructs := HiddenRedirection.destructSites_alike same
  jumps := HiddenRedirection.jumpSites_alike same
  counted := ⟨HiddenRedirection.jumps_signals code, HiddenRedirection.jumps_signals code'⟩

/-- The pushed byte of a jump's push and those of a push that is cut off are told from a call, a log, a
self-destruction and a write of storage. -/
theorem sameButData_agree_cut :
    SameButData [0x60, 0xf1, 0x57, 0x62, 0xff] [0x60, 0xa0, 0x57, 0x62, 0x55] ∧
      SameFindings Rat [0x60, 0xf1, 0x57, 0x62, 0xff] [0x60, 0xa0, 0x57, 0x62, 0x55] := by
  have same : SameButData [0x60, 0xf1, 0x57, 0x62, 0xff] [0x60, 0xa0, 0x57, 0x62, 0x55] := by
    refine ⟨rfl, fun offset differ => ?_⟩
    match offset, differ with
    | 0, differ | 2, differ | 3, differ | _ + 5, differ => exact absurd rfl differ
    | 1, _ => exact ⟨0, 0x60, Boundary.beginning _, rfl, by decide, by decide⟩
    | 4, _ =>
      have push : ([0x60, 0xf1, 0x57, 0x62, 0xff] : List UInt8)[0]? = some 0x60 := rfl
      have jump : ([0x60, 0xf1, 0x57, 0x62, 0xff] : List UInt8)[2]? = some 0x57 := rfl
      exact ⟨3, 0x62, ((Boundary.beginning _).next push).next jump, rfl, by decide, by decide⟩
  exact ⟨same, sameButData_agree Rat same⟩

end Detector

end ContractRisk
