/-
**Code that logs and writes no storage.**

Such code moves nothing, and each state-changing transfer of its interface counts as broken. Those without
a matching event are counted already, as often as they are declared; the others are added to them, but
once each (`appendNew`). So a transfer that is declared twice counts twice if no event matches it, and
once if one does.

* `isStorageLess_iff`: such code has an instruction that logs, and none that writes storage;
* `foldl_appendNew_dedup`: what is added is what is new, once each;
* `detect_storageLess`: the count of broken transfers, for every interface and every code, and when it is
  the count of the state-changing ones.
-/

import ContractRisk.Proofs.Bytecode.Boundaries
import ContractRisk.Proofs.Detector.Reordering
import Mathlib.Data.List.Dedup

namespace ContractRisk

open Attempt Abi

/-- A code has an instruction of an opcode. -/
def Executes (code : List UInt8) (opcode : UInt8) : Prop :=
  ∃ offset, Boundary code offset ∧ code[offset]? = some opcode

theorem containsOpcode_iff {code opcodes : List UInt8} :
    containsOpcode (sweep code) opcodes = true ↔ ∃ opcode ∈ opcodes, Executes code opcode := by
  unfold containsOpcode
  rw [List.any_eq_true]
  constructor
  · rintro ⟨instruction, member, listed⟩
    obtain ⟨boundary, stands⟩ := mem_sweep.mp member
    exact ⟨_, List.contains_iff_mem.mp listed, _, boundary, stands.opcode⟩
  · rintro ⟨opcode, listed, offset, boundary, here⟩
    exact ⟨⟨offset, opcode, (code.drop (offset + 1)).take (Instruction.width opcode)⟩,
      mem_sweep.mpr ⟨boundary, here, rfl⟩, List.contains_iff_mem.mpr listed⟩

namespace Detector.NonFunctionalTransfer

/-- **Code that logs and writes no storage.** -/
def StorageLess (code : List UInt8) : Prop :=
  (∃ opcode ∈ logOpcodes, Executes code opcode) ∧ ¬ Executes code storeOpcode

theorem isStorageLess_iff {code : List UInt8} : isStorageLess code = true ↔ StorageLess code := by
  unfold isStorageLess StorageLess
  rw [Bool.and_eq_true, Bool.not_eq_true', ← Bool.not_eq_true, containsOpcode_iff, containsOpcode_iff]
  simp only [List.mem_singleton, exists_eq_left]

/-! ### The transfers that count as broken -/

/-- The state-changing transfers with a matching event. -/
def recorded (entries : List Entry) : List Entry :=
  (stateChanging entries).filter fun function => (transferLogs entries).any (recordsCall · function)

/-- **What is added to a list is what is not there yet**, once each. -/
theorem foldl_appendNew_dedup (kept added : List Entry) :
    (added.foldl appendNew kept).Perm (kept ++ (added.filter (· ∉ kept)).dedup) := by
  rw [List.perm_iff_count]
  intro entry
  rw [count_foldl_appendNew, List.count_append, List.count_dedup]
  by_cases there : entry ∈ kept
  · simp [there]
  · simp [there, List.count_eq_zero.mpr there]

variable (entries : List Entry)

/-- The transfers that are not counted yet are those with a matching event. -/
theorem filter_unrecorded :
    (stateChanging entries).filter (· ∉ unrecorded entries) = recorded entries := by
  refine List.filter_congr fun function member => ?_
  rw [Bool.eq_iff_iff]
  simp [unrecorded, member]

theorem nonFunctional_storageLess :
    (nonFunctional entries true).Perm (unrecorded entries ++ (recorded entries).dedup) := by
  rw [← filter_unrecorded]
  exact foldl_appendNew_dedup _ _

/-- Each state-changing transfer has a matching event, or none. -/
theorem length_stateChanging :
    (unrecorded entries).length + (recorded entries).length = (stateChanging entries).length := by
  have parts := List.length_eq_length_filter_add (l := stateChanging entries)
    fun function => (transferLogs entries).any (recordsCall · function)
  unfold unrecorded recorded
  omega

/-- Each transfer is declared read-only, or may change the state. -/
theorem length_transfers :
    (viewTransfers entries).length + (stateChanging entries).length = (transfers entries).length :=
  (List.length_eq_length_filter_add (l := transfers entries) (·.isReadOnly)).symm

/-- As many as distinct items are as many as items exactly if the items are distinct. -/
theorem length_dedup_iff {items : List Entry} : items.dedup.length = items.length ↔ items.Nodup := by
  constructor
  · intro same
    exact (List.dedup_sublist items).eq_of_length same ▸ List.nodup_dedup items
  · intro distinct
    rw [distinct.dedup]

end Detector.NonFunctionalTransfer

/-! ### What is reported -/

variable {α : Type} [Add α] [Mul α] [Div α] [LT α] [LE α] [DecidableLT α] [DecidableLE α]
  [OfScientific α] [NatCast α] [Decimal.Rendered α]

/-- What a finding reports of the transfers of an interface: their number, how many are read-only and
how many are broken. -/
structure Finding.CountsTransfers (finding : Finding α) (transfers views broken : Nat) : Prop where
  transfers : finding.metadata.lookup "transfer_functions" = some (.count transfers)
  views : finding.metadata.lookup "view_transfer_count" = some (.count views)
  broken : finding.metadata.lookup "non_functional_count" = some (.count broken)

open Detector.NonFunctionalTransfer

/-- The counts that are reported are those of the functions of the interface. -/
theorem detect_countsTransfers {abi : Abi.Input} {entries : List Entry} {code : Value}
    {bytes : List UInt8} (read : entriesOf abi = .ok entries) (some : functions entries ≠ [])
    (accepted : Bytecode.read code = .ok bytes) :
    ∃ finding : Finding α, detect .nonFunctionalTransfer abi code = .ok finding ∧
      finding.CountsTransfers (transfers entries).length (viewTransfers entries).length
        (nonFunctional entries (isStorageLess bytes)).length := by
  refine ⟨(inspect entries bytes).conclude .nonFunctionalTransfer, ?_, ?_⟩
  · refine bind_eq_ok.mpr ⟨entries, read, bind_eq_ok.mpr ⟨bytes, ?_, rfl⟩⟩
    show (Bytecode.read code).mapError Failure.badCode = _
    rw [accepted]
    rfl
  · have filled : ¬ (functions entries).isEmpty = true := mt List.isEmpty_iff.mp some
    unfold inspect
    rw [if_neg filled]
    exact ⟨rfl, rfl, rfl⟩

/-- **How many transfers are broken.** Without code that logs and writes no storage, they are as many as
without any code. With it, they are these, and of the transfers with a matching event each one once: all
state-changing transfers exactly if none with a matching event is declared twice. -/
theorem detect_storageLess {abi : Abi.Input} {entries : List Entry} {code : Value} {bytes : List UInt8}
    (read : entriesOf abi = .ok entries) (some : functions entries ≠ [])
    (accepted : Bytecode.read code = .ok bytes) :
    let all := (transfers entries).length
    let views := (viewTransfers entries).length
    let alone := (unrecorded entries).length
    ∃ finding plain : Finding α, ∃ broken,
      detect .nonFunctionalTransfer abi code = .ok finding ∧ finding.CountsTransfers all views broken ∧
      detect .nonFunctionalTransfer abi .null = .ok plain ∧ plain.CountsTransfers all views alone ∧
      alone + (recorded entries).length = all - views ∧
      (StorageLess bytes → broken = alone + (recorded entries).dedup.length ∧
        (broken = all - views ↔ (recorded entries).Nodup)) ∧
      (¬ StorageLess bytes → broken = alone) := by
  intro all views alone
  obtain ⟨finding, detects, counts⟩ := detect_countsTransfers (α := α) read some accepted
  have empty : Bytecode.read .null = .ok [] := rfl
  obtain ⟨plain, detects', counts'⟩ := detect_countsTransfers (α := α) read some empty
  have nothing : isStorageLess [] = false := by
    simp [isStorageLess, sweep, sweepFrom, containsOpcode]
  rw [nothing] at counts'
  have total : alone + (recorded entries).length = all - views := by
    have parts := length_stateChanging entries
    have sum := length_transfers entries
    omega
  refine ⟨finding, plain, _, detects, counts, detects', counts', total, ?_, ?_⟩
  · intro bare
    rw [isStorageLess_iff.mpr bare]
    have broken : (nonFunctional entries true).length = alone + (recorded entries).dedup.length := by
      rw [(nonFunctional_storageLess entries).length_eq, List.length_append]
    refine ⟨broken, ?_⟩
    rw [broken, ← total, Nat.add_left_cancel_iff, length_dedup_iff]
  · intro stores
    rw [Bool.eq_false_iff.mpr (mt isStorageLess_iff.mp stores)]
    rfl

/-- A transfer that is declared twice, beside its event and code that only logs, counts once. -/
theorem detect_storageLess_twice :
    let transfer : Entry := ⟨.function, some "transfer", [⟨"to", "address", none⟩,
      ⟨"amount", "uint256", none⟩], [], some "nonpayable"⟩
    let event : Entry := ⟨.event, some "Transfer", [], [], none⟩
    StorageLess [0xa0] ∧ ∃ finding : Finding Float,
      detect .nonFunctionalTransfer (.ofEntries [transfer, transfer, event]) (.text "0xa0") = .ok finding ∧
        finding.CountsTransfers 2 0 1 := by
  intro transfer event
  have bare : StorageLess [0xa0] := isStorageLess_iff.mp (by
    simp [isStorageLess, sweep, sweepFrom, containsOpcode, Instruction.width, Instruction.pushes,
      logOpcodes, storeOpcode])
  obtain ⟨finding, plain, broken, detects, counts, -, -, -, less, -⟩ :=
    detect_storageLess (α := Float) (entriesOf_ofEntries [transfer, transfer, event])
      (show functions [transfer, transfer, event] ≠ [] by decide)
      (show Bytecode.read (.text "0xa0") = .ok [0xa0] from rfl)
  have once : broken = 1 := (less bare).1.trans (by decide)
  have all : (transfers [transfer, transfer, event]).length = 2 := by decide
  have views : (viewTransfers [transfer, transfer, event]).length = 0 := by decide
  rw [once, all, views] at counts
  exact ⟨bare, finding, detects, counts⟩

end ContractRisk
