/-
**Non-functional transfers**: transfer functions that cannot move value.

A function whose name begins with a transfer word is a transfer, unless the name speaks of
privileges (`transferWord?`); what is computed from the words takes them as `word?`. Three signs
count: a transfer declared read-only, a state-changing transfer without a matching event
(`unrecorded`), and a transfer event without a state-changing transfer (`orphaned`). Code that logs and
never writes storage adds every state-changing transfer that is not yet among the unrecorded ones.
-/

import ContractRisk.Bytecode.Instruction
import ContractRisk.Detector.Names
import ContractRisk.Finding

namespace ContractRisk.Detector.NonFunctionalTransfer

open Abi

variable {α : Type}

/-- The words that transfers begin with, the longest first. -/
def transferWords : List String := [
  "safetransferfrom", "transferfrom", "safetransfer", "transfer", "sendfrom", "movefrom",
  "withdraw", "exchange", "deposit", "send", "move", "swap"]

/-- Words for transfers of privileges. -/
def privilegeWords : List String := ["ownership", "admin", "role"]

/-- The names of transfer events, in lower case. -/
def transferEvents : List String := [
  "transfer", "transferfrom", "sent", "received", "deposited", "withdrawn", "swapped", "exchanged"]

/-- The functions of the ERC-20 standard that change the state. -/
def standardFunctions : List String := [
  "transfer", "transferfrom", "approve", "increaseallowance", "decreaseallowance"]

/-- Words for placeholders. -/
def placeholderWords : List String := ["fake", "mock", "dummy", "test", "example"]

/-- The functions of the ERC-20 standard that return one `bool`. -/
def flagFunctions : List String := ["transfer", "transferfrom", "approve"]

/-- The opcodes that write a log. -/
def logOpcodes : List UInt8 := [0xa0, 0xa1, 0xa2, 0xa3, 0xa4]

/-- The opcode that writes storage. -/
def storeOpcode : UInt8 := 0x55

/-- The first word of a table that a lower-case name begins with, unless the name is about
privileges. -/
def firstWord? (table : List String) (plain : String) : Option String :=
  if privilegeWords.any (mentions plain ·) then none else table.find? (beginsWith plain ·)

/-- The transfer word that a name begins with. -/
def transferWord? (name : String) : Option String := firstWord? transferWords (Text.lower name)

/-- Whether an event could record a transfer of a word. -/
def records (event word : String) : Bool :=
  let plain := Text.lower event
  mentions plain "transfer" || mentions plain word || (beginsWith word "send" && plain = "sent")

/-- Whether an event could record a function. -/
def recordsCall (event function : Entry) (word? : String → Option String := transferWord?) : Bool :=
  (word? function.title).any (records event.title ·)

/-- The transfers of an interface. -/
def transfers (entries : List Entry) (word? : String → Option String := transferWord?) :
    List Entry :=
  (functions entries).filter fun function => (word? function.title).isSome

/-- The transfer events of an interface. -/
def transferLogs (entries : List Entry) : List Entry :=
  (events entries).filter fun event => transferEvents.contains (plainName event)

/-- The transfers declared read-only. -/
def viewTransfers (entries : List Entry) (word? : String → Option String := transferWord?) :
    List Entry :=
  (transfers entries word?).filter (·.isReadOnly)

/-- The transfers that may change the state. -/
def stateChanging (entries : List Entry) (word? : String → Option String := transferWord?) :
    List Entry :=
  (transfers entries word?).filter (!·.isReadOnly)

/-- The state-changing transfers without a matching event. -/
def unrecorded (entries : List Entry) (word? : String → Option String := transferWord?) :
    List Entry :=
  (stateChanging entries word?).filter fun function =>
    !(transferLogs entries).any (recordsCall · function word?)

/-- The transfer events without a state-changing transfer. -/
def orphaned (entries : List Entry) (word? : String → Option String := transferWord?) :
    List Entry :=
  (transferLogs entries).filter fun event =>
    !(stateChanging entries word?).any (recordsCall event · word?)

/-- Whether a code logs and never writes storage. -/
def isStorageLess (code : List UInt8) : Bool :=
  let instructions := sweep code
  containsOpcode instructions logOpcodes && !containsOpcode instructions [storeOpcode]

/-- Entries with one more at the end, unless it is among them. -/
def appendNew (entries : List Entry) (entry : Entry) : List Entry :=
  if entries.contains entry then entries else entries ++ [entry]

/-- The transfers that cannot work, given whether the code writes storage. -/
def nonFunctional (entries : List Entry) (storageLess : Bool)
    (word? : String → Option String := transferWord?) : List Entry :=
  if storageLess then (stateChanging entries word?).foldl appendNew (unrecorded entries word?)
  else unrecorded entries word?

/-! ### Evidence -/

/-- What a read-only transfer is charged with. -/
def viewLine (function : Entry) : String :=
  let declared := function.mutability.getD "None"
  s!"Transfer function '{function.title}' is declared {declared} and cannot change balances"

/-- What an unrecorded transfer is charged with. -/
def unrecordedLine (function : Entry) : String :=
  s!"Transfer function '{function.title}' has no corresponding transfer event"

/-- What an orphaned event is charged with. -/
def orphanedLine (event : Entry) : String :=
  s!"Event '{event.title}' has no state-changing function that could emit it"

/-- Marks of a transfer that are evidence only: a placeholder name, and a result other than `bool`
where the standard has that. -/
def namingLines (function : Entry) : List String :=
  let plain := plainName function
  let placeholders := placeholderWords.filter (mentions plain ·)
  let naming :=
    if placeholders.isEmpty then []
    else [s!"Transfer function '{function.title}' uses placeholder naming " ++
      s!"({listed placeholders})"]
  let result :=
    if flagFunctions.contains plain && !function.outputs.isEmpty &&
        function.outputTypes ≠ ["bool"] then
      [s!"ERC20 function '{function.title}' returns '{commas function.outputTypes}' " ++
        "instead of 'bool'"]
    else []
  naming ++ result

/-- The lines of evidence in an interface, given whether the code writes storage. -/
def evidence (entries : List Entry) (storageLess : Bool)
    (word? : String → Option String := transferWord?) : List String :=
  let code :=
    if storageLess && !(stateChanging entries word?).isEmpty then
      ["Bytecode emits events but never writes storage (no SSTORE)"]
    else []
  (viewTransfers entries word?).map viewLine ++
    (nonFunctional entries storageLess word?).map unrecordedLine ++
    (orphaned entries word?).map orphanedLine ++ code ++
    (transfers entries word?).flatMap namingLines

/-! ### Observation -/

section

variable [Add α] [Mul α] [Div α] [LT α] [LE α] [DecidableLT α] [DecidableLE α] [OfScientific α]
  [NatCast α]

/-- Twice the weighted share of functions with a sign, one at most. -/
def confidence (entries : List Entry) (storageLess : Bool)
    (word? : String → Option String := transferWord?) : α :=
  let hits : α :=
    0.4 * ((nonFunctional entries storageLess word?).length : Nat) +
      0.3 * ((orphaned entries word?).length : Nat) +
      0.5 * ((viewTransfers entries word?).length : Nat)
  capped (2.0 * hits / ((functions entries).length : Nat))

/-- The severity at a confidence and a count of transfers that cannot work. -/
def severity (entries : List Entry) (confidence : α) (broken : Nat)
    (word? : String → Option String := transferWord?) : Severity :=
  if 0.7 ≤ confidence ∧
      (viewTransfers entries word?).any (fun f => standardFunctions.contains (plainName f)) then .critical
  else if 0.6 ≤ confidence ∧ 1 < broken then .high
  else if 0.4 ≤ confidence then .medium
  else .low

/-- What interface and code show. -/
def inspect (entries : List Entry) (code : List UInt8)
    (word? : String → Option String := transferWord?) : Inspection α :=
  if (functions entries).isEmpty then .skipped "no_functions" [("total_functions", .count 0)]
  else
    let storageLess := isStorageLess code
    let broken := nonFunctional entries storageLess word?
    let share : α := confidence entries storageLess word?
    .observed {
      confidence := share
      evidence := evidence entries storageLess word?
      severity := severity entries share broken.length word?
      metadata := [
        ("total_functions", .count (functions entries).length),
        ("transfer_functions", .count (transfers entries word?).length),
        ("transfer_events", .count (transferLogs entries).length),
        ("view_transfer_count", .count (viewTransfers entries word?).length),
        ("non_functional_count", .count broken.length),
        ("orphaned_event_count", .count (orphaned entries word?).length),
        ("bytecode_checked", .bool !code.isEmpty),
        ("storage_less_bytecode", .bool storageLess)] }

end

end ContractRisk.Detector.NonFunctionalTransfer
