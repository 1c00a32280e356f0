/-
**Fake balances**: balance functions that report something other than balances.

Three signs count. A read-only function about balances whose name speaks of time, blocks or chance is
`timeBased`; the same functions are counted a second time as non-deterministic. A function named
like one of the ERC-20 standard with other parameters, or with another result where the standard
has `uint256`, is `improper`. A malformed `Transfer` event is evidence only.
-/

import ContractRisk.Detector.Names
import ContractRisk.Finding

namespace ContractRisk.Detector.FakeBalance

open Abi

variable {α : Type}

/-- Names of balance functions. -/
def balanceWords : List String := [
  "balanceof", "balance", "getbalance", "userbalance", "accountbalance", "tokenbalance",
  "availablebalance", "totalbalance", "checkbalance", "mybalance", "walletbalance",
  "stakedbalance", "rewardbalance", "claimablebalance", "pendingbalance"]

/-- Words for time, blocks and chance. -/
def suspiciousWords : List String := [
  "timestamp", "block", "now", "time", "blockhash", "difficulty", "number", "coinbase", "gaslimit",
  "random", "seed"]

/-- The parameters of the functions of the ERC-20 standard. -/
def standardShapes : List (String × List String) := [
  ("totalsupply", []),
  ("balanceof", ["address"]),
  ("allowance", ["address", "address"]),
  ("transfer", ["address", "uint"]),
  ("approve", ["address", "uint"]),
  ("transferfrom", ["address", "address", "uint"])]

/-- The standard functions that return one `uint256`. -/
def amountFunctions : List String := ["balanceof", "totalsupply"]

/-- The parameters that the standard gives a function of that name. -/
def standardShape? (function : Entry) : Option (List String) :=
  (standardShapes.find? (·.1 = plainName function)).map (·.2)

/-- The suspicious words in the name of a function. -/
def suspicions (function : Entry) : List String := mentioned function.title suspiciousWords

/-- Whether a function is about balances. -/
def isBalance (function : Entry) : Bool := !(mentioned function.title balanceWords).isEmpty

/-- Whether a function about balances reports time or chance. -/
def isTimeBased (function : Entry) : Bool :=
  isBalance function && function.isReadOnly && !(suspicions function).isEmpty

/-- The result of a function that should return one `uint256` and does not. -/
def badReturn? (function : Entry) : Option String :=
  if amountFunctions.contains (plainName function) && function.outputTypes ≠ ["uint256"] then
    let types := commas function.outputTypes
    some (if types.isEmpty then "nothing" else types)
  else none

/-- Whether a function named like one of the standard differs from it. -/
def isImproper (function : Entry) : Bool :=
  match standardShape? function with
  | some shape => !shapeFits function.inputTypes shape || (badReturn? function).isSome
  | none => false

/-- Whether an event is a malformed `Transfer`. -/
def isBadTransfer (event : Entry) : Bool :=
  event.name = some "Transfer" && !shapeFits event.inputTypes transferShape

/-- The functions that report time or chance as balances. -/
def timeBased (entries : List Entry) : List Entry := (functions entries).filter isTimeBased

/-- The functions that differ from the standard. -/
def improper (entries : List Entry) : List Entry := (functions entries).filter isImproper

/-- The malformed `Transfer` events. -/
def badTransfers (entries : List Entry) : List Entry := (events entries).filter isBadTransfer

/-! ### Evidence -/

/-- What a time-based function is charged with. -/
def timeLine (function : Entry) : String :=
  s!"Function '{function.title}' appears to return timestamp-based values instead of " ++
    s!"actual balance (patterns: {listed (suspicions function)})"

/-- What an improper function is charged with. -/
def improperLines (function : Entry) : List String :=
  let shape := (standardShape? function).getD []
  let parameters :=
    if shapeFits function.inputTypes shape then []
    else [s!"ERC20 function '{function.title}' has incorrect parameters " ++
      s!"(expected ({commas shape}), found ({commas function.inputTypes}))"]
  let result := match badReturn? function with
    | some types => [s!"{function.title} function returns '{types}' instead of 'uint256'"]
    | none => []
  parameters ++ result

/-- What a non-deterministic function is charged with. -/
def chanceLine (function : Entry) : String :=
  s!"View function '{function.title}' may return non-deterministic values " ++
    s!"(patterns: {listed (suspicions function)})"

/-- A parameter with its name, or a question mark if it has none. -/
def parameterText (parameter : Parameter) : String :=
  (if parameter.name.isEmpty then "?" else parameter.name) ++ ":" ++ parameter.type

/-- What a malformed event is charged with. -/
def transferLine (event : Entry) : String :=
  s!"Transfer event has incorrect parameters: {listed (event.inputs.map parameterText)}"

/-- The lines of evidence in an interface. -/
def evidence (entries : List Entry) : List String :=
  (timeBased entries).map timeLine ++ (improper entries).flatMap improperLines ++
    (timeBased entries).map chanceLine ++ (badTransfers entries).map transferLine

/-! ### Observation -/

section

variable [Add α] [Mul α] [Div α] [LT α] [LE α] [DecidableLT α] [DecidableLE α] [OfScientific α]
  [NatCast α]

/-- Twice the weighted share of functions with a sign, one at most. -/
def confidence (entries : List Entry) : α :=
  let times : α := ((timeBased entries).length : Nat)
  let others : α := ((improper entries).length : Nat)
  let hits := 0.4 * times + 0.3 * others + 0.2 * times
  capped (2.0 * hits / (max 1 (functions entries).length : Nat))

/-- The severity at a confidence. -/
def severity (entries : List Entry) (confidence : α) : Severity :=
  if 0.6 ≤ confidence ∧ (improper entries).any (plainName · = "balanceof") then .critical
  else if 0.5 ≤ confidence ∧ 2 ≤ (timeBased entries).length then .high
  else if 0.4 ≤ confidence then .medium
  else .low

/-- What the interface shows. -/
def inspect (entries : List Entry) : Inspection α :=
  let times := timeBased entries
  let others := improper entries
  let share : α := confidence entries
  .observed {
    confidence := share
    evidence := evidence entries
    severity := severity entries share
    metadata := [
      ("total_functions", .count (functions entries).length),
      ("balance_functions", .count ((functions entries).filter isBalance).length),
      ("timestamp_based_count", .count times.length),
      ("improper_erc20_count", .count others.length),
      ("non_deterministic_count", .count times.length),
      ("transfer_event_issues", .count (badTransfers entries).length),
      ("flagged_functions",
        .list ((sortedTexts ((times ++ others).map (·.title))).map .text))] }

end

end ContractRisk.Detector.FakeBalance
