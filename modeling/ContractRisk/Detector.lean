/-
**The detectors**, one for each category of deception.

`detect` reads interface and code, runs the detector of a category and may fail on malformed input;
`detectSafely` makes a finding of such a failure, so that one detector never stops another.
`DetectorState` counts the runs of one detector.
-/

import ContractRisk.Abi.Reader
import ContractRisk.Detector.DeceptiveEvents
import ContractRisk.Detector.FakeBalance
import ContractRisk.Detector.HiddenRedirection
import ContractRisk.Detector.NonFunctionalTransfer

namespace ContractRisk

variable {α : Type} [Add α] [Mul α] [Div α] [LT α] [LE α] [DecidableLT α] [DecidableLE α]
  [OfScientific α] [NatCast α] [Decimal.Rendered α]

namespace Detector

/-- Whether the detector of a category looks at the code. -/
def readsCode : Category → Bool
  | .hiddenRedirection | .nonFunctionalTransfer => true
  | .fakeBalance | .deceptiveEvents => false

/-- What the detector of a category sees. -/
def inspect (category : Category) (entries : List Abi.Entry) (code : List UInt8) : Inspection α :=
  match category with
  | .fakeBalance => FakeBalance.inspect entries
  | .hiddenRedirection => HiddenRedirection.inspect entries code
  | .nonFunctionalTransfer => NonFunctionalTransfer.inspect entries code
  | .deceptiveEvents => DeceptiveEvents.inspect entries

/-- The bytes of a code for the detector of a category, which need not look at it. -/
def codeFor (category : Category) (code : Value) : Except Failure (List UInt8) :=
  if readsCode category then (Bytecode.read code).mapError .badCode else .ok []

end Detector

/-- The finding of the detector of a category. -/
def detect (category : Category) (abi : Abi.Input) (code : Value) : Except Failure (Finding α) := do
  let entries ← Abi.entriesOf abi
  let bytes ← Detector.codeFor category code
  return (Detector.inspect category entries bytes).conclude category

/-- The finding of a detector, a failure being one that detects nothing. -/
def detectSafely (category : Category) (abi : Abi.Input) (code : Value) : Finding α :=
  match detect category abi code with
  | .ok finding => finding
  | .error failure => .failed category failure

/-- The category that a value is the word for. -/
def categoryOf? : Value → Option Category
  | .text word => Category.ofName? word
  | _ => none

/-- The category of a detector that is asked for. -/
def detectorFor (category : Value) : Except Failure Category :=
  match categoryOf? category with
  | some c => .ok c
  | none => category.refused .category

/-- How often a detector was run, found something, and failed. -/
structure DetectorState where
  runs : Nat := 0
  positives : Nat := 0
  failures : Nat := 0
deriving DecidableEq

/-- The counts after one more run. -/
def DetectorState.record (state : DetectorState) (outcome : Except Failure (Finding α)) :
    DetectorState :=
  match outcome with
  | .error _ => { state with runs := state.runs + 1, failures := state.failures + 1 }
  | .ok finding =>
    { state with
      runs := state.runs + 1
      positives := state.positives + if finding.detected then 1 else 0 }

/-- What is said about a detector. -/
structure DetectorInfo where
  name : String
  description : String
  inputs : String

/-- What is said about the detector of a category. -/
def detectorInfo : Category → DetectorInfo
  | .fakeBalance => {
      name := "Fake Balance"
      description := "Balance functions returning time- or block-derived values, malformed " ++
        "ERC-20 shapes"
      inputs := "abi" }
  | .hiddenRedirection => {
      name := "Hidden Redirection"
      description := "Hardcoded call targets, self-destruct beneficiaries and recipient setters"
      inputs := "bytecode, abi" }
  | .nonFunctionalTransfer => {
      name := "Non-Functional Transfer"
      description := "Transfer functions that cannot move value or never emit transfer events"
      inputs := "abi, bytecode" }
  | .deceptiveEvents => {
      name := "Deceptive Events"
      description := "Events emitted without the state change they announce"
      inputs := "abi" }

end ContractRisk
