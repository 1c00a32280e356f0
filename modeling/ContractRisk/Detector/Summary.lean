/-
**Several detectors over one contract.**

`summarize` runs the detectors of the selected categories, each once and in the order of its first
selection, and sums up what they found: the mean confidence, the gravest severity, raised by one if
several categories were detected, and a score, which must lie between 0 and 100.
-/

import ContractRisk.Scoring.Assessment

namespace ContractRisk

open Scoring

variable {α : Type}

/-- What several detectors found. -/
structure Summary (α : Type) where
  detected : Bool
  confidence : α
  severity : Severity
  riskScore : Int
  patterns : List Category
  results : Results α
  sentence : String
  inputType : String
  detectorsRun : List Category

namespace Summary

/-- The categories of a list, each at its first place only. -/
def once (categories : List Category) : List Category :=
  (categories.foldl (fun kept category =>
    if kept.contains category then kept else kept ++ [category]) [])

/-- The severity of detected categories together. -/
def severityOf (detected : Results α) : Severity :=
  let gravest := (detected.map (·.2.severity)).foldl Severity.graver .low
  if 1 < detected.length then gravest.raised else gravest

section

variable [Add α] [Mul α] [Div α] [LT α] [DecidableLT α] [OfScientific α] [NatCast α]

/-- The mean confidence of detected categories. -/
def confidenceOf (detected : Results α) : α :=
  if detected.isEmpty then 0.0
  else total (detected.map (·.2.confidence)) / (detected.length : Nat)

/-- The score of detected categories. -/
def riskScoreOf [Decimal.Rendered α] (detected : Results α) : Int :=
  if detected.isEmpty then 0
  else
    let scaled : α := confidenceOf detected * standardMultiplier (severityOf detected) /
      standardMultiplier .critical
    Decimal.nearest (capped (scaled + 0.1 * (detected.length - 1 : Nat)) * 100.0)

/-- What was found, in one sentence. -/
def sentenceOf [Decimal.Rendered α] (detected : Results α) (run : Nat) : String :=
  if detected.isEmpty then s!"No deceptive patterns detected across {run} detector(s)"
  else
    let names := ", ".intercalate (detected.map (·.1.name))
    let share := Decimal.fixed 1 (confidenceOf detected * 100.0)
    s!"Detected {detected.length} of {run} pattern type(s) ({names}); " ++
      s!"overall severity {(severityOf detected).name}, confidence {share}%"

end

/-- Whether a code is there and not empty. -/
def hasCode (code : Value) : Bool :=
  code.holds && (match code with
    | .text s => s ≠ "0x"
    | _ => true)

/-- A summary whose score is in range. -/
def checked (summary : Summary α) : Except Failure (Summary α) := do
  discard ((Shape.located "overall_risk_score" (Shape.percentage summary.riskScore)).mapError .schema)
  return summary

/-- What a contract is given by. -/
def inputTypeOf (abi : Abi.Input) (code : Value) : String :=
  match abi.holds, hasCode code with
  | true, true => "abi+bytecode"
  | true, false => "abi"
  | false, true => "bytecode"
  | false, false => "none"

end Summary

variable [Add α] [Mul α] [Div α] [LT α] [LE α] [DecidableLT α] [DecidableLE α] [OfScientific α]
  [NatCast α] [Decimal.Rendered α]

/-- What the detectors of the categories in `included` that are not in `excluded` find. -/
def summaryOf (abi : Abi.Input) (code : Value) (included excluded : List Category) : Summary α :=
  let selected := included.filter (!excluded.contains ·)
  let results : Results α := (Summary.once selected).map fun category =>
    (category, detectSafely category abi code)
  let found := results.filter (·.2.detected)
  { detected := !found.isEmpty
    confidence := Summary.confidenceOf found
    severity := Summary.severityOf found
    riskScore := Summary.riskScoreOf found
    patterns := found.map (·.1)
    results := results
    sentence := Summary.sentenceOf found results.length
    inputType := Summary.inputTypeOf abi code
    detectorsRun := selected }

/-- The summary of what they find, if its score is in range. -/
def summarize (abi : Abi.Input) (code : Value) (included excluded : List Category) :
    Except Failure (Summary α) :=
  (summaryOf abi code included excluded).checked

/-- The categories that values are the words for. -/
def categories (values : List Value) : Except Failure (List Category) :=
  values.mapM fun value =>
    match categoryOf? value with
    | some category => .ok category
    | none => do throw (.misuse (.notCategory (← value.quoted)))

/-- The same, with the categories still values; none given means all to include and none to
exclude. -/
def summarizeValues (abi : Abi.Input) (code included excluded : Value) :
    Except Failure (Summary α) := do
  let chosen ← match included with
    | .null => pure Category.all
    | value => value.items >>= categories
  let skipped ← match excluded with
    | .null => pure []
    | value => value.items >>= categories
  summarize abi code chosen skipped

/-! ### Input -/

/-- The length of an interface or a code; absent ones have none. -/
def givenLength : Value → Except Failure Nat
  | .null => .ok 0
  | value =>
    match value.length? with
    | some n => .ok n
    | none => .error (.misuse (.lengthless value.kind))

/-- The length of an interface. -/
def abiLength : Abi.Input → Except Failure Nat
  | .value value _ => givenLength value
  | .items items => .ok items.length

/-- Accepts an interface and a code of which at least one is not empty and which are well formed as
far as they are. -/
def checkInput (abi : Abi.Input) (code : Value) : Except Failure Unit := do
  let abiSize ← abiLength abi
  let codeSize ← givenLength code
  if abiSize = 0 && codeSize = 0 then throw (.refused .noInput)
  if 0 < abiSize then discard (Abi.read abi)
  if 0 < codeSize then
    discard ((Bytecode.read code).mapError fun fault => Failure.refused (.inputCode fault))

end ContractRisk
