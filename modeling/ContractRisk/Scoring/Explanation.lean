/-
**A verdict in words.**

The explanation of a score names its level, what speaks for and against the contract, what to do, and
how the score comes about.
-/

import ContractRisk.Scoring.Assessment

namespace ContractRisk.Scoring

open Decimal

variable {α : Type}

/-- A verdict in words. -/
structure Explanation where
  summary : String
  riskFactors : List String
  mitigatingFactors : List String
  recommendations : List String
  detailedAnalysis : String

/-- What to do at a level of risk. -/
def levelAdvice : RiskLevel → List String
  | .critical => [
      "Do not interact with this contract or send funds to it",
      "Report the contract address to security researchers and block explorers"]
  | .high => [
      "Avoid interacting with this contract until an independent audit reviews the findings",
      "Verify the published source code against the deployed bytecode"]
  | .medium => [
      "Review the flagged functions manually before any interaction",
      "Verify contract behaviour on a testnet or fork before using real funds"]
  | .low => ["No major deception patterns found; standard due diligence still applies"]

/-- What to do about a category. -/
def categoryAdvice : Category → String
  | .fakeBalance =>
    "Verify token balances through an independent source such as a block explorer"
  | .hiddenRedirection => "Trace fund flows; hardcoded addresses may receive transferred value"
  | .nonFunctionalTransfer =>
    "Confirm that transfers actually change balances before relying on them"
  | .deceptiveEvents => "Do not trust emitted events alone; confirm state changes on-chain"

/-- The dangerous pair in words. -/
def pairLine (pair : Category × Category) : String :=
  s!"Dangerous combination: {pair.1.name} with {pair.2.name}"

/-- The categories without a detection, and the weak findings. -/
def mitigatingFactors [LT α] [DecidableLT α] [OfScientific α] (results : Results α) :
    List String :=
  let absent := (results.filter (!·.2.detected)).map fun (category, _) =>
    s!"No {category.label} patterns detected"
  let weak := (results.detected.filter fun (_, finding) => isWeak finding).map (·.1.name)
  if weak.isEmpty then absent
  else absent ++ ["Low confidence findings: " ++ ", ".intercalate weak]

section

variable [Mul α] [OfScientific α] [Rendered α]

/-- The sentence that sums up a verdict. -/
def summary (level : RiskLevel) (score : α) (detected : Nat) (listed : Bool) : String :=
  let shown := fixed 2 score
  if listed then
    s!"CRITICAL risk (score {shown}): address is listed as a known malicious contract" ++
      if detected = 0 then "" else s!" and {detected} deception pattern(s) were detected"
  else if detected = 0 then s!"LOW risk (score {shown}): no deception patterns detected"
  else s!"{level.heading} risk (score {shown}): {detected} deception pattern(s) detected"

/-- A finding in words. -/
def findingLine (category : Category) (finding : Finding α) : String :=
  let share := fixed 0 (finding.confidence * 100.0)
  s!"{category.title}: {finding.severity.name} severity, {share}% confidence, " ++
    s!"{finding.evidence.length} evidence item(s)"

/-- What speaks against the contract. -/
def riskFactors (detected : Results α) (listed : Bool) : List String :=
  (if listed then ["Address is listed in the known-malicious threat registry"] else []) ++
    (detected.map fun (category, finding) => findingLine category finding) ++
    (combinations detected).map pairLine

/-- The score of a category in words. -/
def scoreLine (category : Category) (score : PatternScore α) : String :=
  let status := if score.detected then "detected" else "not detected"
  let confidence := fixed 2 score.confidence
  let contribution := fixed 3 score.contribution
  s!"- {category.name}: {status}, confidence {confidence}, " ++
    s!"severity {score.severity.name}, contribution {contribution}"

/-- How a score comes about, line by line. -/
def scoreLines (level : RiskLevel) (parts : Breakdown α) (listed : Bool) : List String :=
  let final := fixed 3 parts.final
  let base := fixed 3 parts.base
  let bonus := fixed 3 parts.bonus
  let penalty := fixed 3 parts.penalty
  [s!"Final risk score: {final} ({level.name})",
    s!"Base score: {base}, bonus: {bonus}, penalty: {penalty}"] ++
  (if listed then ["Score forced to 1.000 by threat registry membership"] else []) ++
  parts.scores.map fun (category, score) => scoreLine category score

/-- The verdict on results in words. -/
def explain [LT α] [DecidableLT α] (results : Results α) (level : RiskLevel) (parts : Breakdown α)
    (listed : Bool) : Explanation :=
  let detected := results.detected
  { summary := summary level parts.final detected.length listed
    riskFactors := riskFactors detected listed
    mitigatingFactors := mitigatingFactors results
    recommendations := levelAdvice level ++ detected.map fun (category, _) =>
      categoryAdvice category
    detailedAnalysis := "\n".intercalate (scoreLines level parts listed) }

end

/-- The verdict on a contract. -/
structure Assessment (α : Type) where
  score : α
  level : RiskLevel
  confidence : α
  breakdown : Breakdown α
  explanation : Explanation
  analyzed : Nat
  detected : Nat
  listed : Bool

/-- The verdict on results. -/
def assess [Add α] [Sub α] [Mul α] [Div α] [LT α] [LE α] [DecidableLT α] [DecidableLE α]
    [OfScientific α] [NatCast α] [Rendered α] (config : Config α) (results : Results α)
    (listed : Bool) : Assessment α :=
  let parts := breakdown config results listed
  let level := config.level parts.final
  { score := parts.final
    level := level
    confidence := meanConfidence results.detected listed
    breakdown := parts
    explanation := explain results level parts listed
    analyzed := results.inOrder.length
    detected := results.detected.length
    listed := listed }

/-! ### Warnings -/

/-- A warning for the user. -/
structure Warning where
  level : WarningLevel
  message : String
  address : Option String
  category : Option Category
deriving DecidableEq

/-- The warning about a finding. -/
def warning (category : Category) (finding : Finding α) (address : Option String) : Warning where
  level := .ofSeverity finding.severity
  message := s!"{category.title} pattern detected ({finding.severity.name} severity): " ++
    finding.description
  address := address
  category := some category

/-- One warning for each detected category. -/
def warnings (results : Results α) (address : Option String) : List Warning :=
  results.detected.map fun (category, finding) => warning category finding address

end ContractRisk.Scoring
