/-
**The risk of a contract.**

Each detected category contributes weight times confidence times multiplier to the base score.
Several of them add a bonus, weak evidence takes off a share of the very contribution that it
weakens, and the final score is brought into the unit interval. A listed address has the final
score one. `breakdown` holds the parts of a score.
-/

import ContractRisk.Scoring.Config
import ContractRisk.Scoring.Results

namespace ContractRisk.Scoring

variable {α : Type}

/-- The score of one category. -/
structure PatternScore (α : Type) where
  weight : α
  confidence : α
  severity : Severity
  multiplier : α
  contribution : α
  detected : Bool

/-- The parts of a score. -/
structure Breakdown (α : Type) where
  base : α
  bonus : α
  penalty : α
  final : α
  scores : List (Category × PatternScore α)

/-- The level of a score by three thresholds. -/
def levelOf [LE α] [DecidableLE α] (medium high critical score : α) : RiskLevel :=
  if critical ≤ score then .critical
  else if high ≤ score then .high
  else if medium ≤ score then .medium
  else .low

/-- A threshold of a table. -/
def threshold (table : List (String × α)) (name : String) : Except Failure α :=
  match table.find? (·.1 = name) with
  | some (_, x) => .ok x
  | none => .error (.misuse (.missingKey name))

/-- The level of a score by a table of thresholds, of which only the needed ones must be there. -/
def levelIn [LE α] [DecidableLE α] (table : List (String × α)) (score : α) :
    Except Failure RiskLevel := do
  if (← threshold table "critical") ≤ score then return .critical
  else if (← threshold table "high") ≤ score then return .high
  else if (← threshold table "medium") ≤ score then return .medium
  else return .low

/-- The level of a score. -/
def Config.level [LE α] [DecidableLE α] (config : Config α) (score : α) : RiskLevel :=
  levelOf config.medium config.high config.critical score

/-- Pairs of categories that are worse together. -/
def dangerousPairs : List (Category × Category) := [
  (.hiddenRedirection, .deceptiveEvents),
  (.fakeBalance, .nonFunctionalTransfer),
  (.deceptiveEvents, .nonFunctionalTransfer)]

/-- The dangerous pairs among detected categories. -/
def combinations (detected : Results α) : List (Category × Category) :=
  dangerousPairs.filter fun pair =>
    detected.any (·.1 = pair.1) && detected.any (·.1 = pair.2)

/-- The confidence below which a finding is weak. -/
def weakConfidence [OfScientific α] : α := 0.4

/-- Whether a finding is weak. -/
def isWeak [LT α] [DecidableLT α] [OfScientific α] (finding : Finding α) : Bool :=
  decide (finding.confidence < weakConfidence)

section

variable [Add α] [Sub α] [Mul α] [Div α] [LT α] [LE α] [DecidableLT α] [DecidableLE α]
  [OfScientific α] [NatCast α]

/-- What a detected category contributes. -/
def contribution (config : Config α) (finding : Finding α) : α :=
  config.weight finding.category * finding.confidence * config.multiplier finding.severity

/-- The share of a contribution that is taken off for weak evidence. -/
def discount (finding : Finding α) : α :=
  let weak : α := if isWeak finding then 0.0 + 0.25 else 0.0
  if finding.evidence.length < 2 then weak + 0.15 else weak

/-- The smaller of two numbers, the first if they are equal. -/
def smaller (a b : α) : α := if b < a then b else a

/-- The sum of numbers from the left, starting at zero. -/
def total (numbers : List α) : α := numbers.foldl (· + ·) 0.0

/-- The score of a category. -/
def patternScore (config : Config α) (finding : Finding α) : PatternScore α where
  weight := config.weight finding.category
  confidence := finding.confidence
  severity := finding.severity
  multiplier := config.multiplier finding.severity
  contribution := if finding.detected then contribution config finding else 0.0
  detected := finding.detected

/-- The sum of the contributions. -/
def baseScore (config : Config α) (detected : Results α) : α :=
  total (detected.map fun (_, finding) => contribution config finding)

/-- The bonus for several detected categories. -/
def bonusScore (config : Config α) (detected : Results α) : α :=
  if config.bonus && 2 ≤ detected.length then
    let several : α := 0.1 * (detected.length - 1 : Nat)
    let paired : α := several + 0.15 * ((combinations detected).length : Nat)
    let strong := detected.countP fun (_, finding) => decide (0.8 ≤ finding.confidence)
    smaller (if 2 ≤ strong then paired + 0.05 else paired) 0.3
  else 0.0

/-- What is taken off for weak evidence. -/
def penaltyScore (config : Config α) (detected : Results α) : α :=
  if config.penalty then
    smaller (total (detected.map fun (_, finding) =>
      contribution config finding * discount finding)) 0.2
  else 0.0

/-- The final score. -/
def finalScore (config : Config α) (detected : Results α) (listed : Bool) : α :=
  if listed then 1.0
  else clamped (baseScore config detected + bonusScore config detected -
    penaltyScore config detected)

/-- The parts of the score of results. -/
def breakdown (config : Config α) (results : Results α) (listed : Bool) : Breakdown α :=
  let detected := results.detected
  { base := baseScore config detected
    bonus := bonusScore config detected
    penalty := penaltyScore config detected
    final := finalScore config detected listed
    scores := results.inOrder.map fun (category, finding) =>
      (category, patternScore config finding) }

/-- The mean confidence of detected categories; one for a listed address. -/
def meanConfidence (detected : Results α) (listed : Bool) : α :=
  if listed then 1.0
  else if detected.isEmpty then 0.0
  else total (detected.map (·.2.confidence)) / (detected.length : Nat)

end

end ContractRisk.Scoring
