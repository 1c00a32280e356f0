/-
**Findings**: what a detector says about one category.

A detector either has nothing to look at (`Inspection.skipped`) or observes a confidence, lines of
evidence and a severity (`Inspection.observed`). `Inspection.conclude` makes a finding of it: the
confidence is brought into the unit interval, and the category is detected if the confidence exceeds
the detector's threshold and there is evidence.

Scores are computed over any kind of number with the four operations, an order and decimal literals.
-/

import ContractRisk.Category
import ContractRisk.Decimal.Shortest
import ContractRisk.Failure

namespace ContractRisk

variable {α : Type}

/-- What is said about one category. -/
structure Finding (α : Type) where
  detected : Bool
  confidence : α
  category : Category
  description : String
  evidence : List String
  severity : Severity
  metadata : List (String × Value)

/-- What a detector observes. -/
structure Observation (α : Type) where
  confidence : α
  evidence : List String
  severity : Severity
  metadata : List (String × Value)

/-- The outcome of looking for one category. -/
inductive Inspection (α : Type) where
  | skipped (reason : String) (metadata : List (String × Value))
  | observed (observation : Observation α)

section

variable [LT α] [DecidableLT α] [OfScientific α]

/-- A number, or one if it is not below one. -/
def capped (x : α) : α := if x < 1.0 then x else 1.0

/-- A number brought into the unit interval. -/
def clamped (x : α) : α := if 0.0 < capped x then capped x else 0.0

end

namespace Finding

/-- The share of categories' confidence from which they count as detected. -/
def threshold [OfScientific α] : Category → α
  | .hiddenRedirection => 0.2
  | _ => 0.3

/-- The sentence that sums up a finding. -/
def describe [Mul α] [OfScientific α] [Decimal.Rendered α] (category : Category) (detected : Bool)
    (evidence : List String) (confidence : α) : String :=
  if detected then
    let share := Decimal.fixed 1 (confidence * 100.0)
    s!"Detected {evidence.length} {category.label} pattern(s) with {share}% confidence"
  else s!"No {category.label} patterns detected"

/-- The finding of a detector that had nothing to look at. -/
def skipped [OfScientific α] (category : Category) (reason : String)
    (metadata : List (String × Value)) : Finding α where
  detected := false
  confidence := 0.0
  category := category
  description := s!"No {category.label} analysis performed: {reason}"
  evidence := []
  severity := .low
  metadata := metadata ++ [("reason", .text reason)]

/-- The finding of a detector that failed. -/
def failed [OfScientific α] (category : Category) (failure : Failure) : Finding α where
  detected := false
  confidence := 0.0
  category := category
  description := s!"Detection failed: {failure.message}"
  evidence := []
  severity := .low
  metadata := [("error", .text failure.message), ("error_type", .text failure.kind.name)]

variable [Mul α] [LT α] [DecidableLT α] [OfScientific α] [Decimal.Rendered α]

/-- The finding of a detector that observed something. -/
def ofObservation (category : Category) (seen : Observation α) : Finding α :=
  let confidence := clamped seen.confidence
  let detected := decide (threshold category < confidence) && !seen.evidence.isEmpty
  { detected, confidence, category
    description := describe category detected seen.evidence confidence
    evidence := seen.evidence
    severity := seen.severity
    metadata := seen.metadata }

end Finding

/-- The finding that an inspection comes to. -/
def Inspection.conclude [Mul α] [LT α] [DecidableLT α] [OfScientific α] [Decimal.Rendered α]
    (category : Category) : Inspection α → Finding α
  | .skipped reason metadata => .skipped category reason metadata
  | .observed seen => .ofObservation category seen

end ContractRisk
