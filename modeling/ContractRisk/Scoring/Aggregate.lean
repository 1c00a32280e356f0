/-
**The verdict on a table of results.**

The key of each result is a category, or a value that must be the word for one. `aggregate` checks
the table and weighs the findings. Score and confidence of a verdict lie in the unit interval, or it
is refused (`Assessment.checked`).
-/

import ContractRisk.Scoring.Explanation
import ContractRisk.Shape

namespace ContractRisk.Scoring

variable {α : Type}

/-- What a result stands under. -/
inductive Key where
  | known (category : Category)
  | given (value : Value)

/-- A key as a value. A category is as good as its word. -/
def Key.word : Key → Value
  | .known category => .text category.name
  | .given value => value

/-- A verdict whose score and confidence are in range. -/
def Assessment.checked [LE α] [DecidableLE α] [OfScientific α] (verdict : Assessment α) :
    Except Failure (Assessment α) := do
  discard ((Shape.located "risk_score" (Shape.unit verdict.score)).mapError .schema)
  discard ((Shape.located "confidence" (Shape.unit verdict.confidence)).mapError .schema)
  return verdict

section

variable [LE α] [DecidableLE α] [OfScientific α] {verdict verdict' : Assessment α}

/-- A verdict is given if its score and its confidence are in range. -/
theorem Assessment.checked_of_unit (score : Shape.unit verdict.score = .ok verdict.score)
    (confidence : Shape.unit verdict.confidence = .ok verdict.confidence) :
    verdict.checked = .ok verdict := by
  unfold Assessment.checked
  rw [score, confidence]
  rfl

/-- A verdict that is given is given as it is. -/
theorem Assessment.checked_eq (given : verdict.checked = .ok verdict') : verdict' = verdict := by
  unfold Assessment.checked at given
  cases score : Shape.unit verdict.score with
  | error reason =>
    rw [score] at given
    cases given
  | ok x =>
    cases confidence : Shape.unit verdict.confidence with
    | error reason =>
      rw [score, confidence] at given
      cases given
    | ok y =>
      rw [score, confidence] at given
      exact (Except.ok.inj given).symm

/-- Verdicts with the same score and the same confidence are both given, or refused for the same
reason. -/
theorem Assessment.checked_alike (score : verdict.score = verdict'.score)
    (confidence : verdict.confidence = verdict'.confidence) :
    (verdict.checked = .ok verdict ∧ verdict'.checked = .ok verdict') ∨
      ∃ failure, verdict.checked = .error failure ∧ verdict'.checked = .error failure := by
  unfold Assessment.checked
  rw [← score, ← confidence]
  cases Shape.unit verdict.score with
  | error reason => exact .inr ⟨_, rfl, rfl⟩
  | ok _ =>
    cases Shape.unit verdict.confidence with
    | error reason => exact .inr ⟨_, rfl, rfl⟩
    | ok _ => exact .inl ⟨rfl, rfl⟩

end

/-- The verdict on a table of results. -/
def aggregate [Add α] [Sub α] [Mul α] [Div α] [LT α] [LE α] [DecidableLT α] [DecidableLE α]
    [OfScientific α] [NatCast α] [Decimal.Rendered α] (config : Config α)
    (table : List (Key × Results.Given α)) (listed : Bool) : Except Failure (Assessment α) := do
  let results ← Results.check (table.map fun (key, given) => (key.word, given))
  (assess config results listed).checked

/-- A table that is accepted gets the verdict on its findings, if that is in range. -/
theorem aggregate_of_check [Add α] [Sub α] [Mul α] [Div α] [LT α] [LE α] [DecidableLT α]
    [DecidableLE α] [OfScientific α] [NatCast α] [Decimal.Rendered α] {config : Config α}
    {table : List (Key × Results.Given α)} {results : Results α}
    (accepted : Results.check (table.map fun (key, given) => (key.word, given)) = .ok results)
    (listed : Bool) :
    aggregate config table listed = (assess config results listed).checked := by
  unfold aggregate
  rw [accepted]
  rfl

end ContractRisk.Scoring
