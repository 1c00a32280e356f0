/-
**Results by category.**

The findings of an analysis form a table with one finding for each category, in the order in which
they were made. `Results.check` accepts a table given from outside if it is not empty, its keys are
words for categories, and each finding stands under its own category.
-/

import ContractRisk.Detector

namespace ContractRisk.Scoring

variable {α : Type}

/-- Findings by category, in order. -/
abbrev Results (α : Type) := List (Category × Finding α)

namespace Results

/-- The finding of a category. -/
def get? (results : Results α) (category : Category) : Option (Finding α) :=
  (results.find? (·.1 = category)).map (·.2)

/-- The findings of the categories in the order of reports. -/
def inOrder (results : Results α) : Results α :=
  Category.all.filterMap fun category => (results.get? category).map (category, ·)

/-- The findings of detected categories in the order of reports. -/
def detected (results : Results α) : Results α := results.inOrder.filter (·.2.detected)

/-- What is given for a category: a finding or something else. -/
inductive Given (α : Type) where
  | finding (finding : Finding α)
  | other

/-- A finding, which must stand under its own category. -/
def checkEntry (key : Value) (given : Given α) : Except Failure (Category × Finding α) :=
  match categoryOf? key with
  | none => key.refused .resultCategory
  | some category =>
    match given with
    | .other => .error (.refused (.notResult category))
    | .finding finding =>
      if finding.category = category then .ok (category, finding)
      else .error (.refused (.misfiled category finding.category))

/-- The table that is given. -/
def check (table : List (Value × Given α)) : Except Failure (Results α) :=
  if table.isEmpty then .error (.refused .noResults)
  else table.mapM fun (key, given) => checkEntry key given

/-- A table with a finding put under a key: at the key's place if it is there, else at the end. -/
def put (table : List (Value × Given α)) (key : Value) (given : Given α) :
    List (Value × Given α) :=
  if table.any (·.1.same key) then
    table.map fun entry => if entry.1.same key then (entry.1, given) else entry
  else table ++ [(key, given)]

/-- The table that pairs make, put in one after the other. -/
def table (pairs : List (Value × Given α)) : Except Failure (List (Value × Given α)) :=
  pairs.foldlM (fun entries pair => do
    discard (Value.keyable [pair.1])
    return put entries pair.1 pair.2) []

/-- The findings of a table that stand under words for categories. -/
def recognised (table : List (Value × Given α)) : Results α :=
  table.filterMap fun (key, given) =>
    match categoryOf? key, given with
    | some category, .finding finding => some (category, finding)
    | _, _ => none

end Results

end ContractRisk.Scoring
