/-
**Findings given from outside.**

`Finding.read` takes a record to a finding or names the first field that is not accepted. Flag,
confidence and category must be there; the confidence lies in the unit interval.
-/

import ContractRisk.Finding

namespace ContractRisk.Finding

open Shape

/-- A field that must be there. -/
def required {β : Type} (fields : List (String × Value)) (name : String)
    (reader : Value → Except Reason β) : Except Fault β :=
  located name (match fields.find? (·.1 = name) with
    | some (_, value) => reader value
    | none => .error .missing)

/-- A field with a value for when it is not there. -/
def optional {β : Type} (fields : List (String × Value)) (name : String) (default : β)
    (reader : Value → Except Reason β) : Except Fault β :=
  match fields.find? (·.1 = name) with
  | some (_, value) => located name (reader value)
  | none => .ok default

/-- A number in the unit interval. -/
def unitNumber (value : Value) : Except Reason Float := do
  unit (← number value)

/-- A word among others. -/
def among {β : Type} (words : List String) (read? : String → Option β) : Value → Except Reason β
  | .text word =>
    match read? word with
    | some result => .ok result
    | none => .error (.notAmong words)
  | _ => .error (.notAmong words)

/-- The word for a category. -/
def categoryWord : Value → Except Reason Category :=
  among (Category.all.map (·.name)) Category.ofName?

/-- The word for a severity. -/
def severityWord : Value → Except Reason Severity :=
  among (Severity.all.map (·.name)) Severity.ofName?

/-- Texts, of which the first has the index `index`. -/
def textsFrom (index : Nat) : List Value → Except Fault (List String)
  | [] => .ok []
  | value :: rest => do
    let text ← located (toString index) (Shape.text value)
    let others ← textsFrom (index + 1) rest
    return text :: others

/-- The lines of evidence; none if there is no such field. -/
def evidenceLines (fields : List (String × Value)) : Except Fault (List String) :=
  match fields.find? (·.1 = "evidence") with
  | none => .ok []
  | some (_, value) => inside "evidence" do
    let values ← (sequence value).mapError (⟨·, []⟩)
    textsFrom 0 values

/-- A record of any shape. -/
def anyRecord : Value → Except Reason (List (String × Value))
  | .record fields => .ok fields
  | _ => .error .notRecord

/-- The finding that a value writes. -/
def readFields : Value → Except Fault (Finding Float)
  | .record fields => do
    let detected ← required fields "detected" flag
    let confidence ← required fields "confidence" unitNumber
    let category ← required fields "category" categoryWord
    let description ← optional fields "description" "" Shape.text
    let evidence ← evidenceLines fields
    let severity ← optional fields "severity" .low severityWord
    let metadata ← optional fields "metadata" [] anyRecord
    return { detected, confidence, category, description, evidence, severity, metadata }
  | _ => .error ⟨.notInstance "PatternResult", []⟩

/-- The finding that a value writes. -/
def read (value : Value) : Except Failure (Finding Float) :=
  (readFields value).mapError .schema

end ContractRisk.Finding
