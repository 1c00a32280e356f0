/-
**How findings are weighed.**

A configuration gives each category a weight and each severity a multiplier, sets the scores from
which a risk is medium, high or critical, and switches bonus and penalty on and off. `InRange` is what
every accepted configuration satisfies. `Config.read` lays given tables over the standard ones; each
table may be partial, and an unknown name is refused. `configure` lays changes of single weights and
multipliers over the configuration that was read or is there already.
-/

import ContractRisk.Category
import ContractRisk.Failure
import ContractRisk.Search

namespace ContractRisk.Scoring

variable {α : Type}

/-- How findings are weighed. -/
structure Config (α : Type) where
  weight : Category → α
  multiplier : Severity → α
  medium : α
  high : α
  critical : α
  bonus : Bool
  penalty : Bool

/-- The standard weight of a category. -/
def standardWeight [OfScientific α] : Category → α
  | .deceptiveEvents => 0.25
  | .hiddenRedirection => 0.35
  | .fakeBalance => 0.20
  | .nonFunctionalTransfer => 0.30

/-- The standard multiplier of a severity. -/
def standardMultiplier [OfScientific α] : Severity → α
  | .low => 0.8
  | .medium => 1.0
  | .high => 1.2
  | .critical => 1.5

namespace Config

/-- The standard configuration. -/
def standard [OfScientific α] : Config α where
  weight := standardWeight
  multiplier := standardMultiplier
  medium := 0.25
  high := 0.5
  critical := 0.75
  bonus := true
  penalty := true

/-- Weights and thresholds in the unit interval, multipliers up to two, and thresholds in order. -/
structure InRange [LE α] [OfScientific α] (config : Config α) : Prop where
  weight : ∀ category, 0.0 ≤ config.weight category ∧ config.weight category ≤ 1.0
  multiplier : ∀ severity, 0.0 ≤ config.multiplier severity ∧ config.multiplier severity ≤ 2.0
  medium : 0.0 ≤ config.medium ∧ config.medium ≤ 1.0
  high : 0.0 ≤ config.high ∧ config.high ≤ 1.0
  critical : 0.0 ≤ config.critical ∧ config.critical ≤ 1.0
  ordered : config.medium ≤ config.high ∧ config.high ≤ config.critical

end Config

/-! ### Tables -/

/-- The categories in the order of the table of weights. -/
def weighed : List Category :=
  [.deceptiveEvents, .hiddenRedirection, .fakeBalance, .nonFunctionalTransfer]

/-- The names of the thresholds in order. -/
def thresholdNames : List String := ["medium", "high", "critical"]

/-- The table of weights. -/
def Config.weights (config : Config α) : List (String × α) :=
  weighed.map fun category => (category.name, config.weight category)

/-- The table of multipliers. -/
def Config.multipliers (config : Config α) : List (String × α) :=
  Severity.all.map fun severity => (severity.name, config.multiplier severity)

/-- The table of thresholds. -/
def Config.thresholds (config : Config α) : List (String × α) :=
  [("medium", config.medium), ("high", config.high), ("critical", config.critical)]

/-- The entry of a table under a name, or else a default. -/
def entryOr (table : List (String × α)) (name : String) (default : α) : α :=
  ((table.find? (·.1 = name)).map (·.2)).getD default

/-- The numbers of a table, each at the place of its name. -/
def readNumbers : List (String × Value) → Except Shape.Fault (List (String × Float))
  | [] => .ok []
  | (name, value) :: rest => do
    let x ← Shape.located name (Shape.number value)
    let others ← readNumbers rest
    return (name, x) :: others

/-- The names in a table that the standard one lacks, in order. -/
def unknownNames (standard : List (String × Float)) (given : List (String × Value)) :
    List String :=
  ((given.map (·.1)).filter fun name => !standard.any (·.1 = name)).mergeSort
    fun a b => !decide (b < a)

/-- A table laid over the standard one. -/
def overlay (standard : List (String × Float)) (given : List (String × Value)) :
    List (String × Value) :=
  standard.map fun (name, x) => (name, entryOr given name (.float x))

/-- A table that is given, complete. -/
def readTable (standard : List (String × Float)) (label : String) :
    Value → Except Shape.Fault (List (String × Float))
  | .null => .ok standard
  | .record given =>
    match unknownNames standard given with
    | [] => readNumbers (overlay standard given)
    | names => .error ⟨.unknownKeys label names, []⟩
  | _ => .error ⟨.notRecord, []⟩

/-- The entries of a table, each between two bounds. -/
def checkRange [LE α] [DecidableLE α] [Decimal.Rendered α] (low high : α) (label : String)
    (table : List (String × α)) : Except Shape.Reason Unit :=
  match table.find? fun (_, x) => !decide (low ≤ x ∧ x ≤ high) with
  | some (name, x) =>
    .error (.outOfRange label name (Decimal.Rendered.text low) (Decimal.Rendered.text high)
      (Decimal.Rendered.text x))
  | none => .ok ()

/-- Thresholds in order. -/
def checkOrder [LE α] [DecidableLE α] (medium high critical : α) : Except Shape.Reason Unit :=
  if medium ≤ high ∧ high ≤ critical then .ok () else .error .unordered

/-! ### Reading -/

/-- A field under its usual or its other name, with the name it was given by. -/
def pick? (fields : List (String × Value)) (usual other : String) : Option (String × Value) :=
  match fields.find? (·.1 = usual) with
  | some field => some field
  | none => fields.find? (·.1 = other)

/-- The usual and the other names of the fields. -/
def fieldNames : List (String × String) := [
  ("patternWeights", "pattern_weights"),
  ("severityMultipliers", "severity_multipliers"),
  ("riskThresholds", "risk_thresholds"),
  ("enableBonusScoring", "enable_bonus_scoring"),
  ("enablePenaltyScoring", "enable_penalty_scoring")]

/-- The first field that is not one of a configuration; the other name of a field counts only if its
usual name is not there. -/
def unknownField? (fields : List (String × Value)) : Option String :=
  let used := fieldNames.filterMap fun (usual, other) => (pick? fields usual other).map (·.1)
  (fields.find? fun field => !used.contains field.1).map (·.1)

/-- A table of a configuration, read and checked in its place. -/
def readPart (fields : List (String × Value)) (usual other : String)
    (standard : List (String × Float)) (label : String)
    (check : List (String × Float) → Except Shape.Reason Unit) :
    Except Shape.Fault (List (String × Float)) :=
  match pick? fields usual other with
  | none => .ok standard
  | some (name, value) => Shape.inside name do
    let table ← readTable standard label value
    (check table).mapError (⟨·, []⟩)
    return table

/-- A switch of a configuration. -/
def readSwitch (fields : List (String × Value)) (usual other : String) :
    Except Shape.Fault Bool :=
  match pick? fields usual other with
  | none => .ok true
  | some (name, value) => Shape.located name (Shape.flag value)

/-- The check of a table of thresholds. -/
def checkThresholds (table : List (String × Float)) : Except Shape.Reason Unit := do
  checkRange 0.0 1.0 "Risk threshold" table
  checkOrder (entryOr table "medium" 0.0) (entryOr table "high" 0.0) (entryOr table "critical" 0.0)

/-- The configuration that fields write. -/
def readFields (fields : List (String × Value)) : Except Shape.Fault (Config Float) := do
  let standard : Config Float := .standard
  let weights ← readPart fields "patternWeights" "pattern_weights" standard.weights
    "pattern category" (checkRange 0.0 1.0 "Pattern weight")
  let multipliers ← readPart fields "severityMultipliers" "severity_multipliers"
    standard.multipliers "severity" (checkRange 0.0 2.0 "Severity multiplier")
  let thresholds ← readPart fields "riskThresholds" "risk_thresholds" standard.thresholds
    "risk level" checkThresholds
  let bonus ← readSwitch fields "enableBonusScoring" "enable_bonus_scoring"
  let penalty ← readSwitch fields "enablePenaltyScoring" "enable_penalty_scoring"
  match unknownField? fields with
  | some name => throw ⟨.unexpected, [name]⟩
  | none => return {
      weight := fun category => entryOr weights category.name (standard.weight category)
      multiplier := fun severity => entryOr multipliers severity.name (standard.multiplier severity)
      medium := entryOr thresholds "medium" standard.medium
      high := entryOr thresholds "high" standard.high
      critical := entryOr thresholds "critical" standard.critical
      bonus, penalty }

namespace Config

/-- The configuration that a value writes; the standard one if there is none. -/
def read : Value → Except Failure (Config Float)
  | .null => .ok .standard
  | .record fields => (readFields fields).mapError fun fault => .refused (.config fault)
  | value => .error (.refused (.configShape value.kind))

/-- A table as a record. -/
def tableValue (table : List (String × Float)) : Value :=
  .record (table.map fun (name, x) => (name, .float x))

/-- A table as a record with some entries replaced or added. -/
def tableWith (table : List (String × Float)) (changes : Option (List (String × Value))) : Value :=
  .record ((changes.getD []).foldl (fun fields change => setField fields change.1 change.2)
    (table.map fun (name, x) => (name, .float x)))

/-- A configuration with some weights and multipliers replaced, checked anew. -/
def override (config : Config Float) (weights multipliers : Option (List (String × Value))) :
    Except Failure (Config Float) :=
  if weights.isNone && multipliers.isNone then .ok config
  else read (.record [
    ("pattern_weights", tableWith config.weights weights),
    ("severity_multipliers", tableWith config.multipliers multipliers),
    ("risk_thresholds", tableValue config.thresholds),
    ("enable_bonus_scoring", .bool config.bonus),
    ("enable_penalty_scoring", .bool config.penalty)])

end Config

/-! ### Layers -/

/-- What a configuration is made from: a value of unknown shape, or a configuration that is there. -/
inductive Basis where
  | value (given : Value)
  | ready (config : Config Float)

/-- The configuration that a basis comes to. -/
def Basis.read : Basis → Except Failure (Config Float)
  | .value given => Config.read given
  | .ready config => .ok config

/-- The configuration of a basis with some weights and multipliers replaced. -/
def configure (basis : Basis) (weights multipliers : Option (List (String × Value))) :
    Except Failure (Config Float) := do
  let config ← basis.read
  config.override weights multipliers

end ContractRisk.Scoring
