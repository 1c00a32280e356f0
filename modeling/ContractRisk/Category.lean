/-
**The vocabulary of a verdict**: deception categories, severities of a finding, risk levels of a
contract and levels of a warning.

Each has a word (`name`) and is read back from it (`ofName?`); the categories are listed in the order
in which they are reported (`Category.all`), the severities by rank.
-/

namespace ContractRisk

/-- The ways in which a contract can deceive, one detector for each. -/
inductive Category where
  | fakeBalance
  | hiddenRedirection
  | nonFunctionalTransfer
  | deceptiveEvents
deriving DecidableEq, Repr

namespace Category

/-- The categories in the order of reports. -/
def all : List Category :=
  [fakeBalance, hiddenRedirection, nonFunctionalTransfer, deceptiveEvents]

/-- The word for a category. -/
def name : Category → String
  | fakeBalance => "fake-balance"
  | hiddenRedirection => "hidden-redirection"
  | nonFunctionalTransfer => "non-functional-transfer"
  | deceptiveEvents => "deceptive-events"

/-- The category with a given word. -/
def ofName? (text : String) : Option Category :=
  all.find? (·.name = text)

/-- The words for a category as they stand in a sentence. -/
def label : Category → String
  | fakeBalance => "fake balance"
  | hiddenRedirection => "hidden redirection"
  | nonFunctionalTransfer => "non functional transfer"
  | deceptiveEvents => "deceptive events"

/-- The words for a category as they begin a sentence. -/
def title : Category → String
  | fakeBalance => "Fake balance"
  | hiddenRedirection => "Hidden redirection"
  | nonFunctionalTransfer => "Non functional transfer"
  | deceptiveEvents => "Deceptive events"

theorem mem_all (category : Category) : category ∈ all := by
  cases category <;> decide

theorem ofName?_name (category : Category) : ofName? category.name = some category := by
  cases category <;> decide

end Category

/-- How bad a finding is. -/
inductive Severity where
  | low
  | medium
  | high
  | critical
deriving DecidableEq, Repr

namespace Severity

/-- The severities by rank. -/
def all : List Severity := [low, medium, high, critical]

/-- The word for a severity. -/
def name : Severity → String
  | low => "low"
  | medium => "medium"
  | high => "high"
  | critical => "critical"

/-- The severity with a given word. -/
def ofName? (text : String) : Option Severity :=
  all.find? (·.name = text)

/-- The place of a severity in the order, from zero. -/
def rank : Severity → Nat
  | low => 0
  | medium => 1
  | high => 2
  | critical => 3

/-- The graver of two severities, the first if they are equal. -/
def graver (a b : Severity) : Severity := if a.rank < b.rank then b else a

/-- The next graver severity; there is none above `critical`. -/
def raised : Severity → Severity
  | low => medium
  | medium => high
  | high => critical
  | critical => critical

theorem ofName?_name (severity : Severity) : ofName? severity.name = some severity := by
  cases severity <;> decide

theorem rank_le_critical (severity : Severity) : severity.rank ≤ critical.rank := by
  cases severity <;> decide

end Severity

/-- The risk of a contract. -/
inductive RiskLevel where
  | low
  | medium
  | high
  | critical
deriving DecidableEq, Repr

namespace RiskLevel

/-- The word for a risk level. -/
def name : RiskLevel → String
  | low => "low"
  | medium => "medium"
  | high => "high"
  | critical => "critical"

/-- The word for a risk level in capitals. -/
def heading : RiskLevel → String
  | low => "LOW"
  | medium => "MEDIUM"
  | high => "HIGH"
  | critical => "CRITICAL"

/-- The place of a risk level in the order, from zero. -/
def rank : RiskLevel → Nat
  | low => 0
  | medium => 1
  | high => 2
  | critical => 3

end RiskLevel

/-- How a warning is shown. -/
inductive WarningLevel where
  | info
  | warning
  | error
  | critical
deriving DecidableEq, Repr

/-- The word for a warning level. -/
def WarningLevel.name : WarningLevel → String
  | info => "info"
  | warning => "warning"
  | error => "error"
  | critical => "critical"

/-- The level at which a finding of a severity is shown. -/
def WarningLevel.ofSeverity : Severity → WarningLevel
  | .low => info
  | .medium => warning
  | .high => error
  | .critical => critical

end ContractRisk
