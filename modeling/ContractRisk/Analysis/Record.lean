/-
**The record of an analysis.**

An analysis passes through stages (`Stage`); what goes wrong in one of them is noted under the
matter that it concerns (`Concern`) and does not stop the others. `Analysis` is what is said about an
address in the end, and `QuickCheck` what can be said at once.
-/

import ContractRisk.Bytecode.Proxy
import ContractRisk.Scoring.Explanation

namespace ContractRisk

/-- What an analysis has reached. -/
inductive Stage where
  | start
  | addressValidated
  | threatChecked
  | bytecodeFetched
  | proxyClassified
  | patternsRun
  | aggregated
  | complete
  | failed
deriving DecidableEq, Repr

/-- The word for a stage. -/
def Stage.name : Stage → String
  | start => "start"
  | addressValidated => "address-validated"
  | threatChecked => "threat-checked"
  | bytecodeFetched => "bytecode-fetched"
  | proxyClassified => "proxy-classified"
  | patternsRun => "patterns-run"
  | aggregated => "aggregated"
  | complete => "complete"
  | failed => "failed"

/-- A matter in which something can go wrong. -/
inductive Concern where
  | contractName
  | threatCheck
  | bytecode
  | proxy
  | abi
  | patterns
  | aggregation
deriving DecidableEq, Repr

/-- The word for a matter. -/
def Concern.name : Concern → String
  | contractName => "contract_name"
  | threatCheck => "threat_check"
  | bytecode => "bytecode"
  | proxy => "proxy"
  | abi => "abi"
  | patterns => "patterns"
  | aggregation => "aggregation"

/-- Where the code of a contract is asked for. -/
inductive Origin where
  /-- A source with a name. -/
  | source (name : String)
  /-- A node at a location. -/
  | node (url : String)
  /-- A value that is no source; `null` stands for none given. -/
  | value (given : Value)

namespace Origin

/-- No origin. -/
def absent : Origin := .value .null

/-- Whether an origin is given. -/
def isGiven : Origin → Bool
  | value .null => false
  | _ => true

/-- Whether an origin is given and, if it is a value, not an empty one. -/
def holds : Origin → Bool
  | value given => given.holds
  | _ => true

/-- The name of the source that an origin is. -/
def source? : Origin → Except Failure String
  | source name => .ok name
  | node url => .ok url
  | value given => .error (.refused (.notSource given.kind))

/-- An origin, or another if it is not given. -/
def orElse (origin other : Origin) : Origin := if origin.isGiven then origin else other

end Origin

/-- Where the code of an analysis came from. -/
inductive Provider where
  | custom
  | default
  | none
deriving DecidableEq, Repr

/-- The word for a provider. -/
def Provider.name : Provider → String
  | custom => "custom"
  | default => "default"
  | none => "none"

/-- How an analysis ended. -/
inductive Verdict where
  | complete
  | failed
deriving DecidableEq, Repr

/-- The word for the end of an analysis. -/
def Verdict.name : Verdict → String
  | complete => "complete"
  | failed => "failed"

/-- What is said about an address. -/
structure Analysis (α : Type) where
  address : String
  name : Option String
  verdict : Verdict
  vulnerabilities : List String
  level : RiskLevel
  provider : Provider
  sourceConfigured : Bool
  stages : List Stage
  errors : List (Concern × String)
  code : Option String
  classification : Option Proxy.Classification
  results : Option (Scoring.Results α)
  assessment : Option (Scoring.Assessment α)
  warnings : List Scoring.Warning

/-- What can be said about an address at once. -/
structure QuickCheck where
  isValid : Bool
  isMalicious : Bool
  level : RiskLevel
  warnings : List String
deriving DecidableEq

end ContractRisk
