/-
**Settings of the analyzer.**

A `Draft` holds settings as they are given, `Settings` those that are usable. `Draft.check` passes
from one to the other and reports the first setting that is not usable: limits must be positive,
counts at least one, the node an `http` or `https` address, which is not internal unless that is
allowed, and every extra address an address.
-/

import ContractRisk.Failure
import ContractRisk.Url

namespace ContractRisk

/-- The version of the analysis. -/
def analysisVersion : String := "1.0.0"

/-- Settings as they are given. -/
structure Draft where
  appName : String := "scam-analyzer"
  appVersion : String := analysisVersion
  environment : String := "development"
  logLevel : String := "INFO"
  securityWarnings : Bool := true
  explicitConsent : Bool := true
  nodeUrl : Value := .null
  allowLocalNode : Bool := true
  analysisTimeout : Value := .float 10.0
  cacheLifetime : Value := .int 600
  cacheSize : Value := .int 1000
  batchConcurrency : Value := .int 5
  extraAddresses : Value := .list []

/-- Usable settings. -/
structure Settings where
  appName : String
  appVersion : String
  environment : String
  logLevel : String
  securityWarnings : Bool
  explicitConsent : Bool
  nodeUrl : Option String
  allowLocalNode : Bool
  analysisTimeout : Number
  cacheLifetime : Number
  cacheSize : Number
  batchConcurrency : Number
  extraAddresses : List String

namespace Draft

/-- A limit, which must be above zero. -/
def limit (name : String) (value : Value) : Except Failure Number :=
  match value.asNumber? with
  | none => .error (.misuse (.incomparable "<=" value.kind "int"))
  | some n => if n ≤ 0 then .error (.refused (.setting (.notPositive name))) else .ok n

/-- A count, which must be at least one. -/
def size (name : String) (value : Value) : Except Failure Number :=
  match value.asNumber? with
  | none => .error (.misuse (.incomparable "<" value.kind "int"))
  | some n => if n < 1 then .error (.refused (.setting (.belowOne name))) else .ok n

/-- The address of a node, if one is given. -/
def node (allowLocal : Bool) (url : Value) : Except Failure (Option String) :=
  match url with
  | .null => .ok none
  | .text text =>
    if !Url.isHttp url then .error (.refused (.setting (.url text)))
    else if !allowLocal && !Url.isSafe url then .error (.refused (.setting (.localUrl text)))
    else .ok (some text)
  | _ => url.refused (.setting ∘ .url)

/-- An extra address, in the form that is given. -/
def extra (address : Value) : Except Failure String :=
  match address, Address.normalize? address with
  | .text text, some _ => .ok text
  | _, _ => address.refused (.setting ∘ .address)

/-- The settings, if all of them are usable. -/
def check (draft : Draft) : Except Failure Settings := do
  let analysisTimeout ← limit "analysis_timeout" draft.analysisTimeout
  let cacheLifetime ← limit "cache_ttl_seconds" draft.cacheLifetime
  let cacheSize ← size "cache_max_entries" draft.cacheSize
  let batchConcurrency ← size "batch_concurrency" draft.batchConcurrency
  let nodeUrl ← node draft.allowLocalNode draft.nodeUrl
  let extraAddresses ← (← draft.extraAddresses.items).mapM extra
  return {
    appName := draft.appName
    appVersion := draft.appVersion
    environment := draft.environment
    logLevel := draft.logLevel
    securityWarnings := draft.securityWarnings
    explicitConsent := draft.explicitConsent
    nodeUrl, allowLocalNode := draft.allowLocalNode
    analysisTimeout, cacheLifetime, cacheSize, batchConcurrency, extraAddresses }

end Draft

end ContractRisk
