/-
**Settings from the environment.**

A setting is looked up under its name behind the analyzer's mark, then under the bare name, then
taken by default (`Environment.text`). Numbers, switches and lists are read from such a text, whole
numbers by dropping the fraction of a decimal. `Environment.settings` collects and checks all of
them; variables of a file count where the environment has none.
-/

import ContractRisk.Decimal.Reading
import ContractRisk.Settings
import ContractRisk.Settings.EnvFile

namespace ContractRisk

/-- Environment variables by name. -/
abbrev Environment := List (String × String)

namespace Environment

/-- The mark before the name of a variable that is meant for the analyzer. -/
def mark : String := "SCAM_ANALYZER_"

/-- The value of a variable. -/
def get? (env : Environment) (name : String) : Option String :=
  (env.find? (·.1 = name)).map (·.2)

/-- An environment with the variables of a file that it does not have. -/
def withFile (env : Environment) (file : Option String) : Environment :=
  match file with
  | none => env
  | some text => env ++ (EnvFile.read text).filter fun (name, _) => (env.get? name).isNone

/-- The text of a setting. -/
def text (env : Environment) (name default : String) : String :=
  match env.get? (mark ++ name) with
  | some value => value
  | none => (env.get? name).getD default

/-- The number that a text writes. -/
def numeral (text : String) : Except Failure Float :=
  match Decimal.readLoose? text with
  | some x => .ok x
  | none => .error (.misuse (.notNumeral text))

/-- A number without its fraction. -/
def whole (x : Float) : Except Failure Int :=
  if x.isNaN then .error (.misuse .undefinedCount)
  else if x.isInf then .error (.misuse .infiniteCount)
  else
    let exact := Decimal.exactly x
    .ok (exact.num.tdiv exact.den)

/-- A setting that is a number. -/
def number (env : Environment) (name default : String) : Except Failure Float :=
  numeral (env.text name default)

/-- A setting that is a whole number. -/
def count (env : Environment) (name default : String) : Except Failure Int :=
  env.number name default >>= whole

/-- The words for a switch that is on. -/
def onWords : List String := ["true", "1", "yes", "on"]

/-- A setting that is a switch. -/
def switch (env : Environment) (name default : String) : Bool :=
  onWords.contains (Text.lower (env.text name default))

/-- The parts of a text between commas. -/
def betweenCommas (chars : List Char) : List (List Char) :=
  chars.foldr (fun c parts =>
    if c = ',' then [] :: parts
    else match parts with
      | part :: rest => (c :: part) :: rest
      | [] => [[c]]) [[]]

/-- A setting that is a list: the parts between commas that are not blank. -/
def list (env : Environment) (name default : String) : List String :=
  let parts := (betweenCommas (env.text name default).toList).map (Text.trimBy Text.isBlank)
  (parts.filter (!·.isEmpty)).map String.ofList

/-- The settings as they stand in the environment. -/
def draft (env : Environment) : Except Failure Draft := do
  let node := env.text "RPC_URL" ""
  return {
    appName := env.text "APP_NAME" "scam-analyzer"
    appVersion := env.text "APP_VERSION" analysisVersion
    environment := env.text "ENVIRONMENT" "development"
    logLevel := Text.upper (env.text "LOG_LEVEL" "INFO")
    securityWarnings := env.switch "ENABLE_SECURITY_WARNINGS" "True"
    explicitConsent := env.switch "REQUIRE_EXPLICIT_CONSENT" "True"
    nodeUrl := if node.isEmpty then .null else .text node
    allowLocalNode := env.switch "ALLOW_LOCAL_RPC" "True"
    analysisTimeout := .float (← env.number "ANALYSIS_TIMEOUT" "10.0")
    cacheLifetime := .float (← env.number "CACHE_TTL_SECONDS" "600")
    cacheSize := .int (← env.count "CACHE_MAX_ENTRIES" "1000")
    batchConcurrency := .int (← env.count "BATCH_CONCURRENCY" "5")
    extraAddresses := .list ((env.list "EXTRA_MALICIOUS_ADDRESSES" "").map .text) }

/-- The settings of an environment, if all of them are usable. -/
def settings (env : Environment) : Except Failure Settings :=
  env.draft >>= Draft.check

end Environment

end ContractRisk
