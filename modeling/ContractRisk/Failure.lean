/-
**What can go wrong**, each failure by its cause.

A `Refusal` is malformed input and belongs to a field; a `Failure` is that, or a fetch that did not
succeed, or an operation on a value that does not admit it, or something raised by a component from
outside. `Failure.kind` is the family of a failure and `Failure.message` its wording. What quotes a
value quotes it as it is written (`Value.written`), and to write it is an operation that can fail.

Almost all failures are ordinary ones, which end what they happen in. A cancellation and the like
(`Failure.isOrdinary`) go past everything that deals with failures.
-/

import ContractRisk.Bytecode
import ContractRisk.Category
import ContractRisk.Shape
import ContractRisk.Json.Reader

namespace ContractRisk

/-- The families of failures. -/
inductive ErrorKind where
  | analyzer
  | validation
  | security
  | analysis
  | bytecode
  | schema
  | value
  | type
  | key
  | index
  | overflow
  | decoding
  | runtime
  | recursion
  | timeout
  | system
  | connection
  | connectionRefused
  | node
  | cancelled
  | base
deriving DecidableEq, Repr

namespace ErrorKind

/-- The name under which a family is reported. -/
def name : ErrorKind → String
  | analyzer => "ScamAnalyzerError"
  | validation => "ValidationError"
  | security => "SecurityError"
  | analysis => "AnalysisError"
  | bytecode => "BytecodeError"
  | schema => "SchemaError"
  | value => "ValueError"
  | type => "TypeError"
  | key => "KeyError"
  | index => "IndexError"
  | overflow => "OverflowError"
  | decoding => "UnicodeDecodeError"
  | runtime => "RuntimeError"
  | recursion => "RecursionError"
  | timeout => "TimeoutError"
  | system => "OSError"
  | connection => "ConnectionError"
  | connectionRefused => "ConnectionRefusedError"
  | node => "Web3Exception"
  | cancelled => "CancelledError"
  | base => "BaseException"

/-- The families that can be raised from outside. -/
def raisable : List ErrorKind := [
  analyzer, validation, security, analysis, bytecode, value, type, key, runtime, timeout, system,
  connection, connectionRefused, node, cancelled, base]

/-- The family that is reported under a name. -/
def ofName? (text : String) : Option ErrorKind :=
  raisable.find? (·.name = text)

/-- The code of a family of the analyzer's own. -/
def code? : ErrorKind → Option String
  | analyzer => some "ANALYZER_ERROR"
  | validation => some "VALIDATION_ERROR"
  | security => some "SECURITY_ERROR"
  | analysis => some "ANALYSIS_ERROR"
  | bytecode => some "BYTECODE_ERROR"
  | _ => none

/-- The families of the analyzer's own. -/
def isOwn (kind : ErrorKind) : Bool := kind.code?.isSome

/-- The families that are dealt with where failures are; a cancellation is not among them. -/
def isOrdinary (kind : ErrorKind) : Bool := kind ≠ cancelled && kind ≠ base

/-- Failed analyses, malformed code among them. -/
def isAnalysis (kind : ErrorKind) : Bool := kind = analysis || kind = bytecode

/-- Failures of the operating system, timeouts and connections among them. -/
def isSystem (kind : ErrorKind) : Bool :=
  kind = system || kind = timeout || kind = connection || kind = connectionRefused

/-- Failures about a value, undecodable text and fields that are not accepted among them. -/
def isValue (kind : ErrorKind) : Bool := kind = value || kind = decoding || kind = schema

end ErrorKind

/-- A setting that is not usable. -/
inductive SettingFault where
  | notPositive (name : String)
  | belowOne (name : String)
  | url (given : String)
  | localUrl (given : String)
  | address (given : String)

/-- Malformed input. -/
inductive Refusal where
  | address
  | abiText (fault : Json.Fault)
  | abiShape
  | abiEntry (index : Nat) (fault : Shape.Fault)
  | nameMissing
  | nameTooLong
  | noInput
  | inputCode (fault : CodeFault)
  | category (given : String)
  | configShape (kind : String)
  | config (fault : Shape.Fault)
  | noResults
  | resultCategory (given : String)
  | notResult (under : Category)
  | misfiled (under actual : Category)
  | nodeUrl (given : String)
  | setting (fault : SettingFault)
  | notSource (kind : String)
  | noSource

namespace Refusal

/-- The greatest length of a contract name. -/
def maxNameLength : Nat := 100

/-- The wording of an unusable setting. -/
def settingMessage : SettingFault → String
  | .notPositive name => s!"{name} must be positive"
  | .belowOne name => s!"{name} must be at least 1"
  | .url given => s!"Unsupported RPC URL: {given}"
  | .localUrl given => s!"RPC URL points at a loopback or private host: {given}"
  | .address given => s!"Invalid malicious address in configuration: {given}"

/-- The wording of a refusal. -/
def message : Refusal → String
  | address => "Invalid Ethereum address format"
  | abiText fault => s!"ABI is not valid JSON: {fault.message}"
  | abiShape => "ABI must be a JSON array of entries"
  | abiEntry index fault => s!"Invalid ABI entry at index {index}: {fault.message}"
  | nameMissing => "Contract name is required"
  | nameTooLong => s!"Contract name must be at most {maxNameLength} characters"
  | noInput => "Either an ABI or bytecode is required for pattern detection"
  | inputCode fault => Bytecode.faultMessage fault
  | category given => s!"Unsupported pattern category: {given}"
  | configShape kind => s!"Risk scoring config must be a mapping, got {kind}"
  | config fault => s!"Invalid risk scoring config: {fault.message}"
  | noResults => "Pattern results must be a non-empty mapping"
  | resultCategory given => s!"Unknown pattern category: {given}"
  | notResult under => s!"Result for {under.name} is not a PatternResult"
  | misfiled under actual => s!"Result filed under {under.name} has category {actual.name}"
  | nodeUrl given => s!"Invalid RPC URL: {given}"
  | setting fault => settingMessage fault
  | notSource kind => s!"Bytecode source must provide fetch_code or be callable, got {kind}"
  | noSource => "No bytecode source configured"

/-- The setting that is not usable. -/
def settingField : SettingFault → String
  | .notPositive name | .belowOne name => name
  | .url _ | .localUrl _ => "rpc_url"
  | .address _ => "extra_malicious_addresses"

/-- The field that a refusal belongs to. -/
def field : Refusal → String
  | address => "address"
  | abiText _ | abiShape | abiEntry _ _ => "abi"
  | nameMissing | nameTooLong => "contract_name"
  | noInput => "input"
  | inputCode _ => "bytecode"
  | category _ => "category"
  | configShape _ | config _ => "risk_scoring_config"
  | noResults | resultCategory _ | notResult _ | misfiled _ _ => "pattern_results"
  | nodeUrl _ => "rpc_url"
  | setting fault => settingField fault
  | notSource _ | noSource => "bytecode_source"

end Refusal

/-- What a failed request to a node came from. -/
inductive NodeTrouble where
  | timeout
  | rateLimit
  | network
  | other
deriving DecidableEq, Repr

/-- The words for the trouble with a node. -/
def NodeTrouble.name : NodeTrouble → String
  | timeout => "Request timeout"
  | rateLimit => "Rate limit exceeded"
  | network => "Network error"
  | other => "Provider error"

/-- An operation on a value that does not admit it. -/
inductive Misuse where
  | unkeyable (kind : String)
  | lengthless (kind : String)
  | itemless (kind : String)
  | indexOutOfRange
  | missingKey (key : String)
  | badHexDigit (position : Nat)
  | longNumber (digits : Nat)
  | deepText (word : String)
  | unwritable
  | deepValue
  | notNumeral (text : String)
  | infiniteCount
  | undefinedCount
  | notCategory (given : String)
  | noDefault (reader : String)
  | logLevel
  | cacheSize
  | cacheConcurrency
  | incomparable (relation left right : String)

namespace Misuse

/-- The family of a misuse. -/
def kind : Misuse → ErrorKind
  | unkeyable _ | lengthless _ | itemless _ | noDefault _ | incomparable _ _ _ => .type
  | indexOutOfRange => .index
  | missingKey _ => .key
  | infiniteCount => .overflow
  | deepText _ | deepValue => .recursion
  | _ => .value

/-- The wording of a misuse. -/
def message : Misuse → String
  | unkeyable kind => s!"unhashable type: '{kind}'"
  | lengthless kind => s!"object of type '{kind}' has no len()"
  | itemless kind => s!"'{kind}' object is not iterable"
  | indexOutOfRange => "list index out of range"
  | missingKey key => Text.quote key
  | badHexDigit position => s!"non-hexadecimal number found in fromhex() arg at position {position}"
  | longNumber digits => (Json.Fault.longNumber digits).message
  | deepText word => (Json.Fault.tooDeep word).message
  | unwritable =>
    s!"Exceeds the limit ({Number.maxDigits} digits) for integer string conversion; use " ++
      "sys.set_int_max_str_digits() to increase the limit"
  | deepValue => "maximum recursion depth exceeded while getting the repr of an object"
  | notNumeral text => s!"could not convert string to float: {Text.quote text}"
  | infiniteCount => "cannot convert float infinity to integer"
  | undefinedCount => "cannot convert float NaN to integer"
  | notCategory given => s!"{given} is not a valid ScamCategory"
  | noDefault reader => s!"{reader}() missing 1 required positional argument: 'default'"
  | logLevel => "Unable to configure logger 'scam_analyzer'"
  | cacheSize => "max_entries must be at least 1"
  | cacheConcurrency => "max_concurrency must be at least 1"
  | incomparable relation left right =>
    s!"'{relation}' not supported between instances of '{left}' and '{right}'"

end Misuse

/-- What can go wrong. -/
inductive Failure where
  /-- Malformed input. -/
  | refused (refusal : Refusal)
  /-- Malformed contract code. -/
  | badCode (fault : CodeFault)
  /-- An address that is asked for as listed and is not. -/
  | unlisted (address : String)
  /-- A fetch that took longer than its limit, or reported that it did. -/
  | timedOut (address : String) (limit : Option Number)
  /-- A fetch that failed in any other way. -/
  | fetchFailed (address : String) (cause : Failure)
  /-- A request to a node that failed. -/
  | nodeFailed (trouble : NodeTrouble) (address : String) (cause : Failure)
  /-- A finding given from outside with a field that is not accepted. -/
  | schema (fault : Shape.Fault)
  /-- A byte string that is no text. -/
  | undecodable (fault : Text.Undecodable)
  /-- An operation on a value that does not admit it. -/
  | misuse (misuse : Misuse)
  /-- Something raised from outside, with what it states about itself. -/
  | raised (kind : ErrorKind) (text : Option String) (field severity : Value)
      (cause : Option Failure)

namespace Failure

/-- Something raised from outside that states nothing beyond its text. -/
def thrown (kind : ErrorKind) (text : Option String) : Failure :=
  raised kind text .null (.text "high") none

/-- The family of a failure. -/
def kind : Failure → ErrorKind
  | refused _ => .validation
  | badCode _ => .bytecode
  | unlisted _ => .security
  | timedOut _ _ | fetchFailed _ _ | nodeFailed _ _ _ => .analysis
  | schema _ => .schema
  | undecodable _ => .decoding
  | misuse m => m.kind
  | raised kind _ _ _ _ => kind

/-- The text of something raised; a missing key is quoted. -/
def raisedText (kind : ErrorKind) : Option String → String
  | none => ""
  | some text => if kind = .key then Text.quote text else text

/-- The wording of a failure. -/
def message : Failure → String
  | refused refusal => refusal.message
  | badCode fault => Bytecode.faultMessage fault
  | unlisted address => s!"No threat registry entry for address {address}"
  | timedOut address limit =>
    let shown := (limit.map Number.text).getD "None"
    s!"Request timeout while fetching bytecode for {address} after {shown}s"
  | fetchFailed address cause => s!"Failed to fetch bytecode for {address}: {cause.message}"
  | nodeFailed trouble address cause =>
    s!"{trouble.name} while fetching bytecode for {address}: {cause.message}"
  | schema fault => fault.reason.message
  | undecodable fault => fault.message
  | misuse m => m.message
  | raised kind text _ _ _ => raisedText kind text

/-- The field that a failure belongs to. -/
def field : Failure → Value
  | refused refusal => .text refusal.field
  | raised _ _ field _ _ => field
  | _ => .null

/-- How severe a breach of policy is. -/
def severity : Failure → Value
  | raised _ _ _ severity _ => severity
  | _ => .text "high"

/-- The failure behind a failed analysis. -/
def cause? : Failure → Option Failure
  | timedOut _ _ => some (thrown .timeout none)
  | fetchFailed _ cause | nodeFailed _ _ cause => some cause
  | raised _ _ _ _ cause => cause
  | _ => none

/-- A failure written as its family with its text in brackets. -/
def literal : Failure → String
  | raised kind text _ _ _ => kind.name ++ "(" ++ (text.map Text.quote).getD "" ++ ")"
  | failure => s!"{failure.kind.name}({Text.quote failure.message})"

/-- A failure of one of the analyzer's own families, as a record. -/
def record (failure : Failure) : List (String × Value) :=
  let base := [
    ("error", Value.text failure.kind.name),
    ("code", ((failure.kind.code?).map Value.text).getD .null),
    ("message", Value.text failure.message)]
  match failure.kind with
  | .validation => base ++ [("field", failure.field)]
  | .security => base ++ [("severity", failure.severity)]
  | .analysis | .bytecode =>
    base ++ [("cause", (failure.cause?.map fun cause => Value.text cause.literal).getD .null)]
  | _ => base

/-- Whether a failure is malformed input. -/
def isRefusal (failure : Failure) : Bool := failure.kind = .validation

/-- Whether a failure is dealt with where failures are. -/
def isOrdinary (failure : Failure) : Bool := failure.kind.isOrdinary

/-- A failure of the analyzer's own, or the failed analysis that another one is taken for. A
cancellation has lost its text. -/
def filed (failure : Failure) : Failure :=
  if failure.kind.isOwn then failure
  else if failure.kind = .cancelled then
    raised .analysis (some "") .null (.text "high") (some (thrown .cancelled (some "")))
  else raised .analysis (some failure.message) .null (.text "high") (some failure)

end Failure

/-! ### Values in messages -/

namespace Value

/-- A value as it stands in a message, if it can be written. -/
def written (value : Value) : Except Failure String :=
  match value.message? with
  | some shown => .ok shown
  | none => .error (.misuse .unwritable)

/-- A value written so that its kind and extent show, if it can be written. -/
def quoted (value : Value) : Except Failure String :=
  match value.literal? with
  | some shown => .ok shown
  | none => .error (.misuse .unwritable)

/-- A refusal that quotes a value. -/
def refused {β : Type} (value : Value) (refusal : String → Refusal) : Except Failure β :=
  match value.written with
  | .ok shown => .error (.refused (refusal shown))
  | .error failure => .error failure

/-- A refusal that quotes a value is a failure, whether the value can be written or not. -/
theorem refused_error {β : Type} (value : Value) (refusal : String → Refusal) :
    ∃ failure, (value.refused refusal : Except Failure β) = .error failure := by
  unfold refused
  split
  · exact ⟨_, rfl⟩
  · exact ⟨_, rfl⟩

end Value

/-- The items of a value: those of a list, the characters of a text, the bytes of a byte string, the
names of a record. -/
def Value.items : Value → Except Failure (List Value)
  | list xs => .ok xs
  | text s => .ok (s.toList.map fun c => text (String.ofList [c]))
  | bytes b => .ok (b.map fun byte => count byte.toNat)
  | record fields => .ok (fields.map fun field => text field.1)
  | other => .error (.misuse (.itemless other.kind))

/-- Values of which each can be a key. -/
def Value.keyable (values : List Value) : Except Failure (List Value) :=
  match unkeyable? values with
  | some value => .error (.misuse (.unkeyable value.kind))
  | none => .ok values

end ContractRisk
