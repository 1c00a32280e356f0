/-
**Typed fields out of values of unknown shape.**

Each reader takes a value to a type or gives the reason why it cannot. Flags and numbers are also
read from the usual words and numerals. `Shape.Fault` adds the place: the path of names and indices
from the outermost record to the field.
-/

import ContractRisk.Value
import ContractRisk.Decimal.Reading

namespace ContractRisk.Shape

/-- Why a field was not accepted. -/
inductive Reason where
  | missing
  | unexpected
  | notText
  | notSequence
  | notRecord
  | notInstance (model : String)
  | notFlag
  | unclearFlag
  | notNumber
  | unclearNumber
  | tooSmall
  | tooLarge (bound : Nat)
  | notAmong (words : List String)
  | unknownKind (kind : String)
  | unknownKeys (label : String) (keys : List String)
  | outOfRange (label key low high given : String)
  | unordered

/-- Words in quotes, the last two joined by "or". -/
def alternatives : List String → String
  | [] => ""
  | [word] => s!"'{word}'"
  | [first, last] => s!"'{first}' or '{last}'"
  | word :: rest => s!"'{word}', " ++ alternatives rest

/-- The wording of a reason. -/
def Reason.message : Reason → String
  | missing => "Field required"
  | unexpected => "Extra inputs are not permitted"
  | notText => "Input should be a valid string"
  | notSequence => "Input should be a valid tuple"
  | notRecord => "Input should be a valid dictionary"
  | notInstance model => s!"Input should be a valid dictionary or instance of {model}"
  | notFlag => "Input should be a valid boolean"
  | unclearFlag => "Input should be a valid boolean, unable to interpret input"
  | notNumber => "Input should be a valid number"
  | unclearNumber => "Input should be a valid number, unable to parse string as a number"
  | tooSmall => "Input should be greater than or equal to 0"
  | tooLarge bound => s!"Input should be less than or equal to {bound}"
  | notAmong words => s!"Input should be {alternatives words}"
  | unknownKind kind => s!"Value error, Unsupported ABI entry type: {kind}"
  | unknownKeys label keys => s!"Value error, Unknown {label}: " ++ ", ".intercalate keys
  | outOfRange label key low high given =>
    s!"Value error, {label} for {key} must be between {low} and {high}, got {given}"
  | unordered => "Value error, Risk thresholds must satisfy medium <= high <= critical"

/-- A field that was not accepted, and its place. -/
structure Fault where
  reason : Reason
  path : List String

/-- The place of a fault as one word. -/
def Fault.location (fault : Fault) : String := ".".intercalate fault.path

/-- The wording of a fault, with its place if it has one. -/
def Fault.message (fault : Fault) : String :=
  fault.reason.message ++ if fault.location.isEmpty then "" else s!" ({fault.location})"

/-- A fault seen from one level further out. -/
def Fault.within (name : String) (fault : Fault) : Fault :=
  { fault with path := name :: fault.path }

/-- A reading of the field `name`. -/
def located {α : Type} (name : String) (result : Except Reason α) : Except Fault α :=
  result.mapError (⟨·, [name]⟩)

/-- A reading of what lies inside the field `name`. -/
def inside {α : Type} (name : String) (result : Except Fault α) : Except Fault α :=
  result.mapError (·.within name)

/-- A text. -/
def text : Value → Except Reason String
  | .text s => .ok s
  | _ => .error .notText

/-- A text, or nothing. -/
def textOrNone : Value → Except Reason (Option String)
  | .null => .ok none
  | value => (text value).map some

/-- A sequence. -/
def sequence : Value → Except Reason (List Value)
  | .list items => .ok items
  | _ => .error .notSequence

/-- The words that are read as a flag. -/
def flagWords : List (String × Bool) := [
  ("1", true), ("true", true), ("t", true), ("yes", true), ("y", true), ("on", true),
  ("0", false), ("false", false), ("f", false), ("no", false), ("n", false), ("off", false)]

/-- The flag that a word stands for, in either case. -/
def flagOfWord (word : String) : Except Reason Bool :=
  match flagWords.find? (·.1.toList = word.toList.map Char.toLower) with
  | some (_, flag) => .ok flag
  | none => .error .unclearFlag

/-- A flag. -/
def flag : Value → Except Reason Bool
  | .bool b => .ok b
  | .number (.int n) =>
    if n = 0 then .ok false else if n = 1 then .ok true else .error .unclearFlag
  | .number (.float x) =>
    if x == 0.0 then .ok false else if x == 1.0 then .ok true
    else if x.isFinite && x.floor == x then .error .unclearFlag else .error .notFlag
  | .text word => flagOfWord word
  | _ => .error .notFlag

/-- A flag, or nothing. -/
def flagOrNone : Value → Except Reason (Option Bool)
  | .null => .ok none
  | value => (flag value).map some

/-- A text without its underscores, if none stands at an end or beside another. -/
def withoutUnderscores? (chars : List Char) : Option (List Char) :=
  let doubled := (chars.zip (chars.drop 1)).any fun pair => pair.1 = '_' && pair.2 = '_'
  if chars.head? = some '_' || chars.getLast? = some '_' || doubled || !chars.contains '_' then none
  else some (chars.filter (· ≠ '_'))

/-- The number that a numeral stands for. -/
def numberOfText (numeral : String) : Except Reason Float :=
  let chars := numeral.toList
  match Decimal.read? (Text.trimBy Text.isSpace chars) with
  | some x => .ok x
  | none =>
    match (withoutUnderscores? chars).bind Decimal.read? with
    | some x => .ok x
    | none => .error .unclearNumber

/-- A number. -/
def number : Value → Except Reason Float
  | .bool b => .ok (if b then 1.0 else 0.0)
  | .number (.float x) => .ok x
  | .number (.int n) =>
    let x := Float.ofInt n
    if x.isFinite then .ok x else .error .notNumber
  | .text numeral => numberOfText numeral
  | _ => .error .notNumber

/-- A number that must lie in the unit interval. -/
def unit {α : Type} [LE α] [DecidableLE α] [OfScientific α] (x : α) : Except Reason α :=
  if !(decide (x ≤ 1.0)) then .error (.tooLarge 1)
  else if !(decide (0.0 ≤ x)) then .error .tooSmall
  else .ok x

/-- A whole number that must lie between 0 and 100. -/
def percentage (n : Int) : Except Reason Int :=
  if 100 < n then .error (.tooLarge 100) else if n < 0 then .error .tooSmall else .ok n

end ContractRisk.Shape
