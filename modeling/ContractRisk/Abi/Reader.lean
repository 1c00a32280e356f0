/-
**Reading a contract interface.**

An interface is given as JSON text, for whose brackets there is only so much room, as decoded JSON, or
as a list in which some items are entries already. `Abi.read` reads each item on its own and keeps the
order; the first item that is no entry is refused with its index and the field that is at fault. Older
records are understood: an entry without a kind is a function, and the flags `constant` and `payable`
stand for a mutability.
-/

import ContractRisk.Abi
import ContractRisk.Failure

namespace ContractRisk.Abi

open Shape

/-- An item of an interface: still a value, or an entry already. -/
inductive Item where
  | raw (value : Value)
  | parsed (entry : Entry)

/-- An interface as it is given. -/
inductive Input where
  /-- A value, with the room for the brackets of a text. -/
  | value (value : Value) (room : Nat)
  | items (items : List Item)

/-- The value of a field among those of a record. -/
def get? (fields : List (String × Value)) (name : String) : Option Value :=
  (fields.find? (·.1 = name)).map (·.2)

/-- Whether a field is there and neither empty, nor zero, nor false. -/
def given (fields : List (String × Value)) (name : String) : Bool :=
  (get? fields name).any (·.holds)

/-! ### Parameters -/

/-- The name of a parameter; whatever is empty, zero or absent is no name. -/
def parameterName (fields : List (String × Value)) : Except Reason String :=
  match get? fields "name" with
  | some value => if value.holds then Shape.text value else .ok ""
  | none => .ok ""

/-- The type of a parameter. -/
def parameterType (fields : List (String × Value)) : Except Reason String :=
  match get? fields "type" with
  | some value => Shape.text value
  | none => .error .missing

/-- A parameter. -/
def readParameter : Value → Except Fault Parameter
  | .record fields => do
    let name ← located "name" (parameterName fields)
    let type ← located "type" (parameterType fields)
    let indexed ← located "indexed" (flagOrNone ((get? fields "indexed").getD .null))
    return ⟨name, type, indexed⟩
  | _ => .error ⟨.notInstance "ABIParameter", []⟩

/-- Parameters, of which the first has the index `index`. -/
def readParametersFrom (index : Nat) : List Value → Except Fault (List Parameter)
  | [] => .ok []
  | value :: rest => do
    let parameter ← inside (toString index) (readParameter value)
    let others ← readParametersFrom (index + 1) rest
    return parameter :: others

/-- The parameters in the field `name`; none if there is no such field. -/
def readParameters (fields : List (String × Value)) (name : String) :
    Except Fault (List Parameter) :=
  match get? fields name with
  | none => .ok []
  | some value => inside name do
    let values ← (sequence value).mapError (⟨·, []⟩)
    readParametersFrom 0 values

/-! ### Entries -/

/-- The kind of an entry, under its usual or its older name; a function if neither is given. -/
def kindValue (fields : List (String × Value)) : Value :=
  (get? fields "type").getD ((get? fields "kind").getD (.text "function"))

/-- The kind that a value is the word for. -/
def readKind (value : Value) : Except Reason Kind := do
  let word ← Shape.text value
  match Kind.ofName? word with
  | some kind => return kind
  | none => throw (.unknownKind word)

/-- The mutability as it is given, and the name of its field. -/
def statedMutability (fields : List (String × Value)) : Option (String × Value) :=
  match get? fields "stateMutability" with
  | some value => some ("stateMutability", value)
  | none => (get? fields "state_mutability").map (("state_mutability", ·))

/-- The mutability of an entry, and the name of its field: the one given unless it is empty, else
what the older flags stand for. -/
def mutabilityValue (fields : List (String × Value)) : Option (String × Value) :=
  if given fields "stateMutability" || given fields "state_mutability" then
    statedMutability fields
  else if given fields "constant" then
    some ("stateMutability", .text "view")
  else match get? fields "payable" with
    | some flag =>
      some ("stateMutability", .text (if flag.holds then "payable" else "nonpayable"))
    | none => statedMutability fields

/-- The mutability of an entry. -/
def readMutability (fields : List (String × Value)) : Except Fault (Option String) :=
  match mutabilityValue fields with
  | some (name, value) => located name (textOrNone value)
  | none => .ok none

/-- An entry. -/
def readEntry : Value → Except Fault Entry
  | .record fields => do
    let kind ← located "type" (readKind (kindValue fields))
    let name ← located "name" (textOrNone ((get? fields "name").getD .null))
    let inputs ← readParameters fields "inputs"
    let outputs ← readParameters fields "outputs"
    let mutability ← readMutability fields
    return ⟨kind, name, inputs, outputs, mutability⟩
  | _ => .error ⟨.notInstance "ABIEntry", []⟩

/-- The entry that an item is. -/
def Item.read : Item → Except Fault Entry
  | .parsed entry => .ok entry
  | .raw value => readEntry value

/-! ### Interfaces -/

/-- The entries of items, of which the first has the index `index`. -/
def readItemsFrom (index : Nat) : List Item → Except Failure (List Entry)
  | [] => .ok []
  | item :: rest => do
    let entry ← item.read.mapError fun fault => .refused (.abiEntry index fault)
    let others ← readItemsFrom (index + 1) rest
    return entry :: others

/-- The entries of items. -/
def readItems (items : List Item) : Except Failure (List Entry) := readItemsFrom 0 items

/-- What a fault in a JSON text is for an interface: a number of too many digits is no malformed
text, and neither are brackets for which there is no room. -/
def textFailure : Json.Fault → Failure
  | .longNumber digits => .misuse (.longNumber digits)
  | .tooDeep word => .misuse (.deepText word)
  | fault => .refused (.abiText fault)

/-- The value of an interface with its JSON text, if it is one, decoded. -/
def decoded (room : Nat) : Value → Except Failure Value
  | .text s => (Json.read room s).mapError textFailure
  | .bytes b => do
    let chars ← (Text.decode b).mapError Failure.undecodable
    (Json.readChars room chars).mapError textFailure
  | value => .ok value

/-- The entries of an interface. -/
def read : Input → Except Failure (List Entry)
  | .items items => readItems items
  | .value value room => do
    match ← decoded room value with
    | .list values => readItems (values.map .raw)
    | _ => throw (.refused .abiShape)

/-- The entries of an interface that may be absent. -/
def entriesOf : Input → Except Failure (List Entry)
  | .value .null _ => .ok []
  | input => read input

/-- Whether an interface is neither absent nor empty. -/
def Input.holds : Input → Bool
  | .value v _ => v.holds
  | .items xs => !xs.isEmpty

/-- The interface made of entries. -/
def Input.ofEntries (entries : List Entry) : Input := .items (entries.map .parsed)

end ContractRisk.Abi
