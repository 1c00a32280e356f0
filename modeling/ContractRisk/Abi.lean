/-
**Contract interfaces.**

An interface is a list of entries: functions, events and the like, each with typed inputs and outputs.
`Entry.wire` is the record in which an entry travels; `Abi.Reader` reads it back.
-/

import ContractRisk.Value

namespace ContractRisk.Abi

/-- What an entry declares. -/
inductive Kind where
  | function
  | event
  | constructor
  | fallback
  | receive
  | error
deriving DecidableEq, Repr

namespace Kind

/-- The kinds of entries. -/
def all : List Kind := [function, event, constructor, fallback, receive, error]

/-- The word for a kind. -/
def name : Kind → String
  | function => "function"
  | event => "event"
  | constructor => "constructor"
  | fallback => "fallback"
  | receive => "receive"
  | error => "error"

/-- The kind with a given word. -/
def ofName? (text : String) : Option Kind := all.find? (·.name = text)

theorem ofName?_name (kind : Kind) : ofName? kind.name = some kind := by
  cases kind <;> decide

end Kind

/-- A typed input or output. -/
structure Parameter where
  name : String
  type : String
  indexed : Option Bool
deriving DecidableEq

/-- An item of an interface. -/
structure Entry where
  kind : Kind
  name : Option String
  inputs : List Parameter
  outputs : List Parameter
  mutability : Option String
deriving DecidableEq

namespace Entry

/-- Whether an entry declares a function. -/
def isFunction (entry : Entry) : Bool := entry.kind = .function

/-- Whether an entry declares an event. -/
def isEvent (entry : Entry) : Bool := entry.kind = .event

/-- Whether an entry promises not to change the state. -/
def isReadOnly (entry : Entry) : Bool :=
  entry.mutability = some "view" || entry.mutability = some "pure"

/-- The types of the inputs. -/
def inputTypes (entry : Entry) : List String := entry.inputs.map (·.type)

/-- The types of the outputs. -/
def outputTypes (entry : Entry) : List String := entry.outputs.map (·.type)

/-- The name of an entry; empty if it has none. -/
def title (entry : Entry) : String := entry.name.getD ""

end Entry

/-- The functions of an interface. -/
def functions (entries : List Entry) : List Entry := entries.filter (·.isFunction)

/-- The events of an interface. -/
def events (entries : List Entry) : List Entry := entries.filter (·.isEvent)

/-- A text, or nothing. -/
def textOrNull : Option String → Value
  | some text => .text text
  | none => .null

/-- The record in which a parameter travels. -/
def Parameter.wire (parameter : Parameter) : Value :=
  .record [
    ("name", .text parameter.name),
    ("type", .text parameter.type),
    ("indexed", match parameter.indexed with | some b => .bool b | none => .null)]

/-- The record in which an entry travels. -/
def Entry.wire (entry : Entry) : Value :=
  .record [
    ("type", .text entry.kind.name),
    ("name", textOrNull entry.name),
    ("inputs", .list (entry.inputs.map Parameter.wire)),
    ("outputs", .list (entry.outputs.map Parameter.wire)),
    ("stateMutability", textOrNull entry.mutability)]

end ContractRisk.Abi
