/-
**Values of unknown shape**, as they arrive from outside: decoded JSON, byte strings and numbers in
either form.

A record keeps its fields in order. `Value.message?` is how a value is quoted in messages, a text
standing bare and everything inside brackets in the form of `Value.literal?`; a value with a whole
number of too many digits in it cannot be quoted at all. `Value.holds` tells the empty and zero values
from the rest, and `Value.same` is the equality under which keys are looked up (`1`, `true` and `1.0`
are one key).
-/

import ContractRisk.Number
import ContractRisk.Text.Quoted

namespace ContractRisk

/-- A value of unknown shape. -/
inductive Value where
  | null
  | bool (b : Bool)
  | number (n : Number)
  | text (s : String)
  | bytes (b : List UInt8)
  | list (items : List Value)
  | record (fields : List (String × Value))

instance : Inhabited Value := ⟨.null⟩

namespace Value

/-- The whole number `n`. -/
abbrev int (n : Int) : Value := .number (.int n)

/-- The floating number `x`. -/
abbrev float (x : Float) : Value := .number (.float x)

/-- A whole number that counts something. -/
abbrev count (n : Nat) : Value := .int n

/-- The name of a value's kind. -/
def kind : Value → String
  | null => "NoneType"
  | bool _ => "bool"
  | number (.int _) => "int"
  | number (.float _) => "float"
  | text _ => "str"
  | bytes _ => "bytes"
  | list _ => "list"
  | record _ => "dict"

mutual

/-- A value written so that its kind and extent show. -/
def literal? : Value → Option String
  | null => some "None"
  | bool true => some "True"
  | bool false => some "False"
  | number n => n.text?
  | text s => some (Text.quote s)
  | bytes b => some (Text.quoteBytes b)
  | list items => (literals? items).map fun shown => "[" ++ ", ".intercalate shown ++ "]"
  | record fields =>
    (fieldLiterals? fields).map fun shown => "\x7b" ++ ", ".intercalate shown ++ "\x7d"

/-- The items of a list, each written as a literal. -/
def literals? : List Value → Option (List String)
  | [] => some []
  | item :: rest => do
    let shown ← literal? item
    let others ← literals? rest
    return shown :: others

/-- The fields of a record, each written as a literal. -/
def fieldLiterals? : List (String × Value) → Option (List String)
  | [] => some []
  | (name, value) :: rest => do
    let shown ← literal? value
    let others ← fieldLiterals? rest
    return (Text.quote name ++ ": " ++ shown) :: others

end

/-- A value as it stands in a message. -/
def message? : Value → Option String
  | text s => some s
  | value => value.literal?

mutual

/-- How many brackets stand inside one another. -/
def nesting : Value → Nat
  | list items => nestingOfItems items + 1
  | record fields => nestingOfFields fields + 1
  | _ => 0

/-- The greatest nesting of the items of a list. -/
def nestingOfItems : List Value → Nat
  | [] => 0
  | item :: rest => max (nesting item) (nestingOfItems rest)

/-- The greatest nesting of the fields of a record. -/
def nestingOfFields : List (String × Value) → Nat
  | [] => 0
  | (_, value) :: rest => max (nesting value) (nestingOfFields rest)

end

/-- Whether a value is neither absent, nor false, nor zero, nor empty. -/
def holds : Value → Bool
  | null => false
  | bool b => b
  | number n => !n.same 0
  | text s => !s.isEmpty
  | bytes b => !b.isEmpty
  | list items => !items.isEmpty
  | record fields => !fields.isEmpty

/-- The count of characters, bytes, items or fields. -/
def length? : Value → Option Nat
  | text s => some s.length
  | bytes b => some b.length
  | list items => some items.length
  | record fields => some fields.length
  | _ => none

/-- Whether a value can be a key: all but lists and records can. -/
def isKey : Value → Bool
  | list _ | record _ => false
  | _ => true

/-- The number that a value is equal to as a key. -/
def asNumber? : Value → Option Number
  | bool b => some (.int (if b then 1 else 0))
  | number n => some n
  | _ => none

/-- Equality of keys. -/
def same (a b : Value) : Bool :=
  match a.asNumber?, b.asNumber? with
  | some m, some n => m.same n
  | none, none => match a, b with
    | null, null => true
    | text s, text t => s == t
    | bytes s, bytes t => s == t
    | _, _ => false
  | _, _ => false

/-- The value of the first field of that name. -/
def field? (name : String) : Value → Option Value
  | record fields => (fields.find? (·.1 = name)).map (·.2)
  | _ => none

/-- The keys of a list, each at its first place only. -/
def distinct (keys : List Value) : List Value :=
  (keys.foldl (fun kept key => if kept.any (·.same key) then kept else key :: kept) []).reverse

/-- The first value in a list that is no key. -/
def unkeyable? (values : List Value) : Option Value :=
  values.find? (!·.isKey)

end Value

/-- The fields of a record with one set to a value, at its old place if it has one. -/
def setField (fields : List (String × Value)) (name : String) (value : Value) :
    List (String × Value) :=
  if fields.any (·.1 = name) then
    fields.map fun field => if field.1 = name then (name, value) else field
  else
    fields ++ [(name, value)]

end ContractRisk
