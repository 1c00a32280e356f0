/-
**Names and parameter shapes** as the detectors compare them.

Names are compared in lower case. A shape lists the expected parameter types, where `uint` stands for
an unsigned integer of any width.
-/

import ContractRisk.Abi
import ContractRisk.Search
import ContractRisk.Text.Case

namespace ContractRisk.Detector

open Abi

/-- The name of an entry in lower case; empty if it has none. -/
def plainName (entry : Entry) : String := Text.lower entry.title

/-- The words of a list, all in lower case, that a name mentions; none if the name is empty. -/
def mentioned (name : String) (words : List String) : List String :=
  let plain := Text.lower name
  if plain.isEmpty then [] else words.filter (mentions plain ·)

/-- Whether a type is of the expected kind. -/
def typeFits (actual expected : String) : Bool :=
  if expected = "uint" then beginsWith actual "uint" else actual = expected

/-- Whether types have the expected shape. -/
def shapeFits : (actual expected : List String) → Bool
  | [], [] => true
  | a :: actual, e :: expected => typeFits a e && shapeFits actual expected
  | _, _ => false

/-- Two addresses and an amount. -/
def transferShape : List String := ["address", "address", "uint"]

/-- Texts separated by commas. -/
def commas (texts : List String) : String := ",".intercalate texts

/-- Texts separated by commas and spaces. -/
def listed (texts : List String) : String := ", ".intercalate texts

end ContractRisk.Detector
