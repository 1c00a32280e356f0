/-
**The list of addresses known to be malicious.**

A list is made of seeds, each of which must be an address; it holds their normal forms, each once
(`ThreatList.ofSeeds`). `ThreatList.isKnown` looks a text up by its lower case without reading it as
an address, `ThreatList.contains` is membership of any value, and `ThreatList.warningFor` is the
warning about a listed address.
-/

import ContractRisk.Scoring.Explanation
import ContractRisk.Search

namespace ContractRisk

/-- Addresses in normal form, each once. -/
structure ThreatList where
  addresses : List String

namespace ThreatList

/-- The addresses that are known from the start. -/
def builtIn : List String := [
  "0xacba164135904dc63c5418b57ff87efd341d7c80",
  "0xa995507632b358ba63f8a39616930f8a696bfd8d",
  "0xd66fd225dbf7fd3c9f00220a455d05efccb1cbf0",
  "0x8270500f6a22c5fc8b78eecc24dd20de85838149",
  "0x78ec1a6d4028a88b179247291993c9dcd14be952",
  "0x54cb07d537d75e0cf1b1e3870201fa20e8873d8a",
  "0x26a7a3ce145d5c9904c5dd20b47b349db5f06420"]

/-- The normal form of a seed. -/
def seed (value : Value) : Except Failure String :=
  match Address.normalize? value with
  | some address => .ok address
  | none => .error (.refused .address)

/-- A list with one more address, unless it is there. -/
def add (addresses : List String) (address : String) : List String :=
  if addresses.contains address then addresses else addresses ++ [address]

/-- The list that seeds make. -/
def ofSeeds (seeds : List Value) : Except Failure ThreatList :=
  (seeds.mapM seed).map fun addresses => ⟨addresses.foldl add []⟩

/-- The list of the addresses known from the start. -/
def standard : ThreatList := ⟨builtIn⟩

/-- The list of the addresses known from the start and more. The additions are collected as keys
before any of them is read as an address. -/
def withExtras (extras : List Value) : Except Failure ThreatList := do
  let keys ← Value.keyable extras
  ofSeeds (builtIn.map .text ++ keys)

/-- How many addresses are listed. -/
def size (threats : ThreatList) : Nat := threats.addresses.length

/-- The listed addresses in order. -/
def sorted (threats : ThreatList) : List String := sortedTexts threats.addresses

/-- Whether an address is listed, in any case of its letters. -/
def isKnown (threats : ThreatList) : Value → Bool
  | .text address => threats.addresses.contains (Text.lower address)
  | _ => false

/-- Whether a value is a member of the list: a text that is listed. -/
def contains (threats : ThreatList) : Value → Bool
  | .text address => threats.isKnown (.text address)
  | _ => false

/-- The warning about an address in normal form. -/
def warning (address : String) : Scoring.Warning where
  level := .critical
  message := s!"CRITICAL WARNING: This contract address ({address}) is known to be malicious. " ++
    "Never interact with or send funds to this contract."
  address := some address
  category := some .deceptiveEvents

/-- The warning about a listed address. -/
def warningFor (threats : ThreatList) (address : Value) : Except Failure Scoring.Warning :=
  match address with
  | .text text =>
    if threats.isKnown address then .ok (warning (Text.lower text)) else .error (.unlisted text)
  | _ => do throw (.unlisted (← address.written))

end ThreatList

end ContractRisk
