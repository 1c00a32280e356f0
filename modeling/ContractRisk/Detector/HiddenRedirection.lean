/-
**Hidden redirections**: value that goes to addresses baked into the code.

`signals` walks the instructions from front to back and notes a call or a self-destruction whose
target was pushed as an address shortly before, a pushed address that looks made up, and a jump
behind a push. Each of the first three counts, the made-up addresses once each (`literals`); more
than one sort of them makes all weigh more. A function that sets a recipient counts as well.
-/

import ContractRisk.Bytecode.Instruction
import ContractRisk.Detector.Names
import ContractRisk.Finding

namespace ContractRisk.Detector.HiddenRedirection

open Abi

variable {α : Type}

/-- How many instructions before a call its target is looked for. -/
def lookback : Nat := 8

/-- Digits that mark an address as made up. -/
def markers : List String := [
  "000000000000000000000000000000000000dead", "0000000000000000000000000000000000000000",
  "deadbeef", "cafebabe", "1337"]

/-- Words in the names of functions that set a recipient. -/
def setterWords : List String := [
  "setfeereceiver", "setfeewallet", "settaxwallet", "setmarketingwallet", "setdevwallet",
  "settreasury", "setrouter", "updaterecipient", "setbeneficiary", "redirect", "forward",
  "setcollector"]

/-- The name of a call opcode. -/
def callName? (opcode : UInt8) : Option String :=
  if opcode = 0xf1 then some "CALL"
  else if opcode = 0xf2 then some "CALLCODE"
  else if opcode = 0xf4 then some "DELEGATECALL"
  else if opcode = 0xfa then some "STATICCALL"
  else none

/-- The opcode of self-destruction. -/
def destructOpcode : UInt8 := 0xff

/-- The opcode of a conditional jump. -/
def jumpOpcode : UInt8 := 0x57

/-- A place in the code that a redirection is told by. -/
inductive Signal where
  | call (position : Nat) (name : String) (target : String)
  | destruct (position : Nat) (target : String)
  | literal (position : Nat) (address : String)
  | jump
deriving DecidableEq

/-- Whether an address looks made up. -/
def isMadeUp (address : String) : Bool := markers.any (mentions address ·)

/-- The address pushed nearest before a place; `before` holds the instructions there in reverse. -/
def target? (before : List Instruction) : Option String :=
  (nearestPush? before lookback).bind (·.pushedAddress?)

/-- What an instruction signals behind others, which `before` holds in reverse. -/
def signalAt? (before : List Instruction) (instruction : Instruction) : Option Signal :=
  match instruction.pushedAddress? with
  | some address =>
    if isMadeUp address then some (.literal instruction.position address) else none
  | none =>
    match callName? instruction.opcode with
    | some name => (target? before).map (.call instruction.position name)
    | none =>
      if instruction.opcode = destructOpcode then
        (target? before).map (.destruct instruction.position)
      else if instruction.opcode = jumpOpcode && before.head?.any (·.isPush) then some .jump
      else none

/-- The signals of instructions behind others, which `before` holds in reverse. -/
def signalsFrom (before : List Instruction) : List Instruction → List Signal
  | [] => []
  | instruction :: rest =>
    (signalAt? before instruction).toList ++ signalsFrom (instruction :: before) rest

/-- The signals of a code. -/
def signals (code : List UInt8) : List Signal := signalsFrom [] (sweep code)

/-- What is known about a call, self-destruction or literal. -/
structure Place where
  position : Nat
  address : String
deriving DecidableEq

/-- The calls among signals, each with its name. -/
def calls (found : List Signal) : List (String × Place) :=
  found.filterMap fun
    | .call position name target => some (name, ⟨position, target⟩)
    | _ => none

/-- The self-destructions among signals. -/
def destructs (found : List Signal) : List Place :=
  found.filterMap fun
    | .destruct position target => some ⟨position, target⟩
    | _ => none

/-- Places less those whose address is among `seen` or that of an earlier place. -/
def firstPlaces (seen : List String) : List Place → List Place
  | [] => []
  | place :: rest =>
    if seen.contains place.address then firstPlaces seen rest
    else place :: firstPlaces (place.address :: seen) rest

/-- The made-up addresses among signals, each at its first place. -/
def literals (found : List Signal) : List Place :=
  firstPlaces [] (found.filterMap fun
    | .literal position address => some ⟨position, address⟩
    | _ => none)

/-- The count of jumps among signals. -/
def jumps (found : List Signal) : Nat := found.countP (· = .jump)

/-- The functions of an interface that set a recipient. -/
def setters (entries : List Entry) : List Entry :=
  (functions entries).filter fun function =>
    !function.isReadOnly && function.inputTypes.contains "address" &&
      !(mentioned function.title setterWords).isEmpty

/-! ### Evidence -/

/-- What a call is charged with. -/
def callLine (call : String × Place) : String :=
  s!"Hardcoded {call.1} target at position {call.2.position} (address: {call.2.address})"

/-- What a self-destruction is charged with. -/
def destructLine (place : Place) : String :=
  s!"SELFDESTRUCT to hardcoded beneficiary at position {place.position} " ++
    s!"(address: {place.address})"

/-- What a made-up address is charged with. -/
def literalLine (place : Place) : String :=
  s!"Suspicious address literal at position {place.position} (address: {place.address})"

/-- What a setter is charged with. -/
def setterLine (function : Entry) : String :=
  s!"Function '{function.title}' can redirect funds to an arbitrary address"

/-- The lines of evidence in signals and an interface. -/
def evidence (found : List Signal) (entries : List Entry) : List String :=
  (calls found).map callLine ++ (destructs found).map destructLine ++
    (literals found).map literalLine ++ (setters entries).map setterLine

/-! ### Observation -/

/-- How many of the three sorts of signals occur. -/
def sorts (found : List Signal) : Nat :=
  [(calls found).isEmpty, (destructs found).isEmpty, (literals found).isEmpty].countP (!·)

section

variable [Add α] [Mul α] [Div α] [LT α] [LE α] [DecidableLT α] [DecidableLE α] [OfScientific α]
  [NatCast α]

/-- The weight of the signals of a code. -/
def codeScore (found : List Signal) : α :=
  let weight : α :=
    0.3 * ((calls found).length : Nat) + 0.4 * ((destructs found).length : Nat) +
      0.1 * ((literals found).length : Nat)
  if 1 < sorts found then weight * 1.5 else weight

/-- The weight of the setters of an interface. -/
def setterScore (entries : List Entry) : α :=
  2.0 * 0.2 * ((setters entries).length : Nat) / (max 1 (functions entries).length : Nat)

/-- The weight of all signs, one at most. -/
def confidence (found : List Signal) (entries : List Entry) : α :=
  capped (codeScore found + setterScore entries)

/-- The severity at a confidence. -/
def severity (found : List Signal) (entries : List Entry) (confidence : α) : Severity :=
  if 0.6 ≤ confidence ∧ !(destructs found).isEmpty then .critical
  else if 0.5 ≤ confidence ∧ (2 < (calls found).length ∨ 2 ≤ (setters entries).length) then .high
  else if 0.4 ≤ confidence then .medium
  else .low

/-- What interface and code show. -/
def inspect (entries : List Entry) (code : List UInt8) : Inspection α :=
  if code.isEmpty && (functions entries).isEmpty then
    .skipped "empty_bytecode" [("bytecode_length", .count 0)]
  else
    let found := signals code
    let share : α := confidence found entries
    .observed {
      confidence := share
      evidence := evidence found entries
      severity := severity found entries share
      metadata := [
        ("bytecode_length", .count code.length),
        ("total_functions", .count (functions entries).length),
        ("hardcoded_call_count", .count (calls found).length),
        ("selfdestruct_count", .count (destructs found).length),
        ("suspicious_address_count", .count (literals found).length),
        ("redirect_setter_count", .count (setters entries).length),
        ("jumpi_after_push_count", .count (jumps found))] }

end

end ContractRisk.Detector.HiddenRedirection
