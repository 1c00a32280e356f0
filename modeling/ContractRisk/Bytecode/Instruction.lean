/-
**The instruction sweep.**

`sweep` splits a code into instructions from front to back. The opcodes `0x60` to `0x7f` push the one
to thirty-two bytes that follow them, so these bytes are data of the instruction and never opcodes;
the last instruction may have fewer than it asks for. `precedingPush?` looks backwards from a place
for a pushed address.
-/

import ContractRisk.Bytecode
import ContractRisk.Failure

namespace ContractRisk

/-- An opcode with its place in the code and the bytes it pushes. -/
structure Instruction where
  position : Nat
  opcode : UInt8
  immediate : List UInt8
deriving DecidableEq

namespace Instruction

/-- Whether an opcode pushes the bytes that follow it. -/
def pushes (opcode : UInt8) : Bool := 0x60 ≤ opcode && opcode ≤ 0x7f

/-- The count of bytes that an opcode pushes. -/
def width (opcode : UInt8) : Nat := if pushes opcode then opcode.toNat - 0x60 + 1 else 0

/-- Whether an instruction pushes bytes. -/
def isPush (instruction : Instruction) : Bool := pushes instruction.opcode

/-- Whether an instruction pushes a whole address. -/
def isAddressPush (instruction : Instruction) : Bool :=
  instruction.opcode = 0x73 && instruction.immediate.length = 20

/-- The address that an instruction pushes. -/
def pushedAddress? (instruction : Instruction) : Option String :=
  if instruction.isAddressPush then some (Bytecode.write instruction.immediate) else none

/-- The bytes of an instruction. -/
def bytes (instruction : Instruction) : List UInt8 :=
  instruction.opcode :: instruction.immediate

end Instruction

/-- The instructions of a code of which the first byte stands at `position`. -/
def sweepFrom (position : Nat) : List UInt8 → List Instruction
  | [] => []
  | opcode :: rest =>
    let width := Instruction.width opcode
    ⟨position, opcode, rest.take width⟩ :: sweepFrom (position + 1 + width) (rest.drop width)
termination_by code => code.length
decreasing_by simp only [List.length_drop, List.length_cons]; omega

/-- The instructions of a code. -/
def sweep (code : List UInt8) : List Instruction := sweepFrom 0 code

/-- Whether one of some opcodes occurs among instructions. -/
def containsOpcode (instructions : List Instruction) (opcodes : List UInt8) : Bool :=
  instructions.any fun instruction => opcodes.contains instruction.opcode

/-- The nearest push of an address among the last `lookback` instructions before a place; `before`
holds them in reverse. -/
def nearestPush? (before : List Instruction) (lookback : Nat) : Option Instruction :=
  (before.take lookback).find? (·.isAddressPush)

/-- The nearest push of an address before the instruction at `index`, `steps` instructions back at most.
The search takes one step at a time and ends at the beginning of the instructions; it fails where a
step leads to no instruction. -/
def searchBack (instructions : List Instruction) : Int → Nat → Except Failure (Option Instruction)
  | _, 0 => .ok none
  | index, steps + 1 =>
    if index - 1 < 0 then .ok none
    else match instructions[(index - 1).toNat]? with
      | none => .error (.misuse .indexOutOfRange)
      | some candidate =>
        if candidate.isAddressPush then .ok (some candidate)
        else searchBack instructions (index - 1) steps

/-- The nearest push of an address before the instruction at `index`, `lookback` instructions back at
most. -/
def precedingPush? (instructions : List Instruction) (index lookback : Int) :
    Except Failure (Option Instruction) :=
  searchBack instructions index lookback.toNat

end ContractRisk
