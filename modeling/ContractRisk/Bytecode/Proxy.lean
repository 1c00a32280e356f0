/-
**Delegate-call proxies.**

A proxy is told by byte sequences that occur in its code. `Proxy.classify` lists the templates that
occur, in the order of the table; a code is a contract if it has any byte at all. `templateBytes`
reads a template from hexadecimal digits, with blanks allowed between bytes.
-/

import ContractRisk.Bytecode
import ContractRisk.Failure
import ContractRisk.Search

namespace ContractRisk.Proxy

/-- A byte sequence that marks a proxy. -/
structure Template where
  name : String
  bytes : List UInt8

/-- What a code is. -/
structure Classification where
  isContract : Bool
  isProxy : Bool
  size : Nat
  matched : List String
deriving DecidableEq

/-- White space between the bytes of a template. -/
def isGap (c : Char) : Bool := c.toNat = 32 || (9 ≤ c.toNat && c.toNat ≤ 13)

/-- The bytes that hexadecimal digits write; else the place of the first character that is not one.
`position` is the place of the first character. -/
def templateFrom (position : Nat) : List Char → Except Nat (List UInt8)
  | [] => .ok []
  | c :: rest =>
    if isGap c then templateFrom (position + 1) rest
    else if !isHexDigit c then .error position
    else match rest with
      | [] => .error (position + 1)
      | d :: rest =>
        if !isHexDigit d then .error (position + 1)
        else do
          let others ← templateFrom (position + 2) rest
          return (16 * Bytecode.digitValue c + Bytecode.digitValue d).toUInt8 :: others

/-- The bytes of a template; a character beyond ASCII is refused before any other. -/
def templateBytes (text : String) : Except Failure (List UInt8) :=
  match text.toList.findIdx? (128 ≤ ·.toNat) with
  | some position => .error (.misuse (.badHexDigit position))
  | none => (templateFrom 0 text.toList).mapError fun position => .misuse (.badHexDigit position)

/-- The templates of a table of names and digits. -/
def readTemplates (table : List (String × String)) : Except Failure (List Template) :=
  table.mapM fun (name, digits) => do return ⟨name, ← templateBytes digits⟩

/-- The proxies that are known by default: minimal proxies, storage slots of implementations, and the
older forwarders. -/
def knownTemplates : List Template := [
  ⟨"eip1167_runtime", [0x36, 0x3d, 0x3d, 0x37, 0x3d, 0x3d, 0x3d, 0x36, 0x3d, 0x73]⟩,
  ⟨"eip1167_creation", [
    0x3d, 0x60, 0x2d, 0x80, 0x60, 0x0a, 0x3d, 0x39, 0x81, 0xf3, 0x36, 0x3d, 0x3d, 0x37, 0x3d, 0x3d,
    0x3d, 0x36, 0x3d, 0x73]⟩,
  ⟨"eip1967_implementation_slot", [
    0x36, 0x08, 0x94, 0xa1, 0x3b, 0xa1, 0xa3, 0x21, 0x06, 0x67, 0xc8, 0x28, 0x49, 0x2d, 0xb9, 0x8d,
    0xca, 0x3e, 0x20, 0x76, 0xcc, 0x37, 0x35, 0xa9, 0x20, 0xa3, 0xca, 0x50, 0x5d, 0x38, 0x2b, 0xbc]⟩,
  ⟨"eip1822_proxiable_uuid", [
    0xc5, 0xf1, 0x6f, 0x0f, 0xcc, 0x63, 0x9f, 0xa4, 0x8a, 0x69, 0x47, 0x83, 0x6d, 0x98, 0x50, 0xf5,
    0x04, 0x79, 0x85, 0x23, 0xbf, 0x8c, 0x9a, 0x3a, 0x87, 0xd5, 0x87, 0x6c, 0xf6, 0x22, 0xbc, 0xf7]⟩,
  ⟨"delegate_forwarder", [0x3d, 0x3d, 0x3d, 0x3d, 0x36, 0x3d, 0x3d, 0x37, 0x36, 0x3d, 0x73]⟩]

/-- What the bytes of a code are. -/
def classifyBytes (templates : List Template) (code : List UInt8) : Classification :=
  let matched := (templates.filter fun template => occursIn template.bytes code).map (·.name)
  if code.isEmpty then ⟨false, false, 0, []⟩ else ⟨true, !matched.isEmpty, code.length, matched⟩

/-- What a code is. -/
def classify (templates : List Template) (code : Value) : Except Failure Classification :=
  ((Bytecode.read code).mapError .badCode).map (classifyBytes templates)

end ContractRisk.Proxy
