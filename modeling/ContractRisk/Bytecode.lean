/-
**Contract code** as hexadecimal text and as bytes.

`Bytecode.write` is the canonical text: `0x` and two lower-case digits a byte. `Bytecode.canonical`
takes a text, with or without `0x` and in either case, or a byte string to that form, and refuses
whatever is not whole bytes of hexadecimal digits or is too long; `Bytecode.read` gives the bytes.
-/

import ContractRisk.Address

namespace ContractRisk

/-- Why a value is no contract code. -/
inductive CodeFault where
  | format
  | unsupported (kind : String)
  | tooLong
  | oddLength

namespace Bytecode

/-- The greatest length of a code text, its `0x` included. -/
def maxLength : Nat := 50000

/-- The wording of a fault. -/
def faultMessage : CodeFault → String
  | .format => "Invalid bytecode format"
  | .unsupported kind => s!"Unsupported bytecode type: {kind}"
  | .tooLong => s!"Bytecode exceeds {maxLength} hex characters"
  | .oddLength => "Bytecode has an odd number of hex digits"

/-- The digits of a byte. -/
def byteDigits (byte : UInt8) : List Char :=
  [Text.hexDigit (byte.toNat / 16), Text.hexDigit (byte.toNat % 16)]

/-- The digits of a byte string. -/
def digits (bytes : List UInt8) : List Char := bytes.flatMap byteDigits

/-- The canonical text of a code. -/
def write (bytes : List UInt8) : String := String.ofList ('0' :: 'x' :: digits bytes)

/-- The value of a hexadecimal digit; zero for any other character. -/
def digitValue (c : Char) : Nat :=
  if c.isDigit then c.toNat - 48 else if c.isUpper then c.toNat - 55 else c.toNat - 87

/-- The byte string that pairs of digits write. -/
def ofDigits : List Char → List UInt8
  | high :: low :: rest =>
    (16 * digitValue high + digitValue low).toUInt8 :: ofDigits rest
  | _ => []

/-- The digits of a code text, without its `0x`. -/
def bareDigits : List Char → List Char
  | '0' :: 'x' :: rest => rest
  | chars => chars

/-- The lower-case digits of a code given by its digits, unless there are too many or an odd count. -/
def checkDigits (chars : List Char) : Except CodeFault (List Char) :=
  if maxLength < chars.length + 2 then .error .tooLong
  else if chars.length % 2 = 1 then .error .oddLength
  else .ok (chars.map Char.toLower)

/-- The lower-case digits of a code. -/
def canonicalDigits : Value → Except CodeFault (List Char)
  | .bytes bytes => checkDigits (digits bytes)
  | .text s =>
    let chars := bareDigits s.toList
    if chars.all isHexDigit then checkDigits chars else .error .format
  | value => .error (.unsupported value.kind)

/-- The canonical text of a code. -/
def canonical (value : Value) : Except CodeFault String :=
  (canonicalDigits value).map fun digits => String.ofList ('0' :: 'x' :: digits)

/-- The bytes of a code. A byte string is taken as it is; no code is the empty one. -/
def read : Value → Except CodeFault (List UInt8)
  | .null => .ok []
  | .bytes bytes => .ok bytes
  | value => (canonicalDigits value).map ofDigits

end Bytecode

end ContractRisk
