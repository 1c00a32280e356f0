/-
**Account addresses.**

An address is `0x` and forty hexadecimal digits in either case. `Address.normalize?` accepts exactly
those and writes the digits in lower case; `Address.checksum` sets the case of each letter by a bit of
the Keccak-256 digest of the normal form.
-/

import ContractRisk.Value
import ContractRisk.Text.Case
import ContractRisk.Address.Keccak

namespace ContractRisk

/-- A hexadecimal digit in either case. -/
def isHexDigit (c : Char) : Bool :=
  c.isDigit || ('a' ≤ c && c ≤ 'f') || ('A' ≤ c && c ≤ 'F')

namespace Address

/-- The count of digits of an address. -/
def digitCount : Nat := 40

/-- Whether characters are `0x` and forty hexadecimal digits. -/
def isWellFormed : List Char → Bool
  | '0' :: 'x' :: digits => digits.length = digitCount && digits.all isHexDigit
  | _ => false

/-- The address that a text writes, in lower case. -/
def ofText? (text : String) : Option String :=
  if isWellFormed text.toList then some (String.ofList (text.toList.map Char.toLower)) else none

/-- The address that a value is, in lower case; only a text can be one. -/
def normalize? : Value → Option String
  | .text s => ofText? s
  | _ => none

/-- A letter in upper case if its half byte of the digest has the high bit. -/
def withDigest (digit : Char) (nibble : Nat) : Char :=
  if 8 ≤ nibble then digit.toUpper else digit

/-- The address with the case of its letters set by the digest of its digits. -/
def checksum (address : String) : String :=
  let digits := (address.toList.drop 2).map Char.toLower
  let digest := Keccak.digest (digits.map fun c => c.toNat.toUInt8)
  let nibbles := digest.flatMap fun byte => [byte.toNat / 16, byte.toNat % 16]
  String.ofList ('0' :: 'x' :: List.zipWith withDigest digits nibbles)

/-- The checksummed form of the address that a value is. -/
def checksum? (value : Value) : Option String :=
  (normalize? value).map checksum

end Address

end ContractRisk
