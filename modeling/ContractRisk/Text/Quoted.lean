/-
**Quoted texts.**

`quote` writes a text between quotes so that its extent shows: between double quotes if it holds a
single quote and no double one, else between single quotes. The quote and the backslash are
escaped, and so is every character that is not printable, in the shortest of the forms `\xhh`,
`\uhhhh`, `\Uhhhhhhhh`. `quoteBytes` does the same for a byte string.
-/

import ContractRisk.Text.Range
import ContractRisk.Text.PrintTable

namespace ContractRisk.Text

/-- A character that stands for itself between quotes. -/
def isPrintable (c : Char) : Bool :=
  if c.toNat < 128 then 32 ≤ c.toNat && c.toNat < 127 else inRanges printRanges c.toNat

/-- A lower-case hexadecimal digit. -/
def hexDigit (n : Nat) : Char :=
  if n < 10 then Char.ofNat (48 + n) else Char.ofNat (87 + n)

/-- The last `width` hexadecimal digits of a number. -/
def hexDigits : Nat → Nat → List Char
  | 0, _ => []
  | width + 1, n => hexDigits width (n / 16) ++ [hexDigit (n % 16)]

/-- The quote that encloses a text. -/
def quoteFor (chars : List Char) : Char :=
  if chars.contains (Char.ofNat 39) && !chars.contains '"' then '"' else Char.ofNat 39

/-- A character as it stands between quotes. -/
def escape (quote : Char) (c : Char) : List Char :=
  if c = quote || c = '\\' then ['\\', c]
  else if c = '\t' then ['\\', 't']
  else if c = '\n' then ['\\', 'n']
  else if c = '\r' then ['\\', 'r']
  else if isPrintable c then [c]
  else if c.toNat < 0x100 then '\\' :: 'x' :: hexDigits 2 c.toNat
  else if c.toNat < 0x10000 then '\\' :: 'u' :: hexDigits 4 c.toNat
  else '\\' :: 'U' :: hexDigits 8 c.toNat

/-- A text between quotes. -/
def quote (text : String) : String :=
  let mark := quoteFor text.toList
  String.ofList (mark :: text.toList.flatMap (escape mark) ++ [mark])

/-- A byte as it stands between quotes. -/
def escapeByte (quote : Char) (byte : UInt8) : List Char :=
  if byte.toNat < 128 then escape quote (Char.ofNat byte.toNat)
  else '\\' :: 'x' :: hexDigits 2 byte.toNat

/-- A byte string between quotes, marked by a `b` in front. -/
def quoteBytes (bytes : List UInt8) : String :=
  let mark := quoteFor (bytes.map fun byte => Char.ofNat byte.toNat)
  String.ofList ('b' :: mark :: bytes.flatMap (escapeByte mark) ++ [mark])

end ContractRisk.Text
