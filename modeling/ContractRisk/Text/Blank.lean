/-
**Blank characters and trimming.**

A blank is a white-space character of the Unicode standard or one of the four ASCII information
separators. `trim` drops the blanks at both ends of a text.
-/

import ContractRisk.Text.Range

namespace ContractRisk.Text

/-- Code points of the white-space characters beyond ASCII. -/
def blankRanges : Array (Nat × Nat) := #[
  (0x85, 0x85), (0xA0, 0xA0), (0x1680, 0x1680), (0x2000, 0x200A), (0x2028, 0x2029),
  (0x202F, 0x202F), (0x205F, 0x205F), (0x3000, 0x3000)]

/-- White space, the ASCII information separators among it. -/
def isBlank (c : Char) : Bool :=
  if c.toNat < 128 then
    (9 ≤ c.toNat && c.toNat ≤ 13) || (28 ≤ c.toNat && c.toNat ≤ 32)
  else
    inRanges blankRanges c.toNat

/-- White space in the narrower sense, without the information separators. -/
def isSpace (c : Char) : Bool :=
  isBlank c && !(28 ≤ c.toNat && c.toNat ≤ 31)

/-- A text without the characters of a class at its two ends. -/
def trimBy (drop : Char → Bool) (chars : List Char) : List Char :=
  ((chars.dropWhile drop).reverse.dropWhile drop).reverse

/-- A text without the blanks at its two ends. -/
def trim (text : String) : String :=
  String.ofList (trimBy isBlank text.toList)

end ContractRisk.Text
