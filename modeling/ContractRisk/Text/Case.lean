/-
**Lower and upper case of a text**, by the full mappings of the Unicode standard.

`lower` maps character by character, except that a capital sigma becomes the final form when a
letter with case stands before it and none follows (`sigmaIsFinal`). `upper` may lengthen a text.
On ASCII both are the mappings of `Char`.
-/

import ContractRisk.Text.Range
import ContractRisk.Text.CaseTable

namespace ContractRisk.Text

/-- A character with case that decides the form of a neighbouring sigma. -/
def isCased (c : Char) : Bool :=
  if c.toNat < 128 then c.isAlpha else inRanges casedRanges c.toNat

/-- A character that is skipped in looking for such a neighbour. -/
def isCaseIgnorable (c : Char) : Bool :=
  if c.toNat < 128 then [39, 46, 58, 94, 96].contains c.toNat
  else inRanges ignorableRanges c.toNat

/-- Whether the nearest character that is not skipped has case. -/
def nextIsCased (chars : List Char) : Bool :=
  (chars.dropWhile isCaseIgnorable).head?.any isCased

/-- The rule for a capital sigma between `before`, read backwards, and `after`. -/
def sigmaIsFinal (before after : List Char) : Bool :=
  nextIsCased before && !nextIsCased after

/-- The lower case of one character between its neighbours. -/
def lowerAt (before : List Char) (c : Char) (after : List Char) : List Char :=
  if c.toNat < 128 then [c.toLower]
  else if c.toNat = 0x3A3 then [if sigmaIsFinal before after then 'ς' else 'σ']
  else if c.toNat = 0x130 then ['i', Char.ofNat 0x307]
  else [((mapRuns? lowerRuns c.toNat).map Char.ofNat).getD c]

/-- The lower case of a text whose preceding characters, read backwards, are `before`. -/
def lowerFrom (before : List Char) : List Char → List Char
  | [] => []
  | c :: after => lowerAt before c after ++ lowerFrom (c :: before) after

/-- The lower case of a text. -/
def lower (text : String) : String :=
  String.ofList (lowerFrom [] text.toList)

/-- The upper case of one character. -/
def upperChar (c : Char) : List Char :=
  if c.toNat < 128 then [c.toUpper]
  else match upperSequences.find? (·.1 = c.toNat) with
    | some (_, codes) => codes.map Char.ofNat
    | none => [((mapRuns? upperRuns c.toNat).map Char.ofNat).getD c]

/-- The upper case of a text. -/
def upper (text : String) : String :=
  String.ofList (text.toList.flatMap upperChar)

end ContractRisk.Text
