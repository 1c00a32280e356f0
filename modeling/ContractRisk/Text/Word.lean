/-
**Word characters**: letters, characters with a numeric value, and the underscore.
-/

import ContractRisk.Text.Range
import ContractRisk.Text.WordTable

namespace ContractRisk.Text

/-- A letter, a numeric character or an underscore. -/
def isWord (c : Char) : Bool :=
  if c.toNat < 128 then c.isAlphanum || c == '_' else inRanges wordRanges c.toNat

end ContractRisk.Text
