/-
**Character classes given by ranges of code points.**

`inRanges` is membership in a table of closed intervals; the tables are data of the Unicode
standard and live beside this module.
-/

namespace ContractRisk.Text

/-- Membership of a code point in a table of closed intervals. -/
def inRanges (ranges : Array (Nat × Nat)) (code : Nat) : Bool :=
  ranges.any fun range => range.1 ≤ code && code ≤ range.2

end ContractRisk.Text
