/-
**Numbers that remember how they were written.**

A number is whole or floating. The two are compared by their exact values and mixed in sums by
rounding the whole one first; their texts differ (`600` and `600.0`). A comparison with a floating
number that is no number fails. Whole numbers of more than `maxDigits` digits are neither read nor
written.
-/

import ContractRisk.Decimal.Shortest

namespace ContractRisk

open Decimal

/-- A whole or floating number. -/
inductive Number where
  | int (n : Int)
  | float (x : Float)

namespace Number

/-- The nearest double. -/
def toFloat : Number → Float
  | int n => Float.ofInt n
  | float x => x

/-- The decimal text, with a point exactly if the number is floating. -/
def text : Number → String
  | int n => toString n
  | float x => floatText x

/-- The greatest count of digits of a whole number that is read or written. -/
def maxDigits : Nat := 4300

/-- The decimal text of a number that can be written. -/
def text? : Number → Option String
  | int n => if n.natAbs < Nat.pow 10 maxDigits then some (toString n) else none
  | float x => some (floatText x)

/-- The exact value of a number that is finite. -/
def rational? : Number → Option Rat
  | int n => some n
  | float x => if x.isFinite then some (exactly x) else none

/-- Order by exact value; false if one side is no number. -/
def atMost : Number → Number → Bool
  | int a, int b => a ≤ b
  | float a, float b => a ≤ b
  | a, b => match a.rational?, b.rational? with
    | some p, some q => p ≤ q
    | _, _ => a.toFloat ≤ b.toFloat

/-- Strict order by exact value; false if one side is no number. -/
def below : Number → Number → Bool
  | int a, int b => a < b
  | float a, float b => a < b
  | a, b => match a.rational?, b.rational? with
    | some p, some q => p < q
    | _, _ => a.toFloat < b.toFloat

/-- Equality of values, whichever way they are written. -/
def same (a b : Number) : Bool := a.atMost b && b.atMost a

/-- The sum, whole if both sides are. -/
def add : Number → Number → Number
  | int a, int b => int (a + b)
  | a, b => float (a.toFloat + b.toFloat)

/-- The difference, whole if both sides are. -/
def sub : Number → Number → Number
  | int a, int b => int (a - b)
  | a, b => float (a.toFloat - b.toFloat)

instance : LE Number := ⟨fun a b => a.atMost b = true⟩
instance : LT Number := ⟨fun a b => a.below b = true⟩
instance : DecidableLE Number := fun a b => inferInstanceAs (Decidable (a.atMost b = true))
instance : DecidableLT Number := fun a b => inferInstanceAs (Decidable (a.below b = true))
instance : Add Number := ⟨add⟩
instance : Sub Number := ⟨sub⟩
instance : NatCast Number := ⟨fun n => int n⟩
instance (n : Nat) : OfNat Number n := ⟨int n⟩

end Number

end ContractRisk
