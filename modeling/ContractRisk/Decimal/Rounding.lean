/-
**Rounding to whole numbers and to a fixed count of places**, a half going to the even neighbour.

`roundQuotient` rounds a quotient of naturals; `fixedPlaces` writes a magnitude with a given count
of digits after the point. `Rendered` is what a kind of number has to offer to be written so.
-/

import ContractRisk.Decimal.Binary

namespace ContractRisk.Decimal

/-- The whole number nearest to `num / den`, the even one of two. -/
def roundQuotient (num den : Nat) : Nat :=
  let whole := num / den
  let rest := 2 * (num % den)
  if rest < den || (rest = den && whole % 2 = 0) then whole else whole + 1

/-- A natural number with at least `width` digits. -/
def padded (width n : Nat) : String :=
  let digits := Nat.toDigits 10 n
  String.ofList (List.replicate (width - digits.length) '0' ++ digits)

/-- A magnitude with `places` digits after the point, rounded from its exact value. -/
def fixedPlaces (places : Nat) (magnitude : Rat) : String :=
  let scaled := roundQuotient (magnitude.num.toNat * Nat.pow 10 places) magnitude.den
  let whole := toString (scaled / Nat.pow 10 places)
  if places = 0 then whole else whole ++ "." ++ padded places (scaled % Nat.pow 10 places)

/-- Numbers that can be written in decimal. -/
class Rendered (α : Type) where
  /-- Whether the number is written with a minus sign. -/
  negative : α → Bool
  /-- The number without its sign. -/
  magnitude : α → Rat
  /-- The text that identifies the number. -/
  text : α → String

/-- A number with `places` digits after the point. -/
def fixed {α : Type} [Rendered α] (places : Nat) (x : α) : String :=
  (if Rendered.negative x then "-" else "") ++ fixedPlaces places (Rendered.magnitude x)

/-- The whole number nearest to a number, the even one of two. -/
def nearest {α : Type} [Rendered α] (x : α) : Int :=
  let m := Rendered.magnitude x
  let rounded : Int := roundQuotient m.num.toNat m.den
  if Rendered.negative x then -rounded else rounded

end ContractRisk.Decimal
