/-
**A double as an exact number.**

`Binary.ofFloat` splits the magnitude of a finite double into `mantissa * 2 ^ exponent`, and
`Binary.value` is that number as a fraction, so that whatever is printed or compared is computed
exactly.
-/

namespace ContractRisk.Decimal

/-- The magnitude of a finite double: `mantissa * 2 ^ exponent`. -/
structure Binary where
  mantissa : Nat
  exponent : Int

/-- The magnitude of a finite double. -/
def Binary.ofFloat (x : Float) : Binary :=
  let bits := x.toBits.toNat
  let biased : Nat := bits / Nat.pow 2 52 % Nat.pow 2 11
  let fraction : Nat := bits % Nat.pow 2 52
  if biased = 0 then ⟨fraction, -1074⟩ else ⟨fraction + Nat.pow 2 52, (biased : Int) - 1075⟩

/-- Numerator and denominator of a binary magnitude, the latter a power of two. -/
def Binary.quotient (b : Binary) : Nat × Nat :=
  (b.mantissa * Nat.pow 2 b.exponent.toNat, Nat.pow 2 (-b.exponent).toNat)

/-- The number that a binary magnitude stands for. -/
def Binary.value (b : Binary) : Rat :=
  mkRat b.quotient.1 b.quotient.2

/-- The sign bit of a double, set also for `-0.0`. -/
def signed (x : Float) : Bool :=
  x.toBits.toNat / Nat.pow 2 63 = 1

/-- The number that a finite double stands for. -/
def exactly (x : Float) : Rat :=
  if signed x then -(Binary.ofFloat x).value else (Binary.ofFloat x).value

end ContractRisk.Decimal
