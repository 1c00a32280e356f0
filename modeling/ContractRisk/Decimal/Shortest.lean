/-
**The shortest decimal that reads back as a given double.**

A double is identified by every decimal that lies nearer to it than to its neighbours. On the grid
of decimals with `n` digits only the two neighbours of the double can qualify, so `shortest?` tries
`n = 1, 2, …` and takes the first grid with a hit; of two hits the nearer one, and the even one of
two equally near. `Layout` says how the digits are set out.
-/

import ContractRisk.Decimal.Rounding

namespace ContractRisk.Decimal

/-- The decimal `digits * 10 ^ exponent`. -/
structure Scientific where
  digits : Nat
  exponent : Int

/-- The exponent of the leading decimal digit of `num / den`, both positive. -/
def leadingExponent (num den : Nat) : Int :=
  if den ≤ num then
    (Nat.toDigits 10 (num / den)).length - 1
  else
    let places := (Nat.toDigits 10 (den / num)).length
    if den ≤ num * Nat.pow 10 (places - 1) then -(places - 1 : Int) else -(places : Int)

/-- The grid decimal with step `10 ^ step` that identifies a positive double, if one does. -/
def onGrid? (b : Binary) (step : Int) : Option Scientific :=
  let scaled : Binary := ⟨4 * b.mantissa, b.exponent - 2⟩
  let unit := (⟨1, b.exponent - 2⟩ : Binary).quotient.1 * Nat.pow 10 (-step).toNat
  let den := scaled.quotient.2 * Nat.pow 10 step.toNat
  let num := scaled.quotient.1 * Nat.pow 10 (-step).toNat
  let low := num - (if b.mantissa = Nat.pow 2 52 && b.exponent > -1074 then unit else 2 * unit)
  let high := num + 2 * unit
  let closed := b.mantissa % 2 = 0
  let inside (n : Nat) : Bool :=
    if closed then low ≤ n * den && n * den ≤ high else low < n * den && n * den < high
  let below := num / den
  let above := below + 1
  match inside below, inside above with
  | false, false => none
  | true, false => some ⟨below, step⟩
  | false, true => some ⟨above, step⟩
  | true, true =>
    let down := num - below * den
    let up := above * den - num
    some ⟨if down < up || (down = up && below % 2 = 0) then below else above, step⟩

/-- The decimal with fewest digits that identifies a positive double. -/
def shortest? (b : Binary) : Option Scientific :=
  let lead := leadingExponent b.quotient.1 b.quotient.2
  (List.range 17).findSome? fun (places : Nat) => onGrid? b (lead - places)

/-- Where positional notation is used and how an exponent is written. -/
structure Layout where
  /-- The least exponent of a leading digit that is written positionally. -/
  lowest : Int
  /-- The first exponent above it that is not. -/
  limit : Int
  /-- The least count of digits of an exponent. -/
  exponentDigits : Nat

/-- Numbers are positional from `0.0001` to below `10 ^ 16`; exponents have a sign and two digits. -/
def layout : Layout := ⟨-4, 16, 2⟩

/-- A digit string without the zeros at its end; one digit is kept. -/
def dropTrailingZeros (digits : List Char) : List Char :=
  match (digits.reverse.dropWhile (· = '0')).reverse with
  | [] => ['0']
  | kept => kept

/-- Digits with a leading exponent, set out by a layout. -/
def Layout.write (style : Layout) (digits : List Char) (lead : Int) : List Char :=
  if style.lowest ≤ lead && lead < style.limit then
    if lead < 0 then
      '0' :: '.' :: List.replicate (-lead - 1).toNat '0' ++ digits
    else
      let whole := lead.toNat + 1
      if digits.length ≤ whole then
        digits ++ List.replicate (whole - digits.length) '0' ++ ['.', '0']
      else
        digits.take whole ++ '.' :: digits.drop whole
  else
    let fraction := match digits.drop 1 with
      | [] => []
      | rest => '.' :: rest
    digits.take 1 ++ fraction ++ 'e' :: (if lead < 0 then '-' else '+') ::
      (padded style.exponentDigits lead.natAbs).toList

/-- A decimal set out by a layout. -/
def Scientific.write (style : Layout) (s : Scientific) : String :=
  let digits := Nat.toDigits 10 s.digits
  String.ofList (style.write (dropTrailingZeros digits) (s.exponent + digits.length - 1))

/-- The text of a double: the shortest decimal that reads back as it. -/
def floatText (x : Float) : String :=
  if x.isNaN then "nan"
  else
    let sign := if signed x then "-" else ""
    if x.isInf then sign ++ "inf"
    else
      let b := Binary.ofFloat x
      match if b.mantissa = 0 then none else shortest? b with
      | none => sign ++ "0.0"
      | some s => sign ++ s.write layout

instance natCastFloat : NatCast Float := ⟨Float.ofNat⟩

instance : Rendered Float where
  negative := signed
  magnitude x := (Binary.ofFloat x).value
  text := floatText

end ContractRisk.Decimal
