/-
**Reading a decimal text as a double.**

A decimal is an optional sign, digits with at most one point among or beside them, and an optional
exponent; `inf`, `infinity` and `nan` are read in any case. `read?` rounds the exact value to the
nearest double. `readLoose?` is the reader for texts written by people: blanks at the ends, digits
of all scripts and single underscores between digits are allowed.
-/

import ContractRisk.Text.Blank
import ContractRisk.Text.Digit

namespace ContractRisk.Decimal

open Text

/-- The double nearest to `digits * 10 ^ exponent`. -/
def ofScientific (digits : Nat) (exponent : Int) : Float :=
  let size : Int := (Nat.toDigits 10 digits).length + exponent
  if digits = 0 || size < -400 then 0.0
  else if size > 400 then 1.0 / 0.0
  else if exponent < 0 then Float.ofScientific digits true exponent.natAbs
  else Float.ofScientific digits false exponent.natAbs

/-- The number that a string of digits writes. -/
def digitsValue (digits : List Char) : Nat :=
  digits.foldl (fun value c => 10 * value + (c.toNat - 48)) 0

/-- The text after an optional sign, and whether the sign was a minus. -/
def splitSign : List Char → Bool × List Char
  | '-' :: rest => (true, rest)
  | '+' :: rest => (false, rest)
  | chars => (false, chars)

/-- The value of an exponent, digits with an optional sign. -/
def exponent? (chars : List Char) : Option Int :=
  let (minus, digits) := splitSign chars
  if digits.isEmpty || !digits.all Char.isDigit then none
  else some (if minus then -(digitsValue digits : Int) else digitsValue digits)

/-- The exponent behind a number: none written, or a mark and its digits. -/
def exponentAfter? : List Char → Option Int
  | [] => some 0
  | mark :: rest => if mark = 'e' || mark = 'E' then exponent? rest else none

/-- The magnitude that a text without sign writes. -/
def magnitude? (chars : List Char) : Option Float :=
  let word := chars.map Char.toLower
  if word = ['i', 'n', 'f'] || word = "infinity".toList then some (1.0 / 0.0)
  else if word = ['n', 'a', 'n'] then some (0.0 / 0.0)
  else
    let whole := chars.takeWhile Char.isDigit
    let (fraction, rest) := match chars.dropWhile Char.isDigit with
      | '.' :: rest => (rest.takeWhile Char.isDigit, rest.dropWhile Char.isDigit)
      | rest => ([], rest)
    if whole.isEmpty && fraction.isEmpty then none
    else (exponentAfter? rest).map fun exponent =>
      ofScientific (digitsValue (whole ++ fraction)) (exponent - fraction.length)

/-- The double that a decimal text writes. -/
def read? (chars : List Char) : Option Float :=
  let (minus, rest) := splitSign chars
  (magnitude? rest).map fun x => if minus then -x else x

/-- A text without its underscores, each of which stands between two digits. -/
def joinDigits? : List Char → Option (List Char)
  | [] => some []
  | '_' :: _ => none
  | c :: '_' :: d :: rest =>
    if c.isDigit && d.isDigit then (joinDigits? (d :: rest)).map (c :: ·) else none
  | c :: rest => (joinDigits? rest).map (c :: ·)

/-- The double that a text written by a person stands for. -/
def readLoose? (text : String) : Option Float :=
  (joinDigits? (trimBy isBlank (text.toList.map asciiDigit))).bind read?

end ContractRisk.Decimal
