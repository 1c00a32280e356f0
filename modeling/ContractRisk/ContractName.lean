/-
**Names and free text from outside.**

`contractName` accepts a name that is neither blank nor too long. `sanitize` removes markup from a
text: angle brackets, then every `javascript:`, then every fragment that begins like an event handler,
the letters `on`, a word and an equals sign, each in any letter case; the rest is trimmed.
-/

import ContractRisk.Failure
import ContractRisk.Text.Blank
import ContractRisk.Text.Word

namespace ContractRisk

open Text

/-- A trimmed contract name. -/
def contractName : Value → Except Failure String
  | .text s =>
    let name := trim s
    if name.isEmpty then .error (.refused .nameMissing)
    else if Refusal.maxNameLength < name.length then .error (.refused .nameTooLong)
    else .ok name
  | _ => .error (.refused .nameMissing)

namespace Markup

/-- Whether a character is a given ASCII letter in any case. Dotted and dotless forms count as `i`, a
long one as `s`. -/
def isLetter (letter c : Char) : Bool :=
  c.toLower = letter || (letter = 'i' && (c.toNat = 0x130 || c.toNat = 0x131)) ||
    (letter = 's' && c.toNat = 0x17F)

/-- What follows a word in any case at the front of a text. -/
def after? : (word : List Char) → List Char → Option (List Char)
  | [], rest => some rest
  | letter :: word, c :: rest => if isLetter letter c then after? word rest else none
  | _ :: _, [] => none

/-- What follows a script prefix at the front of a text. -/
def afterScript? (chars : List Char) : Option (List Char) :=
  after? "javascript:".toList chars

/-- What follows the start of an event handler at the front of a text. -/
def afterHandler? (chars : List Char) : Option (List Char) :=
  match after? "on".toList chars with
  | none => none
  | some rest =>
    if (rest.takeWhile isWord).isEmpty then none
    else match (rest.dropWhile isWord).dropWhile isBlank with
      | '=' :: rest => some rest
      | _ => none

/-- A text without the fragments that `after?` finds, from left to right. The first argument bounds
the count of steps. -/
def remove (after? : List Char → Option (List Char)) : Nat → List Char → List Char
  | 0, chars => chars
  | _ + 1, [] => []
  | steps + 1, c :: rest =>
    match after? (c :: rest) with
    | some left => remove after? steps left
    | none => c :: remove after? steps rest

end Markup

/-- The characters of a text without markup, not yet trimmed. -/
def stripMarkup (chars : List Char) : List Char :=
  let plain := chars.filter fun c => c ≠ '<' && c ≠ '>'
  let unscripted := Markup.remove Markup.afterScript? plain.length plain
  Markup.remove Markup.afterHandler? unscripted.length unscripted

/-- A text without markup. -/
def sanitize (text : String) : String :=
  String.ofList (trimBy isBlank (stripMarkup text.toList))

end ContractRisk
