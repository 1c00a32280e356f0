/-
**JSON texts.**

`Json.read` turns a text into a value or names the first thing that is wrong with it. Beyond the
standard the reader knows `NaN`, `Infinity` and `-Infinity`; of two fields of one name the later
value counts, at the place of the first. Whole numbers are kept apart from floating ones and may
have at most `Number.maxDigits` digits. Every bracket that is open takes up room, and how much of it
there is depends on the caller: `room` counts the brackets that can be open at once.

The recursion is bounded by the length of the text: a value takes a character, and so does a comma.
-/

import ContractRisk.Value
import ContractRisk.Decimal.Reading
import ContractRisk.Text.Decoding

namespace ContractRisk.Json

/-- What is wrong with a JSON text. -/
inductive Fault where
  | noValue
  | trailing
  | noComma
  | noColon
  | noName
  | unterminated
  | badEscape
  | badCodeEscape
  | control
  | byteOrderMark
  | longNumber (digits : Nat)
  /-- An array or an object for which there is no room. -/
  | tooDeep (word : String)

/-- The wording of a fault. -/
def Fault.message : Fault → String
  | noValue => "Expecting value"
  | trailing => "Extra data"
  | noComma => "Expecting ',' delimiter"
  | noColon => "Expecting ':' delimiter"
  | noName => "Expecting property name enclosed in double quotes"
  | unterminated => "Unterminated string starting at"
  | badEscape => "Invalid \\escape"
  | badCodeEscape => "Invalid \\uXXXX escape"
  | control => "Invalid control character at"
  | byteOrderMark => "Unexpected UTF-8 BOM (decode using utf-8-sig)"
  | longNumber digits =>
    s!"Exceeds the limit ({Number.maxDigits} digits) for integer string conversion: value has " ++
      s!"{digits} digits; use sys.set_int_max_str_digits() to increase the limit"
  | tooDeep word =>
    s!"maximum recursion depth exceeded while decoding a JSON {word} from a unicode string"

/-- White space between the tokens. -/
def isGap (c : Char) : Bool := c = ' ' || c = '\t' || c = '\n' || c = '\r'

/-- A text without the white space in front. -/
def skipGap (chars : List Char) : List Char := chars.dropWhile isGap

/-- The value of a hexadecimal digit. -/
def hexValue? (c : Char) : Option Nat :=
  if c.isDigit then some (c.toNat - 48)
  else if 'a' ≤ c && c ≤ 'f' then some (c.toNat - 87)
  else if 'A' ≤ c && c ≤ 'F' then some (c.toNat - 55)
  else none

/-- The code that four hexadecimal digits write, and the rest, which must not be empty. -/
def code? : List Char → Option (Nat × List Char)
  | a :: b :: c :: d :: next :: rest => do
    let a ← hexValue? a
    let b ← hexValue? b
    let c ← hexValue? c
    let d ← hexValue? d
    return (((a * 16 + b) * 16 + c) * 16 + d, next :: rest)
  | _ => none

/-- The character that a code escape writes, two surrogate escapes being one character. -/
def codeEscape (chars : List Char) : Except Fault (Char × List Char) :=
  match code? chars with
  | none => .error .badCodeEscape
  | some (high, rest) =>
    if 0xD800 ≤ high && high < 0xDC00 && 6 < rest.length then
      match rest with
      | '\\' :: 'u' :: next =>
        match code? next with
        | none => .error .badCodeEscape
        | some (low, after) =>
          if 0xDC00 ≤ low && low < 0xE000 then
            .ok (Text.charAt (0x10000 + (high - 0xD800) * 1024 + (low - 0xDC00)), after)
          else .ok (Text.charAt high, rest)
      | _ => .ok (Text.charAt high, rest)
    else .ok (Text.charAt high, rest)

/-- The character that an escape writes, the backslash before it being read. -/
def escaped : List Char → Except Fault (Char × List Char)
  | [] => .error .unterminated
  | 'u' :: rest => codeEscape rest
  | c :: rest =>
    match c with
    | '"' => .ok ('"', rest)
    | '\\' => .ok ('\\', rest)
    | '/' => .ok ('/', rest)
    | 'b' => .ok (Char.ofNat 8, rest)
    | 'f' => .ok (Char.ofNat 12, rest)
    | 'n' => .ok ('\n', rest)
    | 'r' => .ok ('\r', rest)
    | 't' => .ok ('\t', rest)
    | _ => .error .badEscape

/-- The rest of a string whose opening quote is read; `done` holds its characters in reverse. -/
def string (fuel : Nat) (done : List Char) (chars : List Char) :
    Except Fault (String × List Char) :=
  match fuel, chars with
  | _, [] => .error .unterminated
  | _, '"' :: rest => .ok (String.ofList done.reverse, rest)
  | 0, _ => .error .unterminated
  | fuel + 1, '\\' :: rest =>
    match escaped rest with
    | .error fault => .error fault
    | .ok (c, rest) => string fuel (c :: done) rest
  | fuel + 1, c :: rest =>
    if c.toNat < 32 then .error .control else string fuel (c :: done) rest

/-- The fraction behind a whole part: a point and at least one digit. -/
def fraction : List Char → List Char × List Char
  | '.' :: c :: rest =>
    if c.isDigit then
      ('.' :: c :: rest.takeWhile Char.isDigit, rest.dropWhile Char.isDigit)
    else ([], '.' :: c :: rest)
  | chars => ([], chars)

/-- The exponent behind a number: its mark, an optional sign and at least one digit. -/
def exponent (chars : List Char) : List Char × List Char :=
  match chars with
  | mark :: rest =>
    if mark = 'e' || mark = 'E' then
      let (sign, digits) := match rest with
        | '+' :: more => (['+'], more)
        | '-' :: more => (['-'], more)
        | more => ([], more)
      if (digits.takeWhile Char.isDigit).isEmpty then ([], chars)
      else (mark :: sign ++ digits.takeWhile Char.isDigit, digits.dropWhile Char.isDigit)
    else ([], chars)
  | [] => ([], [])

/-- The whole part of a number: a zero, or digits that do not begin with one. -/
def wholePart : List Char → List Char × List Char
  | '0' :: rest => (['0'], rest)
  | chars => (chars.takeWhile Char.isDigit, chars.dropWhile Char.isDigit)

/-- A number. -/
def number (chars : List Char) : Except Fault (Value × List Char) :=
  let (minus, unsigned) := match chars with
    | '-' :: rest => (true, rest)
    | rest => (false, rest)
  let (whole, rest) := wholePart unsigned
  if whole.isEmpty then .error .noValue
  else
    let (frac, rest) := fraction rest
    let (exp, rest) := exponent rest
    if frac.isEmpty && exp.isEmpty then
      if Number.maxDigits < whole.length then .error (.longNumber whole.length)
      else
        let n : Int := Decimal.digitsValue whole
        .ok (.int (if minus then -n else n), rest)
    else
      match Decimal.read? (whole ++ frac ++ exp) with
      | some x => .ok (.float (if minus then -x else x), rest)
      | none => .error .noValue

/-- The words that stand for values. -/
def words : List (String × Value) := [
  ("null", .null), ("true", .bool true), ("false", .bool false),
  ("NaN", .float (0.0 / 0.0)), ("Infinity", .float (1.0 / 0.0)),
  ("-Infinity", .float (-1.0 / 0.0))]

/-- A word or a number. -/
def scalar (chars : List Char) : Except Fault (Value × List Char) :=
  match words.find? fun word => word.1.toList.isPrefixOf chars with
  | some (word, value) => .ok (value, chars.drop word.length)
  | none => number chars

mutual

/-- A value, with room for so many brackets. -/
def value (fuel room : Nat) (chars : List Char) : Except Fault (Value × List Char) :=
  match fuel, chars with
  | fuel + 1, '"' :: rest =>
    (string fuel [] rest).map fun (text, rest) => (.text text, rest)
  | fuel + 1, '[' :: rest =>
    if room = 0 then .error (.tooDeep "array")
    else match skipGap rest with
      | ']' :: rest => .ok (.list [], rest)
      | rest => items fuel (room - 1) [] rest
  | fuel + 1, '\x7b' :: rest =>
    if room = 0 then .error (.tooDeep "object")
    else match skipGap rest with
      | '\x7d' :: rest => .ok (.record [], rest)
      | rest => fields fuel (room - 1) [] rest
  | _, chars => scalar chars

/-- The items of a list from one on; `done` holds those before it in reverse. -/
def items (fuel room : Nat) (done : List Value) (chars : List Char) :
    Except Fault (Value × List Char) :=
  match fuel with
  | 0 => .error .noValue
  | fuel + 1 =>
    match value fuel room chars with
    | .error fault => .error fault
    | .ok (item, rest) =>
      match skipGap rest with
      | ']' :: rest => .ok (.list (item :: done).reverse, rest)
      | ',' :: rest => items fuel room (item :: done) (skipGap rest)
      | _ => .error .noComma

/-- The fields of a record from one on; `done` holds those before it. -/
def fields (fuel room : Nat) (done : List (String × Value)) (chars : List Char) :
    Except Fault (Value × List Char) :=
  match fuel, chars with
  | fuel + 1, '"' :: rest =>
    match string fuel [] rest with
    | .error fault => .error fault
    | .ok (name, rest) =>
      match skipGap rest with
      | ':' :: rest =>
        match value fuel room (skipGap rest) with
        | .error fault => .error fault
        | .ok (item, rest) =>
          let done := setField done name item
          match skipGap rest with
          | '\x7d' :: rest => .ok (.record done, rest)
          | ',' :: rest => fields fuel room done (skipGap rest)
          | _ => .error .noComma
      | _ => .error .noColon
  | _, _ => .error .noName

end

/-- The value that the characters of a JSON text write. -/
def readChars (room : Nat) (chars : List Char) : Except Fault Value :=
  match value (2 * chars.length + 2) room (skipGap chars) with
  | .error fault => .error fault
  | .ok (result, rest) => if (skipGap rest).isEmpty then .ok result else .error .trailing

/-- The value that a JSON text writes. -/
def read (room : Nat) (text : String) : Except Fault Value :=
  match text.toList with
  | c :: rest => if c.toNat = 0xFEFF then .error .byteOrderMark else readChars room (c :: rest)
  | [] => .error .noValue

end ContractRisk.Json
