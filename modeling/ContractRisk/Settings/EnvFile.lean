/-
**Files of environment variables.**

A file is a sequence of bindings `NAME=value`, one a line, with blank lines and comments between
them. A value stands bare up to the end of the line or a comment, in single quotes, in which only the
quote and the backslash are escaped, or in double quotes with escapes for controls as well; a quoted
value may span lines. A line that does not fit is skipped. `EnvFile.read` gives each name with the
value of its last binding; a name without a value is unset.
-/

import ContractRisk.Text.Blank

namespace ContractRisk.EnvFile

open Text

/-- The end of a line. -/
def isBreak (c : Char) : Bool := c = '\n' || c = '\r'

/-- White space within a line. -/
def isGap (c : Char) : Bool := isBlank c && !isBreak c

/-- A text with one kind of line break only. -/
def withOneBreak : List Char → List Char
  | '\r' :: '\n' :: rest => '\n' :: withOneBreak rest
  | '\r' :: rest => '\n' :: withOneBreak rest
  | c :: rest => c :: withOneBreak rest
  | [] => []

/-! ### Quoted values -/

/-- The text in quotes up to the first quote that no backslash precedes, and what follows. -/
def untilQuote? (quote : Char) : List Char → Option (List Char × List Char)
  | [] => none
  | [c] => if c = quote then some ([], []) else none
  | c :: d :: rest =>
    if c = quote then some ([], d :: rest)
    else if c = '\\' && d = quote then
      (untilQuote? quote rest).map fun (text, after) => (c :: d :: text, after)
    else (untilQuote? quote (d :: rest)).map fun (text, after) => (c :: text, after)

/-- The text in quotes up to the last quote, and what follows. -/
def untilLastQuote? (quote : Char) (chars : List Char) : Option (List Char × List Char) :=
  let back := chars.reverse
  match back.dropWhile (· ≠ quote) with
  | [] => none
  | _ :: before => some (before.reverse, (back.takeWhile (· ≠ quote)).reverse)

/-- The text after an opening quote up to the closing one, and what follows. If every quote has a
backslash before it, the last one closes. -/
def quoted? (quote : Char) (chars : List Char) : Option (List Char × List Char) :=
  match untilQuote? quote chars with
  | some found => some found
  | none => untilLastQuote? quote chars

/-- The character that an escape stands for in single quotes. -/
def plainEscape? (c : Char) : Option Char :=
  if c = '\\' || c.toNat = 39 then some c else none

/-- The character that an escape stands for in double quotes. -/
def escape? (c : Char) : Option Char :=
  match c with
  | 'a' => some (Char.ofNat 7)
  | 'b' => some (Char.ofNat 8)
  | 'f' => some (Char.ofNat 12)
  | 'n' => some '\n'
  | 'r' => some '\r'
  | 't' => some '\t'
  | 'v' => some (Char.ofNat 11)
  | '"' => some '"'
  | _ => plainEscape? c

/-- A text with its escapes replaced; a backslash that begins none is kept. -/
def unescape (escaped? : Char → Option Char) : List Char → List Char
  | '\\' :: c :: rest =>
    match escaped? c with
    | some d => d :: unescape escaped? rest
    | none => '\\' :: unescape escaped? (c :: rest)
  | c :: rest => c :: unescape escaped? rest
  | [] => []

/-! ### Bare values -/

/-- A line up to the blanks before a comment. -/
def withoutComment : List Char → List Char
  | [] => []
  | c :: rest =>
    if isBlank c && (rest.dropWhile isBlank).head? = some '#' then []
    else c :: withoutComment rest

/-- A bare value without its comment and the blanks at its end. -/
def bare (line : List Char) : String :=
  String.ofList ((withoutComment line).reverse.dropWhile isBlank).reverse

/-! ### Bindings -/

/-- The value at the beginning of a text, and what follows. -/
def value? (chars : List Char) : Option (String × List Char) :=
  match chars with
  | [] => some ("", [])
  | c :: rest =>
    if c.toNat = 39 then
      (quoted? c rest).map fun (text, after) => (String.ofList (unescape plainEscape? text), after)
    else if c = '"' then
      (quoted? c rest).map fun (text, after) => (String.ofList (unescape escape? text), after)
    else some (bare (chars.takeWhile (!isBreak ·)), chars.dropWhile (!isBreak ·))

/-- The name at the beginning of a text, and what follows; a comment has none. -/
def name? (chars : List Char) : Option (Option String × List Char) :=
  match chars with
  | '#' :: _ => some (none, chars)
  | c :: rest =>
    if c.toNat = 39 then
      let text := rest.takeWhile (·.toNat ≠ 39)
      match rest.drop text.length with
      | _ :: after => if text.isEmpty then none else some (some (String.ofList text), after)
      | [] => none
    else
      let text := chars.takeWhile fun d => d ≠ '=' && d ≠ '#' && !isBlank d
      if text.isEmpty then none else some (some (String.ofList text), chars.drop text.length)
  | [] => none

/-- What follows the word `export` and blanks, if they stand at the beginning. -/
def afterExport (chars : List Char) : List Char :=
  if "export".toList.isPrefixOf chars && (chars.drop 6).head?.any isGap then
    (chars.drop 6).dropWhile isGap
  else chars

/-- What follows the rest of a line on which nothing but a comment may stand. -/
def afterLine? (chars : List Char) : Option (List Char) :=
  let rest := chars.dropWhile isGap
  let rest := if rest.head? = some '#' then rest.dropWhile (!isBreak ·) else rest
  match rest with
  | [] => some []
  | c :: after => if isBreak c then some after else none

/-- What is bound on a line, and what follows; a name without a value binds none. -/
def binding? (chars : List Char) : Option (Option (String × Option String) × List Char) := do
  let (name, rest) ← name? (afterExport chars)
  let (value, rest) ← match rest.dropWhile isGap with
    | '=' :: after => (value? (after.dropWhile isGap)).map fun (text, rest) => (some text, rest)
    | rest => some (none, rest)
  let rest ← afterLine? rest
  return (name.map (·, value), rest)

/-- The place from which the rest of a line is skipped that does not fit. -/
def afterBroken (chars : List Char) : List Char :=
  (chars.dropWhile (!isBreak ·)).drop 1

/-- What remains of a line that does not fit, from the place at which it stops fitting. -/
def stuckAt (chars : List Char) : List Char :=
  match name? (afterExport chars) with
  | none => afterExport chars
  | some (_, rest) =>
    match rest.dropWhile isGap with
    | '=' :: after =>
      match value? (after.dropWhile isGap) with
      | none => after.dropWhile isGap
      | some (_, rest) => rest
    | rest => rest

/-- The bindings of a text, at most as many as `fuel` counts. -/
def bindings : Nat → List Char → List (String × Option String)
  | 0, _ => []
  | fuel + 1, chars =>
    match chars.dropWhile isBlank with
    | [] => []
    | text =>
      match binding? text with
      | some (found, rest) => found.toList ++ bindings fuel rest
      | none => bindings fuel (afterBroken (stuckAt text))

/-- The variables that a file sets: each name with the value of its last binding. -/
def read (text : String) : List (String × String) :=
  let chars := withOneBreak text.toList
  let found := bindings (chars.length + 1) chars
  let last := found.foldl (fun table (name, value) =>
    table.filter (·.1 ≠ name) ++ [(name, value)]) ([] : List (String × Option String))
  last.filterMap fun (name, value) => value.map (name, ·)

end ContractRisk.EnvFile
