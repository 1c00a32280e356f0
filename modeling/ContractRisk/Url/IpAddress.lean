/-
**Numeric host addresses** of both generations.

`IpAddress.read?` accepts four decimal parts, or the colon forms of the longer addresses with their
zero run, their dotted tail and their scope. `isInternal` tells the addresses that lead to the same
machine or to a private network: the ranges set aside for that, less those that are reachable after
all. An address that wraps a shorter one counts as that one.
-/

namespace ContractRisk

/-- A numeric host address. -/
inductive IpAddress where
  | v4 (value : Nat)
  | v6 (value : Nat)
deriving DecidableEq

namespace IpAddress

/-! ### Reading -/

/-- The number that decimal digits write. -/
def decimal (digits : List Char) : Nat :=
  digits.foldl (fun value c => 10 * value + (c.toNat - 48)) 0

/-- One part of a dotted address: up to three digits, no zero in front, at most 255. -/
def octet? (digits : List Char) : Option Nat :=
  if digits.isEmpty || !digits.all Char.isDigit || 3 < digits.length then none
  else if 1 < digits.length && digits.head? = some '0' then none
  else if 255 < decimal digits then none
  else some (decimal digits)

/-- The parts of a text between occurrences of a separator. -/
def split (separator : Char) : List Char → List (List Char)
  | [] => [[]]
  | c :: rest =>
    if c = separator then [] :: split separator rest
    else match split separator rest with
      | part :: parts => (c :: part) :: parts
      | [] => [[c]]

/-- The value of a dotted address. -/
def dotted? (chars : List Char) : Option Nat :=
  match (split '.' chars).map octet? with
  | [some a, some b, some c, some d] => some (((a * 256 + b) * 256 + c) * 256 + d)
  | _ => none

/-- The value of a hexadecimal digit. -/
def hexValue? (c : Char) : Option Nat :=
  if c.isDigit then some (c.toNat - 48)
  else if 'a' ≤ c && c ≤ 'f' then some (c.toNat - 87)
  else if 'A' ≤ c && c ≤ 'F' then some (c.toNat - 55)
  else none

/-- One group of a colon address: one to four hexadecimal digits. -/
def group? (digits : List Char) : Option Nat :=
  if digits.isEmpty || 4 < digits.length then none
  else digits.foldlM (fun value c => (hexValue? c).map (16 * value + ·)) 0

/-- The parts of a colon address with a dotted tail replaced by two groups. -/
def expandTail? (parts : List (List Char)) : Option (List (List Char)) :=
  match parts.getLast? with
  | some last =>
    if last.contains '.' then
      (dotted? last).map fun value =>
        parts.dropLast ++ [Nat.toDigits 16 (value / 65536), Nat.toDigits 16 (value % 65536)]
    else some parts
  | none => none

/-- The value of groups, the highest first. -/
def joinGroups (groups : List Nat) : Nat := groups.foldl (fun value g => 65536 * value + g) 0

/-- The value of groups with a run of zeros after the first `front.length` of them. -/
def withZeros? (front back : List (List Char)) : Option Nat := do
  let front ← front.mapM group?
  let back ← back.mapM group?
  if front.length + back.length < 8 then
    some (joinGroups (front ++ List.replicate (8 - front.length - back.length) 0 ++ back))
  else none

/-- The parts without one empty part at the front, which must be next to the zero run. -/
def dropEmptyFront? : List (List Char) → Option (List (List Char))
  | [[]] => some []
  | [] :: _ => none
  | parts => some parts

/-- The value of a colon address: eight groups, or fewer with one zero run. -/
def colons? (chars : List Char) : Option Nat := do
  let parts := split ':' chars
  if parts.length < 3 then none
  else
    let parts ← expandTail? parts
    if 9 < parts.length then none
    else
      let inner := (parts.drop 1).dropLast
      match inner.findIdx? List.isEmpty with
      | some place =>
        if (inner.drop (place + 1)).any List.isEmpty then none
        else
          let front ← dropEmptyFront? (parts.take (place + 1))
          let back ← dropEmptyFront? (parts.drop (place + 2)).reverse
          withZeros? front back.reverse
      | none =>
        if parts.length = 8 then (parts.mapM group?).map joinGroups else none

/-- The address without its scope, which follows a percent sign and must not be empty. -/
def dropScope? (chars : List Char) : Option (List Char) :=
  match chars.dropWhile (· ≠ '%') with
  | [] => some chars
  | _ :: scope =>
    if scope.isEmpty || scope.contains '%' then none else some (chars.takeWhile (· ≠ '%'))

/-- The address that a text writes. -/
def read? (chars : List Char) : Option IpAddress :=
  match dotted? chars with
  | some value => some (.v4 value)
  | none =>
    if chars.contains '/' then none
    else ((dropScope? chars).bind colons?).map .v6

/-! ### Ranges -/

/-- The addresses whose first bits are those of `base`, `free` bits being left. -/
structure Range where
  base : Nat
  free : Nat

/-- Membership in a range. -/
def Range.has (range : Range) (value : Nat) : Bool :=
  value / Nat.pow 2 range.free = range.base / Nat.pow 2 range.free

/-- The range of a dotted address and a count of fixed bits. -/
def range4 (a b c d fixed : Nat) : Range :=
  ⟨((a * 256 + b) * 256 + c) * 256 + d, 32 - fixed⟩

/-- The range of the first four groups of a colon address, its last group, and a count of fixed
bits. -/
def range6 (a b c last fixed : Nat) : Range :=
  ⟨joinGroups [a, b, c, 0, 0, 0, 0, last], 128 - fixed⟩

/-- The private ranges of dotted addresses. -/
def private4 : List Range := [
  range4 0 0 0 0 8, range4 10 0 0 0 8, range4 127 0 0 0 8, range4 169 254 0 0 16,
  range4 172 16 0 0 12, range4 192 0 0 0 24, range4 192 0 2 0 24,
  range4 192 168 0 0 16, range4 198 18 0 0 15, range4 198 51 100 0 24, range4 203 0 113 0 24,
  range4 240 0 0 0 4]

/-- The dotted addresses within them that are not private. -/
def public4 : List Range := [range4 192 0 0 9 32, range4 192 0 0 10 32]

/-- The private ranges of colon addresses. -/
def private6 : List Range := [
  range6 0 0 0 1 128, range6 0 0 0 0 128, range6 0x64 0xff9b 1 0 48, range6 0x100 0 0 0 64,
  range6 0x2001 0 0 0 23, range6 0x2001 0xdb8 0 0 32, range6 0x2002 0 0 0 16,
  range6 0xfc00 0 0 0 7, range6 0xfe80 0 0 0 10]

/-- The colon addresses within them that are not private. -/
def public6 : List Range := [
  range6 0x2001 1 0 1 128, range6 0x2001 1 0 2 128, range6 0x2001 3 0 0 32,
  range6 0x2001 4 0x112 0 48, range6 0x2001 0x20 0 0 28, range6 0x2001 0x30 0 0 28]

/-- Whether a dotted address leads to a private network or to the same machine. -/
def isInternal4 (value : Nat) : Bool :=
  private4.any (·.has value) && !public4.any (·.has value)

/-- The dotted address that a colon address wraps. -/
def wrapped? (value : Nat) : Option Nat :=
  if value / Nat.pow 2 32 = 0xFFFF then some (value % Nat.pow 2 32) else none

/-- Whether an address leads to a private network or to the same machine. -/
def isInternal : IpAddress → Bool
  | v4 value => isInternal4 value
  | v6 value =>
    match wrapped? value with
    | some inner => isInternal4 inner
    | none => private6.any (·.has value) && !public6.any (·.has value)

end IpAddress

end ContractRisk
