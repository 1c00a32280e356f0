/-
**Texts out of byte strings**: the encodings UTF-8, UTF-16 and UTF-32.

Each decoder either yields a text or says which bytes it could not read and why (`Undecodable`).
Encoded surrogates are let through; as they are no characters, each becomes a replacement character.
`detect` tells the encoding of a JSON text from a byte order mark, or from the places of the zero
bytes among its first four.
-/

namespace ContractRisk.Text

/-- An encoding of texts; the wide ones by their byte order. -/
inductive Encoding where
  | utf8
  | utf16 (bigEndian : Bool)
  | utf32 (bigEndian : Bool)
deriving DecidableEq

/-- The name of an encoding. -/
def Encoding.name : Encoding → String
  | .utf8 => "utf-8"
  | .utf16 big => if big then "utf-16-be" else "utf-16-le"
  | .utf32 big => if big then "utf-32-be" else "utf-32-le"

/-- The bytes from `start` to before `stop`, of which `first` is one, do not encode a character. -/
structure Undecodable where
  encoding : Encoding
  start : Nat
  stop : Nat
  first : UInt8
  reason : String

/-- Two lower-case hexadecimal digits. -/
def byteHex (byte : UInt8) : String :=
  let digits := Nat.toDigits 16 byte.toNat
  String.ofList (List.replicate (2 - digits.length) '0' ++ digits)

/-- What could not be decoded, and why. -/
def Undecodable.message (fault : Undecodable) : String :=
  let place :=
    if fault.stop = fault.start + 1 then
      s!"byte 0x{byteHex fault.first} in position {fault.start}"
    else
      s!"bytes in position {fault.start}-{fault.stop - 1}"
  s!"'{fault.encoding.name}' codec can't decode {place}: {fault.reason}"

/-- The character with a code point; the replacement character if there is none. -/
def charAt (code : Nat) : Char :=
  if code.isValidChar then Char.ofNat code else Char.ofNat 0xFFFD

/-- A byte that continues a character. -/
def continues (byte : UInt8) : Bool := 0x80 ≤ byte && byte < 0xC0

/-- The six bits of a continuing byte. -/
def low6 (byte : UInt8) : Nat := byte.toNat % 64

/-- Whether a second byte may follow the first byte of a sequence of three; `0xED` would start a
surrogate with the higher ones. -/
def follows3 (a b : UInt8) : Bool :=
  continues b && (if a = 0xE0 then 0xA0 ≤ b else if a = 0xED then b < 0xA0 else true)

/-- Whether a second byte may follow the first byte of a sequence of four. -/
def follows4 (a b : UInt8) : Bool :=
  continues b && (if a = 0xF0 then 0x90 ≤ b else if a = 0xF4 then b < 0x90 else true)

/-- The characters of UTF-8 bytes, of which the first stands at position `at`; `done` holds the
characters before it in reverse. -/
def utf8From (position : Nat) (done : List Char) : List UInt8 → Except Undecodable (List Char)
  | [] => .ok done.reverse
  | a :: rest =>
    let fail (width : Nat) (reason : String) : Except Undecodable (List Char) :=
      .error ⟨.utf8, position, position + width, a, reason⟩
    let cut := "unexpected end of data"
    let wrong := "invalid continuation byte"
    if a < 0x80 then utf8From (position + 1) (charAt a.toNat :: done) rest
    else if a < 0xC2 || 0xF5 ≤ a then fail 1 "invalid start byte"
    else if a < 0xE0 then
      match rest with
      | [] => fail 1 cut
      | b :: rest =>
        if continues b then
          utf8From (position + 2) (charAt (a.toNat % 32 * 64 + low6 b) :: done) rest
        else fail 1 wrong
    else if a < 0xF0 then
      match rest with
      | [] => fail 1 cut
      | [b] => if follows3 a b then fail 2 cut else fail 1 wrong
      | b :: c :: rest =>
        if follows3 a b then
          if continues c then
            utf8From (position + 3)
              (charAt (a.toNat % 16 * 4096 + low6 b * 64 + low6 c) :: done) rest
          else fail 2 wrong
        else if a = 0xED && continues b && continues c then
          utf8From (position + 3) (charAt 0xFFFD :: done) rest
        else fail 1 wrong
    else
      match rest with
      | [] => fail 1 cut
      | [b] => if follows4 a b then fail 2 cut else fail 1 wrong
      | [b, c] =>
        if !follows4 a b then fail 1 wrong
        else if continues c then fail 3 cut else fail 2 wrong
      | b :: c :: d :: rest =>
        if !follows4 a b then fail 1 wrong
        else if !continues c then fail 2 wrong
        else if !continues d then fail 3 wrong
        else
          utf8From (position + 4)
            (charAt (a.toNat % 8 * 262144 + low6 b * 4096 + low6 c * 64 + low6 d) :: done) rest

/-- The 16-bit units of a byte string, and what is left of it. -/
def units16 (bigEndian : Bool) : List UInt8 → List Nat × List UInt8
  | a :: b :: rest =>
    let unit := if bigEndian then a.toNat * 256 + b.toNat else b.toNat * 256 + a.toNat
    let (units, left) := units16 bigEndian rest
    (unit :: units, left)
  | left => ([], left)

/-- The characters of 16-bit units, surrogates read in pairs. -/
def joinUnits : List Nat → List Char
  | high :: low :: rest =>
    if 0xD800 ≤ high && high < 0xDC00 && 0xDC00 ≤ low && low < 0xE000 then
      charAt (0x10000 + (high - 0xD800) * 1024 + (low - 0xDC00)) :: joinUnits rest
    else charAt high :: joinUnits (low :: rest)
  | [unit] => [charAt unit]
  | [] => []

/-- The characters of UTF-16 bytes, of which the first stands at position `at`. -/
def utf16From (bigEndian : Bool) (position : Nat) (bytes : List UInt8) :
    Except Undecodable (List Char) :=
  match units16 bigEndian bytes with
  | (units, []) => .ok (joinUnits units)
  | (units, first :: _) =>
    let start := position + 2 * units.length
    .error ⟨.utf16 bigEndian, start, start + 1, first, "truncated data"⟩

/-- The characters of UTF-32 bytes, of which the first stands at position `at`. -/
def utf32From (bigEndian : Bool) (position : Nat) (done : List Char) :
    List UInt8 → Except Undecodable (List Char)
  | [] => .ok done.reverse
  | a :: b :: c :: d :: rest =>
    let value (w x y z : UInt8) := ((w.toNat * 256 + x.toNat) * 256 + y.toNat) * 256 + z.toNat
    let code := if bigEndian then value a b c d else value d c b a
    if 0x110000 ≤ code then
      .error ⟨.utf32 bigEndian, position, position + 4, a, "code point not in range(0x110000)"⟩
    else utf32From bigEndian (position + 4) (charAt code :: done) rest
  | first :: rest =>
    .error ⟨.utf32 bigEndian, position, position + 1 + rest.length, first, "truncated data"⟩

/-- The encoding of a JSON text, the length of its byte order mark, and the position that its first
byte behind the mark has in messages. -/
def detect : List UInt8 → Encoding × Nat × Nat
  | 0 :: 0 :: 0xFE :: 0xFF :: _ => (.utf32 true, 4, 4)
  | 0xFF :: 0xFE :: 0 :: 0 :: _ => (.utf32 false, 4, 4)
  | 0xFE :: 0xFF :: _ => (.utf16 true, 2, 2)
  | 0xFF :: 0xFE :: _ => (.utf16 false, 2, 2)
  | 0xEF :: 0xBB :: 0xBF :: _ => (.utf8, 3, 0)
  | a :: b :: c :: d :: _ =>
    if a = 0 then (if b = 0 then .utf32 true else .utf16 true, 0, 0)
    else if b = 0 then (if c = 0 && d = 0 then .utf32 false else .utf16 false, 0, 0)
    else (.utf8, 0, 0)
  | [a, b] =>
    if a = 0 then (.utf16 true, 0, 0) else if b = 0 then (.utf16 false, 0, 0) else (.utf8, 0, 0)
  | _ => (.utf8, 0, 0)

/-- The characters of a JSON text given as bytes. -/
def decode (bytes : List UInt8) : Except Undecodable (List Char) :=
  let (encoding, mark, position) := detect bytes
  match encoding with
  | .utf8 => utf8From position [] (bytes.drop mark)
  | .utf16 big => utf16From big position (bytes.drop mark)
  | .utf32 big => utf32From big position [] (bytes.drop mark)

end ContractRisk.Text
