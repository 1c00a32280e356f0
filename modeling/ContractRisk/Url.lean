/-
**Addresses of RPC nodes.**

`Url.host?` finds the host of an `http` or `https` address: controls and spaces in front and all line
breaks and tabs are dropped, the scheme ends at the first colon, the authority lies between `//` and
the next `/`, `?` or `#`, and the host is what it names between the user and the port.
`Url.isHttp` asks for such a host, `Url.isSafe` for one that is not known to be internal.
-/

import ContractRisk.Value
import ContractRisk.Text.Case
import ContractRisk.Url.IpAddress

namespace ContractRisk.Url

/-- A text as it is read: without controls and spaces in front, and without tabs and line breaks. -/
def clean (chars : List Char) : List Char :=
  (chars.dropWhile (·.toNat ≤ 32)).filter fun c => c ≠ '\t' && c ≠ '\n' && c ≠ '\r'

/-- A character of a scheme. -/
def isSchemeChar (c : Char) : Bool := c.isAlphanum || c = '+' || c = '-' || c = '.'

/-- The scheme in lower case, and what follows its colon. -/
def scheme? (chars : List Char) : Option (List Char × List Char) :=
  match chars.dropWhile (· ≠ ':') with
  | [] => none
  | _ :: rest =>
    let scheme := chars.takeWhile (· ≠ ':')
    if (scheme.head?.any Char.isAlpha) && scheme.all isSchemeChar then
      some (scheme.map Char.toLower, rest)
    else none

/-- Whether a character ends an authority. -/
def endsAuthority (c : Char) : Bool := c = '/' || c = '?' || c = '#'

/-- The authority after a scheme; empty if there is none. -/
def authority : List Char → List Char
  | '/' :: '/' :: rest => rest.takeWhile (!endsAuthority ·)
  | _ => []

/-- What follows the last occurrence of a character, or all if there is none. -/
def afterLast (mark : Char) (chars : List Char) : List Char :=
  (chars.reverse.takeWhile (· ≠ mark)).reverse

/-- What stands between the first opening bracket and the next closing one. -/
def bracketed (chars : List Char) : List Char :=
  ((chars.dropWhile (· ≠ '[')).drop 1).takeWhile (· ≠ ']')

/-- Whether a name in brackets is of a form to come: `v`, hexadecimal digits, a point and more. -/
def isFutureHost (chars : List Char) : Bool :=
  match chars with
  | 'v' :: rest =>
    let digits := rest.takeWhile (IpAddress.hexValue? · |>.isSome)
    !digits.isEmpty && (match rest.drop digits.length with
      | '.' :: _ :: _ => true
      | _ => false)
  | _ => false

/-- Whether brackets enclose what they may: an address of the longer kind or a form to come. -/
def bracketsValid (chars : List Char) : Bool :=
  match chars.contains '[', chars.contains ']' with
  | false, false => true
  | true, true =>
    let name := bracketed chars
    if name.head? = some 'v' then isFutureHost name
    else match IpAddress.read? name with
      | some (.v6 _) => true
      | _ => false
  | _, _ => false

/-- Characters that stand for a delimiter in another form. -/
def delimiterForms : List Nat := [
  0x2047, 0x2048, 0x2049, 0x2100, 0x2101, 0x2105, 0x2106, 0x2A74, 0xFE13, 0xFE16, 0xFE55, 0xFE56,
  0xFE5F, 0xFE6B, 0xFF03, 0xFF0F, 0xFF1A, 0xFF1F, 0xFF20]

/-- Whether an authority can be taken apart. -/
def authorityValid (chars : List Char) : Bool :=
  bracketsValid chars && !chars.any fun c => delimiterForms.contains c.toNat

/-- The host that an authority names, between its user and its port. -/
def hostOf (authority : List Char) : List Char :=
  let info := afterLast '@' authority
  if info.contains '[' then bracketed info else info.takeWhile (· ≠ ':')

/-- The host of an `http` or `https` address. -/
def hostChars? (text : String) : Option (List Char) :=
  match scheme? (clean text.toList) with
  | none => none
  | some (scheme, rest) =>
    let named := authority rest
    if authorityValid named && (scheme = "http".toList || scheme = "https".toList) &&
        !(hostOf named).isEmpty then
      some (hostOf named)
    else none

/-- The host of an `http` or `https` address, in lower case. -/
def host? (text : String) : Option String :=
  (hostChars? text).map fun chars => Text.lower (String.ofList chars)

/-- Whether a host is known to be internal. -/
def isInternalHost (host : String) : Bool :=
  host = "localhost" || host = "0.0.0.0" ||
    (match IpAddress.read? host.toList with
      | some address => address.isInternal
      | none => false)

/-- Whether a value is an `http` or `https` address with a host. -/
def isHttp : Value → Bool
  | .text s => (host? s).isSome
  | _ => false

/-- Whether a value is such an address and its host is not known to be internal. -/
def isSafe : Value → Bool
  | .text s => (host? s).any (!isInternalHost ·)
  | _ => false

end ContractRisk.Url
