/-
**Addresses of nodes whose host is four numbers.**

Around the host of such an address stand a scheme, a user, a port and a suffix, each of which may be
nearly any text (`Dotted`). None of them has a say in whether the address is safe: the host that is found
is the four numbers (`hostChars?_text`), they are read as they were written (`read?_text`), and the table
of ranges gives just the private, loopback and unspecified ones (`isInternal4_iff`).

* `isSafe_dotted`: the address is one of a node, and it is safe exactly if its four numbers are not
  `Reserved`.
-/

import ContractRisk.Proofs.Address
import ContractRisk.Url
import Mathlib

namespace ContractRisk

namespace IpAddress

/-! ### Four numbers -/

/-- The four numbers of a dotted address. -/
structure Octets where
  a : Nat
  b : Nat
  c : Nat
  d : Nat
  a_lt : a < 256 := by decide
  b_lt : b < 256 := by decide
  c_lt : c < 256 := by decide
  d_lt : d < 256 := by decide

namespace Octets

/-- Four numbers as one. -/
def value (octets : Octets) : Nat := ((octets.a * 256 + octets.b) * 256 + octets.c) * 256 + octets.d

/-- Four numbers with points between them. -/
def text (octets : Octets) : List Char :=
  Nat.toDigits 10 octets.a ++ '.' :: (Nat.toDigits 10 octets.b ++ '.' ::
    (Nat.toDigits 10 octets.c ++ '.' :: Nat.toDigits 10 octets.d))

/-- **The numbers of private networks, of the same machine, and of no machine at all.** -/
def Reserved (octets : Octets) : Prop :=
  -- this network, with the unspecified address
  octets.a = 0 ∨
  octets.a = 10 ∨
  -- the same machine
  octets.a = 127 ∨
  -- the same link
  octets.a = 169 ∧ octets.b = 254 ∨
  octets.a = 172 ∧ 16 ≤ octets.b ∧ octets.b ≤ 31 ∨
  -- protocol assignments, but for the two that are reached from everywhere
  octets.a = 192 ∧ octets.b = 0 ∧ octets.c = 0 ∧ octets.d ≠ 9 ∧ octets.d ≠ 10 ∨
  octets.a = 192 ∧ octets.b = 0 ∧ octets.c = 2 ∨
  octets.a = 192 ∧ octets.b = 168 ∨
  -- benchmarks and documentation
  octets.a = 198 ∧ 18 ≤ octets.b ∧ octets.b ≤ 19 ∨
  octets.a = 198 ∧ octets.b = 51 ∧ octets.c = 100 ∨
  octets.a = 203 ∧ octets.b = 0 ∧ octets.c = 113 ∨
  -- addresses kept for later, with that of everyone
  240 ≤ octets.a

instance (octets : Octets) : Decidable octets.Reserved := by unfold Reserved; infer_instance

end Octets

/-! ### Ranges -/

theorem has_iff {range : Range} {value : Nat} :
    range.has value = true ↔ value / Nat.pow 2 range.free = range.base / Nat.pow 2 range.free :=
  decide_eq_true_iff

theorem private4_iff (octets : Octets) : private4.any (·.has octets.value) = true ↔
    octets.a = 0 ∨ octets.a = 10 ∨ octets.a = 127 ∨ octets.a = 169 ∧ octets.b = 254 ∨
    octets.a = 172 ∧ 16 ≤ octets.b ∧ octets.b ≤ 31 ∨ octets.a = 192 ∧ octets.b = 0 ∧ octets.c = 0 ∨
    octets.a = 192 ∧ octets.b = 0 ∧ octets.c = 2 ∨ octets.a = 192 ∧ octets.b = 168 ∨
    octets.a = 198 ∧ 18 ≤ octets.b ∧ octets.b ≤ 19 ∨ octets.a = 198 ∧ octets.b = 51 ∧ octets.c = 100 ∨
    octets.a = 203 ∧ octets.b = 0 ∧ octets.c = 113 ∨ 240 ≤ octets.a := by
  obtain ⟨a, b, c, d, _, _, _, _⟩ := octets
  simp only [private4, Octets.value, List.any_cons, List.any_nil, Bool.or_false, Bool.or_eq_true, has_iff,
    range4, Nat.pow_eq]
  -- One range at a time: all at once are too many cases.
  repeat' apply or_congr
  all_goals omega

theorem public4_iff (octets : Octets) : public4.any (·.has octets.value) = true ↔
    octets.a = 192 ∧ octets.b = 0 ∧ octets.c = 0 ∧ (octets.d = 9 ∨ octets.d = 10) := by
  obtain ⟨a, b, c, d, _, _, _, _⟩ := octets
  simp only [public4, Octets.value, List.any_cons, List.any_nil, Bool.or_false, Bool.or_eq_true, has_iff,
    range4, Nat.pow_eq, Nat.sub_self, Nat.pow_zero, Nat.div_one]
  omega

/-- **The ranges that count as internal are the reserved ones.** -/
theorem isInternal4_iff (octets : Octets) : isInternal4 octets.value = true ↔ octets.Reserved := by
  rw [isInternal4, Bool.and_eq_true, Bool.not_eq_true', ← Bool.not_eq_true, private4_iff, public4_iff,
    Octets.Reserved]
  -- The exempt addresses lie in one of the ranges only.
  simp only [or_and_right]
  repeat' apply or_congr
  all_goals omega

/-! ### Reading -/

/-- A number below 256 is read as it is written. -/
theorem octet?_toDigits : ∀ n < 256, octet? (Nat.toDigits 10 n) = some n := by
  decide +kernel

theorem isDigit_toDigits {n : Nat} {c : Char} (member : c ∈ Nat.toDigits 10 n) : c.isDigit = true :=
  Nat.isDigit_of_mem_toDigits (by decide) (by decide) member

theorem split_single {separator : Char} {part : List Char} (without : ∀ c ∈ part, c ≠ separator) :
    split separator part = [part] := by
  induction part with
  | nil => rfl
  | cons c rest ih =>
    rw [split, if_neg (without c List.mem_cons_self),
      ih fun other member => without other (List.mem_cons_of_mem _ member)]

/-- A text is split after a part without the separator. -/
theorem split_append {separator : Char} {part : List Char} (without : ∀ c ∈ part, c ≠ separator)
    (rest : List Char) : split separator (part ++ separator :: rest) = part :: split separator rest := by
  induction part with
  | nil => rw [List.nil_append, split, if_pos rfl]
  | cons c others ih =>
    rw [List.cons_append, split, if_neg (without c List.mem_cons_self),
      ih fun other member => without other (List.mem_cons_of_mem _ member)]

/-- **Four numbers are read as they are written.** -/
theorem read?_text (octets : Octets) : read? octets.text = some (.v4 octets.value) := by
  have pointless (n : Nat) : ∀ c ∈ Nat.toDigits 10 n, c ≠ '.' := by
    rintro c member rfl
    exact absurd (isDigit_toDigits member) (by decide)
  have parts : split '.' octets.text = [Nat.toDigits 10 octets.a, Nat.toDigits 10 octets.b,
      Nat.toDigits 10 octets.c, Nat.toDigits 10 octets.d] := by
    rw [Octets.text, split_append (pointless octets.a), split_append (pointless octets.b),
      split_append (pointless octets.c), split_single (pointless octets.d)]
  have value : dotted? octets.text = some octets.value := by
    simp only [dotted?, parts, List.map_cons, List.map_nil, octet?_toDigits octets.a octets.a_lt,
      octet?_toDigits octets.b octets.b_lt, octet?_toDigits octets.c octets.c_lt,
      octet?_toDigits octets.d octets.d_lt]
    rfl
  rw [read?, value]

/-- The text of four numbers is made of digits and points. -/
theorem mem_text {octets : Octets} {c : Char} (member : c ∈ octets.text) :
    c.isDigit = true ∨ c = '.' := by
  simp only [Octets.text, List.mem_append, List.mem_cons] at member
  rcases member with digit | rfl | digit | rfl | digit | rfl | digit
  · exact .inl (isDigit_toDigits digit)
  · exact .inr rfl
  · exact .inl (isDigit_toDigits digit)
  · exact .inr rfl
  · exact .inl (isDigit_toDigits digit)
  · exact .inr rfl
  · exact .inl (isDigit_toDigits digit)

end IpAddress

namespace Url

open IpAddress

/-! ### Addresses of nodes -/

/-- A printable character of ASCII. -/
def isPrintable (c : Char) : Bool := 32 ≤ c.toNat && c.toNat < 127

/-- **An address of a node whose host is four numbers**, by its parts. -/
structure Dotted where
  scheme : List Char
  user : Option (List Char)
  host : Octets
  port : Option (List Char)
  suffix : List Char
  /-- The scheme is `http` or `https`, in any case of its letters. -/
  scheme_lower : scheme.map Char.toLower = "http".toList ∨ scheme.map Char.toLower = "https".toList
  user_chars : ∀ chars ∈ user, ∀ c ∈ chars, isPrintable c = true ∧ c ∉ ['/', '?', '#', '[', ']']
  port_chars : ∀ chars ∈ port, ∀ c ∈ chars, isPrintable c = true ∧ c ∉ ['/', '?', '#', '@', '[', ']']
  suffix_head : ∀ c ∈ suffix.head?, c ∈ ['/', '?', '#']

namespace Dotted

/-- The text before the host. -/
def userText (url : Dotted) : List Char := url.user.elim [] (· ++ ['@'])

/-- The text after the host. -/
def portText (url : Dotted) : List Char := url.port.elim [] (':' :: ·)

/-- The text between the slashes and the suffix. -/
def named (url : Dotted) : List Char := url.userText ++ (url.host.text ++ url.portText)

/-- The whole address. -/
def text (url : Dotted) : String :=
  String.ofList (url.scheme ++ ':' :: '/' :: '/' :: (url.named ++ url.suffix))

/-! ### The characters of its parts -/

theorem isPrintable_digit {c : Char} (digit : c.isDigit = true) : isPrintable c = true := by
  simp only [Char.isDigit, Bool.and_eq_true, decide_eq_true_eq] at digit
  unfold isPrintable
  grind [Char.toNat, UInt32.le_iff_toNat_le]

/-- The four numbers are printable and hold no delimiter. -/
theorem mem_host {url : Dotted} {c : Char} (member : c ∈ url.host.text) :
    isPrintable c = true ∧ c ∉ ['/', '?', '#', '[', ']', '@', ':'] := by
  rcases mem_text member with digit | rfl
  · refine ⟨isPrintable_digit digit, fun delimiter => ?_⟩
    simp only [List.mem_cons, List.not_mem_nil, or_false] at delimiter
    rcases delimiter with rfl | rfl | rfl | rfl | rfl | rfl | rfl <;> cases digit
  · decide

theorem mem_portText {url : Dotted} {c : Char} (member : c ∈ url.portText) :
    isPrintable c = true ∧ c ∉ ['/', '?', '#', '[', ']', '@'] := by
  unfold portText at member
  cases given : url.port with
  | none =>
    rw [given] at member
    cases member
  | some chars =>
    rw [given] at member
    rcases List.mem_cons.mp member with rfl | inside
    · decide
    · have allowed := url.port_chars chars given c inside
      simp only [List.mem_cons, List.not_mem_nil, or_false] at allowed ⊢
      grind

theorem mem_userText {url : Dotted} {c : Char} (member : c ∈ url.userText) :
    isPrintable c = true ∧ c ∉ ['/', '?', '#', '[', ']'] := by
  unfold userText at member
  cases given : url.user with
  | none =>
    rw [given] at member
    cases member
  | some chars =>
    rw [given] at member
    rcases List.mem_append.mp member with inside | last
    · exact url.user_chars chars given c inside
    · rw [List.mem_singleton.mp last]
      decide

/-- What is named is printable, and neither ends early nor holds a bracket. -/
theorem mem_named {url : Dotted} {c : Char} (member : c ∈ url.named) :
    isPrintable c = true ∧ c ∉ ['/', '?', '#', '[', ']'] := by
  unfold named at member
  rcases List.mem_append.mp member with user | rest
  · exact mem_userText user
  rcases List.mem_append.mp rest with host | port
  · have allowed := mem_host host
    simp only [List.mem_cons, List.not_mem_nil, or_false] at allowed ⊢
    grind
  · have allowed := mem_portText port
    simp only [List.mem_cons, List.not_mem_nil, or_false] at allowed ⊢
    grind

/-- A scheme is made of letters. -/
theorem mem_scheme {url : Dotted} {c : Char} (member : c ∈ url.scheme) : c.isAlpha = true := by
  have lowered := List.mem_map_of_mem (f := Char.toLower) member
  rw [← Char.isAlpha_toLower_eq_isAlpha]
  rcases url.scheme_lower with same | same
  · rw [same] at lowered
    exact List.all_eq_true.mp (by decide : "http".toList.all Char.isAlpha = true) _ lowered
  · rw [same] at lowered
    exact List.all_eq_true.mp (by decide : "https".toList.all Char.isAlpha = true) _ lowered

/-! ### Taking it apart -/

/-- What is left of the suffix: it may hold tabs and line breaks. -/
def keptSuffix (url : Dotted) : List Char :=
  url.suffix.filter fun c => c ≠ '\t' && c ≠ '\n' && c ≠ '\r'

/-- The suffix is no part of what is named. -/
theorem takeWhile_keptSuffix (url : Dotted) : url.keptSuffix.takeWhile (!endsAuthority ·) = [] := by
  have head := url.suffix_head
  unfold keptSuffix
  cases suffix : url.suffix with
  | nil => rfl
  | cons first rest =>
    have mark : first = '/' ∨ first = '?' ∨ first = '#' := by simpa [suffix] using head
    rcases mark with rfl | rfl | rfl <;>
    · rw [List.filter_cons_of_pos (by decide)]
      exact List.takeWhile_cons_of_neg (by decide)

theorem kept_of_le {c : Char} (above : 32 ≤ c.toNat) :
    (c ≠ '\t' && c ≠ '\n' && c ≠ '\r') = true := by
  rw [Bool.and_eq_true, Bool.and_eq_true, decide_eq_true_eq, decide_eq_true_eq, decide_eq_true_eq]
  refine ⟨⟨?_, ?_⟩, ?_⟩ <;>
  · rintro rfl
    revert above
    decide

theorem letter_above {c : Char} (letter : c.isAlpha = true) : 32 < c.toNat := by
  simp only [Char.isAlpha, Char.isUpper, Char.isLower, Bool.or_eq_true, Bool.and_eq_true,
    decide_eq_true_eq] at letter
  grind [Char.toNat, UInt32.le_iff_toNat_le]

/-- A scheme has a first letter. -/
theorem scheme_ne_nil (url : Dotted) : url.scheme ≠ [] := by
  intro none
  have lower := url.scheme_lower
  rw [none] at lower
  exact absurd lower (by decide)

/-- **Nothing but the suffix is changed** when the address is read. -/
theorem clean_text (url : Dotted) :
    clean url.text.toList = url.scheme ++ ':' :: '/' :: '/' :: (url.named ++ url.keptSuffix) := by
  have letters : ∀ c ∈ url.scheme, 32 < c.toNat := fun c member => letter_above (mem_scheme member)
  have visible : ∀ c ∈ url.named, 32 ≤ c.toNat := by
    intro c member
    have printable := (mem_named member).1
    simp only [isPrintable, Bool.and_eq_true, decide_eq_true_eq] at printable
    exact printable.1
  have unspaced (rest : List Char) :
      (url.scheme ++ rest).dropWhile (·.toNat ≤ 32) = url.scheme ++ rest := by
    obtain ⟨first, others, scheme⟩ := List.exists_cons_of_ne_nil url.scheme_ne_nil
    have above := letters first (by simp [scheme])
    rw [scheme, List.cons_append]
    exact List.dropWhile_cons_of_neg (by simp only [decide_eq_true_eq]; omega)
  rw [clean, text, String.toList_ofList, unspaced, List.filter_append,
    List.filter_cons_of_pos (by decide), List.filter_cons_of_pos (by decide),
    List.filter_cons_of_pos (by decide), List.filter_append,
    List.filter_eq_self.mpr fun c member => kept_of_le (Nat.le_of_lt (letters c member)),
    List.filter_eq_self.mpr fun c member => kept_of_le (visible c member)]
  rfl

theorem scheme?_text (url : Dotted) (rest : List Char) :
    scheme? (url.scheme ++ ':' :: rest) = some (url.scheme.map Char.toLower, rest) := by
  have colonless : ∀ c ∈ url.scheme, decide (c ≠ ':') = true := by
    intro c member
    rw [decide_eq_true_eq]
    rintro rfl
    exact absurd (mem_scheme member) (by decide)
  obtain ⟨first, others, scheme⟩ := List.exists_cons_of_ne_nil url.scheme_ne_nil
  have letter : (url.scheme.head?.any Char.isAlpha) = true := by
    have inside : first ∈ url.scheme := by simp [scheme]
    rw [scheme]
    exact mem_scheme inside
  have all : url.scheme.all isSchemeChar = true := by
    refine List.all_eq_true.mpr fun c member => ?_
    simp [isSchemeChar, Char.isAlphanum, mem_scheme member]
  rw [scheme?, List.dropWhile_append_of_pos colonless, List.dropWhile_cons_of_neg (by decide)]
  simp only [List.takeWhile_append_of_pos colonless, List.takeWhile_cons_of_neg (p := (· ≠ ':'))
    (a := ':') (l := rest) (by decide), List.append_nil, letter, all, Bool.and_self, if_true]

/-- The user ends with the last sign that could divide it from the host. -/
theorem afterLast_named (url : Dotted) : afterLast '@' url.named = url.host.text ++ url.portText := by
  have behind : ∀ c ∈ (url.host.text ++ url.portText).reverse, decide (c ≠ '@') = true := by
    intro c member
    rw [decide_eq_true_eq]
    rintro rfl
    rcases List.mem_append.mp (List.mem_reverse.mp member) with host | port
    · exact (mem_host host).2 (by decide)
    · exact (mem_portText port).2 (by decide)
  have before : url.userText.reverse.takeWhile (· ≠ '@') = [] := by
    unfold userText
    cases url.user with
    | none => rfl
    | some chars => simp
  rw [afterLast, named, List.reverse_append, List.takeWhile_append_of_pos behind, before,
    List.append_nil, List.reverse_reverse]

/-- **The host is what stands between the user and the port.** -/
theorem hostOf_named (url : Dotted) : hostOf url.named = url.host.text := by
  have bracketless : (url.host.text ++ url.portText).contains '[' = false := by
    rw [← Bool.not_eq_true, List.contains_iff_mem]
    intro member
    rcases List.mem_append.mp member with host | port
    · exact (mem_host host).2 (by decide)
    · exact (mem_portText port).2 (by decide)
  have colonless : ∀ c ∈ url.host.text, decide (c ≠ ':') = true := by
    intro c member
    rw [decide_eq_true_eq]
    rintro rfl
    exact (mem_host member).2 (by decide)
  have portless : url.portText.takeWhile (· ≠ ':') = [] := by
    unfold portText
    cases url.port <;> rfl
  rw [hostOf, afterLast_named]
  simp only [bracketless, Bool.false_eq_true, if_false]
  rw [List.takeWhile_append_of_pos colonless, portless, List.append_nil]

theorem authorityValid_named (url : Dotted) : authorityValid url.named = true := by
  have opening : url.named.contains '[' = false := by
    rw [← Bool.not_eq_true, List.contains_iff_mem]
    exact fun member => (mem_named member).2 (by decide)
  have closing : url.named.contains ']' = false := by
    rw [← Bool.not_eq_true, List.contains_iff_mem]
    exact fun member => (mem_named member).2 (by decide)
  have beyond : ∀ form ∈ delimiterForms, 127 ≤ form := by decide
  rw [authorityValid, bracketsValid, opening, closing, Bool.true_and, Bool.not_eq_true', List.any_eq_false]
  intro c member listed
  have printable := (mem_named member).1
  simp only [isPrintable, Bool.and_eq_true, decide_eq_true_eq] at printable
  exact absurd (beyond _ (List.contains_iff_mem.mp listed)) (by omega)

theorem text_ne_nil (octets : Octets) : octets.text ≠ [] := by
  simp [Octets.text]

/-- **The four numbers are the host that is found.** -/
theorem hostChars?_text (url : Dotted) : hostChars? url.text = some url.host.text := by
  have names : authority ('/' :: '/' :: (url.named ++ url.keptSuffix)) = url.named := by
    have inside : ∀ c ∈ url.named, (!endsAuthority c) = true := by
      intro c member
      have excluded := (mem_named member).2
      simp only [List.mem_cons, List.not_mem_nil, or_false] at excluded
      simp only [endsAuthority, Bool.not_eq_true', Bool.or_eq_false_iff, decide_eq_false_iff_not]
      grind
    rw [authority, List.takeWhile_append_of_pos inside, takeWhile_keptSuffix, List.append_nil]
  have scheme : (url.scheme.map Char.toLower = "http".toList || url.scheme.map Char.toLower = "https".toList)
      = true := by
    rcases url.scheme_lower with same | same <;> simp [same]
  rw [hostChars?, clean_text, scheme?_text]
  simp only [names, authorityValid_named, scheme, hostOf_named, Bool.true_and]
  rw [if_pos]
  simp [text_ne_nil]

end Dotted

/-! ### What is safe -/

theorem toLower_digit {c : Char} (digit : c.isDigit = true) : c.toLower = c := by
  simp only [Char.isDigit, Bool.and_eq_true, decide_eq_true_eq] at digit
  unfold Char.toLower
  grind [UInt32.le_iff_toNat_le]

/-- The lower case of four numbers is their text. -/
theorem lower_text (octets : Octets) :
    Text.lower (String.ofList octets.text) = String.ofList octets.text := by
  rw [Text.lower, String.toList_ofList, Text.lowerFrom_eq]
  intro c member
  rcases mem_text member with digit | rfl
  · exact ⟨(hexDigit_ascii (by simp [isHexDigit, digit])).2, toLower_digit digit⟩
  · decide

/-- **A host that is four numbers is internal exactly if they are reserved.** -/
theorem isInternalHost_text (octets : Octets) :
    isInternalHost (String.ofList octets.text) = true ↔ octets.Reserved := by
  have read {name : String} (same : String.ofList octets.text = name) :
      IpAddress.read? name.toList = some (.v4 octets.value) := by
    rw [← same, String.toList_ofList, read?_text]
  have value : isInternalHost (String.ofList octets.text) = true ↔
      (String.ofList octets.text = "localhost" ∨ String.ofList octets.text = "0.0.0.0") ∨
        isInternal4 octets.value = true := by
    rw [isInternalHost, String.toList_ofList, read?_text]
    simp only [Bool.or_eq_true, decide_eq_true_eq]
    rfl
  rw [value, ← isInternal4_iff]
  refine ⟨?_, .inr⟩
  rintro ((name | zero) | internal)
  · have wrong := read name
    rw [show IpAddress.read? "localhost".toList = none by decide +kernel] at wrong
    cases wrong
  · have same := read zero
    rw [show IpAddress.read? "0.0.0.0".toList = some (.v4 0) by decide +kernel] at same
    rw [← IpAddress.v4.inj (Option.some.inj same)]
    decide
  · exact internal

/-- **Whether such an address is safe is up to its four numbers alone**: it is one of a node, and it is
refused exactly if they are reserved, whatever stands around them. -/
theorem isSafe_dotted (url : Dotted) :
    isHttp (.text url.text) = true ∧
    (isSafe (.text url.text) = false ↔ url.host.Reserved) ∧
    ∀ other : Dotted, other.host = url.host → isSafe (.text other.text) = isSafe (.text url.text) := by
  have host (url : Dotted) : host? url.text = some (String.ofList url.host.text) := by
    rw [host?, Dotted.hostChars?_text, Option.map_some, lower_text]
  have safe (url : Dotted) : isSafe (.text url.text) = false ↔ url.host.Reserved := by
    rw [← isInternalHost_text, isSafe, host, Option.any_some, Bool.not_eq_false']
  refine ⟨by rw [isHttp, host]; rfl, safe url, fun other same => ?_⟩
  rw [Bool.eq_iff_iff, ← Bool.not_eq_false, ← Bool.not_eq_false, safe, safe, same]

/-- Four numbers behind a user with the signs of a host and a port, before a suffix with those of a user. -/
def Dotted.disguised (host : Octets) : Dotted where
  scheme := "HTTPS".toList
  user := some "8.8.8.8:80@me".toList
  host := host
  port := some "8545".toList
  suffix := "?@host".toList
  scheme_lower := by decide
  user_chars := by simp [isPrintable]
  port_chars := by simp [isPrintable]
  suffix_head := by simp

/-- A private address is refused in any disguise, and one of the two addresses that are reached from
everywhere is not. -/
theorem isSafe_dotted_disguised :
    isHttp (.text "HTTPS://8.8.8.8:80@me@192.168.1.10:8545?@host") = true ∧
    isSafe (.text "HTTPS://8.8.8.8:80@me@192.168.1.10:8545?@host") = false ∧
    isSafe (.text "HTTPS://8.8.8.8:80@me@192.0.0.9:8545?@host") = true := by
  have inside : (Dotted.disguised { a := 192, b := 168, c := 1, d := 10 }).text =
      "HTTPS://8.8.8.8:80@me@192.168.1.10:8545?@host" := by decide +kernel
  have outside : (Dotted.disguised { a := 192, b := 0, c := 0, d := 9 }).text =
      "HTTPS://8.8.8.8:80@me@192.0.0.9:8545?@host" := by decide +kernel
  rw [← inside, ← outside]
  obtain ⟨node, refused, -⟩ := isSafe_dotted (.disguised { a := 192, b := 168, c := 1, d := 10 })
  obtain ⟨-, refused', -⟩ := isSafe_dotted (.disguised { a := 192, b := 0, c := 0, d := 9 })
  refine ⟨node, refused.mpr (show Octets.Reserved _ by decide), ?_⟩
  rw [← Bool.not_eq_false, refused']
  exact (show ¬ Octets.Reserved _ by decide)

end Url

end ContractRisk
