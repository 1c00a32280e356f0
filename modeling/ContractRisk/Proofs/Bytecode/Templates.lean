/-
**Proxy templates among digits and among bytes.**

A template is written in hexadecimal digits, and so may be a code, but it is sought among bytes. Half a
byte is no byte: digits of a template that stand in a code at an odd offset straddle its bytes and mark
no proxy.

* `alignedIn_digits`: bytes stand in a code exactly if their digits do at an even offset;
* `readTemplates_written`: the tables that are well written (`Hexadecimal`) are read, digit by digit;
* `classify_aligned`: hence what a code is, told by digits alone.
-/

import ContractRisk.Bytecode.Proxy
import ContractRisk.Proofs.Bytecode.Spellings
import Mathlib.Data.List.Forall2
import Mathlib.Data.List.Nodup

namespace ContractRisk

open Attempt

/-! ### Digits of bytes -/

/-- Digits stand in others at an even offset. -/
def AlignedIn (pattern digits : List Char) : Prop :=
  ∃ offset, offset < digits.length + 1 ∧ offset % 2 = 0 ∧ pattern <+: digits.drop offset

instance (pattern digits : List Char) : Decidable (AlignedIn pattern digits) :=
  inferInstanceAs (Decidable (∃ offset, offset < digits.length + 1 ∧
    offset % 2 = 0 ∧ pattern <+: digits.drop offset))

namespace Bytecode

/-- Pairs of digits are read one after the other. -/
theorem ofDigits_append {chars : List Char} (even : chars.length % 2 = 0) (others : List Char) :
    ofDigits (chars ++ others) = ofDigits chars ++ ofDigits others := by
  induction chars using ofDigits.induct with
  | case1 high low rest ih =>
    have tail := ih (by simp only [List.length_cons] at even; omega)
    show _ :: ofDigits (rest ++ others) = _
    rw [tail]
    rfl
  | case2 chars short =>
    cases chars with
    | nil => rfl
    | cons c rest =>
      cases rest with
      | nil => cases even
      | cons d rest => exact absurd rfl (short c d rest)

theorem digits_append (bytes others : List UInt8) :
    digits (bytes ++ others) = digits bytes ++ digits others :=
  List.flatMap_append

/-- **Bytes stand in others exactly if their digits do at an even offset.** -/
theorem alignedIn_digits {pattern bytes : List UInt8} :
    AlignedIn (digits pattern) (digits bytes) ↔ pattern <:+: bytes := by
  have even (bytes : List UInt8) : (digits bytes).length % 2 = 0 := by
    rw [length_digits, Nat.mul_mod_right]
  constructor
  · rintro ⟨offset, within, aligned, after, split⟩
    -- an even offset cuts the code between two of its bytes
    have front : ((digits bytes).take offset).length % 2 = 0 := by
      rw [List.length_take, Nat.min_eq_left (Nat.le_of_lt_succ within)]
      exact aligned
    refine ⟨ofDigits ((digits bytes).take offset), ofDigits after, ?_⟩
    calc ofDigits ((digits bytes).take offset) ++ pattern ++ ofDigits after
        = ofDigits ((digits bytes).take offset) ++ ofDigits (digits pattern ++ after) := by
          rw [ofDigits_append (even pattern), ofDigits_digits, List.append_assoc]
      _ = ofDigits (digits bytes) := by
          rw [split, ← ofDigits_append front, List.take_append_drop]
      _ = bytes := ofDigits_digits bytes
  · rintro ⟨before, after, rfl⟩
    refine ⟨(digits before).length, ?_, even before, digits after, ?_⟩
    · simp only [digits_append, List.length_append]
      omega
    · rw [digits_append, digits_append, List.append_assoc, List.drop_left]

/-- The digits of a code as it is given, in lower case and without `0x`. -/
def givenDigits : Value → List Char
  | .bytes bytes => digits bytes
  | .text text => (bareDigits text.toList).map Char.toLower
  | _ => []

/-- A code that is read has the digits of its bytes. -/
theorem givenDigits_eq {code : Value} {bytes : List UInt8} (accepted : read code = .ok bytes) :
    givenDigits code = digits bytes := by
  cases code with
  | null =>
    cases accepted
    rfl
  | bytes given =>
    cases accepted
    rfl
  | text text =>
    obtain ⟨lower, passed, rfl⟩ := map_eq_ok.mp accepted
    obtain ⟨bytes, rfl, _⟩ := canonicalDigits_ok passed
    rw [ofDigits_digits]
    unfold canonicalDigits at passed
    simp only at passed
    split at passed
    · exact (checkDigits_eq_ok.mp passed).2.2.symm
    · cases passed
  | _ => cases accepted

end Bytecode

namespace Proxy

open Bytecode

/-! ### Tables of templates -/

/-- **How a template is written**: two digits for each byte, in either case, and blanks between bytes. -/
inductive Hexadecimal : List Char → Prop
  | nil : Hexadecimal []
  | gap {c : Char} {rest : List Char} (blank : isGap c = true) (others : Hexadecimal rest) :
      Hexadecimal (c :: rest)
  | byte {high low : Char} {rest : List Char} (first : high ∈ hexAlphabet) (second : low ∈ hexAlphabet)
      (others : Hexadecimal rest) : Hexadecimal (high :: low :: rest)

/-- The digits of a template as it is written, in lower case and without blanks. -/
def templateDigits (text : String) : List Char :=
  (text.toList.filter (!isGap ·)).map Char.toLower

/-- A digit is no blank, and it is ASCII. -/
theorem isGap_digit {c : Char} (digit : c ∈ hexAlphabet) : isGap c = false ∧ c.toNat < 128 := by
  have all : (hexAlphabet.all fun c => isGap c = false ∧ c.toNat < 128) = true := by decide
  exact of_decide_eq_true (List.all_eq_true.mp all c digit)

theorem isGap_ascii {c : Char} (blank : isGap c = true) : c.toNat < 128 := by
  unfold isGap at blank
  simp only [Bool.or_eq_true, Bool.and_eq_true, decide_eq_true_eq] at blank
  omega

namespace Hexadecimal

variable {text : List Char} (written : Hexadecimal text)

include written

theorem ascii : ∀ c ∈ text, c.toNat < 128 := by
  induction written with
  | nil => exact fun _ member => nomatch member
  | gap blank _ ih => exact List.forall_mem_cons.mpr ⟨isGap_ascii blank, ih⟩
  | byte first second _ ih =>
    exact List.forall_mem_cons.mpr
      ⟨(isGap_digit first).2, List.forall_mem_cons.mpr ⟨(isGap_digit second).2, ih⟩⟩

/-- Without its blanks, a template is whole bytes of digits. -/
theorem bare : (text.filter (!isGap ·)).length % 2 = 0 ∧
    ∀ c ∈ text.filter (!isGap ·), isHexDigit c = true := by
  induction written with
  | nil => exact ⟨rfl, fun _ member => nomatch member⟩
  | gap blank _ ih => rwa [List.filter_cons_of_neg (by rw [blank]; decide)]
  | byte first second _ ih =>
    rw [List.filter_cons_of_pos (by rw [(isGap_digit first).1]; rfl),
      List.filter_cons_of_pos (by rw [(isGap_digit second).1]; rfl)]
    refine ⟨?_, List.forall_mem_cons.mpr ⟨isHexDigit_iff.mpr first,
      List.forall_mem_cons.mpr ⟨isHexDigit_iff.mpr second, ih.2⟩⟩⟩
    simp only [List.length_cons]
    omega

/-- A template that is well written is read as the bytes of its digits. -/
theorem read (position : Nat) :
    templateFrom position text = .ok (ofDigits (text.filter (!isGap ·))) := by
  induction written generalizing position with
  | nil => rfl
  | gap blank _ ih =>
    rw [templateFrom.eq_def]
    simp only
    rw [if_pos blank, ih, List.filter_cons_of_neg (by rw [blank]; decide)]
  | byte first second _ ih =>
    rw [List.filter_cons_of_pos (by rw [(isGap_digit first).1]; rfl),
      List.filter_cons_of_pos (by rw [(isGap_digit second).1]; rfl), templateFrom.eq_def]
    simp only
    rw [if_neg (by rw [(isGap_digit first).1]; decide),
      if_neg (by rw [isHexDigit_iff.mpr first]; decide),
      if_neg (by rw [isHexDigit_iff.mpr second]; decide), ih]
    rfl

end Hexadecimal

/-- The bytes of a template that is well written have its digits. -/
theorem templateBytes_written {text : String} (written : Hexadecimal text.toList) :
    ∃ bytes, templateBytes text = .ok bytes ∧ digits bytes = templateDigits text := by
  have ascii : text.toList.findIdx? (128 ≤ ·.toNat) = none := by
    refine List.findIdx?_eq_none_iff.mpr fun c member => decide_eq_false ?_
    exact Nat.not_le_of_lt (written.ascii c member)
  refine ⟨ofDigits (text.toList.filter (!isGap ·)), ?_, digits_ofDigits written.bare.1 written.bare.2⟩
  unfold templateBytes
  rw [ascii]
  simp only
  rw [written.read 0]
  rfl

/-- The template that an entry of a table writes. -/
def Written (entry : String × String) (template : Template) : Prop :=
  template.name = entry.1 ∧ digits template.bytes = templateDigits entry.2

/-- **A table that is well written is read, entry by entry.** -/
theorem readTemplates_written {table : List (String × String)}
    (valid : ∀ entry ∈ table, Hexadecimal entry.2.toList) :
    ∃ templates, readTemplates table = .ok templates ∧ List.Forall₂ Written table templates := by
  induction table with
  | nil => exact ⟨[], rfl, .nil⟩
  | cons entry rest ih =>
    obtain ⟨bytes, read, same⟩ := templateBytes_written (valid entry List.mem_cons_self)
    obtain ⟨templates, others, written⟩ := ih fun other member => valid other (.tail _ member)
    refine ⟨⟨entry.1, bytes⟩ :: templates, ?_, .cons ⟨rfl, same⟩ written⟩
    exact mapM_cons_eq_ok.mpr ⟨_, _, bind_eq_ok.mpr ⟨bytes, read, rfl⟩, others, rfl⟩

/-! ### What a code is -/

/-- The names of the templates that stand in a code, found by their digits. -/
theorem matched_aligned {table : List (String × String)} {templates : List Template}
    (written : List.Forall₂ Written table templates) (code : List UInt8) :
    (templates.filter fun template => occursIn template.bytes code).map (·.name) =
      (table.filter fun entry => AlignedIn (templateDigits entry.2) (digits code)).map (·.1) := by
  induction written with
  | nil => rfl
  | @cons entry template rest others same _ ih =>
    obtain ⟨name, spelled⟩ := same
    have found : occursIn template.bytes code = true ↔
        AlignedIn (templateDigits entry.2) (digits code) := by
      rw [← spelled, alignedIn_digits, occursIn_iff]
    by_cases occurs : occursIn template.bytes code = true
    · rw [List.filter_cons, List.filter_cons, if_pos occurs, if_pos (decide_eq_true (found.mp occurs)),
        List.map_cons, List.map_cons, name, ih]
    · rw [List.filter_cons, List.filter_cons, if_neg occurs,
        if_neg (mt (fun stands => found.mpr (of_decide_eq_true stands)) occurs), ih]

/-- A template that marks a code marks every code around it. -/
theorem AlignedIn.wider {text : String} (valid : Hexadecimal text.toList) {bytes : List UInt8}
    (stands : AlignedIn (templateDigits text) (digits bytes)) {wider : List UInt8}
    (inside : bytes <:+: wider) : AlignedIn (templateDigits text) (digits wider) := by
  obtain ⟨template, -, same⟩ := templateBytes_written valid
  rw [← same, alignedIn_digits] at stands ⊢
  exact stands.trans inside

/-- A template marks a code if a template marks it that holds the former. -/
theorem AlignedIn.inner {inner outer : String} (valid : Hexadecimal inner.toList)
    (valid' : Hexadecimal outer.toList) {bytes : List UInt8}
    (held : AlignedIn (templateDigits inner) (templateDigits outer))
    (stands : AlignedIn (templateDigits outer) (digits bytes)) :
    AlignedIn (templateDigits inner) (digits bytes) := by
  obtain ⟨template, -, same⟩ := templateBytes_written valid'
  rw [← same] at held stands
  exact AlignedIn.wider valid held (alignedIn_digits.mp stands)

/-- The names of the templates of a table that stand in digits; none stand in no digits at all. -/
def standing (table : List (String × String)) (digits : List Char) : List String :=
  if digits = [] then []
  else (table.filter fun entry => AlignedIn (templateDigits entry.2) digits).map (·.1)

/-- In a table that names each template once, a name stands if its template does. -/
theorem mem_standing {table : List (String × String)} (distinct : (table.map (·.1)).Nodup)
    {entry : String × String} (member : entry ∈ table) {digits : List Char} :
    entry.1 ∈ standing table digits ↔
      digits ≠ [] ∧ AlignedIn (templateDigits entry.2) digits := by
  unfold standing
  split
  · rename_i empty
    exact iff_of_false List.not_mem_nil fun ⟨filled, _⟩ => filled empty
  · rename_i filled
    constructor
    · intro named
      obtain ⟨other, kept, same⟩ := List.mem_map.mp named
      obtain ⟨listed, stands⟩ := List.mem_filter.mp kept
      rw [← List.inj_on_of_nodup_map distinct listed member same]
      exact ⟨filled, of_decide_eq_true stands⟩
    · exact fun ⟨_, stands⟩ =>
        List.mem_map.mpr ⟨entry, List.mem_filter.mpr ⟨member, decide_eq_true stands⟩, rfl⟩

/-- What the bytes of a code are is told by their digits. -/
theorem classifyBytes_written {table : List (String × String)} {templates : List Template}
    (written : List.Forall₂ Written table templates) (bytes : List UInt8) :
    (classifyBytes templates bytes).isContract = decide (digits bytes ≠ []) ∧
      2 * (classifyBytes templates bytes).size = (digits bytes).length ∧
      (classifyBytes templates bytes).matched = standing table (digits bytes) ∧
      (classifyBytes templates bytes).isProxy =
        decide ((classifyBytes templates bytes).matched ≠ []) := by
  unfold classifyBytes standing
  rw [matched_aligned written]
  cases bytes with
  | nil => exact ⟨rfl, rfl, rfl, rfl⟩
  | cons byte rest =>
    have filled : digits (byte :: rest) ≠ [] :=
      List.ne_nil_of_length_pos (by rw [length_digits, List.length_cons]; omega)
    rw [if_neg (show ¬ (byte :: rest).isEmpty = true from Bool.false_ne_true), if_neg filled]
    refine ⟨(decide_eq_true filled).symm, (length_digits _).symm, rfl, ?_⟩
    cases List.map _ (List.filter _ table) with
    | nil => rfl
    | cons name names => rfl

/-- **A code is told by its digits, whole bytes at a time.** Whatever the table, if it names each
template once and is well written, and whatever code is accepted: it is a contract if it has digits,
and marked by the templates that stand in its digits at an even offset, in the order of the table; so
what marks a code marks every code around it, and so does what stands in a template that marks it. -/
theorem classify_aligned {table : List (String × String)} (distinct : (table.map (·.1)).Nodup)
    (valid : ∀ entry ∈ table, Hexadecimal entry.2.toList) :
    ∃ templates, readTemplates table = .ok templates ∧
      ∀ code bytes, Bytecode.read code = .ok bytes → ∃ kind, classify templates code = .ok kind ∧
        (kind.isContract = true ↔ givenDigits code ≠ []) ∧
        2 * kind.size = (givenDigits code).length ∧
        kind.matched = standing table (givenDigits code) ∧
        (kind.isProxy = true ↔ kind.matched ≠ []) ∧
        (∀ before after wider, Bytecode.read wider = .ok (before ++ bytes ++ after) →
          ∃ around, classify templates wider = .ok around ∧ kind.matched ⊆ around.matched) ∧
        ∀ inner ∈ table, ∀ outer ∈ table, outer.1 ∈ kind.matched →
          AlignedIn (templateDigits inner.2) (templateDigits outer.2) → inner.1 ∈ kind.matched := by
  obtain ⟨templates, reads, written⟩ := readTemplates_written valid
  have classified {code : Value} {bytes : List UInt8} (accepted : Bytecode.read code = .ok bytes) :
      classify templates code = .ok (classifyBytes templates bytes) := by
    unfold classify
    rw [accepted]
    rfl
  refine ⟨templates, reads, fun code bytes accepted => ⟨_, classified accepted, ?_⟩⟩
  obtain ⟨contract, size, matched, proxy⟩ := classifyBytes_written written bytes
  rw [givenDigits_eq accepted]
  refine ⟨by rw [contract, decide_eq_true_iff], size, matched, by rw [proxy, decide_eq_true_iff],
    fun before after wider accepted' => ⟨_, classified accepted', ?_⟩, ?_⟩
  · rw [matched, (classifyBytes_written written _).2.2.1]
    intro name named
    obtain ⟨entry, member, rfl⟩ : ∃ entry ∈ table, entry.1 = name := by
      unfold standing at named
      split at named
      · cases named
      · obtain ⟨entry, kept, same⟩ := List.mem_map.mp named
        exact ⟨entry, List.mem_of_mem_filter kept, same⟩
    obtain ⟨filled, stands⟩ := (mem_standing distinct member).mp named
    refine (mem_standing distinct member).mpr
      ⟨?_, AlignedIn.wider (valid entry member) stands ⟨before, after, rfl⟩⟩
    simp only [digits_append, ne_eq, List.append_eq_nil_iff, not_and]
    exact fun ⟨_, empty⟩ => absurd empty filled
  · intro inner member outer member' named held
    rw [matched] at named ⊢
    obtain ⟨filled, stands⟩ := (mem_standing distinct member').mp named
    exact (mem_standing distinct member).mpr
      ⟨filled, AlignedIn.inner (valid inner member) (valid outer member') held stands⟩

/-- A template that straddles the bytes of a code marks nothing. -/
theorem classify_aligned_straddling :
    ∃ templates, readTemplates [("tail", "3D 73"), ("straddling", "63d7"), ("call", "363d73")] =
        .ok templates ∧
      ∃ kind, classify templates (.text "0x00363D7300") = .ok kind ∧
        kind.matched = ["tail", "call"] := by
  have valid : ∀ entry ∈ [("tail", "3D 73"), ("straddling", "63d7"), ("call", "363d73")],
      Hexadecimal entry.2.toList := by
    simp only [List.forall_mem_cons]
    refine ⟨.byte ?_ ?_ (.gap rfl (.byte ?_ ?_ .nil)), .byte ?_ ?_ (.byte ?_ ?_ .nil),
      .byte ?_ ?_ (.byte ?_ ?_ (.byte ?_ ?_ .nil)), fun _ member => nomatch member⟩
    all_goals decide
  obtain ⟨templates, reads, told⟩ := classify_aligned (by decide) valid
  obtain ⟨kind, classified, -, -, matched, -⟩ :=
    told (.text "0x00363D7300") [0x00, 0x36, 0x3d, 0x73, 0x00] rfl
  exact ⟨templates, reads, kind, classified, matched.trans (by decide)⟩

end Proxy

end ContractRisk
