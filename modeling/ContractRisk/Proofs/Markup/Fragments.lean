/-
**The fragments that cleaning looks for.**

A script prefix is the word `javascript:` in any letter case, and an event handler the letters `on`, a
word, blanks and an equals sign (`Script`, `Handler`). A finder looks for them at the front of a text:

* `isWord_of_isBlank`: no character is both blank and part of a word, so that the word of a handler ends
  in one place only;
* `afterScript?_finds`, `afterHandler?_finds`: hence each finder succeeds if and only if a fragment of
  its kind stands at the front, and leaves what follows it;
* `Finds.none_iff`: a finder that fails at every place tells of a text without fragments;
* `Script.char`, `Handler.colon`: what is in a script prefix has no place at the ends of a handler, and its
  colon none in one.
-/

import ContractRisk.ContractName
import Mathlib.Data.List.Forall2
import Mathlib.Data.List.Infix
import Mathlib.Data.List.TakeWhile

namespace ContractRisk

namespace Text

/-- Whether no range of one table meets a range of another. -/
def rangesApart (ranges others : Array (Nat × Nat)) : Bool :=
  ranges.toList.all fun range => others.toList.all fun other =>
    range.2 < other.1 || other.2 < range.1

/-- Tables that lie apart have no character in common. -/
theorem inRanges_disjoint {ranges others : Array (Nat × Nat)} (apart : rangesApart ranges others = true)
    {code : Nat} (inside : inRanges ranges code = true) : inRanges others code = false := by
  obtain ⟨range, member, within⟩ := Array.any_eq_true'.mp inside
  refine Array.any_eq_false'.mpr fun other otherMember both => ?_
  have against := List.all_eq_true.mp apart range member.val
  have disjoint := List.all_eq_true.mp against other otherMember.val
  simp only [Bool.and_eq_true, Bool.or_eq_true, decide_eq_true_eq] at within both disjoint
  omega

/-- **A blank is no part of a word.** -/
theorem isWord_of_isBlank {c : Char} (blank : isBlank c = true) : isWord c = false := by
  have apart : rangesApart blankRanges wordRanges = true := by decide +kernel
  by_cases ascii : c.toNat < 128
  · have each : ∀ code < 128, isBlank (Char.ofNat code) = true → isWord (Char.ofNat code) = false := by
      decide
    have here := each c.toNat ascii
    rw [Char.ofNat_toNat] at here
    exact here blank
  · unfold isBlank at blank
    rw [if_neg ascii] at blank
    unfold isWord
    rw [if_neg ascii]
    exact inRanges_disjoint apart blank

end Text

open Text

namespace Markup

/-- **A word in any letter case.** -/
abbrev Spells (word fragment : List Char) : Prop :=
  List.Forall₂ (fun letter c => isLetter letter c = true) word fragment

/-- **A script prefix.** -/
def Script (fragment : List Char) : Prop := Spells "javascript:".toList fragment

/-- **An event handler**, up to its equals sign. -/
inductive Handler : List Char → Prop
  | intro {start word blanks : List Char} :
      Spells "on".toList start → word ≠ [] → (∀ c ∈ word, isWord c = true) →
      (∀ c ∈ blanks, isBlank c = true) → Handler (start ++ (word ++ (blanks ++ ['='])))

/-- **A finder of fragments**: it succeeds if a fragment stands at the front of a text, and leaves what
follows the fragment. -/
structure Finds (after? : List Char → Option (List Char)) (Fragment : List Char → Prop) : Prop where
  found : ∀ {chars left}, after? chars = some left ↔
    ∃ fragment, Fragment fragment ∧ chars = fragment ++ left
  nonempty : ∀ {fragment}, Fragment fragment → fragment ≠ []

/-- What a finder leaves is shorter. -/
theorem Finds.shorter {after? : List Char → Option (List Char)} {Fragment : List Char → Prop}
    (finds : Finds after? Fragment) {chars left : List Char} (found : after? chars = some left) :
    left.length < chars.length := by
  obtain ⟨fragment, is, rfl⟩ := finds.found.mp found
  have some := List.length_pos_iff.mpr (finds.nonempty is)
  rw [List.length_append]
  omega

/-- A finder fails at every place of a text if and only if no fragment stands in it. -/
theorem Finds.none_iff {after? : List Char → Option (List Char)} {Fragment : List Char → Prop}
    (finds : Finds after? Fragment) {chars : List Char} :
    (∀ rest, rest <:+ chars → after? rest = none) ↔
      ∀ fragment, Fragment fragment → ¬ fragment <:+: chars := by
  constructor
  · rintro nowhere fragment is ⟨before, left, rfl⟩
    have behind : fragment ++ left <:+ before ++ fragment ++ left :=
      ⟨before, (List.append_assoc ..).symm⟩
    have found : after? (fragment ++ left) = some left := finds.found.mpr ⟨fragment, is, rfl⟩
    rw [nowhere _ behind] at found
    cases found
  · intro free rest behind
    cases here : after? rest with
    | none => rfl
    | some left =>
      obtain ⟨fragment, is, rfl⟩ := finds.found.mp here
      exact absurd ((List.prefix_append fragment left).isInfix.trans behind.isInfix) (free fragment is)

/-! ### Words -/

theorem after?_eq_some {word chars left : List Char} : after? word chars = some left ↔
    ∃ start, Spells word start ∧ chars = start ++ left := by
  induction word generalizing chars with
  | nil =>
    constructor
    · intro found
      cases found
      exact ⟨[], .nil, rfl⟩
    · rintro ⟨start, ⟨⟩, rfl⟩
      rfl
  | cons letter word ih =>
    constructor
    · intro found
      cases chars with
      | nil => cases found
      | cons c rest =>
        rw [after?] at found
        split at found
        · rename_i same
          obtain ⟨start, spells, rfl⟩ := ih.mp found
          exact ⟨c :: start, .cons same spells, rfl⟩
        · cases found
    · rintro ⟨start, spells, rfl⟩
      cases spells with
      | cons same spells =>
        rw [List.cons_append, after?, if_pos same]
        exact ih.mpr ⟨_, spells, rfl⟩

/-- **The finder of script prefixes finds script prefixes.** -/
theorem afterScript?_finds : Finds afterScript? Script where
  found := after?_eq_some
  nonempty := by
    rintro _ spells rfl
    cases spells

/-! ### Handlers -/

/-- A class of characters that ends in one place is cut off there. -/
theorem span_stops {among : Char → Bool} {body rest : List Char}
    (inside : ∀ c ∈ body, among c = true) (stops : ∀ c ∈ rest.head?, among c = false) :
    (body ++ rest).takeWhile among = body ∧ (body ++ rest).dropWhile among = rest := by
  rw [List.takeWhile_append_of_pos inside, List.dropWhile_append_of_pos inside]
  cases rest with
  | nil => exact ⟨List.append_nil body, rfl⟩
  | cons c rest =>
    have stop : among c = false := stops c rfl
    rw [List.takeWhile_cons_of_neg (by simp [stop]), List.dropWhile_cons_of_neg (by simp [stop])]
    exact ⟨List.append_nil body, rfl⟩

/-- What the finder of handlers passes over is a handler. -/
theorem handler_of_found {chars left : List Char} (found : afterHandler? chars = some left) :
    ∃ fragment, Handler fragment ∧ chars = fragment ++ left := by
  unfold afterHandler? at found
  split at found
  · cases found
  · rename_i rest begun
    obtain ⟨start, spells, rfl⟩ := after?_eq_some.mp begun
    split at found
    · cases found
    · rename_i some
      split at found
      · rename_i others equals
        cases found
        have handler : Handler (start ++ (rest.takeWhile isWord ++
            ((rest.dropWhile isWord).takeWhile isBlank ++ ['=']))) :=
          .intro spells (fun none => some (List.isEmpty_iff.mpr none))
            (fun c => List.mem_takeWhile_imp) (fun c => List.mem_takeWhile_imp)
        have blanks := List.takeWhile_append_dropWhile (p := isBlank) (l := rest.dropWhile isWord)
        rw [equals] at blanks
        refine ⟨_, handler, ?_⟩
        rw [List.append_assoc, List.append_assoc, List.append_assoc, List.singleton_append, blanks,
          List.takeWhile_append_dropWhile]
      · cases found

/-- **A handler is found.** What follows its word is no part of a word, be it a blank or the equals sign,
so that the greatest stretch of word characters is the one that will do. -/
theorem afterHandler?_append {fragment : List Char} (handler : Handler fragment) (left : List Char) :
    afterHandler? (fragment ++ left) = some left := by
  obtain @⟨start, word, blanks, spells, there, words, blank⟩ := handler
  have stops : ∀ c ∈ (blanks ++ '=' :: left).head?, isWord c = false := by
    cases blanks with
    | nil =>
      rintro c ⟨⟩
      decide
    | cons c others =>
      rintro c ⟨⟩
      exact isWord_of_isBlank (blank c List.mem_cons_self)
  have ends : ∀ c ∈ ('=' :: left).head?, isBlank c = false := by
    rintro c ⟨⟩
    decide
  obtain ⟨taken, dropped⟩ := span_stops words stops
  have begun : after? "on".toList (start ++ (word ++ (blanks ++ '=' :: left))) =
      some (word ++ (blanks ++ '=' :: left)) := after?_eq_some.mpr ⟨start, spells, rfl⟩
  rw [List.append_assoc, List.append_assoc, List.append_assoc, List.singleton_append]
  unfold afterHandler?
  rw [begun]
  simp only
  rw [taken, dropped, (span_stops blank ends).2, if_neg (by simpa using there)]
  rfl

/-- **The finder of handlers finds handlers.** -/
theorem afterHandler?_finds : Finds afterHandler? Handler where
  found := by
    intro chars left
    constructor
    · exact handler_of_found
    · rintro ⟨fragment, handler, rfl⟩
      exact afterHandler?_append handler left
  nonempty := by
    rintro _ ⟨⟩ none
    simp at none

/-! ### Characters of fragments -/

/-- The characters that can stand for a letter: those of ASCII, and three beyond. -/
def letterForms : List Char := (List.range 128).map Char.ofNat ++ ['İ', 'ı', 'ſ']

theorem mem_letterForms {letter c : Char} (ascii : letter.toNat < 128)
    (same : isLetter letter c = true) : c ∈ letterForms := by
  by_cases low : c.toNat < 128
  · exact List.mem_append_left _ (List.mem_map.mpr ⟨c.toNat, List.mem_range.mpr low, Char.ofNat_toNat c⟩)
  · have unchanged : c.toLower = c := by
      unfold Char.toLower
      grind [Char.toNat, UInt32.le_iff_toNat_le]
    have other : c ≠ letter := fun equal => low (equal ▸ ascii)
    have code {n : Nat} (is : c.toNat = n) : c = Char.ofNat n := by
      rw [← is, Char.ofNat_toNat]
    unfold isLetter at same
    simp only [unchanged, other, decide_false, Bool.false_or, Bool.or_eq_true, Bool.and_eq_true,
      decide_eq_true_eq] at same
    refine List.mem_append_right _ ?_
    rcases same with ⟨_, capital | dotless⟩ | ⟨_, long⟩
    · rw [code capital]
      decide
    · rw [code dotless]
      decide
    · rw [code long]
      decide

/-- What passes a test as a form of a letter passes it wherever it stands for the letter. -/
theorem test_of_forms (test : Char → Bool) {letter c : Char} (ascii : letter.toNat < 128)
    (passed : (letterForms.all fun form => !isLetter letter form || test form) = true)
    (same : isLetter letter c = true) : test c = true := by
  have here := List.all_eq_true.mp passed c (mem_letterForms ascii same)
  rwa [same] at here

/-- A colon has one form only. -/
theorem isLetter_colon {c : Char} (same : isLetter ':' c = true) : c = ':' := by
  have forms : (letterForms.all fun form => !isLetter ':' form || decide (form = ':')) = true := by
    decide +kernel
  exact of_decide_eq_true (test_of_forms (fun form => decide (form = ':')) (by decide) forms same)

/-- What stands on the right of related lists has something related on the left. -/
theorem exists_related {β γ : Type} {related : β → γ → Prop} {items : List β} {others : List γ}
    (alike : List.Forall₂ related items others) : ∀ other ∈ others, ∃ item ∈ items, related item other := by
  induction alike with
  | nil => exact fun _ member => nomatch member
  | @cons item other _ _ here _ ih =>
    refine List.forall_mem_cons.mpr ⟨⟨item, List.mem_cons_self, here⟩, fun later member => ?_⟩
    obtain ⟨source, inItems, same⟩ := ih later member
    exact ⟨source, List.mem_cons_of_mem _ inItems, same⟩

/-- Whether a character neither begins a handler, nor ends one, nor is blank. -/
def isHarmless (c : Char) : Bool := !isLetter 'o' c && (c != '=' && !isBlank c)

/-- **No character of a script prefix begins a handler, ends one or is blank.** -/
theorem Script.char {fragment : List Char} (script : Script fragment) :
    ∀ c ∈ fragment, isLetter 'o' c = false ∧ c ≠ '=' ∧ isBlank c = false := by
  have forms : ("javascript:".toList.all fun letter => decide (letter.toNat < 128) &&
      letterForms.all fun form => !isLetter letter form || isHarmless form) = true := by decide +kernel
  intro c member
  obtain ⟨letter, inWord, same⟩ := exists_related script c member
  obtain ⟨ascii, passed⟩ := Bool.and_eq_true_iff.mp (List.all_eq_true.mp forms letter inWord)
  have here : isHarmless c = true := test_of_forms isHarmless (of_decide_eq_true ascii) passed same
  simpa only [isHarmless, Bool.and_eq_true, Bool.not_eq_true', bne_iff_ne] using here

/-- A script prefix has a colon. -/
theorem Script.colon {fragment : List Char} (script : Script fragment) : ':' ∈ fragment := by
  obtain ⟨c, member, same⟩ := exists_related script.flip ':' (by decide)
  exact isLetter_colon same ▸ member

/-- The first letter of a handler is no blank. -/
theorem isBlank_of_isLetter {c : Char} (same : isLetter 'o' c = true) : isBlank c = false := by
  have forms : (letterForms.all fun form => !isLetter 'o' form || !isBlank form) = true := by
    decide +kernel
  simpa only [Bool.not_eq_true'] using test_of_forms (fun form => !isBlank form) (by decide) forms same

/-- A handler begins with its first letter and ends with its equals sign. -/
theorem Handler.ends {fragment : List Char} (handler : Handler fragment) :
    (∃ first others, fragment = first :: others ∧ isLetter 'o' first = true) ∧
      ∃ others, fragment = others ++ ['='] := by
  obtain @⟨start, word, blanks, spells, _, _, _⟩ := handler
  refine ⟨?_, start ++ (word ++ blanks), by simp only [List.append_assoc]⟩
  cases spells with
  | cons same _ => exact ⟨_, _, List.cons_append .., same⟩

/-- **A handler has no colon**, be it in its letters, in its word or among its blanks. -/
theorem Handler.colon {fragment : List Char} (handler : Handler fragment) : ':' ∉ fragment := by
  obtain @⟨start, word, blanks, spells, _, words, blank⟩ := handler
  have letters : ':' ∉ start := by
    intro member
    have none : ("on".toList.all fun letter => !isLetter letter ':') = true := by decide
    obtain ⟨letter, inWord, same⟩ := exists_related spells ':' member
    have other := List.all_eq_true.mp none letter inWord
    rw [same] at other
    cases other
  have inWord : ':' ∉ word := fun member => by
    have letter := words ':' member
    revert letter
    decide
  have inBlanks : ':' ∉ blanks := fun member => by
    have space := blank ':' member
    revert space
    decide
  simp [letters, inWord, inBlanks]

end Markup

end ContractRisk
