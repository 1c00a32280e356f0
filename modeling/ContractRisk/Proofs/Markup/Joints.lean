/-
**What cleaning leaves behind.**

Each kind of fragment is removed in one pass. What is kept between two removed fragments is a stretch of
the text and holds no fragment itself, but the stretches are joined, and a joint can make a new one:

* `stretches`, `remove_eq_flatten`: what a pass keeps, stretch by stretch;
* `stretches_free`: no stretch holds a fragment, so that whatever fragment is left crosses a joint;
* `infix_trimBy`: trimming leaves fragments as they are, since they neither begin nor end with a blank;
* `script_survives`: a script prefix that is there when handlers are removed is there afterwards;
* `sanitize_clean_iff`: hence a cleaned text never has an angle bracket, and it is clean, and comes back
  as it is from a second cleaning, if and only if no pass joins a fragment.
-/

import ContractRisk.Proofs.ContractName
import ContractRisk.Proofs.Markup.Fragments

namespace ContractRisk

open Text

namespace Markup

/-! ### Stretches -/

/-- **The stretches of a text that a pass keeps**, between the fragments that it removes. -/
def stretches (after? : List Char → Option (List Char)) : Nat → List Char → List (List Char)
  | 0, chars => [chars]
  | _ + 1, [] => [[]]
  | steps + 1, c :: rest =>
    match after? (c :: rest) with
    | some left => [] :: stretches after? steps left
    | none => (stretches after? steps rest).modifyHead (c :: ·)

section

variable {after? : List Char → Option (List Char)}

variable (after?) in
/-- There is a first stretch, and the text begins with it. -/
theorem stretches_eq_cons (steps : Nat) (chars : List Char) :
    ∃ first others, stretches after? steps chars = first :: others ∧ first <+: chars := by
  induction steps generalizing chars with
  | zero => exact ⟨chars, [], rfl, List.prefix_rfl⟩
  | succ steps ih =>
    cases chars with
    | nil => exact ⟨[], [], rfl, List.prefix_rfl⟩
    | cons c rest =>
      unfold stretches
      cases after? (c :: rest) with
      | some left => exact ⟨[], _, rfl, List.nil_prefix⟩
      | none =>
        obtain ⟨first, others, parts, front⟩ := ih rest
        refine ⟨c :: first, others, ?_, List.cons_prefix_cons.mpr ⟨rfl, front⟩⟩
        simp only
        rw [parts, List.modifyHead_cons]

/-- **A pass joins the stretches that it keeps.** -/
theorem remove_eq_flatten (steps : Nat) (chars : List Char) :
    remove after? steps chars = (stretches after? steps chars).flatten := by
  induction steps generalizing chars with
  | zero => exact (List.append_nil chars).symm
  | succ steps ih =>
    cases chars with
    | nil => rfl
    | cons c rest =>
      unfold remove stretches
      cases after? (c :: rest) with
      | some left => exact ih left
      | none =>
        obtain ⟨first, others, parts, _⟩ := stretches_eq_cons after? steps rest
        simp only
        rw [ih, parts, List.modifyHead_cons, List.flatten_cons, List.flatten_cons, List.cons_append]

variable {Fragment : List Char → Prop}

/-- A stretch is a part of the text without gaps. -/
theorem stretches_within (finds : Finds after? Fragment) (steps : Nat) (chars : List Char) :
    ∀ part ∈ stretches after? steps chars, part <:+: chars := by
  induction steps generalizing chars with
  | zero => exact List.forall_mem_singleton.mpr List.infix_rfl
  | succ steps ih =>
    cases chars with
    | nil => exact List.forall_mem_singleton.mpr List.infix_rfl
    | cons c rest =>
      unfold stretches
      cases found : after? (c :: rest) with
      | some left =>
        obtain ⟨fragment, _, whole⟩ := finds.found.mp found
        have behind : left <:+ c :: rest := ⟨fragment, whole.symm⟩
        refine List.forall_mem_cons.mpr ⟨List.nil_infix, fun part member => ?_⟩
        exact (ih left part member).trans behind.isInfix
      | none =>
        have later := ih rest
        obtain ⟨first, others, parts, front⟩ := stretches_eq_cons after? steps rest
        rw [parts] at later
        simp only
        rw [parts, List.modifyHead_cons]
        refine List.forall_mem_cons.mpr ⟨(List.cons_prefix_cons.mpr ⟨rfl, front⟩).isInfix, ?_⟩
        exact fun part member => List.infix_cons (later part (List.mem_cons_of_mem first member))

/-- **No stretch holds a fragment**: at its first character the pass would have found it, and no stretch
would go on there. -/
theorem stretches_free (finds : Finds after? Fragment) {steps : Nat} {chars : List Char}
    (enough : chars.length ≤ steps) {fragment : List Char} (is : Fragment fragment) :
    ∀ part ∈ stretches after? steps chars, ¬ fragment <:+: part := by
  have there := finds.nonempty is
  induction steps generalizing chars with
  | zero =>
    cases List.length_eq_zero_iff.mp (Nat.le_zero.mp enough)
    intro part member
    cases List.mem_singleton.mp member
    exact fun inside => there (List.infix_nil.mp inside)
  | succ steps ih =>
    cases chars with
    | nil =>
      intro part member
      cases List.mem_singleton.mp member
      exact fun inside => there (List.infix_nil.mp inside)
    | cons c rest =>
      unfold stretches
      cases found : after? (c :: rest) with
      | some left =>
        have shorter := finds.shorter found
        refine List.forall_mem_cons.mpr ⟨fun inside => there (List.infix_nil.mp inside), ?_⟩
        exact ih (by omega)
      | none =>
        have later := ih (Nat.le_of_succ_le_succ enough)
        obtain ⟨first, others, parts, front⟩ := stretches_eq_cons after? steps rest
        rw [parts] at later
        simp only
        rw [parts, List.modifyHead_cons]
        obtain ⟨inFirst, inOthers⟩ := List.forall_mem_cons.mp later
        refine List.forall_mem_cons.mpr ⟨fun inside => ?_, inOthers⟩
        rcases List.infix_cons_iff.mp inside with here | later
        · obtain ⟨left, whole⟩ := here.trans (List.cons_prefix_cons.mpr ⟨rfl, front⟩)
          rw [finds.found.mpr ⟨fragment, is, whole.symm⟩] at found
          cases found
        · exact inFirst later

end

/-- **A fragment that a pass has joined**: it stands in what is left of a text, but in none of its
stretches. -/
def Joined (Fragment : List Char → Prop) (parts : List (List Char)) : Prop :=
  ∃ fragment, Fragment fragment ∧ fragment <:+: parts.flatten ∧ ∀ part ∈ parts, ¬ fragment <:+: part

end Markup

/-! ### Trimming -/

namespace Text

variable {drop : Char → Bool}

theorem infix_dropWhile {fragment chars : List Char} (there : fragment ≠ [])
    (stays : drop (fragment.head there) = false) :
    fragment <:+: chars.dropWhile drop ↔ fragment <:+: chars := by
  induction chars with
  | nil => rfl
  | cons c rest ih =>
    rw [List.dropWhile_cons]
    split
    · rename_i dropped
      rw [ih, List.infix_cons_iff]
      refine (or_iff_right fun front => ?_).symm
      obtain ⟨left, whole⟩ := front
      cases fragment with
      | nil => exact there rfl
      | cons first others =>
        cases whole
        exact Bool.false_ne_true (stays.symm.trans dropped)
    · rfl

/-- **Trimming leaves a fragment as it is** that neither begins nor ends with what is dropped. -/
theorem infix_trimBy {fragment chars : List Char} (there : fragment ≠ [])
    (begins : drop (fragment.head there) = false) (ends : drop (fragment.getLast there) = false) :
    fragment <:+: trimBy drop chars ↔ fragment <:+: chars := by
  have back : fragment.reverse ≠ [] := by simpa using there
  have last : drop (fragment.reverse.head back) = false := by simpa using ends
  unfold trimBy
  rw [← List.reverse_infix, List.reverse_reverse, infix_dropWhile back last, List.reverse_infix,
    infix_dropWhile there begins]

/-- A trimmed text has nothing left to drop at its ends. -/
theorem trimBy_ends (chars : List Char) (nonempty : trimBy drop chars ≠ []) :
    drop ((trimBy drop chars).head nonempty) = false ∧
      drop ((trimBy drop chars).getLast nonempty) = false := by
  have front : trimBy drop chars <+: chars.dropWhile drop := List.rdropWhile_prefix drop _
  constructor
  · rw [front.head nonempty]
    exact List.head_dropWhile_not drop _
  · exact Bool.eq_false_iff.mpr (List.rdropWhile_last_not drop (chars.dropWhile drop) nonempty)

end Text

namespace Markup

/-- Trimming leaves a script prefix as it is. -/
theorem script_infix_trim {fragment : List Char} (script : Script fragment) (chars : List Char) :
    fragment <:+: trimBy isBlank chars ↔ fragment <:+: chars :=
  infix_trimBy (afterScript?_finds.nonempty script)
    (script.char _ (List.head_mem _)).2.2 (script.char _ (List.getLast_mem _)).2.2

/-- Trimming leaves a handler as it is. -/
theorem handler_infix_trim {fragment : List Char} (handler : Handler fragment) (chars : List Char) :
    fragment <:+: trimBy isBlank chars ↔ fragment <:+: chars := by
  obtain ⟨⟨first, _, begins, letter⟩, _, ends⟩ := handler.ends
  refine infix_trimBy (afterHandler?_finds.nonempty handler) ?_ ?_
  · simp only [begins, List.head_cons]
    exact isBlank_of_isLetter letter
  · simp only [ends, List.getLast_append_singleton]
    decide

/-! ### Script prefixes among handlers -/

/-- A text of which no end begins with a fragment stays in front when fragments are removed. -/
theorem remove_front {after? : List Char → Option (List Char)} {front rest : List Char} {steps : Nat}
    (nowhere : ∀ last, last <:+ front → last ≠ [] → after? (last ++ rest) = none) :
    front <+: remove after? steps (front ++ rest) := by
  induction front generalizing steps with
  | nil => exact List.nil_prefix
  | cons c others ih =>
    cases steps with
    | zero => exact List.prefix_append _ _
    | succ steps =>
      have here := nowhere (c :: others) List.suffix_rfl (List.cons_ne_nil c others)
      have later : others <+: remove after? steps (others ++ rest) :=
        ih fun last behind => nowhere last (behind.trans (List.suffix_cons c others))
      rw [List.cons_append] at here ⊢
      unfold remove
      rw [here]
      exact List.cons_prefix_cons.mpr ⟨rfl, later⟩

variable {script : List Char}

/-- No handler begins inside of a script prefix. -/
theorem afterHandler?_script (is : Script script) (rest : List Char) :
    ∀ last, last <:+ script → last ≠ [] → afterHandler? (last ++ rest) = none := by
  intro last behind there
  cases found : afterHandler? (last ++ rest) with
  | none => rfl
  | some left =>
    obtain ⟨fragment, handler, whole⟩ := afterHandler?_finds.found.mp found
    obtain ⟨⟨first, others, begins, letter⟩, _⟩ := handler.ends
    cases last with
    | nil => exact absurd rfl there
    | cons c _ =>
      rw [begins, List.cons_append, List.cons_append] at whole
      rw [← (List.cons.inj whole).1, (is.char c (behind.mem List.mem_cons_self)).1] at letter
      cases letter

/-- **A handler in front of a script prefix ends before it**: it has no colon, so that it cannot go beyond
the prefix, and the prefix has no equals sign, so that it cannot end inside. -/
theorem handler_before_script {before rest fragment left : List Char} (is : Script script)
    (handler : Handler fragment)
    (whole : before ++ (script ++ rest) = fragment ++ left) :
    ∃ between, left = between ++ (script ++ rest) := by
  rcases List.append_eq_append_iff.mp whole with ⟨beyond, rfl, inside⟩ | ⟨between, _, rfl⟩
  · cases beyond with
    | nil => exact ⟨[], inside.symm⟩
    | cons c others =>
      exfalso
      rcases List.append_eq_append_iff.mp inside with ⟨more, longer, _⟩ | ⟨more, within, _⟩
      · refine handler.colon (List.mem_append_right _ ?_)
        rw [longer]
        exact List.mem_append_left _ is.colon
      · obtain ⟨_, start, ends⟩ := handler.ends
        have last : (c :: others).getLast? = some '=' := by
          have same := congrArg List.getLast? ends
          rwa [List.getLast?_append_of_ne_nil _ (List.cons_ne_nil c others), List.getLast?_concat] at same
        have inScript : '=' ∈ script := by
          rw [within]
          exact List.mem_append_left _ (List.mem_of_getLast? last)
        exact (is.char '=' inScript).2.1 rfl
  · exact ⟨between, rfl⟩

/-- **A script prefix outlives the removal of handlers.** -/
theorem script_survives (is : Script script) {chars : List Char} (there : script <:+: chars)
    (steps : Nat) : script <:+: remove afterHandler? steps chars := by
  obtain ⟨before, rest, rfl⟩ := there
  rw [List.append_assoc]
  induction steps generalizing before with
  | zero => exact List.infix_append' _ _ _
  | succ steps ih =>
    cases before with
    | nil => exact (remove_front (afterHandler?_script is rest)).isInfix
    | cons c others =>
      rw [List.cons_append]
      unfold remove
      cases found : afterHandler? (c :: (others ++ (script ++ rest))) with
      | none => exact List.infix_cons (ih others)
      | some left =>
        obtain ⟨fragment, handler, whole⟩ := afterHandler?_finds.found.mp found
        rw [← List.cons_append] at whole
        obtain ⟨between, rfl⟩ := handler_before_script is handler whole
        exact ih between

/-! ### Clean texts -/

/-- **A text without angle brackets, script prefixes and handlers.** -/
structure Clean (chars : List Char) : Prop where
  brackets : ∀ c ∈ chars, c ≠ '<' ∧ c ≠ '>'
  scripts : ∀ fragment, Script fragment → ¬ fragment <:+: chars
  handlers : ∀ fragment, Handler fragment → ¬ fragment <:+: chars

/-- **A text in whose cleaning a fragment is joined**: a script prefix where script prefixes are removed,
or one of either kind where handlers are. -/
def Joins (chars : List Char) : Prop :=
  let plain := chars.filter fun c => c ≠ '<' && c ≠ '>'
  let unscripted := remove afterScript? plain.length plain
  Joined Script (stretches afterScript? plain.length plain) ∨
    Joined (fun fragment => Script fragment ∨ Handler fragment)
      (stretches afterHandler? unscripted.length unscripted)

/-- **A fragment is left if and only if one is joined.** -/
theorem stripMarkup_free (chars : List Char) :
    ((∀ fragment, Script fragment → ¬ fragment <:+: stripMarkup chars) ∧
      ∀ fragment, Handler fragment → ¬ fragment <:+: stripMarkup chars) ↔ ¬ Joins chars := by
  let plain := chars.filter fun c => c ≠ '<' && c ≠ '>'
  let unscripted := remove afterScript? plain.length plain
  have kept : unscripted = (stretches afterScript? plain.length plain).flatten := remove_eq_flatten _ _
  have left : stripMarkup chars = (stretches afterHandler? unscripted.length unscripted).flatten :=
    remove_eq_flatten _ _
  constructor
  · rintro ⟨noScript, noHandler⟩ (⟨fragment, script, inside, _⟩ | ⟨fragment, script | handler, inside, _⟩)
    · rw [← kept] at inside
      exact noScript fragment script (script_survives script inside _)
    · rw [← left] at inside
      exact noScript fragment script inside
    · rw [← left] at inside
      exact noHandler fragment handler inside
  · intro apart
    refine ⟨fun fragment script inside => ?_, fun fragment handler inside => ?_⟩
    · rw [left] at inside
      by_cases whole : ∃ part ∈ stretches afterHandler? unscripted.length unscripted, fragment <:+: part
      · -- no joint was crossed when handlers were removed, hence one was before that
        obtain ⟨part, member, within⟩ := whole
        have earlier := within.trans (stretches_within afterHandler?_finds _ _ part member)
        rw [kept] at earlier
        exact apart (.inl ⟨fragment, script, earlier, stretches_free afterScript?_finds le_rfl script⟩)
      · exact apart (.inr ⟨fragment, .inl script, inside, fun part member within =>
          whole ⟨part, member, within⟩⟩)
    · rw [left] at inside
      exact apart (.inr ⟨fragment, .inr handler, inside,
        stretches_free afterHandler?_finds le_rfl handler⟩)

end Markup

open Markup

theorem sanitize_toList (text : String) :
    (sanitize text).toList = trimBy isBlank (stripMarkup text.toList) := String.toList_ofList

/-- A cleaned text has no angle bracket. -/
theorem sanitize_brackets (text : String) : ∀ c ∈ (sanitize text).toList, c ≠ '<' ∧ c ≠ '>' := by
  intro c member
  have removed : (stripMarkup text.toList).Sublist
      (text.toList.filter fun c => c ≠ '<' && c ≠ '>') :=
    (remove_sublist afterHandler?_shrinks _ _).trans (remove_sublist afterScript?_shrinks _ _)
  rw [sanitize_toList] at member
  have plain := List.mem_filter.mp (((trimBy_sublist isBlank _).trans removed).mem member)
  simpa using plain.2

/-- **A cleaned text comes back from a second cleaning if and only if it is clean.** -/
theorem sanitize_again (text : String) :
    sanitize (sanitize text) = sanitize text ↔ Clean (sanitize text).toList := by
  rw [sanitize_eq_self]
  constructor
  · intro plain
    exact ⟨plain.brackets, afterScript?_finds.none_iff.mp plain.scripts,
      afterHandler?_finds.none_iff.mp plain.handlers⟩
  · intro clean
    refine ⟨clean.brackets, afterScript?_finds.none_iff.mpr clean.scripts,
      afterHandler?_finds.none_iff.mpr clean.handlers, ?_⟩
    rw [sanitize_toList]
    exact trimBy_ends _

/-- **When cleaning makes a text clean.** A cleaned text never has an angle bracket; it has neither a
script prefix nor a handler, and comes back as it is from a second cleaning, if and only if no fragment
is joined from what stands around the removed ones. -/
theorem sanitize_clean_iff (text : String) :
    (∀ c ∈ (sanitize text).toList, c ≠ '<' ∧ c ≠ '>') ∧
      (Clean (sanitize text).toList ∧ sanitize (sanitize text) = sanitize text ↔
        ¬ Joins text.toList) ∧
      (sanitize (sanitize text) = sanitize text ↔ Clean (sanitize text).toList) := by
  have clean : Clean (sanitize text).toList ↔ ¬ Joins text.toList := by
    rw [← stripMarkup_free]
    constructor
    · intro clean
      refine ⟨fun fragment script inside => clean.scripts fragment script ?_,
        fun fragment handler inside => clean.handlers fragment handler ?_⟩
      · rw [sanitize_toList]
        exact (script_infix_trim script _).mpr inside
      · rw [sanitize_toList]
        exact (handler_infix_trim handler _).mpr inside
    · rintro ⟨noScript, noHandler⟩
      refine ⟨sanitize_brackets text, fun fragment script inside => noScript fragment script ?_,
        fun fragment handler inside => noHandler fragment handler ?_⟩
      · rw [sanitize_toList] at inside
        exact (script_infix_trim script _).mp inside
      · rw [sanitize_toList] at inside
        exact (handler_infix_trim handler _).mp inside
  exact ⟨sanitize_brackets text, by rw [sanitize_again, and_self, clean], sanitize_again text⟩

/-- Taking out the inner script prefix makes a whole one of the outer. -/
example : sanitize "javajavascript:script:alert(1)" = "javascript:alert(1)" := by decide

/-- Taking out a handler makes a whole one of what stands around it. -/
example : sanitize "ooncopy=nclick=steal()" = "onclick=steal()" := by decide

end ContractRisk
