/-
**What the cleaning of a text leaves as it is.**

`sanitize` only takes away, so a text comes back as it was if and only if there is nothing to take away
from it (`Plain`): no angle bracket, no place at which a fragment could begin, and no blank at its ends.

* `remove_eq_self`: nothing is removed from a text if and only if no end of it begins with a fragment;
* `sanitize_eq_self`, `sanitize_eq_empty`: when nothing is taken away from a text, and when all of it;
* `contractName_ok`, `cleaned_iff`: the names that are accepted, and those that show as they are.
-/

import ContractRisk.ContractName
import Mathlib.Data.List.Basic
import Mathlib.Data.List.DropRight

namespace ContractRisk

open Text

/-- A part of a text that is left whole by what comes after it is the whole text. -/
theorem part_eq_whole {whole part result : List Char} (within : part.Sublist whole)
    (left : result.Sublist part) (same : result = whole) : part = whole := by
  rw [same] at left
  exact within.antisymm left

/-! ### Trimming -/

namespace Text

variable (drop : Char → Bool) (chars : List Char)

theorem trimBy_eq : trimBy drop chars = (chars.dropWhile drop).rdropWhile drop := rfl

theorem trimBy_sublist : (trimBy drop chars).Sublist chars :=
  (List.rdropWhile_prefix drop _).sublist.trans (List.dropWhile_suffix drop).sublist

/-- Everything is trimmed from a text if and only if all its characters are dropped. -/
theorem trimBy_eq_nil : trimBy drop chars = [] ↔ ∀ c ∈ chars, drop c = true := by
  rw [trimBy_eq, List.rdropWhile_eq_nil_iff, ← List.dropWhile_eq_nil_iff, List.dropWhile_idempotent,
    List.dropWhile_eq_nil_iff]

/-- Nothing is trimmed from a text if and only if its first and its last character stay. -/
theorem trimBy_eq_self : trimBy drop chars = chars ↔
    ∀ nonempty : chars ≠ [],
      drop (chars.head nonempty) = false ∧ drop (chars.getLast nonempty) = false := by
  have first : chars.dropWhile drop = chars ↔
      ∀ nonempty : chars ≠ [], drop (chars.head nonempty) = false := by
    rw [List.dropWhile_eq_self_iff]
    cases chars <;> simp
  have last : chars.rdropWhile drop = chars ↔
      ∀ nonempty : chars ≠ [], drop (chars.getLast nonempty) = false := by
    rw [List.rdropWhile_eq_self_iff]
    simp
  rw [trimBy_eq]
  constructor
  · intro same
    have begun : chars.dropWhile drop = chars := part_eq_whole
      (List.dropWhile_suffix drop).sublist (List.rdropWhile_prefix drop _).sublist same
    rw [begun] at same
    exact fun nonempty => ⟨first.mp begun nonempty, last.mp same nonempty⟩
  · intro stay
    rw [first.mpr fun nonempty => (stay nonempty).1, last.mpr fun nonempty => (stay nonempty).2]

end Text

/-! ### Fragments -/

namespace Markup

theorem after?_suffix {word chars left : List Char} (found : after? word chars = some left) :
    left <:+ chars ∧ left.length + word.length = chars.length := by
  induction word generalizing chars with
  | nil =>
    cases found
    exact ⟨List.suffix_rfl, rfl⟩
  | cons letter word ih =>
    cases chars with
    | nil => cases found
    | cons c rest =>
      unfold after? at found
      split at found
      · obtain ⟨behind, lengths⟩ := ih found
        refine ⟨behind.trans (List.suffix_cons c rest), ?_⟩
        rw [List.length_cons, List.length_cons]
        omega
      · cases found

/-- **A finder of fragments**: what it leaves of a text is a proper end of the text. -/
def Shrinks (after? : List Char → Option (List Char)) : Prop :=
  ∀ chars left, after? chars = some left → left <:+ chars ∧ left.length < chars.length

theorem afterScript?_shrinks : Shrinks afterScript? := by
  intro chars left found
  obtain ⟨behind, lengths⟩ := after?_suffix found
  have word : "javascript:".toList.length = 11 := rfl
  exact ⟨behind, by omega⟩

theorem afterHandler?_shrinks : Shrinks afterHandler? := by
  intro chars left found
  unfold afterHandler? at found
  split at found
  · cases found
  · rename_i rest begun
    obtain ⟨behind, lengths⟩ := after?_suffix begun
    have word : "on".toList.length = 2 := rfl
    split at found
    · cases found
    · split at found
      · rename_i others equals
        cases found
        have after : left <:+ rest :=
          (equals ▸ List.suffix_cons '=' left).trans
            ((List.dropWhile_suffix _).trans (List.dropWhile_suffix _))
        refine ⟨after.trans behind, ?_⟩
        have le := after.length_le
        omega
      · cases found

section

variable {after? : List Char → Option (List Char)} (shrinks : Shrinks after?)

include shrinks

theorem remove_sublist (steps : Nat) (chars : List Char) :
    (remove after? steps chars).Sublist chars := by
  induction steps generalizing chars with
  | zero => exact List.Sublist.refl _
  | succ steps ih =>
    cases chars with
    | nil => exact List.Sublist.refl _
    | cons c rest =>
      unfold remove
      split
      · rename_i left found
        exact (ih left).trans (shrinks _ _ found).1.sublist
      · exact (ih rest).cons_cons c

/-- **Nothing is removed from a text if and only if no fragment begins in it.** -/
theorem remove_eq_self {steps : Nat} {chars : List Char} (enough : chars.length ≤ steps) :
    remove after? steps chars = chars ↔ ∀ rest, rest <:+ chars → after? rest = none := by
  have nowhere : after? [] = none := by
    cases found : after? [] with
    | none => rfl
    | some left => exact absurd (shrinks _ _ found).2 (Nat.not_lt_zero _)
  induction steps generalizing chars with
  | zero =>
    cases List.length_eq_zero_iff.mp (Nat.le_zero.mp enough)
    exact iff_of_true rfl fun rest behind => List.suffix_nil.mp behind ▸ nowhere
  | succ steps ih =>
    cases chars with
    | nil => exact iff_of_true rfl fun rest behind => List.suffix_nil.mp behind ▸ nowhere
    | cons c rest =>
      unfold remove
      cases found : after? (c :: rest) with
      | some left =>
        refine iff_of_false (fun same => ?_) (fun clear => ?_)
        · have shorter := (shrinks _ _ found).2
          have le := (remove_sublist shrinks steps left).length_le
          simp only at same
          rw [same] at le
          omega
        · rw [clear _ List.suffix_rfl] at found
          cases found
      | none =>
        rw [List.cons.injEq, eq_self, true_and]
        refine (ih (Nat.le_of_succ_le_succ enough)).trans
          ⟨fun clear other behind => ?_, fun clear other behind => ?_⟩
        · rcases List.suffix_cons_iff.mp behind with rfl | later
          · exact found
          · exact clear other later
        · exact clear other (behind.trans (List.suffix_cons c rest))

end

end Markup

/-! ### Cleaning -/

/-- **A text with nothing to take away.** -/
structure Plain (chars : List Char) : Prop where
  brackets : ∀ c ∈ chars, c ≠ '<' ∧ c ≠ '>'
  scripts : ∀ rest, rest <:+ chars → Markup.afterScript? rest = none
  handlers : ∀ rest, rest <:+ chars → Markup.afterHandler? rest = none
  ends : ∀ nonempty : chars ≠ [],
    isBlank (chars.head nonempty) = false ∧ isBlank (chars.getLast nonempty) = false

theorem stripMarkup_sublist (chars : List Char) : (stripMarkup chars).Sublist chars :=
  (Markup.remove_sublist Markup.afterHandler?_shrinks _ _).trans
    ((Markup.remove_sublist Markup.afterScript?_shrinks _ _).trans List.filter_sublist)

/-- Nothing is taken away from a text if and only if no step takes away from it. -/
theorem stripMarkup_eq_self (chars : List Char) : stripMarkup chars = chars ↔
    (∀ c ∈ chars, c ≠ '<' ∧ c ≠ '>') ∧ (∀ rest, rest <:+ chars → Markup.afterScript? rest = none) ∧
      ∀ rest, rest <:+ chars → Markup.afterHandler? rest = none := by
  have bracketless : (chars.filter fun c => c ≠ '<' && c ≠ '>') = chars ↔
      ∀ c ∈ chars, c ≠ '<' ∧ c ≠ '>' := by
    rw [List.filter_eq_self]
    simp
  rw [← bracketless, ← Markup.remove_eq_self Markup.afterScript?_shrinks le_rfl,
    ← Markup.remove_eq_self Markup.afterHandler?_shrinks le_rfl]
  show Markup.remove Markup.afterHandler? _ (Markup.remove Markup.afterScript? _ _) = chars ↔ _
  constructor
  · intro same
    have brackets : (chars.filter fun c => c ≠ '<' && c ≠ '>').Sublist chars := List.filter_sublist
    have scripts := Markup.remove_sublist Markup.afterScript?_shrinks
    have handlers := Markup.remove_sublist Markup.afterHandler?_shrinks
    -- the text is a part of every intermediate one, hence each of them is the text
    have plain := part_eq_whole brackets ((handlers _ _).trans (scripts _ _)) same
    rw [plain] at same
    have unscripted := part_eq_whole (scripts _ _) (handlers _ _) same
    rw [unscripted] at same
    exact ⟨plain, unscripted, same⟩
  · rintro ⟨brackets, scripts, handlers⟩
    rw [brackets, scripts, handlers]

theorem sanitize_sublist (text : String) : (sanitize text).toList.Sublist text.toList := by
  unfold sanitize
  rw [String.toList_ofList]
  exact (trimBy_sublist _ _).trans (stripMarkup_sublist _)

/-- **A text comes back as it was if and only if there is nothing to take away.** -/
theorem sanitize_eq_self (text : String) : sanitize text = text ↔ Plain text.toList := by
  unfold sanitize
  rw [← String.toList_inj, String.toList_ofList]
  constructor
  · intro same
    have stripped : stripMarkup text.toList = text.toList :=
      part_eq_whole (stripMarkup_sublist _) (trimBy_sublist _ _) same
    rw [stripped] at same
    obtain ⟨brackets, scripts, handlers⟩ := (stripMarkup_eq_self _).mp stripped
    exact ⟨brackets, scripts, handlers, (trimBy_eq_self _ _).mp same⟩
  · intro plain
    rw [(stripMarkup_eq_self _).mpr ⟨plain.brackets, plain.scripts, plain.handlers⟩,
      (trimBy_eq_self _ _).mpr plain.ends]

/-- **Nothing is left of a text if and only if all of it is markup and blanks.** -/
theorem sanitize_eq_empty (text : String) :
    sanitize text = "" ↔ ∀ c ∈ stripMarkup text.toList, isBlank c = true := by
  unfold sanitize
  rw [← trimBy_eq_nil, ← String.toList_inj, String.toList_ofList]
  rfl

/-! ### Names -/

/-- **A name is accepted if it is neither blank nor too long**, and then it is trimmed. -/
theorem contractName_ok {given : Value} {name : String} : contractName given = .ok name ↔
    ∃ text, given = .text text ∧ name = trim text ∧ name ≠ "" ∧
      name.length ≤ Refusal.maxNameLength := by
  constructor
  · intro accepted
    unfold contractName at accepted
    cases given with
    | text text =>
      simp only at accepted
      split at accepted
      · cases accepted
      · rename_i there
        split at accepted
        · cases accepted
        · rename_i short
          cases accepted
          exact ⟨text, rfl, rfl, fun none => there (String.isEmpty_iff.mpr none), Nat.le_of_not_lt short⟩
    | _ => cases accepted
  · rintro ⟨text, rfl, rfl, there, short⟩
    unfold contractName
    simp only
    rw [if_neg fun none => there (String.isEmpty_iff.mp none), if_neg (Nat.not_lt.mpr short)]

/-- **A text shows as it is if and only if it is a short name with nothing to take away.** -/
theorem cleaned_iff (text : String) :
    (text ≠ "" ∧ ∃ name, contractName (.text text) = .ok name ∧ text = sanitize name) ↔
      text ≠ "" ∧ text.length ≤ Refusal.maxNameLength ∧ Plain text.toList := by
  have trimmed : trim text = text ↔ trimBy isBlank text.toList = text.toList := by
    unfold trim
    rw [← String.toList_inj, String.toList_ofList]
  constructor
  · rintro ⟨there, name, accepted, same⟩
    obtain ⟨other, given, rfl, _, short⟩ := contractName_ok.mp accepted
    cases given
    -- what is left of the trimmed text is the text, so that nothing was trimmed
    have whole : trim text = text := trimmed.mpr <| by
      have part := sanitize_sublist (trim text)
      rw [trim, String.toList_ofList] at part
      exact part_eq_whole (trimBy_sublist _ _) part (by rw [← trim, ← same])
    rw [whole] at same short
    exact ⟨there, short, (sanitize_eq_self text).mp same.symm⟩
  · rintro ⟨there, short, plain⟩
    have whole : trim text = text := trimmed.mpr ((trimBy_eq_self _ _).mpr plain.ends)
    refine ⟨there, text, contractName_ok.mpr ⟨text, rfl, whole.symm, there, short⟩, ?_⟩
    exact ((sanitize_eq_self text).mpr plain).symm

end ContractRisk
