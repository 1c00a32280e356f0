/-
**The word by which a transfer is told.**

A function is a transfer if its name in lower case begins with a transfer word, and the first such word
of a table stands for it. Some of the words begin others, and some are equally long, so the table has the
longer ones first and is otherwise in any order (`WordTable`).

* `find?_eq_some_iff`: in a table with the longer words first, the first word that a text begins with is
  the longest one (`LongestIn`), of which there is only one;
* `wordTable_mergeSort`: the words make such a table in whichever order they are sorted by their length;
* `detectBy_transferWord?`: all that the detector takes from the table is the word for each name;
* `transferWord?_longest`: the word for a name is the longest one, and every finding is the same for
  every table.
-/

import ContractRisk.Detector
import Mathlib.Data.List.Basic

namespace ContractRisk

namespace Detector.NonFunctionalTransfer

/-! ### The longest word -/

/-- **A word of a table is the longest one that a text begins with.** -/
structure LongestIn (table : List String) (text word : String) : Prop where
  listed : word ∈ table
  begins : word.toList <+: text.toList
  longest : ∀ other ∈ table, other.toList <+: text.toList → other.length ≤ word.length

theorem beginsWith_iff {text word : String} :
    beginsWith text word = true ↔ word.toList <+: text.toList :=
  List.isPrefixOf_iff_prefix

/-- A text begins with one word of each length. -/
theorem LongestIn.unique {table : List String} {text word other : String}
    (first : LongestIn table text word) (second : LongestIn table text other) : word = other := by
  have length : word.toList.length = other.toList.length := by
    rw [String.length_toList, String.length_toList]
    exact Nat.le_antisymm (second.longest word first.listed first.begins)
      (first.longest other second.listed second.begins)
  have inside := List.prefix_of_prefix_length_le first.begins second.begins (Nat.le_of_eq length)
  exact String.toList_injective (inside.eq_of_length length)

/-- **The first match is the longest one**, if the table has the longer words first. -/
theorem find?_eq_some_iff {table : List String}
    (longestFirst : table.Pairwise fun word later => later.length ≤ word.length)
    {text word : String} :
    table.find? (beginsWith text ·) = some word ↔ LongestIn table text word := by
  have sound {word : String} (found : table.find? (beginsWith text ·) = some word) :
      LongestIn table text word := by
    obtain ⟨begins, before, after, rfl, passed⟩ := List.find?_eq_some_iff_append.mp found
    refine ⟨by simp, beginsWith_iff.mp begins, fun other member also => ?_⟩
    rcases List.mem_append.mp member with earlier | rest
    · -- The words before the first match begin nothing.
      have excluded := passed other earlier
      rw [beginsWith_iff.mpr also] at excluded
      cases excluded
    rcases List.mem_cons.mp rest with rfl | later
    · exact Nat.le_refl _
    · exact List.rel_of_pairwise_cons (List.pairwise_append.mp longestFirst).2.1 later
  refine ⟨sound, fun longest => ?_⟩
  cases search : table.find? (beginsWith text ·) with
  | none =>
    exact absurd (beginsWith_iff.mpr longest.begins) (List.find?_eq_none.mp search word longest.listed)
  | some found => rw [(sound search).unique longest]

/-- A text is about privileges. -/
def Privileged (text : String) : Prop := ∃ mark ∈ privilegeWords, mark.toList <:+: text.toList

theorem privileged_iff {text : String} :
    privilegeWords.any (mentions text ·) = true ↔ Privileged text := by
  rw [List.any_eq_true]
  exact exists_congr fun mark => and_congr_right fun _ => occursIn_iff

theorem firstWord?_eq_some_iff {table : List String}
    (longestFirst : table.Pairwise fun word later => later.length ≤ word.length)
    {text word : String} :
    firstWord? table text = some word ↔ ¬ Privileged text ∧ LongestIn table text word := by
  rw [firstWord?, ← privileged_iff, ← find?_eq_some_iff longestFirst]
  split
  · rename_i privileged
    simp [privileged]
  · rename_i plain
    simp [plain]

theorem firstWord?_eq_none_iff {table : List String} {text : String} :
    firstWord? table text = none ↔
      Privileged text ∨ ∀ word ∈ table, ¬ word.toList <+: text.toList := by
  rw [firstWord?, ← privileged_iff]
  simp only [← beginsWith_iff]
  split
  · rename_i privileged
    simp [privileged]
  · rename_i plain
    rw [List.find?_eq_none]
    simp [plain]

/-! ### Tables of the words -/

/-- The names of transfers. -/
def transferNames : List String := [
  "transfer", "transferFrom", "safeTransfer", "safeTransferFrom", "send", "sendFrom", "move",
  "moveFrom", "withdraw", "deposit", "swap", "exchange"]

/-- **A table of the transfer words**: the names in lower case, the longer ones first. -/
structure WordTable (table : List String) : Prop where
  words : table.Perm (transferNames.map Text.lower)
  longestFirst : table.Pairwise fun word later => later.length ≤ word.length

theorem wordTable_transferWords : WordTable transferWords where
  words := by decide +kernel
  longestFirst := by decide +kernel

/-- **The words may be sorted from any order.** -/
theorem wordTable_mergeSort {order : List String} (words : order.Perm (transferNames.map Text.lower)) :
    WordTable (order.mergeSort fun word later => decide (later.length ≤ word.length)) where
  words := (List.mergeSort_perm order _).trans words
  longestFirst := by
    have sorted : (order.mergeSort fun word later => decide (later.length ≤ word.length)).Pairwise
        fun word later => decide (later.length ≤ word.length) = true :=
      List.pairwise_mergeSort (fun first second third => by grind) (fun first second => by grind) order
    simpa using sorted

/-- The longest word depends on the words of a table only. -/
theorem LongestIn.of_members {table others : List String} {text word : String}
    (members : ∀ other, other ∈ others ↔ other ∈ table) (longest : LongestIn table text word) :
    LongestIn others text word where
  listed := (members word).mpr longest.listed
  begins := longest.begins
  longest other listed := longest.longest other ((members other).mp listed)

/-- **Every table has the same word for a text.** -/
theorem WordTable.firstWord?_eq {table : List String} (ofWords : WordTable table) (text : String) :
    firstWord? table text = firstWord? transferWords text := by
  have members (other : String) : other ∈ table ↔ other ∈ transferWords :=
    (ofWords.words.trans wordTable_transferWords.words.symm).mem_iff
  refine Option.ext fun word => ?_
  rw [firstWord?_eq_some_iff ofWords.longestFirst,
    firstWord?_eq_some_iff wordTable_transferWords.longestFirst]
  refine and_congr_right fun _ => ⟨?_, ?_⟩
  · exact LongestIn.of_members fun other => (members other).symm
  · exact LongestIn.of_members members

/-! ### What the detector takes from the table -/

section

variable {α : Type} [Add α] [Mul α] [Div α] [LT α] [LE α] [DecidableLT α] [DecidableLE α]
  [OfScientific α] [NatCast α] [Decimal.Rendered α]

/-- The finding of the detector of a category, with transfers told by their words in any way. -/
def detectBy (word? : String → Option String) (category : Category) (abi : Abi.Input) (code : Value) :
    Except Failure (Finding α) := do
  let entries ← Abi.entriesOf abi
  let bytes ← Detector.codeFor category code
  let seen : Inspection α := match category with
    | .nonFunctionalTransfer => inspect entries bytes word?
    | other => Detector.inspect other entries bytes
  return seen.conclude category

theorem detectBy_transferWord? (category : Category) (abi : Abi.Input) (code : Value) :
    detectBy transferWord? category abi code = (detect category abi code : Except Failure (Finding α)) := by
  cases category <;> rfl

/-- **The word for a name is the longest one that it begins with**, in lower case and unless it is about
privileges, and with every table of the words, from whichever order they are sorted, each name has this
word and each detector its finding. -/
theorem transferWord?_longest :
    (∀ name word, transferWord? name = some word ↔ ¬ Privileged (Text.lower name) ∧
      LongestIn (transferNames.map Text.lower) (Text.lower name) word) ∧
    (∀ name, transferWord? name = none ↔ Privileged (Text.lower name) ∨
      ∀ word ∈ transferNames.map Text.lower, ¬ word.toList <+: (Text.lower name).toList) ∧
    (∀ order : List String, order.Perm (transferNames.map Text.lower) →
      WordTable (order.mergeSort fun word later => decide (later.length ≤ word.length))) ∧
    ∀ table, WordTable table →
      (∀ name, firstWord? table (Text.lower name) = transferWord? name) ∧
      ∀ category abi code, detectBy (fun name => firstWord? table (Text.lower name)) category abi code =
        (detect category abi code : Except Failure (Finding α)) := by
  have members (word : String) : word ∈ transferNames.map Text.lower ↔ word ∈ transferWords :=
    wordTable_transferWords.words.symm.mem_iff
  refine ⟨fun name word => ?_, fun name => ?_, fun _ => wordTable_mergeSort, fun table ofWords => ?_⟩
  · rw [transferWord?, firstWord?_eq_some_iff wordTable_transferWords.longestFirst]
    refine and_congr_right fun _ => ⟨?_, ?_⟩
    · exact LongestIn.of_members members
    · exact LongestIn.of_members fun other => (members other).symm
  · rw [transferWord?, firstWord?_eq_none_iff]
    simp only [members]
  · have same : (fun name => firstWord? table (Text.lower name)) = transferWord? :=
      funext fun name => ofWords.firstWord?_eq (Text.lower name)
    refine ⟨congrFun same, fun category abi code => ?_⟩
    rw [same, detectBy_transferWord?]

end

/-- Words of one length may change places. A safe transfer is told by its own word, though it begins with
a shorter one as well, and a transfer of ownership by none. -/
theorem transferWord?_longest_swapped :
    let table := ["safetransferfrom", "transferfrom", "safetransfer", "exchange", "withdraw", "transfer",
      "movefrom", "sendfrom", "deposit", "swap", "move", "send"]
    WordTable table ∧ table ≠ transferWords ∧
    firstWord? table (Text.lower "safeTransferAll") = transferWord? "safeTransferAll" ∧
    LongestIn (transferNames.map Text.lower) (Text.lower "safeTransferAll") "safetransfer" ∧
    Privileged (Text.lower "transferOwnership") ∧
    detectBy (fun name => firstWord? table (Text.lower name)) .nonFunctionalTransfer
        (.value (.text "[\x7b\"type\": \"function\", \"name\": \"sendFrom\"\x7d]") 2) .null =
      (detect .nonFunctionalTransfer
        (.value (.text "[\x7b\"type\": \"function\", \"name\": \"sendFrom\"\x7d]") 2) .null :
          Except Failure (Finding Float)) := by
  intro table
  obtain ⟨found, absent, -, every⟩ := transferWord?_longest (α := Float)
  have ofWords : WordTable table := ⟨by decide +kernel, by decide +kernel⟩
  refine ⟨ofWords, by decide +kernel, (every table ofWords).1 _, ?_, ?_, (every table ofWords).2 _ _ _⟩
  · exact ((found "safeTransferAll" "safetransfer").mp (by decide +kernel)).2
  · refine ((absent "transferOwnership").mp (by decide +kernel)).resolve_right fun none => ?_
    exact none "transfer" (by decide +kernel) (by decide +kernel)

end Detector.NonFunctionalTransfer

end ContractRisk
