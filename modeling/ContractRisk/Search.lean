/-
**Occurrences of one sequence in another**, for texts and byte strings alike.
-/

namespace ContractRisk

/-- Whether a sequence occurs, without gaps, in another. -/
def occursIn {β : Type} [BEq β] (pattern : List β) : List β → Bool
  | [] => pattern.isEmpty
  | item :: rest => pattern.isPrefixOf (item :: rest) || occursIn pattern rest

/-- A sequence is found exactly if it stands in the other one without gaps. -/
theorem occursIn_iff {β : Type} [BEq β] [LawfulBEq β] {pattern items : List β} :
    occursIn pattern items = true ↔ pattern <:+: items := by
  induction items with
  | nil => rw [occursIn, List.isEmpty_iff, List.infix_nil]
  | cons item rest ih =>
    rw [occursIn, Bool.or_eq_true, ih, List.isPrefixOf_iff_prefix, List.infix_cons_iff]

/-- Whether a text occurs in another. -/
def mentions (text word : String) : Bool := occursIn word.toList text.toList

/-- Whether a text begins with another. -/
def beginsWith (text word : String) : Bool := word.toList.isPrefixOf text.toList

/-- A text put into a sorted list without repetitions. -/
def insertText (text : String) : List String → List String
  | [] => [text]
  | head :: rest =>
    if text = head then head :: rest
    else if text < head then text :: head :: rest
    else head :: insertText text rest

/-- The texts of a list, sorted by code points and without repetitions. -/
def sortedTexts (texts : List String) : List String := texts.foldr insertText []

end ContractRisk
