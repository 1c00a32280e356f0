/-
**The detected findings of a table of results.**

Whatever is computed from results looks at the detected ones in the order of reports. They are read
off category by category (`detected_eq`), and an accepted table files each finding under its own
category (`check_keyed`) and the word for it (`check_words`), so that what holds of each category holds
of the list.
-/

import ContractRisk.Proofs.Attempt
import ContractRisk.Scoring.Results
import Mathlib.Data.List.Basic

namespace ContractRisk.Scoring.Results

variable {α : Type}

/-- The finding of a category, if the category is detected. -/
def detection? (results : Results α) (category : Category) : Option (Finding α) :=
  (results.get? category).filter (·.detected)

theorem mem_of_get? {results : Results α} {category : Category} {finding : Finding α}
    (filed : results.get? category = some finding) : (category, finding) ∈ results := by
  unfold get? at filed
  obtain ⟨⟨key, found⟩, first, rfl⟩ := Option.map_eq_some_iff.mp filed
  have key_eq : key = category := by simpa using List.find?_some first
  subst key_eq
  exact List.mem_of_find?_eq_some first

theorem detection?_eq_some {results : Results α} {category : Category} {finding : Finding α} :
    results.detection? category = some finding ↔
      results.get? category = some finding ∧ finding.detected = true :=
  Option.filter_eq_some_iff

/-- **The detected findings are the detections of the categories in order.** -/
theorem detected_eq (results : Results α) :
    results.detected =
      Category.all.filterMap fun category => (results.detection? category).map (category, ·) := by
  unfold detected inOrder detection?
  rw [List.filter_filterMap]
  congr 1
  funext category
  cases results.get? category with
  | none => rfl
  | some finding =>
    rw [Option.filter_some]
    show Option.filter _ (some (category, finding)) = _
    rw [Option.filter_some]
    cases finding.detected <;> rfl

theorem mem_detected {results : Results α} {category : Category} {finding : Finding α} :
    (category, finding) ∈ results.detected ↔ results.detection? category = some finding := by
  rw [detected_eq, List.mem_filterMap]
  constructor
  · rintro ⟨other, _, paired⟩
    obtain ⟨found, detection, same⟩ := Option.map_eq_some_iff.mp paired
    cases same
    exact detection
  · intro detection
    exact ⟨category, Category.mem_all category, by rw [detection]; rfl⟩

/-- A detected finding is one of the table. -/
theorem mem_of_mem_detected {results : Results α} {entry : Category × Finding α}
    (member : entry ∈ results.detected) : entry ∈ results :=
  mem_of_get? (detection?_eq_some.mp (mem_detected.mp member)).1

/-! ### Tables with each category once -/

/-- An item is the first with its key if each key is there once. -/
theorem find?_own {β κ : Type} [DecidableEq κ] {key : β → κ} {items : List β}
    (once : (items.map key).Nodup) {item : β} (member : item ∈ items) :
    items.find? (fun other => key other = key item) = some item := by
  induction items with
  | nil => nomatch member
  | cons first rest ih =>
    obtain ⟨apart, once⟩ := List.nodup_cons.mp once
    rcases List.mem_cons.mp member with rfl | later
    · exact List.find?_cons_of_pos (by simp)
    · have other : key first ≠ key item := fun same => apart (List.mem_map.mpr ⟨item, later, same.symm⟩)
      rw [List.find?_cons_of_neg (by simpa using other)]
      exact ih once later

/-- With each category once, a finding of the table is the one of its category. -/
theorem get?_of_mem {results : Results α} (once : (results.map (·.1)).Nodup)
    {entry : Category × Finding α} (member : entry ∈ results) :
    results.get? entry.1 = some entry.2 := by
  unfold get?
  rw [find?_own once member]
  rfl

/-- With each category once and in the order of reports, a table is in order as it is. -/
theorem inOrder_eq {results : Results α} (complete : results.map (·.1) = Category.all) :
    results.inOrder = results := by
  have once : (results.map (·.1)).Nodup := by
    rw [complete]
    decide
  have own : ∀ entry ∈ results,
      ((results.get? entry.1).map (entry.1, ·)) = some entry := by
    intro entry member
    rw [get?_of_mem once member]
    rfl
  unfold inOrder
  rw [← complete, List.filterMap_map]
  exact (List.filterMap_congr own).trans List.filterMap_some

/-! ### Accepted tables -/

theorem categoryOf?_eq_some {key : Value} {category : Category} :
    categoryOf? key = some category ↔ key = .text category.name := by
  constructor
  · intro word
    unfold categoryOf? at word
    split at word
    · have same := List.find?_some word
      rw [decide_eq_true_eq] at same
      rw [same]
    · cases word
  · rintro rfl
    exact Category.ofName?_name category

/-- **What is accepted** is a finding under the word for its own category. -/
theorem checkEntry_eq_ok {key : Value} {given : Given α} {entry : Category × Finding α} :
    checkEntry key given = .ok entry ↔
      key = .text entry.1.name ∧ given = .finding entry.2 ∧ entry.2.category = entry.1 := by
  rw [← categoryOf?_eq_some]
  constructor
  · intro accepted
    unfold checkEntry at accepted
    split at accepted
    · obtain ⟨failure, refused⟩ := key.refused_error .resultCategory
      cases refused.symm.trans accepted
    · rename_i word
      split at accepted
      · cases accepted
      · split at accepted
        · rename_i filed
          cases accepted
          exact ⟨word, rfl, filed⟩
        · cases accepted
  · rintro ⟨word, rfl, filed⟩
    unfold checkEntry
    rw [word]
    exact if_pos filed

/-- A table is accepted if it is not empty and each entry of it is. -/
theorem check_eq_ok {table : List (Value × Given α)} {results : Results α} :
    check table = .ok results ↔
      table ≠ [] ∧ table.mapM (fun (key, given) => checkEntry key given) = .ok results := by
  unfold check
  by_cases empty : table.isEmpty = true
  · rw [if_pos empty]
    exact iff_of_false nofun fun accepted => accepted.1 (List.isEmpty_iff.mp empty)
  · rw [if_neg empty]
    exact (and_iff_right fun none => empty (List.isEmpty_iff.mpr none)).symm

/-- **In an accepted table each finding stands under its own category.** -/
theorem check_keyed {given : List (Value × Given α)} {results : Results α}
    (accepted : check given = .ok results) : ∀ entry ∈ results, entry.2.category = entry.1 := by
  intro entry member
  obtain ⟨⟨key, finding⟩, _, read⟩ := Attempt.mem_of_mapM (check_eq_ok.mp accepted).2 member
  exact (checkEntry_eq_ok.mp read).2.2

/-- **The keys of an accepted table are the words for its categories.** -/
theorem check_words {table : List (Value × Given α)} {results : Results α}
    (accepted : check table = .ok results) :
    results.map (fun entry => .text entry.1.name) = table.map (·.1) := by
  have entries := (check_eq_ok.mp accepted).2
  clear accepted
  induction table generalizing results with
  | nil =>
    cases entries
    rfl
  | cons first rest ih =>
    obtain ⟨entry, others, here, there, rfl⟩ := Attempt.mapM_cons_eq_ok.mp entries
    rw [List.map_cons, List.map_cons, (checkEntry_eq_ok.mp here).1, ih there]

/-- Findings as they are given from inside: each under the word for its category. -/
def given (results : Results α) : List (Value × Given α) :=
  results.map fun (key, finding) => (.text key.name, .finding finding)

/-- **A table that is filed properly is accepted as it is.** -/
theorem check_given {results : Results α} (nonempty : results ≠ [])
    (filed : ∀ entry ∈ results, entry.2.category = entry.1) : check results.given = .ok results := by
  have each : ∀ entry ∈ results,
      checkEntry (.text entry.1.name) (.finding entry.2) = .ok (id entry) := by
    intro entry member
    exact checkEntry_eq_ok.mpr ⟨rfl, rfl, filed entry member⟩
  have accepted := Attempt.mapM_eq_ok each
  rw [List.map_id] at accepted
  refine check_eq_ok.mpr ⟨by simpa [given] using nonempty, ?_⟩
  rw [given, List.mapM_map]
  exact accepted

end ContractRisk.Scoring.Results
