/-
**Which categories are run.**

Categories are chosen by a list of those to include and a list of those to exclude, in which each may
stand any number of times. What is run is one list without repetitions (`Selection`): the categories that
are included and not excluded, in the order of their first places. The results, the detected patterns and
the number in the sentence are those of this list. The categories that are reported as run are not: they
keep the repetitions of the list that was given.

* `once_filter`, `once_inOrder`: what is kept of a list is its categories in the order of first places;
* `Selection.unique`: inclusion and exclusion leave one list to run;
* `summarize_eq`: the score of a summary is in range, so that there always is one;
* `summarizeValues_selects`: that list is run, and it is the one reported exactly if no category that is
  run was included twice.
-/

import ContractRisk.Detector.Summary
import ContractRisk.Proofs.Share.Fractions
import Mathlib.Data.List.Induction
import Mathlib.Data.List.Nodup

namespace ContractRisk

/-- **What is left to run** of the categories that are included, given those that are excluded. -/
structure Selection (included excluded run : List Category) : Prop where
  members : ∀ category, category ∈ run ↔ category ∈ included ∧ category ∉ excluded
  once : run.Nodup
  inOrder : run.Pairwise fun first second => included.idxOf first < included.idxOf second

/-- **There is one list to run.** -/
theorem Selection.unique {included excluded run other : List Category}
    (selects : Selection included excluded run) (selects' : Selection included excluded other) :
    run = other := by
  have perm : run.Perm other := (List.perm_ext_iff_of_nodup selects.once selects'.once).mpr fun category =>
    (selects.members category).trans (selects'.members category).symm
  exact perm.eq_of_pairwise (fun _ _ _ _ first second => absurd first (Nat.lt_asymm second))
    selects.inOrder selects'.inOrder

/-- Lists of the same categories, in any order, leave the same to run. -/
theorem Selection.perm {included included' excluded run run' : List Category}
    (selects : Selection included excluded run) (selects' : Selection included' excluded run')
    (perm : included.Perm included') : run.Perm run' := by
  refine (List.perm_ext_iff_of_nodup selects.once selects'.once).mpr fun category => ?_
  rw [selects.members, selects'.members, perm.mem_iff]

namespace Summary

/-! ### Each category at its first place -/

theorem once_concat (categories : List Category) (category : Category) :
    once (categories ++ [category]) =
      if category ∈ once categories then once categories else once categories ++ [category] := by
  simp [once, List.foldl_append]

theorem mem_once {categories : List Category} {category : Category} :
    category ∈ once categories ↔ category ∈ categories := by
  induction categories using List.reverseRecOn with
  | nil => rfl
  | append_singleton categories last ih =>
    rw [once_concat]
    split
    · rename_i known
      rw [List.mem_append, List.mem_singleton, ih]
      exact ⟨.inl, Or.rec id fun same => same ▸ ih.mp (same ▸ known)⟩
    · rw [List.mem_append, List.mem_append, ih]

/-- Categories are left out before or after the repetitions. -/
theorem once_filter (keep : Category → Bool) (categories : List Category) :
    once (categories.filter keep) = (once categories).filter keep := by
  induction categories using List.reverseRecOn with
  | nil => rfl
  | append_singleton categories last ih =>
    by_cases kept : keep last = true
    · rw [List.filter_append, List.filter_cons_of_pos kept, List.filter_nil, once_concat, once_concat, ih]
      by_cases known : last ∈ once categories <;> simp [known, kept]
    · rw [List.filter_append, List.filter_cons_of_neg kept, List.filter_nil, List.append_nil, once_concat, ih]
      by_cases known : last ∈ once categories <;> simp [known, kept]

/-- **What is kept stands in the order of first places.** -/
theorem once_inOrder (categories : List Category) :
    (once categories).Pairwise fun first second => categories.idxOf first < categories.idxOf second := by
  induction categories using List.reverseRecOn with
  | nil => exact .nil
  | append_singleton categories last ih =>
    -- a category that stood there before keeps its first place
    have place {category : Category} (member : category ∈ once categories) :
        (categories ++ [last]).idxOf category = categories.idxOf category :=
      List.idxOf_append_of_mem (mem_once.mp member)
    have before : (once categories).Pairwise fun first second =>
        (categories ++ [last]).idxOf first < (categories ++ [last]).idxOf second :=
      ih.imp_of_mem fun first second earlier => by rwa [place first, place second]
    rw [once_concat]
    split
    · exact before
    · rename_i new
      refine List.pairwise_append.mpr ⟨before, List.pairwise_singleton _ _, fun category member other own => ?_⟩
      rw [List.mem_singleton.mp own, place member, List.idxOf_append_of_notMem (mt mem_once.mpr new)]
      exact Nat.lt_of_lt_of_le (List.idxOf_lt_length_of_mem (mem_once.mp member)) (Nat.le_add_right _ _)

theorem once_nodup (categories : List Category) : (once categories).Nodup :=
  (once_inOrder categories).imp fun earlier same => by
    subst same
    exact absurd earlier (Nat.lt_irrefl _)

/-- Nothing is lost of a list exactly if it has no repetitions. -/
theorem once_eq_iff {categories : List Category} : once categories = categories ↔ categories.Nodup := by
  constructor
  · intro same
    exact same ▸ once_nodup categories
  · intro nodup
    induction categories using List.reverseRecOn with
    | nil => rfl
    | append_singleton categories last ih =>
      obtain ⟨nodup, -, apart⟩ := List.nodup_append.mp nodup
      have new : last ∉ categories := fun member => apart last member last (List.mem_singleton_self _) rfl
      rw [once_concat, if_neg (mt mem_once.mp new), ih nodup]

/-- **What is run is the selection.** -/
theorem selection (included excluded : List Category) :
    Selection included excluded (once (included.filter (!excluded.contains ·))) where
  members category := by simp [mem_once]
  once := once_nodup _
  inOrder := by
    rw [once_filter]
    exact (once_inOrder included).filter _

/-- The categories that are left keep their repetitions. -/
theorem nodup_left_iff {included excluded : List Category} :
    (included.filter (!excluded.contains ·)).Nodup ↔
      ∀ category, category ∉ excluded → included.count category ≤ 1 := by
  rw [List.nodup_iff_count_le_one]
  refine forall_congr' fun category => ?_
  by_cases left : category ∈ excluded
  · have none : (included.filter (!excluded.contains ·)).count category = 0 :=
      List.count_eq_zero.mpr (by simp [left])
    rw [none]
    simp [left]
  · rw [List.count_filter (by simpa using left)]
    simp [left]

end Summary

/-! ### Categories by their words -/

/-- **Values that are the words for categories**, one by one. -/
def Names (values : List Value) (named : List Category) : Prop :=
  List.Forall₂ (fun value category => categoryOf? value = some category) values named

theorem categories_names {values : List Value} {named : List Category} (names : Names values named) :
    categories values = .ok named := by
  induction names with
  | nil => rfl
  | cons here _ ih =>
    refine Attempt.mapM_cons_eq_ok.mpr ⟨_, _, ?_, ih, rfl⟩
    rw [here]

/-! ### What is reported -/

/-- **A sentence counts** what was found among as many categories as were run. -/
def Summary.Counts (sentence : String) (found : List Category) (run : Nat) : Prop :=
  if found = [] then sentence = s!"No deceptive patterns detected across {run} detector(s)"
  else
    let names := ", ".intercalate (found.map (·.name))
    ∃ rest, sentence = s!"Detected {found.length} of {run} pattern type(s) ({names}); " ++ rest

variable {α : Type} [Add α] [Mul α] [Div α] [OfScientific α] [NatCast α] [Decimal.Rendered α]

/-- A sentence counts what it is made from. -/
theorem Summary.counts_sentenceOf (found : Scoring.Results α) (run : Nat) :
    Counts (sentenceOf found run) (found.map (·.1)) run := by
  unfold Counts sentenceOf
  by_cases none : found = []
  · simp [none]
  · simp only [List.map_eq_nil_iff, none, if_false, List.isEmpty_iff, List.map_map, List.length_map]
    exact ⟨_, rfl⟩

variable [LT α] [LE α] [DecidableLT α]

/-- **The score of a summary is one of a hundred.** -/
theorem Summary.riskScoreOf_percentage [LawfulShares α] {found : Scoring.Results α}
    (few : found.length ≤ Category.all.length)
    (shares : ∀ entry ∈ found, IsShare entry.2.confidence) :
    0 ≤ riskScoreOf found ∧ riskScoreOf found ≤ 100 := by
  unfold riskScoreOf
  split
  · exact ⟨le_rfl, by decide⟩
  · rename_i some
    have some := List.length_pos_iff.mpr (mt List.isEmpty_iff.mpr some)
    exact LawfulShares.percentage (Scoring.meanConfidence_share few shares false) _ (by omega)

variable [DecidableLE α]

/-- **No summary is refused.** -/
theorem summarize_eq [LawfulShares α] (abi : Abi.Input) (code : Value) (included excluded : List Category) :
    (summarize abi code included excluded : Except Failure (Summary α)) =
      .ok (summaryOf abi code included excluded) := by
  have few : (Summary.once (included.filter (!excluded.contains ·))).length ≤ Category.all.length :=
    (List.subperm_of_subset (Summary.once_nodup _) fun category _ => Category.mem_all category).length_le
  have range : 0 ≤ (summaryOf abi code included excluded : Summary α).riskScore ∧
      (summaryOf abi code included excluded : Summary α).riskScore ≤ 100 := by
    refine Summary.riskScoreOf_percentage ?_ fun entry member => ?_
    · refine le_trans (List.length_filter_le _ _) ?_
      rwa [List.length_map]
    · obtain ⟨category, -, rfl⟩ := List.mem_map.mp (List.mem_filter.mp member).1
      exact detectSafely_share _ _ _
  unfold summarize Summary.checked Shape.percentage
  rw [if_neg (by omega), if_neg (by omega)]
  rfl

/-- **A summary covers categories**: it has the result that the detector of each comes to on its own, in
their order, reports as detected those whose result is, and counts them. -/
structure Summary.Covers (summary : Summary α) (abi : Abi.Input) (code : Value) (run : List Category) :
    Prop where
  results : summary.results = run.map fun category => (category, detectSafely category abi code)
  patterns : summary.patterns =
    run.filter fun category => (detectSafely category abi code : Finding α).detected
  sentence : Counts summary.sentence summary.patterns run.length

theorem summaryOf_covers (abi : Abi.Input) (code : Value) (included excluded : List Category) :
    (summaryOf abi code included excluded : Summary α).Covers abi code
      (Summary.once (included.filter (!excluded.contains ·))) where
  results := rfl
  patterns := by
    show ((List.map _ _).filter _).map _ = _
    rw [List.filter_map, List.map_map]
    exact List.map_id _
  sentence := by
    rw [← List.length_map (f := fun category => (category, (detectSafely category abi code : Finding α)))]
    exact Summary.counts_sentenceOf _ _

/-- **What is included and not excluded is run, once each.** It is what is reported as run exactly if none
of it was included twice. -/
theorem summarizeValues_selects [LawfulShares α] {included excluded : List Category} {chosen skipped : List Value}
    (names : Names chosen included) (names' : Names skipped excluded) (abi : Abi.Input) (code : Value) :
    ∃ run, Selection included excluded run ∧ ∃ summary : Summary α,
      summarizeValues abi code (.list chosen) (.list skipped) = .ok summary ∧
        summary.Covers abi code run ∧
        summary.detectorsRun = included.filter (!excluded.contains ·) ∧
        (summary.detectorsRun = run ↔ ∀ category, category ∉ excluded → included.count category ≤ 1) := by
  refine ⟨_, Summary.selection included excluded, summaryOf abi code included excluded, ?_,
    summaryOf_covers abi code included excluded, rfl, ?_⟩
  · have chosen_eq : (Value.list chosen).items >>= categories = .ok included := categories_names names
    have skipped_eq : (Value.list skipped).items >>= categories = .ok excluded := categories_names names'
    simp only [summarizeValues, chosen_eq, skipped_eq]
    exact summarize_eq abi code included excluded
  · rw [← Summary.nodup_left_iff, ← Summary.once_eq_iff]
    exact eq_comm

/-- A category that is included twice is run once, and reported as run twice. -/
theorem summarizeValues_selects_twice :
    let chosen : List Value := [.text "fake-balance", .text "deceptive-events", .text "fake-balance"]
    let included : List Category := [.fakeBalance, .deceptiveEvents, .fakeBalance]
    Names chosen included ∧ Names [.text "deceptive-events"] [.deceptiveEvents] ∧
      ∃ run, Selection included [.deceptiveEvents] run ∧ ∃ summary : Summary Rat,
        summarizeValues (.value .null 960) .null (.list chosen) (.list [.text "deceptive-events"]) =
            .ok summary ∧
          summary.Covers (.value .null 960) .null run ∧
          summary.detectorsRun = [.fakeBalance, .fakeBalance] ∧ summary.detectorsRun ≠ run := by
  intro chosen included
  have fake : categoryOf? (.text "fake-balance") = some .fakeBalance := by decide
  have events : categoryOf? (.text "deceptive-events") = some .deceptiveEvents := by decide
  have names : Names chosen included := .cons fake (.cons events (.cons fake .nil))
  have names' : Names [.text "deceptive-events"] [.deceptiveEvents] := .cons events .nil
  obtain ⟨run, selects, summary, summarizes, covers, reported, same⟩ :=
    summarizeValues_selects (α := Rat) names names' (.value .null 960) .null
  refine ⟨names, names', run, selects, summary, summarizes, covers, reported, fun own => ?_⟩
  exact absurd (same.mp own .fakeBalance (by decide)) (by decide)

end ContractRisk
