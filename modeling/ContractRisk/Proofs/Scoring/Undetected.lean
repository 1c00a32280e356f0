/-
**What is not detected has no influence on a verdict.**

Two tables have the same detections if they list the same categories, detect the same of them, and say
the same about those (`SameDetections`). What they say about the others may differ in everything:

* `Results.detection?_congr`, `Results.detected_congr_of_same`: both tables have the same detected
  findings;
* `Assessment.judgement`: a verdict without what merely repeats the findings of the table;
* `assess_judgement`: every loop over the results asks first what is detected, so that both tables are
  judged alike;
* `aggregate_undetected`: hence the verdicts agree, or are refused for the same reason, and the user is
  warned of the same.
-/

import ContractRisk.Proofs.Scoring.Bounds
import ContractRisk.Proofs.Scoring.Results
import ContractRisk.Scoring.Aggregate
import Mathlib.Data.List.Forall2

namespace ContractRisk.Scoring

variable {α : Type} {results results' : Results α}

/-! ### Tables that differ in what is not detected -/

/-- **The same detection, or none in both**: entries of one category, detected both or neither, and
equal if they are. -/
structure SameDetection (entry entry' : Category × Finding α) : Prop where
  category : entry.1 = entry'.1
  detected : entry.2.detected = entry'.2.detected
  finding : entry.2.detected = true → entry.2 = entry'.2

/-- **Tables with the same detections**, entry by entry. -/
abbrev SameDetections (results results' : Results α) : Prop :=
  List.Forall₂ SameDetection results results'

namespace Results

/-- The first entry of a category decides whether the category is detected. -/
theorem detection?_cons (entry : Category × Finding α) (rest : Results α) (category : Category) :
    detection? (entry :: rest) category =
      if entry.1 = category then (some entry.2).filter (·.detected) else rest.detection? category := by
  unfold detection? get?
  by_cases own : entry.1 = category
  · rw [List.find?_cons_of_pos (by simpa using own), if_pos own]
    rfl
  · rw [List.find?_cons_of_neg (by simpa using own), if_neg own]

theorem detection?_congr (same : SameDetections results results') (category : Category) :
    results.detection? category = results'.detection? category := by
  induction same with
  | nil => rfl
  | @cons entry entry' _ _ here _ ih =>
    rw [detection?_cons, detection?_cons, here.category, ih, Option.filter_some, Option.filter_some,
      ← here.detected]
    split
    · split
      · rename_i detected
        rw [here.finding detected]
      · rfl
    · rfl

/-- **The detected findings are the same.** -/
theorem detected_congr_of_same (same : SameDetections results results') :
    results.detected = results'.detected := by
  rw [detected_eq, detected_eq]
  simp only [detection?_congr same]

/-- The same categories are listed. -/
theorem get?_isSome_congr (same : SameDetections results results') (category : Category) :
    (results.get? category).isSome = (results'.get? category).isSome := by
  unfold get?
  rw [Option.isSome_map, Option.isSome_map]
  induction same with
  | nil => rfl
  | @cons entry entry' _ _ here _ ih =>
    by_cases own : entry.1 = category
    · rw [List.find?_cons_of_pos (by simpa using own),
        List.find?_cons_of_pos (by simpa [← here.category] using own)]
      rfl
    · rw [List.find?_cons_of_neg (by simpa using own),
        List.find?_cons_of_neg (by simpa [← here.category] using own), ih]

theorem inOrder_length_congr (same : SameDetections results results') :
    results.inOrder.length = results'.inOrder.length := by
  unfold inOrder
  rw [List.length_filterMap_eq_countP, List.length_filterMap_eq_countP]
  simp only [Option.isSome_map, get?_isSome_congr same]

/-- The findings of an accepted table are the ones that warnings are drawn from. -/
theorem recognised_of_check {table : List (Value × Given α)} (accepted : check table = .ok results) :
    recognised table = results := by
  have entries := (check_eq_ok.mp accepted).2
  clear accepted
  induction table generalizing results with
  | nil =>
    cases entries
    rfl
  | cons first rest ih =>
    obtain ⟨key, given⟩ := first
    obtain ⟨entry, others, here, there, rfl⟩ := Attempt.mapM_cons_eq_ok.mp entries
    obtain ⟨word, rfl, _⟩ := checkEntry_eq_ok.mp here
    have read : categoryOf? key = some entry.1 := categoryOf?_eq_some.mpr word
    unfold recognised at ih ⊢
    rw [List.filterMap_cons, ih there]
    simp only [read]

end Results

/-! ### Verdicts -/

/-- **What a verdict says beyond the findings themselves.** -/
structure Judgement (α : Type) where
  score : α
  level : RiskLevel
  confidence : α
  base : α
  bonus : α
  penalty : α
  final : α
  summary : String
  riskFactors : List String
  mitigatingFactors : List String
  recommendations : List String
  analyzed : Nat
  detected : Nat
  listed : Bool

/-- The judgement in a verdict. -/
def Assessment.judgement (verdict : Assessment α) : Judgement α where
  score := verdict.score
  level := verdict.level
  confidence := verdict.confidence
  base := verdict.breakdown.base
  bonus := verdict.breakdown.bonus
  penalty := verdict.breakdown.penalty
  final := verdict.breakdown.final
  summary := verdict.explanation.summary
  riskFactors := verdict.explanation.riskFactors
  mitigatingFactors := verdict.explanation.mitigatingFactors
  recommendations := verdict.explanation.recommendations
  analyzed := verdict.analyzed
  detected := verdict.detected
  listed := verdict.listed

/-- A finding that is not detected is a line for the contract, which names its category only. -/
theorem mitigatingFactors_congr_of_same [LT α] [DecidableLT α] [OfScientific α]
    (same : SameDetections results results') :
    mitigatingFactors results = mitigatingFactors results' := by
  have absent : (results.filter (!·.2.detected)).map (·.1) =
      (results'.filter (!·.2.detected)).map (·.1) := by
    induction same with
    | nil => rfl
    | cons here _ ih =>
      rw [List.filter_cons, List.filter_cons, ← here.detected]
      split
      · rw [List.map_cons, List.map_cons, here.category, ih]
      · exact ih
  have lines := congrArg (List.map fun category => s!"No {category.label} patterns detected") absent
  rw [List.map_map, List.map_map] at lines
  unfold mitigatingFactors
  rw [Results.detected_congr_of_same same]
  dsimp only
  split
  · exact lines
  · exact congrArg (· ++ _) lines

/-- Verdicts with one judgement are both in range, or refused for the same reason. -/
theorem checked_judgement [LE α] [DecidableLE α] [OfScientific α] {verdict verdict' : Assessment α}
    (same : verdict.judgement = verdict'.judgement) :
    verdict.checked.map Assessment.judgement = verdict'.checked.map Assessment.judgement := by
  have score : verdict.score = verdict'.score := congrArg Judgement.score same
  have confidence : verdict.confidence = verdict'.confidence := congrArg Judgement.confidence same
  rcases Assessment.checked_alike score confidence with ⟨given, given'⟩ | ⟨failure, refused, refused'⟩
  · rw [given, given']
    exact congrArg Except.ok same
  · rw [refused, refused']

section

variable [Add α] [Sub α] [Mul α] [Div α] [LT α] [LE α] [DecidableLT α] [DecidableLE α]
  [OfScientific α] [NatCast α] [Decimal.Rendered α]

/-- **Tables with the same detections are judged alike.** -/
theorem assess_judgement (same : SameDetections results results') (config : Config α)
    (listed : Bool) :
    (assess config results listed).judgement = (assess config results' listed).judgement := by
  unfold assess explain breakdown Assessment.judgement
  rw [Results.detected_congr_of_same same, Results.inOrder_length_congr same,
    mitigatingFactors_congr_of_same same]

/-- **What is not detected has no influence.** For every configuration, two accepted tables with the
same detections get verdicts with one judgement, or are refused for the same reason, and they come with
the same warnings. -/
theorem aggregate_undetected (config : Config α) (listed : Bool) (address : Option String)
    {table table' : List (Key × Results.Given α)}
    (accepted : Results.check (table.map fun (key, given) => (key.word, given)) = .ok results)
    (accepted' : Results.check (table'.map fun (key, given) => (key.word, given)) = .ok results')
    (same : SameDetections results results') :
    (aggregate config table listed).map Assessment.judgement =
        (aggregate config table' listed).map Assessment.judgement ∧
      warnings (Results.recognised (table.map fun (key, given) => (key.word, given))) address =
        warnings (Results.recognised (table'.map fun (key, given) => (key.word, given))) address := by
  constructor
  · rw [aggregate_of_check accepted, aggregate_of_check accepted']
    exact checked_judgement (assess_judgement same config listed)
  · rw [Results.recognised_of_check accepted, Results.recognised_of_check accepted']
    unfold warnings
    rw [Results.detected_congr_of_same same]

end

/-- A detected redirection beside a clean balance. -/
def calmFindings : Results Rat := [
  (.hiddenRedirection, faintFinding),
  (.fakeBalance, { faintFinding with detected := false, confidence := 0, category := .fakeBalance })]

/-- The same redirection beside a balance that is suspected of all sorts of things, but not detected. -/
def alarmingFindings : Results Rat := [
  (.hiddenRedirection, faintFinding),
  (.fakeBalance, {
    detected := false
    confidence := 1
    category := .fakeBalance
    description := "Balances look fake"
    evidence := ["Constant balance", "No transfer event", "Pure getter"]
    severity := .critical
    metadata := [("suspicious", .bool true)] })]

/-- Findings as a table, each under its category. -/
def filedTable (results : Results Rat) : List (Key × Results.Given Rat) :=
  results.map fun (category, finding) => (.known category, .finding finding)

theorem aggregate_undetected_alarming :
    Valid (filedTable calmFindings) calmFindings ∧
      Valid (filedTable alarmingFindings) alarmingFindings ∧
      SameDetections calmFindings alarmingFindings ∧
      ∃ verdict verdict', aggregate Config.standard (filedTable calmFindings) false = .ok verdict ∧
        aggregate Config.standard (filedTable alarmingFindings) false = .ok verdict' ∧
        verdict.judgement = verdict'.judgement := by
  have calm : Valid (filedTable calmFindings) calmFindings :=
    ⟨rfl, by norm_num [calmFindings, faintFinding]⟩
  have alarming : Valid (filedTable alarmingFindings) alarmingFindings :=
    ⟨rfl, by norm_num [alarmingFindings, faintFinding]⟩
  have same : SameDetections calmFindings alarmingFindings :=
    .cons ⟨rfl, rfl, fun _ => rfl⟩ (.cons ⟨rfl, rfl, (absurd · Bool.false_ne_true)⟩ .nil)
  have judged := (aggregate_undetected Config.standard false none calm.accepted alarming.accepted same).1
  rw [calm.aggregate_eq, alarming.aggregate_eq] at judged
  exact ⟨calm, alarming, same, _, _, calm.aggregate_eq _ _, alarming.aggregate_eq _ _,
    Except.ok.inj judged⟩

end ContractRisk.Scoring
