/-
**A verdict does not depend on the order of the results.**

Two tables have the same results if each is the other one rearranged, a key being a category or the
word for it (`SameResults`). With each key once they then have the same finding under each category, and
whatever is computed goes through the categories in the order of reports.

* `Results.check_perm`, `Results.get?_perm`: both tables are accepted, with the same look-ups;
* `Results.inOrder_congr`, `Results.detected_congr`: hence the same findings in the order of reports;
* `assess_congr`, `mitigatingFactors_perm`: of a verdict only what speaks for the contract follows the
  table, and that up to order;
* `aggregate_rearranged`: the two verdicts agree in everything else.
-/

import ContractRisk.Proofs.Attempt
import ContractRisk.Proofs.Scoring.Bounds
import ContractRisk.Proofs.Scoring.Results
import ContractRisk.Scoring.Aggregate
import Mathlib.Data.List.Nodup

namespace ContractRisk.Scoring

variable {α : Type}

/-! ### Rearranged tables -/

/-- **Tables with the same results**: one is the other rearranged, and a key may be a category in one of
them and its word in the other. -/
def SameResults (table table' : List (Key × Results.Given α)) : Prop :=
  (table.map fun (key, given) => (key.word, given)).Perm
    (table'.map fun (key, given) => (key.word, given))

namespace Results

variable {results results' : Results α}

/-- A rearranged table is accepted as well, and has the same entries. -/
theorem check_perm {table table' : List (Value × Given α)} (perm : table.Perm table')
    (accepted : check table = .ok results) :
    ∃ results', check table' = .ok results' ∧ results.Perm results' := by
  obtain ⟨some, accepted⟩ := check_eq_ok.mp accepted
  obtain ⟨results', accepted', perm'⟩ := Attempt.mapM_perm perm accepted
  refine ⟨results', check_eq_ok.mpr ⟨fun none => some ?_, accepted'⟩, perm'⟩
  rw [none] at perm
  exact perm.eq_nil

/-- With each key once, a table has each category once. -/
theorem check_once {table : List (Value × Given α)} (accepted : check table = .ok results)
    (once : (table.map (·.1)).Nodup) : (results.map (·.1)).Nodup := by
  rw [← check_words accepted] at once
  refine List.Nodup.of_map (fun category : Category => Value.text category.name) ?_
  rw [List.map_map]
  exact once

/-- **Tables that are rearranged have the same look-ups.** -/
theorem get?_perm (perm : results.Perm results') (once : (results.map (·.1)).Nodup)
    (category : Category) : results.get? category = results'.get? category := by
  have once' : (results'.map (·.1)).Nodup := (perm.map _).nodup_iff.mp once
  refine Option.ext fun finding => ?_
  constructor
  · intro filed
    exact get?_of_mem once' (perm.mem_iff.mp (mem_of_get? filed))
  · intro filed
    exact get?_of_mem once (perm.mem_iff.mpr (mem_of_get? filed))

variable (same : ∀ category, results.get? category = results'.get? category)
include same

theorem inOrder_congr : results.inOrder = results'.inOrder := by
  unfold inOrder
  simp only [same]

theorem detected_congr : results.detected = results'.detected := by
  unfold detected
  rw [inOrder_congr same]

end Results

/-! ### Verdicts -/

/-- **Verdicts that agree**, but for the order of what speaks for the contract. -/
structure SameVerdict (verdict verdict' : Assessment α) : Prop where
  score : verdict.score = verdict'.score
  level : verdict.level = verdict'.level
  confidence : verdict.confidence = verdict'.confidence
  breakdown : verdict.breakdown = verdict'.breakdown
  analyzed : verdict.analyzed = verdict'.analyzed
  detected : verdict.detected = verdict'.detected
  listed : verdict.listed = verdict'.listed
  summary : verdict.explanation.summary = verdict'.explanation.summary
  riskFactors : verdict.explanation.riskFactors = verdict'.explanation.riskFactors
  recommendations : verdict.explanation.recommendations = verdict'.explanation.recommendations
  detailedAnalysis : verdict.explanation.detailedAnalysis = verdict'.explanation.detailedAnalysis
  mitigatingFactors :
    verdict.explanation.mitigatingFactors.Perm verdict'.explanation.mitigatingFactors

section

variable {results results' : Results α}
  (same : ∀ category, results.get? category = results'.get? category)
include same

theorem breakdown_congr [Add α] [Sub α] [Mul α] [LT α] [LE α] [DecidableLT α] [DecidableLE α]
    [OfScientific α] [NatCast α] (config : Config α) (listed : Bool) :
    breakdown config results listed = breakdown config results' listed := by
  unfold breakdown
  rw [Results.detected_congr same, Results.inOrder_congr same]

/-- Of what speaks for a contract only the lines about single categories follow the table. -/
theorem mitigatingFactors_perm [LT α] [DecidableLT α] [OfScientific α] (perm : results.Perm results') :
    (mitigatingFactors results).Perm (mitigatingFactors results') := by
  have absent := (perm.filter (!·.2.detected)).map fun entry =>
    s!"No {entry.1.label} patterns detected"
  unfold mitigatingFactors
  rw [Results.detected_congr same]
  dsimp only
  split
  · exact absent
  · exact absent.append_right _

end

/-- Verdicts that agree are both in range, or refused for the same reason. -/
theorem SameVerdict.checked [LE α] [DecidableLE α] [OfScientific α] {verdict verdict' : Assessment α}
    (same : SameVerdict verdict verdict') :
    (verdict.checked = .ok verdict ∧ verdict'.checked = .ok verdict') ∨
      ∃ failure, verdict.checked = .error failure ∧ verdict'.checked = .error failure :=
  Assessment.checked_alike same.score same.confidence

section

variable [Add α] [Sub α] [Mul α] [Div α] [LT α] [LE α] [DecidableLT α] [DecidableLE α]
  [OfScientific α] [NatCast α] [Decimal.Rendered α] {results results' : Results α}

/-- **All of a verdict goes through the look-ups**, but for what speaks for the contract. -/
theorem assess_congr (same : ∀ category, results.get? category = results'.get? category)
    (config : Config α) (listed : Bool) :
    assess config results listed =
      { assess config results' listed with
        explanation := { (assess config results' listed).explanation with
          mitigatingFactors := mitigatingFactors results } } := by
  unfold assess explain
  rw [breakdown_congr same, Results.detected_congr same, Results.inOrder_congr same]

/-- **Rearranged results get the same verdict.** -/
theorem assess_perm (perm : results.Perm results') (once : (results.map (·.1)).Nodup)
    (config : Config α) (listed : Bool) :
    SameVerdict (assess config results listed) (assess config results' listed) := by
  have same := Results.get?_perm perm once
  rw [assess_congr same]
  exact {
    score := rfl
    level := rfl
    confidence := rfl
    breakdown := rfl
    analyzed := rfl
    detected := rfl
    listed := rfl
    summary := rfl
    riskFactors := rfl
    recommendations := rfl
    detailedAnalysis := rfl
    mitigatingFactors := mitigatingFactors_perm same perm }

/-- **The verdict depends on the set of results only.** For every configuration and every accepted table
with each key once, a table with the same results gets a verdict that agrees, or is refused for the same
reason. -/
theorem aggregate_rearranged (config : Config α) (listed : Bool)
    {table table' : List (Key × Results.Given α)} (once : (table.map (·.1.word)).Nodup)
    (accepted : Results.check (table.map fun (key, given) => (key.word, given)) = .ok results)
    (same : SameResults table table') :
    ∃ verdict verdict', SameVerdict verdict verdict' ∧
      aggregate config table listed = verdict.checked ∧
      aggregate config table' listed = verdict'.checked ∧
      ((verdict.checked = .ok verdict ∧ verdict'.checked = .ok verdict') ∨
        ∃ failure, verdict.checked = .error failure ∧ verdict'.checked = .error failure) := by
  obtain ⟨results', accepted', perm⟩ := Results.check_perm same accepted
  have each : (results.map (·.1)).Nodup := by
    refine Results.check_once accepted ?_
    rw [List.map_map]
    exact once
  have agree := assess_perm perm each config listed
  exact ⟨_, _, agree, aggregate_of_check accepted listed, aggregate_of_check accepted' listed,
    agree.checked⟩

end

/-- The findings of the other table in the other order, and each under the other spelling of its key. -/
def respelledTable : List (Key × Results.Given Rat) := [
  (.known .deceptiveEvents, .finding { faintFinding with category := .deceptiveEvents }),
  (.given (.text "hidden-redirection"), .finding { faintFinding with confidence := 2 / 5 })]

theorem aggregate_rearranged_respelled :
    (mixedTable.map (·.1.word)).Nodup ∧ SameResults mixedTable respelledTable ∧
      ∃ verdict verdict', SameVerdict verdict verdict' ∧
        aggregate Config.standard mixedTable false = verdict.checked ∧
        aggregate Config.standard respelledTable false = verdict'.checked ∧
        ((verdict.checked = .ok verdict ∧ verdict'.checked = .ok verdict') ∨
          ∃ failure, verdict.checked = .error failure ∧ verdict'.checked = .error failure) := by
  have once : (mixedTable.map (·.1.word)).Nodup := by
    simp [mixedTable, Key.word, Category.name]
  have same : SameResults mixedTable respelledTable := .swap _ _ _
  exact ⟨once, same, aggregate_rearranged Config.standard false once mixedTable_valid.accepted same⟩

end ContractRisk.Scoring
