/-
**The bounds of a score**, over exact fractions.

* `bonusScore_bounds`, `penaltyScore_bounds`: bonus and penalty stay below their caps, and the penalty
  below two fifths of the base, since no finding loses a greater share of what it contributes;
* `le_remainder`: hence three fifths of the base remain, nothing negative is ever clamped, and the score
  has the upper bound only (`finalScore_eq`);
* `meanConfidence_bounds`: the confidence of an address that is not listed is one between those of the
  detected findings;
* `aggregate_bounded`: a verdict is always given, and all of this holds of it.
-/

import Mathlib.Algebra.BigOperators.Ring.List
import Mathlib.Algebra.Order.BigOperators.Group.List
import ContractRisk.Proofs.Scoring.Monotone
import ContractRisk.Proofs.Share.Fractions

namespace ContractRisk.Scoring

variable {config : Config Rat} {results found : Results Rat}

/-! ### The base -/

/-- The sum over some items is that over all, where the others count as zero. -/
theorem sum_filter {A : Type} (p : A → Bool) (f : A → Rat) (items : List A) :
    ((items.filter p).map f).sum = (items.map fun item => if p item then f item else 0).sum := by
  induction items with
  | nil => rfl
  | cons first rest ih =>
    rw [List.map_cons, List.sum_cons, ← ih, List.filter_cons]
    split
    · rw [List.map_cons, List.sum_cons]
    · rw [zero_add]

/-- **The base is the sum of the contributions in the breakdown**, where what is not detected has the
contribution zero. -/
theorem breakdown_base (config : Config Rat) (results : Results Rat) (listed : Bool) :
    (breakdown config results listed).base =
      ((breakdown config results listed).scores.map (·.2.contribution)).sum := by
  show baseScore config results.detected = ((results.inOrder.map _).map _).sum
  rw [baseScore_eq, Results.detected, sum_filter, List.map_map]
  congr 1
  refine List.map_congr_left fun entry _ => ?_
  show _ = if entry.2.detected then contribution config entry.2 else 0.0
  norm_num

theorem baseScore_nonneg (inRange : config.InRange) (sound : ∀ entry ∈ found, Sound entry) :
    0 ≤ baseScore config found := by
  rw [baseScore_eq]
  refine List.sum_nonneg fun x member => ?_
  obtain ⟨entry, inFound, rfl⟩ := List.mem_map.mp member
  exact contribution_nonneg inRange (sound entry inFound)

/-! ### Bonus and penalty -/

theorem bonusScore_bounds (config : Config Rat) (found : Results Rat) :
    0 ≤ bonusScore config found ∧ bonusScore config found ≤ 3 / 10 := by
  rw [bonusScore_eq]
  split
  · exact ⟨le_min (rawBonus_nonneg found) (by norm_num), min_le_right _ _⟩
  · norm_num

theorem discount_nonneg (finding : Finding Rat) : 0 ≤ discount finding := by
  rw [discount_eq]
  split <;> split <;> norm_num

/-- What is taken off before it is capped. -/
def rawPenalty (config : Config Rat) (found : Results Rat) : Rat :=
  (found.map fun entry => contribution config entry.2 * discount entry.2).sum

theorem penaltyScore_eq (config : Config Rat) (found : Results Rat) :
    penaltyScore config found = if config.penalty then min (rawPenalty config found) (1 / 5) else 0 := by
  unfold penaltyScore rawPenalty
  rw [total_eq_sum, smaller_eq_min]
  norm_num

theorem rawPenalty_nonneg (inRange : config.InRange) (sound : ∀ entry ∈ found, Sound entry) :
    0 ≤ rawPenalty config found := by
  refine List.sum_nonneg fun x member => ?_
  obtain ⟨entry, inFound, rfl⟩ := List.mem_map.mp member
  exact mul_nonneg (contribution_nonneg inRange (sound entry inFound)) (discount_nonneg entry.2)

/-- **No more than two fifths of the base are taken off**, since no more are of each contribution. -/
theorem rawPenalty_le (inRange : config.InRange) (sound : ∀ entry ∈ found, Sound entry) :
    rawPenalty config found ≤ 2 / 5 * baseScore config found := by
  rw [baseScore_eq, ← List.sum_map_mul_left]
  refine List.sum_le_sum fun entry member => ?_
  rw [mul_comm (2 / 5)]
  exact mul_le_mul_of_nonneg_left (discount_le entry.2) (contribution_nonneg inRange (sound entry member))

theorem penaltyScore_bounds (inRange : config.InRange) (sound : ∀ entry ∈ found, Sound entry) :
    0 ≤ penaltyScore config found ∧
      penaltyScore config found ≤ min (1 / 5) (2 / 5 * baseScore config found) := by
  have base := baseScore_nonneg inRange sound
  rw [penaltyScore_eq]
  split
  · refine ⟨le_min (rawPenalty_nonneg inRange sound) (by norm_num), le_min (min_le_right _ _) ?_⟩
    exact (min_le_left _ _).trans (rawPenalty_le inRange sound)
  · exact ⟨le_rfl, le_min (by norm_num) (by linarith)⟩

/-! ### The final score -/

/-- **Three fifths of the base remain at least.** -/
theorem le_remainder (inRange : config.InRange) (sound : ∀ entry ∈ found, Sound entry) :
    3 / 5 * baseScore config found ≤
      baseScore config found + bonusScore config found - penaltyScore config found := by
  have bonus := (bonusScore_bounds config found).1
  have penalty := (penaltyScore_bounds inRange sound).2.trans (min_le_right _ _)
  linarith

/-- **The lower bound of the score never acts.** -/
theorem remainder_nonneg (inRange : config.InRange) (sound : ∀ entry ∈ found, Sound entry) :
    0 ≤ baseScore config found + bonusScore config found - penaltyScore config found := by
  have base := baseScore_nonneg inRange sound
  have rest := le_remainder inRange sound
  linarith

theorem finalScore_eq (inRange : config.InRange) (sound : ∀ entry ∈ found, Sound entry) :
    finalScore config found false =
      min 1 (baseScore config found + bonusScore config found - penaltyScore config found) := by
  unfold finalScore
  rw [if_neg Bool.false_ne_true, clamped_eq, min_comm, max_eq_right]
  exact le_min (by norm_num) (remainder_nonneg inRange sound)

theorem finalScore_listed (config : Config Rat) (found : Results Rat) :
    finalScore config found true = 1 := by
  unfold finalScore
  norm_num

/-- **Without the bonus no score is higher.** -/
theorem finalScore_withoutBonus (config : Config Rat) (found : Results Rat) (listed : Bool) :
    finalScore { config with bonus := false } found listed ≤ finalScore config found listed := by
  have none : bonusScore { config with bonus := false } found = 0 := by
    rw [bonusScore_eq, if_neg (by simp)]
  have some := (bonusScore_bounds config found).1
  cases listed with
  | true => exact le_rfl
  | false =>
    refine clamped_mono ?_
    rw [none]
    exact sub_le_sub_right (add_le_add_right some _) _

/-- **Without the penalty no score is lower.** -/
theorem finalScore_withoutPenalty (inRange : config.InRange) (sound : ∀ entry ∈ found, Sound entry)
    (listed : Bool) :
    finalScore config found listed ≤ finalScore { config with penalty := false } found listed := by
  have none : penaltyScore { config with penalty := false } found = 0 := by
    rw [penaltyScore_eq, if_neg (by simp)]
  have some := (penaltyScore_bounds inRange sound).1
  cases listed with
  | true => exact le_rfl
  | false =>
    refine clamped_mono ?_
    rw [none]
    exact sub_le_sub_left some _

/-! ### Confidence -/

/-- The least confidence of detected findings, zero if there are none. -/
def leastConfidence (found : Results Rat) : Rat := (found.map (·.2.confidence)).min?.getD 0

/-- The greatest confidence of detected findings, zero if there are none. -/
def greatestConfidence (found : Results Rat) : Rat := (found.map (·.2.confidence)).max?.getD 0

theorem meanConfidence_listed (found : Results Rat) : meanConfidence found true = 1 := by
  unfold meanConfidence
  norm_num

theorem meanConfidence_eq (some : found ≠ []) :
    meanConfidence found false =
      (found.map (·.2.confidence)).sum / ((found.map (·.2.confidence)).length : Nat) := by
  unfold meanConfidence
  rw [if_neg Bool.false_ne_true, if_neg (by simpa using some), total_eq_sum, List.length_map]

theorem leastConfidence_le {entry : Category × Finding Rat} (member : entry ∈ found) :
    leastConfidence found ≤ entry.2.confidence := by
  have inList := List.mem_map_of_mem (f := (·.2.confidence)) member
  unfold leastConfidence
  cases least : (found.map (·.2.confidence)).min? with
  | none => simp [List.min?_eq_none_iff.mp least] at inList
  | some x => exact (List.min?_eq_some_iff.mp least).2 _ inList

theorem le_greatestConfidence {entry : Category × Finding Rat} (member : entry ∈ found) :
    entry.2.confidence ≤ greatestConfidence found := by
  have inList := List.mem_map_of_mem (f := (·.2.confidence)) member
  unfold greatestConfidence
  cases greatest : (found.map (·.2.confidence)).max? with
  | none => simp [List.max?_eq_none_iff.mp greatest] at inList
  | some x => exact (List.max?_eq_some_iff.mp greatest).2 _ inList

/-- **The confidence lies between those of the detected findings.** -/
theorem meanConfidence_bounds (found : Results Rat) :
    leastConfidence found ≤ meanConfidence found false ∧
      meanConfidence found false ≤ greatestConfidence found := by
  by_cases none : found = []
  · subst none
    norm_num [leastConfidence, greatestConfidence, meanConfidence]
  · rw [meanConfidence_eq none]
    refine mean_bounds (by simpa using none) ?_ ?_
    · simp only [List.forall_mem_map]
      exact fun entry => leastConfidence_le
    · simp only [List.forall_mem_map]
      exact fun entry => le_greatestConfidence

/-! ### The verdict -/

/-- **A valid table of results**: it is accepted, and each confidence in it is one. -/
structure Valid (table : List (Key × Results.Given Rat)) (results : Results Rat) : Prop where
  accepted : Results.check (table.map fun (key, given) => (key.word, given)) = .ok results
  unit : ∀ entry ∈ results, 0 ≤ entry.2.confidence ∧ entry.2.confidence ≤ 1

/-- **The bounds of a verdict** on findings, of which `found` are those detected. -/
structure Bounded (found : Results Rat) (listed : Bool) (verdict : Assessment Rat) : Prop where
  base : verdict.breakdown.base = (verdict.breakdown.scores.map (·.2.contribution)).sum
  bonus : 0 ≤ verdict.breakdown.bonus ∧ verdict.breakdown.bonus ≤ 3 / 10
  penalty : 0 ≤ verdict.breakdown.penalty ∧
    verdict.breakdown.penalty ≤ min (1 / 5) (2 / 5 * verdict.breakdown.base)
  /-- Nothing negative is left to clamp, -/
  remainder :
    0 ≤ verdict.breakdown.base + verdict.breakdown.bonus - verdict.breakdown.penalty
  /-- so that a score has the upper bound only. -/
  score : listed = false →
    verdict.score =
        min 1 (verdict.breakdown.base + verdict.breakdown.bonus - verdict.breakdown.penalty) ∧
      min 1 (3 / 5 * verdict.breakdown.base) ≤ verdict.score
  confidence : listed = false →
    leastConfidence found ≤ verdict.confidence ∧ verdict.confidence ≤ greatestConfidence found
  /-- A listed address is certain. -/
  certain : listed = true → verdict.score = 1 ∧ verdict.confidence = 1

section

variable {table : List (Key × Results.Given Rat)}

theorem Valid.sound (valid : Valid table results) : ∀ entry ∈ results.detected, Sound entry := by
  intro entry member
  have inTable := Results.mem_of_mem_detected member
  exact ⟨Results.check_keyed valid.accepted entry inTable, (valid.unit entry inTable).1⟩

/-- **No verdict on a valid table is refused.** -/
theorem Valid.aggregate_eq (valid : Valid table results) (config : Config Rat) (listed : Bool) :
    aggregate config table listed = .ok (assess config results listed) := by
  rw [aggregate_of_check valid.accepted]
  exact assess_checked (fun entry member => isShare_iff.mpr (valid.unit entry member)) config listed

theorem assess_bounded (inRange : config.InRange) (sound : ∀ entry ∈ results.detected, Sound entry)
    (listed : Bool) : Bounded results.detected listed (assess config results listed) where
  base := breakdown_base config results listed
  bonus := bonusScore_bounds config results.detected
  penalty := penaltyScore_bounds inRange sound
  remainder := remainder_nonneg inRange sound
  score := by
    rintro rfl
    have score : (assess config results false).score = _ := finalScore_eq inRange sound
    exact ⟨score, score ▸ min_le_min_left 1 (le_remainder inRange sound)⟩
  confidence := by
    rintro rfl
    exact meanConfidence_bounds results.detected
  certain := by
    rintro rfl
    exact ⟨finalScore_listed config results.detected, meanConfidence_listed results.detected⟩

/-- **Every valid table gets a verdict within bounds**, for every configuration in range. Switching the
bonus off never raises the score, and switching the penalty off never lowers it. -/
theorem aggregate_bounded (inRange : config.InRange) (valid : Valid table results) (listed : Bool) :
    ∃ verdict plain lenient,
      aggregate config table listed = .ok verdict ∧
      aggregate { config with bonus := false } table listed = .ok plain ∧
      aggregate { config with penalty := false } table listed = .ok lenient ∧
      Bounded results.detected listed verdict ∧
      plain.score ≤ verdict.score ∧ verdict.score ≤ lenient.score :=
  ⟨_, _, _, valid.aggregate_eq config listed, valid.aggregate_eq _ listed,
    valid.aggregate_eq _ listed, assess_bounded inRange valid.sound listed,
    finalScore_withoutBonus config results.detected listed,
    finalScore_withoutPenalty inRange valid.sound listed⟩

end

/-- Two findings, one under a category and one under the word for another. -/
def mixedTable : List (Key × Results.Given Rat) := [
  (.known .hiddenRedirection, .finding { faintFinding with confidence := 2 / 5 }),
  (.given (.text "deceptive-events"), .finding { faintFinding with category := .deceptiveEvents })]

theorem mixedTable_valid : Valid mixedTable clearFindings where
  accepted := rfl
  unit := by norm_num [clearFindings, faintFinding]

theorem aggregate_bounded_mixedTable :
    (Config.standard : Config Rat).InRange ∧ Valid mixedTable clearFindings ∧
      ∃ verdict plain lenient,
        aggregate Config.standard mixedTable false = .ok verdict ∧
        aggregate { Config.standard with bonus := false } mixedTable false = .ok plain ∧
        aggregate { Config.standard with penalty := false } mixedTable false = .ok lenient ∧
        Bounded clearFindings.detected false verdict ∧
        plain.score ≤ verdict.score ∧ verdict.score ≤ lenient.score :=
  ⟨standard_inRange, mixedTable_valid, aggregate_bounded standard_inRange mixedTable_valid false⟩

/-- A table with nothing detected. -/
def harmlessFindings : Results Rat := [
  (.hiddenRedirection, { faintFinding with detected := false, confidence := 0 })]

/-- The table as it is given. -/
def harmlessTable : List (Key × Results.Given Rat) :=
  harmlessFindings.map fun (category, finding) => (.known category, .finding finding)

/-- **A listed address has the confidence one, although nothing is detected.** -/
theorem listed_confidence : (Config.standard : Config Rat).InRange ∧
    Valid harmlessTable harmlessFindings ∧ harmlessFindings.detected = [] ∧
    ∃ verdict, aggregate Config.standard harmlessTable true = .ok verdict ∧
      verdict.confidence ≠ 0 := by
  have valid : Valid harmlessTable harmlessFindings := ⟨rfl, by norm_num [harmlessFindings]⟩
  refine ⟨standard_inRange, valid, rfl, _, valid.aggregate_eq Config.standard true, ?_⟩
  exact ne_of_eq_of_ne (meanConfidence_listed harmlessFindings.detected) one_ne_zero

end ContractRisk.Scoring
