/-
**Stronger results never score lower.**

`Strengthens` compares two tables of results category by category: whatever the first one detects the
second one detects with at least as much confidence, evidence and multiplier. Over exact fractions:

* `detected_outweighed` — the detected findings of the first table are matched, in order, by some of
  the second one, each of which `Outweighs` the one that it matches;
* `base_sub_penalty_mono` — what is left of the base after the penalty grows. A contribution less its
  own discount grows, since a discount never gets larger and never reaches the whole; the cap on the
  penalty then only adds to the base (`base_sub_penalty_eq`);
* `bonusScore_mono` — the bonus grows with the number of findings, pairs and strong findings;
* `assess_mono` — hence score and level never drop.
-/

import Mathlib.Algebra.Order.Group.MinMax
import Mathlib.Tactic.Linarith
import Mathlib.Tactic.Positivity
import Mathlib.Tactic.Ring
import ContractRisk.Proofs.Fraction
import ContractRisk.Proofs.Scoring.Results
import ContractRisk.Scoring.Explanation

namespace ContractRisk.Scoring

/-! ### Matched lists -/

section Matched

variable {A : Type} {related : A → A → Prop} {short long : List A}

theorem matched_length_le (matched : List.SublistForall₂ related short long) :
    short.length ≤ long.length := by
  obtain ⟨middle, pairs, sublist⟩ := List.sublistForall₂_iff.mp matched
  rw [pairs.length_eq]
  exact sublist.length_le

theorem matched_countP_le (matched : List.SublistForall₂ related short long) {p : A → Bool}
    (keeps : ∀ a b, related a b → p a = true → p b = true) : short.countP p ≤ long.countP p := by
  induction matched with
  | nil => exact Nat.zero_le _
  | @cons a b short long pair _ ih =>
    have kept := keeps a b pair
    rw [List.countP_cons, List.countP_cons]
    split <;> grind
  | @cons_right b short long _ ih =>
    rw [List.countP_cons]
    exact ih.trans (Nat.le_add_right _ _)

theorem matched_any (matched : List.SublistForall₂ related short long) {p : A → Bool}
    (keeps : ∀ a b, related a b → p a = true → p b = true) (found : short.any p = true) :
    long.any p = true := by
  rw [List.any_eq_true, ← List.countP_pos_iff] at *
  exact found.trans_le (matched_countP_le matched keeps)

/-- A sum over matched lists grows if each summand does and none is negative. -/
theorem matched_sum_le (matched : List.SublistForall₂ related short long) {f : A → Rat}
    (grows : ∀ a b, related a b → f a ≤ f b) (nonneg : ∀ b ∈ long, 0 ≤ f b) :
    (short.map f).sum ≤ (long.map f).sum := by
  obtain ⟨middle, pairs, sublist⟩ := List.sublistForall₂_iff.mp matched
  refine List.SublistForall₂.sum_le_sum ?_ ?_
  · rw [List.sublistForall₂_map_left_iff, List.sublistForall₂_map_right_iff,
      List.sublistForall₂_iff]
    exact ⟨middle, pairs.imp grows, sublist⟩
  · intro y member
    obtain ⟨b, place, rfl⟩ := List.mem_map.mp member
    exact nonneg b place

theorem matched_filterMap {K : Type} {f g : K → Option A}
    (pairs : ∀ key a, f key = some a → ∃ b, g key = some b ∧ related a b) (keys : List K) :
    List.SublistForall₂ related (keys.filterMap f) (keys.filterMap g) := by
  induction keys with
  | nil => exact .nil
  | cons key rest ih =>
    cases first : f key with
    | none =>
      rw [List.filterMap_cons_none first]
      cases second : g key with
      | none =>
        rw [List.filterMap_cons_none second]
        exact ih
      | some b =>
        rw [List.filterMap_cons_some second]
        exact .cons_right ih
    | some a =>
      obtain ⟨b, second, pair⟩ := pairs key a first
      rw [List.filterMap_cons_some first, List.filterMap_cons_some second]
      exact .cons pair ih

end Matched

/-! ### Stronger findings -/

/-- **A finding weighs at least as much as another one** by confidence, evidence and multiplier. -/
structure Stronger (config : Config Rat) (finding finding' : Finding Rat) : Prop where
  confidence : finding.confidence ≤ finding'.confidence
  evidence : finding.evidence.length ≤ finding'.evidence.length
  multiplier : config.multiplier finding.severity ≤ config.multiplier finding'.severity

/-- Whatever one table detects the other one detects no less strongly. -/
def Strengthens (config : Config Rat) (results results' : Results Rat) : Prop :=
  ∀ category finding, results.get? category = some finding → finding.detected = true →
    ∃ finding', results'.get? category = some finding' ∧ finding'.detected = true ∧
      Stronger config finding finding'

/-- An entry stands under its own category and has a confidence. -/
structure Sound (entry : Category × Finding Rat) : Prop where
  filed : entry.2.category = entry.1
  nonneg : 0 ≤ entry.2.confidence

/-- **A detected finding is matched by a stronger one of its category.** -/
structure Outweighs (config : Config Rat) (entry entry' : Category × Finding Rat) : Prop where
  category : entry.1 = entry'.1
  sound : Sound entry
  sound' : Sound entry'
  stronger : Stronger config entry.2 entry'.2

section

variable {config : Config Rat} {results results' : Results Rat}

theorem detected_outweighed (sound : ∀ entry ∈ results, Sound entry)
    (sound' : ∀ entry ∈ results', Sound entry) (stronger : Strengthens config results results') :
    List.SublistForall₂ (Outweighs config) results.detected results'.detected := by
  rw [Results.detected_eq, Results.detected_eq]
  refine matched_filterMap ?_ Category.all
  intro category entry paired
  obtain ⟨finding, detection, rfl⟩ := Option.map_eq_some_iff.mp paired
  obtain ⟨filed, detected⟩ := Results.detection?_eq_some.mp detection
  obtain ⟨finding', filed', detected', more⟩ := stronger category finding filed detected
  refine ⟨(category, finding'), ?_, rfl, sound _ (Results.mem_of_get? filed),
    sound' _ (Results.mem_of_get? filed'), more⟩
  rw [Results.detection?_eq_some.mpr ⟨filed', detected'⟩]
  rfl

/-! ### Contributions -/

/-- A number read with a point is the fraction. -/
theorem discount_eq (finding : Finding Rat) :
    discount finding = (if finding.confidence < 2 / 5 then 1 / 4 else 0) +
      (if finding.evidence.length < 2 then 3 / 20 else 0) := by
  unfold discount isWeak weakConfidence
  norm_num
  split <;> split <;> norm_num

/-- A discount never reaches the whole. -/
theorem discount_le (finding : Finding Rat) : discount finding ≤ 2 / 5 := by
  rw [discount_eq]
  split <;> split <;> norm_num

/-- More confidence and evidence never raise the discount. -/
theorem discount_anti {finding finding' : Finding Rat} (more : Stronger config finding finding') :
    discount finding' ≤ discount finding := by
  have confidence := more.confidence
  have evidence := more.evidence
  rw [discount_eq, discount_eq]
  refine add_le_add ?_ ?_
  · by_cases weak : finding'.confidence < 2 / 5
    · rw [if_pos weak, if_pos (confidence.trans_lt weak)]
    · rw [if_neg weak]
      split <;> norm_num
  · by_cases thin : finding'.evidence.length < 2
    · rw [if_pos thin, if_pos (evidence.trans_lt thin)]
    · rw [if_neg thin]
      split <;> norm_num

theorem weight_nonneg (inRange : config.InRange) (category : Category) :
    0 ≤ config.weight category := by
  have bound := (inRange.weight category).1
  norm_num at bound
  exact bound

theorem multiplier_nonneg (inRange : config.InRange) (severity : Severity) :
    0 ≤ config.multiplier severity := by
  have bound := (inRange.multiplier severity).1
  norm_num at bound
  exact bound

theorem contribution_nonneg (inRange : config.InRange) {entry : Category × Finding Rat}
    (sound : Sound entry) : 0 ≤ contribution config entry.2 :=
  mul_nonneg (mul_nonneg (weight_nonneg inRange _) sound.nonneg) (multiplier_nonneg inRange _)

theorem contribution_mono (inRange : config.InRange) {entry entry' : Category × Finding Rat}
    (more : Outweighs config entry entry') :
    contribution config entry.2 ≤ contribution config entry'.2 := by
  -- the weight is looked up by the finding's own category, which both entries share
  have same : entry.2.category = entry'.2.category := by
    rw [more.sound.filed, more.sound'.filed, more.category]
  unfold contribution
  rw [same]
  have weight := weight_nonneg inRange entry'.2.category
  refine mul_le_mul ?_ more.stronger.multiplier (multiplier_nonneg inRange _) ?_
  · exact mul_le_mul_of_nonneg_left more.stronger.confidence weight
  · exact mul_nonneg weight more.sound'.nonneg

/-- What a finding contributes less its own discount. -/
def kept (config : Config Rat) (entry : Category × Finding Rat) : Rat :=
  contribution config entry.2 * (1 - discount entry.2)

theorem kept_nonneg (inRange : config.InRange) {entry : Category × Finding Rat}
    (sound : Sound entry) : 0 ≤ kept config entry := by
  have share := discount_le entry.2
  refine mul_nonneg (contribution_nonneg inRange sound) ?_
  linarith

/-- **A contribution less its own discount grows.** -/
theorem kept_mono (inRange : config.InRange) {entry entry' : Category × Finding Rat}
    (more : Outweighs config entry entry') : kept config entry ≤ kept config entry' := by
  have share := discount_le entry.2
  have less := discount_anti more.stronger
  refine mul_le_mul (contribution_mono inRange more) ?_ ?_ (contribution_nonneg inRange more.sound')
  · linarith
  · linarith

/-! ### Scores -/

theorem baseScore_eq (found : Results Rat) :
    baseScore config found = (found.map fun entry => contribution config entry.2).sum := by
  unfold baseScore
  rw [total_eq_sum]

/-- **The cap on the penalty adds to what is kept.** The base less the penalty is the sum of what is
kept of each contribution, or the base less the cap if that is more. -/
theorem base_sub_penalty_eq (enabled : config.penalty = true) (found : Results Rat) :
    baseScore config found - penaltyScore config found =
      max (found.map (kept config)).sum (baseScore config found - 1 / 5) := by
  have split : (found.map (kept config)).sum = baseScore config found -
      (found.map fun entry => contribution config entry.2 * discount entry.2).sum := by
    rw [baseScore_eq, eq_sub_iff_add_eq, ← List.sum_map_add]
    congr 1
    refine List.map_congr_left fun entry _ => ?_
    unfold kept
    ring
  unfold penaltyScore
  -- taking off the least of two numbers leaves the greater of two rests
  rw [if_pos enabled, total_eq_sum, smaller_eq_min, split, max_sub_sub_left]
  norm_num

section Found

variable {found more : Results Rat}

theorem baseScore_mono (inRange : config.InRange) (sound : ∀ entry ∈ more, Sound entry)
    (matched : List.SublistForall₂ (Outweighs config) found more) :
    baseScore config found ≤ baseScore config more := by
  rw [baseScore_eq, baseScore_eq]
  exact matched_sum_le matched (fun _ _ => contribution_mono inRange)
    fun entry member => contribution_nonneg inRange (sound entry member)

/-- **What is left of the base after the penalty grows.** -/
theorem base_sub_penalty_mono (inRange : config.InRange) (sound : ∀ entry ∈ more, Sound entry)
    (matched : List.SublistForall₂ (Outweighs config) found more) :
    baseScore config found - penaltyScore config found ≤
      baseScore config more - penaltyScore config more := by
  have base := baseScore_mono inRange sound matched
  by_cases enabled : config.penalty = true
  · rw [base_sub_penalty_eq enabled, base_sub_penalty_eq enabled]
    refine max_le_max ?_ (sub_le_sub_right base _)
    exact matched_sum_le matched (fun _ _ => kept_mono inRange)
      fun entry member => kept_nonneg inRange (sound entry member)
  · unfold penaltyScore
    rw [if_neg enabled, if_neg enabled]
    exact sub_le_sub_right base _

/-- A dangerous pair remains. -/
theorem combinations_mono (matched : List.SublistForall₂ (Outweighs config) found more) :
    (combinations found).length ≤ (combinations more).length := by
  have keeps (category : Category) (occurs : found.any (·.1 = category) = true) :
      more.any (·.1 = category) = true := by
    refine matched_any matched ?_ occurs
    intro entry entry' pair here
    rw [decide_eq_true_eq] at here ⊢
    rw [← pair.category, here]
  refine (List.monotone_filter_right _ ?_).length_le
  intro pair both
  rw [Bool.and_eq_true] at both ⊢
  exact ⟨keeps _ both.1, keeps _ both.2⟩

/-- How many findings have a high confidence. -/
def strongCount (found : Results Rat) : Nat :=
  found.countP fun (_, finding) => decide (0.8 ≤ finding.confidence)

theorem strongCount_mono (matched : List.SublistForall₂ (Outweighs config) found more) :
    strongCount found ≤ strongCount more := by
  refine matched_countP_le matched ?_
  intro entry entry' pair high
  rw [decide_eq_true_eq] at high ⊢
  exact high.trans pair.stronger.confidence

/-- The bonus before it is capped. -/
def rawBonus (found : Results Rat) : Rat :=
  1 / 10 * (found.length - 1 : Nat) + 3 / 20 * (combinations found).length +
    if 2 ≤ strongCount found then 1 / 20 else 0

theorem rawBonus_nonneg (found : Results Rat) : 0 ≤ rawBonus found := by
  unfold rawBonus
  split <;> positivity

theorem rawBonus_mono (matched : List.SublistForall₂ (Outweighs config) found more) :
    rawBonus found ≤ rawBonus more := by
  have others : ((found.length - 1 : Nat) : Rat) ≤ (more.length - 1 : Nat) := by
    exact_mod_cast Nat.sub_le_sub_right (matched_length_le matched) 1
  have pairs : ((combinations found).length : Rat) ≤ (combinations more).length := by
    exact_mod_cast combinations_mono matched
  have strong := strongCount_mono matched
  unfold rawBonus
  refine add_le_add (by linarith) ?_
  by_cases many : 2 ≤ strongCount found
  · rw [if_pos many, if_pos (many.trans strong)]
  · rw [if_neg many]
    split <;> norm_num

theorem bonusScore_eq (found : Results Rat) :
    bonusScore config found =
      if config.bonus ∧ 2 ≤ found.length then min (rawBonus found) (3 / 10) else 0 := by
  unfold bonusScore rawBonus strongCount
  simp only [smaller_eq_min, Bool.and_eq_true, decide_eq_true_eq]
  norm_num
  grind

/-- **The bonus grows.** -/
theorem bonusScore_mono (matched : List.SublistForall₂ (Outweighs config) found more) :
    bonusScore config found ≤ bonusScore config more := by
  have length := matched_length_le matched
  rw [bonusScore_eq, bonusScore_eq]
  by_cases several : config.bonus ∧ 2 ≤ found.length
  · rw [if_pos several, if_pos ⟨several.1, several.2.trans length⟩]
    exact min_le_min_right _ (rawBonus_mono matched)
  · rw [if_neg several]
    split
    · exact le_min (rawBonus_nonneg more) (by norm_num)
    · exact le_rfl

/-- **More and stronger findings never lower the score.** -/
theorem finalScore_mono (inRange : config.InRange) (sound : ∀ entry ∈ more, Sound entry)
    (matched : List.SublistForall₂ (Outweighs config) found more) (listed : Bool) :
    finalScore config found listed ≤ finalScore config more listed := by
  have left := base_sub_penalty_mono inRange sound matched
  have bonus := bonusScore_mono matched
  unfold finalScore
  cases listed with
  | true => exact le_rfl
  | false =>
    refine clamped_mono ?_
    calc baseScore config found + bonusScore config found - penaltyScore config found
        = baseScore config found - penaltyScore config found + bonusScore config found := by ring
      _ ≤ baseScore config more - penaltyScore config more + bonusScore config more :=
          add_le_add left bonus
      _ = baseScore config more + bonusScore config more - penaltyScore config more := by ring

end Found

/-! ### Levels -/

/-- A higher score never has a lower level, whatever the thresholds are. -/
theorem levelOf_mono (medium high critical : Rat) {score score' : Rat} (le : score ≤ score') :
    (levelOf medium high critical score).rank ≤ (levelOf medium high critical score').rank := by
  unfold levelOf
  by_cases top : critical ≤ score'
  · rw [if_pos top]
    split
    · exact le_rfl
    · split
      · decide
      · split <;> decide
  rw [if_neg top, if_neg fun reached => top (reached.trans le)]
  by_cases upper : high ≤ score'
  · rw [if_pos upper]
    split
    · exact le_rfl
    · split <;> decide
  rw [if_neg upper, if_neg fun reached => upper (reached.trans le)]
  by_cases middle : medium ≤ score'
  · rw [if_pos middle]
    split <;> decide
  · rw [if_neg middle, if_neg fun reached => middle (reached.trans le)]

/-- **Score and level never drop when results get stronger.** For every configuration in range and
every two accepted tables of results, of which the second one detects whatever the first one detects
with at least its confidence, evidence and multiplier, and perhaps more. -/
theorem assess_mono (inRange : config.InRange) {given given' : List (Value × Results.Given Rat)}
    (accepted : Results.check given = .ok results) (accepted' : Results.check given' = .ok results')
    (unit : ∀ entry ∈ results, 0 ≤ entry.2.confidence ∧ entry.2.confidence ≤ 1)
    (unit' : ∀ entry ∈ results', 0 ≤ entry.2.confidence ∧ entry.2.confidence ≤ 1)
    (stronger : Strengthens config results results') (listed : Bool) :
    (assess config results listed).score ≤ (assess config results' listed).score ∧
      (assess config results listed).level.rank ≤ (assess config results' listed).level.rank := by
  have sound (entry) (member : entry ∈ results) : Sound entry :=
    ⟨Results.check_keyed accepted entry member, (unit entry member).1⟩
  have sound' (entry) (member : entry ∈ results') : Sound entry :=
    ⟨Results.check_keyed accepted' entry member, (unit' entry member).1⟩
  have score := finalScore_mono inRange
    (fun entry member => sound' entry (Results.mem_of_mem_detected member))
    (detected_outweighed sound sound' stronger) listed
  exact ⟨score, levelOf_mono _ _ _ score⟩

end

theorem standard_inRange : (Config.standard : Config Rat).InRange := by
  constructor
  · intro category
    cases category <;> norm_num [Config.standard, standardWeight]
  · intro severity
    cases severity <;> norm_num [Config.standard, standardMultiplier]
  all_goals norm_num [Config.standard]

/-- A faint detection of a redirection. -/
def faintFinding : Finding Rat where
  detected := true
  confidence := 3 / 10
  category := .hiddenRedirection
  description := ""
  evidence := ["Hardcoded CALL target"]
  severity := .low
  metadata := []

/-- A table with nothing else. -/
def faintFindings : Results Rat := [(.hiddenRedirection, faintFinding)]

/-- A table with more confidence in it, and a second category. -/
def clearFindings : Results Rat := [
  (.hiddenRedirection, { faintFinding with confidence := 2 / 5 }),
  (.deceptiveEvents, { faintFinding with category := .deceptiveEvents })]

/-- A table as it is given. -/
def givenTable (results : Results Rat) : List (Value × Results.Given Rat) :=
  results.map fun (category, finding) => (.text category.name, .finding finding)

/-- A second category adds a bonus, and the added confidence reaches a step of the discount. -/
theorem assess_mono_clearFindings :
    (Config.standard : Config Rat).InRange ∧
      Results.check (givenTable faintFindings) = .ok faintFindings ∧
      Results.check (givenTable clearFindings) = .ok clearFindings ∧
      Strengthens .standard faintFindings clearFindings ∧
      (assess Config.standard faintFindings false).score ≤
        (assess Config.standard clearFindings false).score ∧
      (assess Config.standard faintFindings false).level.rank ≤
        (assess Config.standard clearFindings false).level.rank := by
  have accepted : Results.check (givenTable faintFindings) = .ok faintFindings := rfl
  have accepted' : Results.check (givenTable clearFindings) = .ok clearFindings := rfl
  have unit : ∀ entry ∈ faintFindings, 0 ≤ entry.2.confidence ∧ entry.2.confidence ≤ 1 := by
    norm_num [faintFindings, faintFinding]
  have unit' : ∀ entry ∈ clearFindings, 0 ≤ entry.2.confidence ∧ entry.2.confidence ≤ 1 := by
    norm_num [clearFindings, faintFinding]
  have stronger : Strengthens .standard faintFindings clearFindings := by
    intro category finding filed detected
    cases List.mem_singleton.mp (Results.mem_of_get? filed)
    refine ⟨{ faintFinding with confidence := 2 / 5 }, rfl, rfl, ?_, le_rfl, le_rfl⟩
    norm_num [faintFinding]
  exact ⟨standard_inRange, accepted, accepted', stronger,
    assess_mono standard_inRange accepted accepted' unit unit' stronger false⟩

end ContractRisk.Scoring
