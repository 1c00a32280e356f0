/-
**The level that a verdict is headed with.**

A summary opens with a word for a level of risk. It is the level of the verdict where something is
detected; a listed address is always called critical, and where nothing is detected the word is that for
a low risk, whatever the thresholds make of the score zero.

* `summary_firstWord`: the opening word, by what the summary tells of;
* `Config.level_one`, `Config.level_eq_low`: the level of a listed address is critical, and that of a
  score is low if no threshold lies at or below it;
* `finalScore_nothing`: with nothing detected the score is zero;
* `aggregate_heading`: hence a verdict is headed with its own level unless nothing is detected, the
  address is not listed, and a threshold is zero.
-/

import ContractRisk.Proofs.Scoring.Acceptance
import ContractRisk.Proofs.Scoring.Results
import ContractRisk.Scoring.Aggregate
import ContractRisk.Text.Case

namespace ContractRisk.Scoring

variable {α : Type}

/-! ### Words -/

/-- The word that opens a text: whatever stands before its first space. -/
def firstWord (text : String) : String := String.ofList (text.toList.takeWhile (· ≠ ' '))

theorem firstWord_append {word : String} (whole : ' ' ∉ word.toList) (rest : String) :
    firstWord (word ++ " " ++ rest) = word := by
  have inside : ∀ c ∈ word.toList, decide (c ≠ ' ') = true := by
    intro c member
    exact decide_eq_true fun blank => whole (blank ▸ member)
  have letters : (word ++ " " ++ rest).toList = word.toList ++ ' ' :: rest.toList := by
    rw [String.toList_append, String.toList_append, List.append_assoc]
    rfl
  unfold firstWord
  rw [letters, List.takeWhile_append_of_pos inside, List.takeWhile_cons_of_neg (by simp),
    List.append_nil, String.ofList_toList]

theorem heading_eq_upper (level : RiskLevel) : level.heading = Text.upper level.name := by
  cases level <;> decide

theorem heading_inj {level other : RiskLevel} : level.heading = other.heading ↔ level = other := by
  constructor
  · cases level <;> cases other <;> decide
  · rintro rfl
    rfl

/-- The level that a summary names. -/
def namedLevel (level : RiskLevel) (detected : Nat) (listed : Bool) : RiskLevel :=
  if listed then .critical else if detected = 0 then .low else level

theorem heading_whole (level : RiskLevel) : ' ' ∉ level.heading.toList := by
  cases level <;> decide

/-- **A summary opens with the word for the level that it names.** -/
theorem summary_firstWord [Mul α] [OfScientific α] [Decimal.Rendered α] (level : RiskLevel) (score : α)
    (detected : Nat) (listed : Bool) :
    firstWord (summary level score detected listed) = (namedLevel level detected listed).heading := by
  have critical : toString "CRITICAL risk (score " =
      RiskLevel.critical.heading ++ " " ++ "risk (score " := rfl
  have low : toString "LOW risk (score " = RiskLevel.low.heading ++ " " ++ "risk (score " := rfl
  have own : toString " risk (score " = " " ++ "risk (score " := rfl
  have opens : ∃ rest, summary level score detected listed =
      (namedLevel level detected listed).heading ++ " " ++ rest := by
    unfold summary namedLevel
    split
    · exact ⟨_, by
        rw [critical]
        simp only [String.append_assoc]
        rfl⟩
    · split
      · exact ⟨_, by
          rw [low]
          simp only [String.append_assoc]
          rfl⟩
      · exact ⟨_, by
          rw [own]
          simp only [String.append_assoc]
          rfl⟩
  obtain ⟨rest, same⟩ := opens
  rw [same, firstWord_append (heading_whole _)]

/-! ### Levels -/

namespace Config

variable [LE α] [DecidableLE α]

/-- The score one is critical, whatever the thresholds. -/
theorem level_one [OfScientific α] {config : Config α} (inRange : config.InRange) :
    config.level 1.0 = .critical :=
  if_pos inRange.critical.2

/-- **A score is low if no threshold lies at or below it.** -/
theorem level_eq_low (config : Config α) (score : α) :
    config.level score = .low ↔ ∀ entry ∈ config.thresholds, ¬ entry.2 ≤ score := by
  have each : (∀ entry ∈ config.thresholds, ¬ entry.2 ≤ score) ↔
      ¬ config.medium ≤ score ∧ ¬ config.high ≤ score ∧ ¬ config.critical ≤ score := by
    simp [thresholds]
  rw [each]
  unfold level levelOf
  split
  · rename_i reached
    exact iff_of_false (by decide) fun above => above.2.2 reached
  · rename_i critical
    split
    · rename_i reached
      exact iff_of_false (by decide) fun above => above.2.1 reached
    · rename_i high
      split
      · rename_i reached
        exact iff_of_false (by decide) fun above => above.1 reached
      · rename_i medium
        exact iff_of_true rfl ⟨medium, high, critical⟩

end Config

/-! ### Verdicts -/

/-- **With nothing detected the score is zero**, the sums being empty and the bonus being for several. -/
theorem finalScore_nothing (config : Config Float) : finalScore config [] false = 0.0 := by
  have base : baseScore config [] = 0.0 := rfl
  have bonus : bonusScore config [] = 0.0 := if_neg (by simp)
  have penalty : penaltyScore config [] = 0.0 := by
    unfold penaltyScore
    split
    · show smaller (0.0 : Float) 0.2 = 0.0
      decide
    · rfl
  unfold finalScore
  rw [base, bonus, penalty]
  decide

section

variable {config : Config Float} {results : Results Float} {table : List (Key × Results.Given Float)}

/-- **A verdict is given** if the address is listed or nothing is detected: score and confidence are then
both one, or both zero. -/
theorem assess_checked_sure (config : Config Float) (results : Results Float) (listed : Bool)
    (sure : listed = true ∨ results.detected = []) :
    (assess config results listed).checked = .ok (assess config results listed) := by
  have zero : Shape.unit (0.0 : Float) = .ok 0.0 := rfl
  have one : Shape.unit (1.0 : Float) = .ok 1.0 := rfl
  have inside {x : Float} {verdict : Assessment Float} (unit : Shape.unit x = .ok x)
      (score : verdict.score = x) (confidence : verdict.confidence = x) :
      verdict.checked = .ok verdict :=
    Assessment.checked_of_unit (by rw [score, unit]) (by rw [confidence, unit])
  cases listed with
  | true => exact inside one rfl rfl
  | false =>
    have nothing : results.detected = [] := sure.resolve_left Bool.false_ne_true
    refine inside zero ?_ ?_
    · show finalScore config results.detected false = 0.0
      rw [nothing, finalScore_nothing]
    · show meanConfidence results.detected false = 0.0
      rw [nothing]
      rfl

/-- The level that the summary names is that of the verdict, unless nothing is detected and the score zero
is not low. -/
theorem namedLevel_eq (inRange : config.InRange) (listed : Bool) :
    namedLevel (assess config results listed).level results.detected.length listed =
        (assess config results listed).level ↔
      listed = true ∨ results.detected ≠ [] ∨ ∀ entry ∈ config.thresholds, ¬ entry.2 ≤ 0.0 := by
  cases listed with
  | true =>
    have certain : (assess config results true).level = .critical := Config.level_one inRange
    rw [certain]
    exact iff_of_true rfl (.inl rfl)
  | false =>
    rw [or_iff_right Bool.false_ne_true]
    by_cases nothing : results.detected = []
    · have level : (assess config results false).level = config.level 0.0 := by
        show config.level (finalScore config results.detected false) = _
        rw [nothing, finalScore_nothing]
      rw [or_iff_right (not_not_intro nothing), level, nothing, ← Config.level_eq_low]
      exact eq_comm
    · have some : results.detected.length ≠ 0 := fun none => nothing (List.length_eq_zero_iff.mp none)
      refine iff_of_true ?_ (.inl nothing)
      unfold namedLevel
      rw [if_neg Bool.false_ne_true, if_neg some]

/-- **A verdict is headed with its own level** if and only if the address is listed, something is
detected, or no threshold is zero. -/
theorem aggregate_heading (inRange : config.InRange)
    (accepted : Results.check (table.map fun (key, given) => (key.word, given)) = .ok results)
    (listed : Bool) :
    (listed = true ∨ results.detected = [] → ∃ verdict, aggregate config table listed = .ok verdict) ∧
      ∀ verdict, aggregate config table listed = .ok verdict →
        (firstWord verdict.explanation.summary = Text.upper verdict.level.name ↔
          listed = true ∨ results.detected ≠ [] ∨ ∀ entry ∈ config.thresholds, ¬ entry.2 ≤ 0.0) := by
  rw [aggregate_of_check accepted]
  refine ⟨fun sure => ⟨_, assess_checked_sure config results listed sure⟩, fun verdict given => ?_⟩
  obtain ⟨_, _, given⟩ := Attempt.bind_eq_ok.mp given
  obtain ⟨_, _, same⟩ := Attempt.bind_eq_ok.mp given
  cases same
  have opens : firstWord (assess config results listed).explanation.summary =
      (namedLevel (assess config results listed).level results.detected.length listed).heading :=
    summary_firstWord _ _ _ _
  rw [opens, ← heading_eq_upper, heading_inj, namedLevel_eq inRange]

end

/-- Settings in which every score is a medium risk at least. -/
def eagerSettings : Value := .record [("riskThresholds", .record [("medium", .int 0)])]

/-- A table in which nothing is detected. -/
def silentFindings : Results Float := [(.hiddenRedirection, {
  detected := false
  confidence := 0.0
  category := .hiddenRedirection
  description := ""
  evidence := []
  severity := .low
  metadata := [] })]

/-- The table as it is given. -/
def silentTable : List (Key × Results.Given Float) :=
  silentFindings.map fun (category, finding) => (.known category, .finding finding)

/-- **With a threshold of zero, a contract without detections is headed as a low risk and graded as a medium
one.** -/
theorem aggregate_heading_silent :
    ∃ config, Config.read eagerSettings = .ok config ∧ config.InRange ∧
      Results.check (silentTable.map fun (key, given) => (key.word, given)) = .ok silentFindings ∧
      ∃ verdict, aggregate config silentTable false = .ok verdict ∧ verdict.level = .medium ∧
        firstWord verdict.explanation.summary ≠ Text.upper verdict.level.name := by
  have eager : (Config.read eagerSettings).toOption.map (·.level 0.0) = some .medium := by
    decide +kernel
  cases read : Config.read eagerSettings with
  | error failure =>
    rw [read] at eager
    cases eager
  | ok config =>
    rw [read] at eager
    have level : config.level 0.0 = .medium := Option.some.inj eager
    have inRange := Config.read_inRange read
    have accepted : Results.check (silentTable.map fun (key, given) => (key.word, given)) =
      .ok silentFindings := rfl
    obtain ⟨gives, heads⟩ := aggregate_heading inRange accepted false
    obtain ⟨verdict, given⟩ := gives (.inr rfl)
    have same : assess config silentFindings false = verdict := by
      rw [aggregate_of_check accepted, assess_checked_sure _ _ _ (.inr rfl)] at given
      exact Except.ok.inj given
    have graded : verdict.level = .medium := by
      rw [← same, ← level, ← finalScore_nothing config]
      rfl
    refine ⟨config, rfl, inRange, accepted, verdict, given, graded, fun headed => ?_⟩
    rcases (heads verdict given).mp headed with listed | detected | above
    · cases listed
    · exact detected rfl
    · rw [(Config.level_eq_low config 0.0).mpr above] at level
      cases level

end ContractRisk.Scoring
