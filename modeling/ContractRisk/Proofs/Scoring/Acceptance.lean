/-
**Accepted configurations are in range.**

A configuration is read from tables that are laid over the standard ones, and may have some weights
and multipliers replaced afterwards (`Config.Accepted`). Every check is made on the complete tables,
so that whatever is accepted lies in range and has its thresholds in order:

* `readPart_cases` — a table is the standard one, or it has passed its check and has the names of
  the standard one;
* `accepted_inRange` — an accepted configuration is `Config.InRange`; in particular the critical
  threshold is never above one.
-/

import ContractRisk.Scoring.Config
import ContractRisk.Proofs.Attempt

namespace ContractRisk.Scoring

open Attempt

variable {α : Type}

/-! ### Tables -/

section Checks

variable [LE α] [DecidableLE α]

theorem checkRange_ok [Decimal.Rendered α] {low high : α} {label : String}
    {table : List (String × α)} :
    checkRange low high label table = .ok () ↔ ∀ entry ∈ table, low ≤ entry.2 ∧ entry.2 ≤ high := by
  unfold checkRange
  constructor
  · intro passed
    split at passed
    · cases passed
    · rename_i noneOutside
      intro entry member
      simpa using List.find?_eq_none.mp noneOutside entry member
  · intro bounded
    split
    · rename_i found
      have inside := bounded _ (List.mem_of_find?_eq_some found)
      have outside := List.find?_some found
      simp [inside] at outside
    · rfl

theorem checkOrder_ok {medium high critical : α} :
    checkOrder medium high critical = .ok () ↔ medium ≤ high ∧ high ≤ critical := by
  unfold checkOrder
  by_cases ordered : medium ≤ high ∧ high ≤ critical
  · rw [if_pos ordered]
    exact iff_of_true rfl ordered
  · rw [if_neg ordered]
    exact iff_of_false (by rintro ⟨⟩) ordered

/-- **What the checks demand.** A configuration over any numbers is in range if and only if its three
tables pass the checks. -/
theorem Config.inRange_iff [OfScientific α] [Decimal.Rendered α] {config : Config α} :
    config.InRange ↔
      checkRange 0.0 1.0 "Pattern weight" config.weights = .ok () ∧
      checkRange 0.0 2.0 "Severity multiplier" config.multipliers = .ok () ∧
      checkRange 0.0 1.0 "Risk threshold" config.thresholds = .ok () ∧
      checkOrder config.medium config.high config.critical = .ok () := by
  rw [checkRange_ok, checkRange_ok, checkRange_ok, checkOrder_ok]
  constructor
  · intro inRange
    refine ⟨?_, ?_, ?_, inRange.ordered⟩
    · intro entry member
      obtain ⟨category, _, rfl⟩ := List.mem_map.mp member
      exact inRange.weight category
    · intro entry member
      obtain ⟨severity, _, rfl⟩ := List.mem_map.mp member
      exact inRange.multiplier severity
    · simpa [Config.thresholds] using ⟨inRange.medium, inRange.high, inRange.critical⟩
  · rintro ⟨weights, multipliers, thresholds, ordered⟩
    refine ⟨?_, ?_, ?_, ?_, ?_, ordered⟩
    · intro category
      refine weights (category.name, config.weight category) ?_
      exact List.mem_map.mpr ⟨category, by cases category <;> decide, rfl⟩
    · intro severity
      refine multipliers (severity.name, config.multiplier severity) ?_
      exact List.mem_map.mpr ⟨severity, by cases severity <;> decide, rfl⟩
    · exact thresholds ("medium", config.medium) (by simp [Config.thresholds])
    · exact thresholds ("high", config.high) (by simp [Config.thresholds])
    · exact thresholds ("critical", config.critical) (by simp [Config.thresholds])

end Checks

/-- An entry under a name is one of the table, or else the default. -/
theorem entryOr_cases (table : List (String × α)) (name : String) (default : α) :
    (name, entryOr table name default) ∈ table ∨ entryOr table name default = default := by
  unfold entryOr
  cases filed : table.find? (·.1 = name) with
  | none => exact .inr rfl
  | some entry =>
    have key : entry.1 = name := by simpa using List.find?_some filed
    refine .inl ?_
    subst key
    exact List.mem_of_find?_eq_some filed

/-- Under a name of the table the default does not count. -/
theorem entryOr_eq {table : List (String × α)} {name : String} (filed : name ∈ table.map (·.1))
    (default other : α) : entryOr table name default = entryOr table name other := by
  obtain ⟨entry, member, key⟩ := List.mem_map.mp filed
  unfold entryOr
  cases found : table.find? (·.1 = name) with
  | none => exact absurd (decide_eq_true key) (List.find?_eq_none.mp found entry member)
  | some entry => rfl

/-- A bounded table bounds what stands under its names. -/
theorem entryOr_bounded [LE α] {low high default : α} {table : List (String × α)}
    (bounded : ∀ entry ∈ table, low ≤ entry.2 ∧ entry.2 ≤ high)
    (usual : low ≤ default ∧ default ≤ high) (name : String) :
    low ≤ entryOr table name default ∧ entryOr table name default ≤ high := by
  rcases entryOr_cases table name default with filed | missing
  · exact bounded (name, entryOr table name default) filed
  · rw [missing]
    exact usual

theorem readNumbers_names {fields : List (String × Value)} {table : List (String × Float)}
    (read : readNumbers fields = .ok table) : table.map (·.1) = fields.map (·.1) := by
  induction fields generalizing table with
  | nil =>
    cases read
    rfl
  | cons field rest ih =>
    obtain ⟨x, _, read⟩ := bind_eq_ok.mp read
    obtain ⟨others, tail, same⟩ := bind_eq_ok.mp read
    cases same
    rw [List.map_cons, List.map_cons, ih tail]

/-- A complete table has the names of the standard one. -/
theorem readTable_names {standard table : List (String × Float)} {label : String} {value : Value}
    (read : readTable standard label value = .ok table) :
    table.map (·.1) = standard.map (·.1) := by
  unfold readTable at read
  split at read
  · cases read
    rfl
  · split at read
    · rw [readNumbers_names read]
      unfold overlay
      rw [List.map_map]
      rfl
    · cases read
  · cases read

/-- **A table is the standard one, or it has passed its check.** -/
theorem readPart_cases {fields : List (String × Value)} {usual other label : String}
    {standard table : List (String × Float)}
    {check : List (String × Float) → Except Shape.Reason Unit}
    (read : readPart fields usual other standard label check = .ok table) :
    table = standard ∨ check table = .ok () ∧ table.map (·.1) = standard.map (·.1) := by
  unfold readPart at read
  split at read
  · cases read
    exact .inl rfl
  · obtain ⟨found, complete, read⟩ := bind_eq_ok.mp (mapError_eq_ok.mp read)
    obtain ⟨_, passed, same⟩ := bind_eq_ok.mp read
    cases same
    exact .inr ⟨mapError_eq_ok.mp passed, readTable_names complete⟩

/-! ### Configurations -/

namespace Config

/-- The standard configuration is in range. -/
theorem standard_inRange : (standard : Config Float).InRange where
  weight category := by cases category <;> decide
  multiplier severity := by cases severity <;> decide
  medium := by decide
  high := by decide
  critical := by decide
  ordered := by decide

/-- A bounded table stays bounded, whatever is given for it. -/
theorem readPart_bounded {fields : List (String × Value)} {usual other label text : String}
    {standard table : List (String × Float)} {low high : Float}
    (bounded : ∀ entry ∈ standard, low ≤ entry.2 ∧ entry.2 ≤ high)
    (read : readPart fields usual other standard label (checkRange low high text) = .ok table) :
    ∀ entry ∈ table, low ≤ entry.2 ∧ entry.2 ≤ high := by
  rcases readPart_cases read with rfl | ⟨passed, _⟩
  · exact bounded
  · exact checkRange_ok.mp passed

/-- **The thresholds are in order, whatever is given for them.** They are compared as they stand in
the complete table, so that a single given threshold is checked against the usual other ones. -/
theorem readThresholds {fields : List (String × Value)} {usual other label : String}
    {table : List (String × Float)}
    (read : readPart fields usual other (standard : Config Float).thresholds label checkThresholds =
      .ok table) :
    (∀ entry ∈ table, 0.0 ≤ entry.2 ∧ entry.2 ≤ 1.0) ∧
      entryOr table "medium" standard.medium ≤ entryOr table "high" standard.high ∧
      entryOr table "high" standard.high ≤ entryOr table "critical" standard.critical := by
  rcases readPart_cases read with rfl | ⟨passed, names⟩
  · refine ⟨?_, standard_inRange.ordered⟩
    intro entry member
    rcases List.mem_cons.mp member with rfl | member
    · exact standard_inRange.medium
    rcases List.mem_cons.mp member with rfl | member
    · exact standard_inRange.high
    cases List.mem_singleton.mp member
    exact standard_inRange.critical
  · obtain ⟨_, bounded, ordered⟩ := bind_eq_ok.mp passed
    have filed {name : String} (known : name ∈ thresholdNames) : name ∈ table.map (·.1) := by
      rw [names]
      exact known
    have ordered := checkOrder_ok.mp ordered
    rw [entryOr_eq (filed (by decide)) 0.0 standard.medium,
      entryOr_eq (filed (by decide)) 0.0 standard.high,
      entryOr_eq (filed (by decide)) 0.0 standard.critical] at ordered
    exact ⟨checkRange_ok.mp bounded, ordered⟩

/-- What fields write is in range. -/
theorem readFields_inRange {fields : List (String × Value)} {config : Config Float}
    (read : readFields fields = .ok config) : config.InRange := by
  obtain ⟨weights, weighed, read⟩ := bind_eq_ok.mp read
  obtain ⟨multipliers, multiplied, read⟩ := bind_eq_ok.mp read
  obtain ⟨thresholds, graded, read⟩ := bind_eq_ok.mp read
  obtain ⟨bonus, _, read⟩ := bind_eq_ok.mp read
  obtain ⟨penalty, _, read⟩ := bind_eq_ok.mp read
  split at read
  · cases read
  cases read
  have weight := readPart_bounded (fun entry member => by
    obtain ⟨category, _, rfl⟩ := List.mem_map.mp member
    exact standard_inRange.weight category) weighed
  have multiplier := readPart_bounded (fun entry member => by
    obtain ⟨severity, _, rfl⟩ := List.mem_map.mp member
    exact standard_inRange.multiplier severity) multiplied
  obtain ⟨bounded, ordered⟩ := readThresholds graded
  exact {
    weight := fun category => entryOr_bounded weight (standard_inRange.weight category) category.name
    multiplier := fun severity =>
      entryOr_bounded multiplier (standard_inRange.multiplier severity) severity.name
    medium := entryOr_bounded bounded standard_inRange.medium "medium"
    high := entryOr_bounded bounded standard_inRange.high "high"
    critical := entryOr_bounded bounded standard_inRange.critical "critical"
    ordered := ordered }

theorem read_inRange {value : Value} {config : Config Float} (accepted : read value = .ok config) :
    config.InRange := by
  unfold read at accepted
  split at accepted
  · cases accepted
    exact standard_inRange
  · exact readFields_inRange (mapError_eq_ok.mp accepted)
  · cases accepted

theorem override_inRange {base config : Config Float}
    {weights multipliers : Option (List (String × Value))} (inRange : base.InRange)
    (accepted : base.override weights multipliers = .ok config) : config.InRange := by
  unfold override at accepted
  split at accepted
  · cases accepted
    exact inRange
  · exact read_inRange accepted

/-- The configurations that can be in use: read from a value, and perhaps with some weights and
multipliers replaced. -/
def Accepted (config : Config Float) : Prop :=
  ∃ value weights multipliers base,
    read value = .ok base ∧ base.override weights multipliers = .ok config

/-- **Every accepted configuration is in range.** -/
theorem accepted_inRange {config : Config Float} (accepted : config.Accepted) :
    config.InRange := by
  obtain ⟨value, weights, multipliers, base, read, override⟩ := accepted
  exact override_inRange (read_inRange read) override

theorem standard_accepted : (standard : Config Float).Accepted :=
  ⟨.null, none, none, standard, rfl, rfl⟩

end Config

end ContractRisk.Scoring
