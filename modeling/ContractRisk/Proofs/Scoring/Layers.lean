/-
**The layers of a configuration.**

A configuration is made of layers: the standard tables below, what a value writes laid over them, and
changes of single weights and multipliers laid over that. Each layer may be partial. In each the number
under a name is the one that is given there or else the one below it (`Laid`), and what comes out is
checked as a whole, after the first layer and again after the second.

* `entryOr_changed`: of several changes under a name the last one counts;
* `readTable_ok`, `readFields_ok`: a table, and the fields of a configuration, are accepted exactly if
  they are laid over the standard ones;
* `read_record`, `override_ok`: the two layers (`Written`, `Overlaid`);
* `configure_layers`: a configuration comes out if and only if both layers are sound, and it is the one
  that they make; everything else is refused under the field of the configuration.
-/

import ContractRisk.Proofs.Scoring.Acceptance
import ContractRisk.Proofs.Scoring.Results

namespace ContractRisk.Scoring

open Attempt

/-! ### Entries -/

section Entries

variable {α κ : Type}

theorem entryOr_append (first second : List (String × α)) (name : String) (default : α) :
    entryOr (first ++ second) name default = entryOr first name (entryOr second name default) := by
  unfold entryOr
  rw [List.find?_append]
  cases first.find? (·.1 = name) <;> rfl

theorem entryOr_cons (entry : String × α) (rest : List (String × α)) (name : String) (default : α) :
    entryOr (entry :: rest) name default =
      if entry.1 = name then entry.2 else entryOr rest name default := by
  unfold entryOr
  by_cases own : entry.1 = name
  · rw [if_pos own, List.find?_cons_of_pos (by simpa using own)]
    rfl
  · rw [if_neg own, List.find?_cons_of_neg (by simpa using own)]

theorem entryOr_absent {table : List (String × α)} {name : String} (absent : name ∉ table.map (·.1))
    (default : α) : entryOr table name default = default := by
  rcases entryOr_cases table name default with filed | missing
  · exact absurd (List.mem_map_of_mem filed) absent
  · exact missing

section Replaced

variable {fields : List (String × Value)} {name other : String} {value default : Value}

/-- What is replaced under a name is found there. -/
theorem entryOr_replaced (present : name ∈ fields.map (·.1)) :
    entryOr (fields.map fun field => if field.1 = name then (name, value) else field) name default =
      value := by
  induction fields with
  | nil => nomatch present
  | cons field rest ih =>
    rw [List.map_cons, entryOr_cons]
    by_cases own : field.1 = name
    · rw [if_pos own, if_pos rfl]
    · rw [if_neg own, if_neg own]
      exact ih ((List.mem_cons.mp present).resolve_left (Ne.symm own))

/-- What is replaced under another name makes no difference. -/
theorem entryOr_replaced_apart (apart : other ≠ name) :
    entryOr (fields.map fun field => if field.1 = other then (other, value) else field) name default =
      entryOr fields name default := by
  induction fields with
  | nil => rfl
  | cons field rest ih =>
    rw [List.map_cons, entryOr_cons, entryOr_cons, ih]
    by_cases own : field.1 = other
    · rw [if_pos own, if_neg apart, own, if_neg apart]
    · rw [if_neg own]

theorem any_name_iff : (fields.any (·.1 = name)) = true ↔ name ∈ fields.map (·.1) := by
  simp

/-- A field that is set counts under its own name, and no other one is touched. -/
theorem entryOr_setField : entryOr (setField fields other value) name default =
    if other = name then value else entryOr fields name default := by
  unfold setField
  by_cases same : other = name
  · subst same
    rw [if_pos rfl]
    split
    · rename_i present
      exact entryOr_replaced (any_name_iff.mp present)
    · rename_i absent
      rw [entryOr_append, entryOr_absent (mt any_name_iff.mpr absent), entryOr_cons, if_pos rfl]
  · rw [if_neg same]
    split
    · exact entryOr_replaced_apart same
    · rw [entryOr_append, entryOr_cons, if_neg same]
      rfl

end Replaced

/-- Fields with changes made to them, one after the other. -/
def changed (fields changes : List (String × Value)) : List (String × Value) :=
  changes.foldl (fun fields change => setField fields change.1 change.2) fields

/-- **Of several changes under a name the last one counts**, and without one the field as it was. -/
theorem entryOr_changed (fields changes : List (String × Value)) (name : String) (default : Value) :
    entryOr (changed fields changes) name default =
      entryOr changes.reverse name (entryOr fields name default) := by
  unfold changed
  induction changes generalizing fields with
  | nil => rfl
  | cons change rest ih =>
    rw [List.foldl_cons, ih, entryOr_setField, List.reverse_cons, entryOr_append, entryOr_cons]
    rfl

theorem mem_setField_names {fields : List (String × Value)} {name other : String} {value : Value} :
    other ∈ (setField fields name value).map (·.1) ↔ other = name ∨ other ∈ fields.map (·.1) := by
  unfold setField
  split
  · rename_i present
    have names : ((fields.map fun field => if field.1 = name then (name, value) else field).map (·.1)) =
        fields.map (·.1) := by
      rw [List.map_map]
      refine List.map_congr_left fun field _ => ?_
      show (if field.1 = name then (name, value) else field).1 = field.1
      split
      · rename_i own
        exact own.symm
      · rfl
    rw [names]
    exact ⟨.inr, fun named => named.elim (fun same => same ▸ any_name_iff.mp present) id⟩
  · rw [List.map_append, List.mem_append, List.map_singleton, List.mem_singleton]
    exact or_comm

/-- The names after changes are those of the fields and those of the changes. -/
theorem mem_changed_names {fields changes : List (String × Value)} {name : String} :
    name ∈ (changed fields changes).map (·.1) ↔
      name ∈ changes.map (·.1) ∨ name ∈ fields.map (·.1) := by
  unfold changed
  induction changes generalizing fields with
  | nil => simp
  | cons change rest ih =>
    rw [List.foldl_cons, ih, mem_setField_names, List.map_cons, List.mem_cons]
    tauto

/-! ### Tables over keys -/

variable {keys : List κ} {word : κ → String}

/-- In a table over distinct keys each key has its own entry. -/
theorem entryOr_own (once : (keys.map word).Nodup) {key : κ} (member : key ∈ keys) (x : κ → α)
    (default : α) : entryOr (keys.map fun key => (word key, x key)) (word key) default = x key := by
  unfold entryOr
  rw [List.find?_map]
  show ((keys.find? fun other => word other = word key).map _ |>.map _).getD _ = _
  rw [Results.find?_own once member]
  rfl

/-- A table with the names of distinct keys consists of the entries of the keys. -/
theorem entries_eq (keys : List κ) (word : κ → String) (once : (keys.map word).Nodup)
    {table : List (String × α)} (names : table.map (·.1) = keys.map word) (default : κ → α) :
    (keys.map fun key => (word key, entryOr table (word key) (default key))) = table := by
  have lengths : keys.length = table.length := by
    simpa using (congrArg List.length names).symm
  refine List.ext_getElem (by simpa using lengths) fun index inKeys inTable => ?_
  have inKeys : index < keys.length := by omega
  have named : word keys[index] = table[index].1 := by
    have same := List.getElem_of_eq names.symm (i := index) (by simpa using inKeys)
    simpa using same
  have found := Results.find?_own (names ▸ once) (List.getElem_mem inTable)
  rw [List.getElem_map, named]
  unfold entryOr
  rw [found]
  rfl

end Entries

/-! ### One table laid over another -/

section Laid

variable {κ : Type}

/-- **A table of numbers laid over the one below it**: under each key what is given for it, read as a
number, or else the number below. Nothing but the keys may be given. -/
structure Laid (keys : List κ) (word : κ → String) (below : κ → Float) (given : Value)
    (above : κ → Float) : Prop where
  shape : given = .null ∨ ∃ fields, given = .record fields
  names : ∀ fields, given = .record fields → ∀ field ∈ fields, ∃ key ∈ keys, field.1 = word key
  numbers : ∀ key ∈ keys,
    Shape.number ((given.field? (word key)).getD (.float (below key))) = .ok (above key)

variable {keys : List κ} {word : κ → String} {below above : κ → Float}

/-- Without a table the numbers are those below. -/
theorem laid_null : Laid keys word below .null above ↔ ∀ key ∈ keys, above key = below key := by
  constructor
  · intro laid key member
    exact (Except.ok.inj (laid.numbers key member)).symm
  · intro same
    exact ⟨.inl rfl, fun _ other => (nomatch other), fun key member => congrArg _ (same key member).symm⟩

theorem laid_record {fields : List (String × Value)} : Laid keys word below (.record fields) above ↔
    (∀ field ∈ fields, ∃ key ∈ keys, field.1 = word key) ∧
      ∀ key ∈ keys, Shape.number (entryOr fields (word key) (.float (below key))) = .ok (above key) := by
  constructor
  · intro laid
    exact ⟨laid.names fields rfl, laid.numbers⟩
  · rintro ⟨names, numbers⟩
    refine ⟨.inr ⟨fields, rfl⟩, fun others same => ?_, numbers⟩
    cases same
    exact names

/-- The numbers of a table over keys are read key by key. -/
theorem readNumbers_ok {values : κ → Value} :
    readNumbers (keys.map fun key => (word key, values key)) =
        .ok (keys.map fun key => (word key, above key)) ↔
      ∀ key ∈ keys, Shape.number (values key) = .ok (above key) := by
  induction keys with
  | nil => exact iff_of_true rfl fun _ member => nomatch member
  | cons key rest ih =>
    rw [List.forall_mem_cons, ← ih]
    show (do
      let x ← Shape.located (word key) (Shape.number (values key))
      let others ← readNumbers (rest.map fun key => (word key, values key))
      return (word key, x) :: others : Except Shape.Fault _) = _ ↔ _
    rw [bind_eq_ok]
    constructor
    · rintro ⟨x, here, later⟩
      obtain ⟨others, later, same⟩ := bind_eq_ok.mp later
      obtain ⟨head, tail⟩ := List.cons.inj (Except.ok.inj same)
      cases head
      cases tail
      exact ⟨mapError_eq_ok.mp here, later⟩
    · rintro ⟨here, later⟩
      exact ⟨above key, mapError_eq_ok.mpr here, bind_eq_ok.mpr ⟨_, later, rfl⟩⟩

/-- No name is unknown if and only if each is the word for a key. -/
theorem unknownNames_eq_nil (below : κ → Float) {fields : List (String × Value)} :
    unknownNames (keys.map fun key => (word key, below key)) fields = [] ↔
      ∀ field ∈ fields, ∃ key ∈ keys, field.1 = word key := by
  unfold unknownNames
  rw [← List.length_eq_zero_iff, List.length_mergeSort, List.length_eq_zero_iff,
    List.filter_eq_nil_iff, List.forall_mem_map]
  refine forall₂_congr fun field _ => ?_
  simp only [List.any_map, Bool.not_eq_true', Bool.not_eq_false, List.any_eq_true,
    Function.comp_apply, decide_eq_true_eq]
  exact exists_congr fun key => and_congr_right fun _ => eq_comm

/-- **A table is accepted exactly if it can be laid over the standard one.** -/
theorem readTable_ok (keys : List κ) (word : κ → String) (below above : κ → Float) {label : String}
    {given : Value} :
    readTable (keys.map fun key => (word key, below key)) label given =
        .ok (keys.map fun key => (word key, above key)) ↔
      Laid keys word below given above := by
  cases given with
  | null =>
    rw [laid_null]
    show Except.ok _ = Except.ok _ ↔ _
    rw [Except.ok.injEq, List.map_inj_left]
    simp [eq_comm]
  | record fields =>
    rw [laid_record, ← unknownNames_eq_nil below]
    unfold readTable
    simp only
    split
    · rename_i known
      rw [known, eq_self, true_and]
      unfold overlay
      rw [List.map_map]
      exact readNumbers_ok
    · rename_i unknown
      exact iff_of_false (fun same => nomatch same) fun both => unknown both.1
  | _ =>
    refine iff_of_false (fun same => nomatch same) fun laid => ?_
    rcases laid.shape with same | ⟨_, same⟩ <;> cases same

/-- Without entries the numbers are those below. -/
theorem laid_nothing :
    Laid keys word below (.record []) above ↔ ∀ key ∈ keys, above key = below key := by
  rw [laid_record]
  constructor
  · rintro ⟨_, numbers⟩ key member
    exact (Except.ok.inj (numbers key member)).symm
  · intro same
    exact ⟨fun _ member => (nomatch member), fun key member => congrArg _ (same key member).symm⟩

/-- **A complete table hides what is below it**, whichever changes are made to it. -/
theorem laid_changed (once : (keys.map word).Nodup) {table : κ → Float}
    {changes : List (String × Value)} :
    Laid keys word below
        (.record (changed ((keys.map fun key => (word key, table key)).map fun (name, x) =>
          (name, .float x)) changes)) above ↔
      Laid keys word table (.record changes.reverse) above := by
  rw [List.map_map, laid_record, laid_record]
  refine and_congr ?_ (forall₂_congr fun key member => ?_)
  · have named (fields : List (String × Value)) : (∀ field ∈ fields, ∃ key ∈ keys, field.1 = word key) ↔
        ∀ name ∈ fields.map (·.1), ∃ key ∈ keys, name = word key := by
      rw [List.forall_mem_map]
    rw [named, named]
    simp only [mem_changed_names, List.map_reverse, List.mem_reverse]
    refine ⟨fun all name given => all name (.inl given), fun all name given => ?_⟩
    rcases given with changed | before
    · exact all name changed
    · obtain ⟨_, member, rfl⟩ := List.mem_map.mp before
      obtain ⟨key, inside, rfl⟩ := List.mem_map.mp member
      exact ⟨key, inside, rfl⟩
  · rw [entryOr_changed]
    show Shape.number (entryOr changes.reverse (word key)
      (entryOr (keys.map fun key => (word key, Value.float (table key))) _ _)) = _ ↔ _
    rw [entryOr_own once member]

end Laid

/-! ### The first layer -/

/-- The levels that have a threshold. -/
def gradedLevels : List RiskLevel := [.medium, .high, .critical]

/-- The score from which a risk has a level. -/
def Config.bound {α : Type} (config : Config α) : RiskLevel → α
  | .critical => config.critical
  | .high => config.high
  | _ => config.medium

attribute [ext] Config

/-- What fields give for a part of a configuration, under its usual or its other name. -/
def part (fields : List (String × Value)) (usual other : String) (absent : Value) : Value :=
  ((pick? fields usual other).map (·.2)).getD absent

/-- **What fields write**: each table laid over the standard one, each switch read, no other field,
and a configuration in range. -/
structure Written (fields : List (String × Value)) (config : Config Float) : Prop where
  known : ∀ field ∈ fields, ∃ names ∈ fieldNames,
    field.1 = names.1 ∨ field.1 = names.2 ∧ names.1 ∉ fields.map (·.1)
  weights : Laid weighed Category.name standardWeight
    (part fields "patternWeights" "pattern_weights" .null) config.weight
  multipliers : Laid Severity.all Severity.name standardMultiplier
    (part fields "severityMultipliers" "severity_multipliers" .null) config.multiplier
  thresholds : Laid gradedLevels RiskLevel.name Config.standard.bound
    (part fields "riskThresholds" "risk_thresholds" .null) config.bound
  bonus : Shape.flag (part fields "enableBonusScoring" "enable_bonus_scoring" (.bool true)) =
    .ok config.bonus
  penalty : Shape.flag (part fields "enablePenaltyScoring" "enable_penalty_scoring" (.bool true)) =
    .ok config.penalty
  inRange : config.InRange

theorem pick?_name {fields : List (String × Value)} {field : String × Value} (member : field ∈ fields)
    (usual other : String) : (pick? fields usual other).map (·.1) = some field.1 ↔
      field.1 = usual ∨ field.1 = other ∧ usual ∉ fields.map (·.1) := by
  have absent (name : String) : fields.find? (·.1 = name) = none ↔ name ∉ fields.map (·.1) := by
    simp only [List.find?_eq_none, decide_eq_true_eq, List.mem_map, not_exists, not_and]
  have present (name : String) (named : field.1 = name) :
      ∃ found, fields.find? (·.1 = name) = some found := by
    rw [← Option.isSome_iff_exists, List.find?_isSome]
    exact ⟨field, member, by simpa using named⟩
  unfold pick?
  cases found : fields.find? (·.1 = usual) with
  | some first =>
    have own : first.1 = usual := by simpa using List.find?_some found
    have there : usual ∈ fields.map (·.1) := own ▸ List.mem_map_of_mem (List.mem_of_find?_eq_some found)
    simp only [Option.map_some, Option.some.injEq, own, there, not_true, and_false, or_false]
    exact eq_comm
  | none =>
    have missing := (absent usual).mp found
    have apart : field.1 ≠ usual := fun same => missing (same ▸ List.mem_map_of_mem member)
    simp only [apart, false_or, missing, not_false_eq_true, and_true]
    constructor
    · intro picked
      obtain ⟨first, found, same⟩ := Option.map_eq_some_iff.mp picked
      rw [← same]
      simpa using List.find?_some found
    · intro own
      obtain ⟨first, found⟩ := present other own
      rw [found, own]
      exact congrArg some (by simpa using List.find?_some found)

/-- No field is unknown if and only if each is one of a configuration, by the name that counts. -/
theorem unknownField?_eq_none {fields : List (String × Value)} : unknownField? fields = none ↔
    ∀ field ∈ fields, ∃ names ∈ fieldNames,
      field.1 = names.1 ∨ field.1 = names.2 ∧ names.1 ∉ fields.map (·.1) := by
  unfold unknownField?
  simp only
  rw [Option.map_eq_none_iff, List.find?_eq_none]
  refine forall₂_congr fun field member => ?_
  simp only [Bool.not_eq_true', Bool.not_eq_false, List.contains_iff_mem, List.mem_filterMap,
    pick?_name member]

/-- A table that is not given has the standard entries, which pass their check. -/
theorem readPart_ok {fields : List (String × Value)} {usual other label : String}
    {standard table : List (String × Float)} {check : List (String × Float) → Except Shape.Reason Unit}
    (passes : check standard = .ok ()) :
    readPart fields usual other standard label check = .ok table ↔
      readTable standard label (part fields usual other .null) = .ok table ∧ check table = .ok () := by
  unfold readPart part
  cases pick? fields usual other with
  | none =>
    constructor
    · intro same
      cases same
      exact ⟨rfl, passes⟩
    · rintro ⟨same, _⟩
      cases same
      rfl
  | some field =>
    obtain ⟨name, value⟩ := field
    show Except.mapError _ _ = _ ↔ readTable standard label value = _ ∧ _
    rw [mapError_eq_ok, bind_eq_ok]
    constructor
    · rintro ⟨found, complete, read⟩
      obtain ⟨_, passed, same⟩ := bind_eq_ok.mp read
      cases same
      exact ⟨complete, mapError_eq_ok.mp passed⟩
    · rintro ⟨complete, passed⟩
      exact ⟨table, complete, bind_eq_ok.mpr ⟨(), mapError_eq_ok.mpr passed, rfl⟩⟩

theorem readSwitch_ok {fields : List (String × Value)} {usual other : String} {flag : Bool} :
    readSwitch fields usual other = .ok flag ↔
      Shape.flag (part fields usual other (.bool true)) = .ok flag := by
  unfold readSwitch part
  cases pick? fields usual other with
  | none =>
    constructor <;>
    · intro same
      cases same
      rfl
  | some field => exact mapError_eq_ok

theorem readPart_names {fields : List (String × Value)} {usual other label : String}
    {standard table : List (String × Float)} {check : List (String × Float) → Except Shape.Reason Unit}
    (read : readPart fields usual other standard label check = .ok table) :
    table.map (·.1) = standard.map (·.1) := by
  rcases readPart_cases read with rfl | ⟨_, names⟩
  · rfl
  · exact names

namespace Config

/-- The tables of the standard configuration pass their checks. -/
theorem standard_passes :
    checkRange 0.0 1.0 "Pattern weight" (standard : Config Float).weights = .ok () ∧
      checkRange 0.0 2.0 "Severity multiplier" (standard : Config Float).multipliers = .ok () ∧
      checkThresholds (standard : Config Float).thresholds = .ok () := by
  obtain ⟨weights, multipliers, thresholds, ordered⟩ := inRange_iff.mp standard_inRange
  exact ⟨weights, multipliers, bind_eq_ok.mpr ⟨(), thresholds, ordered⟩⟩

variable {config : Config Float}

/-- **The fields of a configuration, part by part.** The tables that are read are those of the
configuration, so that none of their entries is lost and none is added. -/
theorem readFields_ok {fields : List (String × Value)} : readFields fields = .ok config ↔
    readPart fields "patternWeights" "pattern_weights" (standard : Config Float).weights
        "pattern category" (checkRange 0.0 1.0 "Pattern weight") = .ok config.weights ∧
      readPart fields "severityMultipliers" "severity_multipliers" (standard : Config Float).multipliers
        "severity" (checkRange 0.0 2.0 "Severity multiplier") = .ok config.multipliers ∧
      readPart fields "riskThresholds" "risk_thresholds" (standard : Config Float).thresholds
        "risk level" checkThresholds = .ok config.thresholds ∧
      readSwitch fields "enableBonusScoring" "enable_bonus_scoring" = .ok config.bonus ∧
      readSwitch fields "enablePenaltyScoring" "enable_penalty_scoring" = .ok config.penalty ∧
      unknownField? fields = none := by
  constructor
  · intro read
    obtain ⟨weights, weighed', read⟩ := bind_eq_ok.mp read
    obtain ⟨multipliers, multiplied, read⟩ := bind_eq_ok.mp read
    obtain ⟨thresholds, graded, read⟩ := bind_eq_ok.mp read
    obtain ⟨bonus, bonus', read⟩ := bind_eq_ok.mp read
    obtain ⟨penalty, penalty', read⟩ := bind_eq_ok.mp read
    split at read
    · cases read
    rename_i known
    cases read
    -- each table has the names of the standard one, and so consists of the entries under them
    have weight := entries_eq weighed Category.name (by decide) (readPart_names weighed') standardWeight
    have multiplier := entries_eq Severity.all Severity.name (by decide) (readPart_names multiplied)
      standardMultiplier
    have threshold := entries_eq gradedLevels RiskLevel.name (by decide) (readPart_names graded)
      standard.bound
    exact ⟨weighed'.trans (congrArg _ weight.symm), multiplied.trans (congrArg _ multiplier.symm),
      graded.trans (congrArg _ threshold.symm), bonus', penalty', known⟩
  · rintro ⟨weights, multipliers, thresholds, bonus, penalty, known⟩
    unfold readFields
    simp only
    rw [weights, multipliers, thresholds, bonus, penalty, known]
    have bound (level : RiskLevel) (graded : level ∈ gradedLevels) :
        entryOr config.thresholds level.name (standard.bound level) = config.bound level :=
      entryOr_own (by decide : (gradedLevels.map RiskLevel.name).Nodup) graded config.bound _
    refine congrArg Except.ok (Config.ext ?_ ?_ ?_ ?_ ?_ rfl rfl)
    · funext category
      exact entryOr_own (by decide) (by cases category <;> decide) config.weight _
    · funext severity
      exact entryOr_own (by decide) (by cases severity <;> decide) config.multiplier _
    · exact bound .medium (by decide)
    · exact bound .high (by decide)
    · exact bound .critical (by decide)

/-- **A configuration is read exactly from the fields that write it.** -/
theorem read_record {fields : List (String × Value)} :
    read (.record fields) = .ok config ↔ Written fields config := by
  obtain ⟨weights, multipliers, thresholds⟩ := standard_passes
  show (readFields fields).mapError _ = _ ↔ _
  rw [mapError_eq_ok, readFields_ok, readPart_ok weights, readPart_ok multipliers,
    readPart_ok thresholds, readSwitch_ok, readSwitch_ok, unknownField?_eq_none]
  -- the standard tables and those of the configuration are tables over the same keys
  have laidWeights {given : Value} :
      readTable (standard : Config Float).weights "pattern category" given = .ok config.weights ↔
        Laid weighed Category.name standardWeight given config.weight :=
    readTable_ok _ _ _ _
  have laidMultipliers {given : Value} :
      readTable (standard : Config Float).multipliers "severity" given = .ok config.multipliers ↔
        Laid Severity.all Severity.name standardMultiplier given config.multiplier :=
    readTable_ok _ _ _ _
  have laidThresholds {given : Value} :
      readTable (standard : Config Float).thresholds "risk level" given = .ok config.thresholds ↔
        Laid gradedLevels RiskLevel.name standard.bound given config.bound :=
    readTable_ok gradedLevels RiskLevel.name standard.bound config.bound
  have graded : checkThresholds config.thresholds = .ok () ↔
      checkRange 0.0 1.0 "Risk threshold" config.thresholds = .ok () ∧
        checkOrder config.medium config.high config.critical = .ok () := by
    unfold checkThresholds
    rw [bind_eq_ok]
    exact ⟨fun ⟨_, bounded, ordered⟩ => ⟨bounded, ordered⟩,
      fun ⟨bounded, ordered⟩ => ⟨(), bounded, ordered⟩⟩
  rw [laidWeights, laidMultipliers, laidThresholds, graded]
  constructor
  · rintro ⟨⟨weights, bounded⟩, ⟨multipliers, bounded'⟩, ⟨thresholds, bounded'', ordered⟩, bonus,
      penalty, known⟩
    exact ⟨known, weights, multipliers, thresholds, bonus, penalty,
      inRange_iff.mpr ⟨bounded, bounded', bounded'', ordered⟩⟩
  · rintro ⟨known, weights, multipliers, thresholds, bonus, penalty, inRange⟩
    obtain ⟨bounded, bounded', bounded'', ordered⟩ := inRange_iff.mp inRange
    exact ⟨⟨weights, bounded⟩, ⟨multipliers, bounded'⟩, ⟨thresholds, bounded'', ordered⟩, bonus,
      penalty, known⟩

end Config

/-- **What a basis makes**: the configuration that is there, the standard one if nothing is given, or
the one that fields write. -/
inductive Basis.Makes : Basis → Config Float → Prop
  | ready (config : Config Float) : Makes (.ready config) config
  | standard : Makes (.value .null) .standard
  | written {fields : List (String × Value)} {config : Config Float} (written : Written fields config) :
      Makes (.value (.record fields)) config

theorem Basis.read_ok {basis : Basis} {config : Config Float} :
    basis.read = .ok config ↔ basis.Makes config := by
  constructor
  · intro read
    match basis, read with
    | .ready config, rfl => exact .ready config
    | .value .null, rfl => exact .standard
    | .value (.record fields), read => exact .written (Config.read_record.mp read)
  · rintro (_ | _ | written)
    · rfl
    · rfl
    · exact Config.read_record.mpr written

/-! ### The second layer -/

/-- The changes of a table, of which the last one under a name counts. -/
def latest (changes : Option (List (String × Value))) : Value :=
  .record (changes.getD []).reverse

/-- **Changes laid over a configuration**: weights and multipliers that are given, or else those of the
configuration, and everything else as it was, all of it in range. -/
structure Overlaid (base : Config Float) (weights multipliers : Option (List (String × Value)))
    (config : Config Float) : Prop where
  weights : Laid weighed Category.name base.weight (latest weights) config.weight
  multipliers : Laid Severity.all Severity.name base.multiplier (latest multipliers) config.multiplier
  thresholds : config.medium = base.medium ∧ config.high = base.high ∧ config.critical = base.critical
  bonus : config.bonus = base.bonus
  penalty : config.penalty = base.penalty
  inRange : config.InRange

section

variable {base config : Config Float} {weights multipliers : Option (List (String × Value))}

/-- Without changes the configuration stays as it was. -/
theorem overlaid_nothing (inRange : base.InRange) : Overlaid base none none config ↔ config = base := by
  constructor
  · rintro ⟨weights, multipliers, ⟨medium, high, critical⟩, bonus, penalty, _⟩
    refine Config.ext ?_ ?_ medium high critical bonus penalty
    · funext category
      exact laid_nothing.mp weights category (by cases category <;> decide)
    · funext severity
      exact laid_nothing.mp multipliers severity (by cases severity <;> decide)
  · rintro rfl
    exact ⟨laid_nothing.mpr fun _ _ => rfl, laid_nothing.mpr fun _ _ => rfl, ⟨rfl, rfl, rfl⟩, rfl, rfl,
      inRange⟩

/-- The thresholds of a configuration, written out, are read as they are. -/
theorem laid_thresholds : Laid gradedLevels RiskLevel.name Config.standard.bound
    (Config.tableValue base.thresholds) config.bound ↔
      config.medium = base.medium ∧ config.high = base.high ∧ config.critical = base.critical := by
  show Laid gradedLevels RiskLevel.name _ (.record (changed ((gradedLevels.map fun level =>
    (level.name, base.bound level)).map fun (name, x) => (name, .float x)) [])) config.bound ↔ _
  rw [laid_changed (by decide), List.reverse_nil, laid_nothing]
  simp [gradedLevels, Config.bound]

/-- **Weights and multipliers are replaced exactly if the changes can be laid over the rest.** -/
theorem override_ok (inRange : base.InRange) :
    base.override weights multipliers = .ok config ↔ Overlaid base weights multipliers config := by
  unfold Config.override
  split
  · rename_i nothing
    obtain ⟨rfl, rfl⟩ : weights = none ∧ multipliers = none := by simpa using nothing
    rw [overlaid_nothing inRange, Except.ok.injEq]
    exact eq_comm
  · rw [Config.read_record]
    have laidWeights : Laid weighed Category.name standardWeight
        (Config.tableWith base.weights weights) config.weight ↔
          Laid weighed Category.name base.weight (latest weights) config.weight :=
      laid_changed (by decide)
    have laidMultipliers : Laid Severity.all Severity.name standardMultiplier
        (Config.tableWith base.multipliers multipliers) config.multiplier ↔
          Laid Severity.all Severity.name base.multiplier (latest multipliers) config.multiplier :=
      laid_changed (by decide)
    constructor
    · rintro ⟨_, weights, multipliers, thresholds, bonus, penalty, inRange⟩
      exact ⟨laidWeights.mp weights, laidMultipliers.mp multipliers, laid_thresholds.mp thresholds,
        (Except.ok.inj bonus).symm, (Except.ok.inj penalty).symm, inRange⟩
    · rintro ⟨weights, multipliers, thresholds, bonus, penalty, inRange⟩
      exact ⟨unknownField?_eq_none.mp rfl, laidWeights.mpr weights, laidMultipliers.mpr multipliers,
        laid_thresholds.mpr thresholds, congrArg _ bonus.symm, congrArg _ penalty.symm, inRange⟩

end

/-! ### Both layers -/

/-- Whatever cannot be read as a configuration is refused under its field. -/
theorem Config.read_error {given : Value} {failure : Failure}
    (failed : Config.read given = .error failure) :
    failure.kind = .validation ∧ failure.field = .text "risk_scoring_config" := by
  cases given with
  | null => cases failed
  | record fields =>
    change (readFields fields).mapError _ = _ at failed
    cases read : readFields fields with
    | ok config =>
      rw [read] at failed
      cases failed
    | error fault =>
      rw [read] at failed
      cases failed
      exact ⟨rfl, rfl⟩
  | _ =>
    cases failed
    exact ⟨rfl, rfl⟩

/-- **A configuration is made of its layers.** A configuration comes out if and only if the basis is one,
or writes one over the standard tables, and the changes can be laid over it; then it is the one that
they make, with the usual names in its tables. Everything else is refused under the field of the
configuration. -/
theorem configure_layers (basis : Basis) (weights multipliers : Option (List (String × Value)))
    (made : ∀ config, basis = .ready config → config.InRange) :
    (∀ config, configure basis weights multipliers = .ok config ↔
      ∃ base, basis.Makes base ∧ Overlaid base weights multipliers config) ∧
    (∀ config, configure basis weights multipliers = .ok config →
      config.weights.map (·.1) = (Config.standard : Config Float).weights.map (·.1) ∧
      config.multipliers.map (·.1) = (Config.standard : Config Float).multipliers.map (·.1) ∧
      config.thresholds.map (·.1) = (Config.standard : Config Float).thresholds.map (·.1)) ∧
    ∀ failure, configure basis weights multipliers = .error failure →
      failure.kind = .validation ∧ failure.field = .text "risk_scoring_config" := by
  have inRange {base : Config Float} (makes : basis.Makes base) : base.InRange := by
    cases makes with
    | ready config => exact made base rfl
    | standard => exact Config.standard_inRange
    | written written => exact written.inRange
  refine ⟨fun config => ?_, fun config _ => ⟨rfl, rfl, rfl⟩, fun failure failed => ?_⟩
  · unfold configure
    rw [bind_eq_ok]
    refine exists_congr fun base => ?_
    rw [Basis.read_ok]
    exact and_congr_right fun makes => override_ok (inRange makes)
  · unfold configure at failed
    cases read : basis.read with
    | error other =>
      rw [read] at failed
      cases failed
      match basis, read with
      | .value given, read => exact Config.read_error read
    | ok base =>
      rw [read] at failed
      change base.override weights multipliers = _ at failed
      unfold Config.override at failed
      split at failed
      · cases failed
      · exact Config.read_error failed

/-- A part of the weights under the usual name, and one switch under its other name. -/
def partialBasis : Basis := .value (.record [
  ("patternWeights", .record [("fake-balance", .float 0.5), ("deceptive-events", .float 0.125)]),
  ("enable_bonus_scoring", .bool false)])

/-- A weight that is changed twice. -/
def weightChanges : List (String × Value) := [("fake-balance", .float 3.0), ("fake-balance", .float 0.75)]

theorem configure_layers_partial :
    (∀ config, partialBasis = .ready config → config.InRange) ∧
      (∃ config base, configure partialBasis (some weightChanges) none = .ok config ∧
        partialBasis.Makes base ∧ Overlaid base (some weightChanges) none config ∧
        config.weight .fakeBalance = 0.75 ∧ base.weight .deceptiveEvents = 0.125 ∧
        base.weight .hiddenRedirection = 0.35 ∧ config.bonus = false) ∧
      ∃ failure, configure partialBasis none (some [("extreme", .float 1.0)]) = .error failure ∧
        failure.kind = .validation ∧ failure.field = .text "risk_scoring_config" := by
  have made : ∀ config, partialBasis = .ready config → config.InRange := fun _ same => nomatch same
  obtain ⟨layers, _, _⟩ := configure_layers partialBasis (some weightChanges) none made
  obtain ⟨layers', _, refused⟩ := configure_layers partialBasis none (some [("extreme", .float 1.0)]) made
  refine ⟨made, ?_, ?_⟩
  · cases answer : configure partialBasis (some weightChanges) none with
    | error failure =>
      have accepts : (configure partialBasis (some weightChanges) none).isOk = true := by decide +kernel
      rw [answer] at accepts
      cases accepts
    | ok config =>
      obtain ⟨base, makes, overlaid⟩ := (layers config).mp answer
      cases makes with
      | written written =>
        refine ⟨config, base, rfl, .written written, overlaid, ?_, ?_, ?_, ?_⟩
        · exact (Except.ok.inj (overlaid.weights.numbers .fakeBalance (by decide))).symm
        · exact (Except.ok.inj (written.weights.numbers .deceptiveEvents (by decide))).symm
        · exact (Except.ok.inj (written.weights.numbers .hiddenRedirection (by decide))).symm
        · exact overlaid.bonus.trans (Except.ok.inj written.bonus).symm
  · cases answer : configure partialBasis none (some [("extreme", .float 1.0)]) with
    | error failure => exact ⟨failure, rfl, refused failure answer⟩
    | ok config =>
      obtain ⟨base, _, overlaid⟩ := (layers' config).mp answer
      obtain ⟨severity, _, same⟩ := overlaid.multipliers.names _ rfl _ List.mem_cons_self
      exact absurd same (by cases severity <;> decide)

end ContractRisk.Scoring
