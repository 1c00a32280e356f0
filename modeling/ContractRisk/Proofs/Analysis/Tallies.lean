/-
**The tally of an analyzer.**

An analyzer counts the records that it makes, those that failed, those that are complete with errors,
and the addresses whose code the first round of a batch did not get. Nothing else is counted: between the
analyses codes may be fetched, caches warmed and cleared, and addresses checked at once (`Errand`). The
records that it makes are those that it returns, and those that are lost because a batch ends at an address
that cannot be written.

* `extract_tally`, `prefetch_tally`: what the records and the first round of a batch add;
* `attend_tally`: what one errand adds;
* `lost_unwritable`: how records are lost;
* `tally_accounts`: the tally of a new analyzer after any errands.
-/

import ContractRisk.Proofs.Analysis.Batches
import ContractRisk.Proofs.Cache.Rosters
import Mathlib.Algebra.Ring.Nat

namespace ContractRisk

variable {σ α : Type}

/-! ### Counts -/

/-- Counts are added one by one. -/
instance : Add Tally where
  add first second :=
    { total := first.total + second.total
      failed := first.failed + second.failed
      degraded := first.degraded + second.degraded
      fetchFailures := first.fetchFailures + second.fetchFailures }

namespace Tally

/-- The counts of records and of fetches that failed. -/
def of (records : List (Analysis α)) (unfetched : Nat) : Tally where
  total := records.length
  failed := records.countP (·.verdict = .failed)
  degraded := records.countP fun record => record.verdict = .complete && !record.errors.isEmpty
  fetchFailures := unfetched

theorem add_assoc (first second third : Tally) : first + second + third = first + (second + third) :=
  Tally.mk.injEq .. ▸ ⟨Nat.add_assoc .., Nat.add_assoc .., Nat.add_assoc .., Nat.add_assoc ..⟩

theorem of_append (records others : List (Analysis α)) (unfetched more : Nat) :
    of (records ++ others) (unfetched + more) = of records unfetched + of others more := by
  unfold of
  rw [List.length_append, List.countP_append, List.countP_append]
  rfl

/-- The order of the records does not count. -/
theorem of_perm {records others : List (Analysis α)} (perm : records.Perm others) (unfetched : Nat) :
    of records unfetched = of others unfetched := by
  unfold of
  rw [perm.length_eq, perm.countP_eq, perm.countP_eq]

/-- One more record counts as one. -/
theorem add_eq (tally : Tally) (record : Analysis α) : tally.add record = tally + of [record] 0 := by
  unfold of
  rw [List.countP_singleton, List.countP_singleton]
  simp only [decide_eq_true_eq]
  rfl

end Tally

namespace Traffic

variable [Source σ]

/-- The addresses of a batch whose fetch failed. They are known as soon as every fetch of the batch has
come to its end. -/
def unfetched (traffic : Traffic σ Number) (addresses : List Value) : List Value :=
  match ((traffic.startBatch addresses).settle.outcomes traffic.batches.length).mapM id with
  | some outcomes => ((addresses.zip outcomes).filter fun entry => !entry.2.isOk).map (·.1)
  | none => []

theorem unfetched_sublist (traffic : Traffic σ Number) (addresses : List Value) :
    (traffic.unfetched addresses).Sublist addresses := by
  have firsts : ∀ (addresses : List Value) (outcomes : List Outcome),
      ((addresses.zip outcomes).map (·.1)).Sublist addresses := by
    intro addresses
    induction addresses with
    | nil => exact fun _ => List.nil_sublist _
    | cons address rest ih =>
      intro outcomes
      cases outcomes with
      | nil => exact List.nil_sublist _
      | cons outcome others => exact (ih others).cons_cons address
  unfold unfetched
  split
  · exact (List.filter_sublist.map _).trans (firsts _ _)
  · exact List.nil_sublist _

/-- **The failures of a batch** are filed under the addresses whose fetch failed. -/
theorem fetchBatch_failures (traffic : Traffic σ Number) (addresses : List Value) :
    (((traffic.fetchBatch addresses).2.getD ⟨[], []⟩).failures).map (·.1) =
      traffic.unfetched addresses := by
  rw [fetchBatch_result]
  unfold unfetched
  cases ((traffic.startBatch addresses).settle.outcomes traffic.batches.length).mapM id with
  | none => rfl
  | some outcomes => exact BatchResult.failures_ofOutcomes _

end Traffic

namespace Analyzer

/-! ### What is not counted -/

section

variable [Source σ] (analyzer : Analyzer σ α)

theorem fetch_tally (origin : Origin) (address : Value) :
    (analyzer.fetch origin address).2.tally = analyzer.tally := by
  unfold Analyzer.fetch
  cases analyzer.resolve origin <;> rfl

theorem fetchEach_tally (origin : Origin) (addresses : List Value) (asks : Value → Bool) :
    (analyzer.fetchEach origin addresses asks).2.tally = analyzer.tally := by
  unfold Analyzer.fetchEach
  cases analyzer.resolve origin with
  | error failure => rfl
  | ok pair =>
    simp only
    split <;> rfl

theorem preload_tally (addresses : Value) (origin : Origin) :
    (analyzer.preload addresses origin).2.tally = analyzer.tally := by
  unfold Analyzer.preload
  simp only
  split
  · rfl
  · cases analyzer.resolve (analyzer.setup.originFor origin) with
    | error failure => rfl
    | ok pair =>
      simp only
      split <;> rfl

/-! ### What is counted -/

/-- The addresses whose code the first round of a batch does not get. -/
def unfetched (origin : Origin) (addresses : List Value) : List Value :=
  match analyzer.resolve origin with
  | .error _ => []
  | .ok (name, source) =>
    (analyzer.visit name source).1.unfetched
      (addresses.filter fun address => (Address.normalize? address).isSome)

theorem unfetched_sublist (origin : Origin) (addresses : List Value) :
    (analyzer.unfetched origin addresses).Sublist
      (addresses.filter fun address => (Address.normalize? address).isSome) := by
  unfold unfetched
  cases analyzer.resolve origin with
  | error failure => exact List.nil_sublist _
  | ok pair => exact Traffic.unfetched_sublist _ _

/-- **The first round of a batch** adds the addresses whose code it does not get. -/
theorem prefetch_tally (addresses : List Value) (origin : Origin) :
    (analyzer.prefetch addresses origin).2.tally =
      analyzer.tally + Tally.of ([] : List (Analysis α)) (analyzer.unfetched origin addresses).length := by
  unfold Analyzer.prefetch unfetched
  cases analyzer.resolve origin with
  | error failure => rfl
  | ok pair =>
    obtain ⟨name, source⟩ := pair
    simp only
    split
    · rename_i nobody
      rw [List.isEmpty_iff.mp nobody, List.sublist_nil.mp (Traffic.unfetched_sublist _ [])]
      rfl
    · rw [← Traffic.fetchBatch_failures, List.length_map]
      rfl

end

/-! ### The records of a batch -/

section

/-- The records that analyses came to. -/
def made (endings : List (Value × Except Failure (Analysis α))) : List (Analysis α) :=
  endings.filterMap (·.2.toOption)

/-- The records for the analyses that came to none, up to the first address that cannot be written. -/
def remade (setup : Setup α) : List (Value × Except Failure (Analysis α)) → List (Analysis α)
  | [] => []
  | (_, .ok _) :: rest => remade setup rest
  | (address, .error failure) :: rest =>
    match setup.shown address with
    | .error _ => []
    | .ok shown => setup.brokenOff shown .null failure {} :: remade setup rest

/-- A record that an analysis came to is the one of its address. -/
theorem mem_made {endings : List (Value × Except Failure (Analysis α))} {record : Analysis α}
    (member : record ∈ made endings) : ∃ address, (address, .ok record) ∈ endings := by
  obtain ⟨⟨address, ending⟩, listed, same⟩ := List.mem_filterMap.mp member
  cases ending with
  | error failure => cases same
  | ok other =>
    cases same
    exact ⟨address, listed⟩

/-- A record that is made in the end is one of an analysis that failed. -/
theorem remade_failed {setup : Setup α} {endings : List (Value × Except Failure (Analysis α))}
    {record : Analysis α} (member : record ∈ remade setup endings) : record.verdict = .failed := by
  induction endings with
  | nil => cases member
  | cons entry rest ih =>
    obtain ⟨address, ending⟩ := entry
    cases ending with
    | ok other => exact ih member
    | error failure =>
      unfold remade at member
      cases shown : setup.shown address with
      | error unwritable =>
        rw [shown] at member
        cases member
      | ok text =>
        rw [shown] at member
        rcases List.mem_cons.mp member with rfl | later
        · rfl
        · exact ih later

/-- **Records are counted** one by one. -/
theorem countEach_tally (endings : List (Value × Except Failure (Analysis α))) (analyzer : Analyzer σ α) :
    (endings.foldl (fun analyzer entry => analyzer.countIf entry.2) analyzer).tally =
      analyzer.tally + Tally.of (made endings) 0 := by
  induction endings generalizing analyzer with
  | nil => rfl
  | cons entry rest ih =>
    obtain ⟨address, ending⟩ := entry
    rw [List.foldl_cons, ih]
    cases ending with
    | error failure => rfl
    | ok record =>
      show analyzer.tally.add record + _ = analyzer.tally + Tally.of ([record] ++ made rest) (0 + 0)
      rw [Tally.add_eq, Tally.add_assoc, ← Tally.of_append]

/-- **The records that are made in the end** are counted as well. -/
theorem extract_tally (endings : List (Value × Except Failure (Analysis α))) (analyzer : Analyzer σ α) :
    (analyzer.extract endings).2.tally =
      analyzer.tally + Tally.of (remade analyzer.setup endings) 0 := by
  induction endings generalizing analyzer with
  | nil => rfl
  | cons entry rest ih =>
    obtain ⟨address, ending⟩ := entry
    cases ending with
    | ok record => exact ih analyzer
    | error failure =>
      unfold extract remade
      cases analyzer.setup.shown address with
      | error unwritable => rfl
      | ok shown =>
        let record := analyzer.setup.brokenOff shown .null failure {}
        refine (ih (analyzer.count record)).trans ?_
        show analyzer.tally.add record + _ = analyzer.tally + Tally.of ([record] ++ _) (0 + 0)
        rw [Tally.add_eq, Tally.add_assoc, ← Tally.of_append]
        rfl

/-- **A batch that has records** has those that were made, and no others. -/
theorem extract_perm {endings : List (Value × Except Failure (Analysis α))} {analyzer : Analyzer σ α}
    {records : List (Value × Analysis α)} (answered : (analyzer.extract endings).1 = .ok records) :
    (records.map (·.2)).Perm (made endings ++ remade analyzer.setup endings) := by
  induction endings generalizing analyzer records with
  | nil =>
    cases answered
    exact .refl _
  | cons entry rest ih =>
    obtain ⟨address, ending⟩ := entry
    cases ending with
    | ok record =>
      obtain ⟨others, later, rfl⟩ := Attempt.map_eq_ok.mp answered
      exact (ih later).cons record
    | error failure =>
      unfold extract at answered
      unfold remade
      cases shown : analyzer.setup.shown address with
      | error unwritable =>
        rw [shown] at answered
        cases answered
      | ok text =>
        rw [shown] at answered
        obtain ⟨others, later, rfl⟩ := Attempt.map_eq_ok.mp answered
        exact ((ih later).cons _).trans List.perm_middle.symm

end

section

variable [Source σ] [Add α] [Sub α] [Mul α] [Div α] [LT α] [LE α] [DecidableLT α]
  [DecidableLE α] [OfScientific α] [NatCast α] [Decimal.Rendered α] (analyzer : Analyzer σ α)

/-- What the analyses of a batch come to, and the analyzer before they are counted. -/
def endings (keys : List Value) (abis : Value) (given : Origin) :
    List (Value × Except Failure (Analysis α)) × Analyzer σ α :=
  let origin := analyzer.setup.originFor given
  let (failures, analyzer) := analyzer.prefetch keys origin
  let (fetched, analyzer) := analyzer.fetchEach origin keys fun address =>
    analyzer.setup.asksForCode address && (failureFor failures address).isNone
  ((keys.zip fetched).map fun (address, outcome) =>
    (address, analyzer.ending { address, abi := abiFor abis address, origin := given }
      (analyzer.outcomeFor origin failures address outcome)), analyzer)

theorem analyzeBatch_keyed {addresses : Value} {keys : List Value} (keyed : distinctKeys addresses = .ok keys)
    (abis : Value) (given : Origin) :
    analyzer.analyzeBatch addresses abis given =
      ((analyzer.endings keys abis given).1.foldl (fun analyzer entry => analyzer.countIf entry.2)
        (analyzer.endings keys abis given).2).extract (analyzer.endings keys abis given).1 := by
  unfold Analyzer.analyzeBatch
  rw [keyed]
  rfl

/-- **A single analysis** adds its record, if there is one. -/
theorem analyze_tally (question : Question) :
    (∃ failure, (analyzer.analyze question).1 = .error failure ∧
        (analyzer.analyze question).2.tally = analyzer.tally) ∨
      ∃ record, (analyzer.analyze question).1 = .ok record ∧
        (analyzer.analyze question).2.tally = analyzer.tally + Tally.of [record] 0 := by
  -- counting adds to a tally that a fetch has left as it is
  have counted (next : Analyzer σ α) (same : next.tally = analyzer.tally)
      (ending : Except Failure (Analysis α)) :
      (∃ failure, ending = .error failure ∧ (next.countIf ending).tally = analyzer.tally) ∨
        ∃ record, ending = .ok record ∧
          (next.countIf ending).tally = analyzer.tally + Tally.of [record] 0 := by
    cases ending with
    | error failure => exact .inl ⟨failure, rfl, same⟩
    | ok record => exact .inr ⟨record, rfl, (Tally.add_eq next.tally record).trans (same ▸ rfl)⟩
  unfold Analyzer.analyze
  cases analyzer.setup.faults.analysis with
  | some failure => exact .inl ⟨failure, rfl, rfl⟩
  | none =>
    simp only
    split
    · exact counted _ (analyzer.fetch_tally _ _) _
    · exact counted _ rfl _

/-- What the analyses of a batch come to is not counted yet, but what its first round does not get is. -/
theorem endings_frame (keys : List Value) (abis : Value) (given : Origin) :
    (analyzer.endings keys abis given).2.setup = analyzer.setup ∧
      (analyzer.endings keys abis given).2.tally = analyzer.tally +
        Tally.of ([] : List (Analysis α)) (analyzer.unfetched (analyzer.setup.originFor given) keys).length := by
  unfold endings
  simp only
  rw [fetchEach_tally, prefetch_tally]
  have prefetched := analyzer.holds_trivial.prefetch (kept_trivial _) keys (analyzer.setup.originFor given)
  exact ⟨(prefetched.fetchEach (kept_trivial _) _ keys _).setup, rfl⟩

/-- **A batch** adds all records that are made for it and what its first round does not get. -/
theorem analyzeBatch_tally {addresses : Value} {keys : List Value} (keyed : distinctKeys addresses = .ok keys)
    (abis : Value) (given : Origin) :
    (analyzer.analyzeBatch addresses abis given).2.tally = analyzer.tally +
      Tally.of (made (analyzer.endings keys abis given).1 ++
        remade analyzer.setup (analyzer.endings keys abis given).1)
        (analyzer.unfetched (analyzer.setup.originFor given) keys).length := by
  obtain ⟨setup, tally⟩ := analyzer.endings_frame keys abis given
  rw [analyzer.analyzeBatch_keyed keyed, extract_tally, countEach_tally, setup_countEach, setup, tally,
    Tally.add_assoc, Tally.add_assoc, ← Tally.of_append, ← Tally.of_append, List.nil_append, Nat.add_zero]

/-- A collection without keys leaves the analyzer as it is. -/
theorem analyzeBatch_unkeyed {addresses : Value} {failure : Failure}
    (unkeyed : distinctKeys addresses = .error failure) (abis : Value) (origin : Origin) :
    analyzer.analyzeBatch addresses abis origin = (.error failure, analyzer) := by
  unfold Analyzer.analyzeBatch
  rw [unkeyed]

end

/-! ### Errands -/

/-- One thing that is asked of an analyzer: a task, or a quick check. -/
inductive Errand where
  | task (task : Task)
  | quickCheck (address : Value)

section

variable [Source σ]

/-- The addresses whose code the first round of an errand does not get, if it is a batch. -/
def missed (analyzer : Analyzer σ α) : Errand → List Value
  | .task (.analyzeBatch addresses _ origin) =>
    match distinctKeys addresses with
    | .ok keys => analyzer.unfetched (analyzer.setup.originFor origin) keys
    | .error _ => []
  | _ => []

/-- What the first round of a batch misses are valid addresses, each of them once. -/
theorem missed_distinct (analyzer : Analyzer σ α) (errand : Errand) :
    (∀ address ∈ analyzer.missed errand, (Address.normalize? address).isSome = true) ∧
      (analyzer.missed errand).Pairwise fun first second => first.same second = false := by
  match errand with
  | .quickCheck _ | .task (.advance _) | .task .clear | .task (.preload _ _) | .task (.analyze _) =>
    exact ⟨fun _ member => (nomatch member), List.Pairwise.nil⟩
  | .task (.analyzeBatch addresses abis origin) =>
    cases keyed : distinctKeys addresses with
    | error failure =>
      simp only [missed, keyed]
      exact ⟨fun _ member => (nomatch member), List.Pairwise.nil⟩
    | ok keys =>
      simp only [missed, keyed]
      have valid := analyzer.unfetched_sublist (analyzer.setup.originFor origin) keys
      refine ⟨fun address member => (List.mem_filter.mp (valid.subset member)).2, ?_⟩
      obtain ⟨items, _, keyed⟩ := Attempt.bind_eq_ok.mp keyed
      obtain ⟨values, _, same⟩ := Attempt.bind_eq_ok.mp keyed
      cases same
      exact (distinct_onePerKey values).apart.sublist (valid.trans List.filter_sublist)

end

section

variable [Source σ] [Add α] [Sub α] [Mul α] [Div α] [LT α] [LE α] [DecidableLT α]
  [DecidableLE α] [OfScientific α] [NatCast α] [Decimal.Rendered α]

/-- The analyzer after an errand. A quick check goes by the setup alone and leaves it as it is. -/
def attend (analyzer : Analyzer σ α) : Errand → Analyzer σ α
  | .task task => analyzer.perform task
  | .quickCheck _ => analyzer

/-- A batch with an address that is malformed and cannot be written. -/
inductive Errand.Unwritable (setup : Setup α) : Errand → Prop
  | batch {addresses abis : Value} {origin : Origin} {keys : List Value} {key : Value} {failure : Failure}
      (keyed : distinctKeys addresses = .ok keys) (member : key ∈ keys)
      (malformed : Address.normalize? key = none) (unwritten : setup.shown key = .error failure) :
      Unwritable setup (.task (.analyzeBatch addresses abis origin))

/-- The records that were made for an errand and are not returned: those of a batch that has ended at an
address that cannot be written. -/
def lost (analyzer : Analyzer σ α) : Errand → List (Analysis α)
  | .task (.analyzeBatch addresses abis origin) =>
    match distinctKeys addresses, (analyzer.analyzeBatch addresses abis origin).1 with
    | .ok keys, .error _ =>
      made (analyzer.endings keys abis origin).1 ++
        remade analyzer.setup (analyzer.endings keys abis origin).1
    | _, _ => []
  | _ => []

/-- The records that are returned for an errand. -/
def returned (analyzer : Analyzer σ α) : Errand → List (Analysis α)
  | .task (.analyze question) =>
    match (analyzer.analyze question).1 with
    | .ok record => [record]
    | .error _ => []
  | .task (.analyzeBatch addresses abis origin) =>
    match (analyzer.analyzeBatch addresses abis origin).1 with
    | .ok records => records.map (·.2)
    | .error _ => []
  | _ => []

/-- **What one errand adds to the tally**: each record that was made once, and what its first round missed. -/
theorem attend_tally (analyzer : Analyzer σ α) (errand : Errand) :
    (analyzer.attend errand).tally = analyzer.tally +
      Tally.of (analyzer.returned errand ++ analyzer.lost errand) (analyzer.missed errand).length := by
  match errand with
  | .quickCheck address => rfl
  | .task (.advance span) => rfl
  | .task .clear => rfl
  | .task (.preload addresses origin) => exact analyzer.preload_tally addresses origin
  | .task (.analyze question) =>
    show (analyzer.analyze question).2.tally = _
    rcases analyzer.analyze_tally question with ⟨failure, failed, same⟩ | ⟨record, answered, counted⟩
    · simp only [returned, lost, missed, failed]
      exact same
    · simp only [returned, lost, missed, answered]
      exact counted
  | .task (.analyzeBatch addresses abis origin) =>
    show (analyzer.analyzeBatch addresses abis origin).2.tally = _
    cases keyed : distinctKeys addresses with
    | error failure =>
      have failed := analyzer.analyzeBatch_unkeyed keyed abis origin
      simp only [returned, lost, missed, failed, keyed]
      rfl
    | ok keys =>
      rw [analyzer.analyzeBatch_tally keyed]
      cases answered : (analyzer.analyzeBatch addresses abis origin).1 with
      | error failure =>
        simp only [returned, lost, missed, answered, keyed]
        rfl
      | ok records =>
        simp only [returned, lost, missed, answered, keyed]
        rw [analyzer.analyzeBatch_keyed keyed] at answered
        have perm := extract_perm answered
        rw [setup_countEach, (analyzer.endings_frame keys abis origin).1] at perm
        rw [List.append_nil, Tally.of_perm perm]

/-- **Records are lost only in a batch with an address that is malformed and cannot be written.** -/
theorem lost_unwritable (analyzer : Analyzer σ α) (errand : Errand) (some : analyzer.lost errand ≠ []) :
    errand.Unwritable analyzer.setup := by
  match errand with
  | .quickCheck _ | .task (.advance _) | .task .clear | .task (.preload _ _) | .task (.analyze _) =>
    exact absurd rfl some
  | .task (.analyzeBatch addresses abis origin) =>
    cases keyed : distinctKeys addresses with
    | error failure => exact absurd (by simp only [lost, keyed]) some
    | ok keys =>
      cases answered : (analyzer.analyzeBatch addresses abis origin).1 with
      | ok records => exact absurd (by simp only [lost, keyed, answered]) some
      | error failure =>
        rw [analyzer.analyzeBatch_keyed keyed] at answered
        rcases extract_cases (analyzer.endings keys abis origin).1 _ with
          ⟨records, ended⟩ | ⟨entry, inside, malformed, cause, unwritten, _⟩
        · cases answered.symm.trans ended
        · obtain ⟨pair, member, rfl⟩ := List.mem_map.mp inside
          rw [setup_countEach, (analyzer.endings_frame keys abis origin).1] at unwritten
          exact .batch keyed (List.of_mem_zip member).1 malformed unwritten

/-- The analyzer after errands, the first of them first. -/
def attends (analyzer : Analyzer σ α) (errands : List Errand) : Analyzer σ α :=
  errands.foldl attend analyzer

/-- All records that are returned in the course of errands. -/
def allReturned : Analyzer σ α → List Errand → List (Analysis α)
  | _, [] => []
  | analyzer, errand :: rest => analyzer.returned errand ++ (analyzer.attend errand).allReturned rest

/-- All records that are lost in the course of errands. -/
def allLost : Analyzer σ α → List Errand → List (Analysis α)
  | _, [] => []
  | analyzer, errand :: rest => analyzer.lost errand ++ (analyzer.attend errand).allLost rest

/-- What the first round of each errand missed. -/
def allMissed : Analyzer σ α → List Errand → List (List Value)
  | _, [] => []
  | analyzer, errand :: rest => analyzer.missed errand :: (analyzer.attend errand).allMissed rest

/-- What errands add to the tally. -/
theorem attends_tally (analyzer : Analyzer σ α) (errands : List Errand) :
    (analyzer.attends errands).tally = analyzer.tally +
      Tally.of (analyzer.allReturned errands ++ analyzer.allLost errands)
        ((analyzer.allMissed errands).map List.length).sum := by
  induction errands generalizing analyzer with
  | nil => rfl
  | cons errand rest ih =>
    show ((analyzer.attend errand).attends rest).tally = _
    rw [ih, attend_tally, Tally.add_assoc, ← Tally.of_append]
    refine congrArg (analyzer.tally + ·) (Tally.of_perm ?_ _)
    -- what is returned now and later, and what is lost now and later
    rw [List.append_assoc]
    refine ((List.perm_append_comm_assoc _ _ _).append_left _).trans ?_
    rw [← List.append_assoc]
    exact .refl _

/-- An errand leaves the parts of an analyzer as they are. -/
theorem attend_setup (analyzer : Analyzer σ α) (errand : Errand) :
    (analyzer.attend errand).setup = analyzer.setup := by
  cases errand with
  | task task => exact (analyzer.holds_trivial.perform (kept_trivial _) task).setup
  | quickCheck address => rfl

theorem allMissed_distinct (analyzer : Analyzer σ α) (errands : List Errand) :
    ∀ addresses ∈ analyzer.allMissed errands,
      (∀ address ∈ addresses, (Address.normalize? address).isSome = true) ∧
        addresses.Pairwise fun first second => first.same second = false := by
  induction errands generalizing analyzer with
  | nil => exact fun _ member => nomatch member
  | cons errand rest ih =>
    intro addresses member
    rcases List.mem_cons.mp member with rfl | later
    · exact analyzer.missed_distinct errand
    · exact ih (analyzer.attend errand) addresses later

theorem allLost_unwritable (analyzer : Analyzer σ α) (errands : List Errand)
    (some : analyzer.allLost errands ≠ []) : ∃ errand ∈ errands, errand.Unwritable analyzer.setup := by
  induction errands generalizing analyzer with
  | nil => exact absurd rfl some
  | cons errand rest ih =>
    by_cases now : analyzer.lost errand = []
    · have later : (analyzer.attend errand).allLost rest ≠ [] := by
        intro none
        refine some ?_
        show analyzer.lost errand ++ _ = []
        rw [now, none]
        rfl
      obtain ⟨other, member, unwritable⟩ := ih (analyzer.attend errand) later
      rw [attend_setup] at unwritable
      exact ⟨other, List.mem_cons_of_mem _ member, unwritable⟩
    · exact ⟨errand, List.mem_cons_self, analyzer.lost_unwritable errand now⟩

/-- **The tally of a new analyzer counts the records that were made.** Whatever it is asked for, in whatever
order: every record that is returned is counted once, as failed if it failed and as degraded if it is complete
with errors, and so is every valid address, once as it is given for each batch, whose code the first round of
the batch did not get. The records of a batch that ends at an address that cannot be written are counted too,
though they are not returned; no other records are. -/
theorem tally_accounts (setup : Setup α) (sources : List (String × σ)) (now : Number)
    (errands : List Errand) :
    let start : Analyzer σ α := { setup, sources, now }
    let records := start.allReturned errands
    let lost := start.allLost errands
    let missed := start.allMissed errands
    (start.attends errands).tally =
      { total := records.length + lost.length
        failed := (records ++ lost).countP (·.verdict = .failed)
        degraded := (records ++ lost).countP fun record =>
          record.verdict = .complete && !record.errors.isEmpty
        fetchFailures := (missed.map List.length).sum } ∧
      (lost ≠ [] → ∃ errand ∈ errands, errand.Unwritable setup) ∧
      ∀ addresses ∈ missed, (∀ address ∈ addresses, (Address.normalize? address).isSome = true) ∧
        addresses.Pairwise fun first second => first.same second = false := by
  intro start records lost missed
  refine ⟨?_, start.allLost_unwritable errands, start.allMissed_distinct errands⟩
  rw [start.attends_tally, ← List.length_append]
  show Tally.mk (0 + _) (0 + _) (0 + _) (0 + _) = _
  rw [Nat.zero_add, Nat.zero_add, Nat.zero_add, Nat.zero_add]
  rfl

end

/-- A batch of an address of too many digits and a valid one. -/
def longBatch : Errand :=
  .task (.analyzeBatch (.list [.int (10 ^ 5000), .text "0x1234567890abcdef1234567890abcdef12345678"]) .null
    .absent)

/-- The record of the valid address is counted, and nothing is returned. -/
theorem tally_accounts_lost : ((usual .standard).allReturned [longBatch]).isEmpty = true ∧
    ((usual .standard).attends [longBatch]).tally.total = 1 ∧
    longBatch.Unwritable (usual .standard).setup := by
  have none : ((usual .standard).allReturned [longBatch]).isEmpty = true := by decide +kernel
  have one : ((usual .standard).attends [longBatch]).tally.total = 1 := by decide +kernel
  have start : Analyzer.mk (usual .standard).setup (usual .standard).sources [] (usual .standard).now {} [] =
      usual .standard := rfl
  have account := tally_accounts (usual .standard).setup (usual .standard).sources
    (usual .standard).now [longBatch]
  simp only [start] at account
  obtain ⟨counted, unwritable, _⟩ := account
  have lost : (usual .standard).allLost [longBatch] ≠ [] := by
    intro nothing
    rw [counted, List.isEmpty_iff.mp none, nothing] at one
    cases one
  obtain ⟨errand, member, found⟩ := unwritable lost
  cases List.mem_singleton.mp member
  exact ⟨none, one, found⟩

end Analyzer

end ContractRisk
