/-
**Analyses of many addresses agree with single ones.**

A batch takes another way than a single analysis: it fetches all codes beforehand, hands on the failures,
and asks again for the codes that it has, which may have left the cache since, or have grown too old. If the
source is consistent none of that shows: whatever the analyzer has gone through (`Ready`) and whatever is
done in the course of the rounds, a fetch comes to what its address makes of it, in a batch or not. Two
things do show. A failure that is none of the analyzer's own is handed on as the failed analysis that it is
filed as, whereas a single analysis ends in it if it is no ordinary one. And an address that cannot be
written ends the whole batch.

* `Ready.outcomeFor`: what the rounds come to for one address;
* `extract_cases`, `extract_eq`: a batch has a record for each address, or ends at the first that cannot be
  written;
* `analyzeBatch_agrees`: the records of a batch beside those of single analyses.
-/

import ContractRisk.Proofs.Analysis.Ready
import ContractRisk.Proofs.Keys

namespace ContractRisk

/-! ### Interfaces that are filed under addresses -/

/-- The families of the analyzer's own are ordinary ones. -/
theorem ErrorKind.isOrdinary_of_isOwn {kind : ErrorKind} (own : kind.isOwn = true) :
    kind.isOrdinary = true := by
  cases kind <;> first | rfl | cases own

/-- A failure that is filed is an ordinary one. -/
theorem Failure.isOrdinary_filed (failure : Failure) : failure.filed.isOrdinary = true := by
  unfold Failure.filed
  split
  · rename_i own
    exact ErrorKind.isOrdinary_of_isOwn own
  · split <;> rfl

namespace Analyzer

variable {σ α : Type} {respond : String → Option Reply} {held : Prop}

/-- What keeps an origin from having a source is a failure of the analyzer's own. -/
theorem filed_of_obstacle {known : String → Bool} {origin : Origin} {failure : Failure}
    (unreachable : obstacle known origin = some failure) : failure.filed = failure := by
  unfold obstacle at unreachable
  cases origin <;>
  · simp only [Origin.source?] at unreachable
    repeat' split at unreachable
    all_goals
      cases unreachable
      try rfl

/-- Only a text that is the same as another is the same key. -/
theorem eq_of_same {first : Value} {text : String} (same : first.same (.text text) = true) :
    first = .text text := by
  cases first with
  | text other => exact congrArg Value.text (beq_iff_eq.mp same)
  | _ => cases same

/-- A valid address is a text. -/
theorem exists_text {address : Value} (valid : (Address.normalize? address).isSome = true) :
    ∃ text, address = .text text := by
  cases address with
  | text text => exact ⟨text, rfl⟩
  | _ => cases valid

/-- The failure that is filed under a valid address is the one that the address comes to. -/
theorem failureFor_eq (answer : Value → Outcome) {addresses : List Value} {address : Value}
    (member : address ∈ addresses) (valid : (Address.normalize? address).isSome = true) :
    failureFor ((addresses.filter fun address => (Address.normalize? address).isSome).filterMap
      fun address => BatchResult.failure? (address, answer address)) address =
        match answer address with
        | .error failure => some failure.filed
        | .ok _ => none := by
  obtain ⟨text, rfl⟩ := exists_text valid
  unfold failureFor
  cases found : (List.filterMap _ _).find? fun entry : Value × Failure => entry.1.same (.text text) with
  | some entry =>
    -- what is found is filed under the address itself
    have same : entry.1.same (.text text) = true :=
      List.find?_some (p := fun entry : Value × Failure => entry.1.same (.text text)) found
    have own := eq_of_same same
    obtain ⟨other, _, failed⟩ := List.mem_filterMap.mp (List.mem_of_find?_eq_some found)
    unfold BatchResult.failure? at failed
    split at failed
    · rename_i first failure outcome
      obtain ⟨rfl, fails⟩ := Prod.mk.inj outcome
      cases failed
      cases own
      rw [fails]
      rfl
    · cases failed
  | none =>
    cases outcome : answer (.text text) with
    | ok code => rfl
    | error failure =>
      have inside : (.text text, failure.filed) ∈ (addresses.filter fun address =>
          (Address.normalize? address).isSome).filterMap fun address =>
            BatchResult.failure? (address, answer address) := by
        refine List.mem_filterMap.mpr ⟨.text text, List.mem_filter.mpr ⟨member, valid⟩, ?_⟩
        rw [outcome]
        rfl
      have missed := List.find?_eq_none.mp found _ inside
      exact absurd (beq_self_eq_true text) missed

/-- What an analysis of a batch is given for the code at an address: a failure is filed. -/
def handedOn (known : String → Bool) (origin : Origin) (respond : String → Option Reply) (timeout : Number)
    (address : Value) : Option Outcome :=
  if origin.isGiven then some ((outcomeThrough known origin respond timeout address).mapError Failure.filed)
  else none

/-- **What an analysis of the second round goes by** is what is handed on. -/
theorem Ready.outcomeFor [Source σ] {setup : Setup α} {known : String → Bool} {origin : Origin}
    {analyzer : Analyzer σ α} (ready : Ready setup known origin held respond analyzer)
    {addresses : List Value} {address : Value} (member : address ∈ addresses)
    (asks : setup.asksForCode address = true) :
    let timeout := setup.settings.analysisTimeout
    let failures := failuresThrough known origin respond timeout addresses
    analyzer.outcomeFor origin failures address
      (if (setup.asksForCode address && (failureFor failures address).isNone) &&
        (obstacle known origin).isNone then some (Steady.answerTo respond timeout address) else none) =
      handedOn known origin respond timeout address := by
  intro timeout failures
  have valid : (Address.normalize? address).isSome = true := by
    unfold Setup.asksForCode at asks
    exact (Bool.and_eq_true_iff.mp (Bool.and_eq_true_iff.mp asks).1).1
  unfold Analyzer.outcomeFor handedOn
  cases given : origin.isGiven with
  | false => rfl
  | true =>
    unfold outcomeThrough
    cases obstacle : obstacle known origin with
    | some failure =>
      have none : failures = [] := by
        unfold failures failuresThrough
        rw [obstacle]
      rw [none, ready.resolve_error obstacle]
      show some (Except.error failure) = some (Except.error failure.filed)
      rw [filed_of_obstacle obstacle]
    | none =>
      obtain ⟨name, source, _, resolved, _⟩ := ready.reach obstacle
      have own : failureFor failures address = match Steady.answerTo respond timeout address with
          | .error failure => some failure.filed
          | .ok _ => none := by
        unfold failures failuresThrough
        rw [obstacle]
        exact failureFor_eq (Steady.answerTo respond timeout) member valid
      rw [own, resolved, asks]
      cases Steady.answerTo respond timeout address <;> rfl

/-! ### The records of a batch -/

section

/-- To count records leaves the parts of an analyzer as they are. -/
theorem setup_countEach (endings : List (Value × Except Failure (Analysis α))) (analyzer : Analyzer σ α) :
    (endings.foldl (fun analyzer entry => analyzer.countIf entry.2) analyzer).setup = analyzer.setup := by
  induction endings generalizing analyzer with
  | nil => rfl
  | cons entry rest ih =>
    obtain ⟨address, ending⟩ := entry
    refine (ih (analyzer.countIf ending)).trans ?_
    cases ending <;> rfl

/-- A valid address can be written. -/
theorem shown_valid (setup : Setup α) {address : Value} (valid : (Address.normalize? address).isSome = true) :
    ∃ shown, setup.shown address = .ok shown := by
  obtain ⟨text, rfl⟩ := exists_text valid
  exact ⟨text, if_neg (Nat.not_lt_zero _)⟩

/-- **A batch has its records** unless an address that is not valid cannot be written. -/
theorem extract_cases (endings : List (Value × Except Failure (Analysis α))) (analyzer : Analyzer σ α) :
    (∃ records, (analyzer.extract endings).1 = .ok records) ∨
    ∃ entry ∈ endings, Address.normalize? entry.1 = none ∧
      ∃ failure, analyzer.setup.shown entry.1 = .error failure ∧
        (analyzer.extract endings).1 = .error failure := by
  induction endings generalizing analyzer with
  | nil => exact .inl ⟨[], rfl⟩
  | cons entry rest ih =>
    -- the rest is gone through by an analyzer of the same parts
    have later (next : Analyzer σ α) (same : next.setup = analyzer.setup) (address : Value)
        (record : Analysis α) :
        (∃ records, (next.extract rest).1.map ((address, record) :: ·) = .ok records) ∨
        ∃ other ∈ entry :: rest, Address.normalize? other.1 = none ∧
          ∃ failure, analyzer.setup.shown other.1 = .error failure ∧
            (next.extract rest).1.map ((address, record) :: ·) = .error failure := by
      rcases ih next with ⟨records, answered⟩ | ⟨other, inside, malformed, failure, unwritten, ended⟩
      · rw [answered]
        exact .inl ⟨_, rfl⟩
      · rw [ended]
        exact .inr ⟨other, List.mem_cons_of_mem _ inside, malformed, failure, same ▸ unwritten, rfl⟩
    obtain ⟨address, ending⟩ := entry
    cases ending with
    | ok record => exact later analyzer rfl address record
    | error cause =>
      unfold Analyzer.extract
      cases shown : analyzer.setup.shown address with
      | ok text => exact later (analyzer.count _) rfl address _
      | error failure =>
        refine .inr ⟨_, List.mem_cons_self, ?_, failure, shown, rfl⟩
        refine Option.not_isSome_iff_eq_none.mp fun valid => ?_
        obtain ⟨text, written⟩ := shown_valid analyzer.setup valid
        cases shown.symm.trans written

/-- **A batch has a record for each address**, if an analysis ends without one only where the address cannot
be written; the first such address ends the batch. -/
theorem extract_eq (setup : Setup α) {endings : List (Value × Except Failure (Analysis α))}
    (unwritten : ∀ entry ∈ endings, ∀ failure, entry.2 = .error failure →
      setup.shown entry.1 = .error failure) :
    ∀ analyzer : Analyzer σ α, analyzer.setup = setup →
      (analyzer.extract endings).1 = endings.mapM fun entry => entry.2.map (entry.1, ·) := by
  induction endings with
  | nil => exact fun _ _ => rfl
  | cons entry rest ih =>
    intro analyzer own
    have later := ih fun other member => unwritten other (List.mem_cons_of_mem _ member)
    obtain ⟨address, ending⟩ := entry
    rw [List.mapM_cons]
    cases ending with
    | ok record =>
      unfold extract
      rw [← later analyzer own]
      show Except.map _ (analyzer.extract rest).1 = _
      cases (analyzer.extract rest).1 <;> rfl
    | error failure =>
      unfold extract
      rw [own, unwritten _ List.mem_cons_self failure rfl]
      rfl

variable [Add α] [Sub α] [Mul α] [Div α] [LT α] [LE α] [DecidableLT α] [DecidableLE α]
  [OfScientific α] [NatCast α] [Decimal.Rendered α] {setup : Setup α} {known : String → Bool}

/-- The record of an analysis that does not come to ask for a code. -/
theorem analysis_unasked (sound : setup.faults.analysis = none) {question : Question}
    (unasked : ¬ setup.asksForCode question.address = true) (first second : Option Outcome) :
    setup.analysis question first = setup.analysis question second := by
  unfold Setup.asksForCode at unasked
  cases wellFormed : Address.normalize? question.address with
  | none => rw [setup.analysis_malformed wellFormed, setup.analysis_malformed wellFormed]
  | some address =>
    cases broken : setup.faults.pipeline with
    | none =>
      rw [wellFormed, broken, sound] at unasked
      exact absurd rfl unasked
    | some failure =>
      rw [setup.analysis_wellFormed wellFormed, setup.analysis_wellFormed wellFormed, broken]

/-- What is handed on is no reason to come to no record. -/
theorem handedOn_ordinary {origin : Origin} {timeout : Number} {address : Value} {failure : Failure}
    (ended : handedOn known origin respond timeout address = some (.error failure)) :
    failure.isOrdinary = true := by
  unfold handedOn at ended
  split at ended
  · cases fetched : outcomeThrough known origin respond timeout address with
    | ok code =>
      rw [fetched] at ended
      cases ended
    | error cause =>
      rw [fetched] at ended
      cases ended
      exact cause.isOrdinary_filed
  · cases ended

/-- **Analyses that go by what is handed on** have their records, or end where an address cannot be
written. -/
theorem extract_handedOn {origin : Origin} {timeout : Number} (keys : List Value)
    (question : Value → Question) (asked : ∀ address, (question address).address = address)
    (analyzer : Analyzer σ α) (own : analyzer.setup = setup) :
    (analyzer.extract (keys.map fun address =>
        (address, setup.analysis (question address) (handedOn known origin respond timeout address)))).1 =
      keys.mapM fun address => (setup.analysis (question address)
        (handedOn known origin respond timeout address)).map (address, ·) := by
  rw [extract_eq setup ?_ analyzer own, List.mapM_map]
  · rfl
  · intro entry member failure ended
    obtain ⟨address, _, rfl⟩ := List.mem_map.mp member
    cases setup.analysis_error ended with
    | unwritable malformed unwritten => exact asked address ▸ unwritten
    | interrupted wellFormed fetched extraordinary =>
      cases extraordinary.symm.trans (handedOn_ordinary fetched)

variable [Source σ] {analyzer : Analyzer σ α}

/-- **What the analysis of one address comes to** when the second round is over. -/
theorem Ready.ending {origin : Origin} (ready : Ready setup known origin held respond analyzer)
    {question : Question} (sound : setup.faults.analysis = none) {keys : List Value}
    (member : question.address ∈ keys) :
    let timeout := setup.settings.analysisTimeout
    let failures := failuresThrough known origin respond timeout keys
    analyzer.ending question (analyzer.outcomeFor origin failures question.address
        (if (setup.asksForCode question.address && (failureFor failures question.address).isNone) &&
          (obstacle known origin).isNone then some (Steady.answerTo respond timeout question.address)
        else none)) =
      setup.analysis question (handedOn known origin respond timeout question.address) := by
  intro timeout failures
  unfold Analyzer.ending
  simp only [ready.setup, sound]
  by_cases asked : setup.asksForCode question.address = true
  · rw [ready.outcomeFor member asked]
  · exact analysis_unasked sound asked _ _

/-- **What becomes of a batch**, each address by what is handed on for it. -/
theorem Ready.analyzed {given : Origin}
    (ready : Ready setup known (setup.originFor given) held respond analyzer)
    (sound : setup.faults.analysis = none)
    (room : Traffic.slots setup.settings.batchConcurrency ≠ some 0) {addresses : List Value}
    (hashable : ∀ address ∈ addresses, address.isKey = true) (abis : Value) {first second : List (Deed Number)}
    (fair : ∀ deed ∈ first ++ second, deed.Fair respond setup.settings.analysisTimeout)
    (between : held → Idle (setup.originFor given)
      (analyzer.prefetchThrough first (Value.distinct addresses) (setup.originFor given)).2)
    (idle : held → Idle (setup.originFor given)
      (analyzer.analyzeBatchThrough first second (.list addresses) abis given).2) :
    (analyzer.analyzeBatchThrough first second (.list addresses) abis given).1 =
      (Value.distinct addresses).mapM fun address =>
        (setup.analysis { address, abi := abiFor abis address, origin := given } (handedOn known
          (setup.originFor given) respond setup.settings.analysisTimeout address)).map (address, ·) := by
  unfold Analyzer.analyzeBatchThrough at idle ⊢
  rw [distinctKeys_list hashable] at idle ⊢
  simp only [ready.setup] at idle ⊢
  generalize Value.distinct addresses = keys at *
  generalize setup.originFor given = origin at *
  -- to count records and to make them leaves the caches as they are
  have ended (back : held) := fun name named => idle back name named
  simp only [cacheOf_extract, cacheOf_countEach] at ended
  clear idle
  -- the first round
  have fair' : ∀ deed ∈ first, deed.Fair respond setup.settings.analysisTimeout :=
    fun deed member => fair deed (List.mem_append_left _ member)
  have failed := ready.prefetched fair' room keys between
  have ready : Ready setup known origin held respond (analyzer.prefetchThrough first keys origin).2 :=
    ready.prefetchThrough (fun _ => fair') keys between
  generalize analyzer.prefetchThrough first keys origin = prefetched at failed ready ended ⊢
  obtain ⟨failures, next⟩ := prefetched
  simp only at failed ready ended ⊢
  rw [ready.setup] at ended ⊢
  subst failed
  -- the second round
  generalize own : (fun address => setup.asksForCode address && (failureFor (failuresThrough known
    origin respond setup.settings.analysisTimeout keys) address).isNone) = asks at ended ⊢
  have fair' : ∀ deed ∈ second, deed.Fair respond setup.settings.analysisTimeout :=
    fun deed member => fair deed (List.mem_append_right _ member)
  have fetched := ready.fetchedEach fair' room keys asks ended
  have ready : Ready setup known origin held respond (next.fetchEachThrough second origin keys asks).2 :=
    ready.fetchEachThrough (fun _ => fair') keys asks ended
  generalize next.fetchEachThrough second origin keys asks = rounds at fetched ready ⊢
  obtain ⟨outcomes, last⟩ := rounds
  simp only at fetched ready ⊢
  subst fetched own
  -- the analysis of one address
  generalize made : (keys.zip _).map _ = endings
  rw [← List.map_prod_left_eq_zip, List.map_map] at made
  have made : endings = keys.map fun address =>
      (address, setup.analysis { address, abi := abiFor abis address, origin := given }
        (handedOn known origin respond setup.settings.analysisTimeout address)) :=
    made.symm.trans (List.map_congr_left fun address member =>
      congrArg (Prod.mk address) (ready.ending sound member))
  rw [made]
  exact extract_handedOn keys (fun address => { address, abi := abiFor abis address, origin := given })
    (fun _ => rfl) _ (Holds.countEach ready _).setup

/-! ### Batches and single analyses -/

/-- **A single analysis** goes by what the fetch comes to. -/
theorem Ready.analyzedAlone {question : Question}
    (ready : Ready setup known (setup.originFor question.origin) held respond analyzer)
    (sound : setup.faults.analysis = none) {course : List (Deed Number)}
    (fair : ∀ deed ∈ course, deed.Fair respond setup.settings.analysisTimeout)
    (idle : held → Idle (setup.originFor question.origin) (analyzer.analyzeThrough course question).2) :
    (analyzer.analyzeThrough course question).1 = setup.analysis question
      (if (setup.originFor question.origin).isGiven then some (outcomeThrough known
        (setup.originFor question.origin) respond setup.settings.analysisTimeout question.address)
      else none) := by
  unfold Analyzer.analyzeThrough at idle ⊢
  simp only [ready.setup, sound] at idle ⊢
  by_cases asked : setup.asksForCode question.address = true
  · simp only [asked, Bool.and_true] at idle ⊢
    by_cases isGiven : (setup.originFor question.origin).isGiven = true
    · simp only [if_pos isGiven] at idle ⊢
      have ended (back : held) := fun name named => idle back name named
      simp only [cacheOf_countIf] at ended
      rw [ready.fetched fair question.address ended,
        (ready.fetchThrough (fun _ => fair) question.address ended).setup]
    · simp only [if_neg isGiven, ready.setup]
  · simp only [asked, Bool.and_false, Bool.false_eq_true, if_false, ready.setup]
    exact analysis_unasked sound asked _ _

/-- **What a single analysis comes to** for a question, by an analyzer that has gone through anything before
and whatever is done in the course of it. -/
inductive Alone (held : Prop) (respond : String → Option Reply) (start : Analyzer σ α) (question : Question) :
    Except Failure (Analysis α) → Prop
  | intro {analyzer : Analyzer σ α}
      (been : Been held (start.setup.originFor question.origin) respond start analyzer)
      {course : List (Deed Number)}
      (fair : ∀ deed ∈ course, deed.Fair respond start.setup.settings.analysisTimeout)
      (idle : held → Idle (start.setup.originFor question.origin) (analyzer.analyzeThrough course question).2) :
      Alone held respond start question (analyzer.analyzeThrough course question).1

omit [Source σ] in
/-- **What a single analysis comes to beside the record of a batch**: the same record. If the source raises
something that is no ordinary failure, the single analysis ends in that, and the record is the one for the
failed analysis that it is filed as. -/
inductive Matches (setup : Setup α) (respond : String → Option Reply) (question : Question)
    (record : Analysis α) : Except Failure (Analysis α) → Prop
  | same : Matches setup respond question record (.ok record)
  | raised {failure : Failure} (extraordinary : failure.isOrdinary = false)
      (fails : Steady.answerTo respond setup.settings.analysisTimeout question.address = .error failure)
      (filed : setup.analysis question (some (.error failure.filed)) = .ok record) :
      Matches setup respond question record (.error failure)

end

end Analyzer

end ContractRisk
