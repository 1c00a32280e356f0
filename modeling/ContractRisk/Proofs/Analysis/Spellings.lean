/-
**The case of an address does not matter.**

Everything that is given an address goes by its normal form: the list of threats, quick checks, analyses
and the cache. So two spellings of an address are treated alike by all of them (`spelling_irrelevant`).
An analysis asks a source for the normal form only; if the source is steady, the records for two spellings
are equal whatever the analyzer has gone through before the one and before the other
(`analyze_sameAddress`).
-/

import ContractRisk.Proofs.Address.Spellings
import ContractRisk.Proofs.Analysis.Batches
import ContractRisk.Proofs.Cache.Again

namespace ContractRisk

variable {σ α τ : Type} {first second address : String}

/-! ### Quick checks and analyses -/

section

variable (wellFormed : Address.normalize? (.text first) = some address)
  (wellFormed' : Address.normalize? (.text second) = some address)

include wellFormed wellFormed'

theorem Setup.quickCheck_sameAddress (setup : Setup α) :
    setup.quickCheck (.text second) = setup.quickCheck (.text first) := by
  unfold Setup.quickCheck
  rw [wellFormed, wellFormed']

theorem Analyzer.outcomeThrough_sameAddress (known : String → Bool) (origin : Origin)
    (respond : String → Option Reply) (timeout : Number) :
    outcomeThrough known origin respond timeout (.text second) =
      outcomeThrough known origin respond timeout (.text first) := by
  unfold outcomeThrough Steady.answerTo
  rw [wellFormed, wellFormed']

variable [Add α] [Sub α] [Mul α] [Div α] [LT α] [LE α] [DecidableLT α] [DecidableLE α] [OfScientific α]
  [NatCast α] [Decimal.Rendered α]

/-- The record for an address is about its normal form. -/
theorem Setup.analysis_sameAddress (setup : Setup α) (abi name : Value) (origin : Origin)
    (fetched : Option Outcome) :
    setup.analysis { address := .text second, abi, name, origin } fetched =
      setup.analysis { address := .text first, abi, name, origin } fetched := by
  unfold Setup.analysis
  rw [wellFormed, wellFormed']
  rfl

/-- **The analyses of two spellings have equal records**, if the source behind the origin is steady. -/
theorem Analyzer.analyze_sameAddress [Source σ] {analyzer : Analyzer σ α} (new : analyzer.shelf = [])
    {respond : String → Option Reply} {origin : Origin}
    (steady : ∀ name source, (analyzer.setup.originFor origin).source? = .ok name →
      (name, source) ∈ analyzer.sources → Steady respond source)
    (tasks others : List Task) (abi name : Value) :
    ((analyzer.after others).analyze { address := .text second, abi, name, origin }).1 =
      ((analyzer.after tasks).analyze { address := .text first, abi, name, origin }).1 := by
  have alone (tasks : List Task) (address : Value) (sound : analyzer.setup.faults.analysis = none) :
      ((analyzer.after tasks).analyze { address, abi, name, origin }).1 = analyzer.setup.analysis
        { address, abi, name, origin } (if (analyzer.setup.originFor origin).isGiven then
          some (outcomeThrough (fun name => (analyzer.sources.lookup name).isSome)
            (analyzer.setup.originFor origin) respond analyzer.setup.settings.analysisTimeout address)
          else none) := by
    have been : Been False (analyzer.setup.originFor origin) respond analyzer (analyzer.after tasks) :=
      Been.after .new tasks
    have ready := been.ready new fun name source named member => (steady name source named member).consistent
    rw [← analyzeThrough_nil]
    exact ready.analyzedAlone sound (fun _ member => nomatch member) False.elim
  cases broken : analyzer.setup.faults.analysis with
  | some failure =>
    have setup (tasks : List Task) : (analyzer.after tasks).setup = analyzer.setup :=
      (after_lived analyzer new tasks).setup
    unfold Analyzer.analyze
    rw [setup, setup, broken]
  | none =>
    rw [alone others _ broken, alone tasks _ broken,
      analyzer.setup.analysis_sameAddress wellFormed wellFormed',
      outcomeThrough_sameAddress wellFormed wellFormed']

end

/-! ### Two spellings of one address -/

/-- **What two spellings of an address have in common.** -/
structure CaseBlind (σ α τ : Type) [Source σ] [Add α] [Sub α] [Mul α] [Div α] [LT α] [LE α]
    [DecidableLT α] [DecidableLE α] [OfScientific α] [NatCast α] [Decimal.Rendered α] [Add τ] [Sub τ]
    [LE τ] [DecidableLE τ] (address first second : String) : Prop
    extends Address.OneAddress address first second where
  /-- Every list of threats answers for them alike. -/
  threats : ∀ threats : ThreatList,
    threats.isKnown (.text second) = threats.isKnown (.text first) ∧
      threats.contains (.text second) = threats.contains (.text first) ∧
      ∀ warning, threats.warningFor (.text second) = .ok warning ↔
        threats.warningFor (.text first) = .ok warning
  /-- Quick checks of them are equal. -/
  quickChecks : ∀ setup : Setup α, setup.quickCheck (.text second) = setup.quickCheck (.text first)
  /-- Analyses of them with one interface, one name and one steady source have equal records, whatever the
  analyzer has gone through before each of them. -/
  analyses : ∀ (analyzer : Analyzer σ α) (respond : String → Option Reply) (origin : Origin),
    analyzer.shelf = [] →
    (∀ name source, (analyzer.setup.originFor origin).source? = .ok name →
      (name, source) ∈ analyzer.sources → Steady respond source) →
    ∀ (tasks others : List Task) (abi name : Value),
      ((analyzer.after others).analyze { address := .text second, abi, name, origin }).1 =
        ((analyzer.after tasks).analyze { address := .text first, abi, name, origin }).1
  /-- Once the first has been asked for with success, with nothing else in between and no other fetch for
  the address just coming to its end, the second is a hit with the same code as long as the entry is young.
  The entry is as old as the call, unless that was a hit itself. -/
  hits : ∀ (limits : Cache.Limits τ) (now : τ) (start : Cache τ) (events : List (Cache.Event τ)),
    Cache.create limits now = .ok start →
    (∀ flight ∈ (start.run events).flights, flight.address = address → ∀ outcome,
      flight.phase ≠ .finished outcome) →
    ∀ (source : σ) (limit : Option Number) (after : Traffic σ τ) (code : String),
      ({ cache := start.run events, source } : Traffic σ τ).fetch ⟨.text first, limit⟩ =
        (after, some (.ok code)) →
      ∃ entry, after.cache.entry? address = some entry ∧ entry.code = code ∧
        ((start.run events).isHit (.text first) limit = false →
          entry.storedAt = (start.run events).now) ∧
        ∀ span limit', ¬ (start.run events).limits.lifetime ≤
            (start.run events).now + span - entry.storedAt →
          (after.cache.advance span).AnswersAtOnce (.text second) limit' code

variable [Source σ] [Add α] [Sub α] [Mul α] [Div α] [LT α] [LE α] [DecidableLT α] [DecidableLE α]
  [OfScientific α] [NatCast α] [Decimal.Rendered α] [Add τ] [Sub τ] [LE τ] [DecidableLE τ]

/-- **The case of an address does not matter**: two spellings have one normal form and one checksummed form,
and are treated alike by lists of threats, quick checks, analyses and caches. -/
theorem spelling_irrelevant (wellFormed : Address.normalize? (.text first) = some address)
    (same : Address.SameDigits first second) : CaseBlind σ α τ address first second := by
  have wellFormed' := (Address.sameDigits_iff wellFormed).mp same
  refine ⟨same.oneAddress wellFormed, fun threats => threats.answers_sameDigits wellFormed wellFormed',
    fun setup => setup.quickCheck_sameAddress wellFormed wellFormed', ?_, ?_⟩
  · intro analyzer respond origin new steady tasks others abi name
    exact Analyzer.analyze_sameAddress wellFormed wellFormed' new steady tasks others abi name
  · intro limits now start events created released source limit after code fetched
    unfold Cache.create at created
    split at created
    · cases created
    rename_i roomy
    split at created
    · cases created
    cases created
    have bounds : (({ limits, now } : Cache τ).run events).limits = limits :=
      Cache.Reaches.limits ⟨events, rfl⟩
    exact Traffic.fetch_again (Cache.run_tidy (Cache.tidy_empty limits now) events)
      (bounds.symm ▸ roomy) wellFormed wellFormed' released fetched

/-- A listed address is analyzed in capitals and, after the caches were cleared, with one small letter; a
code is fetched for the one and found for the other half a minute later. -/
theorem spelling_irrelevant_capitals :
    let capitals := "0xACBA164135904DC63C5418B57FF87EFD341D7C80"
    let mixed := "0xACBA164135904DC63C5418B57FF87EFd341D7C80"
    let cache : Cache Int := { limits := ⟨60, .int 2, 1, none⟩, now := 0 }
    Address.normalize? (.text capitals) = some "0xacba164135904dc63c5418b57ff87efd341d7c80" ∧
      Address.SameDigits capitals mixed ∧
      (Analyzer.withQuietNode.after [.clear] |>.analyze { address := .text mixed }).1 =
        (Analyzer.withQuietNode.after [] |>.analyze { address := .text capitals }).1 ∧
      ∃ after code, ({ cache, source := Analyzer.quietNode } : Traffic Replay Int).fetch
          ⟨.text capitals, none⟩ = (after, some (.ok code)) ∧
        (after.cache.advance 30).AnswersAtOnce (.text mixed) none code := by
  intro capitals mixed cache
  have wellFormed : Address.normalize? (.text capitals) =
      some "0xacba164135904dc63c5418b57ff87efd341d7c80" := by decide +kernel
  have same : Address.SameDigits capitals mixed :=
    (Address.sameDigits_iff wellFormed).mpr (by decide +kernel)
  have blind : CaseBlind Replay Float Int _ capitals mixed := spelling_irrelevant wellFormed same
  refine ⟨wellFormed, same, ?_, ?_⟩
  · refine blind.analyses _ Analyzer.quietReply .absent rfl ?_ [] [.clear] .null .null
    intro name source _ member
    cases List.mem_singleton.mp member
    exact Analyzer.quietNode_steady
  · have answered : (({ cache, source := Analyzer.quietNode } : Traffic Replay Int).fetch
        ⟨.text capitals, none⟩).2 = some (.ok "0x00") := by
      have code : (({ cache, source := Analyzer.quietNode } : Traffic Replay Int).fetch
          ⟨.text capitals, none⟩).2.bind Except.toOption = some "0x00" := by decide +kernel
      obtain ⟨outcome, found, given⟩ := Option.bind_eq_some_iff.mp code
      rw [found]
      cases outcome with
      | error failure => cases given
      | ok code =>
        cases given
        rfl
    obtain ⟨entry, _, _, stored, again⟩ := blind.hits cache.limits 0 cache [] rfl
      (fun _ member => nomatch member) Analyzer.quietNode none _ "0x00" (Prod.ext rfl answered)
    have new : entry.storedAt = 0 := stored (by decide +kernel)
    refine ⟨_, "0x00", Prod.ext rfl answered, again 30 none ?_⟩
    rw [new]
    decide

end ContractRisk
