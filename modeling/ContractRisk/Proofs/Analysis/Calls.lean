/-
**One fetch for each address of a batch.**

A batch fetches all codes in a first round, discards the codes and keeps the failures, and asks again for
the codes in a second round. While replies are under way time passes, and they come in any order: a round
goes through deeds that leave it to the batch to ask (`Analyzer.analyzeBatchThrough`; without such deeds it
is `Analyzer.analyzeBatch`). If the cache of the source is empty and has room for the addresses, and no
entry grows too old meanwhile, then all calls of the source are those of the first round, and there is one
for each address (`AsksOnce`):

* `prefetchThrough_calls`: the first round calls the source once for each valid address;
* `fetchEachThrough_calls`: whatever is asked for in the second round is in the cache;
* `analyzeBatch_asksOnce`: the calls of a batch.
-/

import ContractRisk.Proofs.Analysis.Batches
import ContractRisk.Proofs.Cache.Partition
import ContractRisk.Proofs.Cache.Rounds
import ContractRisk.Proofs.Settings

namespace ContractRisk

/-! ### Sources that hold nothing back -/

/-- Nothing is asked of an outcome here but that there is one. -/
theorem Forthcoming.honest {σ : Type} [Source σ] {timeout : Option Number} :
    Honest (fun _ _ => True) timeout False (Forthcoming (σ := σ)) where
  asked := by
    intro source forthcoming address
    refine ⟨Source.Always.ask forthcoming address, fun _ => ?_⟩
    have given := Source.Always.now forthcoming address
    cases response : (Source.ask source address).1 with
    | held => exact absurd response given
    | _ => trivial
  immediate := fun _ _ => trivial

/-- What keeps silent or replies holds nothing back. -/
theorem Steady.forthcoming {σ : Type} [Source σ] {respond : String → Option Reply} {source : σ}
    (steady : Steady respond source) : Forthcoming source := by
  intro earlier address held
  have responds : (Source.ask (Source.after source earlier) address).1 =
      (respond address).elim .silent .reply := steady earlier address
  rw [responds] at held
  cases reply : respond address <;>
  · rw [reply] at held
    cases held

namespace Analyzer

variable {σ α : Type}

/-! ### The analyzer behind the rounds -/

/-- To count records and to make them calls no source. -/
theorem asked_countEach (endings : List (Value × Except Failure (Analysis α))) (analyzer : Analyzer σ α) :
    (endings.foldl (fun analyzer entry => analyzer.countIf entry.2) analyzer).asked = analyzer.asked := by
  induction endings generalizing analyzer with
  | nil => rfl
  | cons entry rest ih =>
    obtain ⟨address, ending⟩ := entry
    refine (ih (analyzer.countIf ending)).trans ?_
    cases ending <;> rfl

theorem asked_extract (endings : List (Value × Except Failure (Analysis α))) (analyzer : Analyzer σ α) :
    (analyzer.extract endings).2.asked = analyzer.asked := by
  induction endings generalizing analyzer with
  | nil => rfl
  | cons entry rest ih =>
    obtain ⟨address, ending⟩ := entry
    cases ending with
    | ok record => exact ih analyzer
    | error failure =>
      unfold Analyzer.extract
      split
      · rfl
      · exact ih (analyzer.count _)

/-! ### The addresses of a batch -/

/-- The keys of a collection have the addresses of the collection, if no two of them are one. -/
theorem distinct_wanted {values : List Value} (apart : (values.filterMap Address.normalize?).Nodup) :
    ((Value.distinct values).filterMap Address.normalize?).Perm (values.filterMap Address.normalize?) := by
  obtain ⟨inOrder, _, complete⟩ := distinct_onePerKey values
  have kept := inOrder.filterMap Address.normalize?
  refine (List.perm_ext_iff_of_nodup (apart.sublist kept) apart).mpr fun address =>
    ⟨fun member => kept.subset member, fun member => ?_⟩
  obtain ⟨value, inside, wellFormed⟩ := List.mem_filterMap.mp member
  obtain ⟨text, rfl⟩ := exists_text (Option.isSome_of_eq_some wellFormed)
  obtain ⟨first, stays, own⟩ := complete _ inside
  have same : first = .text text := own.elim id eq_of_same
  exact List.mem_filterMap.mpr ⟨first, stays, same ▸ wellFormed⟩

/-- Where no address has an entry, each is asked for by the members that it is the address of. -/
theorem countP_lacks {errand : ContractRisk.Errand Number} (new : errand.stock = []) (keys : List Value)
    (address : String) :
    ((keys.filter fun key => (Address.normalize? key).isSome).map fun key =>
        some (⟨key, none⟩ : Request)).countP (errand.lacks address) =
      (keys.filterMap Address.normalize?).count address := by
  rw [List.countP_map, List.countP_filter, List.count, List.countP_filterMap]
  refine List.countP_congr fun key _ => ?_
  unfold ContractRisk.Errand.lacks
  rw [new]
  cases wellFormed : Address.normalize? key <;> simp [wellFormed]

/-- Where every address that is asked for has an entry, no member lacks any. -/
theorem countP_held {errand : ContractRisk.Errand Number} {keys : List Value} {asks : Value → Bool}
    (held : ∀ key ∈ keys, asks key = true →
      ∃ address ∈ errand.stock, Address.normalize? key = some address)
    (limit : Option Number) (address : String) :
    (keys.map fun key => if asks key then some (⟨key, limit⟩ : Request) else none).countP
      (errand.lacks address) = 0 := by
  refine List.countP_eq_zero.mpr fun request member lacks => ?_
  obtain ⟨unheld, own⟩ := of_decide_eq_true lacks
  obtain ⟨key, inside, rfl⟩ := List.mem_map.mp member
  split at own
  · rename_i asking
    obtain ⟨other, stocked, wellFormed⟩ := held key inside asking
    cases wellFormed.symm.trans own
    exact unheld stocked
  · cases own

open Traffic in
/-- **A batch of which every member is served has its result**, and whoever has no failure in it came to a
code. -/
theorem Settled.batch {good : String → Outcome → Prop} {keys : List Value} {traffic : Traffic σ Number}
    (settled : List.Forall₂ (Settled good) (keys.map fun key => some ⟨key, none⟩) (traffic.outcomes 0))
    (places : traffic.addressesOf 0 = keys) :
    ∃ result, traffic.batchResult? 0 = some result ∧ ∀ key ∈ keys, ∀ address,
      Address.normalize? key = some address → failureFor result.failures key = none →
        ∃ code, good address (.ok code) := by
  rw [List.forall₂_map_left_iff] at settled
  obtain ⟨answers, all⟩ := exists_map_some (settled.imp fun _ _ ⟨_, answered, _⟩ => answered ▸ rfl)
  rw [all, List.forall₂_map_right_iff, List.forall₂_iff_zip] at settled
  obtain ⟨many, owed⟩ := settled
  refine ⟨.ofOutcomes (keys.zip answers), ?_, fun key member address wellFormed unfailing => ?_⟩
  · unfold batchResult?
    rw [mapM_id_eq_some.mpr all, places]
    rfl
  · rw [← List.map_fst_zip many.le] at member
    obtain ⟨⟨key, outcome⟩, answered, rfl⟩ := List.mem_map.mp member
    simp only at wellFormed unfailing
    obtain ⟨_, same, owed⟩ := owed answered
    cases same
    unfold Cache.Owed at owed
    rw [wellFormed] at owed
    cases outcome with
    | ok code => exact ⟨code, owed⟩
    | error failure =>
      obtain ⟨text, rfl⟩ := exists_text (Option.isSome_of_eq_some wellFormed)
      have filed : (.text text, failure.filed) ∈ (BatchResult.ofOutcomes (keys.zip answers)).failures :=
        List.mem_filterMap.mpr ⟨_, answered, rfl⟩
      have missed := List.find?_eq_none.mp (Option.map_eq_none_iff.mp unfailing) _ filed
      exact absurd (beq_self_eq_true text) missed

/-! ### The rounds of a batch -/

section

variable [Source σ] {errand : ContractRisk.Errand Number} {origin : Origin} {name : String} {source : σ}
  {analyzer : Analyzer σ α} {keys : List Value} {course : List (Deed Number)}

/-- **The first round asks for every address that is wanted, once**, and each that does not fail is in the
cache afterwards. -/
theorem firstRound_rests (within : Cache.Within errand.toScope (analyzer.cacheOf name))
    (empty : (analyzer.cacheOf name).entries = []) (idle : (analyzer.cacheOf name).flights = [])
    (new : errand.stock = []) (wanted : (keys.filterMap Address.normalize?).Perm errand.wanted)
    (room : Traffic.slots errand.limits.concurrency ≠ some 0)
    (passive : ∀ deed ∈ course, deed.passive = true)
    (timely : ∀ time ∈ Deed.readings (analyzer.cacheOf name).now course, time ∈ errand.times)
    (ended : (analyzer.firstRound name source course keys).parked = []) :
    let traffic := analyzer.firstRound name source course keys
    traffic.asked.Perm errand.wanted ∧ traffic.cache.flights = [] ∧
      Cache.Within errand.toScope traffic.cache ∧
      traffic.cache.now = course.foldl Deed.timeAfter (analyzer.cacheOf name).now ∧
      ∃ result, traffic.batchResult? 0 = some result ∧ ∀ key ∈ keys, ∀ address,
        Address.normalize? key = some address → failureFor result.failures key = none →
          address ∈ traffic.cache.addresses := by
  let valid := keys.filter fun key => (Address.normalize? key).isSome
  have usual := usual_open errand.limits.timeout valid
  have counts (address : String) : (valid.map fun key => some (⟨key, none⟩ : Request)).countP
      (errand.lacks address) = errand.wanted.count address := by
    rw [countP_lacks new, wanted.count_eq]
  have unheld (address : String) :
      address ∈ (analyzer.cacheOf name).addresses ↔ address ∈ errand.stock := by
    unfold Cache.addresses
    rw [empty, new]
    exact Iff.rfl
  have slots : Traffic.slots (analyzer.cacheOf name).limits.concurrency ≠ some 0 := by
    rw [within.limits]
    exact room
  obtain ⟨round, now, done⟩ :=
    Traffic.Round.through within idle unheld usual counts slots source passive timely
  obtain ⟨asked, flights, within, settled, places⟩ := round.rests done ended
  rw [List.map_map] at places
  obtain ⟨result, known, codes⟩ := Settled.batch settled (places.trans (List.map_id _))
  refine ⟨asked, flights, within, now, result, known, fun key member address wellFormed unfailing => ?_⟩
  have inside : key ∈ valid := List.mem_filter.mpr ⟨member, Option.isSome_of_eq_some wellFormed⟩
  obtain ⟨code, stocks⟩ := codes key inside address wellFormed unfailing
  exact stocks rfl

/-- A source that holds no reply back leaves none open. -/
theorem forthcoming_ended (forthcoming : Forthcoming source) (tidy : (analyzer.cacheOf name).Tidy)
    (limits : (analyzer.cacheOf name).limits = limits analyzer.setup.settings)
    (idle : (analyzer.cacheOf name).flights = []) (keys : List Value) :
    (analyzer.firstRound name source [] keys).parked = [] := by
  let timeout := some analyzer.setup.settings.analysisTimeout
  have resting : Traffic.Resting (fun _ _ => True) timeout (analyzer.cacheOf name) :=
    ⟨tidy, ⟨fun _ _ => trivial, fun _ _ _ _ => trivial⟩, congrArg Cache.Limits.timeout limits, idle⟩
  let valid := keys.filter fun key => (Address.normalize? key).isSome
  let slots := Traffic.slots (analyzer.cacheOf name).limits.concurrency
  have faithful : Traffic.Faithful (fun _ _ => True) timeout False Forthcoming
      ({ cache := analyzer.cacheOf name, source } : Traffic σ Number) := resting.faithful forthcoming
  have started := faithful.start resting.tidy slots (usual_open timeout valid)
  have orderly : Traffic.Orderly (({ cache := analyzer.cacheOf name, source } : Traffic σ Number).start slots
      (valid.map fun key => some ⟨key, none⟩)) := resting.orderly.start slots _
  have nothing (kept : Deed Number → Prop) : ∀ deed ∈ ([] : List (Deed Number)), kept deed :=
    fun _ member => nomatch member
  obtain ⟨orderly', rests, settled, _⟩ :=
    started.through Forthcoming.honest orderly (nothing _) (nothing _)
  exact (settled.no_flights orderly' rfl rests False.elim).2

/-- **What the first round has come to**: the source was called for each address that is wanted, once, and
the cache has the code of each address that did not fail. -/
structure Prefetched (errand : ContractRisk.Errand Number) (origin : Origin) (name : String) (keys : List Value)
    (course : List (Deed Number)) (before : Analyzer σ α) (failures : List (Value × Failure))
    (after : Analyzer σ α) : Prop where
  setup : after.setup = before.setup
  source : ∃ source, after.resolve origin = .ok (name, source)
  asked : ∃ calls : List String, calls.Perm errand.wanted ∧
    after.asked = before.asked ++ calls.map (name, ·)
  within : Cache.Within errand.toScope (after.cacheOf name)
  idle : (after.cacheOf name).flights = []
  held : ∀ key ∈ keys, ∀ address, Address.normalize? key = some address →
    failureFor failures key = none → address ∈ (after.cacheOf name).addresses
  /-- Time passes only if the round takes place. -/
  now : (∃ key ∈ keys, (Address.normalize? key).isSome = true) →
    (after.cacheOf name).now = course.foldl Deed.timeAfter (before.cacheOf name).now

/-- **The first round of a batch calls the source once for each valid address**, whatever it replies. -/
theorem prefetchThrough_calls (resolved : analyzer.resolve origin = .ok (name, source))
    (within : Cache.Within errand.toScope (analyzer.cacheOf name))
    (empty : (analyzer.cacheOf name).entries = []) (idle : (analyzer.cacheOf name).flights = [])
    (new : errand.stock = []) (wanted : (keys.filterMap Address.normalize?).Perm errand.wanted)
    (room : Traffic.slots errand.limits.concurrency ≠ some 0)
    (passive : ∀ deed ∈ course, deed.passive = true)
    (timely : ∀ time ∈ Deed.readings (analyzer.cacheOf name).now course, time ∈ errand.times)
    (ended : (analyzer.firstRound name source course keys).parked = []) :
    Prefetched errand origin name keys course analyzer
      (analyzer.prefetchThrough course keys origin).1 (analyzer.prefetchThrough course keys origin).2 := by
  unfold prefetchThrough
  rw [resolved]
  simp only
  split
  · -- without a valid address the round does not take place
    rename_i nobody
    have invalid : ∀ key ∈ keys, ¬ (Address.normalize? key).isSome = true :=
      List.filter_eq_nil_iff.mp (List.isEmpty_iff.mp nobody)
    have nothing : errand.wanted = [] := by
      rw [List.filterMap_eq_nil_iff.mpr fun key member =>
        Option.not_isSome_iff_eq_none.mp (invalid key member)] at wanted
      exact wanted.symm.eq_nil
    refine ⟨rfl, ⟨source, resolved⟩, ⟨[], ?_, (List.append_nil _).symm⟩, within, idle, ?_, ?_⟩
    · rw [nothing]
    · exact fun key member address wellFormed _ =>
        absurd (Option.isSome_of_eq_some wellFormed) (invalid key member)
    · exact fun ⟨key, member, valid⟩ => absurd valid (invalid key member)
  · obtain ⟨asked, flights, within, now, result, known, held⟩ :=
      firstRound_rests within empty idle new wanted room passive timely ended
    generalize analyzer.firstRound name source course keys = traffic at *
    generalize visited : (analyzer.visit name source).2.passes course = passed
    obtain ⟨setup, before⟩ := (analyzer.visit name source).2.passes_frame course
    rw [visited] at setup before
    have left := passed.cacheOf_leave name traffic
    rw [known]
    refine ⟨setup, ⟨traffic.source, passed.resolve_leave (resolve_name resolved) traffic⟩,
      ⟨traffic.asked, asked, congrArg (· ++ traffic.asked.map (name, ·)) before⟩, ?_, ?_, ?_, ?_⟩
    · exact left ▸ within
    · exact left ▸ flights
    · exact left ▸ held
    · exact fun _ => (congrArg Cache.now left).trans now

theorem fetchEachThrough_setup (analyzer : Analyzer σ α) (course : List (Deed Number)) (origin : Origin)
    (keys : List Value) (asks : Value → Bool) :
    (analyzer.fetchEachThrough course origin keys asks).2.setup = analyzer.setup := by
  unfold fetchEachThrough
  split
  · rfl
  · split
    · rfl
    · exact (passes_frame _ course).1

/-- **The second round calls the source for nothing** that is in the cache. -/
theorem fetchEachThrough_calls (resolved : analyzer.resolve origin = .ok (name, source))
    (within : Cache.Within errand.toScope (analyzer.cacheOf name))
    (idle : (analyzer.cacheOf name).flights = [])
    (limits : errand.limits = limits analyzer.setup.settings)
    (room : Traffic.slots analyzer.setup.settings.batchConcurrency ≠ some 0) {asks : Value → Bool}
    (held : ∀ key ∈ keys, asks key = true → ∃ address ∈ (analyzer.cacheOf name).addresses,
      Address.normalize? key = some address)
    (passive : ∀ deed ∈ course, deed.passive = true)
    (timely : keys.any asks = true →
      ∀ time ∈ Deed.readings (analyzer.cacheOf name).now course, time ∈ errand.times) :
    (analyzer.fetchEachThrough course origin keys asks).2.asked = analyzer.asked := by
  unfold fetchEachThrough
  rw [resolved]
  simp only
  split
  · rfl
  · rename_i somebody
    rw [Bool.not_eq_true', Bool.not_eq_false] at somebody
    let limit := some analyzer.setup.settings.analysisTimeout
    have usual : ∀ request ∈ keys.map fun key => if asks key then some (⟨key, limit⟩ : Request) else none,
        Usual errand.limits.timeout request := by
      rw [limits]
      exact usual_stated _ keys asks
    -- whoever asks has an entry
    let second : ContractRisk.Errand Number :=
      { errand with
        stock := (analyzer.cacheOf name).addresses
        wanted := []
        once := List.nodup_nil
        inside := List.nil_subset _ }
    have counts (address : String) : (keys.map fun key =>
        if asks key then some (⟨key, limit⟩ : Request) else none).countP (second.lacks address) = 0 :=
      countP_held held limit address
    have within' : Cache.Within second.toScope (analyzer.cacheOf name) := within
    obtain ⟨round, _⟩ := Traffic.Round.through within' idle (fun _ => Iff.rfl) usual counts room source
      passive (timely somebody)
    have unasked := List.subset_nil.mp round.wanted
    have before := ((analyzer.visit name source).2.passes_frame course).2
    show ((analyzer.visit name source).2.passes course).asked ++ List.map _ _ = analyzer.asked
    rw [before]
    exact (congrArg (analyzer.asked ++ List.map _ ·) unasked).trans (List.append_nil _)

end

/-! ### The calls of a batch -/

section

variable [Source σ] [Add α] [Sub α] [Mul α] [Div α] [LT α] [LE α] [DecidableLT α] [DecidableLE α]
  [OfScientific α] [NatCast α] [Decimal.Rendered α]

/-- **A batch has its records, and calls its source once for each valid address**, and for nothing else.
It has no records only if an address that is not valid cannot be written; the calls are the same. -/
structure AsksOnce (analyzer : Analyzer σ α) (name : String) (values : List Value)
    (answer : Except Failure (List (Value × Analysis α)) × Analyzer σ α) : Prop where
  asked : ∃ calls : List String, calls.Perm (values.filterMap Address.normalize?) ∧
    answer.2.asked = analyzer.asked ++ calls.map (name, ·)
  answered : (∃ records, answer.1 = .ok records) ∨
    ∃ value ∈ values, Address.normalize? value = none ∧
      ∃ failure, analyzer.setup.shown value = .error failure ∧ answer.1 = .error failure

/-- **Both rounds together** call the source for what is wanted: whatever the second one asks for did not
fail in the first, and is in the cache. -/
theorem analyzeBatchThrough_calls {errand : ContractRisk.Errand Number} {analyzer : Analyzer σ α}
    {given : Origin}
    {name : String} {source : σ} {values : List Value} {first second : List (Deed Number)}
    (resolved : analyzer.resolve (analyzer.setup.originFor given) = .ok (name, source))
    (within : Cache.Within errand.toScope (analyzer.cacheOf name))
    (empty : (analyzer.cacheOf name).entries = []) (idle : (analyzer.cacheOf name).flights = [])
    (hashable : ∀ value ∈ values, value.isKey = true) (new : errand.stock = [])
    (wanted : (values.filterMap Address.normalize?).Perm errand.wanted)
    (limits : errand.limits = limits analyzer.setup.settings)
    (room : Traffic.slots analyzer.setup.settings.batchConcurrency ≠ some 0)
    (passive : ∀ deed ∈ first ++ second, deed.passive = true)
    (timely : ∀ time ∈ Deed.readings (analyzer.cacheOf name).now (first ++ second), time ∈ errand.times)
    (ended : (analyzer.firstRound name source first (Value.distinct values)).parked = []) (abis : Value) :
    analyzer.AsksOnce name values (analyzer.analyzeBatchThrough first second (.list values) abis given) := by
  obtain ⟨former, latter⟩ := Deed.readings_append (analyzer.cacheOf name).now first second
  have distinct := distinct_wanted (wanted.nodup_iff.mpr errand.once)
  obtain ⟨inOrder, _⟩ := distinct_onePerKey values
  have fetched := prefetchThrough_calls resolved within empty idle new (distinct.trans wanted)
    (by rwa [limits]) (fun deed member => passive deed (List.mem_append_left _ member))
    (fun time member => timely time (former member)) ended
  unfold analyzeBatchThrough
  rw [distinctKeys_list hashable]
  simp only
  generalize Value.distinct values = keys at *
  generalize analyzer.prefetchThrough first keys (analyzer.setup.originFor given) = prefetched at *
  obtain ⟨failures, next⟩ := prefetched
  simp only at fetched ⊢
  obtain ⟨other, reached⟩ := fetched.source
  obtain ⟨calls, once, asked⟩ := fetched.asked
  -- an address that asks again did not fail
  have held : ∀ key ∈ keys, (next.setup.asksForCode key && (failureFor failures key).isNone) = true →
      ∃ address ∈ (next.cacheOf name).addresses, Address.normalize? key = some address := by
    intro key member asks
    obtain ⟨asks, unfailing⟩ := Bool.and_eq_true_iff.mp asks
    unfold Setup.asksForCode at asks
    obtain ⟨address, wellFormed⟩ := Option.isSome_iff_exists.mp
      (Bool.and_eq_true_iff.mp (Bool.and_eq_true_iff.mp asks).1).1
    exact ⟨address, fetched.held key member address wellFormed (Option.isNone_iff_eq_none.mp unfailing),
      wellFormed⟩
  have again := fetchEachThrough_calls reached fetched.within fetched.idle (by rw [fetched.setup, limits])
    (by rwa [fetched.setup]) held (fun deed member => passive deed (List.mem_append_right _ member)) ?_
  · refine ⟨⟨calls, once.trans wanted.symm,
      (asked_extract _ _).trans ((asked_countEach _ _).trans (again.trans asked))⟩, ?_⟩
    refine (extract_cases _ _).imp id ?_
    rintro ⟨entry, inside, malformed, failure, unwritten, ended⟩
    obtain ⟨pair, member, rfl⟩ := List.mem_map.mp inside
    rw [setup_countEach, fetchEachThrough_setup, fetched.setup] at unwritten
    exact ⟨pair.1, inOrder.subset (List.of_mem_zip member).1, malformed, failure, unwritten, ended⟩
  · intro somebody time member
    obtain ⟨key, inside, asks⟩ := List.any_eq_true.mp somebody
    obtain ⟨address, _, wellFormed⟩ := held key inside asks
    rw [fetched.now ⟨key, inside, Option.isSome_of_eq_some wellFormed⟩] at member
    exact timely time (latter member)

/-- The same for a cache that is empty: all the addresses of a batch are wanted, if there is room for them. -/
theorem analyzeBatchThrough_asksOnce {analyzer : Analyzer σ α} {draft : Draft}
    (checked : draft.check = .ok analyzer.setup.settings) {given : Origin} {name : String} {source : σ}
    (resolved : analyzer.resolve (analyzer.setup.originFor given) = .ok (name, source))
    (lived : Lived analyzer.setup.settings (analyzer.cacheOf name))
    (empty : (analyzer.cacheOf name).entries = []) (idle : (analyzer.cacheOf name).flights = [])
    {values : List Value} (hashable : ∀ value ∈ values, value.isKey = true)
    (apart : (values.filterMap Address.normalize?).Nodup)
    (fits : ¬ analyzer.setup.settings.cacheSize <
      (((values.filterMap Address.normalize?).length : Nat) : Number))
    {first second : List (Deed Number)} (passive : ∀ deed ∈ first ++ second, deed.passive = true)
    (timely : Deed.Timely analyzer.setup.settings.cacheLifetime (analyzer.cacheOf name).now (first ++ second))
    (ended : (analyzer.firstRound name source first (Value.distinct values)).parked = []) (abis : Value) :
    analyzer.AsksOnce name values (analyzer.analyzeBatchThrough first second (.list values) abis given) := by
  obtain ⟨time, roomy, slot⟩ := (Draft.check_eq_ok.mp checked).2.positive
  let errand : ContractRisk.Errand Number :=
    { limits := limits analyzer.setup.settings
      addresses := values.filterMap Address.normalize?
      times := Deed.readings (analyzer.cacheOf name).now (first ++ second)
      fits := fun _ => Number.fits_fewer roomy fits
      young := timely
      stock := []
      wanted := values.filterMap Address.normalize?
      once := apart
      inside := List.Subset.refl _
      time := by
        rintro ⟨span, same, past⟩
        cases same
        exact time past }
  have within : Cache.Within errand.toScope (analyzer.cacheOf name) :=
    .empty lived.tidy lived.bounds (Deed.now_mem_readings _ _) empty idle
  exact analyzeBatchThrough_calls resolved within empty idle hashable rfl (.refl _) rfl
    (Traffic.slots_ne_zero slot) passive (fun _ => id) ended abis

/-- **A batch calls the source once for each valid address**, also for those that fail, and for nothing
else, if the cache of the source is empty and has room for the addresses, no two of them are one in normal
form, and no entry grows too old meanwhile. That is so whatever the analyzer has gone through, whatever the
source replies and in which order, as long as all replies of the first round come; without deeds in its
course they do if the source holds none back. -/
theorem analyzeBatch_asksOnce {start : Analyzer σ α} (new : start.shelf = []) {draft : Draft}
    (checked : draft.check = .ok start.setup.settings) (tasks : List Task) {given : Origin} {name : String}
    {source : σ} (resolved : (start.after tasks).resolve (start.setup.originFor given) = .ok (name, source))
    (empty : ((start.after tasks).cacheOf name).entries = [])
    (idle : ((start.after tasks).cacheOf name).flights = []) {values : List Value}
    (hashable : ∀ value ∈ values, value.isKey = true)
    (apart : (values.filterMap Address.normalize?).Nodup)
    (fits : ¬ start.setup.settings.cacheSize <
      (((values.filterMap Address.normalize?).length : Nat) : Number)) (abis : Value) :
    let analyzer := start.after tasks
    let lifetime := start.setup.settings.cacheLifetime
    let now := (analyzer.cacheOf name).now
    (∀ first second : List (Deed Number), (∀ deed ∈ first ++ second, deed.passive = true) →
      Deed.Timely lifetime now (first ++ second) →
      (analyzer.firstRound name source first (Value.distinct values)).parked = [] →
      analyzer.AsksOnce name values
        (analyzer.analyzeBatchThrough first second (.list values) abis given)) ∧
    (Forthcoming source → ¬ lifetime ≤ now - now →
      analyzer.AsksOnce name values (analyzer.analyzeBatch (.list values) abis given)) := by
  intro analyzer lifetime now
  have holds := after_lived start new tasks
  have setup : analyzer.setup = start.setup := holds.setup
  have kept := lived_kept (σ := σ) start.setup.settings
  obtain ⟨⟨cache, lived, visited⟩, _⟩ := Holds.visit kept.toStays holds name source
  have own : cache = analyzer.cacheOf name := (congrArg Traffic.cache visited).symm
  subst own
  unfold lifetime
  rw [← setup] at checked resolved fits lived ⊢
  refine ⟨fun first second passive timely ended => ?_, fun forthcoming timely => ?_⟩
  · exact analyzeBatchThrough_asksOnce checked resolved lived empty idle hashable apart fits passive timely
      ended abis
  · have nothing : ∀ deed ∈ ([] ++ [] : List (Deed Number)), deed.passive = true :=
      fun _ member => nomatch member
    rw [← analyzeBatchThrough_nil]
    refine analyzeBatchThrough_asksOnce checked resolved lived empty idle hashable apart fits nothing ?_
      (forthcoming_ended forthcoming lived.tidy lived.bounds idle _) abis
    intro early first late second
    rw [List.mem_singleton.mp first, List.mem_singleton.mp second]
    exact timely

end

/-- A node that holds its reply back at one address, and has a code at every other. -/
def busyNode : Replay where
  queues := [("0x1111111111111111111111111111111111111111", [.held])]
  others := [.reply (.returned (.text "0x00"))]

/-- The usual parts and that node. -/
def withBusyNode : Analyzer Replay Float := { withQuietNode with sources := [("node", busyNode)] }

/-- The settings that they are used with. -/
def usualDraft : Draft where
  analysisTimeout := .int 10

/-- Two addresses, something malformed, and something that is no text. -/
def scatteredAddresses : List Value := [
  .text "0x1234567890ABCDEF1234567890abcdef12345678",
  .text "0x1111111111111111111111111111111111111111",
  .text "nowhere", .int 1]

/-- What is held back is let go as a failure, after some time. -/
def lateFailure : List (Deed Number) := [
  .turns 30, .outOfTurn (.advance 5),
  .letGo "0x1111111111111111111111111111111111111111" (.raised (.refused .noSource))]

theorem analyzeBatch_asksOnce_scattered :
    let busy := withBusyNode.after [.preload (.list [.text "nowhere"]) .absent, .clear]
    let quiet := withQuietNode.after [.preload (.list scatteredAddresses) .absent, .clear]
    withBusyNode.shelf = [] ∧ withQuietNode.shelf = [] ∧
      usualDraft.check = .ok withBusyNode.setup.settings ∧
      usualDraft.check = .ok withQuietNode.setup.settings ∧
      (busy.cacheOf "node").entries = [] ∧ (quiet.cacheOf "node").entries = [] ∧
      (∀ value ∈ scatteredAddresses, value.isKey = true) ∧
      (scatteredAddresses.filterMap Address.normalize?).Nodup ∧
      busy.AsksOnce "node" scatteredAddresses
        (busy.analyzeBatchThrough lateFailure [.outOfTurn (.advance 5)] (.list scatteredAddresses) .null
          .absent) ∧
      quiet.AsksOnce "node" scatteredAddresses
        (quiet.analyzeBatch (.list scatteredAddresses) .null .absent) := by
  intro busy quiet
  have hashable : ∀ value ∈ scatteredAddresses, value.isKey = true := by decide
  have apart : (scatteredAddresses.filterMap Address.normalize?).Nodup := by decide
  have fits : ¬ usualSettings.cacheSize <
      (((scatteredAddresses.filterMap Address.normalize?).length : Nat) : Number) := by decide
  have new : withBusyNode.shelf = [] := rfl
  have new' : withQuietNode.shelf = [] := rfl
  have checked : usualDraft.check = .ok withBusyNode.setup.settings := rfl
  have checked' : usualDraft.check = .ok withQuietNode.setup.settings := rfl
  refine ⟨new, new', checked, checked', rfl, rfl, hashable, apart, ?_, ?_⟩
  · have resolved : busy.resolve (withBusyNode.setup.originFor .absent) = .ok ("node", busyNode) := rfl
    have passive : ∀ deed ∈ lateFailure ++ [.outOfTurn (.advance 5)], deed.passive = true := by decide
    obtain ⟨through, _⟩ :=
      analyzeBatch_asksOnce new checked _ resolved rfl rfl hashable apart fits .null
    exact through lateFailure _ passive (by decide) rfl
  · let replied := (Source.ask quietNode "0x1234567890abcdef1234567890abcdef12345678").2
    let asked := (Source.ask replied "0x1111111111111111111111111111111111111111").2
    have resolved : quiet.resolve (withQuietNode.setup.originFor .absent) = .ok ("node", asked) := rfl
    have forthcoming : Forthcoming asked := (quietNode_steady.forthcoming.ask _).ask _
    obtain ⟨_, plain⟩ :=
      analyzeBatch_asksOnce new' checked' _ resolved rfl rfl hashable apart fits .null
    exact plain forthcoming (by decide)

end Analyzer

end ContractRisk
