/-
**What an analyzer has gone through.**

Between two questions an analyzer may have answered others, analyzed and warmed up many addresses, let
time pass and dropped entries (`Task`). Its caches are used in one way only: a call or a batch of calls
at the cache of a source, until all is at rest (`Episode`). So whatever holds of a fresh cache and of
the sources and is kept by episodes, by time and by clearances holds after every list of tasks
(`after_holds`); in particular every cache on the shelf has come out of an empty one by events
(`after_lived`).
-/

import ContractRisk.Analyzer
import ContractRisk.Proofs.Attempt
import ContractRisk.Proofs.Cache.Shelf
import ContractRisk.Proofs.Cache.Turns

namespace ContractRisk

variable {σ α : Type}

/-- One thing that an analyzer is asked to do. -/
inductive Task where
  /-- An address is analyzed. -/
  | analyze (question : Question)
  /-- Many addresses are analyzed. -/
  | analyzeBatch (addresses abis : Value) (origin : Origin)
  /-- The cache of a source is warmed. -/
  | preload (addresses : Value) (origin : Origin)
  /-- Time passes. -/
  | advance (span : Number)
  /-- All entries are dropped. -/
  | clear

namespace Analyzer

section

variable [Source σ] [Add α] [Sub α] [Mul α] [Div α] [LT α] [LE α] [DecidableLT α]
  [DecidableLE α] [OfScientific α] [NatCast α] [Decimal.Rendered α]

/-- The analyzer after a task. -/
def perform (analyzer : Analyzer σ α) : Task → Analyzer σ α
  | .analyze question => (analyzer.analyze question).2
  | .analyzeBatch addresses abis origin => (analyzer.analyzeBatch addresses abis origin).2
  | .preload addresses origin => (analyzer.preload addresses origin).2
  | .advance span => analyzer.advance span
  | .clear => analyzer.clear

/-- The analyzer after tasks, the first of them first. -/
def after (analyzer : Analyzer σ α) (tasks : List Task) : Analyzer σ α := tasks.foldl perform analyzer

end

/-! ### Caches in use -/

/-- What goes on at the cache of a source from one moment of rest to the next: one call, or a batch of
calls, all of them within the time limit of the settings. -/
inductive Episode [Source σ] (settings : Settings) (before : Traffic σ Number) :
    Traffic σ Number → Prop
  | fetch (address : Value) :
      Episode settings before (before.fetch ⟨address, some settings.analysisTimeout⟩).1
  | batch (slots : Option Nat) (requests : List (Option Request))
      (usual : ∀ request, some request ∈ requests →
        request.limit = none ∨ request.limit = some settings.analysisTimeout) :
      Episode settings before (before.start slots requests).settle

/-- What holds of a fresh cache of an analyzer with such settings, and stays when time passes and entries
are dropped. -/
structure Stays (settings : Settings) (held : String → Cache Number → Prop) : Prop where
  fresh : ∀ name now, held name { limits := limits settings, now }
  advance : ∀ name cache span, held name cache → held name (cache.advance span)
  clear : ∀ name cache, held name cache → held name cache.clear

/-- **What is kept by everything that happens at the caches** of an analyzer with such settings. -/
structure Kept [Source σ] (settings : Settings) (held : String → Cache Number → Prop)
    (kind : String → σ → Prop) : Prop extends Stays settings held where
  episode : ∀ name cache source after, held name cache → kind name source →
    Episode settings { cache, source } after → held name after.cache ∧ kind name after.source

/-- What holds of the caches on the shelf and of the sources; a source is there if its name is `known`. -/
structure Holds (setup : Setup α) (known : String → Bool) (held : String → Cache Number → Prop)
    (kind : String → σ → Prop) (analyzer : Analyzer σ α) : Prop where
  setup : analyzer.setup = setup
  names : ∀ name, (analyzer.sources.lookup name).isSome = known name
  shelf : ∀ entry ∈ analyzer.shelf, held entry.1 entry.2
  sources : ∀ entry ∈ analyzer.sources, kind entry.1 entry.2

section

variable {setup : Setup α} {known : String → Bool} {held : String → Cache Number → Prop}
  {kind : String → σ → Prop} {analyzer : Analyzer σ α}

/-- Only a source that is known is found. -/
theorem Holds.resolve (holds : Holds setup known held kind analyzer) {origin : Origin} {name : String}
    {source : σ} (found : analyzer.resolve origin = .ok (name, source)) :
    known name = true ∧ kind name source := by
  obtain ⟨other, _, found⟩ := Attempt.bind_eq_ok.mp found
  split at found
  · rename_i inside
    cases found
    refine ⟨?_, holds.sources _ (mem_of_lookup inside)⟩
    rw [← holds.names, inside]
    rfl
  · cases found

/-- A cache that comes back to the shelf with its source. -/
theorem Holds.leave (holds : Holds setup known held kind analyzer) {name : String}
    (named : known name = true) {traffic : Traffic σ Number} (cache : held name traffic.cache)
    (source : kind name traffic.source) :
    Holds setup known held kind (analyzer.leave name traffic) where
  setup := holds.setup
  names := by
    intro other
    show (((name, traffic.source) :: analyzer.sources.filter (·.1 ≠ name)).lookup other).isSome = _
    rw [List.lookup_cons]
    by_cases same : other = name
    · rw [same, beq_self_eq_true, named]
      rfl
    · rw [beq_false_of_ne same, ← holds.names other]
      exact congrArg Option.isSome (lookup_without analyzer.sources same)
  shelf := by
    intro entry member
    rcases Shelf.mem_put member with before | same
    · exact holds.shelf entry before
    · rw [same]
      exact cache
  sources := by
    intro entry member
    rcases List.mem_cons.mp member with same | before
    · rw [same]
      exact source
    · exact holds.sources entry (List.mem_of_mem_filter before)

section

variable (stays : Stays setup.settings held)

include stays

/-- The cache of a source is one from the shelf, or a fresh one. -/
theorem Holds.visit (holds : Holds setup known held kind analyzer) (name : String) (source : σ) :
    (∃ cache, held name cache ∧ (analyzer.visit name source).1 = { cache, source }) ∧
      Holds setup known held kind (analyzer.visit name source).2 := by
  obtain ⟨own, others⟩ := @Shelf.mem_use _ _ _ analyzer.shelf name analyzer.fresh
  have cache : held name (analyzer.shelf.use name analyzer.fresh).1 := by
    rcases own with there | fresh
    · exact holds.shelf _ there
    · rw [fresh]
      unfold Analyzer.fresh
      rw [holds.setup]
      exact stays.fresh name analyzer.now
  refine ⟨⟨_, cache, rfl⟩, holds.setup, holds.names, ?_, holds.sources⟩
  intro entry member
  rcases others entry member with before | same
  · exact holds.shelf entry before
  · rw [same]
    exact cache

theorem Holds.advance (holds : Holds setup known held kind analyzer) (span : Number) :
    Holds setup known held kind (analyzer.advance span) := by
  refine ⟨holds.setup, holds.names, fun entry member => ?_, holds.sources⟩
  obtain ⟨before, inside, rfl⟩ := List.mem_map.mp member
  exact stays.advance _ _ _ (holds.shelf before inside)

theorem Holds.clear (holds : Holds setup known held kind analyzer) :
    Holds setup known held kind analyzer.clear := by
  refine ⟨holds.setup, holds.names, fun entry member => ?_, holds.sources⟩
  obtain ⟨before, inside, rfl⟩ := List.mem_map.mp member
  exact stays.clear _ _ (holds.shelf before inside)

end

variable [Source σ] (kept : Kept setup.settings held kind)

include kept

/-- **An episode at the cache of a source** leaves an analyzer as sound as before. -/
theorem Holds.episode (holds : Holds setup known held kind analyzer) {name : String} {source : σ}
    (named : known name = true) (own : kind name source) {after : Traffic σ Number}
    (episode : Episode setup.settings (analyzer.visit name source).1 after) :
    Holds setup known held kind ((analyzer.visit name source).2.leave name after) := by
  obtain ⟨⟨cache, lawful, visited⟩, holds'⟩ := holds.visit kept.toStays name source
  rw [visited] at episode
  obtain ⟨cache', source'⟩ := kept.episode name cache source after lawful own episode
  exact holds'.leave named cache' source'

theorem Holds.fetch (holds : Holds setup known held kind analyzer) (origin : Origin) (address : Value) :
    Holds setup known held kind (analyzer.fetch origin address).2 := by
  unfold Analyzer.fetch
  cases found : analyzer.resolve origin with
  | error failure => exact holds
  | ok pair =>
    obtain ⟨name, source⟩ := pair
    obtain ⟨named, own⟩ := holds.resolve found
    refine holds.episode kept named own ?_
    show Episode _ _ ((analyzer.visit name source).1.fetch ⟨address, some
      analyzer.setup.settings.analysisTimeout⟩).1
    rw [holds.setup]
    exact .fetch address

theorem Holds.fetchBatch (holds : Holds setup known held kind analyzer) {name : String} {source : σ}
    (named : known name = true) (own : kind name source) (addresses : List Value) :
    Holds setup known held kind (analyzer.fetchBatch name source addresses).2 := by
  refine holds.episode kept named own (.batch _ _ ?_)
  intro request member
  obtain ⟨address, _, same⟩ := List.mem_map.mp member
  cases same
  exact .inl rfl

theorem Holds.preload (holds : Holds setup known held kind analyzer) (addresses : Value)
    (origin : Origin) : Holds setup known held kind (analyzer.preload addresses origin).2 := by
  unfold Analyzer.preload
  simp only
  split
  · exact holds
  · cases found : analyzer.resolve (analyzer.setup.originFor origin) with
    | error failure => exact holds
    | ok pair =>
      obtain ⟨name, source⟩ := pair
      simp only
      split
      · exact (holds.visit kept.toStays name source).2
      · obtain ⟨named, own⟩ := holds.resolve found
        exact holds.fetchBatch kept named own _

theorem Holds.prefetch (holds : Holds setup known held kind analyzer) (addresses : List Value)
    (origin : Origin) : Holds setup known held kind (analyzer.prefetch addresses origin).2 := by
  unfold Analyzer.prefetch
  cases found : analyzer.resolve origin with
  | error failure => exact holds
  | ok pair =>
    obtain ⟨name, source⟩ := pair
    simp only
    split
    · exact holds
    · obtain ⟨named, own⟩ := holds.resolve found
      obtain ⟨setup, names, shelf, sources⟩ := holds.fetchBatch kept named own _
      exact ⟨setup, names, shelf, sources⟩

theorem Holds.fetchEach (holds : Holds setup known held kind analyzer) (origin : Origin)
    (addresses : List Value) (asks : Value → Bool) :
    Holds setup known held kind (analyzer.fetchEach origin addresses asks).2 := by
  unfold Analyzer.fetchEach
  cases found : analyzer.resolve origin with
  | error failure => exact holds
  | ok pair =>
    obtain ⟨name, source⟩ := pair
    simp only
    split
    · exact holds
    · obtain ⟨named, own⟩ := holds.resolve found
      refine holds.episode kept named own (.batch _ _ ?_)
      intro request member
      obtain ⟨address, _, same⟩ := List.mem_map.mp member
      split at same
      · cases same
        refine .inr ?_
        show some (analyzer.visit name source).2.setup.settings.analysisTimeout = _
        rw [(holds.visit kept.toStays name source).2.setup]
      · cases same

omit [Source σ] kept in
/-- Counting records touches no cache. -/
theorem Holds.count (holds : Holds setup known held kind analyzer) (record : Analysis α) :
    Holds setup known held kind (analyzer.count record) :=
  ⟨holds.setup, holds.names, holds.shelf, holds.sources⟩

omit [Source σ] kept in
theorem Holds.countIf (holds : Holds setup known held kind analyzer)
    (ending : Except Failure (Analysis α)) : Holds setup known held kind (analyzer.countIf ending) := by
  cases ending with
  | ok record => exact holds.count record
  | error failure => exact holds

omit [Source σ] kept in
theorem Holds.countEach (holds : Holds setup known held kind analyzer)
    (endings : List (Value × Except Failure (Analysis α))) :
    Holds setup known held kind
      (endings.foldl (fun analyzer entry => analyzer.countIf entry.2) analyzer) := by
  induction endings generalizing analyzer with
  | nil => exact holds
  | cons entry rest ih => exact ih (holds.countIf entry.2)

omit [Source σ] kept in
/-- The records of a batch are made without any cache. -/
theorem Holds.extract (holds : Holds setup known held kind analyzer)
    (endings : List (Value × Except Failure (Analysis α))) :
    Holds setup known held kind (analyzer.extract endings).2 := by
  induction endings generalizing analyzer with
  | nil => exact holds
  | cons entry rest ih =>
    obtain ⟨address, ending⟩ := entry
    cases ending with
    | ok record => exact ih holds
    | error failure =>
      unfold Analyzer.extract
      split
      · exact holds
      · exact ih (holds.count _)

variable [Add α] [Sub α] [Mul α] [Div α] [LT α] [LE α] [DecidableLT α] [DecidableLE α]
  [OfScientific α] [NatCast α] [Decimal.Rendered α]

theorem Holds.analyze (holds : Holds setup known held kind analyzer) (question : Question) :
    Holds setup known held kind (analyzer.analyze question).2 := by
  unfold Analyzer.analyze
  split
  · exact holds
  · simp only
    split
    · exact (holds.fetch kept _ _).countIf _
    · exact holds.countIf _

theorem Holds.analyzeBatch (holds : Holds setup known held kind analyzer) (addresses abis : Value)
    (origin : Origin) : Holds setup known held kind (analyzer.analyzeBatch addresses abis origin).2 := by
  unfold Analyzer.analyzeBatch
  split
  · exact holds
  · exact (((holds.prefetch kept _ _).fetchEach kept _ _ _).countEach _).extract _

theorem Holds.perform (holds : Holds setup known held kind analyzer) (task : Task) :
    Holds setup known held kind (analyzer.perform task) := by
  cases task with
  | analyze question => exact holds.analyze kept question
  | analyzeBatch addresses abis origin => exact holds.analyzeBatch kept addresses abis origin
  | preload addresses origin => exact holds.preload kept addresses origin
  | advance span => exact holds.advance kept.toStays span
  | clear => exact holds.clear kept.toStays

/-- **What episodes keep holds after every list of tasks.** -/
theorem after_holds (holds : Holds setup known held kind analyzer) (tasks : List Task) :
    Holds setup known held kind (analyzer.after tasks) := by
  induction tasks generalizing analyzer with
  | nil => exact holds
  | cons task rest ih => exact ih (holds.perform kept task)

end

/-! ### What is always the case -/

theorem kept_trivial [Source σ] (settings : Settings) :
    Kept settings (fun _ _ => True) (fun _ (_ : σ) => True) where
  fresh := fun _ _ => trivial
  episode := fun _ _ _ _ _ _ _ => ⟨trivial, trivial⟩
  advance := fun _ _ _ _ => trivial
  clear := fun _ _ _ => trivial

theorem holds_trivial (analyzer : Analyzer σ α) :
    Holds analyzer.setup (fun name => (analyzer.sources.lookup name).isSome) (fun _ _ => True)
      (fun _ _ => True) analyzer where
  setup := rfl
  names := fun _ => rfl
  shelf := fun _ _ => trivial
  sources := fun _ _ => trivial

/-! ### The life of a cache -/

/-- A cache that has come out of an empty one by events. -/
def Lived (settings : Settings) (cache : Cache Number) : Prop :=
  ∃ now events, cache = ({ limits := limits settings, now } : Cache Number).run events

theorem Lived.reaches {settings : Settings} {before after : Cache Number}
    (lived : Lived settings before) (reaches : before.Reaches after) : Lived settings after := by
  obtain ⟨now, events, rfl⟩ := lived
  obtain ⟨more, rfl⟩ := reaches
  exact ⟨now, events ++ more, (Cache.run_append _ events more).symm⟩

theorem Lived.tidy {settings : Settings} {cache : Cache Number} (lived : Lived settings cache) :
    cache.Tidy := by
  obtain ⟨now, events, rfl⟩ := lived
  exact Cache.run_tidy (Cache.tidy_empty _ _) events

theorem Lived.bounds {settings : Settings} {cache : Cache Number} (lived : Lived settings cache) :
    cache.limits = limits settings := by
  obtain ⟨now, events, rfl⟩ := lived
  exact Cache.Reaches.limits ⟨events, rfl⟩

variable [Source σ]

theorem lived_kept (settings : Settings) :
    Kept settings (fun _ cache => Lived settings cache) (fun _ (_ : σ) => True) where
  fresh := fun _ now => ⟨now, [], rfl⟩
  episode := by
    intro name cache source after lived _ episode
    cases episode with
    | fetch address => exact ⟨lived.reaches (Traffic.fetch_proceeds _ _).reaches, trivial⟩
    | batch slots requests =>
      exact ⟨lived.reaches ((Traffic.start_proceeds _ slots requests).trans
        (Traffic.settle_proceeds _)).reaches, trivial⟩
  advance := fun _ cache span lived => lived.reaches (.step cache (.advance span))
  clear := fun _ cache lived => lived.reaches (.step cache .clear)

variable [Add α] [Sub α] [Mul α] [Div α] [LT α] [LE α] [DecidableLT α] [DecidableLE α]
  [OfScientific α] [NatCast α] [Decimal.Rendered α]

/-- **Every cache of an analyzer has come out of an empty one by events**, whatever the analyzer has
gone through. -/
theorem after_lived (analyzer : Analyzer σ α) (new : analyzer.shelf = []) (tasks : List Task) :
    Holds analyzer.setup (fun name => (analyzer.sources.lookup name).isSome)
      (fun _ cache => Lived analyzer.setup.settings cache) (fun _ _ => True) (analyzer.after tasks) := by
  refine after_holds (lived_kept analyzer.setup.settings)
    ⟨rfl, fun _ => rfl, ?_, fun _ _ => trivial⟩ tasks
  rw [new]
  exact fun _ member => nomatch member

end Analyzer

end ContractRisk
