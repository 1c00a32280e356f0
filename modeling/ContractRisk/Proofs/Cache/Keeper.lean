/-
**One cache for each source.**

Whatever is given to the keeper, one source after the other, and whatever happens at the caches in the
meantime, it holds the caches of the sources that were used last. Sources are told apart by the places of
their objects; since the keeper holds these objects, and two objects never lie at one place at a time
(`Living`), none is taken for another.

* `label_eq_iff`: what is found by the key of a source is the cache of that source;
* `cacheFor_use`, `cacheFor_labels`: so a source that is given is used on a shelf of what is held, or of
  the numbers of the caches, by source;
* `remembered`: that shelf holds what was used last, and no cache was ever used for two sources;
* `cacheFor_recency`: what a call comes to, after any run (`Served`).
-/

import ContractRisk.Cache.Keeper
import ContractRisk.Proofs.Cache.Shelf

namespace ContractRisk.Keeper

variable {τ : Type}

/-! ### Which source a cache is held for -/

/-- The source with an object and perhaps a function. -/
def source (owner : Nat) : Option Nat → Reference
  | none => .object owner
  | some function => .method owner function

/-- The source of an entry, by its object and the function of its key. -/
def sourceOf (entry : (Nat × Option Nat) × Held τ) : Reference := source entry.2.owner entry.1.2

/-- The numbers of the caches by source. -/
def labels (keeper : Keeper τ) : Shelf Reference Nat :=
  keeper.shelf.map fun entry => (sourceOf entry, entry.2.number)

/-- A source is given while the objects that are held exist, so that none of them lies at its place but
its own. -/
def Living (objects : Objects) (keeper : Keeper τ) (given : Reference) : Prop :=
  ∀ entry ∈ keeper.shelf, objects.place entry.2.owner = objects.place given.owner →
    entry.2.owner = given.owner

instance (objects : Objects) (keeper : Keeper τ) (given : Reference) :
    Decidable (Living objects keeper given) :=
  inferInstanceAs (Decidable (∀ entry ∈ keeper.shelf, _ → _))

/-- **What is true of a keeper**: every cache is found by its source and calls it, and is one of those
that were made. -/
structure Sound (objects : Objects) (keeper : Keeper τ) : Prop where
  keyed : ∀ entry ∈ keeper.shelf, entry.1 = (sourceOf entry).key objects
  fetches : ∀ entry ∈ keeper.shelf, (sourceOf entry).fetcher objects = .ok entry.2.fetcher
  made : ∀ entry ∈ keeper.shelf, entry.2.number < keeper.made

section

variable {objects : Objects} {keeper : Keeper τ} {given : Reference}

theorem source_owner (owner : Nat) (function? : Option Nat) : (source owner function?).owner = owner := by
  cases function? <;> rfl

theorem source_of (given : Reference) : source given.owner given.function? = given := by
  cases given <;> rfl

/-- **What is found by the key of a source is the cache of that source.** -/
theorem label_eq_iff (sound : Sound objects keeper) (living : Living objects keeper given) :
    ∀ entry ∈ keeper.shelf, sourceOf entry = given ↔ entry.1 = given.key objects := by
  intro entry member
  have keyed := sound.keyed entry member
  constructor
  · rintro rfl
    exact keyed
  · intro found
    obtain ⟨place, function⟩ := Prod.ext_iff.mp (keyed.symm.trans found)
    have owner : entry.2.owner = given.owner := by
      refine living entry member (Eq.trans ?_ place)
      exact congrArg objects.place (source_owner _ _).symm
    unfold sourceOf
    rw [owner, found]
    exact source_of given

/-- The same for the shelf as a whole. -/
theorem labels_lookup (sound : Sound objects keeper) (living : Living objects keeper given) :
    (labels keeper).lookup given = (keeper.shelf.lookup (given.key objects)).map (·.number) :=
  Shelf.lookup_rename (label_eq_iff sound living)

/-! ### What a call does -/

/-- The cache that is made for a source. -/
def new (keeper : Keeper τ) (given : Reference) (fetcher : Fetcher) (fresh : Cache τ) : Held τ :=
  { owner := given.owner, number := keeper.made, fetcher, cache := fresh }

/-- **A call finds the cache of the source, finds that it is no source, or makes a cache.** -/
theorem cacheFor_cases (objects : Objects) (keeper : Keeper τ) (given : Reference) (fresh : Cache τ) :
    (∃ held, keeper.shelf.lookup (given.key objects) = some held ∧
      keeper.cacheFor objects given fresh =
        (.ok held, { keeper with shelf := keeper.shelf.touch (given.key objects) held })) ∨
    (∃ failure, keeper.shelf.lookup (given.key objects) = none ∧ given.fetcher objects = .error failure ∧
      keeper.cacheFor objects given fresh = (.error failure, keeper)) ∨
    ∃ fetcher, keeper.shelf.lookup (given.key objects) = none ∧ given.fetcher objects = .ok fetcher ∧
      keeper.cacheFor objects given fresh =
        (.ok (keeper.new given fetcher fresh),
          { shelf := keeper.shelf.put (given.key objects) (keeper.new given fetcher fresh),
            made := keeper.made + 1 }) := by
  cases found : keeper.shelf.lookup (given.key objects) with
  | some held => exact .inl ⟨held, rfl, by simp only [cacheFor, found]⟩
  | none =>
    cases usable : given.fetcher objects with
    | error failure => exact .inr (.inl ⟨failure, rfl, rfl, by simp only [cacheFor, found, usable]⟩)
    | ok fetcher => exact .inr (.inr ⟨fetcher, rfl, rfl, by simp only [cacheFor, found, usable, new]⟩)

/-- **A source that is given is used on the shelf**, under whatever the sources go by there, and with
whatever is held of their caches. -/
theorem cacheFor_use {γ δ : Type} [DecidableEq γ] {label : Reference → γ} (apart : Function.Injective label)
    (content : Held τ → δ) (sound : Sound objects keeper) (living : Living objects keeper given)
    {fresh : Cache τ} {held : Held τ} {after : Keeper τ} {initial : δ}
    (new : ∀ fetcher, content (keeper.new given fetcher fresh) = initial)
    (called : keeper.cacheFor objects given fresh = (.ok held, after)) :
    Shelf.use (keeper.shelf.map fun entry => (label (sourceOf entry), content entry.2)) (label given)
      initial = (content held, after.shelf.map fun entry => (label (sourceOf entry), content entry.2)) := by
  have same : ∀ entry ∈ keeper.shelf, label (sourceOf entry) = label given ↔
      entry.1 = given.key objects := by
    intro entry member
    rw [apart.eq_iff]
    exact label_eq_iff sound living entry member
  have looked := @Shelf.lookup_rename _ _ _ _ _ (fun entry => label (sourceOf entry)) content _ _ _ _ _ _
    same
  unfold Shelf.use
  obtain ⟨found, there, eq⟩ | ⟨failure, -, -, eq⟩ | ⟨fetcher, missing, -, eq⟩ :=
    cacheFor_cases objects keeper given fresh
  · cases called.symm.trans eq
    rw [looked, there]
    have own : label (sourceOf (given.key objects, held)) = label given :=
      (same _ (mem_of_lookup there)).mpr rfl
    have touched := @Shelf.touch_rename _ _ _ _ δ _ _ (fun entry => label (sourceOf entry)) content _ _
      same _ own
    exact congrArg (content held, ·) touched.symm
  · cases called.symm.trans eq
  · cases called.symm.trans eq
    rw [looked, missing, ← new fetcher]
    have own : label (sourceOf (given.key objects, keeper.new given fetcher fresh)) = label given :=
      congrArg label (source_of given)
    have put := @Shelf.put_rename _ _ _ _ δ _ _ (fun entry => label (sourceOf entry)) content _ _ same _ own
    exact congrArg (content (keeper.new given fetcher fresh), ·) put.symm

/-- In particular on the shelf of the numbers, where the next number stands for a new cache. -/
theorem cacheFor_labels (sound : Sound objects keeper) (living : Living objects keeper given)
    {fresh : Cache τ} {held : Held τ} {after : Keeper τ}
    (called : keeper.cacheFor objects given fresh = (.ok held, after)) :
    (labels keeper).use given keeper.made = (held.number, labels after) :=
  cacheFor_use Function.injective_id (·.number) sound living (fun _ => rfl) called

/-- What is held is known by the source that was given for it. -/
theorem Sound.cacheFor (sound : Sound objects keeper) (given : Reference) (fresh : Cache τ) :
    Sound objects (keeper.cacheFor objects given fresh).2 := by
  obtain ⟨held, there, eq⟩ | ⟨failure, -, -, eq⟩ | ⟨fetcher, -, usable, eq⟩ :=
    cacheFor_cases objects keeper given fresh
  · rw [eq]
    -- nothing comes to the shelf that was not there
    have before : ∀ entry ∈ keeper.shelf.touch (given.key objects) held, entry ∈ keeper.shelf := by
      intro entry member
      rcases Shelf.mem_touch member with inside | rfl
      · exact inside
      · exact mem_of_lookup there
    exact {
      keyed entry member := sound.keyed entry (before entry member)
      fetches entry member := sound.fetches entry (before entry member)
      made entry member := sound.made entry (before entry member) }
  · rw [eq]
    exact sound
  · rw [eq]
    have own : sourceOf (given.key objects, keeper.new given fetcher fresh) = given := source_of given
    constructor
    all_goals
      intro entry member
      rcases Shelf.mem_put member with inside | rfl
    · exact sound.keyed entry inside
    · rw [own]
    · exact sound.fetches entry inside
    · rw [own]
      exact usable
    · exact Nat.lt_succ_of_lt (sound.made entry inside)
    · exact Nat.lt_succ_self _

end

/-! ### Runs -/

/-- What happens from one moment to the next: a source is given at some time, or a cache changes. -/
inductive Move (τ : Type) where
  | call (given : Reference) (now : τ)
  | work (number : Nat) (cache : Cache τ)

section

variable (objects : Objects) (limits : Cache.Limits τ)

/-- The keeper after moves, the latest of them first. -/
def after : List (Move τ) → Keeper τ
  | [] => {}
  | .call given now :: before => ((after before).cacheFor objects given { limits, now }).2
  | .work number cache :: before => (after before).update number cache

/-- The sources that were used in moves, with the numbers of the caches that they had, the latest first.
What is no source is not used. -/
def uses : List (Move τ) → List (Reference × Nat)
  | [] => []
  | .call given now :: before =>
    match ((after objects limits before).cacheFor objects given { limits, now }).1 with
    | .ok held => (given, held.number) :: uses before
    | .error _ => uses before
  | .work _ _ :: before => uses before

/-- Moves in which every source is given while the objects that are held exist. -/
def Possible : List (Move τ) → Prop
  | [] => True
  | .call given _ :: before => Possible before ∧ Living objects (after objects limits before) given
  | .work _ _ :: before => Possible before

instance possibleDecidable : (moves : List (Move τ)) → Decidable (Possible objects limits moves)
  | [] => inferInstanceAs (Decidable True)
  | .call given _ :: before =>
    have := possibleDecidable before
    inferInstanceAs (Decidable (Possible objects limits before ∧
      Living objects (after objects limits before) given))
  | .work _ _ :: before => possibleDecidable before

/-- **What is remembered**: the caches that were used last, and none that was used for two sources. -/
structure Remembered (moves : List (Move τ)) : Prop where
  sound : Sound objects (after objects limits moves)
  tracked : Shelf.Tracked (uses objects limits moves) (labels (after objects limits moves))
  made : ∀ use ∈ uses objects limits moves, use.2 < (after objects limits moves).made
  apart : ∀ first ∈ uses objects limits moves, ∀ second ∈ uses objects limits moves,
    first.2 = second.2 → first.1 = second.1

end

section

variable {objects : Objects} {limits : Cache.Limits τ} {before moves : List (Move τ)} {given : Reference}
  {now : τ}

/-- What happens at a cache changes nothing else. -/
theorem labels_update (keeper : Keeper τ) (number : Nat) (cache : Cache τ) :
    labels (keeper.update number cache) = labels keeper := by
  unfold labels update sourceOf
  rw [List.map_map]
  refine List.map_congr_left fun entry _ => ?_
  by_cases own : entry.2.number = number
  · simp [own]
  · simp [own]

theorem Sound.update {keeper : Keeper τ} (sound : Sound objects keeper) (number : Nat) (cache : Cache τ) :
    Sound objects (keeper.update number cache) := by
  have same : ∀ entry ∈ (keeper.update number cache).shelf, ∃ other ∈ keeper.shelf,
      entry.1 = other.1 ∧ sourceOf entry = sourceOf other ∧ entry.2.fetcher = other.2.fetcher ∧
        entry.2.number = other.2.number := by
    intro entry member
    obtain ⟨other, inside, rfl⟩ := List.mem_map.mp member
    refine ⟨other, inside, rfl, ?_⟩
    unfold sourceOf
    by_cases own : other.2.number = number
    · simp [own]
    · simp [own]
  constructor
  all_goals
    intro entry member
    obtain ⟨other, inside, key, source, fetcher, made⟩ := same entry member
  · rw [key, source]
    exact sound.keyed other inside
  · rw [source, fetcher]
    exact sound.fetches other inside
  · rw [made]
    exact sound.made other inside

/-- The number of a source that is found on the shelf is that of its last use. -/
theorem Remembered.lookup_eq_some (known : Remembered objects limits before)
    (living : Living objects (after objects limits before) given) {number : Nat} :
    ((after objects limits before).shelf.lookup (given.key objects)).map (·.number) = some number ↔
      (uses objects limits before).lookup given = some number ∧
        (Shelf.othersSince given (uses objects limits before)).dedup.length < Shelf.capacity := by
  rw [← labels_lookup known.sound living]
  exact known.tracked.lookup_eq_some

/-- A source that is given is used, if it is one. -/
theorem uses_call (objects : Objects) (limits : Cache.Limits τ) (before : List (Move τ))
    (given : Reference) (now : τ) :
    uses objects limits (.call given now :: before) =
      match ((after objects limits before).cacheFor objects given { limits, now }).1 with
      | .ok held => (given, held.number) :: uses objects limits before
      | .error _ => uses objects limits before :=
  rfl

/-- A use with a number that was never used for another source is remembered. -/
theorem Remembered.used (known : Remembered objects limits before)
    (living : Living objects (after objects limits before) given) {held : Held τ} {next : Keeper τ}
    (called : (after objects limits before).cacheFor objects given { limits, now } = (.ok held, next))
    (made : held.number < next.made) (more : (after objects limits before).made ≤ next.made)
    (own : ∀ use ∈ uses objects limits before, use.2 = held.number → use.1 = given) :
    Remembered objects limits (.call given now :: before) := by
  have used : uses objects limits (.call given now :: before) =
      (given, held.number) :: uses objects limits before := by
    rw [uses_call, called]
  have reached : after objects limits (.call given now :: before) = next := congrArg Prod.snd called
  have tracked := known.tracked.use given (after objects limits before).made
  rw [cacheFor_labels known.sound living called] at tracked
  constructor
  case sound => exact known.sound.cacheFor given { limits, now }
  case tracked => rwa [used, reached]
  case made =>
    rw [used, reached]
    refine List.forall_mem_cons.mpr ⟨made, fun use member => ?_⟩
    exact Nat.lt_of_lt_of_le (known.made use member) more
  case apart =>
    rw [used]
    intro first one second two same
    rcases List.mem_cons.mp one with rfl | one
    · rcases List.mem_cons.mp two with rfl | two
      · rfl
      · exact (own second two same.symm).symm
    · rcases List.mem_cons.mp two with rfl | two
      · exact own first one same
      · exact known.apart first one second two same

/-- **A call is remembered**: the number that it used is the one of the last use, or one that was never
used. -/
theorem Remembered.call (known : Remembered objects limits before)
    (living : Living objects (after objects limits before) given) (now : τ) :
    Remembered objects limits (.call given now :: before) := by
  obtain ⟨held, there, eq⟩ | ⟨failure, -, -, eq⟩ | ⟨fetcher, missing, -, eq⟩ :=
    cacheFor_cases objects (after objects limits before) given { limits, now }
  · have again := (known.lookup_eq_some living).mp (congrArg (Option.map (·.number)) there)
    have member := mem_of_lookup again.1
    exact known.used living eq (known.made _ member) (Nat.le_refl _)
      fun use inside same => known.apart use inside _ member same
  · -- what is no source leaves everything as it is
    have used : uses objects limits (.call given now :: before) = uses objects limits before := by
      rw [uses_call, eq]
    have reached : after objects limits (.call given now :: before) = after objects limits before :=
      congrArg Prod.snd eq
    constructor
    case sound => exact reached ▸ known.sound
    case tracked => exact used ▸ reached ▸ known.tracked
    case made => exact used ▸ reached ▸ known.made
    case apart => exact used ▸ known.apart
  · refine known.used living eq (Nat.lt_succ_self _) (Nat.le_succ _) fun use inside same => ?_
    exact absurd same (Nat.ne_of_lt (known.made use inside))

/-- **Whatever happens is remembered.** -/
theorem remembered (possible : Possible objects limits moves) : Remembered objects limits moves := by
  induction moves with
  | nil =>
    exact {
      sound := ⟨fun _ member => (nomatch member), fun _ member => (nomatch member),
        fun _ member => (nomatch member)⟩
      tracked := Shelf.tracked_nil
      made := fun _ member => (nomatch member)
      apart := fun _ member => (nomatch member) }
  | cons move before ih =>
    cases move with
    | call given now => exact (ih possible.1).call possible.2 now
    | work number cache =>
      have known := ih possible
      exact {
        sound := known.sound.update number cache
        tracked := by
          have tracked := known.tracked
          rw [← labels_update _ number cache] at tracked
          exact tracked
        made := known.made
        apart := known.apart }

/-! ### What a call comes to -/

/-- What is given fetches codes or can be called. -/
def Usable (objects : Objects) (given : Reference) : Prop :=
  ∀ number kind, given = .object number → objects.ability number ≠ .neither kind

theorem Usable.fetcher (usable : Usable objects given) : ∃ fetcher, given.fetcher objects = .ok fetcher := by
  cases given with
  | method number function => exact ⟨_, rfl⟩
  | object number =>
    cases able : objects.ability number with
    | fetches => exact ⟨.method number, by simp only [Reference.fetcher, able]⟩
    | callable => exact ⟨.given (.object number), by simp only [Reference.fetcher, able]⟩
    | neither kind => exact absurd able (usable number kind rfl)

/-- What is usable has a cache. -/
theorem Usable.called (usable : Usable objects given) (keeper : Keeper τ) (fresh : Cache τ) :
    ∃ held next, keeper.cacheFor objects given fresh = (.ok held, next) := by
  obtain ⟨fetcher, found⟩ := usable.fetcher
  obtain ⟨held, -, eq⟩ | ⟨failure, -, refused, -⟩ | ⟨fetcher, -, -, eq⟩ :=
    cacheFor_cases objects keeper given fresh
  · exact ⟨held, _, eq⟩
  · cases found.symm.trans refused
  · exact ⟨_, _, eq⟩

theorem fetcher_neither {number : Nat} {kind : String} (neither : objects.ability number = .neither kind) :
    (Reference.object number).fetcher objects = .error (.refused (.notSource kind)) := by
  simp only [Reference.fetcher, neither]

/-- **What a source gets**: a cache that calls it, which is the one of its last use unless as many other
sources as there are places were used since, and else one that is empty and new. -/
structure Served (objects : Objects) (limits : Cache.Limits τ) (before : List (Move τ)) (given : Reference)
    (now : τ) (held : Held τ) : Prop where
  own : given.fetcher objects = .ok held.fetcher
  again : ∀ number, (uses objects limits before).lookup given = some number →
    (Shelf.othersSince given (uses objects limits before)).dedup.length < Shelf.capacity →
      held.number = number
  anew : (∀ number, (uses objects limits before).lookup given = some number →
    Shelf.capacity ≤ (Shelf.othersSince given (uses objects limits before)).dedup.length) →
      held.cache = { limits, now } ∧ ∀ use ∈ uses objects limits before, use.2 ≠ held.number

/-- **A source is served** with the cache that is found for it, or with the one that is made. -/
theorem Remembered.served (known : Remembered objects limits before)
    (living : Living objects (after objects limits before) given) {held : Held τ} {next : Keeper τ}
    (called : (after objects limits before).cacheFor objects given { limits, now } = (.ok held, next)) :
    Served objects limits before given now held := by
  have last := @known.lookup_eq_some _ _ _ _ _ living
  obtain ⟨found, there, eq⟩ | ⟨failure, -, -, eq⟩ | ⟨fetcher, missing, found, eq⟩ :=
    cacheFor_cases objects (after objects limits before) given { limits, now }
  · cases called.symm.trans eq
    have member := mem_of_lookup there
    rw [there] at last
    constructor
    case own =>
      have fetches := known.sound.fetches _ member
      rwa [(label_eq_iff known.sound living _ member).mpr rfl] at fetches
    case again =>
      intro number used lately
      exact Option.some.inj (last.mpr ⟨used, lately⟩)
    case anew =>
      intro long
      have used := last.mp rfl
      exact absurd used.2 (Nat.not_lt.mpr (long _ used.1))
  · cases called.symm.trans eq
  · cases called.symm.trans eq
    rw [missing] at last
    constructor
    case own => exact found
    case again =>
      intro number used lately
      cases last.mpr ⟨used, lately⟩
    case anew => exact fun _ => ⟨rfl, fun use member => Nat.ne_of_lt (known.made use member)⟩

/-- **After any run, a source gets the cache that it had if that was used lately, and else a new one**.
There are never more caches than places, no cache is used for two sources, and what is no source is
refused and changes nothing. -/
theorem cacheFor_recency (objects : Objects) (limits : Cache.Limits τ) (before : List (Move τ))
    (given : Reference) (now : τ) (possible : Possible objects limits (.call given now :: before)) :
    (after objects limits (.call given now :: before)).shelf.length ≤ Shelf.capacity ∧
    (∀ first ∈ uses objects limits (.call given now :: before),
      ∀ second ∈ uses objects limits (.call given now :: before),
        first.2 = second.2 → first.1 = second.1) ∧
    (Usable objects given →
      ∃ held, ((after objects limits before).cacheFor objects given { limits, now }).1 = .ok held ∧
        Served objects limits before given now held) ∧
    ∀ number kind, given = .object number → objects.ability number = .neither kind →
      (after objects limits before).cacheFor objects given { limits, now } =
        (.error (.refused (.notSource kind)), after objects limits before) := by
  obtain ⟨earlier, living⟩ := possible
  have known := remembered earlier
  have all := known.call living now
  refine ⟨?_, all.apart, ?_, ?_⟩
  · have bounded := all.tracked.bounded
    unfold labels at bounded
    rwa [List.length_map] at bounded
  · intro usable
    obtain ⟨held, next, called⟩ := usable.called (after objects limits before) { limits, now }
    exact ⟨held, congrArg Prod.fst called, known.served living called⟩
  · rintro number kind rfl neither
    have refused := fetcher_neither neither
    obtain ⟨held, -, eq⟩ | ⟨failure, -, found, eq⟩ | ⟨fetcher, -, found, -⟩ :=
      cacheFor_cases objects (after objects limits before) (.object number) { limits, now }
    · -- what is held can be called
      cases (known.served living eq).own.symm.trans refused
    · cases found.symm.trans refused
      exact eq
    · cases found.symm.trans refused

end

/-! ### A place that is taken over -/

/-- Eighteen places, where later objects follow earlier ones. -/
def rooms : Objects where
  place number := number % 18
  ability _ := .fetches

/-- Seventeen sources, one after the other. -/
def crowd : List (Move Nat) :=
  [16, 15, 14, 13, 12, 11, 10, 9, 8, 7, 6, 5, 4, 3, 2, 1, 0].map fun number => .call (.object number) number

/-- Room for one code, for a minute. -/
def narrow : Cache.Limits Nat where
  lifetime := 60
  size := .int 1
  concurrency := .int 1
  timeout := none

/-- An object that has come to the place of the first source, which is no longer held, gets a cache of its
own. -/
theorem cacheFor_recency_successor :
    Possible rooms narrow (.call (.object 18) 17 :: crowd) ∧
    (Reference.object 18).key rooms = (Reference.object 0).key rooms ∧
    ∃ held, ((after rooms narrow crowd).cacheFor rooms (.object 18) { limits := narrow, now := 17 }).1 =
        .ok held ∧
      held.cache = { limits := narrow, now := 17 } ∧ ∀ use ∈ uses rooms narrow crowd, use.2 ≠ held.number := by
  have possible : Possible rooms narrow (.call (.object 18) 17 :: crowd) := by decide
  refine ⟨possible, rfl, ?_⟩
  obtain ⟨-, -, serves, -⟩ := cacheFor_recency rooms narrow crowd (.object 18) 17 possible
  obtain ⟨held, eq, served⟩ := serves fun _ _ _ able => (nomatch able)
  have missing : (uses rooms narrow crowd).lookup (.object 18) = none := by decide
  exact ⟨held, eq, served.anew fun number used => (nomatch missing.symm.trans used)⟩

end ContractRisk.Keeper
