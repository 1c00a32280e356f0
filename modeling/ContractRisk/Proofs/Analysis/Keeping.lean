/-
**An analyzer keeps its caches by source.**

An analyzer holds its caches under the names of their sources. It does with them what a keeper does with
the sources themselves (`Keeps`), as long as no two sources go by one name. So what holds of the calls of
a keeper, whatever was given to it before, holds of the caches of an analyzer.

* `visit_keeps`: a visit at the cache of a source is a call of the keeper;
* `leave_keeps`: what is left afterwards is what has happened at that cache;
* `fetch_keeps`: so a fetch is a call, after which something has happened at the cache that was called.
-/

import ContractRisk.Analyzer
import ContractRisk.Proofs.Cache.Keeper

namespace ContractRisk.Analyzer

open Keeper (Move Living Remembered sourceOf)

variable {σ α : Type}

/-- An analyzer holds the caches of a keeper, under the names of their sources. -/
def Keeps (name : Reference → String) (analyzer : Analyzer σ α) (keeper : Keeper Number) : Prop :=
  analyzer.shelf = keeper.shelf.map fun entry => (name (sourceOf entry), entry.2.cache)

section

variable {objects : Objects} {limits : Cache.Limits Number} {before : List (Move Number)}
  {given : Reference} {now : Number} {name : Reference → String} {analyzer : Analyzer σ α}
  {held : Held Number} {next : Keeper Number}

/-- **A visit at the cache of a source is a call of the keeper.** -/
theorem visit_keeps (known : Remembered objects limits before)
    (living : Living objects (Keeper.after objects limits before) given) (apart : Function.Injective name)
    (keeps : analyzer.Keeps name (Keeper.after objects limits before))
    (called : (Keeper.after objects limits before).cacheFor objects given analyzer.fresh = (.ok held, next))
    (source : σ) :
    (analyzer.visit (name given) source).1 = { cache := held.cache, source } ∧
      (analyzer.visit (name given) source).2.Keeps name next := by
  have used := Keeper.cacheFor_use apart (·.cache) known.sound living (fun _ => rfl) called
  unfold visit Keeps
  rw [keeps, used]
  exact ⟨rfl, rfl⟩

/-- The cache of a source that was just given is the last on the shelf, and the only one of that source and
of that number. -/
theorem called_last (known : Remembered objects limits before)
    (living : Living objects (Keeper.after objects limits before) given)
    (called : (Keeper.after objects limits before).cacheFor objects given { limits, now } = (.ok held, next)) :
    ∃ others, next.shelf = others ++ [(given.key objects, held)] ∧
      sourceOf (given.key objects, held) = given ∧
      ∀ entry ∈ others, sourceOf entry ≠ given ∧ entry.2.number ≠ held.number := by
  have all := known.call living now
  have reached : Keeper.after objects limits (.call given now :: before) = next := congrArg Prod.snd called
  -- the last entry, whether it was found or made
  obtain ⟨others, split, own⟩ : ∃ others, next.shelf = others ++ [(given.key objects, held)] ∧
      sourceOf (given.key objects, held) = given := by
    obtain ⟨found, there, eq⟩ | ⟨failure, -, -, eq⟩ | ⟨fetcher, -, -, eq⟩ :=
      Keeper.cacheFor_cases objects (Keeper.after objects limits before) given { limits, now }
    · cases called.symm.trans eq
      have own := Keeper.label_eq_iff known.sound living _ (mem_of_lookup there)
      exact ⟨_, rfl, own.mpr rfl⟩
    · cases called.symm.trans eq
    · cases called.symm.trans eq
      obtain ⟨others, split, _⟩ := Shelf.put_eq_concat (Keeper.after objects limits before).shelf
        (given.key objects) ((Keeper.after objects limits before).new given fetcher { limits, now })
      exact ⟨others, split, Keeper.source_of given⟩
  have tracked := all.tracked
  rw [reached] at tracked
  have split' : Keeper.labels next =
      (others.map fun entry => (sourceOf entry, entry.2.number)) ++ [(given, held.number)] := by
    unfold Keeper.labels
    rw [split, List.map_append, List.map_singleton, own]
  have apart := tracked.apart
  rw [split', List.map_append, List.map_map] at apart
  have other : ∀ entry ∈ others, sourceOf entry ≠ given := fun entry member same =>
    (List.nodup_append.mp apart).2.2 _ (List.mem_map_of_mem member) given List.mem_cons_self same
  refine ⟨others, split, own, fun entry member => ⟨other entry member, fun same => ?_⟩⟩
  -- no cache was ever used for two sources
  have used : ∀ label ∈ Keeper.labels next, label ∈ Keeper.uses objects limits (.call given now :: before) :=
    fun label inside => tracked.subset inside
  rw [split'] at used
  have first := used _ (List.mem_append_left _ (List.mem_map_of_mem member))
  have second := used _ (List.mem_append_right _ List.mem_cons_self)
  exact other entry member (all.apart _ first _ second same)

/-- **What is left at the cache of a source is what has happened there.** -/
theorem leave_keeps (known : Remembered objects limits before)
    (living : Living objects (Keeper.after objects limits before) given)
    (called : (Keeper.after objects limits before).cacheFor objects given { limits, now } = (.ok held, next))
    (apart : Function.Injective name) (keeps : analyzer.Keeps name next) (traffic : Traffic σ Number) :
    (analyzer.leave (name given) traffic).Keeps name (next.update held.number traffic.cache) := by
  obtain ⟨others, split, own, alone⟩ := called_last known living called
  have room : others.length < Shelf.capacity := by
    have bounded := (known.call living now).tracked.bounded
    have reached : Keeper.after objects limits (.call given now :: before) = next := congrArg Prod.snd called
    unfold Keeper.labels at bounded
    rw [reached, List.length_map, split, List.length_append] at bounded
    exact bounded
  have names : ∀ entry ∈ others.map fun entry => (name (sourceOf entry), entry.2.cache),
      entry.1 ≠ name given := by
    intro entry member
    obtain ⟨other, inside, rfl⟩ := List.mem_map.mp member
    exact apart.ne (alone other inside).1
  unfold Keeps at keeps
  rw [split, List.map_append, List.map_singleton, own] at keeps
  unfold leave Keeps Keeper.update
  rw [keeps, Shelf.put_last names (by rwa [List.length_map]), split, List.map_append, List.map_append,
    List.map_map]
  refine congrArg₂ (· ++ ·) (List.map_congr_left fun entry member => ?_) ?_
  · simp [sourceOf, (alone entry member).2]
  · have same : sourceOf (given.key objects, { held with cache := traffic.cache }) = given := own
    simp [same]

/-- **What is fetched through an analyzer is fetched through a call of the keeper**, and nothing else happens
to its caches. -/
theorem fetch_keeps [Source σ] (known : Remembered objects limits before)
    (living : Living objects (Keeper.after objects limits before) given) (apart : Function.Injective name)
    (usable : Keeper.Usable objects given) (sized : Analyzer.limits analyzer.setup.settings = limits)
    (keeps : analyzer.Keeps name (Keeper.after objects limits before)) {origin : Origin} {source : σ}
    (resolved : analyzer.resolve origin = .ok (name given, source)) (address : Value) :
    ∃ number cache, (analyzer.fetch origin address).2.Keeps name
      (Keeper.after objects limits (.work number cache :: .call given analyzer.now :: before)) := by
  subst sized
  obtain ⟨held, next, called⟩ :=
    usable.called (Keeper.after objects (Analyzer.limits analyzer.setup.settings) before) analyzer.fresh
  obtain ⟨traffic, same⟩ : ∃ traffic, (analyzer.fetch origin address).2 =
      (analyzer.visit (name given) source).2.leave (name given) traffic := by
    unfold fetch
    rw [resolved]
    exact ⟨_, rfl⟩
  have visited := (visit_keeps known living apart keeps called source).2
  have left := leave_keeps known living called apart visited traffic
  rw [← same] at left
  refine ⟨held.number, traffic.cache, ?_⟩
  have reached : Keeper.after objects (Analyzer.limits analyzer.setup.settings)
      (.call given analyzer.now :: before) = next := congrArg Prod.snd called
  rw [← reached] at left
  exact left

end

end ContractRisk.Analyzer
