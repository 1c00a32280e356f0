/-
**What a list of threats answers.**

A list is made of seeds and keeps the normal form of each, once (`mem_foldl_add`, `nodup_foldl_add`).
It is asked with the lower case of a text, which is a normal form in two cases (`Address.lower_eq_iff`):
the text is an address, or it is one but for a capital `X` in its prefix.

* `AnswersFor` says what follows for the three ways of asking, which agree: an address is listed if and
  only if a seed has its normal form, and malformed input is listed if and only if it is such an
  address with `0X`.
* `seeds_answersFor`: seeds that are addresses make a list that answers for them, alone or in addition
  to the addresses known from the start.
-/

import ContractRisk.Proofs.Address
import ContractRisk.Proofs.Attempt
import Mathlib.Data.Finset.Card

namespace ContractRisk

namespace ThreatList

/-! ### Collecting seeds -/

theorem mem_add {kept : List String} {address other : String} :
    other ∈ add kept address ↔ other ∈ kept ∨ other = address := by
  unfold add
  split
  · rename_i present
    have listed : address ∈ kept := by simpa using present
    constructor
    · exact .inl
    · rintro (member | rfl)
      · exact member
      · exact listed
  · rw [List.mem_append, List.mem_singleton]

theorem nodup_add {kept : List String} {address : String} (once : kept.Nodup) :
    (add kept address).Nodup := by
  unfold add
  split
  · exact once
  · rename_i absent
    rw [List.contains_iff_mem] at absent
    refine List.nodup_append.mpr ⟨once, List.nodup_singleton _, fun other member last isLast same => ?_⟩
    rw [same, List.mem_singleton.mp isLast] at member
    exact absent member

theorem mem_foldl_add {addresses kept : List String} {address : String} :
    address ∈ addresses.foldl add kept ↔ address ∈ kept ∨ address ∈ addresses := by
  induction addresses generalizing kept with
  | nil => simp
  | cons head rest ih => rw [List.foldl_cons, ih, mem_add, List.mem_cons, or_assoc]

theorem nodup_foldl_add {addresses kept : List String} (once : kept.Nodup) :
    (addresses.foldl add kept).Nodup := by
  induction addresses generalizing kept with
  | nil => exact once
  | cons head rest ih => exact ih (nodup_add once)

/-- The list that addresses make has their normal forms. -/
theorem ofSeeds_eq {seeds : List Value}
    (wellFormed : ∀ seed ∈ seeds, (Address.normalize? seed).isSome = true) :
    ofSeeds seeds = .ok ⟨(seeds.filterMap Address.normalize?).foldl add []⟩ := by
  have read : seeds.mapM seed = .ok (seeds.filterMap Address.normalize?) := by
    induction seeds with
    | nil => rfl
    | cons head rest ih =>
      obtain ⟨address, here⟩ := Option.isSome_iff_exists.mp (wellFormed head List.mem_cons_self)
      rw [List.mapM_cons, seed, here, ih fun seed member => wellFormed seed (List.mem_cons_of_mem _ member),
        List.filterMap_cons_some here]
      rfl
  rw [ofSeeds, read]
  rfl

/-- The list that addresses make has the normal form of each, once. -/
theorem ofSeeds_normals {seeds : List Value}
    (wellFormed : ∀ seed ∈ seeds, (Address.normalize? seed).isSome = true) :
    ∃ threats, ofSeeds seeds = .ok threats ∧ threats.addresses.Nodup ∧
      ∀ address, address ∈ threats.addresses ↔ ∃ seed ∈ seeds, Address.normalize? seed = some address := by
  refine ⟨_, ofSeeds_eq wellFormed, nodup_foldl_add List.nodup_nil, fun address => ?_⟩
  rw [mem_foldl_add, List.mem_filterMap]
  simp

/-- The addresses known from the start are in normal form. -/
theorem normalize?_builtIn :
    ∀ address ∈ builtIn, Address.normalize? (.text address) = some address := by
  decide +kernel

/-- Addresses can be added to those known from the start. -/
theorem withExtras_eq {extras : List Value}
    (wellFormed : ∀ extra ∈ extras, (Address.normalize? extra).isSome = true) :
    withExtras extras = ofSeeds (builtIn.map .text ++ extras) := by
  have keys : ∀ extra ∈ extras, extra.isKey = true := by
    intro extra member
    have isAddress := wellFormed extra member
    cases extra with
    | text text => rfl
    | _ => cases isAddress
  simp only [withExtras, Value.keyable_eq_ok keys, Bind.bind, Except.bind]

/-! ### Asking -/

/-- What a list of threats made of seeds answers. -/
structure AnswersFor (threats : ThreatList) (seeds : List Value) : Prop where
  /-- It is as long as the seeds have different normal forms. -/
  size : threats.size = (seeds.filterMap Address.normalize?).toFinset.card
  /-- Membership and the look-up agree. -/
  contains : ∀ given, threats.contains given = threats.isKnown given
  /-- There is a warning about what is listed. -/
  warned : ∀ given, (∃ warning, threats.warningFor given = .ok warning) ↔
    threats.isKnown given = true
  /-- An address is listed if a seed has its normal form. -/
  wellFormed : ∀ given address, Address.normalize? given = some address →
    (threats.isKnown given = true ↔ ∃ seed ∈ seeds, Address.normalize? seed = some address)
  /-- Malformed input is listed if it is such an address but for a capital `X`. -/
  malformed : ∀ given, Address.normalize? given = none →
    (threats.isKnown given = true ↔ ∃ digits address, given = .text ("0X" ++ digits) ∧
      Address.normalize? (.text ("0x" ++ digits)) = some address ∧
      ∃ seed ∈ seeds, Address.normalize? seed = some address)

/-- What is listed is a text of which the lower case is listed. -/
theorem isKnown_iff {threats : ThreatList} {given : Value} : threats.isKnown given = true ↔
    ∃ text, given = .text text ∧ Text.lower text ∈ threats.addresses := by
  cases given with
  | text text =>
    show threats.addresses.contains (Text.lower text) = true ↔ _
    simp
  | _ => simp [isKnown]

theorem contains_eq (threats : ThreatList) (given : Value) :
    threats.contains given = threats.isKnown given := by
  cases given <;> rfl

theorem warningFor_iff {threats : ThreatList} {given : Value} :
    (∃ warning, threats.warningFor given = .ok warning) ↔ threats.isKnown given = true := by
  cases given with
  | text text =>
    unfold warningFor
    by_cases listed : threats.isKnown (.text text) = true
    · simp [listed]
    · simp [listed]
  | _ =>
    refine iff_of_false ?_ Bool.false_ne_true
    rintro ⟨warning, warned⟩
    obtain ⟨shown, -, warned⟩ := Attempt.bind_eq_ok.mp warned
    cases warned

/-- A list of normal forms lists the addresses that have them, in any case of the digits and the
prefix. -/
theorem isKnown_normals {threats : ThreatList} {seeds : List Value}
    (normals : ∀ address, address ∈ threats.addresses ↔
      ∃ seed ∈ seeds, Address.normalize? seed = some address) {given : Value} :
    threats.isKnown given = true ↔
      ∃ digits address, (given = .text ("0x" ++ digits) ∨ given = .text ("0X" ++ digits)) ∧
        Address.normalize? (.text ("0x" ++ digits)) = some address ∧
        ∃ seed ∈ seeds, Address.normalize? seed = some address := by
  rw [isKnown_iff]
  constructor
  · rintro ⟨text, rfl, listed⟩
    obtain ⟨seed, member, normal⟩ := (normals _).mp listed
    obtain ⟨digits, prefixed, same⟩ := (Address.lower_eq_iff normal).mp rfl
    exact ⟨digits, _, by simpa using prefixed, same, seed, member, normal⟩
  · rintro ⟨digits, address, prefixed, normal, seeded⟩
    have listed := (normals address).mpr seeded
    have lowered {text : String} (spelled : text = "0x" ++ digits ∨ text = "0X" ++ digits) :
        Text.lower text ∈ threats.addresses :=
      (Address.lower_eq_iff normal).mpr ⟨digits, spelled, normal⟩ ▸ listed
    rcases prefixed with rfl | rfl
    · exact ⟨_, rfl, lowered (.inl rfl)⟩
    · exact ⟨_, rfl, lowered (.inr rfl)⟩

/-- A list that keeps the normal forms of seeds, each once, answers for them. -/
theorem answersFor_of_normals {threats : ThreatList} {seeds : List Value}
    (once : threats.addresses.Nodup)
    (normals : ∀ address, address ∈ threats.addresses ↔
      ∃ seed ∈ seeds, Address.normalize? seed = some address) : threats.AnswersFor seeds where
  size := by
    have same : threats.addresses.toFinset = (seeds.filterMap Address.normalize?).toFinset := by
      ext address
      rw [List.mem_toFinset, List.mem_toFinset, normals, List.mem_filterMap]
    rw [← same, List.toFinset_card_of_nodup once]
    rfl
  contains := threats.contains_eq
  warned _ := warningFor_iff
  wellFormed given address normal := by
    rw [isKnown_normals normals]
    constructor
    · rintro ⟨digits, other, rfl | rfl, normalOther, seeded⟩
      · rw [normal] at normalOther
        cases normalOther
        exact seeded
      · rw [Address.normalize?_capital] at normal
        cases normal
    · intro seeded
      obtain ⟨digits, -, -, rfl, -⟩ := Address.normalize?_eq_some.mp normal
      exact ⟨_, address, .inl rfl, normal, seeded⟩
  malformed given bad := by
    rw [isKnown_normals normals]
    constructor
    · rintro ⟨digits, address, rfl | rfl, normal, seeded⟩
      · rw [bad] at normal
        cases normal
      · exact ⟨digits, address, rfl, normal, seeded⟩
    · rintro ⟨digits, address, rfl, normal, seeded⟩
      exact ⟨digits, address, .inr rfl, normal, seeded⟩

/-- **Seeds that are addresses make a list that answers for them**, alone or with the addresses known
from the start, which make one by themselves. -/
theorem seeds_answersFor {seeds : List Value}
    (wellFormed : ∀ seed ∈ seeds, (Address.normalize? seed).isSome = true) :
    (∃ threats, ofSeeds seeds = .ok threats ∧ threats.AnswersFor seeds) ∧
    (∃ threats, withExtras seeds = .ok threats ∧
      threats.AnswersFor (builtIn.map .text ++ seeds)) ∧
    standard.AnswersFor (builtIn.map .text) := by
  have collected {seeds : List Value}
      (wellFormed : ∀ seed ∈ seeds, (Address.normalize? seed).isSome = true) :
      ∃ threats, ofSeeds seeds = .ok threats ∧ threats.AnswersFor seeds := by
    refine ⟨_, ofSeeds_eq wellFormed, answersFor_of_normals (nodup_foldl_add List.nodup_nil) ?_⟩
    intro address
    rw [mem_foldl_add, List.mem_filterMap]
    simp
  refine ⟨collected wellFormed, ?_, ?_⟩
  · rw [withExtras_eq wellFormed]
    refine collected (List.forall_mem_append.mpr ⟨List.forall_mem_map.mpr ?_, wellFormed⟩)
    intro address member
    rw [normalize?_builtIn address member]
    rfl
  · refine answersFor_of_normals (by decide +kernel) fun address => ?_
    constructor
    · exact fun member => ⟨_, List.mem_map_of_mem member, normalize?_builtIn address member⟩
    · rintro ⟨seed, member, normal⟩
      obtain ⟨other, inList, rfl⟩ := List.mem_map.mp member
      rw [normalize?_builtIn other inList] at normal
      cases normal
      exact inList

/-- Two spellings of an address make a list of one, in which it is also found with `0X`, though that
is malformed. -/
theorem seeds_answersFor_capital :
    (∀ seed ∈ [Value.text "0xACBA164135904DC63C5418B57FF87EFD341D7C80",
        .text "0xacba164135904dc63c5418b57ff87efd341d7c80"],
      (Address.normalize? seed).isSome = true) ∧
    Address.normalize? (.text "0XACBA164135904DC63C5418B57FF87EFD341D7C80") = none ∧
    (∃ threats, ofSeeds [.text "0xACBA164135904DC63C5418B57FF87EFD341D7C80",
        .text "0xacba164135904dc63c5418b57ff87efd341d7c80"] = .ok threats ∧ threats.size = 1 ∧
      threats.isKnown (.text "0XACBA164135904DC63C5418B57FF87EFD341D7C80") = true) ∧
    standard.isKnown (.text "0XACBA164135904DC63C5418B57FF87EFD341D7C80") = true := by
  have wellFormed : ∀ seed ∈ [Value.text "0xACBA164135904DC63C5418B57FF87EFD341D7C80",
      .text "0xacba164135904dc63c5418b57ff87efd341d7c80"],
      (Address.normalize? seed).isSome = true := by decide +kernel
  have malformed : Address.normalize? (.text "0XACBA164135904DC63C5418B57FF87EFD341D7C80") = none :=
    Address.normalize?_capital "ACBA164135904DC63C5418B57FF87EFD341D7C80"
  have spelled : Address.normalize? (.text ("0x" ++ "ACBA164135904DC63C5418B57FF87EFD341D7C80")) =
      some "0xacba164135904dc63c5418b57ff87efd341d7c80" := by decide +kernel
  obtain ⟨⟨threats, made, answers⟩, -, builtInAnswers⟩ := seeds_answersFor wellFormed
  refine ⟨wellFormed, malformed, ⟨threats, made, ?_, ?_⟩, ?_⟩
  · rw [answers.size]
    decide +kernel
  · exact (answers.malformed _ malformed).mpr
      ⟨_, _, rfl, spelled, _, List.mem_cons_self, spelled⟩
  · exact (builtInAnswers.malformed _ malformed).mpr
      ⟨_, _, rfl, spelled, _, List.mem_cons_self, normalize?_builtIn _ List.mem_cons_self⟩

end ThreatList

end ContractRisk
