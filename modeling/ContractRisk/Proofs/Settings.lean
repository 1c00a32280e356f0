/-
**What settings are good for that pass their check.**

The check refuses numbers on the wrong side of a bound. So it takes all those that are on the right side,
and one more that is on neither: the floating number that is none (`Number.isUndefined`).

* `Draft.check_eq_ok`: what passes, and what is made of it;
* `Usable.threats`, `Usable.cache`: usable settings make a list of threats and a cache;
* `settings_usable`: the same for settings from an environment, of which the counts are whole numbers.
-/

import ContractRisk.Analyzer
import ContractRisk.Proofs.Number
import ContractRisk.Proofs.ThreatList
import ContractRisk.Settings.Environment

namespace ContractRisk

open Attempt

namespace Settings

/-- Settings are those of a draft: what is free text or a switch as it stands there, a number as the value
there counts as one, and no node for null. -/
structure From (settings : Settings) (draft : Draft) : Prop where
  appName : draft.appName = settings.appName
  appVersion : draft.appVersion = settings.appVersion
  environment : draft.environment = settings.environment
  logLevel : draft.logLevel = settings.logLevel
  securityWarnings : draft.securityWarnings = settings.securityWarnings
  explicitConsent : draft.explicitConsent = settings.explicitConsent
  allowLocalNode : draft.allowLocalNode = settings.allowLocalNode
  nodeUrl : draft.nodeUrl = settings.nodeUrl.elim .null .text
  analysisTimeout : draft.analysisTimeout.asNumber? = some settings.analysisTimeout
  cacheLifetime : draft.cacheLifetime.asNumber? = some settings.cacheLifetime
  cacheSize : draft.cacheSize.asNumber? = some settings.cacheSize
  batchConcurrency : draft.batchConcurrency.asNumber? = some settings.batchConcurrency
  extraAddresses : draft.extraAddresses.items = .ok (settings.extraAddresses.map .text)

/-- Settings that are usable, but for numbers that are none. -/
structure Usable (settings : Settings) : Prop where
  timeout : 0 < settings.analysisTimeout ↔ settings.analysisTimeout.isUndefined = false
  lifetime : 0 < settings.cacheLifetime ↔ settings.cacheLifetime.isUndefined = false
  size : 1 ≤ settings.cacheSize ↔ settings.cacheSize.isUndefined = false
  concurrency : 1 ≤ settings.batchConcurrency ↔ settings.batchConcurrency.isUndefined = false
  /-- The node has a host, and not an internal one unless that is allowed. -/
  node : ∀ url ∈ settings.nodeUrl, Url.isHttp (.text url) = true ∧
    (settings.allowLocalNode = false → Url.isSafe (.text url) = true)
  extras : ∀ address ∈ settings.extraAddresses, (Address.normalize? (.text address)).isSome = true

/-- The parts of an analyzer that are made from the settings alone. -/
structure Serves (settings : Settings) : Prop where
  /-- The list of threats has the addresses known from the start and the extra ones, each once. -/
  threats : ∃ threats, Setup.threatsFor settings none = .ok threats ∧ threats.addresses.Nodup ∧
    ∀ address, address ∈ threats.addresses ↔ address ∈ ThreatList.builtIn ∨
      ∃ extra ∈ settings.extraAddresses, Address.normalize? (.text extra) = some address
  /-- A cache takes the bounds. -/
  cache : ∀ now, Cache.create (Analyzer.limits settings) now =
    .ok { limits := Analyzer.limits settings, now }

end Settings

/-! ### The check -/

namespace Draft

variable {name : String} {value : Value} {n : Number}

/-- A number comes out of its check as it went in, unless it is refused. -/
theorem bounded_eq_ok {given : Option Number} {refuses : Number → Prop} [DecidablePred refuses]
    {missing refused : Failure} :
    (match given with
      | none => .error missing
      | some m => if refuses m then .error refused else .ok m) = Except.ok n ↔
    given = some n ∧ ¬ refuses n := by
  cases given with
  | none => simp
  | some m =>
    by_cases bad : refuses m
    · simp only [if_pos bad, Option.some.injEq, reduceCtorEq, false_iff]
      rintro ⟨rfl, passes⟩
      exact passes bad
    · simp only [if_neg bad, Except.ok.injEq, Option.some.injEq, iff_self_and]
      rintro rfl
      exact bad

/-- A number passes as a limit if it is above zero, and also if it is none. -/
theorem limit_eq_ok :
    limit name value = .ok n ↔ value.asNumber? = some n ∧ (0 < n ↔ n.isUndefined = false) :=
  bounded_eq_ok.trans (and_congr_right' (Number.not_le_iff (by decide +kernel)))

/-- A number passes as a count if it is at least one, and also if it is none. -/
theorem size_eq_ok :
    size name value = .ok n ↔ value.asNumber? = some n ∧ (1 ≤ n ↔ n.isUndefined = false) :=
  bounded_eq_ok.trans (and_congr_right' (Number.not_lt_iff (by decide +kernel)))

/-- What is refused does not come out. -/
theorem refused_ne_ok {β : Type} (refusal : String → Refusal) (result : β) :
    value.refused refusal ≠ .ok result := by
  obtain ⟨failure, refused⟩ := value.refused_error (β := β) refusal
  rw [refused]
  nofun

theorem node_eq_ok {allowLocal : Bool} {url : Option String} : node allowLocal value = .ok url ↔
    value = url.elim .null .text ∧ ∀ text ∈ url, Url.isHttp (.text text) = true ∧
      (allowLocal = false → Url.isSafe (.text text) = true) := by
  cases value with
  | null => cases url <;> simp [node]
  | text text =>
    -- The address comes out as it went in, or it is refused.
    by_cases kept : url = some text
    · subst kept
      cases http : Url.isHttp (.text text) <;> cases allowLocal <;>
        cases safe : Url.isSafe (.text text) <;> simp [node, http, safe]
    · refine iff_of_false (fun passes => ?_) fun ⟨same, _⟩ => kept ?_
      · dsimp only [node] at passes
        split at passes
        · cases passes
        · split at passes
          · cases passes
          · exact kept (Except.ok.inj passes).symm
      · cases url with
        | none => cases same
        | some other =>
          cases same
          rfl
  | _ => cases url <;> simp [node, refused_ne_ok]

theorem extra_eq_ok {address : String} : extra value = .ok address ↔
    value = .text address ∧ (Address.normalize? (.text address)).isSome = true := by
  cases value with
  | text text =>
    cases normal : Address.normalize? (.text text) with
    | none =>
      simp only [extra, normal, refused_ne_ok, false_iff]
      rintro ⟨⟨⟩, isAddress⟩
      rw [normal] at isAddress
      cases isAddress
    | some form =>
      simp only [extra, normal, Except.ok.injEq, Value.text.injEq, iff_self_and]
      rintro rfl
      exact Option.isSome_of_eq_some normal
  | _ => simp [extra, refused_ne_ok]

theorem extras_eq_ok {values : List Value} {addresses : List String} : values.mapM extra = .ok addresses ↔
    values = addresses.map .text ∧
      ∀ address ∈ addresses, (Address.normalize? (.text address)).isSome = true := by
  induction values generalizing addresses with
  | nil => cases addresses <;> simp [Pure.pure, Except.pure]
  | cons head rest ih =>
    rw [mapM_cons_eq_ok]
    simp only [extra_eq_ok, ih]
    constructor
    · rintro ⟨first, others, ⟨rfl, here⟩, ⟨rfl, there⟩, rfl⟩
      exact ⟨rfl, List.forall_mem_cons.mpr ⟨here, there⟩⟩
    · rintro ⟨same, normal⟩
      cases addresses with
      | nil => cases same
      | cons first others =>
        cases same
        obtain ⟨here, there⟩ := List.forall_mem_cons.mp normal
        exact ⟨first, others, ⟨rfl, here⟩, ⟨rfl, there⟩, rfl⟩

/-- **A draft passes** if and only if there are usable settings that are its own, which are then the
result. -/
theorem check_eq_ok {draft : Draft} {settings : Settings} :
    draft.check = .ok settings ↔ settings.From draft ∧ settings.Usable := by
  constructor
  · intro checked
    obtain ⟨timeout, time, checked⟩ := bind_eq_ok.mp checked
    obtain ⟨lifetime, life, checked⟩ := bind_eq_ok.mp checked
    obtain ⟨size, room, checked⟩ := bind_eq_ok.mp checked
    obtain ⟨concurrency, slots, checked⟩ := bind_eq_ok.mp checked
    obtain ⟨url, reached, checked⟩ := bind_eq_ok.mp checked
    obtain ⟨items, listed, checked⟩ := bind_eq_ok.mp checked
    obtain ⟨extras, normal, checked⟩ := bind_eq_ok.mp checked
    cases checked
    rw [limit_eq_ok] at time life
    rw [size_eq_ok] at room slots
    rw [node_eq_ok] at reached
    obtain ⟨rfl, addresses⟩ := extras_eq_ok.mp normal
    exact ⟨⟨rfl, rfl, rfl, rfl, rfl, rfl, rfl, reached.1, time.1, life.1, room.1, slots.1, listed⟩,
      ⟨time.2, life.2, room.2, slots.2, reached.2, addresses⟩⟩
  · rintro ⟨own, usable⟩
    refine bind_eq_ok.mpr ⟨_, limit_eq_ok.mpr ⟨own.analysisTimeout, usable.timeout⟩, ?_⟩
    refine bind_eq_ok.mpr ⟨_, limit_eq_ok.mpr ⟨own.cacheLifetime, usable.lifetime⟩, ?_⟩
    refine bind_eq_ok.mpr ⟨_, size_eq_ok.mpr ⟨own.cacheSize, usable.size⟩, ?_⟩
    refine bind_eq_ok.mpr ⟨_, size_eq_ok.mpr ⟨own.batchConcurrency, usable.concurrency⟩, ?_⟩
    refine bind_eq_ok.mpr ⟨_, node_eq_ok.mpr ⟨own.nodeUrl, own.allowLocalNode ▸ usable.node⟩, ?_⟩
    refine bind_eq_ok.mpr ⟨_, own.extraAddresses, ?_⟩
    refine bind_eq_ok.mpr ⟨_, extras_eq_ok.mpr ⟨rfl, usable.extras⟩, ?_⟩
    rw [own.appName, own.appVersion, own.environment, own.logLevel, own.securityWarnings,
      own.explicitConsent, own.allowLocalNode]
    rfl

end Draft

/-! ### What usable settings are good for -/

namespace Settings

variable {settings : Settings}

/-- The list of threats has the addresses known from the start and the extra ones, each once. -/
theorem Usable.threats (usable : settings.Usable) :
    ∃ threats, Setup.threatsFor settings none = .ok threats ∧ threats.addresses.Nodup ∧
      ∀ address, address ∈ threats.addresses ↔ address ∈ ThreatList.builtIn ∨
        ∃ extra ∈ settings.extraAddresses, Address.normalize? (.text extra) = some address := by
  have extras : ∀ seed ∈ settings.extraAddresses.map Value.text, (Address.normalize? seed).isSome = true :=
    List.forall_mem_map.mpr usable.extras
  have seeds : ∀ seed ∈ ThreatList.builtIn.map Value.text ++ settings.extraAddresses.map Value.text,
      (Address.normalize? seed).isSome = true := by
    refine List.forall_mem_append.mpr ⟨List.forall_mem_map.mpr fun address member => ?_, extras⟩
    rw [ThreatList.normalize?_builtIn address member]
    rfl
  obtain ⟨threats, made, once, normals⟩ := ThreatList.ofSeeds_normals seeds
  refine ⟨threats, (ThreatList.withExtras_eq extras).trans made, once, fun address => ?_⟩
  rw [normals]
  constructor
  · rintro ⟨seed, member, normal⟩
    rcases List.mem_append.mp member with known | extra
    · obtain ⟨other, inside, rfl⟩ := List.mem_map.mp known
      rw [ThreatList.normalize?_builtIn other inside] at normal
      cases normal
      exact .inl inside
    · obtain ⟨other, inside, rfl⟩ := List.mem_map.mp extra
      exact .inr ⟨other, inside, normal⟩
  · rintro (known | ⟨other, extra, normal⟩)
    · exact ⟨_, List.mem_append_left _ (List.mem_map_of_mem known),
        ThreatList.normalize?_builtIn address known⟩
    · exact ⟨_, List.mem_append_right _ (List.mem_map_of_mem extra), normal⟩

/-- Usable settings leave time for a fetch, room in the cache, and a slot in a batch. -/
theorem Usable.positive (usable : settings.Usable) : ¬ settings.analysisTimeout ≤ 0 ∧
    ¬ settings.cacheSize < 1 ∧ ¬ settings.batchConcurrency < 1 :=
  ⟨(Number.not_le_iff (by decide +kernel)).mpr usable.timeout,
    (Number.not_lt_iff (by decide +kernel)).mpr usable.size,
    (Number.not_lt_iff (by decide +kernel)).mpr usable.concurrency⟩

/-- A cache takes the bounds. -/
theorem Usable.cache (usable : settings.Usable) (now : Number) :
    Cache.create (Analyzer.limits settings) now = .ok { limits := Analyzer.limits settings, now } :=
  (if_neg usable.positive.2.1).trans (if_neg usable.positive.2.2)

end Settings

/-! ### Settings from an environment -/

/-- The counts of an environment are whole numbers. -/
theorem Environment.settings_counts {env : Environment} {settings : Settings}
    (found : env.settings = .ok settings) : ∃ size concurrency : Int,
      settings.cacheSize = .int size ∧ settings.batchConcurrency = .int concurrency := by
  obtain ⟨draft, read, checked⟩ := bind_eq_ok.mp found
  obtain ⟨own, -⟩ := Draft.check_eq_ok.mp checked
  obtain ⟨timeout, -, read⟩ := bind_eq_ok.mp read
  obtain ⟨lifetime, -, read⟩ := bind_eq_ok.mp read
  obtain ⟨size, -, read⟩ := bind_eq_ok.mp read
  obtain ⟨concurrency, -, read⟩ := bind_eq_ok.mp read
  cases read
  exact ⟨size, concurrency, (Option.some.inj own.cacheSize).symm, (Option.some.inj own.batchConcurrency).symm⟩

/-- **Settings that pass their check are usable**, and so are those of an environment, as far as their
numbers are numbers at all: a time limit or a lifetime that is none passes the check, and in a draft also
a count. -/
theorem settings_usable (settings : Settings) :
    (∀ draft : Draft, draft.check = .ok settings ↔ settings.From draft ∧ settings.Usable) ∧
    (∀ env : Environment, env.settings = .ok settings →
      settings.Usable ∧ 1 ≤ settings.cacheSize ∧ 1 ≤ settings.batchConcurrency) ∧
    (settings.Usable → settings.Serves) := by
  refine ⟨fun _ => Draft.check_eq_ok, fun env found => ?_, fun usable => ⟨usable.threats, usable.cache⟩⟩
  obtain ⟨draft, -, checked⟩ := bind_eq_ok.mp found
  obtain ⟨-, usable⟩ := Draft.check_eq_ok.mp checked
  obtain ⟨size, concurrency, sized, slotted⟩ := Environment.settings_counts found
  refine ⟨usable, usable.size.mpr ?_, usable.concurrency.mpr ?_⟩
  · rw [sized]
    rfl
  · rw [slotted]
    rfl

/-- An environment with a time limit that is no number, a node and an extra address: its settings are
usable, and yet the limit is not above zero. So it is for the size of the cache in a draft. -/
theorem settings_usable_undefined :
    (∃ settings, Environment.settings [("SCAM_ANALYZER_ANALYSIS_TIMEOUT", "nan"),
        ("RPC_URL", "https://rpc.example"), ("ALLOW_LOCAL_RPC", "no"),
        ("EXTRA_MALICIOUS_ADDRESSES", "0xACBA164135904DC63C5418B57FF87EFD341D7C80")] = .ok settings ∧
      (settings.nodeUrl = some "https://rpc.example" ∧ settings.extraAddresses.length = 1 ∧
        settings.analysisTimeout.isUndefined = true) ∧
      settings.Usable ∧ settings.Serves ∧ 1 ≤ settings.cacheSize ∧ ¬ 0 < settings.analysisTimeout) ∧
    ∃ settings, Draft.check { cacheSize := .float (0.0 / 0.0) } = .ok settings ∧
      settings.cacheSize.isUndefined = true ∧ settings.Serves ∧ ¬ 1 ≤ settings.cacheSize := by
  constructor
  · have read : ∃ settings, Environment.settings [("SCAM_ANALYZER_ANALYSIS_TIMEOUT", "nan"),
        ("RPC_URL", "https://rpc.example"), ("ALLOW_LOCAL_RPC", "no"),
        ("EXTRA_MALICIOUS_ADDRESSES", "0xACBA164135904DC63C5418B57FF87EFD341D7C80")] = .ok settings ∧
      (settings.nodeUrl = some "https://rpc.example" ∧ settings.extraAddresses.length = 1 ∧
        settings.analysisTimeout.isUndefined = true) := ⟨_, rfl, rfl, rfl, by decide +kernel⟩
    obtain ⟨settings, found, parts⟩ := read
    obtain ⟨-, loaded, served⟩ := settings_usable settings
    obtain ⟨usable, roomy, -⟩ := loaded _ found
    refine ⟨settings, found, parts, usable, served usable, roomy, fun positive => ?_⟩
    rw [usable.timeout, parts.2.2] at positive
    cases positive
  · have read : ∃ settings, Draft.check { cacheSize := .float (0.0 / 0.0) } = .ok settings ∧
        settings.cacheSize.isUndefined = true := ⟨_, rfl, by decide +kernel⟩
    obtain ⟨settings, checked, undefined⟩ := read
    obtain ⟨passes, -, served⟩ := settings_usable settings
    obtain ⟨-, usable⟩ := (passes _).mp checked
    refine ⟨settings, checked, undefined, served usable, fun roomy => ?_⟩
    rw [usable.size, undefined] at roomy
    cases roomy

end ContractRisk
