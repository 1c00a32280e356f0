/-
**Functions of the standard, and what passes for them.**

A function with a name of the ERC-20 standard is forged if it has other parameters, or another result
where the standard has one `uint256` (`IsForged`). An amount is an unsigned integer of any width, but the
detector takes every type that begins with `uint` for one. So a function whose amount is an array of
them, or no type at all, passes for one of the standard (`Passes`): it is forged and not counted.

* `shapeFits_standard`: the shapes of the detector are those of the standard, but for this prefix;
* `isImproper_iff`: a function counts as improper if it is forged and does not pass;
* `detect_improper`: hence the count, for every interface, and when it is that of the forged functions.
-/

import ContractRisk.Detector
import ContractRisk.Proofs.Attempt
import Mathlib.Data.List.Forall2

namespace ContractRisk

open Attempt Abi

namespace Detector.FakeBalance

/-! ### The standard -/

/-- **An unsigned integer type**: `uint`, alone or followed by decimal digits. -/
def IsUnsigned (type : String) : Prop :=
  "uint".toList <+: type.toList ∧ ∀ c ∈ type.toList.drop 4, '0' ≤ c ∧ c ≤ '9'

/-- A function of the standard that takes an amount, and its parameters with the type of that. -/
def TakesAmount (amount name : String) (types : List String) : Prop :=
  (name = "transfer" ∨ name = "approve") ∧ types = ["address", amount] ∨
    name = "transferfrom" ∧ types = ["address", "address", amount]

/-- A function has the name and the parameters of one of the standard, given what an amount is. -/
def Follows (IsAmount : String → Prop) (name : String) (types : List String) : Prop :=
  name = "totalsupply" ∧ types = [] ∨ name = "balanceof" ∧ types = ["address"] ∨
    name = "allowance" ∧ types = ["address", "address"] ∨
    ∃ amount, IsAmount amount ∧ TakesAmount amount name types

/-- The names of the standard, in lower case. -/
def standardNames : List String :=
  ["totalsupply", "balanceof", "allowance", "transfer", "approve", "transferfrom"]

/-- A function that should return one `uint256` and does not. -/
def Misreports (function : Entry) : Prop :=
  (plainName function = "balanceof" ∨ plainName function = "totalsupply") ∧
    function.outputTypes ≠ ["uint256"]

/-- **A forged function**: it is named like one of the standard, and has other parameters or another
result. -/
def IsForged (function : Entry) : Prop :=
  plainName function ∈ standardNames ∧
    (¬ Follows IsUnsigned (plainName function) function.inputTypes ∨ Misreports function)

/-- A type that begins like an unsigned integer and is none. -/
def ResemblesUnsigned (type : String) : Prop := "uint".toList <+: type.toList ∧ ¬ IsUnsigned type

/-- **A function that passes for one of the standard**: its amount only begins like one. -/
def Passes (function : Entry) : Prop :=
  ∃ amount, ResemblesUnsigned amount ∧
    TakesAmount amount (plainName function) function.inputTypes

section

variable {amount name : String} {types : List String}

theorem TakesAmount.mem (takes : TakesAmount amount name types) : amount ∈ types := by
  rcases takes with ⟨-, rfl⟩ | ⟨-, rfl⟩ <;> simp

/-- The type of an amount is told by the parameters. -/
theorem TakesAmount.unique {amount' : String} (takes : TakesAmount amount name types)
    (takes' : TakesAmount amount' name types) : amount = amount' := by
  rcases takes with ⟨-, rfl⟩ | ⟨-, rfl⟩ <;> rcases takes' with ⟨-, same⟩ | ⟨-, same⟩ <;>
    simp_all

theorem exists_amount_iff {IsAmount : String → Prop} :
    (∃ amount ∈ types, IsAmount amount ∧ TakesAmount amount name types) ↔
      ∃ amount, IsAmount amount ∧ TakesAmount amount name types :=
  ⟨fun ⟨amount, _, own⟩ => ⟨amount, own⟩, fun ⟨amount, own⟩ => ⟨amount, own.2.mem, own⟩⟩

instance (type : String) : Decidable (IsUnsigned type) :=
  decidable_of_iff ("uint".toList <+: type.toList ∧
    (type.toList.drop 4).all (fun c => '0' ≤ c ∧ c ≤ '9') = true)
    (and_congr_right fun _ => by simp only [List.all_eq_true, decide_eq_true_eq])

instance : DecidablePred ResemblesUnsigned := fun _ => inferInstanceAs (Decidable (_ ∧ _))

instance : Decidable (TakesAmount amount name types) := inferInstanceAs (Decidable (_ ∨ _))

instance (IsAmount : String → Prop) [DecidablePred IsAmount] :
    Decidable (∃ amount, IsAmount amount ∧ TakesAmount amount name types) :=
  decidable_of_iff _ exists_amount_iff

instance (IsAmount : String → Prop) [DecidablePred IsAmount] :
    Decidable (Follows IsAmount name types) :=
  inferInstanceAs (Decidable (_ ∨ _))

instance : DecidablePred Misreports := fun _ => inferInstanceAs (Decidable (_ ∧ _))

instance : DecidablePred IsForged := fun _ => inferInstanceAs (Decidable (_ ∧ _))

instance : DecidablePred Passes := fun function =>
  inferInstanceAs (Decidable (∃ amount, ResemblesUnsigned amount ∧
    TakesAmount amount (plainName function) function.inputTypes))

end

/-! ### The shapes of the detector -/

theorem shapeFits_iff {actual expected : List String} :
    shapeFits actual expected = true ↔
      List.Forall₂ (fun type kind => typeFits type kind = true) actual expected := by
  induction actual generalizing expected with
  | nil => cases expected <;> simp [shapeFits]
  | cons type rest ih => cases expected <;> simp [shapeFits, ih]

theorem typeFits_amount {type : String} :
    typeFits type "uint" = true ↔ "uint".toList <+: type.toList := by
  unfold typeFits beginsWith
  rw [if_pos rfl, List.isPrefixOf_iff_prefix]

theorem typeFits_address {type : String} : typeFits type "address" = true ↔ type = "address" := by
  unfold typeFits
  rw [if_neg (by decide), decide_eq_true_iff]

variable {function : Entry}

/-- **The shapes of the detector are those of the standard**, with the prefix for an amount. -/
theorem shapeFits_standard {shape : List String} (known : standardShape? function = some shape) :
    shapeFits function.inputTypes shape = true ↔
      Follows ("uint".toList <+: ·.toList) (plainName function) function.inputTypes := by
  obtain ⟨entry, found, rfl⟩ := Option.map_eq_some_iff.mp known
  have named := List.find?_some found
  simp only [decide_eq_true_eq] at named
  have listed := List.mem_of_find?_eq_some found
  rw [shapeFits_iff, ← named]
  simp only [standardShapes, List.mem_cons, List.not_mem_nil, or_false] at listed
  rcases listed with rfl | rfl | rfl | rfl | rfl | rfl <;>
    simp [Follows, TakesAmount, List.forall₂_cons_right_iff, typeFits_amount, typeFits_address]

/-- The names that the detector knows a shape for are those of the standard. -/
theorem standardShape?_eq_none : standardShape? function = none ↔ plainName function ∉ standardNames := by
  unfold standardShape?
  rw [Option.map_eq_none_iff, List.find?_eq_none]
  simp [standardShapes, standardNames, eq_comm]

theorem badReturn?_isSome : (badReturn? function).isSome = true ↔ Misreports function := by
  unfold badReturn? Misreports amountFunctions
  split <;> simp_all

/-! ### Functions that are counted -/

/-- What begins like an amount is one, or only resembles one. -/
theorem follows_prefix_iff : Follows ("uint".toList <+: ·.toList) (plainName function) function.inputTypes ↔
    Follows IsUnsigned (plainName function) function.inputTypes ∨ Passes function := by
  have amount (type : String) :
      "uint".toList <+: type.toList ↔ IsUnsigned type ∨ ResemblesUnsigned type := by
    unfold ResemblesUnsigned
    by_cases unsigned : IsUnsigned type
    · exact iff_of_true unsigned.1 (.inl unsigned)
    · simp [unsigned]
  unfold Follows Passes
  simp only [amount, or_and_right, exists_or, or_assoc]

/-- A function that passes is forged, and has the result that the standard gives it. -/
theorem Passes.forged (passes : Passes function) : IsForged function ∧ ¬ Misreports function := by
  obtain ⟨amount, ⟨-, other⟩, takes⟩ := passes
  have named : plainName function = "transfer" ∨ plainName function = "approve" ∨
      plainName function = "transferfrom" := by
    rcases takes with ⟨name | name, -⟩ | ⟨name, -⟩
    · exact .inl name
    · exact .inr (.inl name)
    · exact .inr (.inr name)
  refine ⟨⟨?_, .inl fun follows => ?_⟩, fun ⟨name, _⟩ => ?_⟩
  · rcases named with name | name | name <;> rw [name] <;> decide
  · rcases follows with ⟨name, -⟩ | ⟨name, -⟩ | ⟨name, -⟩ | ⟨amount', unsigned, takes'⟩
    · rw [name] at named
      exact absurd named (by decide)
    · rw [name] at named
      exact absurd named (by decide)
    · rw [name] at named
      exact absurd named (by decide)
    · exact other (takes.unique takes' ▸ unsigned)
  · rcases name with name | name <;> rw [name] at named <;> exact absurd named (by decide)

/-- **A function is counted if it is forged and does not pass.** -/
theorem isImproper_iff : isImproper function = true ↔ IsForged function ∧ ¬ Passes function := by
  unfold isImproper IsForged
  split
  · rename_i shape known
    have named : plainName function ∈ standardNames := by
      by_contra other
      rw [standardShape?_eq_none.mpr other] at known
      cases known
    rw [Bool.or_eq_true, Bool.not_eq_true', ← Bool.not_eq_true, shapeFits_standard known,
      follows_prefix_iff, badReturn?_isSome]
    by_cases passes : Passes function
    · simp [passes, passes.forged.2]
    · simp [passes, named]
  · rename_i unknown
    exact iff_of_false Bool.false_ne_true fun ⟨⟨named, _⟩, _⟩ =>
      standardShape?_eq_none.mp unknown named

/-- The forged functions of an interface. -/
def forged (entries : List Entry) : List Entry := (functions entries).filter (IsForged ·)

/-- The functions of an interface that pass for those of the standard. -/
def passing (entries : List Entry) : List Entry := (functions entries).filter (Passes ·)

/-- Each forged function counts as improper, or passes. -/
theorem length_forged (entries : List Entry) :
    (improper entries).length + (passing entries).length = (forged entries).length := by
  have counted : (forged entries).filter (fun function => !decide (Passes function)) = improper entries := by
    unfold forged improper
    rw [List.filter_filter]
    refine List.filter_congr fun function _ => ?_
    rw [Bool.eq_iff_iff, isImproper_iff]
    simp [and_comm]
  have uncounted : (forged entries).filter (Passes ·) = passing entries := by
    unfold forged passing
    rw [List.filter_filter]
    refine List.filter_congr fun function _ => ?_
    rw [Bool.eq_iff_iff]
    simpa using fun passes : Passes function => passes.forged.1
  have parts := List.length_eq_length_filter_add (l := forged entries) (Passes ·)
  rw [uncounted, counted] at parts
  omega

end Detector.FakeBalance

/-! ### What is reported -/

variable {α : Type} [Add α] [Mul α] [Div α] [LT α] [LE α] [DecidableLT α] [DecidableLE α]
  [OfScientific α] [NatCast α] [Decimal.Rendered α]

open Detector.FakeBalance

/-- **How many functions are reported as improper**: those that are forged, without those that pass for
functions of the standard; all that are forged exactly if none passes. -/
theorem detect_improper {abi : Abi.Input} {entries : List Entry} (read : entriesOf abi = .ok entries)
    (code : Value) :
    ∃ finding : Finding α, ∃ count, detect .fakeBalance abi code = .ok finding ∧
      finding.metadata.lookup "improper_erc20_count" = some (.count count) ∧
      count + (passing entries).length = (forged entries).length ∧
      (count = (forged entries).length ↔ ∀ function ∈ functions entries, ¬ Passes function) := by
  refine ⟨(inspect entries).conclude .fakeBalance, (improper entries).length, ?_, rfl,
    length_forged entries, ?_⟩
  · exact bind_eq_ok.mpr ⟨entries, read, bind_eq_ok.mpr ⟨[], rfl, rfl⟩⟩
  · have none : (∀ function ∈ functions entries, ¬ Passes function) ↔ (passing entries).length = 0 := by
      unfold passing
      rw [List.length_eq_zero_iff, List.filter_eq_nil_iff]
      simp
    have parts := length_forged entries
    rw [none]
    omega

/-- A transfer of an array of amounts is forged, and passes. -/
theorem detect_improper_array :
    let transfer : Entry := ⟨.function, some "transfer", [⟨"to", "address", none⟩,
      ⟨"amount", "uint256[]", none⟩], [⟨"", "bool", none⟩], some "nonpayable"⟩
    IsForged transfer ∧ ∃ finding : Finding Float,
      detect .fakeBalance (.ofEntries [transfer]) .null = .ok finding ∧
        finding.metadata.lookup "improper_erc20_count" = some (.count 0) := by
  intro transfer
  obtain ⟨finding, count, detects, counts, total, -⟩ :=
    detect_improper (α := Float) (show entriesOf (.ofEntries [transfer]) = .ok [transfer] from rfl) .null
  have forged : (forged [transfer]).length = 1 := by decide
  have passing : (passing [transfer]).length = 1 := by decide
  have none : count = 0 := by omega
  rw [none] at counts
  exact ⟨by decide, finding, detects, counts⟩

end ContractRisk
