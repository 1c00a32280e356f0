/-
**Interfaces in another order.**

A detector looks at the functions and at the events of an interface, and counts. An interface that
declares the same functions and events in another order, with or without entries of other kinds, is
`Rearranged`. Each detector then comes to the same finding, but for the order of the lines of evidence
(`Finding.Matches`). Two of them do more than filter: fake balances are reported with a sorted list of
names (`sortedTexts_perm`), and code that writes no storage adds functions to a list in which each is
to stand once (`foldl_appendNew_perm`).

* `inspect_matches`: what a detector observes is the same up to the order of the evidence;
* `detect_rearranged`: so is the finding, and code that is refused is refused with both interfaces.
-/

import ContractRisk.Detector
import ContractRisk.Proofs.Abi.Reading
import Mathlib.Data.String.Basic
import Mathlib.Data.List.Perm.Basic

namespace ContractRisk

/-! ### Sorted texts -/

/-- Texts are put into a sorted list in any order. -/
theorem insertText_comm (first second : String) (texts : List String) :
    insertText first (insertText second texts) = insertText second (insertText first texts) := by
  induction texts with
  | nil =>
    simp only [insertText]
    rcases lt_trichotomy first second with less | same | more
    · simp [less, less.ne, less.ne', less.asymm]
    · simp [same]
    · simp [more, more.ne, more.ne', more.asymm]
  | cons head rest ih =>
    simp only [insertText]
    grind [insertText]

/-- **Sorting forgets the order.** -/
theorem sortedTexts_perm {texts others : List String} (perm : texts.Perm others) :
    sortedTexts texts = sortedTexts others :=
  perm.foldr_eq' (fun first _ second _ rest => insertText_comm second first rest) []

/-! ### The relations -/

namespace Abi

/-- **An interface with the same declarations as another**: in another order, with or without entries
that are neither functions nor events. -/
inductive Rearranged : List Entry → List Entry → Prop
  | perm {entries others : List Entry} (perm : entries.Perm others) : Rearranged entries others
  | insert (before after : List Entry) (entry : Entry) (noFunction : entry.kind ≠ .function)
      (noEvent : entry.kind ≠ .event) : Rearranged (before ++ after) (before ++ entry :: after)
  | remove (before after : List Entry) (entry : Entry) (noFunction : entry.kind ≠ .function)
      (noEvent : entry.kind ≠ .event) : Rearranged (before ++ entry :: after) (before ++ after)
  | trans {entries others last : List Entry} (first : Rearranged entries others)
      (second : Rearranged others last) : Rearranged entries last

/-- **The same functions and the same events**, in any order. -/
structure SameDeclarations (entries others : List Entry) : Prop where
  functions : (functions entries).Perm (functions others)
  events : (events entries).Perm (events others)

/-- An entry of another kind is among neither the functions nor the events. -/
theorem declarations_insert (before after : List Entry) {entry : Entry}
    (noFunction : entry.kind ≠ .function) (noEvent : entry.kind ≠ .event) :
    functions (before ++ entry :: after) = functions (before ++ after) ∧
      events (before ++ entry :: after) = events (before ++ after) := by
  simp [functions, events, Entry.isFunction, Entry.isEvent, noFunction, noEvent]

theorem Rearranged.declarations {entries others : List Entry}
    (rearranged : Rearranged entries others) : SameDeclarations entries others := by
  induction rearranged with
  | perm perm => exact ⟨perm.filter _, perm.filter _⟩
  | insert before after entry noFunction noEvent =>
    obtain ⟨functions, events⟩ := declarations_insert before after noFunction noEvent
    exact ⟨.of_eq functions.symm, .of_eq events.symm⟩
  | remove before after entry noFunction noEvent =>
    obtain ⟨functions, events⟩ := declarations_insert before after noFunction noEvent
    exact ⟨.of_eq functions, .of_eq events⟩
  | trans _ _ first second =>
    exact ⟨first.functions.trans second.functions, first.events.trans second.events⟩

end Abi

/-- **Findings that say the same**, with the lines of evidence in any order. -/
structure Finding.Matches {α : Type} (finding other : Finding α) : Prop where
  detected : finding.detected = other.detected
  confidence : finding.confidence = other.confidence
  category : finding.category = other.category
  description : finding.description = other.description
  evidence : finding.evidence.Perm other.evidence
  severity : finding.severity = other.severity
  metadata : finding.metadata = other.metadata

/-- Inspections that show the same, with the lines of evidence in any order. -/
inductive Inspection.Matches {α : Type} : Inspection α → Inspection α → Prop
  | skipped (reason : String) (metadata : List (String × Value)) :
      Matches (.skipped reason metadata) (.skipped reason metadata)
  | observed (confidence : α) (severity : Severity) (metadata : List (String × Value))
      {lines others : List String} (evidence : lines.Perm others) :
      Matches (.observed ⟨confidence, lines, severity, metadata⟩)
        (.observed ⟨confidence, others, severity, metadata⟩)

/-- The conclusion depends on the number of the lines only. -/
theorem Inspection.Matches.conclude {α : Type} [Mul α] [LT α] [DecidableLT α] [OfScientific α]
    [Decimal.Rendered α] {inspection other : Inspection α} (matching : inspection.Matches other)
    (category : Category) : (inspection.conclude category).Matches (other.conclude category) := by
  cases matching with
  | skipped reason metadata => exact ⟨rfl, rfl, rfl, rfl, .refl _, rfl, rfl⟩
  | observed confidence severity metadata evidence =>
    constructor <;>
      simp [Inspection.conclude, Finding.ofObservation, Finding.describe, evidence.isEmpty_eq,
        evidence.length_eq, evidence]

namespace Detector

open Abi

variable {α : Type} [Add α] [Mul α] [Div α] [LT α] [LE α] [DecidableLT α] [DecidableLE α]
  [OfScientific α] [NatCast α]

section

variable {entries others : List Entry} (same : SameDeclarations entries others)

include same

/-! ### Fake balances -/

namespace FakeBalance

theorem timeBased_perm : (timeBased entries).Perm (timeBased others) := same.functions.filter _

theorem improper_perm : (improper entries).Perm (improper others) := same.functions.filter _

theorem badTransfers_perm : (badTransfers entries).Perm (badTransfers others) := same.events.filter _

theorem evidence_perm : (evidence entries).Perm (evidence others) := by
  have times := timeBased_perm same
  exact (((times.map _).append ((improper_perm same).flatMap_right _)).append (times.map _)).append
    ((badTransfers_perm same).map _)

theorem inspect_matches :
    Inspection.Matches (inspect entries : Inspection α) (inspect others) := by
  have times := timeBased_perm same
  have improper := improper_perm same
  have confidence_eq : (confidence entries : α) = confidence others := by
    simp only [confidence, times.length_eq, improper.length_eq, same.functions.length_eq]
  have severity_eq (share : α) : severity entries share = severity others share := by
    simp only [severity, improper.any_eq, times.length_eq]
  have flagged := sortedTexts_perm ((times.append improper).map (·.title))
  unfold inspect
  simp only [confidence_eq, severity_eq, flagged, times.length_eq, improper.length_eq,
    (badTransfers_perm same).length_eq, same.functions.length_eq,
    (same.functions.filter isBalance).length_eq]
  exact .observed _ _ _ (evidence_perm same)

end FakeBalance

/-! ### Hidden redirections -/

namespace HiddenRedirection

theorem setters_perm : (setters entries).Perm (setters others) := same.functions.filter _

theorem inspect_matches (code : List UInt8) :
    Inspection.Matches (inspect entries code : Inspection α) (inspect others code) := by
  have setters := setters_perm same
  have confidence_eq (found : List Signal) : (confidence found entries : α) = confidence found others := by
    simp only [confidence, setterScore, setters.length_eq, same.functions.length_eq]
  have severity_eq (found : List Signal) (share : α) :
      severity found entries share = severity found others share := by
    simp only [severity, setters.length_eq]
  unfold inspect
  simp only [same.functions.isEmpty_eq, confidence_eq, severity_eq, setters.length_eq,
    same.functions.length_eq]
  split
  · exact .skipped _ _
  · exact .observed _ _ _ ((setters.map _).append_left _)

end HiddenRedirection

/-! ### Non-functional transfers -/

namespace NonFunctionalTransfer

omit same in
/-- An entry is added once to a list in which it does not stand. -/
theorem count_foldl_appendNew (entry : Entry) (kept added : List Entry) :
    (added.foldl appendNew kept).count entry =
      if entry ∈ kept then kept.count entry else if entry ∈ added then 1 else 0 := by
  induction added generalizing kept with
  | nil => simp +contextual [List.count_eq_zero]
  | cons first rest ih =>
    rw [List.foldl_cons, ih]
    unfold appendNew
    by_cases known : first ∈ kept
    · by_cases own : entry = first
      · simp [known, own]
      · simp [known, own]
    · by_cases own : entry = first
      · simp [known, own, List.count_eq_zero.mpr known]
      · simp [known, own, List.count_append, Ne.symm own]

omit same in
/-- **Entries are added in any order**: what counts is which are there already. -/
theorem foldl_appendNew_perm {kept kept' added added' : List Entry} (start : kept.Perm kept')
    (perm : added.Perm added') :
    (added.foldl appendNew kept).Perm (added'.foldl appendNew kept') := by
  rw [List.perm_iff_count]
  intro entry
  simp only [count_foldl_appendNew, start.mem_iff, start.count_eq, perm.mem_iff]

theorem transfers_perm : (transfers entries).Perm (transfers others) := same.functions.filter _

theorem transferLogs_perm : (transferLogs entries).Perm (transferLogs others) := same.events.filter _

theorem viewTransfers_perm : (viewTransfers entries).Perm (viewTransfers others) :=
  (transfers_perm same).filter _

theorem stateChanging_perm : (stateChanging entries).Perm (stateChanging others) :=
  (transfers_perm same).filter _

/-- Whether a transfer is recorded depends on which events there are. -/
theorem unrecorded_perm : (unrecorded entries).Perm (unrecorded others) := by
  unfold unrecorded
  simp only [(transferLogs_perm same).any_eq]
  exact (stateChanging_perm same).filter _

theorem orphaned_perm : (orphaned entries).Perm (orphaned others) := by
  unfold orphaned
  simp only [(stateChanging_perm same).any_eq]
  exact (transferLogs_perm same).filter _

theorem nonFunctional_perm (storageLess : Bool) :
    (nonFunctional entries storageLess).Perm (nonFunctional others storageLess) := by
  unfold nonFunctional
  split
  · exact foldl_appendNew_perm (unrecorded_perm same) (stateChanging_perm same)
  · exact unrecorded_perm same

theorem evidence_perm (storageLess : Bool) :
    (evidence entries storageLess).Perm (evidence others storageLess) := by
  unfold evidence
  simp only [(stateChanging_perm same).isEmpty_eq]
  exact (((((viewTransfers_perm same).map _).append ((nonFunctional_perm same storageLess).map _)).append
    ((orphaned_perm same).map _)).append_right _).append ((transfers_perm same).flatMap_right _)

theorem inspect_matches (code : List UInt8) :
    Inspection.Matches (inspect entries code : Inspection α) (inspect others code) := by
  have views := viewTransfers_perm same
  have orphans := orphaned_perm same
  have broken := nonFunctional_perm same (isStorageLess code)
  have confidence_eq : (confidence entries (isStorageLess code) : α) =
      confidence others (isStorageLess code) := by
    simp only [confidence, broken.length_eq, orphans.length_eq, views.length_eq,
      same.functions.length_eq]
  have severity_eq (share : α) (count : Nat) :
      severity entries share count = severity others share count := by
    simp only [severity, views.any_eq]
  unfold inspect
  simp only [same.functions.isEmpty_eq, confidence_eq, severity_eq, broken.length_eq,
    orphans.length_eq, views.length_eq, (transfers_perm same).length_eq,
    (transferLogs_perm same).length_eq, same.functions.length_eq]
  split
  · exact .skipped _ _
  · exact .observed _ _ _ (evidence_perm same _)

end NonFunctionalTransfer

/-! ### Deceptive events -/

namespace DeceptiveEvents

theorem named_perm : (named entries).Perm (named others) := same.events.filter _

theorem stateChanging_perm : (stateChanging entries).Perm (stateChanging others) :=
  same.functions.filter _

/-- Whether an event has a function depends on which functions there are. -/
theorem unbacked_perm : (unbacked entries).Perm (unbacked others) := by
  unfold unbacked
  simp only [(stateChanging_perm same).any_eq]
  exact (named_perm same).filter _

theorem silent_perm : (silent entries).Perm (silent others) := by
  unfold silent
  simp only [(named_perm same).any_eq]
  exact (stateChanging_perm same).filter _

theorem misordered_perm : (misordered entries).Perm (misordered others) := (named_perm same).filter _

theorem evidence_perm : (evidence entries).Perm (evidence others) :=
  (((unbacked_perm same).map _).append ((silent_perm same).map _)).append ((misordered_perm same).map _)

theorem inspect_matches :
    Inspection.Matches (inspect entries : Inspection α) (inspect others) := by
  have names := named_perm same
  have confidence_eq : (confidence entries : α) = confidence others := by
    simp only [confidence, (unbacked_perm same).length_eq, (silent_perm same).length_eq,
      (misordered_perm same).length_eq, names.length_eq]
  unfold inspect
  simp only [names.isEmpty_eq, confidence_eq, names.length_eq, (stateChanging_perm same).length_eq,
    (unbacked_perm same).length_eq, (silent_perm same).length_eq, (misordered_perm same).length_eq,
    (evidence_perm same).length_eq]
  split
  · exact .skipped _ _
  · exact .observed _ _ _ (evidence_perm same)

end DeceptiveEvents

/-! ### All detectors -/

/-- **What a detector observes** is the same up to the order of the evidence. -/
theorem inspect_matches (category : Category) (code : List UInt8) :
    Inspection.Matches (inspect category entries code : Inspection α) (inspect category others code) := by
  cases category with
  | fakeBalance => exact FakeBalance.inspect_matches same
  | hiddenRedirection => exact HiddenRedirection.inspect_matches same code
  | nonFunctionalTransfer => exact NonFunctionalTransfer.inspect_matches same code
  | deceptiveEvents => exact DeceptiveEvents.inspect_matches same

end

end Detector

/-- **The order of an interface does not matter.** -/
theorem detect_rearranged {α : Type} [Add α] [Mul α] [Div α] [LT α] [LE α] [DecidableLT α]
    [DecidableLE α] [OfScientific α] [NatCast α] [Decimal.Rendered α] (category : Category)
    {entries others : List Abi.Entry} (rearranged : Abi.Rearranged entries others) (code : Value) :
    (∀ failure, Detector.codeFor category code = .error failure →
      (detect category (.ofEntries entries) code : Except Failure (Finding α)) = .error failure ∧
        (detect category (.ofEntries others) code : Except Failure (Finding α)) = .error failure) ∧
      ∀ bytes, Detector.codeFor category code = .ok bytes → ∃ finding other : Finding α,
        detect category (.ofEntries entries) code = .ok finding ∧
          detect category (.ofEntries others) code = .ok other ∧ finding.Matches other := by
  unfold detect
  rw [Abi.entriesOf_ofEntries, Abi.entriesOf_ofEntries]
  refine ⟨fun failure refused => ?_, fun bytes reads => ?_⟩
  · rw [refused]
    exact ⟨rfl, rfl⟩
  · rw [reads]
    exact ⟨_, _, rfl, rfl,
      (Detector.inspect_matches rearranged.declarations category bytes).conclude category⟩

/-- A transfer and a withdrawal with an event for the former. -/
def declared : List Abi.Entry := [
  ⟨.event, some "Transfer", [], [], none⟩,
  ⟨.function, some "transfer", [], [], some "nonpayable"⟩,
  ⟨.function, some "withdraw", [], [], some "nonpayable"⟩]

/-- The same in another order and with a constructor. -/
def shuffled : List Abi.Entry := [
  ⟨.function, some "withdraw", [], [], some "nonpayable"⟩,
  ⟨.constructor, none, [], [], none⟩,
  ⟨.function, some "transfer", [], [], some "nonpayable"⟩,
  ⟨.event, some "Transfer", [], [], none⟩]

/-- Code that logs only adds the functions in either order. -/
theorem detect_rearranged_shuffled :
    Abi.Rearranged declared shuffled ∧
      Detector.codeFor .nonFunctionalTransfer (.bytes [0xa0]) = .ok [0xa0] ∧
      ∃ finding other : Finding Float,
        detect .nonFunctionalTransfer (.ofEntries declared) (.bytes [0xa0]) = .ok finding ∧
          detect .nonFunctionalTransfer (.ofEntries shuffled) (.bytes [0xa0]) = .ok other ∧
          finding.Matches other := by
  have reversed : declared.Perm ([declared[2]] ++ [declared[1], declared[0]]) := by decide
  have inserted := Abi.Rearranged.insert [declared[2]] [declared[1], declared[0]]
    ⟨.constructor, none, [], [], none⟩ (by decide) (by decide)
  have rearranged : Abi.Rearranged declared shuffled := (Abi.Rearranged.perm reversed).trans inserted
  exact ⟨rearranged, rfl,
    (detect_rearranged .nonFunctionalTransfer rearranged (.bytes [0xa0])).2 [0xa0] rfl⟩

end ContractRisk
