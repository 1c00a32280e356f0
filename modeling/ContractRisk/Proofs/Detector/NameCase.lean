/-
**The case of a function's name hides nothing.**

A name in which letters of ASCII stand in another case (`Text.Respelled`) has the same lower case: such
letters have case and are skipped by no rule for neighbours, so that even a capital sigma is lowered to
the same form (`lower_respelled`). The detectors compare functions by the lower case of their names, and
else by what respelling leaves alone (`Entry.Alike`); the events are not respelled. So each bucket of
functions keeps its size, and each bucket of events its members.

* `sameButNames`: what two interfaces have in common;
* `inspect_figures`: each detector shows the same confidence, severity, number of lines and counts. Only
  the list of flagged names may differ;
* `detect_respelled`: so does each finding. A code that logs and writes no storage is left out for
  non-functional transfers, as there equal functions are counted once (`foldl_appendNew_dedup`).
-/

import ContractRisk.Proofs.Abi.Reading
import ContractRisk.Proofs.Alike
import ContractRisk.Proofs.Detector.StorageLess

namespace ContractRisk

open Abi

/-! ### Letters in another case -/

namespace Text

/-- **A character and its like**: itself, or a letter of ASCII in lower or upper case. -/
def Recased (c d : Char) : Prop := d = c ∨ c.isAlpha = true ∧ (d = c.toLower ∨ d = c.toUpper)

instance (c d : Char) : Decidable (Recased c d) := inferInstanceAs (Decidable (_ ∨ _))

/-- **A text with letters of ASCII in another case.** -/
def Respelled (text other : String) : Prop := List.Forall₂ Recased text.toList other.toList

instance (text other : String) : Decidable (Respelled text other) :=
  inferInstanceAs (Decidable (List.Forall₂ _ _ _))

theorem isAlpha_ascii {c : Char} (letter : c.isAlpha = true) : c.toNat < 128 := by
  have most (bound : UInt32) (below : c.val ≤ bound) (ascii : bound.toNat < 128) : c.toNat < 128 :=
    (UInt32.le_iff_toNat_le.mp below).trans_lt ascii
  rcases Bool.or_eq_true_iff.mp letter with upper | lower
  · have range := of_decide_eq_true upper
    exact most 90 range.2 (by decide)
  · have above := (Bool.and_eq_true_iff.mp lower).2
    exact most 122 (of_decide_eq_true above) (by decide)

/-- A letter of ASCII as the rules for lower case see it. -/
structure Letter (c : Char) : Prop where
  ascii : c.toNat < 128
  cased : isCased c = true
  seen : isCaseIgnorable c = false

theorem letter_of_isAlpha {c : Char} (letter : c.isAlpha = true) : Letter c := by
  have seen : ∀ code < 128, (Char.ofNat code).isAlpha = true →
      isCaseIgnorable (Char.ofNat code) = false := by decide +kernel
  have ascii := isAlpha_ascii letter
  refine ⟨ascii, ?_, ?_⟩
  · rw [isCased, if_pos ascii, letter]
  · have own := seen c.toNat ascii
    rw [Char.ofNat_toNat] at own
    exact own letter

/-- In another case a letter is a letter with the same lower case. -/
theorem isAlpha_recased {c d : Char} (letter : c.isAlpha = true) (own : d = c.toLower ∨ d = c.toUpper) :
    d.isAlpha = true ∧ d.toLower = c.toLower := by
  have cases : ∀ code < 128, (Char.ofNat code).isAlpha = true →
      ((Char.ofNat code).toLower.isAlpha = true ∧
        (Char.ofNat code).toLower.toLower = (Char.ofNat code).toLower) ∧
      (Char.ofNat code).toUpper.isAlpha = true ∧
        (Char.ofNat code).toUpper.toLower = (Char.ofNat code).toLower := by decide +kernel
  have both := cases c.toNat (isAlpha_ascii letter)
  rw [Char.ofNat_toNat] at both
  rcases own with rfl | rfl
  · exact (both letter).1
  · exact (both letter).2

/-- A character and its like are one character, or two letters with one lower case. -/
theorem Recased.letters {c d : Char} (recased : Recased c d) :
    d = c ∨ Letter c ∧ Letter d ∧ d.toLower = c.toLower := by
  rcases recased with same | ⟨letter, own⟩
  · exact .inl same
  · obtain ⟨letter', lowered⟩ := isAlpha_recased letter own
    exact .inr ⟨letter_of_isAlpha letter, letter_of_isAlpha letter', lowered⟩

/-- Whether the next character has case does not depend on the case of letters. -/
theorem nextIsCased_alike {chars others : List Char} (alike : List.Forall₂ Recased chars others) :
    nextIsCased chars = nextIsCased others := by
  induction alike with
  | nil => rfl
  | @cons c d rest rest' recased _ ih =>
    unfold nextIsCased at ih ⊢
    rcases recased.letters with rfl | ⟨letter, letter', -⟩
    · by_cases skipped : isCaseIgnorable d = true <;> simp [skipped, ih]
    · simp [letter.seen, letter'.seen, letter.cased, letter'.cased]

/-- A character and its like have one lower case among neighbours that are alike. -/
theorem lowerAt_alike {c d : Char} (recased : Recased c d) {before before' after after' : List Char}
    (behind : List.Forall₂ Recased before before') (ahead : List.Forall₂ Recased after after') :
    lowerAt before c after = lowerAt before' d after' := by
  rcases recased.letters with rfl | ⟨letter, letter', lowered⟩
  · unfold lowerAt sigmaIsFinal
    rw [nextIsCased_alike behind, nextIsCased_alike ahead]
  · simp only [lowerAt, letter.ascii, letter'.ascii, if_true, lowered]

theorem lowerFrom_alike {chars others : List Char} (alike : List.Forall₂ Recased chars others)
    {before before' : List Char} (behind : List.Forall₂ Recased before before') :
    lowerFrom before chars = lowerFrom before' others := by
  induction alike generalizing before before' with
  | nil => rfl
  | cons recased ahead ih =>
    rw [lowerFrom, lowerFrom, lowerAt_alike recased behind ahead, ih (.cons recased behind)]

/-- **The lower case of a text does not depend on the case of its letters.** -/
theorem lower_respelled {text other : String} (respelled : Respelled text other) :
    lower text = lower other := by
  unfold lower
  rw [lowerFrom_alike respelled .nil]

theorem isEmpty_respelled {text other : String} (respelled : Respelled text other) :
    text.isEmpty = other.isEmpty := by
  have lengths : text.length = other.length := respelled.length_eq
  rw [Bool.eq_iff_iff, String.isEmpty_iff, String.isEmpty_iff, ← String.length_eq_zero_iff,
    ← String.length_eq_zero_iff, lengths]

end Text

/-! ### Interfaces with respelled names -/

namespace Abi

/-- **An entry whose name may be respelled**, which only that of a function is. -/
inductive Entry.Renamed : Entry → Entry → Prop
  | same (entry : Entry) : Renamed entry entry
  | function {name name' : String} (respelled : Text.Respelled name name')
      (inputs outputs : List Parameter) (mutability : Option String) :
      Renamed ⟨.function, some name, inputs, outputs, mutability⟩
        ⟨.function, some name', inputs, outputs, mutability⟩

/-- **What a renamed entry keeps**: everything but its name, and of that the lower case. -/
structure Entry.Alike (entry entry' : Entry) : Prop where
  kind : entry.kind = entry'.kind
  inputs : entry.inputs = entry'.inputs
  outputs : entry.outputs = entry'.outputs
  mutability : entry.mutability = entry'.mutability
  plain : Text.lower entry.title = Text.lower entry'.title
  unnamed : entry.title.isEmpty = entry'.title.isEmpty

theorem Entry.Alike.plainName {entry entry' : Entry} (alike : entry.Alike entry') :
    Detector.plainName entry = Detector.plainName entry' := alike.plain

theorem Entry.Alike.isReadOnly {entry entry' : Entry} (alike : entry.Alike entry') :
    entry.isReadOnly = entry'.isReadOnly := by
  unfold Entry.isReadOnly
  rw [alike.mutability]

theorem Entry.Alike.inputTypes {entry entry' : Entry} (alike : entry.Alike entry') :
    entry.inputTypes = entry'.inputTypes := by
  unfold Entry.inputTypes
  rw [alike.inputs]

theorem Entry.Alike.outputTypes {entry entry' : Entry} (alike : entry.Alike entry') :
    entry.outputTypes = entry'.outputTypes := by
  unfold Entry.outputTypes
  rw [alike.outputs]

/-- The words that a name mentions are those of its lower case. -/
theorem Entry.Alike.mentioned {entry entry' : Entry} (alike : entry.Alike entry')
    (words : List String) :
    Detector.mentioned entry.title words = Detector.mentioned entry'.title words := by
  unfold Detector.mentioned
  rw [alike.plain]

theorem Entry.Renamed.alike {entry entry' : Entry} (renamed : entry.Renamed entry') :
    entry.Alike entry' := by
  cases renamed with
  | same => exact ⟨rfl, rfl, rfl, rfl, rfl, rfl⟩
  | function respelled =>
    exact ⟨rfl, rfl, rfl, rfl, Text.lower_respelled respelled, Text.isEmpty_respelled respelled⟩

/-- **The same interface but for the names of functions**: functions that are alike one by one, and the
same events. -/
structure SameButNames (entries others : List Entry) : Prop where
  functions : List.Forall₂ Entry.Alike (functions entries) (functions others)
  events : events entries = events others

/-- **An interface in which names of functions are respelled.** -/
theorem sameButNames {entries others : List Entry} (renamed : List.Forall₂ Entry.Renamed entries others) :
    SameButNames entries others where
  functions := by
    refine filter_alike (renamed.imp fun _ _ => Entry.Renamed.alike) _ fun alike => ?_
    simp only [Entry.isFunction, alike.kind]
  events := by
    unfold events
    induction renamed with
    | nil => rfl
    | cons here _ ih =>
      cases here with
      | same entry => rw [List.filter_cons, List.filter_cons, ih]
      | function =>
        rw [List.filter_cons_of_neg (by simp [Entry.isEvent]),
          List.filter_cons_of_neg (by simp [Entry.isEvent]), ih]

end Abi

/-! ### Findings with the same figures -/

/-- **Tables with the same numbers**, under whatever keys. -/
def SameNumbers (table other : List (String × Value)) : Prop :=
  ∀ key number, table.lookup key = some (.number number) ↔ other.lookup key = some (.number number)

/-- A list at the end of a table is none of its numbers. -/
theorem sameNumbers_concat (table : List (String × Value)) (key : String) (items others : List Value) :
    SameNumbers (table ++ [(key, .list items)]) (table ++ [(key, .list others)]) := by
  intro asked number
  rw [List.lookup_append, List.lookup_append]
  cases table.lookup asked with
  | some value => rfl
  | none => by_cases own : asked == key <;> simp [List.lookup_cons, own]

/-- **Findings with the same figures**: the verdict, the confidence, the severity, the number of lines of
evidence, and every number that is reported beside them. -/
structure Finding.SameFigures {α : Type} (finding other : Finding α) : Prop where
  detected : finding.detected = other.detected
  confidence : finding.confidence = other.confidence
  severity : finding.severity = other.severity
  lines : finding.evidence.length = other.evidence.length
  numbers : SameNumbers finding.metadata other.metadata

/-- Inspections with the same figures. -/
inductive Inspection.SameFigures {α : Type} : Inspection α → Inspection α → Prop
  | skipped (reason : String) (metadata : List (String × Value)) :
      SameFigures (.skipped reason metadata) (.skipped reason metadata)
  | observed (confidence : α) (severity : Severity) {lines others : List String}
      (length : lines.length = others.length) {metadata metadata' : List (String × Value)}
      (numbers : SameNumbers metadata metadata') :
      SameFigures (.observed ⟨confidence, lines, severity, metadata⟩)
        (.observed ⟨confidence, others, severity, metadata'⟩)

/-- The conclusion asks only whether there is a line. -/
theorem Inspection.SameFigures.conclude {α : Type} [Mul α] [LT α] [DecidableLT α] [OfScientific α]
    [Decimal.Rendered α] {inspection other : Inspection α} (same : inspection.SameFigures other)
    (category : Category) : (inspection.conclude category).SameFigures (other.conclude category) := by
  cases same with
  | skipped reason metadata => exact ⟨rfl, rfl, rfl, rfl, fun _ _ => Iff.rfl⟩
  | @observed confidence severity lines others length metadata metadata' numbers =>
    have none : lines.isEmpty = others.isEmpty := by
      rw [Bool.eq_iff_iff, List.isEmpty_iff_length_eq_zero, List.isEmpty_iff_length_eq_zero, length]
    refine ⟨?_, rfl, rfl, length, numbers⟩
    simp only [Inspection.conclude, Finding.ofObservation, none]

namespace Detector

variable {α : Type} [Add α] [Mul α] [Div α] [LT α] [LE α] [DecidableLT α] [DecidableLE α]
  [OfScientific α] [NatCast α] {entries others : List Entry}

/-! ### Fake balances -/

namespace FakeBalance

section

variable {function function' : Entry} (alike : function.Alike function')
include alike

theorem isBalance_alike : isBalance function = isBalance function' := by
  unfold isBalance
  rw [alike.mentioned]

theorem isTimeBased_alike : isTimeBased function = isTimeBased function' := by
  unfold isTimeBased suspicions
  rw [isBalance_alike alike, alike.isReadOnly, alike.mentioned]

theorem standardShape?_alike : standardShape? function = standardShape? function' := by
  unfold standardShape?
  rw [alike.plainName]

theorem badReturn?_alike : badReturn? function = badReturn? function' := by
  unfold badReturn?
  rw [alike.plainName, alike.outputTypes]

theorem isImproper_alike : isImproper function = isImproper function' := by
  unfold isImproper
  rw [standardShape?_alike alike, badReturn?_alike alike, alike.inputTypes]

/-- An improper function is charged with as many lines under either name. -/
theorem improperLines_alike : (improperLines function).length = (improperLines function').length := by
  unfold improperLines
  rw [standardShape?_alike alike, badReturn?_alike alike, alike.inputTypes]
  by_cases fits : shapeFits function'.inputTypes ((standardShape? function').getD []) = true
  · cases badReturn? function' <;> simp [fits]
  · cases badReturn? function' <;> simp [fits]

end

variable (same : SameButNames entries others)
include same

theorem timeBased_alike : List.Forall₂ Entry.Alike (timeBased entries) (timeBased others) :=
  filter_alike same.functions _ isTimeBased_alike

theorem improper_alike : List.Forall₂ Entry.Alike (improper entries) (improper others) :=
  filter_alike same.functions _ isImproper_alike

theorem badTransfers_alike : badTransfers entries = badTransfers others := by
  rw [badTransfers, badTransfers, same.events]

theorem evidence_length : (evidence entries).length = (evidence others).length := by
  have charged := map_alike (improper_alike same) _ improperLines_alike
  simp only [evidence, List.length_append, List.length_map, List.length_flatMap, charged,
    (timeBased_alike same).length_eq, badTransfers_alike same]

theorem inspect_figures :
    Inspection.SameFigures (inspect entries : Inspection α) (inspect others) := by
  have times := (timeBased_alike same).length_eq
  have improper := (improper_alike same).length_eq
  have functions := same.functions.length_eq
  have balances := (filter_alike same.functions _ isBalance_alike).length_eq
  have confidence_eq : (confidence entries : α) = confidence others := by
    simp only [confidence, times, improper, functions]
  have named := any_alike (improper_alike same) (plainName · = "balanceof") fun alike => by
    rw [alike.plainName]
  have severity_eq (share : α) : severity entries share = severity others share := by
    simp only [severity, named, times]
  unfold inspect
  simp only [confidence_eq, severity_eq, times, improper, functions, balances, badTransfers_alike same]
  exact .observed _ _ (evidence_length same)
    (sameNumbers_concat [(_, _), (_, _), (_, _), (_, _), (_, _), (_, _)] _ _ _)

end FakeBalance

/-! ### Hidden redirections -/

namespace HiddenRedirection

variable (same : SameButNames entries others)
include same

theorem setters_alike : List.Forall₂ Entry.Alike (setters entries) (setters others) :=
  filter_alike same.functions _ fun alike => by
    rw [alike.isReadOnly, alike.inputTypes, alike.mentioned]

theorem inspect_figures (code : List UInt8) :
    Inspection.SameFigures (inspect entries code : Inspection α) (inspect others code) := by
  have setters := (setters_alike same).length_eq
  have functions := same.functions.length_eq
  have none := isEmpty_alike same.functions
  have confidence_eq (found : List Signal) : (confidence found entries : α) = confidence found others := by
    simp only [confidence, setterScore, setters, functions]
  have severity_eq (found : List Signal) (share : α) :
      severity found entries share = severity found others share := by
    simp only [severity, setters]
  unfold inspect
  simp only [none, confidence_eq, severity_eq, setters, functions]
  split
  · exact .skipped _ _
  · exact .observed _ _ (by simp [evidence, setters]) fun _ _ => Iff.rfl

end HiddenRedirection

/-! ### Non-functional transfers -/

namespace NonFunctionalTransfer

section

variable {function function' : Entry} (alike : function.Alike function')
include alike

theorem transferWord?_alike : transferWord? function.title = transferWord? function'.title := by
  unfold transferWord?
  rw [alike.plain]

theorem recordsCall_alike (event : Entry) : recordsCall event function = recordsCall event function' := by
  unfold recordsCall
  rw [transferWord?_alike alike]

theorem namingLines_alike : (namingLines function).length = (namingLines function').length := by
  unfold namingLines
  rw [alike.plainName, alike.outputTypes, alike.outputs]
  simp only [List.length_append, apply_ite List.length, List.length_cons, List.length_nil]

end

variable (same : SameButNames entries others)
include same

theorem transferLogs_alike : transferLogs entries = transferLogs others := by
  rw [transferLogs, transferLogs, same.events]

theorem transfers_alike : List.Forall₂ Entry.Alike (transfers entries) (transfers others) :=
  filter_alike same.functions _ fun alike => by rw [transferWord?_alike alike]

theorem viewTransfers_alike :
    List.Forall₂ Entry.Alike (viewTransfers entries) (viewTransfers others) :=
  filter_alike (transfers_alike same) _ Entry.Alike.isReadOnly

theorem stateChanging_alike :
    List.Forall₂ Entry.Alike (stateChanging entries) (stateChanging others) :=
  filter_alike (transfers_alike same) _ fun alike => by rw [alike.isReadOnly]

theorem unrecorded_alike : List.Forall₂ Entry.Alike (unrecorded entries) (unrecorded others) := by
  unfold unrecorded
  rw [transferLogs_alike same]
  exact filter_alike (stateChanging_alike same) _ fun alike => by simp only [recordsCall_alike alike]

theorem orphaned_alike : orphaned entries = orphaned others := by
  have recorded (event : Entry) := any_alike (stateChanging_alike same) (recordsCall event)
    fun alike => recordsCall_alike alike event
  simp only [orphaned, transferLogs_alike same, recorded]

theorem evidence_length : (evidence entries false).length = (evidence others false).length := by
  have named := map_alike (transfers_alike same) _ namingLines_alike
  simp [evidence, nonFunctional, named, (viewTransfers_alike same).length_eq,
    (unrecorded_alike same).length_eq, orphaned_alike same]

omit same in
/-- No code writes no log. -/
theorem not_storageLess_nil : ¬ StorageLess [] := by
  simp [← isStorageLess_iff, isStorageLess, sweep, sweepFrom, containsOpcode]

theorem inspect_figures {code : List UInt8} (stores : ¬ StorageLess code) :
    Inspection.SameFigures (inspect entries code : Inspection α) (inspect others code) := by
  have plain : isStorageLess code = false := Bool.eq_false_iff.mpr (mt isStorageLess_iff.mp stores)
  have functions := same.functions.length_eq
  have none := isEmpty_alike same.functions
  have views := (viewTransfers_alike same).length_eq
  have broken : (nonFunctional entries false).length = (nonFunctional others false).length :=
    (unrecorded_alike same).length_eq
  have orphans := orphaned_alike same
  have confidence_eq : (confidence entries false : α) = confidence others false := by
    simp only [confidence, broken, orphans, views, functions]
  have named := any_alike (viewTransfers_alike same) (fun f => standardFunctions.contains (plainName f))
    fun alike => by rw [alike.plainName]
  have severity_eq (share : α) (count : Nat) :
      severity entries share count = severity others share count := by
    simp only [severity, named]
  unfold inspect
  simp only [plain, none, confidence_eq, severity_eq, broken, orphans, views, functions,
    (transfers_alike same).length_eq, transferLogs_alike same]
  split
  · exact .skipped _ _
  · exact .observed _ _ (evidence_length same) fun _ _ => Iff.rfl

end NonFunctionalTransfer

/-! ### Deceptive events -/

namespace DeceptiveEvents

variable (same : SameButNames entries others)
include same

theorem named_alike : named entries = named others := by
  rw [named, named, same.events]

theorem stateChanging_alike :
    List.Forall₂ Entry.Alike (stateChanging entries) (stateChanging others) :=
  filter_alike same.functions _ fun alike => by rw [alike.unnamed, alike.isReadOnly]

omit same in
theorem related_alike {function function' : Entry} (alike : function.Alike function') (event : String) :
    related event function.title = related event function'.title := by
  unfold related
  rw [alike.plain]

theorem unbacked_alike : unbacked entries = unbacked others := by
  have backed (event : Entry) := any_alike (stateChanging_alike same)
    (fun function => related event.title function.title) fun alike => related_alike alike event.title
  simp only [unbacked, named_alike same, backed]

theorem silent_alike : List.Forall₂ Entry.Alike (silent entries) (silent others) := by
  unfold silent
  rw [named_alike same]
  exact filter_alike (stateChanging_alike same) _ fun alike => by
    simp only [alike.mentioned, related_alike alike]

theorem misordered_alike : misordered entries = misordered others := by
  rw [misordered, misordered, named_alike same]

theorem evidence_length : (evidence entries).length = (evidence others).length := by
  simp [evidence, unbacked_alike same, (silent_alike same).length_eq, misordered_alike same]

theorem inspect_figures :
    Inspection.SameFigures (inspect entries : Inspection α) (inspect others) := by
  have silent := (silent_alike same).length_eq
  have confidence_eq : (confidence entries : α) = confidence others := by
    simp only [confidence, unbacked_alike same, silent, misordered_alike same, named_alike same]
  unfold inspect
  simp only [named_alike same, confidence_eq, unbacked_alike same, silent, misordered_alike same,
    (stateChanging_alike same).length_eq, evidence_length same]
  split
  · exact .skipped _ _
  · exact .observed _ _ (evidence_length same) fun _ _ => Iff.rfl

end DeceptiveEvents

/-! ### All detectors -/

/-- **Each detector shows the same figures**, that of non-functional transfers unless the code logs and
writes no storage. -/
theorem inspect_figures (same : SameButNames entries others) (category : Category) {code : List UInt8}
    (stores : category = .nonFunctionalTransfer → ¬ NonFunctionalTransfer.StorageLess code) :
    Inspection.SameFigures (inspect category entries code : Inspection α) (inspect category others code) := by
  cases category with
  | fakeBalance => exact FakeBalance.inspect_figures same
  | hiddenRedirection => exact HiddenRedirection.inspect_figures same code
  | nonFunctionalTransfer => exact NonFunctionalTransfer.inspect_figures same (stores rfl)
  | deceptiveEvents => exact DeceptiveEvents.inspect_figures same

end Detector

/-- **The case of a function's name hides nothing.** -/
theorem detect_respelled {α : Type} [Add α] [Mul α] [Div α] [LT α] [LE α] [DecidableLT α]
    [DecidableLE α] [OfScientific α] [NatCast α] [Decimal.Rendered α] (category : Category)
    {entries others : List Entry} (renamed : List.Forall₂ Entry.Renamed entries others) (code : Value)
    (stores : category = .nonFunctionalTransfer → ∀ bytes, Bytecode.read code = .ok bytes →
      ¬ Detector.NonFunctionalTransfer.StorageLess bytes) :
    (∀ failure, Detector.codeFor category code = .error failure →
      (detect category (.ofEntries entries) code : Except Failure (Finding α)) = .error failure ∧
        (detect category (.ofEntries others) code : Except Failure (Finding α)) = .error failure) ∧
      ∀ bytes, Detector.codeFor category code = .ok bytes → ∃ finding other : Finding α,
        detect category (.ofEntries entries) code = .ok finding ∧
          detect category (.ofEntries others) code = .ok other ∧ finding.SameFigures other := by
  unfold detect
  rw [Abi.entriesOf_ofEntries, Abi.entriesOf_ofEntries]
  refine ⟨fun failure refused => ?_, fun bytes reads => ?_⟩
  · rw [refused]
    exact ⟨rfl, rfl⟩
  · rw [reads]
    refine ⟨_, _, rfl, rfl, (Detector.inspect_figures (sameButNames renamed) category ?_).conclude category⟩
    rintro rfl
    exact stores rfl bytes (Attempt.mapError_eq_ok.mp reads)

/-- A transfer whose name ends in a capital sigma, beside a transfer and an event. -/
def mixedNames (name : String) : List Entry := [
  ⟨.event, some "Transfer", [], [], none⟩,
  ⟨.function, some name, [], [], some "nonpayable"⟩,
  ⟨.function, some "transfer", [], [], some "view"⟩]

/-- Without code a transfer is found under any spelling of its name. -/
theorem detect_respelled_sigma :
    List.Forall₂ Entry.Renamed (mixedNames "withdrawFakeΣ") (mixedNames "WithDrawFAKEΣ") ∧
      (∀ bytes, Bytecode.read .null = .ok bytes →
        ¬ Detector.NonFunctionalTransfer.StorageLess bytes) ∧
      ∃ finding other : Finding Float,
        detect .nonFunctionalTransfer (.ofEntries (mixedNames "withdrawFakeΣ")) .null = .ok finding ∧
          detect .nonFunctionalTransfer (.ofEntries (mixedNames "WithDrawFAKEΣ")) .null = .ok other ∧
          finding.SameFigures other := by
  have respelled : Text.Respelled "withdrawFakeΣ" "WithDrawFAKEΣ" := by decide
  have renamed : List.Forall₂ Entry.Renamed (mixedNames "withdrawFakeΣ") (mixedNames "WithDrawFAKEΣ") :=
    .cons (.same _) (.cons (.function respelled [] [] _) (.cons (.same _) .nil))
  have stores : ∀ bytes, Bytecode.read .null = .ok bytes →
      ¬ Detector.NonFunctionalTransfer.StorageLess bytes := by
    intro bytes reads
    cases reads
    exact Detector.NonFunctionalTransfer.not_storageLess_nil
  exact ⟨renamed, stores,
    (detect_respelled .nonFunctionalTransfer renamed .null fun _ => stores).2 [] rfl⟩

-- With code that logs and writes no storage, two transfers with an event count once if they are spelled
-- alike, and twice if they are not.
example :
    let event : Entry := ⟨.event, some "Transfer", [], [], none⟩
    let transfer (name : String) : Entry := ⟨.function, some name, [], [], none⟩
    (Detector.NonFunctionalTransfer.nonFunctional
        [event, transfer "transfer", transfer "transfer"] true).length = 1 ∧
      (Detector.NonFunctionalTransfer.nonFunctional
        [event, transfer "transfer", transfer "Transfer"] true).length = 2 := by
  decide

end ContractRisk
