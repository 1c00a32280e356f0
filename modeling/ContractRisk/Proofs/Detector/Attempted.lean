/-
**No detector stumbles.**

The detectors take names of entries, look up shapes and places, divide by counts and build findings, each
of which can go wrong (`Mishap`). Here they do so step by step (`Attempted.inspect`), and every step
succeeds, because the entries and places at which it is taken were chosen before: names are taken of
entries that have one, a word is there for each transfer, and counts are those of lists that are not
empty.

* `DeceptiveEvents.inspect_eq`, `FakeBalance.inspect_eq`, `HiddenRedirection.inspect_eq`,
  `NonFunctionalTransfer.inspect_eq`: each detector, step by step;
* `inspect_eq`: no detector has a mishap, and what it sees is what `Detector.inspect` says;
* `accepted_eq`: a finding is accepted if its confidence lies in the unit interval.
-/

import ContractRisk.Detector
import ContractRisk.Proofs.Bytecode.BackwardSearch
import ContractRisk.Proofs.Finding

namespace ContractRisk

/-- What can go wrong in a detector whose input is well formed. -/
inductive Mishap where
  /-- The name of an entry that has none is taken. -/
  | nameless
  /-- A name is searched for a word that is not there. -/
  | wordless
  /-- The types of a shape that is not there are listed. -/
  | shapeless
  /-- The shape of an event is looked up that the standard does not know. -/
  | unknownEvent (name : String)
  /-- An address that is not there is searched for marks. -/
  | addressless
  /-- A count of zero divides. -/
  | zeroCount
  /-- A place outside of a list is looked up. -/
  | outOfRange
  /-- The finding is not accepted. -/
  | rejected (failure : Failure)

namespace Mishap

/-- The family under which a mishap is reported. -/
def family : Mishap → String
  | nameless => "AttributeError"
  | wordless | shapeless | addressless => "TypeError"
  | unknownEvent _ => "KeyError"
  | zeroCount => "ZeroDivisionError"
  | outOfRange => "IndexError"
  | rejected failure => failure.kind.name

/-- The wording of a mishap. -/
def message : Mishap → String
  | nameless => "'NoneType' object has no attribute 'lower'"
  | wordless => "'in <string>' requires string as left operand, not NoneType"
  | shapeless => "can only join an iterable"
  | unknownEvent name => Text.quote name
  | addressless => "argument of type 'NoneType' is not iterable"
  | zeroCount => "float division by zero"
  | outOfRange => "list index out of range"
  | rejected failure => failure.message

end Mishap

namespace Detector.Attempted

open Abi

/-! ### Steps -/

/-- The name of an entry, which must have one. -/
def nameOf (entry : Entry) : Except Mishap String :=
  match entry.name with
  | some name => .ok name
  | none => .error .nameless

/-- A number divided by a count. -/
def divided (x : Float) (count : Nat) : Except Mishap Float :=
  if count = 0 then .error .zeroCount else .ok (x / (count : Nat))

/-- The item at a place of a list. -/
def itemAt {β : Type} (items : List β) (place : Nat) : Except Mishap β :=
  match items[place]? with
  | some item => .ok item
  | none => .error .outOfRange

/-- The finding with certain fields, if they are accepted. -/
def accepted (finding : Finding Float) : Except Mishap (Finding Float) :=
  (Finding.read finding.wire).mapError .rejected

theorem nameOf_eq {entry : Entry} (named : entry.title ≠ "") : nameOf entry = .ok entry.title := by
  unfold nameOf
  unfold Entry.title at named ⊢
  cases own : entry.name with
  | none => exact absurd (by rw [own]; rfl) named
  | some name => rfl

theorem divided_eq (x : Float) {count : Nat} (positive : count ≠ 0) :
    divided x count = .ok (x / (count : Nat)) :=
  if_neg positive

theorem accepted_eq {finding : Finding Float} (low : 0.0 ≤ finding.confidence)
    (high : finding.confidence ≤ 1.0) : accepted finding = .ok finding := by
  rw [accepted, Finding.read_wire low high]
  rfl

/-! ### Deceptive events -/

namespace DeceptiveEvents

open Detector.DeceptiveEvents (named stateChanging tellingEvents tellingWords standardEvents)

/-- Whether the names of an event and a function belong together. -/
def related (event function : Entry) : Except Mishap Bool := do
  let emitted ← nameOf event
  let called ← nameOf function
  return Detector.DeceptiveEvents.related emitted called

/-- The telling events that no state-changing function could emit. -/
def unbacked (entries : List Entry) : Except Mishap (List Entry) :=
  (named entries).filterM fun event => do
    let name ← nameOf event
    if tellingEvents.contains (Text.lower name) then
      let backed ← (stateChanging entries).anyM (related event ·)
      return !backed
    else return false

/-- The telling functions that no event could record. -/
def silent (entries : List Entry) : Except Mishap (List Entry) :=
  (stateChanging entries).filterM fun function => do
    if (mentioned function.title tellingWords).isEmpty then return false
    else
      let recorded ← (named entries).anyM (related · function)
      return !recorded

/-- The shape of an event that the standard knows. -/
def shapeOf (event : Entry) : Except Mishap (List String) :=
  if standardEvents.contains event.title then .ok transferShape
  else .error (.unknownEvent event.title)

/-- The standard events of another shape. -/
def misordered (entries : List Entry) : Except Mishap (List Entry) :=
  (named entries).filterM fun event => do
    if standardEvents.contains event.title then
      let shape ← shapeOf event
      return !shapeFits event.inputTypes shape
    else return false

/-- What a misordered event is charged with. -/
def misorderedLine (event : Entry) : Except Mishap String := do
  let shape ← shapeOf event
  return s!"Event '{event.title}' declares parameters ({commas event.inputTypes}) " ++
    s!"instead of the standard ({commas shape}) order"

/-- What the interface shows. -/
def inspect (entries : List Entry) : Except Mishap (Inspection Float) := do
  if (named entries).isEmpty then return .skipped "no_events" [("total_events", .count 0)]
  else
    let unbacked ← unbacked entries
    let silent ← silent entries
    let misordered ← misordered entries
    let misorderedLines ← misordered.mapM misorderedLine
    let evidence := unbacked.map Detector.DeceptiveEvents.unbackedLine ++
      silent.map Detector.DeceptiveEvents.silentLine ++ misorderedLines
    let hits : Float :=
      1.0 * (unbacked.length : Nat) + 1.0 * (silent.length : Nat) + 1.0 * (misordered.length : Nat)
    let share ← divided (1.5 * hits) (named entries).length
    return .observed {
      confidence := capped share
      evidence := evidence
      severity := Detector.DeceptiveEvents.severity (capped share) evidence.length
      metadata := [
        ("total_events", .count (named entries).length),
        ("state_changing_functions", .count (stateChanging entries).length),
        ("deceptive_event_count", .count unbacked.length),
        ("silent_function_count", .count silent.length),
        ("misordered_event_count", .count misordered.length)] }

section

variable {entries : List Entry} {event function : Entry}

theorem named_title (member : event ∈ named entries) : event.title ≠ "" := by
  have given := (List.mem_filter.mp member).2
  intro unnamed
  rw [unnamed] at given
  exact absurd given (by decide)

theorem stateChanging_title (member : function ∈ stateChanging entries) : function.title ≠ "" := by
  have given := (List.mem_filter.mp member).2
  intro unnamed
  rw [unnamed] at given
  exact absurd given (by simp)

theorem related_eq (emitted : event.title ≠ "") (called : function.title ≠ "") :
    related event function = .ok (Detector.DeceptiveEvents.related event.title function.title) := by
  unfold related
  rw [nameOf_eq emitted, nameOf_eq called]
  rfl

theorem unbacked_eq (entries : List Entry) :
    unbacked entries = .ok (Detector.DeceptiveEvents.unbacked entries) := by
  refine Attempt.filterM_eq_ok fun event member => ?_
  have backed := Attempt.anyM_eq_ok fun function (inside : function ∈ stateChanging entries) =>
    related_eq (named_title member) (stateChanging_title inside)
  rw [nameOf_eq (named_title member)]
  change (if tellingEvents.contains (plainName event) then _ else _) = _
  rw [backed]
  cases tellingEvents.contains (plainName event) <;> rfl

theorem silent_eq (entries : List Entry) :
    silent entries = .ok (Detector.DeceptiveEvents.silent entries) := by
  refine Attempt.filterM_eq_ok fun function member => ?_
  have recorded := Attempt.anyM_eq_ok fun event (inside : event ∈ named entries) =>
    related_eq (named_title inside) (stateChanging_title member)
  rw [recorded]
  cases (mentioned function.title tellingWords).isEmpty <;> rfl

theorem shapeOf_eq (standard : standardEvents.contains event.title = true) :
    shapeOf event = .ok transferShape :=
  if_pos standard

theorem misordered_eq (entries : List Entry) :
    misordered entries = .ok (Detector.DeceptiveEvents.misordered entries) := by
  refine Attempt.filterM_eq_ok fun event _ => ?_
  cases standard : standardEvents.contains event.title with
  | true =>
    rw [shapeOf_eq standard]
    rfl
  | false => rfl

theorem misorderedLine_eq (member : event ∈ Detector.DeceptiveEvents.misordered entries) :
    misorderedLine event = .ok (Detector.DeceptiveEvents.misorderedLine event) := by
  have standard := (Bool.and_eq_true_iff.mp (List.mem_filter.mp member).2).1
  unfold misorderedLine
  rw [shapeOf_eq standard]
  rfl

/-- **Deceptive events are looked for without a mishap.** -/
theorem inspect_eq (entries : List Entry) :
    inspect entries = .ok (Detector.DeceptiveEvents.inspect entries) := by
  unfold inspect Detector.DeceptiveEvents.inspect
  by_cases empty : (named entries).isEmpty = true
  · rw [if_pos empty, if_pos empty]
    rfl
  · have lines := Attempt.mapM_eq_ok fun event
      (inside : event ∈ Detector.DeceptiveEvents.misordered entries) => misorderedLine_eq inside
    have positive : (named entries).length ≠ 0 := by
      rwa [List.isEmpty_iff_length_eq_zero] at empty
    rw [if_neg empty, if_neg empty, unbacked_eq, silent_eq, misordered_eq]
    change (do
      let misorderedLines ← (Detector.DeceptiveEvents.misordered entries).mapM misorderedLine
      _) = _
    rw [lines]
    change (do
      let share ← divided _ (named entries).length
      _) = _
    rw [divided_eq _ positive]
    rfl

end

end DeceptiveEvents

/-! ### Fake balances -/

namespace FakeBalance

open Detector.FakeBalance (standardShape? badReturn? timeBased improper badTransfers isBalance)

/-- The parameters that the standard gives a function, which must know it. -/
def shapeOf (function : Entry) : Except Mishap (List String) :=
  match standardShape? function with
  | some shape => .ok shape
  | none => .error .shapeless

/-- Whether the parameters of a function are those of the standard, if it knows the function. -/
def isProper (function : Entry) : Bool :=
  (standardShape? function).all (shapeFits function.inputTypes ·)

/-- What an improper function is charged with. -/
def improperLines (function : Entry) : Except Mishap (List String) := do
  let parameters ←
    if isProper function then pure []
    else do
      let shape ← shapeOf function
      pure [s!"ERC20 function '{function.title}' has incorrect parameters " ++
        s!"(expected ({commas shape}), found ({commas function.inputTypes}))"]
  let result := match badReturn? function with
    | some types => [s!"{function.title} function returns '{types}' instead of 'uint256'"]
    | none => []
  return parameters ++ result

/-- What the interface shows. -/
def inspect (entries : List Entry) : Except Mishap (Inspection Float) := do
  let times := timeBased entries
  let others := improper entries
  let improperLines ← others.mapM improperLines
  let evidence := times.map Detector.FakeBalance.timeLine ++ improperLines.flatten ++
    times.map Detector.FakeBalance.chanceLine ++
    (badTransfers entries).map Detector.FakeBalance.transferLine
  let hits : Float :=
    0.4 * (times.length : Nat) + 0.3 * (others.length : Nat) + 0.2 * (times.length : Nat)
  let share ← divided (2.0 * hits) (max 1 (functions entries).length)
  return .observed {
    confidence := capped share
    evidence := evidence
    severity := Detector.FakeBalance.severity entries (capped share)
    metadata := [
      ("total_functions", .count (functions entries).length),
      ("balance_functions", .count ((functions entries).filter isBalance).length),
      ("timestamp_based_count", .count times.length),
      ("improper_erc20_count", .count others.length),
      ("non_deterministic_count", .count times.length),
      ("transfer_event_issues", .count (badTransfers entries).length),
      ("flagged_functions",
        .list ((sortedTexts ((times ++ others).map (·.title))).map .text))] }

theorem improperLines_eq {entries : List Entry} {function : Entry} (member : function ∈ improper entries) :
    improperLines function = .ok (Detector.FakeBalance.improperLines function) := by
  have wrong := (List.mem_filter.mp member).2
  unfold improperLines isProper shapeOf Detector.FakeBalance.improperLines
  unfold Detector.FakeBalance.isImproper at wrong
  -- the standard knows whatever is improper
  cases known : standardShape? function with
  | none =>
    rw [known] at wrong
    cases wrong
  | some shape =>
    cases badReturn? function
    all_goals
      cases fits : shapeFits function.inputTypes shape
      all_goals simp [fits, Bind.bind, Except.bind, Pure.pure, Except.pure]

/-- **Fake balances are looked for without a mishap.** -/
theorem inspect_eq (entries : List Entry) :
    inspect entries = .ok (Detector.FakeBalance.inspect entries) := by
  have lines := Attempt.mapM_eq_ok fun function (inside : function ∈ improper entries) =>
    improperLines_eq inside
  have positive : max 1 (functions entries).length ≠ 0 := by omega
  unfold inspect
  simp only
  rw [lines]
  change (do
    let share ← divided _ (max 1 (functions entries).length)
    _) = _
  rw [divided_eq _ positive]
  rfl

end FakeBalance

/-! ### Instructions -/

/-- The instructions of a code from a place on. -/
def sweepFrom (code : List UInt8) (position : Nat) : Except Mishap (List Instruction) :=
  if position < code.length then do
    let opcode ← itemAt code position
    let width := Instruction.width opcode
    let rest ← sweepFrom code (position + 1 + width)
    return ⟨position, opcode, (code.drop (position + 1)).take width⟩ :: rest
  else .ok []
termination_by code.length - position

theorem itemAt_eq {β : Type} {items : List β} {place : Nat} {item : β} (there : items[place]? = some item) :
    itemAt items place = .ok item := by
  rw [itemAt, there]

theorem sweepFrom_eq (code : List UInt8) (position : Nat) :
    sweepFrom code position = .ok (ContractRisk.sweepFrom position (code.drop position)) := by
  induction position using sweepFrom.induct code with
  | case1 position inside ih =>
    have here : itemAt code position = .ok code[position] := itemAt_eq (List.getElem?_eq_getElem inside)
    rw [sweepFrom, if_pos inside, List.drop_eq_getElem_cons inside, ContractRisk.sweepFrom,
      List.drop_drop, here]
    change (do
      let rest ← sweepFrom code (position + 1 + Instruction.width code[position])
      _) = _
    rw [ih]
    rfl
  | case2 position outside =>
    rw [sweepFrom, if_neg outside, List.drop_eq_nil_of_le (Nat.le_of_not_lt outside),
      ContractRisk.sweepFrom]

/-! ### Hidden redirections -/

namespace HiddenRedirection

open Detector.HiddenRedirection (Signal lookback isMadeUp callName? destructOpcode jumpOpcode signalAt?
  signalsFrom)

/-- The address that an instruction pushes, which must do so. -/
def addressOf (instruction : Instruction) : Except Mishap String :=
  match instruction.pushedAddress? with
  | some address => .ok address
  | none => .error .addressless

/-- The address that was pushed nearest before a place. -/
def targetAt (instructions : List Instruction) (index : Nat) : Except Mishap (Option String) := do
  let push ← (precedingPush? instructions index lookback).mapError fun _ => Mishap.outOfRange
  return push.bind (·.pushedAddress?)

/-- What the instruction at a place signals. -/
def signalAt (instructions : List Instruction) (index : Nat) (instruction : Instruction) :
    Except Mishap (Option Signal) := do
  if instruction.isAddressPush then
    let address ← addressOf instruction
    return if isMadeUp address then some (.literal instruction.position address) else none
  else match callName? instruction.opcode with
    | some name =>
      let target ← targetAt instructions index
      return target.map (.call instruction.position name)
    | none =>
      if instruction.opcode = destructOpcode then
        let target ← targetAt instructions index
        return target.map (.destruct instruction.position)
      else if instruction.opcode = jumpOpcode && 0 < index then
        let previous ← itemAt instructions (index - 1)
        return if previous.isPush then some .jump else none
      else return none

/-- The signals of a code, which is not looked at if it is empty. -/
def signals (code : List UInt8) : Except Mishap (List Signal) :=
  if code.isEmpty then .ok []
  else do
    let instructions ← sweepFrom code 0
    let found ← instructions.zipIdx.mapM fun place => signalAt instructions place.2 place.1
    return found.reduceOption

/-- What interface and code show. -/
def inspect (entries : List Entry) (code : List UInt8) : Except Mishap (Inspection Float) := do
  if code.isEmpty && (functions entries).isEmpty then
    return .skipped "empty_bytecode" [("bytecode_length", .count 0)]
  else
    let found ← signals code
    let setters := Detector.HiddenRedirection.setters entries
    let setterScore ← divided (2.0 * 0.2 * (setters.length : Nat)) (max 1 (functions entries).length)
    let share := capped (Detector.HiddenRedirection.codeScore found + setterScore)
    return .observed {
      confidence := share
      evidence := Detector.HiddenRedirection.evidence found entries
      severity := Detector.HiddenRedirection.severity found entries share
      metadata := [
        ("bytecode_length", .count code.length),
        ("total_functions", .count (functions entries).length),
        ("hardcoded_call_count", .count (Detector.HiddenRedirection.calls found).length),
        ("selfdestruct_count", .count (Detector.HiddenRedirection.destructs found).length),
        ("suspicious_address_count", .count (Detector.HiddenRedirection.literals found).length),
        ("redirect_setter_count", .count setters.length),
        ("jumpi_after_push_count", .count (Detector.HiddenRedirection.jumps found))] }

/-- **What an instruction signals depends on those before it.** -/
theorem targetAt_eq {instructions : List Instruction} {index : Nat} (inside : index ≤ instructions.length) :
    targetAt instructions index =
      .ok (Detector.HiddenRedirection.target? (instructions.take index).reverse) := by
  unfold targetAt
  rw [precedingPush?_eq_nearestPush? inside]
  rfl

theorem signalAt_eq {instructions : List Instruction} {index : Nat} {instruction : Instruction}
    (there : instructions[index]? = some instruction) :
    signalAt instructions index instruction =
      .ok (signalAt? (instructions.take index).reverse instruction) := by
  obtain ⟨inside, -⟩ := List.getElem?_eq_some_iff.mp there
  have target := targetAt_eq (Nat.le_of_lt inside)
  unfold signalAt signalAt?
  cases pushes : instruction.isAddressPush with
  | true =>
    have address : instruction.pushedAddress? = some (Bytecode.write instruction.immediate) := if_pos pushes
    simp only [addressOf, address]
    rfl
  | false =>
    have nothing : instruction.pushedAddress? = none := if_neg (by simp [pushes])
    simp only [nothing]
    cases callName? instruction.opcode with
    | some name =>
      rw [target]
      rfl
    | none =>
      by_cases destruct : instruction.opcode = destructOpcode
      · simp only [if_pos destruct]
        rw [target]
        rfl
      · simp only [if_neg destruct]
        cases index with
        | zero => simp [Pure.pure, Except.pure]
        | succ place =>
          have before : instructions[place]? = some instructions[place] :=
            List.getElem?_eq_getElem (Nat.lt_of_succ_lt inside)
          have head : (instructions.take (place + 1)).reverse.head? = some instructions[place] := by
            rw [List.head?_reverse, List.getLast?_take]
            simp [before]
          rw [Nat.add_sub_cancel, itemAt_eq before, head]
          cases decide (instruction.opcode = jumpOpcode)
          all_goals
            cases pushed : instructions[place].isPush
            all_goals simp [pushed, Bind.bind, Except.bind, Pure.pure, Except.pure]

/-- What the instructions of a list signal one by one, each behind those before it, is what they signal
together. -/
theorem signalsFrom_eq (before rest : List Instruction) :
    ((rest.zipIdx before.length).map fun place =>
      signalAt? ((before.reverse ++ rest).take place.2).reverse place.1).reduceOption =
        signalsFrom before rest := by
  induction rest generalizing before with
  | nil => rfl
  | cons instruction rest ih =>
    have later := ih (instruction :: before)
    rw [List.length_cons, List.reverse_cons, List.append_assoc, List.singleton_append] at later
    have own : ((before.reverse ++ instruction :: rest).take before.length).reverse = before := by
      rw [List.take_left' List.length_reverse, List.reverse_reverse]
    rw [List.zipIdx_cons, List.map_cons, signalsFrom, ← later, own]
    cases signalAt? before instruction with
    | none => rfl
    | some signal => rfl

theorem signals_eq (code : List UInt8) :
    signals code = .ok (Detector.HiddenRedirection.signals code) := by
  have each := @Attempt.mapM_eq_ok Mishap _ _
    (fun place => signalAt (sweep code) place.2 place.1)
    (fun place => signalAt? ((sweep code).take place.2).reverse place.1)
    (sweep code).zipIdx fun place inside => signalAt_eq (List.mem_zipIdx_iff_getElem?.mp inside)
  unfold signals
  cases code with
  | nil =>
    unfold Detector.HiddenRedirection.signals sweep
    rw [ContractRisk.sweepFrom]
    rfl
  | cons byte rest =>
    rw [sweepFrom_eq]
    change (do
      let found ← (sweep (byte :: rest)).zipIdx.mapM fun place : Instruction × Nat =>
        signalAt (sweep (byte :: rest)) place.2 place.1
      _) = _
    rw [each]
    exact congrArg Except.ok (signalsFrom_eq [] (sweep (byte :: rest)))

/-- **Hidden redirections are looked for without a mishap.** -/
theorem inspect_eq (entries : List Entry) (code : List UInt8) :
    inspect entries code = .ok (Detector.HiddenRedirection.inspect entries code) := by
  have positive : max 1 (functions entries).length ≠ 0 := by omega
  unfold inspect Detector.HiddenRedirection.inspect
  by_cases nothing : (code.isEmpty && (functions entries).isEmpty) = true
  · rw [if_pos nothing, if_pos nothing]
    rfl
  · rw [if_neg nothing, if_neg nothing, signals_eq]
    change (do
      let setterScore ← divided _ (max 1 (functions entries).length)
      _) = _
    rw [divided_eq _ positive]
    rfl

end HiddenRedirection

/-! ### Non-functional transfers -/

namespace NonFunctionalTransfer

open Detector.NonFunctionalTransfer (transferWord? transfers transferLogs viewTransfers stateChanging
  logOpcodes storeOpcode appendNew)

/-- Whether an event could record a function, which must be a transfer unless the event names one. -/
def records (event function : Entry) : Except Mishap Bool := do
  let name ← nameOf event
  let plain := Text.lower name
  if mentions plain "transfer" then return true
  else match transferWord? function.title with
    | some word => return mentions plain word || (beginsWith word "send" && plain = "sent")
    | none => .error .wordless

/-- The state-changing transfers without a matching event. -/
def unrecorded (entries : List Entry) : Except Mishap (List Entry) :=
  (stateChanging entries).filterM fun function => do
    let recorded ← (transferLogs entries).anyM (records · function)
    return !recorded

/-- The transfer events without a state-changing transfer. -/
def orphaned (entries : List Entry) : Except Mishap (List Entry) :=
  (transferLogs entries).filterM fun event => do
    let emitted ← (stateChanging entries).anyM (records event ·)
    return !emitted

/-- Whether a code, if it is not empty, logs and never writes storage. -/
def isStorageLess (code : List UInt8) : Except Mishap Bool :=
  if code.isEmpty then .ok false
  else do
    let instructions ← sweepFrom code 0
    return containsOpcode instructions logOpcodes && !containsOpcode instructions [storeOpcode]

/-- What interface and code show. -/
def inspect (entries : List Entry) (code : List UInt8) : Except Mishap (Inspection Float) := do
  if (functions entries).isEmpty then
    return .skipped "no_functions" [("total_functions", .count 0)]
  else
    let unrecorded ← unrecorded entries
    let orphaned ← orphaned entries
    let storageLess ← isStorageLess code
    let broken := if storageLess then (stateChanging entries).foldl appendNew unrecorded else unrecorded
    let storage :=
      if storageLess && !(stateChanging entries).isEmpty then
        ["Bytecode emits events but never writes storage (no SSTORE)"]
      else []
    let evidence := (viewTransfers entries).map Detector.NonFunctionalTransfer.viewLine ++
      broken.map Detector.NonFunctionalTransfer.unrecordedLine ++
      orphaned.map Detector.NonFunctionalTransfer.orphanedLine ++ storage ++
      (transfers entries).flatMap Detector.NonFunctionalTransfer.namingLines
    let hits : Float :=
      0.4 * (broken.length : Nat) + 0.3 * (orphaned.length : Nat) +
        0.5 * ((viewTransfers entries).length : Nat)
    let share ← divided (2.0 * hits) (functions entries).length
    return .observed {
      confidence := capped share
      evidence := evidence
      severity := Detector.NonFunctionalTransfer.severity entries (capped share) broken.length
      metadata := [
        ("total_functions", .count (functions entries).length),
        ("transfer_functions", .count (transfers entries).length),
        ("transfer_events", .count (transferLogs entries).length),
        ("view_transfer_count", .count (viewTransfers entries).length),
        ("non_functional_count", .count broken.length),
        ("orphaned_event_count", .count orphaned.length),
        ("bytecode_checked", .bool !code.isEmpty),
        ("storage_less_bytecode", .bool storageLess)] }

section

variable {entries : List Entry} {event function : Entry}

theorem transferLogs_title (member : event ∈ transferLogs entries) : event.title ≠ "" := by
  have telling := (List.mem_filter.mp member).2
  intro unnamed
  unfold plainName at telling
  rw [unnamed] at telling
  exact absurd telling (by decide)

theorem stateChanging_word (member : function ∈ stateChanging entries) :
    ∃ word, transferWord? function.title = some word := by
  have transfer := (List.mem_filter.mp (List.mem_filter.mp member).1).2
  exact Option.isSome_iff_exists.mp transfer

theorem records_eq (log : event ∈ transferLogs entries) (transfer : function ∈ stateChanging entries) :
    records event function = .ok (Detector.NonFunctionalTransfer.recordsCall event function) := by
  obtain ⟨word, begins⟩ := stateChanging_word transfer
  unfold records Detector.NonFunctionalTransfer.recordsCall Detector.NonFunctionalTransfer.records
  rw [nameOf_eq (transferLogs_title log), begins]
  cases named : mentions (Text.lower event.title) "transfer" with
  | true => simp [named, Bind.bind, Except.bind, Pure.pure, Except.pure]
  | false => simp [named, Bind.bind, Except.bind, Pure.pure, Except.pure]

theorem unrecorded_eq (entries : List Entry) :
    unrecorded entries = .ok (Detector.NonFunctionalTransfer.unrecorded entries) := by
  refine Attempt.filterM_eq_ok fun function member => ?_
  have recorded := Attempt.anyM_eq_ok fun event (inside : event ∈ transferLogs entries) =>
    records_eq inside member
  rw [recorded]
  rfl

theorem orphaned_eq (entries : List Entry) :
    orphaned entries = .ok (Detector.NonFunctionalTransfer.orphaned entries) := by
  refine Attempt.filterM_eq_ok fun event member => ?_
  have emitted := Attempt.anyM_eq_ok fun function (inside : function ∈ stateChanging entries) =>
    records_eq member inside
  rw [emitted]
  rfl

theorem isStorageLess_eq (code : List UInt8) :
    isStorageLess code = .ok (Detector.NonFunctionalTransfer.isStorageLess code) := by
  unfold isStorageLess
  cases code with
  | nil =>
    unfold Detector.NonFunctionalTransfer.isStorageLess sweep
    rw [ContractRisk.sweepFrom]
    rfl
  | cons byte rest =>
    rw [sweepFrom_eq]
    rfl

/-- **Non-functional transfers are looked for without a mishap.** -/
theorem inspect_eq (entries : List Entry) (code : List UInt8) :
    inspect entries code = .ok (Detector.NonFunctionalTransfer.inspect entries code) := by
  unfold inspect Detector.NonFunctionalTransfer.inspect
  by_cases empty : (functions entries).isEmpty = true
  · rw [if_pos empty, if_pos empty]
    rfl
  · have positive : (functions entries).length ≠ 0 := by
      rwa [List.isEmpty_iff_length_eq_zero] at empty
    rw [if_neg empty, if_neg empty, unrecorded_eq, orphaned_eq, isStorageLess_eq]
    change (do
      let share ← divided _ (functions entries).length
      _) = _
    rw [divided_eq _ positive]
    rfl

end

end NonFunctionalTransfer

/-- What the detector of a category sees, step by step. -/
def inspect (category : Category) (entries : List Entry) (code : List UInt8) :
    Except Mishap (Inspection Float) :=
  match category with
  | .fakeBalance => FakeBalance.inspect entries
  | .hiddenRedirection => HiddenRedirection.inspect entries code
  | .nonFunctionalTransfer => NonFunctionalTransfer.inspect entries code
  | .deceptiveEvents => DeceptiveEvents.inspect entries

/-- **No detector has a mishap.** -/
theorem inspect_eq (category : Category) (entries : List Entry) (code : List UInt8) :
    inspect category entries code = .ok (Detector.inspect category entries code) := by
  cases category with
  | fakeBalance => exact FakeBalance.inspect_eq entries
  | hiddenRedirection => exact HiddenRedirection.inspect_eq entries code
  | nonFunctionalTransfer => exact NonFunctionalTransfer.inspect_eq entries code
  | deceptiveEvents => exact DeceptiveEvents.inspect_eq entries

end Detector.Attempted

end ContractRisk
