/-
**An interface survives its own wire form.**

The entries that an interface is read as travel as records, in which nothing is left to be filled in:
the kind and the mutability are written out under their usual names, and what is absent is written as
nothing. Reading such a record comes to the entry that it was made of, so whatever an interface left to
older flags, older names or omissions is settled by its first reading.

* `readParameter_wire`, `readEntry_wire`: a parameter and an entry are read back from their records;
* `read_wire`: so are the entries of an interface;
* `read_travels`: every interface that can be read is read alike, and judged alike by every detector, in
  the form in which its entries travel.
-/

import ContractRisk.Proofs.Abi.Reading
import ContractRisk.Detector

namespace ContractRisk.Abi

open Shape

/-! ### Parameters -/

/-- A text that is not empty is a name, and an empty one is none. -/
theorem parameterName_text {fields : List (String × Value)} {name : String}
    (found : get? fields "name" = some (.text name)) : parameterName fields = .ok name := by
  unfold parameterName
  rw [found]
  by_cases empty : name = ""
  · rw [empty]
    rfl
  · have holds : (Value.text name).holds = true := by
      show (!name.isEmpty) = true
      rw [Bool.not_eq_true', ← Bool.not_eq_true, String.isEmpty_iff]
      exact empty
    simp only [holds, if_true]
    rfl

/-- **A parameter is read back from its record.** -/
theorem readParameter_wire (parameter : Parameter) : readParameter parameter.wire = .ok parameter := by
  obtain ⟨name, type, indexed⟩ := parameter
  obtain ⟨flag, written, flagged⟩ : ∃ flag, Parameter.wire ⟨name, type, indexed⟩ =
      .record [("name", .text name), ("type", .text type), ("indexed", flag)] ∧
        flagOrNone flag = .ok indexed := by
    cases indexed <;> exact ⟨_, rfl, rfl⟩
  let fields : List (String × Value) := [("name", .text name), ("type", .text type), ("indexed", flag)]
  have named : parameterName fields = .ok name := parameterName_text rfl
  rw [written]
  show (do
    let name ← located "name" (parameterName fields)
    let type ← located "type" (.ok type)
    let indexed ← located "indexed" (flagOrNone flag)
    return (⟨name, type, indexed⟩ : Parameter)) = _
  rw [named, flagged]
  rfl

theorem readParametersFrom_wire (index : Nat) (parameters : List Parameter) :
    readParametersFrom index (parameters.map Parameter.wire) = .ok parameters := by
  induction parameters generalizing index with
  | nil => rfl
  | cons parameter rest ih =>
    rw [List.map_cons, readParametersFrom, readParameter_wire, ih]
    rfl

theorem readParameters_wire {fields : List (String × Value)} {name : String}
    {parameters : List Parameter}
    (found : get? fields name = some (.list (parameters.map Parameter.wire))) :
    readParameters fields name = .ok parameters := by
  unfold readParameters
  rw [found]
  show inside name (readParametersFrom 0 (parameters.map Parameter.wire)) = _
  rw [readParametersFrom_wire]
  rfl

/-! ### Entries -/

/-- A text or nothing is read back. -/
theorem textOrNone_textOrNull (given : Option String) : textOrNone (textOrNull given) = .ok given := by
  cases given <;> rfl

/-- A record that has no older field states its mutability itself, even by stating none. -/
theorem mutabilityValue_stated {fields : List (String × Value)} {value : Value}
    (stated : get? fields "stateMutability" = some value) (constant : get? fields "constant" = none)
    (payable : get? fields "payable" = none) :
    mutabilityValue fields = some ("stateMutability", value) := by
  have own : statedMutability fields = some ("stateMutability", value) := by
    unfold statedMutability
    rw [stated]
  have older : given fields "constant" = false := by
    unfold given
    rw [constant]
    rfl
  unfold mutabilityValue
  rw [own, older, payable]
  split <;> rfl

/-- **An entry is read back from its record.** -/
theorem readEntry_wire (entry : Entry) : readEntry entry.wire = .ok entry := by
  obtain ⟨kind, name, inputs, outputs, mutability⟩ := entry
  let fields : List (String × Value) := [
    ("type", .text kind.name), ("name", textOrNull name),
    ("inputs", .list (inputs.map Parameter.wire)), ("outputs", .list (outputs.map Parameter.wire)),
    ("stateMutability", textOrNull mutability)]
  have kindRead : readKind (.text kind.name) = .ok kind := by
    unfold readKind
    simp only [Shape.text, Bind.bind, Except.bind, Kind.ofName?_name]
    rfl
  have ins : readParameters fields "inputs" = .ok inputs := readParameters_wire rfl
  have outs : readParameters fields "outputs" = .ok outputs := readParameters_wire rfl
  have stated : mutabilityValue fields = some ("stateMutability", textOrNull mutability) :=
    mutabilityValue_stated rfl rfl rfl
  have settled : readMutability fields = .ok mutability := by
    unfold readMutability
    rw [stated]
    show located "stateMutability" (textOrNone (textOrNull mutability)) = _
    rw [textOrNone_textOrNull]
    rfl
  show (do
    let kind ← located "type" (readKind (.text kind.name))
    let name ← located "name" (textOrNone (textOrNull name))
    let inputs ← readParameters fields "inputs"
    let outputs ← readParameters fields "outputs"
    let mutability ← readMutability fields
    return (⟨kind, name, inputs, outputs, mutability⟩ : Entry)) = _
  rw [kindRead, textOrNone_textOrNull, ins, outs, settled]
  rfl

/-! ### Interfaces -/

/-- The form in which entries travel. -/
def wireOf (entries : List Entry) (room : Nat) : Input := .value (.list (entries.map Entry.wire)) room

/-- **The entries of an interface are read back from their records.** -/
theorem read_wire (entries : List Entry) (room : Nat) : read (wireOf entries room) = .ok entries := by
  refine readItemsFrom_eq_ok.mpr ?_
  rw [List.map_map, List.forall₂_map_left_iff, List.forall₂_same]
  exact fun entry _ => readEntry_wire entry

/-- The fields of the record of a parameter, and of an entry. -/
def parameterFields : List String := ["name", "type", "indexed"]

@[inherit_doc parameterFields]
def entryFields : List String := ["type", "name", "inputs", "outputs", "stateMutability"]

end ContractRisk.Abi

namespace ContractRisk

open Abi

variable {α : Type} [Add α] [Mul α] [Div α] [LT α] [LE α] [DecidableLT α] [DecidableLE α]
  [OfScientific α] [NatCast α] [Decimal.Rendered α]

/-- A detector sees of an interface nothing but its entries. -/
theorem detect_entries {abi other : Abi.Input} (same : entriesOf abi = entriesOf other)
    (category : Category) (code : Value) :
    (detect category abi code : Except Failure (Finding α)) = detect category other code := by
  unfold detect
  rw [same]

/-- **An interface as good as the form in which its entries travel**: the latter is read as the same
entries, leaves nothing to older fields, and has the same findings. -/
structure Travels (α : Type) [Add α] [Mul α] [Div α] [LT α] [LE α] [DecidableLT α] [DecidableLE α]
    [OfScientific α] [NatCast α] [Decimal.Rendered α] (abi : Abi.Input) (entries : List Entry) :
    Prop where
  reread : ∀ room, read (wireOf entries room) = .ok entries
  settled : ∀ entry ∈ entries, entry.wire.items = .ok (entryFields.map .text) ∧
    ∀ parameter ∈ entry.inputs ++ entry.outputs,
      parameter.wire.items = .ok (parameterFields.map .text)
  detected : ∀ room category code,
    (detect category (wireOf entries room) code : Except Failure (Finding α)) = detect category abi code
  detectedSafely : ∀ room category code,
    (detectSafely category (wireOf entries room) code : Finding α) = detectSafely category abi code

/-- **Every interface that can be read travels well.** -/
theorem read_travels {abi : Abi.Input} {entries : List Entry} (succeeded : read abi = .ok entries) :
    Travels α abi entries := by
  have alike (room : Nat) : entriesOf (wireOf entries room) = entriesOf abi :=
    (entriesOf_read (read_wire entries room)).trans (entriesOf_read succeeded).symm
  exact {
    reread := read_wire entries
    settled := fun _ _ => ⟨rfl, fun _ _ => rfl⟩
    detected := fun room => detect_entries (alike room)
    detectedSafely := by
      intro room category code
      unfold detectSafely
      rw [detect_entries (alike room)] }

/-- A function with an older flag, an event under an older key with a parameter without a name, and a
function whose mutability is stated as empty beside a flag. -/
def olderInterface : Value := .list [
  .record [("name", .text "owner"), ("constant", .bool true), ("state_mutability", .null)],
  .record [("kind", .text "event"), ("inputs", .list [
    .record [("name", .null), ("type", .text "address"), ("indexed", .text "yes")]])],
  .record [("name", .text ""), ("stateMutability", .text ""), ("payable", .number 0)]]

/-- The entries of that interface. -/
def olderEntries : List Entry := [
  ⟨.function, some "owner", [], [], some "view"⟩,
  ⟨.event, none, [⟨"", "address", some true⟩], [], none⟩,
  ⟨.function, some "", [], [], some "nonpayable"⟩]

theorem read_travels_older :
    read (.value olderInterface 0) = .ok olderEntries ∧
      Travels Float (.value olderInterface 0) olderEntries := by
  have reads : read (.value olderInterface 0) = .ok olderEntries := by rfl
  exact ⟨reads, read_travels reads⟩

end ContractRisk
