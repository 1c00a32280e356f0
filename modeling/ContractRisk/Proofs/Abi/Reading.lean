/-
**Interfaces that are refused, and interfaces that break the reader.**

The items of an interface are read in order: either each of them is an entry (`readItemsFrom_eq_ok`), or
the first that is none is refused with its place (`readItemsFrom_eq_error`). A text is different: a fault
in it is refused as well, unless it is a whole number of too many digits or a bracket for which there is
no room, and a byte string must be in one of the encodings in which JSON travels. `Breaks` names these
inputs, and `read_error` shows that a reading fails without a refusal on them and on no others.
-/

import ContractRisk.Abi.Reader
import ContractRisk.Proofs.Attempt
import Mathlib.Data.List.Forall2

namespace ContractRisk.Abi

open Attempt

/-- A reading of a JSON text that comes upon a whole number of too many digits, or upon a bracket for
which there is no room. -/
inductive Overruns : Except Json.Fault Value → Prop
  | digits (count : Nat) : Overruns (.error (.longNumber count))
  | depth (word : String) : Overruns (.error (.tooDeep word))

/-- An interface whose text cannot be decoded, or in which reading comes upon a whole number of too
many digits or upon a bracket for which there is no room. -/
def Breaks (room : Nat) : Value → Prop
  | .text s => Overruns (Json.read room s)
  | .bytes b => ∀ chars, Text.decode b = .ok chars → Overruns (Json.readChars room chars)
  | _ => False

/-- A byte string breaks the reader by its characters, if it has any. -/
theorem breaks_bytes {room : Nat} {b : List UInt8} {chars : List Char}
    (decodes : Text.decode b = .ok chars) :
    Breaks room (.bytes b) ↔ Overruns (Json.readChars room chars) := by
  constructor
  · intro breaks
    exact breaks chars decodes
  · intro faulty other decodes'
    cases decodes.symm.trans decodes'
    exact faulty

/-! ### Items -/

section

variable {item : Item} {items rest : List Item} {index : Nat} {entry : Entry} {entries : List Entry}
  {fault : Shape.Fault} {failure : Failure}

theorem readItemsFrom_refused (faulty : item.read = .error fault) :
    readItemsFrom index (item :: rest) = .error (.refused (.abiEntry index fault)) := by
  rw [readItemsFrom, faulty]
  rfl

theorem readItemsFrom_cons (sound : item.read = .ok entry) :
    readItemsFrom index (item :: rest) = (readItemsFrom (index + 1) rest).map (entry :: ·) := by
  rw [readItemsFrom, sound]
  cases readItemsFrom (index + 1) rest <;> rfl

/-- Items are read iff each of them is an entry, and then they are read as these entries. -/
theorem readItemsFrom_eq_ok :
    readItemsFrom index items = .ok entries ↔
      List.Forall₂ (fun item entry => item.read = .ok entry) items entries := by
  induction items generalizing index entries with
  | nil =>
    rw [readItemsFrom, List.forall₂_nil_left_iff]
    simp only [Except.ok.injEq, eq_comm]
  | cons item rest ih =>
    rw [List.forall₂_cons_left_iff]
    cases first : item.read with
    | error fault =>
      rw [readItemsFrom_refused first]
      simp
    | ok entry =>
      rw [readItemsFrom_cons first, map_eq_ok]
      simp only [ih, Except.ok.injEq, eq_comm]
      constructor
      · rintro ⟨others, there, rfl⟩
        exact ⟨entry, others, rfl, there, rfl⟩
      · rintro ⟨_, others, rfl, there, rfl⟩
        exact ⟨others, there, rfl⟩

/-- Items are refused iff one of them is no entry, and then the first such item is refused. -/
theorem readItemsFrom_eq_error :
    readItemsFrom index items = .error failure ↔
      ∃ place item fault, items[place]? = some item ∧
        (∀ earlier ∈ items.take place, ∃ entry, earlier.read = .ok entry) ∧
        item.read = .error fault ∧ failure = .refused (.abiEntry (index + place) fault) := by
  induction items generalizing index with
  | nil => simp [readItemsFrom]
  | cons head rest ih =>
    constructor
    · intro failed
      cases first : head.read with
      | error fault =>
        rw [readItemsFrom_refused first] at failed
        cases failed
        exact ⟨0, head, fault, rfl, List.forall_mem_nil _, first, rfl⟩
      | ok entry =>
        have later : readItemsFrom (index + 1) rest = .error failure := by
          rw [readItemsFrom_cons first] at failed
          exact map_eq_error.mp failed
        obtain ⟨place, item, fault, found, before, faulty, rfl⟩ := ih.mp later
        refine ⟨place + 1, item, fault, found, ?_, faulty, by rw [Nat.add_assoc, Nat.add_comm 1]⟩
        exact List.forall_mem_cons.mpr ⟨⟨entry, first⟩, before⟩
    · rintro ⟨place, item, fault, found, before, faulty, rfl⟩
      cases place with
      | zero =>
        cases found
        exact readItemsFrom_refused faulty
      | succ place =>
        obtain ⟨⟨entry, first⟩, before⟩ := List.forall_mem_cons.mp before
        rw [readItemsFrom_cons first]
        refine map_eq_error.mpr (ih.mpr ⟨place, item, fault, found, before, faulty, ?_⟩)
        rw [Nat.add_assoc, Nat.add_comm 1]

/-- **An item that is no entry is refused.** -/
theorem readItemsFrom_error (failed : readItemsFrom index items = .error failure) :
    failure.isRefusal = true := by
  obtain ⟨_, _, _, _, _, _, rfl⟩ := readItemsFrom_eq_error.mp failed
  rfl

end

/-! ### Texts -/

section

variable {room : Nat} {abi : Value} {failure : Failure}

theorem textFailure_isRefusal (fault : Json.Fault) :
    (textFailure fault).isRefusal = true ↔ ¬ Overruns (.error fault) := by
  cases fault with
  | longNumber count =>
    refine iff_of_false ?_ (not_not_intro (.digits count))
    simp [textFailure, Failure.isRefusal, Failure.kind, Misuse.kind]
  | tooDeep word =>
    refine iff_of_false ?_ (not_not_intro (.depth word))
    simp [textFailure, Failure.isRefusal, Failure.kind, Misuse.kind]
  | _ => exact iff_of_true rfl (nomatch ·)

/-- A JSON text whose fault is reworded breaks the reader by the fault alone. -/
theorem reworded_error {attempt : Except Json.Fault Value}
    (failed : attempt.mapError textFailure = .error failure) :
    failure.isRefusal = true ↔ ¬ Overruns attempt := by
  cases attempt with
  | ok value => cases failed
  | error fault =>
    cases failed
    exact textFailure_isRefusal fault

theorem decoded_error (failed : decoded room abi = .error failure) :
    failure.isRefusal = true ↔ ¬ Breaks room abi := by
  cases abi with
  | text s => exact reworded_error failed
  | bytes b =>
    cases decodes : Text.decode b with
    | error fault =>
      rw [decoded, decodes] at failed
      cases failed
      refine iff_of_false ?_ (not_not_intro ?_)
      · simp [Failure.isRefusal, Failure.kind]
      · intro chars decodes'
        rw [decodes] at decodes'
        cases decodes'
    | ok chars =>
      rw [decoded, decodes] at failed
      rw [breaks_bytes decodes]
      exact reworded_error failed
  | _ => cases failed

/-- A text that is read does not overrun the reader. -/
theorem reworded_ok {attempt : Except Json.Fault Value} {value : Value}
    (succeeded : attempt.mapError textFailure = .ok value) : ¬ Overruns attempt := by
  rw [mapError_eq_ok.mp succeeded]
  exact (nomatch ·)

theorem decoded_ok {value : Value} (succeeded : decoded room abi = .ok value) : ¬ Breaks room abi := by
  cases abi with
  | text s => exact reworded_ok succeeded
  | bytes b =>
    obtain ⟨chars, decodes, succeeded⟩ := bind_eq_ok.mp succeeded
    rw [breaks_bytes (mapError_eq_ok.mp decodes)]
    exact reworded_ok succeeded
  | _ => exact not_false

/-! ### Interfaces -/

/-- **A reading that fails is refused, unless the interface breaks the reader.** -/
theorem read_error (failed : read (.value abi room) = .error failure) :
    failure.isRefusal = true ↔ ¬ Breaks room abi := by
  cases value : decoded room abi with
  | error other =>
    rw [read, value] at failed
    cases failed
    exact decoded_error value
  | ok given =>
    refine iff_of_true ?_ (decoded_ok value)
    rw [read, value] at failed
    cases given with
    | list values => exact readItemsFrom_error failed
    | _ =>
      cases failed
      rfl

/-- An interface that can be read does not break the reader. -/
theorem read_ok {entries : List Entry} (succeeded : read (.value abi room) = .ok entries) :
    ¬ Breaks room abi := by
  obtain ⟨value, given, _⟩ := bind_eq_ok.mp succeeded
  exact decoded_ok given

end

/-- An interface that can be read is there. -/
theorem entriesOf_read {input : Input} {entries : List Entry}
    (succeeded : read input = .ok entries) :
    entriesOf input = .ok entries := by
  unfold entriesOf
  split
  · cases succeeded
  · exact succeeded

/-- Entries are read as themselves. -/
theorem entriesOf_ofEntries (entries : List Entry) :
    entriesOf (.ofEntries entries) = .ok entries := by
  refine readItemsFrom_eq_ok.mpr ?_
  rw [List.forall₂_map_left_iff, List.forall₂_same]
  exact fun _ _ => rfl

end ContractRisk.Abi
