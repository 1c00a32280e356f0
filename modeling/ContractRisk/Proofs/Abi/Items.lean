/-
**An interface is read item by item, and all or nothing.**

Whether an interface comes as a list, as decoded JSON or as JSON text, what is read is a list of items
(`Lists`).

* `alone_eq_ok`, `alone_refused`: the reading of an item in a list of its own;
* `parts_of_entries`, `refusedAt_of_readItems`: what is read of a list, and what is refused of it, by the
  readings of its items alone;
* `read_itemwise`: a list is read iff each of its items is read in a list of its own. Its entries are
  then those of the items one after another, and entries that were read before are among them as they
  are. Otherwise the failure names the least place at which an item alone is refused, and goes on in
  the words used for that item alone.
-/

import ContractRisk.Proofs.Abi.Reading

namespace ContractRisk.Abi

variable {input : Input} {items : List Item} {item : Item} {entries part : List Entry}
  {fault : Shape.Fault} {failure : Failure}

/-! ### One item alone -/

/-- The reading of an item in a list of its own. -/
def alone (item : Item) : Except Failure (List Entry) := read (.items [item])

theorem alone_eq_ok : alone item = .ok part ↔ ∃ entry, item.read = .ok entry ∧ part = [entry] := by
  rw [alone, read, readItems, readItemsFrom_eq_ok, List.forall₂_cons_left_iff]
  simp only [List.forall₂_nil_left_iff]
  constructor
  · rintro ⟨entry, _, sound, rfl, rfl⟩
    exact ⟨entry, sound, rfl⟩
  · rintro ⟨entry, sound, rfl⟩
    exact ⟨entry, [], sound, rfl, rfl⟩

theorem alone_refused (faulty : item.read = .error fault) :
    alone item = .error (.refused (.abiEntry 0 fault)) := readItemsFrom_refused faulty

/-- An item is read alone iff it is an entry. -/
theorem alone_accepted : (∃ part, alone item = .ok part) ↔ ∃ entry, item.read = .ok entry := by
  simp only [alone_eq_ok]
  constructor
  · rintro ⟨_, entry, sound, _⟩
    exact ⟨entry, sound⟩
  · rintro ⟨entry, sound⟩
    exact ⟨[entry], entry, sound, rfl⟩

/-! ### Interfaces -/

/-- What is read as a list of items: such a list itself, and whatever decodes to a list of values. -/
inductive Lists : Input → List Item → Prop where
  | items (items : List Item) : Lists (.items items) items
  | values {given : Value} {room : Nat} {values : List Value}
      (decodes : decoded room given = .ok (.list values)) : Lists (.value given room) (values.map .raw)

theorem read_eq_readItems (lists : Lists input items) : read input = readItems items := by
  cases lists with
  | items => rfl
  | values decodes => rw [read, decodes]; rfl

/-- That a failure is about one place in a list: every item before it is read alone, the one there is
refused alone, and after the place the failure goes on as the one for that item alone. -/
structure RefusedAt (items : List Item) (place : Nat) (failure : Failure) : Prop where
  kind : failure.kind = .validation
  field : failure.field = .text "abi"
  earlier : ∀ item ∈ items.take place, ∃ part, alone item = .ok part
  worded : ∃ (item : Item) (lone : Failure) (reason : String),
    items[place]? = some item ∧ alone item = .error lone ∧
    lone.message = s!"Invalid ABI entry at index 0: {reason}" ∧
    failure.message = s!"Invalid ABI entry at index {place}: {reason}"

/-- How the reading of an interface follows from those of its items, each in a list of its own. -/
structure ItemWise (input : Input) (items : List Item) : Prop where
  accepted : (∃ entries, read input = .ok entries) ↔ ∀ item ∈ items, ∃ part, alone item = .ok part
  joined : ∀ {entries}, read input = .ok entries →
    ∃ parts, List.Forall₂ (fun item part => alone item = .ok part) items parts ∧
      entries = parts.flatten
  length : ∀ {entries}, read input = .ok entries → entries.length = items.length
  kept : ∀ {entries} {place : Nat} {entry : Entry}, read input = .ok entries →
    items[place]? = some (.parsed entry) → entries[place]? = some entry
  refused : ∀ {failure}, read input = .error failure → ∃ place, RefusedAt items place failure

/-- The entries that are read are made of the lists of one entry that the items are read as. -/
theorem parts_of_entries
    (sound : List.Forall₂ (fun item entry => item.read = .ok entry) items entries) :
    List.Forall₂ (fun item part => alone item = .ok part) items (entries.map ([·])) := by
  rw [List.forall₂_map_right_iff]
  exact sound.imp fun _ entry here => alone_eq_ok.mpr ⟨entry, here, rfl⟩

theorem entry_at {place : Nat}
    (sound : List.Forall₂ (fun item entry => item.read = .ok entry) items entries)
    (found : items[place]? = some item) :
    ∃ entry, entries[place]? = some entry ∧ item.read = .ok entry := by
  obtain ⟨within, rfl⟩ := List.getElem?_eq_some_iff.mp found
  have within' : place < entries.length := sound.length_eq ▸ within
  exact ⟨entries[place], List.getElem?_eq_getElem within', sound.get within within'⟩

theorem refusedAt_of_readItems (failed : readItems items = .error failure) :
    ∃ place, RefusedAt items place failure := by
  obtain ⟨place, item, fault, found, before, faulty, rfl⟩ := readItemsFrom_eq_error.mp failed
  rw [Nat.zero_add]
  exact ⟨place, {
    kind := rfl
    field := rfl
    earlier := fun other member => alone_accepted.mpr (before other member)
    worded := ⟨item, _, fault.message, found, alone_refused faulty, rfl, rfl⟩ }⟩

/-- Items of which each is read alone are read together: no place is left to refuse. -/
theorem readItems_of_alone (each : ∀ item ∈ items, ∃ part, alone item = .ok part) :
    ∃ entries, readItems items = .ok entries := by
  cases reading : readItems items with
  | ok entries => exact ⟨entries, rfl⟩
  | error failure =>
    obtain ⟨place, about⟩ := refusedAt_of_readItems reading
    obtain ⟨item, lone, _, found, refused, _⟩ := about.worded
    obtain ⟨part, accepted⟩ := each item (List.mem_of_getElem? found)
    cases accepted.symm.trans refused

/-- **An interface is read item by item, and all or nothing.** -/
theorem read_itemwise (lists : Lists input items) : ItemWise input items := by
  have sound {entries : List Entry} (succeeded : read input = .ok entries) :
      List.Forall₂ (fun item entry => item.read = .ok entry) items entries := by
    rw [read_eq_readItems lists] at succeeded
    exact readItemsFrom_eq_ok.mp succeeded
  exact {
    accepted := by
      constructor
      · rintro ⟨entries, succeeded⟩ item member
        obtain ⟨place, found⟩ := List.mem_iff_getElem?.mp member
        obtain ⟨entry, _, here⟩ := entry_at (sound succeeded) found
        exact alone_accepted.mpr ⟨entry, here⟩
      · intro each
        rw [read_eq_readItems lists]
        exact readItems_of_alone each
    joined := by
      intro entries succeeded
      refine ⟨entries.map ([·]), parts_of_entries (sound succeeded), ?_⟩
      rw [← List.flatMap_def, List.flatMap_singleton']
    length := fun succeeded => (sound succeeded).length_eq.symm
    kept := by
      intro entries place entry succeeded found
      obtain ⟨other, there, same⟩ := entry_at (sound succeeded) found
      cases same
      exact there
    refused := by
      intro failure failed
      rw [read_eq_readItems lists] at failed
      exact refusedAt_of_readItems failed }

/-- Three items, of which the last has a parameter without a type: an entry, a function with an older
flag, and an event. -/
def mixedItems : List Item := [
  .parsed ⟨.receive, none, [], [], some "payable"⟩,
  .raw (.record [("name", .text "owner"), ("constant", .bool true)]),
  .raw (.record [("type", .text "event"), ("inputs", .list [.record [("name", .text "from")]])])]

theorem read_itemwise_mixed :
    Lists (.items mixedItems) mixedItems ∧ ItemWise (.items mixedItems) mixedItems ∧
      ∃ failure, read (.items mixedItems) = .error failure ∧
        failure.message = "Invalid ABI entry at index 2: Field required (inputs.0.type)" := by
  refine ⟨.items _, read_itemwise (.items _), ?_⟩
  exact ⟨_, rfl, by decide⟩

end ContractRisk.Abi
