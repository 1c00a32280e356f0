/-
**Deceptive events**: events that announce what no function does.

Three signs count alike: an event of a telling name that no state-changing function could emit
(`unbacked`), a state-changing function of a telling name that no event could record (`silent`), and
a `Transfer` or `Approval` event whose parameters are not two addresses and an amount
(`misordered`). Events and functions belong together if their names do (`related`).
-/

import ContractRisk.Detector.Names
import ContractRisk.Finding

namespace ContractRisk.Detector.DeceptiveEvents

open Abi

variable {α : Type}

/-- Names of events that announce success, in lower case. -/
def tellingEvents : List String := [
  "transfer", "approval", "success", "completed", "confirmed", "claimed", "rewarded", "airdropped"]

/-- Words in the names of functions that should emit events. -/
def tellingWords : List String := [
  "transfer", "approve", "claim", "reward", "airdrop", "withdraw", "deposit"]

/-- Functions that emit an event of another name. -/
def emitters : List (String × List String) := [
  ("approval", ["approve", "increaseallowance", "decreaseallowance", "permit"]),
  ("transfer", ["transfer", "transferfrom", "mint", "burn"])]

/-- The names of events that have a standard shape. -/
def standardEvents : List String := ["Transfer", "Approval"]

/-- The least length of names that are compared. -/
def minLength : Nat := 3

/-- Whether lower-case names of an event and a function belong together: one occurs in the other, or
the function is known to emit the event. -/
def plainRelated (event function : String) : Bool :=
  minLength ≤ event.length && minLength ≤ function.length &&
    (mentions function event || mentions event function ||
      emitters.any fun known => known.1 = event && known.2.contains function)

/-- Whether the names of an event and a function belong together. -/
def related (event function : String) : Bool :=
  plainRelated (Text.lower event) (Text.lower function)

/-- The events of an interface that have a name. -/
def named (entries : List Entry) : List Entry :=
  (events entries).filter (!·.title.isEmpty)

/-- The functions of an interface that have a name and may change the state. -/
def stateChanging (entries : List Entry) : List Entry :=
  (functions entries).filter fun function => !function.title.isEmpty && !function.isReadOnly

/-- The telling events that no state-changing function could emit. -/
def unbacked (entries : List Entry) : List Entry :=
  (named entries).filter fun event =>
    tellingEvents.contains (plainName event) &&
      !(stateChanging entries).any fun function => related event.title function.title

/-- The telling functions that no event could record. -/
def silent (entries : List Entry) : List Entry :=
  (stateChanging entries).filter fun function =>
    !(mentioned function.title tellingWords).isEmpty &&
      !(named entries).any fun event => related event.title function.title

/-- The standard events of another shape. -/
def misordered (entries : List Entry) : List Entry :=
  (named entries).filter fun event =>
    standardEvents.contains event.title && !shapeFits event.inputTypes transferShape

/-! ### Evidence -/

/-- What an unbacked event is charged with. -/
def unbackedLine (event : Entry) : String :=
  s!"Event '{event.title}' appears to be emitted without corresponding state changes"

/-- What a silent function is charged with. -/
def silentLine (function : Entry) : String :=
  s!"Function '{function.title}' modifies state but doesn't emit expected events"

/-- What a misordered event is charged with. -/
def misorderedLine (event : Entry) : String :=
  s!"Event '{event.title}' declares parameters ({commas event.inputTypes}) " ++
    s!"instead of the standard ({commas transferShape}) order"

/-- The lines of evidence in an interface. -/
def evidence (entries : List Entry) : List String :=
  (unbacked entries).map unbackedLine ++ (silent entries).map silentLine ++
    (misordered entries).map misorderedLine

/-! ### Observation -/

section

variable [Add α] [Mul α] [Div α] [LT α] [LE α] [DecidableLT α] [DecidableLE α] [OfScientific α]
  [NatCast α]

/-- One and a half times the signs for each event, one at most. -/
def confidence (entries : List Entry) : α :=
  let hits : α :=
    1.0 * ((unbacked entries).length : Nat) + 1.0 * ((silent entries).length : Nat) +
      1.0 * ((misordered entries).length : Nat)
  capped (1.5 * hits / ((named entries).length : Nat))

/-- The severity at a confidence and a count of lines of evidence. -/
def severity (confidence : α) (lines : Nat) : Severity :=
  if 0.8 ≤ confidence ∧ 3 ≤ lines then .critical
  else if 0.6 ≤ confidence ∧ 2 ≤ lines then .high
  else if 0.4 ≤ confidence ∧ 1 ≤ lines then .medium
  else .low

/-- What the interface shows. -/
def inspect (entries : List Entry) : Inspection α :=
  if (named entries).isEmpty then .skipped "no_events" [("total_events", .count 0)]
  else
    let share : α := confidence entries
    .observed {
      confidence := share
      evidence := evidence entries
      severity := severity share (evidence entries).length
      metadata := [
        ("total_events", .count (named entries).length),
        ("state_changing_functions", .count (stateChanging entries).length),
        ("deceptive_event_count", .count (unbacked entries).length),
        ("silent_function_count", .count (silent entries).length),
        ("misordered_event_count", .count (misordered entries).length)] }

end

end ContractRisk.Detector.DeceptiveEvents
