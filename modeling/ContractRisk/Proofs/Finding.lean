/-
**Findings are built within their bounds.**

The record of a finding (`Finding.wire`) is read back as that finding if the confidence lies in the unit
interval (`read_wire`), and that is where every number is brought (`clamped_unit`), what is no number
among them.
-/

import ContractRisk.Finding.Reader
import ContractRisk.Proofs.Attempt

namespace ContractRisk

/-! ### The unit interval -/

theorem float_le_of_lt {x y : Float} (less : x < y) : x ≤ y := by
  have less : x.toModel.unpack.compare y.toModel.unpack = some .lt := by
    simpa [LT.lt, Float.lt, Float.Model.lt, Float.Model.UnpackedFloat.lt] using less
  simp [LE.le, Float.le, Float.Model.le, Float.Model.UnpackedFloat.le, less]

theorem capped_le (x : Float) : capped x ≤ 1.0 := by
  unfold capped
  split
  · exact float_le_of_lt ‹x < 1.0›
  · decide

/-- **Every number is brought into the unit interval.** -/
theorem clamped_unit (x : Float) : 0.0 ≤ clamped x ∧ clamped x ≤ 1.0 := by
  unfold clamped
  split
  · exact ⟨float_le_of_lt ‹0.0 < capped x›, capped_le x⟩
  · decide

namespace Finding

/-! ### Records of findings -/

/-- The record in which a finding travels. -/
def wire (finding : Finding Float) : Value :=
  .record [
    ("detected", .bool finding.detected),
    ("confidence", .float finding.confidence),
    ("category", .text finding.category.name),
    ("description", .text finding.description),
    ("evidence", .list (finding.evidence.map .text)),
    ("severity", .text finding.severity.name),
    ("metadata", .record finding.metadata)]

theorem textsFrom_texts (index : Nat) (lines : List String) :
    textsFrom index (lines.map .text) = .ok lines := by
  induction lines generalizing index with
  | nil => rfl
  | cons line rest ih =>
    rw [List.map_cons, textsFrom, ih]
    rfl

theorem unitNumber_float {x : Float} (low : 0.0 ≤ x) (high : x ≤ 1.0) :
    unitNumber (.float x) = .ok x := by
  unfold unitNumber Shape.number Shape.unit
  simp [low, high, Bind.bind, Except.bind]

theorem categoryWord_name (category : Category) :
    categoryWord (.text category.name) = .ok category := by
  simp only [categoryWord, among, Category.ofName?_name]

theorem severityWord_name (severity : Severity) :
    severityWord (.text severity.name) = .ok severity := by
  simp only [severityWord, among, Severity.ofName?_name]

theorem evidenceLines_texts {fields : List (String × Value)} {lines : List String}
    (given : fields.find? (·.1 = "evidence") = some ("evidence", .list (lines.map .text))) :
    evidenceLines fields = .ok lines := by
  unfold evidenceLines
  rw [given]
  change Shape.inside "evidence" (textsFrom 0 (lines.map .text)) = _
  rw [textsFrom_texts]
  rfl

/-- **A finding whose confidence lies in the unit interval is accepted as it is.** -/
theorem read_wire {finding : Finding Float} (low : 0.0 ≤ finding.confidence)
    (high : finding.confidence ≤ 1.0) : read finding.wire = .ok finding := by
  have fields : readFields finding.wire = .ok finding := by
    unfold wire readFields
    simp only
    rw [@evidenceLines_texts _ finding.evidence (by simp)]
    simp only [required, optional, List.find?_cons, decide_true, String.reduceEq, decide_false,
      unitNumber_float low high, categoryWord_name, severityWord_name]
    rfl
  rw [read, fields]
  rfl

end Finding

end ContractRisk
