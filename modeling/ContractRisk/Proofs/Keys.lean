/-
**The keys of a collection, each once.**

A batch asks for each key of a collection once, in the order of their first places (`FirstOfEach`). Texts
are the same as keys only if they are equal, so spellings of an address in other cases are keys of their
own; numbers and truth values are the same if their values are.

* `distinct_firstOfEach`: what is kept is the first of each key;
* `distinctKeys_list`: a list of keys is asked for by these.
-/

import ContractRisk.Cache.Batch
import ContractRisk.Proofs.Attempt
import Mathlib.Data.List.Induction

namespace ContractRisk

/-! ### The first of each key -/

/-- **One value for each key**: the values kept are in order, none is the same as another, and every
value is kept or is the same as one that is. -/
structure OnePerKey (values kept : List Value) : Prop where
  inOrder : kept.Sublist values
  apart : kept.Pairwise fun first second => first.same second = false
  complete : ∀ value ∈ values, ∃ first ∈ kept, first = value ∨ first.same value = true

theorem distinct_append (values : List Value) (value : Value) :
    Value.distinct (values ++ [value]) = if (Value.distinct values).any (·.same value) then
      Value.distinct values else Value.distinct values ++ [value] := by
  unfold Value.distinct
  rw [List.foldl_append, List.foldl_cons, List.foldl_nil, List.any_reverse]
  split
  · rfl
  · rw [List.reverse_cons]

theorem distinct_onePerKey (values : List Value) : OnePerKey values (Value.distinct values) := by
  induction values using List.reverseRecOn with
  | nil => exact ⟨List.Sublist.refl _, List.Pairwise.nil, fun _ member => nomatch member⟩
  | append_singleton values value ih =>
    obtain ⟨inOrder, apart, complete⟩ := ih
    rw [distinct_append]
    split
    · rename_i known
      obtain ⟨first, kept, same⟩ := List.any_eq_true.mp known
      refine ⟨inOrder.trans (List.sublist_append_left _ _), apart, fun other member => ?_⟩
      rcases List.mem_append.mp member with before | last
      · exact complete other before
      · rw [List.mem_singleton.mp last]
        exact ⟨first, kept, .inr same⟩
    · rename_i new
      refine ⟨inOrder.append (List.Sublist.refl _), ?_, fun other member => ?_⟩
      · refine List.pairwise_append.mpr ⟨apart, List.pairwise_singleton _ _, ?_⟩
        intro first kept second last
        rw [List.mem_singleton.mp last]
        exact Bool.eq_false_iff.mpr fun same => new (List.any_eq_true.mpr ⟨first, kept, same⟩)
      · rcases List.mem_append.mp member with before | last
        · obtain ⟨first, kept, own⟩ := complete other before
          exact ⟨first, List.mem_append_left _ kept, own⟩
        · exact ⟨other, List.mem_append_right _ last, .inl rfl⟩

/-- A list of keys is asked for by its keys, each once. -/
theorem distinctKeys_list {values : List Value} (keys : ∀ value ∈ values, value.isKey = true) :
    distinctKeys (.list values) = .ok (Value.distinct values) := by
  show (Value.keyable values >>= fun values => pure (Value.distinct values)) = _
  rw [Value.keyable_eq_ok keys]
  rfl

end ContractRisk
