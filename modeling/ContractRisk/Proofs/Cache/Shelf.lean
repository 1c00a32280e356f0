/-
**What a shelf holds.**

The uses of a shelf, the last one first, tell what it holds. Of each key only the last use counts
(`recent`), and of those uses the shelf has as many as there is room for (`Tracked`), whatever is used
(`Tracked.use`). So a value is there if and only if fewer other keys were used since than there are places
(`Tracked.lookup_eq_some`). Under other keys and with other values a shelf is used in the same way, as long
as the keys are told apart (`lookup_rename`, `touch_rename`, `put_rename`).
-/

import ContractRisk.Cache.Shelf
import ContractRisk.Proofs.Cache.Events
import Mathlib.Data.List.Dedup

namespace ContractRisk.Shelf

variable {κ β : Type} [DecidableEq κ]

/-! ### What comes to a shelf -/

section

variable {shelf : Shelf κ β} {key : κ} {value fresh : β} {entry : κ × β}

theorem mem_touch (member : entry ∈ shelf.touch key value) : entry ∈ shelf ∨ entry = (key, value) := by
  rcases List.mem_append.mp member with before | last
  · exact .inl (List.mem_of_mem_filter before)
  · exact .inr (List.mem_singleton.mp last)

theorem mem_put (member : entry ∈ shelf.put key value) : entry ∈ shelf ∨ entry = (key, value) :=
  mem_touch (List.mem_of_mem_drop member)

/-- What was put on the shelf is the last of it, and nothing before it has its key. -/
theorem put_eq_concat (shelf : Shelf κ β) (key : κ) (value : β) :
    ∃ others, shelf.put key value = others ++ [(key, value)] ∧ ∀ entry ∈ others, entry.1 ≠ key := by
  refine ⟨(shelf.without key).drop ((shelf.touch key value).length - capacity), ?_, fun entry member => ?_⟩
  · unfold put trim touch
    rw [List.drop_append_of_le_length]
    rw [List.length_append, List.length_singleton]
    unfold capacity
    omega
  · exact of_decide_eq_true (List.mem_filter.mp (List.mem_of_mem_drop member)).2

/-- So it is found. -/
theorem lookup_put (shelf : Shelf κ β) (key : κ) (value : β) :
    (shelf.put key value).lookup key = some value := by
  obtain ⟨others, split, apart⟩ := shelf.put_eq_concat key value
  refine List.lookup_eq_some_iff.mpr ⟨others, [], split, fun entry member => ?_⟩
  exact bne_iff_ne.mpr (apart entry member).symm

/-- Another value of the key that was used last takes the place of the one before. -/
theorem put_last {others : Shelf κ β} (apart : ∀ entry ∈ others, entry.1 ≠ key)
    (room : others.length < capacity) :
    Shelf.put (others ++ [(key, value)]) key fresh = others ++ [(key, fresh)] := by
  have rest : Shelf.without (others ++ [(key, value)]) key = others := by
    unfold without
    rw [List.filter_append, List.filter_eq_self.mpr fun entry member => decide_eq_true (apart entry member),
      List.filter_singleton]
    simp
  unfold put trim touch
  rw [rest, List.length_append, List.length_singleton, Nat.sub_eq_zero_of_le room, List.drop_zero]

/-- A value that is used is that of its key or a fresh one, and nothing else comes to the shelf. -/
theorem mem_use :
    ((key, (shelf.use key fresh).1) ∈ shelf ∨ (shelf.use key fresh).1 = fresh) ∧
      ∀ entry ∈ (shelf.use key fresh).2, entry ∈ shelf ∨ entry = (key, (shelf.use key fresh).1) := by
  unfold Shelf.use
  cases found : shelf.lookup key with
  | some value => exact ⟨.inl (mem_of_lookup found), fun _ member => mem_touch member⟩
  | none => exact ⟨.inr rfl, fun _ member => mem_put member⟩

end

/-! ### Uses -/

/-- The last use of each key, the latest first. -/
def recent : List (κ × β) → List (κ × β)
  | [] => []
  | use :: before => use :: (recent before).filter (·.1 ≠ use.1)

/-- The keys that were used since the last use of a key. -/
def othersSince (key : κ) (uses : List (κ × β)) : List κ := (uses.map (·.1)).takeWhile (· ≠ key)

section

variable {uses : List (κ × β)} {key : κ} {value : β}

theorem recent_subset (uses : List (κ × β)) : recent uses ⊆ uses := by
  induction uses with
  | nil => exact List.Subset.refl _
  | cons use before ih =>
    refine List.cons_subset_cons use fun other member => ?_
    exact ih (List.mem_of_mem_filter member)

/-- No key is there twice. -/
theorem recent_apart (uses : List (κ × β)) : ((recent uses).map (·.1)).Nodup := by
  induction uses with
  | nil => exact List.nodup_nil
  | cons use before ih =>
    rw [recent, List.map_cons, List.nodup_cons]
    constructor
    · intro again
      obtain ⟨other, member, same⟩ := List.mem_map.mp again
      exact absurd same (of_decide_eq_true (List.mem_filter.mp member).2)
    · exact ih.sublist (List.filter_sublist.map _)

/-- **Before the last use of a key stand the keys that were used since**, each once. -/
theorem recent_split (used : uses.lookup key = some value) :
    ∃ before after, recent uses = before ++ (key, value) :: after ∧ key ∉ before.map (·.1) ∧
      before.length = (othersSince key uses).dedup.length := by
  -- the keys before are told apart and are the same as those that were used since
  obtain ⟨before, after, split, same⟩ : ∃ before after, recent uses = before ++ (key, value) :: after ∧
      ∀ other, other ∈ before.map (·.1) ↔ other ∈ othersSince key uses := by
    induction uses with
    | nil => cases used
    | cons use rest ih =>
      obtain ⟨first, given⟩ := use
      by_cases own : key = first
      · subst own
        rw [List.lookup_cons_self] at used
        cases used
        refine ⟨[], (recent rest).filter (·.1 ≠ key), rfl, fun other => ?_⟩
        unfold othersSince
        simp
      · rw [List.lookup_cons, beq_false_of_ne own] at used
        obtain ⟨before, after, split, same⟩ := ih used
        refine ⟨(first, given) :: before.filter (·.1 ≠ first), after.filter (·.1 ≠ first), ?_, ?_⟩
        · rw [recent, split, List.filter_append, List.filter_cons_of_pos (by simpa using own)]
          rfl
        · intro other
          have since : othersSince key ((first, given) :: rest) = first :: othersSince key rest := by
            unfold othersSince
            rw [List.map_cons, List.takeWhile_cons_of_pos (by simpa using Ne.symm own)]
          rw [since, List.map_cons, List.mem_cons, List.mem_cons, ← same other]
          by_cases here : other = first
          · simp [here]
          · simp [here]
  have apart := recent_apart uses
  rw [split, List.map_append] at apart
  have outside : key ∉ before.map (·.1) := fun inside =>
    (List.nodup_append.mp apart).2.2 key inside key (List.mem_cons_self) rfl
  refine ⟨before, after, split, outside, ?_⟩
  have perm := (List.perm_ext_iff_of_nodup (List.nodup_append.mp apart).1
    (List.nodup_dedup (othersSince key uses))).mpr fun other => (same other).trans List.mem_dedup.symm
  rw [← perm.length_eq, List.length_map]

end

/-! ### What is held -/

/-- **A shelf that holds what was used last.** -/
def Tracked (uses : List (κ × β)) (shelf : Shelf κ β) : Prop :=
  shelf = ((recent uses).take capacity).reverse

section

variable {uses : List (κ × β)} {shelf : Shelf κ β} {key : κ} {value : β}

theorem tracked_nil : Tracked [] ([] : Shelf κ β) := rfl

theorem Tracked.bounded (tracked : Tracked uses shelf) : shelf.length ≤ capacity := by
  rw [tracked, List.length_reverse, List.length_take]
  exact Nat.min_le_left _ _

theorem Tracked.apart (tracked : Tracked uses shelf) : (shelf.map (·.1)).Nodup := by
  rw [tracked, List.map_reverse, List.nodup_reverse]
  exact (recent_apart uses).sublist ((List.take_sublist _ _).map _)

theorem Tracked.subset (tracked : Tracked uses shelf) : shelf ⊆ uses := by
  intro entry member
  rw [tracked, List.mem_reverse] at member
  exact recent_subset uses (List.mem_of_mem_take member)

/-- **What is found is what was used last**, unless too many others were used since. -/
theorem Tracked.lookup_eq_some (tracked : Tracked uses shelf) :
    shelf.lookup key = some value ↔
      uses.lookup key = some value ∧ (othersSince key uses).dedup.length < capacity := by
  rw [lookup_eq_some_iff_mem tracked.apart, tracked, List.mem_reverse]
  constructor
  · intro member
    have inside := List.mem_of_mem_take member
    cases used : uses.lookup key with
    | none =>
      have missing := List.lookup_eq_none_iff.mp used _ (recent_subset uses inside)
      simp at missing
    | some last =>
      obtain ⟨before, after, split, outside, length⟩ := recent_split used
      have same : (key, last) ∈ recent uses := split ▸ List.mem_append_right _ List.mem_cons_self
      cases List.inj_on_of_nodup_map (recent_apart uses) inside same rfl
      refine ⟨rfl, ?_⟩
      rw [← length]
      by_contra full
      rw [split, List.take_append_of_le_length (Nat.le_of_not_lt full)] at member
      exact outside (List.mem_map_of_mem (List.mem_of_mem_take member))
  · rintro ⟨used, room⟩
    obtain ⟨before, after, split, -, length⟩ := recent_split used
    rw [← length] at room
    rw [split, List.take_append, List.take_cons (Nat.sub_pos_of_lt room)]
    exact List.mem_append_right _ List.mem_cons_self

/-- One key less leaves as many of the others as one place more did. -/
theorem take_filter {entries : List (κ × β)} (apart : (entries.map (·.1)).Nodup) (key : κ) (count : Nat) :
    ((entries.take (count + 1)).filter (·.1 ≠ key)).take count =
      (entries.filter (·.1 ≠ key)).take count := by
  induction entries generalizing count with
  | nil => rfl
  | cons entry rest ih =>
    obtain ⟨fresh, apart⟩ := List.nodup_cons.mp apart
    by_cases own : entry.1 = key
    · have others : ∀ other ∈ rest, decide (other.1 ≠ key) = true := by
        intro other member
        refine decide_eq_true fun same => fresh ?_
        exact List.mem_map.mpr ⟨other, member, same.trans own.symm⟩
      rw [List.take_succ_cons, List.filter_cons_of_neg (by simpa using own),
        List.filter_cons_of_neg (by simpa using own), List.filter_eq_self.mpr others,
        List.filter_eq_self.mpr fun other member => others other (List.mem_of_mem_take member),
        List.take_take, Nat.min_self]
    · rw [List.take_succ_cons, List.filter_cons_of_pos (by simpa using own),
        List.filter_cons_of_pos (by simpa using own)]
      cases count with
      | zero => rfl
      | succ count => rw [List.take_succ_cons, List.take_succ_cons, ih apart]

/-- What is found again is the last use, and nothing has to go for it. -/
theorem touch_eq_put (bounded : shelf.length ≤ capacity) (found : shelf.lookup key = some value) :
    shelf.touch key value = shelf.put key value := by
  obtain ⟨before, after, split, -⟩ := List.lookup_eq_some_iff.mp found
  have fewer : (shelf.without key).length < shelf.length := by
    unfold without
    refine List.length_filter_lt_length_iff_exists.mpr ⟨(key, value), ?_, ?_⟩
    · rw [split]
      exact List.mem_append_right _ List.mem_cons_self
    · simp
  have length : (shelf.touch key value).length ≤ capacity := by
    unfold touch
    rw [List.length_append, List.length_singleton]
    omega
  unfold put trim
  rw [Nat.sub_eq_zero_of_le length, List.drop_zero]

/-- A value that is put on the shelf is the last use. -/
theorem Tracked.put (tracked : Tracked uses shelf) (key : κ) (value : β) :
    Tracked ((key, value) :: uses) (shelf.put key value) := by
  have others := take_filter (recent_apart uses) key 15
  unfold Tracked at tracked
  subst tracked
  unfold Tracked Shelf.put touch without trim
  rw [List.filter_reverse, ← List.reverse_cons, List.length_reverse, List.drop_reverse]
  congr 1
  generalize kept : (key, value) :: ((recent uses).take capacity).filter (·.1 ≠ key) = all
  have room : all.take (all.length - (all.length - capacity)) = all.take capacity := by
    rw [List.take_eq_take_iff]
    omega
  rw [room, ← kept]
  exact congrArg ((key, value) :: ·) others

/-- **Every use of the shelf is the last use**, of a key that is held as of one that is not. -/
theorem Tracked.use (tracked : Tracked uses shelf) (key : κ) (fresh : β) :
    Tracked ((key, (shelf.use key fresh).1) :: uses) (shelf.use key fresh).2 := by
  unfold Shelf.use
  cases found : shelf.lookup key with
  | none => exact tracked.put key fresh
  | some value =>
    have put := tracked.put key value
    rwa [← touch_eq_put tracked.bounded found] at put

end

/-! ### The same shelf under other keys -/

section

variable {γ δ : Type} [DecidableEq γ] {shelf : Shelf κ β} {rename : κ × β → γ} {content : β → δ}
  {key : κ} {name : γ}

omit [DecidableEq κ] [DecidableEq γ] in
theorem lookup_rename [BEq κ] [LawfulBEq κ] [BEq γ] [LawfulBEq γ]
    (same : ∀ entry ∈ shelf, rename entry = name ↔ entry.1 = key) :
    (shelf.map fun entry => (rename entry, content entry.2)).lookup name =
      (shelf.lookup key).map content := by
  induction shelf with
  | nil => rfl
  | cons entry rest ih =>
    have here := same entry List.mem_cons_self
    rw [List.map_cons]
    by_cases own : entry.1 = key
    · obtain ⟨_, value⟩ := entry
      cases own
      rw [here.mpr rfl, List.lookup_cons_self, List.lookup_cons_self]
      rfl
    · rw [List.lookup_cons, List.lookup_cons, beq_false_of_ne (Ne.symm own),
        beq_false_of_ne fun equal => own (here.mp equal.symm)]
      exact ih fun other member => same other (List.mem_cons_of_mem _ member)

theorem touch_rename (same : ∀ entry ∈ shelf, rename entry = name ↔ entry.1 = key) {value : β}
    (own : rename (key, value) = name) :
    (shelf.touch key value).map (fun entry => (rename entry, content entry.2)) =
      Shelf.touch (shelf.map fun entry => (rename entry, content entry.2)) name (content value) := by
  unfold touch without
  rw [List.map_append, List.filter_map, List.map_singleton, own]
  congr 2
  refine List.filter_congr fun entry member => ?_
  simp [same entry member]

theorem put_rename (same : ∀ entry ∈ shelf, rename entry = name ↔ entry.1 = key) {value : β}
    (own : rename (key, value) = name) :
    (shelf.put key value).map (fun entry => (rename entry, content entry.2)) =
      Shelf.put (shelf.map fun entry => (rename entry, content entry.2)) name (content value) := by
  unfold put trim
  rw [List.map_drop, ← List.length_map fun entry => (rename entry, content entry.2),
    touch_rename same own]

end

end ContractRisk.Shelf
