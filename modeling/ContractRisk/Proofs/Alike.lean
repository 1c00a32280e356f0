/-
**Lists whose members are alike, one by one.**

What alike items have in common is read off both lists alike: mapped items are equal (`map_alike`), what
is kept of the lists is alike again (`filter_alike`), and a test succeeds on both or on neither
(`any_alike`).
-/

import Mathlib.Data.List.Forall2

namespace ContractRisk

variable {A B : Type} {related : A → A → Prop} {items others : List A}
  (alike : List.Forall₂ related items others)
include alike

theorem map_alike (read : A → B)
    (told : ∀ {item other}, related item other → read item = read other) :
    items.map read = others.map read := by
  induction alike with
  | nil => rfl
  | cons here _ ih => rw [List.map_cons, List.map_cons, told here, ih]

theorem filter_alike (keep : A → Bool)
    (told : ∀ {item other}, related item other → keep item = keep other) :
    List.Forall₂ related (items.filter keep) (others.filter keep) :=
  List.rel_filter (fun _ _ own => by simp [told own]) alike

theorem any_alike (test : A → Bool)
    (told : ∀ {item other}, related item other → test item = test other) :
    items.any test = others.any test := by
  have read (list : List A) : list.any test = (list.map test).any id := by
    rw [List.any_map]
    rfl
  rw [read, read, map_alike alike test told]

theorem isEmpty_alike : items.isEmpty = others.isEmpty := by
  cases alike <;> rfl

end ContractRisk
