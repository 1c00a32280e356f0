/-
**Attempts, which succeed or end in a failure.**

Readers and checks are chains of attempts. An attempt that succeeds is taken apart here: a chain
into its links (`bind_eq_ok`), an attempt with its failure reworded into the attempt itself
(`mapError_eq_ok`), and one for each item of a list into those for the items (`mem_of_mapM`,
`mapM_perm`); `mapM_eq_ok` puts the latter together again, and `filterM_eq_ok` and `anyM_eq_ok` do so
for tests. Values of which each can be a key pass the check for that (`Value.keyable_eq_ok`).
-/

import ContractRisk.Failure

namespace ContractRisk

namespace Attempt

variable {ε δ β γ : Type}

theorem bind_eq_ok {attempt : Except ε β} {next : β → Except ε γ} {result : γ} :
    attempt >>= next = .ok result ↔ ∃ value, attempt = .ok value ∧ next value = .ok result := by
  cases attempt <;> simp [Bind.bind, Except.bind]

theorem map_eq_ok {attempt : Except ε β} {change : β → γ} {result : γ} :
    attempt.map change = .ok result ↔ ∃ value, attempt = .ok value ∧ change value = result := by
  cases attempt <;> simp [Except.map]

theorem map_eq_error {attempt : Except ε β} {change : β → γ} {failure : ε} :
    attempt.map change = .error failure ↔ attempt = .error failure := by
  cases attempt <;> simp [Except.map]

theorem mapError_eq_ok {attempt : Except ε β} {reword : ε → δ} {result : β} :
    attempt.mapError reword = .ok result ↔ attempt = .ok result := by
  cases attempt with
  | error failure => exact ⟨(fun same => nomatch same), (fun same => nomatch same)⟩
  | ok value =>
    constructor <;>
    · intro same
      cases same
      rfl

theorem mapM_cons_eq_ok {attempt : β → Except ε γ} {head : β} {rest : List β} {results : List γ} :
    (head :: rest).mapM attempt = .ok results ↔
      ∃ first others, attempt head = .ok first ∧ rest.mapM attempt = .ok others ∧
        results = first :: others := by
  rw [List.mapM_cons]
  constructor
  · intro succeeds
    obtain ⟨first, here, succeeds⟩ := bind_eq_ok.mp succeeds
    obtain ⟨others, there, same⟩ := bind_eq_ok.mp succeeds
    cases same
    exact ⟨first, others, here, there, rfl⟩
  · rintro ⟨first, others, here, there, rfl⟩
    rw [here, there]
    rfl

/-- Each result for a list is the result for one of its items. -/
theorem mem_of_mapM {attempt : β → Except ε γ} {items : List β} {results : List γ}
    (succeeds : items.mapM attempt = .ok results) {result : γ} (member : result ∈ results) :
    ∃ item ∈ items, attempt item = .ok result := by
  induction items generalizing results with
  | nil =>
    cases succeeds
    cases member
  | cons head rest ih =>
    obtain ⟨first, others, here, there, rfl⟩ := mapM_cons_eq_ok.mp succeeds
    rcases List.mem_cons.mp member with rfl | inside
    · exact ⟨head, List.mem_cons_self, here⟩
    · obtain ⟨item, inRest, found⟩ := ih there inside
      exact ⟨item, List.mem_cons_of_mem _ inRest, found⟩

/-- Items in another order have their results in another order. -/
theorem mapM_perm {attempt : β → Except ε γ} {items others : List β} (perm : items.Perm others)
    {results : List γ} (succeeds : items.mapM attempt = .ok results) :
    ∃ results', others.mapM attempt = .ok results' ∧ results.Perm results' := by
  induction perm generalizing results with
  | nil => exact ⟨results, succeeds, .refl _⟩
  | cons head _ ih =>
    obtain ⟨first, rest, here, there, rfl⟩ := mapM_cons_eq_ok.mp succeeds
    obtain ⟨rest', there', perm⟩ := ih there
    exact ⟨first :: rest', mapM_cons_eq_ok.mpr ⟨first, rest', here, there', rfl⟩, perm.cons first⟩
  | swap second first items =>
    obtain ⟨one, later, here, there, rfl⟩ := mapM_cons_eq_ok.mp succeeds
    obtain ⟨other, rest, here', there', rfl⟩ := mapM_cons_eq_ok.mp there
    have behind : (first :: items).mapM attempt = .ok (one :: rest) :=
      mapM_cons_eq_ok.mpr ⟨one, rest, here, there', rfl⟩
    exact ⟨other :: one :: rest, mapM_cons_eq_ok.mpr ⟨other, _, here', behind, rfl⟩, .swap _ _ _⟩
  | trans _ _ first second =>
    obtain ⟨middle, succeeds, perm⟩ := first succeeds
    obtain ⟨results', succeeds, perm'⟩ := second succeeds
    exact ⟨results', succeeds, perm.trans perm'⟩

/-- A list of which each item succeeds has the results of its items. -/
theorem mapM_eq_ok {attempt : β → Except ε γ} {result : β → γ} {items : List β}
    (succeed : ∀ item ∈ items, attempt item = .ok (result item)) :
    items.mapM attempt = .ok (items.map result) := by
  induction items with
  | nil => rfl
  | cons head rest ih =>
    have later := ih fun item member => succeed item (List.mem_cons_of_mem _ member)
    rw [List.mapM_cons, succeed head List.mem_cons_self, later]
    rfl

/-- The same for a test that each item gets through, whether it passes or not. -/
theorem filterM_eq_ok {attempt : β → Except ε Bool} {test : β → Bool} {items : List β}
    (succeed : ∀ item ∈ items, attempt item = .ok (test item)) :
    items.filterM attempt = .ok (items.filter test) := by
  have gathered : ∀ kept, items.filterAuxM attempt kept = .ok ((items.filter test).reverse ++ kept) := by
    induction items with
    | nil => exact fun _ => rfl
    | cons head rest ih =>
      intro kept
      have later := ih fun item member => succeed item (List.mem_cons_of_mem _ member)
      rw [List.filterAuxM, succeed head List.mem_cons_self]
      refine (later _).trans ?_
      cases here : test head with
      | true => simp [here]
      | false => simp [here]
  rw [List.filterM, gathered]
  simp [Bind.bind, Except.bind, Pure.pure, Except.pure]

/-- The same for whether some item passes. -/
theorem anyM_eq_ok {attempt : β → Except ε Bool} {test : β → Bool} {items : List β}
    (succeed : ∀ item ∈ items, attempt item = .ok (test item)) :
    items.anyM attempt = .ok (items.any test) := by
  induction items with
  | nil => rfl
  | cons head rest ih =>
    have later := ih fun item member => succeed item (List.mem_cons_of_mem _ member)
    rw [List.anyM, succeed head List.mem_cons_self, List.any_cons]
    cases test head with
    | true => rfl
    | false => exact later

end Attempt

theorem Value.keyable_eq_ok {values : List Value} (keys : ∀ value ∈ values, value.isKey = true) :
    Value.keyable values = .ok values := by
  have all : Value.unkeyable? values = none := by
    refine List.find?_eq_none.mpr fun value member => ?_
    rw [keys value member]
    decide
  rw [Value.keyable, all]

end ContractRisk
