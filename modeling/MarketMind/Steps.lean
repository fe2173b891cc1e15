import Mathlib.Data.List.Forall2

/-!
Owns the steps of a computation that may fail, over a list of items.

Does not own any error.
-/

namespace MarketMind.Steps

variable {ε α β : Type} {step : α → Except ε β} {list : List α} {results : List β}

theorem bind_eq_ok {first : Except ε α} {next : α → Except ε β} {result : β} :
    (first >>= next) = .ok result ↔ ∃ value, first = .ok value ∧ next value = .ok result := by
  cases first with
  | error error =>
      constructor
      · intro bound
        cases bound
      · rintro ⟨value, absurdly, -⟩
        cases absurdly
  | ok value =>
      constructor
      · intro bound
        exact ⟨value, rfl, bound⟩
      · rintro ⟨other, same, bound⟩
        cases same
        exact bound

/-- All steps succeed, each with its own result. -/
theorem mapM_eq_ok : list.mapM step = .ok results ↔
    List.Forall₂ (fun item result => step item = .ok result) list results := by
  induction list generalizing results with
  | nil =>
      rw [List.forall₂_nil_left_iff, List.mapM_nil, eq_comm]
      exact Except.ok.injEq _ _ |>.to_iff
  | cons head rest inductionHypothesis =>
      rw [List.mapM_cons, bind_eq_ok, List.forall₂_cons_left_iff]
      constructor
      · rintro ⟨value, first, further⟩
        obtain ⟨values, others, made⟩ := bind_eq_ok.mp further
        cases made
        exact ⟨value, values, first, inductionHypothesis.mp others, rfl⟩
      · rintro ⟨value, values, first, others, rfl⟩
        exact ⟨value, first, bind_eq_ok.mpr ⟨values, inductionHypothesis.mpr others, rfl⟩⟩

theorem mapM_of_forall {value : α → β} (steps : ∀ item ∈ list, step item = .ok (value item)) :
    list.mapM step = .ok (list.map value) :=
  mapM_eq_ok.mpr (List.forall₂_map_right_iff.mpr (List.forall₂_same.mpr steps))

theorem mapM_ok (succeeds : ∀ item ∈ list, ∃ result, step item = .ok result) :
    ∃ results, list.mapM step = .ok results := by
  induction list with
  | nil => exact ⟨[], rfl⟩
  | cons head rest inductionHypothesis =>
      obtain ⟨value, first⟩ := succeeds head List.mem_cons_self
      obtain ⟨values, others⟩ := inductionHypothesis fun item member =>
        succeeds item (List.mem_cons_of_mem head member)
      exact ⟨value :: values, mapM_eq_ok.mpr (.cons first (mapM_eq_ok.mp others))⟩

/-- A step that is what a function of its result says, for every item. -/
theorem mapM_eq_ok_map {allowed : α → Prop} {value : α → β}
    (steps : ∀ item result, step item = .ok result ↔ allowed item ∧ result = value item) :
    list.mapM step = .ok results ↔ (∀ item ∈ list, allowed item) ∧ results = list.map value := by
  rw [mapM_eq_ok]
  induction list generalizing results with
  | nil => simp
  | cons head rest inductionHypothesis =>
      rw [List.forall₂_cons_left_iff, List.forall_mem_cons]
      constructor
      · rintro ⟨result, others, first, further, rfl⟩
        obtain ⟨isAllowed, rfl⟩ := (steps head result).mp first
        obtain ⟨allAllowed, rfl⟩ := inductionHypothesis.mp further
        exact ⟨⟨isAllowed, allAllowed⟩, rfl⟩
      · rintro ⟨⟨isAllowed, allAllowed⟩, rfl⟩
        exact ⟨value head, rest.map value, (steps head _).mpr ⟨isAllowed, rfl⟩,
          inductionHypothesis.mpr ⟨allAllowed, rfl⟩, rfl⟩

end MarketMind.Steps
