import Mathlib.Algebra.Ring.Int.Defs
import Mathlib.Algebra.BigOperators.Group.List.Basic

/-!
Owns append-only ledgers in general: the total of a ledger, and rows that record
the total as it was right after them.
-/

namespace MarketMind.Accounting

variable {Row : Type}

/-- The sum of what the rows contribute. -/
def total (amount : Row → Int) (rows : List Row) : Int := (rows.map amount).sum

@[simp] theorem total_nil (amount : Row → Int) : total amount [] = 0 := rfl

@[simp] theorem total_append (amount : Row → Int) (first second : List Row) :
    total amount (first ++ second) = total amount first + total amount second := by
  simp [total]

@[simp] theorem total_singleton (amount : Row → Int) (row : Row) :
    total amount [row] = amount row := by
  simp [total]

/-- The total of the selected rows only. -/
theorem total_filter (amount : Row → Int) (selected : Row → Bool) (rows : List Row) :
    total amount (rows.filter selected) =
      total (fun row => if selected row then amount row else 0) rows := by
  induction rows with
  | nil => rfl
  | cons row rest inductionHypothesis =>
      unfold total at inductionHypothesis ⊢
      by_cases chosen : selected row = true
      · simp [List.filter_cons, chosen, inductionHypothesis]
      · simp [List.filter_cons, chosen, inductionHypothesis]

/-- Every row records the total of the ledger up to and including itself. -/
def Running (amount recorded : Row → Int) (rows : List Row) : Prop :=
  ∀ before row after, rows = before ++ row :: after →
    recorded row = total amount (before ++ [row])

theorem running_nil (amount recorded : Row → Int) : Running amount recorded [] := by
  intro before row after split
  simp at split

/-- A ledger stays running when the next row records the total with itself. -/
theorem Running.append_single {amount recorded : Row → Int} {rows : List Row} {row : Row}
    (running : Running amount recorded rows)
    (records : recorded row = total amount rows + amount row) :
    Running amount recorded (rows ++ [row]) := by
  intro before other after split
  rcases List.append_eq_append_iff.mp split with ⟨middle, sameBefore, sameAfter⟩ | ⟨middle, sameRows, sameAfter⟩
  · cases middle with
    | nil =>
        simp only [List.append_nil] at sameBefore
        simp only [List.nil_append, List.cons.injEq] at sameAfter
        obtain ⟨sameRow, -⟩ := sameAfter
        rw [sameBefore, ← sameRow, total_append, total_singleton]
        exact records
    | cons head tail => simp at sameAfter
  · cases middle with
    | nil =>
        simp only [List.append_nil] at sameRows
        simp only [List.nil_append, List.cons.injEq] at sameAfter
        obtain ⟨sameRow, -⟩ := sameAfter
        rw [← sameRows, sameRow, total_append, total_singleton]
        exact records
    | cons head tail =>
        simp only [List.cons_append, List.cons.injEq] at sameAfter
        refine running before other tail ?_
        rw [sameRows, sameAfter.1]

/-- The last row records the total of the whole ledger. -/
theorem Running.getLast {amount recorded : Row → Int} {rows : List Row} {row : Row}
    (running : Running amount recorded rows) (last : rows.getLast? = some row) :
    recorded row = total amount rows := by
  obtain ⟨before, split⟩ := List.getLast?_eq_some_iff.mp last
  rw [running before row [] split, split]

end MarketMind.Accounting
