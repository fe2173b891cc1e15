import Mathlib.Algebra.Order.Ring.Rat
import Mathlib.Data.Char
import Mathlib.Data.List.GetD
import Mathlib.Data.List.Lex
import Mathlib.Data.List.Sort
import Mathlib.Tactic.Linarith
import Mathlib.Tactic.Positivity

/-!
Owns the sorting that comparisons rest on: the first of a sorted list, and the median of exact
numbers.

Does not own what is compared.
-/

namespace MarketMind.Performance

/-! ### The first of a sorted list -/

/-- The first of a list that is sorted by a total preorder is below all of it. -/
theorem least_of_sort {α : Type} {before : α → α → Prop} [DecidableRel before]
    (total : ∀ left right, before left right ∨ before right left)
    (trans : ∀ {left middle right}, before left middle → before middle right → before left right)
    {list : List α} {first : α} (isFirst : (list.insertionSort before).head? = some first) :
    first ∈ list ∧ ∀ other ∈ list, before first other := by
  have isTotal : Std.Total before := ⟨total⟩
  have isTrans : IsTrans α before := ⟨fun _ _ _ => trans⟩
  have sorted := List.pairwise_insertionSort before list
  cases order : list.insertionSort before with
  | nil =>
      rw [order] at isFirst
      cases isFirst
  | cons head tail =>
      rw [order] at isFirst sorted
      obtain rfl := Option.some.inj isFirst
      have members : ∀ {item}, item ∈ list ↔ item = head ∨ item ∈ tail := by
        intro item
        rw [← List.mem_insertionSort before, order, List.mem_cons]
      refine ⟨members.mpr (Or.inl rfl), fun other member => ?_⟩
      rcases members.mp member with rfl | inTail
      · exact (total other other).elim id id
      · exact (List.pairwise_cons.mp sorted).1 other inTail

theorem exists_head_of_sort {α : Type} (before : α → α → Prop) [DecidableRel before]
    {list : List α} {item : α} (member : item ∈ list) :
    ∃ first, (list.insertionSort before).head? = some first := by
  cases order : list.insertionSort before with
  | nil =>
      rw [← List.mem_insertionSort before, order] at member
      cases member
  | cons head tail => exact ⟨head, rfl⟩

/-! ### The median -/

/-- The middle of the sorted values, or the mean of the two in the middle. -/
def median (values : List ℚ) : ℚ :=
  let sorted := values.insertionSort (· ≤ ·)
  let middle := sorted.length / 2
  if sorted.length % 2 = 0 then (sorted.getD (middle - 1) 0 + sorted.getD middle 0) / 2
  else sorted.getD middle 0

end MarketMind.Performance
