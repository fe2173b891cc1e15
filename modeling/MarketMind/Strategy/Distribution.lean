import Mathlib.Algebra.BigOperators.Group.List.Basic
import Mathlib.Algebra.BigOperators.Ring.List
import Mathlib.Algebra.Order.BigOperators.Group.List
import Mathlib.Algebra.Order.Floor.Ring
import Mathlib.Data.Rat.Floor
import Mathlib.Tactic.FieldSimp
import Mathlib.Tactic.Linarith
import Mathlib.Tactic.Positivity

/-!
Owns `distribute_exactly`, the largest-remainder method over exact weights, with
what its shares add up to, and the rounding of Python's `round`.

Does not own which channels are weighed, and what is distributed among them.
-/

namespace MarketMind.Strategy

/-- `round`, with ties to even. -/
def roundHalfEven (value : ℚ) : Int :=
  let below := ⌊value⌋
  if value - below < 1 / 2 ∨ (value - below = 1 / 2 ∧ below % 2 = 0) then below else below + 1

/-- Whether a share comes first: by its remainder, then by the lower weight, then by the later
place. -/
def remaindersBefore (left right : ℚ × ℚ × Nat) : Bool :=
  right.1 < left.1 ∨ (right.1 = left.1 ∧
    (right.2.1 < left.2.1 ∨ (right.2.1 = left.2.1 ∧ right.2.2 ≤ left.2.2)))

/-- The loop that hands out what the floors left over, in this order. -/
def handOut (order : List Nat) (leftover : Nat) (shares : List Int) : List Int :=
  (List.range leftover).foldl
    (fun shares turn => shares.modify (order.getD (turn % order.length) 0) (· + 1)) shares

def distributeExactly (total : Int) (weights : List ℚ) : List Int :=
  if weights = [] then []
  else if total = 0 then weights.map fun _ => 0
  else
    let weightSum := weights.sum
    if weightSum ≤ 0 then
      let equal := total / weights.length
      let remainder := total - equal * weights.length
      (List.range weights.length).map fun (index : Nat) =>
        equal + if (index : Int) < remainder then 1 else 0
    else
      let raw := weights.map fun weight => total * weight / weightSum
      let floored : List Int := raw.map fun share => ⌊share⌋
      let remainders := (raw.zip weights).zipIdx.map fun ((share, weight), index) =>
        (share - ⌊share⌋, -weight, index)
      let order := (remainders.mergeSort remaindersBefore).map (·.2.2)
      handOut order (total - floored.sum).toNat floored

/-! ## What the shares add up to -/

theorem roundHalfEven_mono {left right : ℚ} (ordered : left ≤ right) : roundHalfEven left ≤ roundHalfEven right := by
  have floors := Int.floor_mono ordered
  unfold roundHalfEven
  dsimp only
  rcases floors.lt_or_eq with less | same
  · split <;> split <;> omega
  · rw [same]
    split
    · split <;> omega
    · next up =>
      split
      · next down =>
        exfalso
        apply up
        rcases down with below | ⟨half, even⟩
        · exact Or.inl (by linarith)
        · rcases ordered.lt_or_eq with less | equal
          · exact Or.inl (by linarith)
          · exact Or.inr ⟨by rw [equal]; exact half, even⟩
      · exact le_refl _

theorem roundHalfEven_intCast (value : Int) : roundHalfEven (value : ℚ) = value := by
  simp [roundHalfEven]

private theorem sum_modify (shares : List Int) {index : Nat} (inside : index < shares.length) :
    (shares.modify index (· + 1)).sum = shares.sum + 1 := by
  induction shares generalizing index with
  | nil => simp at inside
  | cons share shares inductionHypothesis =>
      cases index with
      | zero =>
          simp only [List.modify_zero_cons, List.sum_cons]
          omega
      | succ index =>
          have further := inductionHypothesis (Nat.lt_of_succ_lt_succ inside)
          simp only [List.modify_succ_cons, List.sum_cons, further]
          omega

/-- What is handed out adds to the sum. -/
theorem sum_handOut {order : List Nat} {shares : List Int} (filled : order ≠ [])
    (inside : ∀ index ∈ order, index < shares.length) (leftover : Nat) :
    (handOut order leftover shares).sum = shares.sum + leftover ∧
      (handOut order leftover shares).length = shares.length := by
  unfold handOut
  induction leftover with
  | zero => simp
  | succ leftover inductionHypothesis =>
      obtain ⟨sum, length⟩ := inductionHypothesis
      rw [List.range_succ, List.foldl_append, List.foldl_cons, List.foldl_nil]
      have positive : 0 < order.length := List.length_pos_iff.2 filled
      have turn : leftover % order.length < order.length := Nat.mod_lt _ positive
      have member : order.getD (leftover % order.length) 0 ∈ order := by
        rw [List.getD_eq_getElem?_getD, List.getElem?_eq_getElem turn]
        exact List.getElem_mem turn
      refine ⟨?_, by rw [List.length_modify, length]⟩
      rw [sum_modify _ (by rw [length]; exact inside _ member), sum]
      push_cast
      omega

private theorem sum_floor_le (shares : List ℚ) :
    (((shares.map fun share => ⌊share⌋).sum : Int) : ℚ) ≤ shares.sum := by
  induction shares with
  | nil => simp
  | cons share shares inductionHypothesis =>
      have first := Int.floor_le share
      simp only [List.map_cons, List.sum_cons, Int.cast_add]
      linarith

theorem sum_shares (total : ℚ) {weights : List ℚ} (positive : 0 < weights.sum) :
    (weights.map fun weight => total * weight / weights.sum).sum = total := by
  have factored : (weights.map fun weight => total * weight / weights.sum) =
      weights.map fun weight => (total / weights.sum) * weight :=
    List.map_congr_left fun weight _ => by ring
  rw [factored, List.sum_map_mul_left, List.map_id']
  field_simp

private theorem sum_equal (equal remainder : Int) (count : Nat) (low : 0 ≤ remainder)
    (high : remainder ≤ count) :
    ((List.range count).map fun (index : Nat) =>
      equal + if (index : Int) < remainder then 1 else 0).sum = equal * count + remainder := by
  induction count generalizing remainder with
  | zero =>
      have : remainder = 0 := by omega
      simp [this]
  | succ count inductionHypothesis =>
      rw [List.range_succ, List.map_append, List.sum_append, List.map_singleton,
        List.sum_singleton]
      by_cases last : (count : Int) < remainder
      · have all : ((List.range count).map fun (index : Nat) =>
            equal + if (index : Int) < remainder then 1 else 0) =
              (List.range count).map fun (index : Nat) =>
                equal + if (index : Int) < count then 1 else 0 := by
          refine List.map_congr_left fun index member => ?_
          have := List.mem_range.1 member
          rw [if_pos (by omega), if_pos (by omega)]
        rw [all, inductionHypothesis count (by omega) (le_refl _), if_pos last]
        push_cast at high ⊢
        linarith
      · rw [inductionHypothesis remainder low (by omega), if_neg last]
        push_cast
        ring

/-- The shares add up to the total. -/
theorem sum_distributeExactly {total : Int} {weights : List ℚ} (filled : weights ≠ []) :
    (distributeExactly total weights).sum = total ∧
      (distributeExactly total weights).length = weights.length := by
  have positive : 0 < weights.length := List.length_pos_iff.2 filled
  unfold distributeExactly
  rw [if_neg filled]
  split
  · next none => simp [none]
  · dsimp only
    split
    · refine ⟨?_, by simp⟩
      have low := Int.emod_nonneg total (b := weights.length) (by omega)
      have high := Int.emod_lt_of_pos total (b := weights.length) (by omega)
      have division := Int.mul_ediv_add_emod total weights.length
      have product := Int.mul_comm (weights.length : Int) (total / weights.length)
      rw [sum_equal _ _ _ (by omega) (by omega)]
      omega
    · next above =>
      have weighed : 0 < weights.sum := not_le.1 above
      generalize isRaw : (weights.map fun weight => (total : ℚ) * weight / weights.sum) = raw
      have length : raw.length = weights.length := by rw [← isRaw, List.length_map]
      have sum : raw.sum = total := by rw [← isRaw]; exact sum_shares _ weighed
      have below := sum_floor_le raw
      rw [sum, Int.cast_le] at below
      have zipped : (raw.zip weights).length = weights.length := by
        rw [List.length_zip, length, min_self]
      have permuted := (List.mergeSort_perm ((raw.zip weights).zipIdx.map
        fun ((share, weight), index) => (share - ⌊share⌋, -weight, index)) remaindersBefore).map
          (·.2.2)
      rw [List.map_map] at permuted
      generalize List.map (fun entry : ℚ × ℚ × Nat => entry.2.2) _ = order at permuted ⊢
      have places : ∀ index, index ∈ order ↔ index < weights.length := by
        intro index
        have indices := List.zipIdx_map_snd 0 (raw.zip weights)
        rw [permuted.mem_iff, ← zipped]
        have same : ((fun entry : ℚ × ℚ × Nat => entry.2.2) ∘
            fun ((share, weight), index) => (share - (⌊share⌋ : ℚ), -weight, index)) =
              (Prod.snd : (ℚ × ℚ) × Nat → Nat) := rfl
        rw [same, indices, List.mem_range'_1]
        omega
      have filledOrder : order ≠ [] := by
        intro none
        have := (places 0).2 positive
        rw [none] at this
        cases this
      have inside : ∀ index ∈ order, index < (raw.map fun share => ⌊share⌋).length := by
        intro index member
        rw [List.length_map, length]
        exact (places index).1 member
      obtain ⟨handed, sameLength⟩ := sum_handOut filledOrder inside
        (total - (raw.map fun share => ⌊share⌋).sum).toNat
      exact ⟨by rw [handed]; omega, by rw [sameLength, List.length_map, length]⟩

end MarketMind.Strategy
