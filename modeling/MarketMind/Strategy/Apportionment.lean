import MarketMind.Strategy.Distribution

/-!
Owns what `distribute_exactly` does with the units that the floors leave over: who gets one, and
when ties are broken as its documentation says.

Does not own the sum of the shares.
-/

namespace MarketMind.Strategy.Apportionment

/-! ### Quotas -/

/-- The exact proportional share of a weight. -/
def quota (total : Int) (weights : List ℚ) (weight : ℚ) : ℚ := total * weight / weights.sum

/-- What the floor of a quota leaves over. -/
def remainder (total : Int) (weights : List ℚ) (weight : ℚ) : ℚ :=
  quota total weights weight - ⌊quota total weights weight⌋

def floors (total : Int) (weights : List ℚ) : List Int :=
  weights.map fun weight => ⌊quota total weights weight⌋

/-- The units that the floors leave over. -/
def leftover (total : Int) (weights : List ℚ) : Nat := (total - (floors total weights).sum).toNat

/-- The place comes first by the documentation: by its remainder, then by the higher weight, then by
the earlier place. -/
def Preferred (total : Int) (weights : List ℚ) (left right : ℚ × Nat) : Prop :=
  remainder total weights right.1 < remainder total weights left.1 ∨
    remainder total weights right.1 = remainder total weights left.1 ∧
      (right.1 < left.1 ∨ right.1 = left.1 ∧ left.2 < right.2)

/-- What the documentation promises of the shares. -/
structure Apportions (total : Int) (weights : List ℚ) (shares : List Int) : Prop where
  length : shares.length = weights.length
  nonneg : ∀ share ∈ shares, 0 ≤ share
  sum : shares.sum = total
  rounded : ∀ (index : Nat) weight share, (weights.zip shares)[index]? = some (weight, share) →
    share = ⌊quota total weights weight⌋ ∨ share = ⌈quota total weights weight⌉
  mono : ∀ (index other : Nat) weight heavier share larger,
    (weights.zip shares)[index]? = some (weight, share) →
    (weights.zip shares)[other]? = some (heavier, larger) → weight < heavier → share ≤ larger
  favours : ∀ (index other : Nat) weight lesser share smaller,
    (weights.zip shares)[index]? = some (weight, share) →
    (weights.zip shares)[other]? = some (lesser, smaller) →
    Preferred total weights (weight, index) (lesser, other) →
    ⌊quota total weights lesser⌋ < smaller → ⌊quota total weights weight⌋ < share

/-- The units run out among places of one remainder. -/
def Splits (total : Int) (weights : List ℚ) : Prop :=
  ∃ weight ∈ weights,
    (weights.countP fun other => remainder total weights weight < remainder total weights other) <
      leftover total weights ∧
    leftover total weights <
      weights.countP fun other => remainder total weights weight ≤ remainder total weights other

/-! ### Who gets a unit -/

/-- With a place for each unit, the places that come first get one each. -/
theorem handOut_eq {order : List Nat} {shares : List Int} (nodup : order.Nodup) {units : Nat}
    (enough : units ≤ order.length) :
    handOut order units shares =
      shares.mapIdx fun index share => share + if index ∈ order.take units then 1 else 0 := by
  induction units with
  | zero => exact (List.ext_getElem? fun index => by simp [handOut])
  | succ units inductionHypothesis =>
      have inside : units < order.length := enough
      have here : order.getD (units % order.length) 0 = order[units] := by
        rw [Nat.mod_eq_of_lt inside, List.getD_eq_getElem?_getD, List.getElem?_eq_getElem inside]
        rfl
      have unserved : order[units] ∉ order.take units := by
        intro member
        obtain ⟨earlier, isEarlier, same⟩ := List.mem_take_iff_getElem.mp member
        have := (List.Nodup.getElem_inj_iff nodup).mp same
        omega
      have previous := inductionHypothesis (Nat.le_of_succ_le enough)
      unfold handOut at previous ⊢
      rw [List.range_succ, List.foldl_append, List.foldl_cons, List.foldl_nil, previous, here]
      refine List.ext_getElem? fun index => ?_
      rw [List.getElem?_modify, List.getElem?_mapIdx, List.getElem?_mapIdx,
        List.take_succ_eq_append_getElem inside]
      cases shares[index]? with
      | none => simp
      | some share =>
          simp only [List.mem_append, List.mem_singleton, Option.map_some]
          by_cases same : order[units] = index
          · subst same
            simp only [unserved, if_false, or_true, if_true, add_zero]
            rfl
          · simp only [same, if_false, Ne.symm same, or_false]
            rfl

/-- The code's order of two places. -/
def Before (total : Int) (weights : List ℚ) (left right : Nat) : Prop :=
  ∀ weight other, weights[left]? = some weight → weights[right]? = some other →
    remaindersBefore (remainder total weights weight, -weight, left)
      (remainder total weights other, -other, right) = true

theorem remaindersBefore_trans (first second third : ℚ × ℚ × Nat)
    (left : remaindersBefore first second = true) (right : remaindersBefore second third = true) :
    remaindersBefore first third = true := by
  simp only [remaindersBefore, decide_eq_true_eq] at left right ⊢
  rcases left with less | ⟨same, left⟩
  · rcases right with lower | ⟨equal, right⟩
    · exact .inl (lower.trans less)
    · exact .inl (equal ▸ less)
  · rcases right with lower | ⟨equal, right⟩
    · exact .inl (same ▸ lower)
    · refine .inr ⟨equal.trans same, ?_⟩
      rcases left with less | ⟨alike, earlier⟩
      · rcases right with lower | ⟨level, later⟩
        · exact .inl (lower.trans less)
        · exact .inl (level ▸ less)
      · rcases right with lower | ⟨level, later⟩
        · exact .inl (alike ▸ lower)
        · exact .inr ⟨level.trans alike, later.trans earlier⟩

theorem remaindersBefore_total (left right : ℚ × ℚ × Nat) :
    (remaindersBefore left right || remaindersBefore right left) = true := by
  simp only [remaindersBefore, Bool.or_eq_true, decide_eq_true_eq]
  rcases lt_trichotomy left.1 right.1 with less | same | more
  · exact .inr (.inl less)
  · rcases lt_trichotomy left.2.1 right.2.1 with less | alike | more
    · exact .inr (.inr ⟨same, .inl less⟩)
    · rcases le_total left.2.2 right.2.2 with earlier | later
      · exact .inr (.inr ⟨same, .inr ⟨alike, earlier⟩⟩)
      · exact .inl (.inr ⟨same.symm, .inr ⟨alike.symm, later⟩⟩)
    · exact .inl (.inr ⟨same.symm, .inl more⟩)
  · exact .inl (.inl more)

/-- An order in which the code may hand out the units. -/
structure Serves (total : Int) (weights : List ℚ) (order : List Nat) : Prop where
  nodup : order.Nodup
  places : ∀ index, index ∈ order ↔ index < weights.length
  sorted : order.Pairwise (Before total weights)

section Positive

variable {total : Int} {weights : List ℚ}

theorem sum_pos (filled : weights ≠ []) (positive : ∀ weight ∈ weights, 0 < weight) :
    0 < weights.sum := List.sum_pos _ positive filled

theorem sum_remainders (weighed : 0 < weights.sum) :
    (weights.map (remainder total weights)).sum = total - (floors total weights).sum := by
  have all : (weights.map (quota total weights)).sum = total := sum_shares total weighed
  have parted : ∀ list : List ℚ, (list.map (remainder total weights)).sum =
      (list.map (quota total weights)).sum -
        ((list.map fun weight => ⌊quota total weights weight⌋).sum : Int) := by
    intro list
    induction list with
    | nil => simp
    | cons weight rest inductionHypothesis =>
        simp only [List.map_cons, List.sum_cons, Int.cast_add, inductionHypothesis, remainder]
        ring
  rw [parted, all]
  rfl

theorem remainder_nonneg (weight : ℚ) : 0 ≤ remainder total weights weight :=
  Int.fract_nonneg (quota total weights weight)

theorem remainder_lt_one (weight : ℚ) : remainder total weights weight < 1 :=
  Int.fract_lt_one (quota total weights weight)

/-- The remainders add up to at most the number of those that are not zero, and to less unless all
are zero. -/
theorem sum_remainders_le (list : List ℚ) :
    (list.map (remainder total weights)).sum ≤
        (list.countP fun weight => 0 < remainder total weights weight : Nat) ∧
      0 ≤ (list.map (remainder total weights)).sum := by
  induction list with
  | nil => simp
  | cons weight rest inductionHypothesis =>
      have low := @remainder_nonneg total weights weight
      have high := @remainder_lt_one total weights weight
      simp only [List.map_cons, List.sum_cons, List.countP_cons]
      by_cases some : 0 < remainder total weights weight
      · simp only [some, decide_true, if_true]
        push_cast
        constructor <;> linarith
      · simp only [some, decide_false, Bool.false_eq_true, if_false, add_zero]
        constructor <;> linarith

/-- There is at most one unit for each place whose quota is not whole. -/
theorem leftover_le (weighed : 0 < weights.sum) :
    leftover total weights ≤ weights.countP fun weight => 0 < remainder total weights weight := by
  obtain ⟨high, -⟩ := @sum_remainders_le total weights weights
  rw [sum_remainders weighed] at high
  have bound : total - (floors total weights).sum ≤
      (weights.countP fun weight => 0 < remainder total weights weight : Nat) := by
    exact_mod_cast high
  unfold leftover
  omega

theorem leftover_le_length (weighed : 0 < weights.sum) :
    leftover total weights ≤ weights.length :=
  (leftover_le weighed).trans List.countP_le_length

/-- The code serves its places in such an order. -/
theorem exists_serves (weighed : 0 < weights.sum) :
    ∃ order, Serves total weights order ∧
      distributeExactly total weights = (floors total weights).mapIdx fun index share =>
        share + if index ∈ order.take (leftover total weights) then 1 else 0 := by
  have filled : weights ≠ [] := by
    rintro rfl
    simp at weighed
  let raw := weights.map fun weight => (total : ℚ) * weight / weights.sum
  let entries := (raw.zip weights).zipIdx.map fun place =>
    (place.1.1 - (⌊place.1.1⌋ : ℚ), -place.1.2, place.2)
  have entry : ∀ place ∈ entries, ∃ weight, weights[place.2.2]? = some weight ∧
      place = (remainder total weights weight, -weight, place.2.2) := by
    intro place member
    obtain ⟨⟨⟨share, weight⟩, index⟩, isZipped, rfl⟩ := List.mem_map.mp member
    have found := List.mem_zipIdx_iff_getElem?.mp isZipped
    simp only [List.getElem?_zip_eq_some, raw, List.getElem?_map, Option.map_eq_some_iff] at found
    obtain ⟨⟨same, isSame, rfl⟩, isWeight⟩ := found
    obtain rfl := Option.some.inj (isSame.symm.trans isWeight)
    exact ⟨same, isWeight, rfl⟩
  have indices : entries.map (·.2.2) = List.range weights.length := by
    have zipped : (raw.zip weights).length = weights.length := by simp [raw]
    have second := List.zipIdx_map_snd 0 (raw.zip weights)
    rw [zipped, ← List.range_eq_range'] at second
    rw [← second, List.map_map]
    rfl
  let order := (entries.mergeSort remaindersBefore).map (·.2.2)
  have permuted : order.Perm (List.range weights.length) :=
    indices ▸ (List.mergeSort_perm entries remaindersBefore).map (·.2.2)
  have serves : Serves total weights order := by
    refine ⟨permuted.nodup_iff.mpr List.nodup_range,
      fun index => by rw [permuted.mem_iff, List.mem_range], ?_⟩
    have sorted := List.pairwise_mergeSort remaindersBefore_trans remaindersBefore_total entries
    refine List.pairwise_map.mpr (sorted.imp_of_mem fun {left right} isLeft isRight ordered => ?_)
    intro weight other isWeight isOther
    obtain ⟨_, found, same⟩ := entry left (List.mem_mergeSort.mp isLeft)
    obtain ⟨_, foundOther, alike⟩ := entry right (List.mem_mergeSort.mp isRight)
    obtain rfl := Option.some.inj (found.symm.trans isWeight)
    obtain rfl := Option.some.inj (foundOther.symm.trans isOther)
    rw [← same, ← alike]
    exact ordered
  refine ⟨order, serves, ?_⟩
  have enough : leftover total weights ≤ order.length := by
    rw [permuted.length_eq, List.length_range]
    exact leftover_le_length weighed
  rw [← handOut_eq serves.nodup enough]
  unfold distributeExactly
  rw [if_neg filled]
  split
  · next none =>
    subst none
    have zero : floors 0 weights = weights.map fun _ => 0 := by simp [floors, quota]
    have nothing : leftover 0 weights = 0 := by simp [leftover, zero]
    rw [nothing, zero]
    rfl
  · have flat : floors total weights = raw.map fun share => ⌊share⌋ := by
      simp only [floors, raw, List.map_map]
      rfl
    simp only [if_neg (not_le.mpr weighed)]
    unfold leftover
    rw [flat]

/-! ### Where the units run out -/

theorem Before.remainder_le {left right : Nat} {weight other : ℚ}
    (before : Before total weights left right) (isLeft : weights[left]? = some weight)
    (isRight : weights[right]? = some other) :
    remainder total weights other ≤ remainder total weights weight := by
  have ordered := before weight other isLeft isRight
  simp only [remaindersBefore, decide_eq_true_eq] at ordered
  rcases ordered with less | ⟨same, -⟩
  · exact less.le
  · exact same.le

/-- Among places of one remainder, the code serves the lower weight and the later place first. -/
theorem Before.preferred {left right : Nat} {weight other : ℚ}
    (before : Before total weights left right) (isLeft : weights[left]? = some weight)
    (isRight : weights[right]? = some other) (apart : left ≠ right)
    (same : remainder total weights other = remainder total weights weight) :
    Preferred total weights (other, right) (weight, left) := by
  have ordered := before weight other isLeft isRight
  simp only [remaindersBefore, decide_eq_true_eq] at ordered
  rcases ordered with less | ⟨-, less | ⟨alike, later⟩⟩
  · exact absurd same less.ne
  · exact .inr ⟨same.symm, .inl (neg_lt_neg_iff.mp less)⟩
  · exact .inr ⟨same.symm, .inr ⟨(neg_injective alike).symm, lt_of_le_of_ne later apart.symm⟩⟩

namespace Serves

variable {order : List Nat} (serves : Serves total weights order)
include serves

theorem countP_eq (counts : ℚ → Bool) :
    weights.countP counts = order.countP fun index => counts (weights.getD index 0) := by
  have permuted : order.Perm (List.range weights.length) :=
    (List.perm_ext_iff_of_nodup serves.nodup List.nodup_range).mpr fun index => by
      rw [serves.places, List.mem_range]
  have all : (List.range weights.length).map (fun index => weights.getD index 0) = weights := by
    refine List.ext_getElem (by simp) fun index inside _ => ?_
    rw [List.length_map, List.length_range] at inside
    simp [inside]
  rw [permuted.countP_eq]
  conv_lhs => rw [← all, List.countP_map]
  rfl

theorem getElem?_of_mem {index : Nat} (member : index ∈ order) :
    weights[index]? = some (weights.getD index 0) := by
  have inside := (serves.places index).mp member
  simp [inside]

theorem before {units served unserved : Nat} (isServed : served ∈ order.take units)
    (isUnserved : unserved ∈ order.drop units) : Before total weights served unserved := by
  have sorted := serves.sorted
  rw [← List.take_append_drop units order, List.pairwise_append] at sorted
  exact sorted.2.2 served isServed unserved isUnserved

theorem apart {units served unserved : Nat} (isServed : served ∈ order.take units)
    (isUnserved : unserved ∈ order.drop units) : served ≠ unserved := by
  have nodup := serves.nodup
  rw [← List.take_append_drop units order, List.nodup_append] at nodup
  exact nodup.2.2 served isServed unserved isUnserved

/-- Fewer places than units have a larger remainder than a place that gets one. -/
theorem countP_lt {units index : Nat} {weight : ℚ} (served : index ∈ order.take units)
    (isWeight : weights[index]? = some weight) :
    (weights.countP fun other => remainder total weights weight < remainder total weights other) <
      units := by
  rw [serves.countP_eq, ← List.take_append_drop units order, List.countP_append]
  have none : ((order.drop units).countP fun other => decide (remainder total weights weight <
      remainder total weights (weights.getD other 0))) = 0 := by
    refine List.countP_eq_zero.mpr fun other member => ?_
    have found := serves.getElem?_of_mem (List.mem_of_mem_drop member)
    simpa using (serves.before served member).remainder_le isWeight found
  have notAll : ((order.take units).countP fun other => decide (remainder total weights weight <
      remainder total weights (weights.getD other 0))) < (order.take units).length := by
    refine List.countP_lt_length_iff.mpr ⟨index, served, ?_⟩
    simp [List.getD_eq_getElem?_getD, isWeight]
  have short := List.length_take_le units order
  omega

/-- More places than units have at least the remainder of a place that gets none. -/
theorem lt_countP {units index : Nat} {weight : ℚ} (unserved : index ∈ order.drop units)
    (isWeight : weights[index]? = some weight) :
    units < weights.countP fun other =>
      remainder total weights weight ≤ remainder total weights other := by
  rw [serves.countP_eq, ← List.take_append_drop units order, List.countP_append]
  have all : ((order.take units).countP fun other => decide (remainder total weights weight ≤
      remainder total weights (weights.getD other 0))) = (order.take units).length := by
    refine List.countP_eq_length.mpr fun other member => ?_
    have found := serves.getElem?_of_mem (List.mem_of_mem_take member)
    simpa using (serves.before member unserved).remainder_le found isWeight
  have one : 0 < (order.drop units).countP fun other => decide (remainder total weights weight ≤
      remainder total weights (weights.getD other 0)) := by
    refine List.countP_pos_iff.mpr ⟨index, unserved, ?_⟩
    simp [List.getD_eq_getElem?_getD, isWeight]
  have enough : units ≤ order.length := by
    have some := List.length_pos_of_mem unserved
    rw [List.length_drop] at some
    omega
  rw [all, List.length_take, Nat.min_eq_left enough]
  omega

end Serves

/-! ### The shares -/

/-- What is known of the share of a place. -/
theorem share_eq {order : List Nat} {units index : Nat} {weight : ℚ} {share : Int}
    (found : (weights.zip ((floors total weights).mapIdx fun index share =>
      share + if index ∈ order.take units then 1 else 0))[index]? = some (weight, share)) :
    weights[index]? = some weight ∧
      share = ⌊quota total weights weight⌋ + if index ∈ order.take units then 1 else 0 := by
  simp only [List.getElem?_zip_eq_some, List.getElem?_mapIdx, floors, List.getElem?_map,
    Option.map_map, Option.map_eq_some_iff] at found
  obtain ⟨isWeight, same, isSame, rfl⟩ := found
  obtain rfl := Option.some.inj (isSame.symm.trans isWeight)
  exact ⟨isWeight, rfl⟩

theorem served_iff {order : List Nat} {units index : Nat} {floor share : Int}
    (isShare : share = floor + if index ∈ order.take units then 1 else 0) :
    floor < share ↔ index ∈ order.take units := by
  split at isShare
  · next served => exact iff_of_true (by omega) served
  · next unserved => exact iff_of_false (by omega) unserved

/-- A place whose quota is whole gets no unit. -/
theorem remainder_pos (weighed : 0 < weights.sum) {order : List Nat}
    (serves : Serves total weights order) {index : Nat} {weight : ℚ}
    (served : index ∈ order.take (leftover total weights))
    (isWeight : weights[index]? = some weight) : 0 < remainder total weights weight := by
  by_contra whole
  have zero : remainder total weights weight = 0 :=
    le_antisymm (not_lt.mp whole) (remainder_nonneg _)
  have few := serves.countP_lt served isWeight
  rw [zero] at few
  exact absurd (leftover_le weighed) (not_le.mpr few)

theorem quota_lt (weighed : 0 < weights.sum) (some : 0 < total) {weight heavier : ℚ}
    (less : weight < heavier) : quota total weights weight < quota total weights heavier := by
  have : (0 : ℚ) < total := by exact_mod_cast some
  unfold quota
  gcongr

/-- The ties are broken as documented exactly when the units do not run out within one. -/
theorem favours_iff {order : List Nat} (serves : Serves total weights order) :
    (∀ (index other : Nat) weight lesser, weights[index]? = some weight →
      weights[other]? = some lesser → Preferred total weights (weight, index) (lesser, other) →
      other ∈ order.take (leftover total weights) → index ∈ order.take (leftover total weights)) ↔
    ¬Splits total weights := by
  constructor
  · rintro favours ⟨weight, member, fewer, more⟩
    have served : ∃ index ∈ order.take (leftover total weights),
        remainder total weights (weights.getD index 0) ≤ remainder total weights weight := by
      by_contra none
      push Not at none
      have all : ((order.take (leftover total weights)).countP fun index =>
          decide (remainder total weights weight <
            remainder total weights (weights.getD index 0))) =
              (order.take (leftover total weights)).length :=
        List.countP_eq_length.mpr fun index isServed => by simpa using none index isServed
      rw [serves.countP_eq, ← List.take_append_drop (leftover total weights) order,
        List.countP_append, all] at fewer
      have counted := serves.countP_eq fun other =>
        decide (remainder total weights weight ≤ remainder total weights other)
      have short : order.countP (fun index => decide (remainder total weights weight ≤
          remainder total weights (weights.getD index 0))) ≤ order.length :=
        List.countP_le_length
      rw [List.length_take] at fewer
      omega
    have unserved : ∃ index ∈ order.drop (leftover total weights),
        remainder total weights weight ≤ remainder total weights (weights.getD index 0) := by
      by_contra none
      push Not at none
      have nothing : ((order.drop (leftover total weights)).countP fun index =>
          decide (remainder total weights weight ≤
            remainder total weights (weights.getD index 0))) = 0 :=
        List.countP_eq_zero.mpr fun index isUnserved => by simpa using none index isUnserved
      rw [serves.countP_eq, ← List.take_append_drop (leftover total weights) order,
        List.countP_append, nothing] at more
      have short : ((order.take (leftover total weights)).countP fun index =>
          decide (remainder total weights weight ≤
            remainder total weights (weights.getD index 0))) ≤ leftover total weights :=
        List.countP_le_length.trans (List.length_take_le _ _)
      omega
    obtain ⟨left, isServed, low⟩ := served
    obtain ⟨right, isUnserved, high⟩ := unserved
    have foundLeft := serves.getElem?_of_mem (List.mem_of_mem_take isServed)
    have foundRight := serves.getElem?_of_mem (List.mem_of_mem_drop isUnserved)
    have before := serves.before isServed isUnserved
    have apart := serves.apart isServed isUnserved
    have same := le_antisymm (before.remainder_le foundLeft foundRight) (low.trans high)
    have wrong := favours right left _ _ foundRight foundLeft
      (before.preferred foundLeft foundRight apart same) isServed
    exact serves.apart wrong isUnserved rfl
  · intro whole index other weight lesser isWeight isLesser preferred served
    by_contra notServed
    have member := (serves.places index).mpr (List.getElem?_eq_some_iff.mp isWeight).1
    have unserved : index ∈ order.drop (leftover total weights) := by
      rw [← List.take_append_drop (leftover total weights) order, List.mem_append] at member
      exact member.resolve_left notServed
    have ordered := (serves.before served unserved).remainder_le isLesser isWeight
    have same : remainder total weights lesser = remainder total weights weight := by
      rcases preferred with less | ⟨same, -⟩
      · exact absurd less (not_lt.mpr ordered)
      · exact same
    refine whole ⟨weight, List.mem_of_getElem? isWeight, ?_, serves.lt_countP unserved isWeight⟩
    rw [← same]
    exact serves.countP_lt served isLesser

end Positive

/-- Shares as documented break no tie. -/
theorem not_splits_of_apportions {total : Int} {weights : List ℚ} (weighed : 0 < weights.sum)
    (apportions : Apportions total weights (distributeExactly total weights)) :
    ¬Splits total weights := by
  obtain ⟨order, serves, shares⟩ := @exists_serves total weights weighed
  rw [shares] at apportions
  refine (favours_iff serves).mp ?_
  intro index other weight lesser isWeight isLesser preferred served
  have zipped : ∀ (place : Nat) (value : ℚ), weights[place]? = some value →
      (weights.zip ((floors total weights).mapIdx fun index share =>
        share + if index ∈ order.take (leftover total weights) then 1 else 0))[place]? =
          some (value, ⌊quota total weights value⌋ +
            if place ∈ order.take (leftover total weights) then 1 else 0) := by
    intro place value isValue
    simp only [List.getElem?_zip_eq_some, List.getElem?_mapIdx, floors, List.getElem?_map, isValue,
      Option.map_some, and_self]
  have favoured := apportions.favours index other _ _ _ _ (zipped index weight isWeight)
    (zipped other lesser isLesser) preferred ((served_iff rfl).mpr served)
  exact (served_iff rfl).mp favoured

/-- Everything is as documented for every input but the ties, which are where the units do not run
out within one. -/
theorem apportions_iff (total : Int) (weights : List ℚ) (nonneg : 0 ≤ total)
    (filled : weights ≠ []) (positive : ∀ weight ∈ weights, 0 < weight) :
    Apportions total weights (distributeExactly total weights) ↔ ¬Splits total weights := by
  have weighed := sum_pos filled positive
  refine ⟨not_splits_of_apportions weighed, ?_⟩
  obtain ⟨order, serves, shares⟩ := @exists_serves total weights weighed
  obtain ⟨sum, length⟩ := @sum_distributeExactly total weights filled
  rw [← favours_iff serves]
  rw [shares] at sum length ⊢
  intro favours
  have low : ∀ weight ∈ weights, 0 ≤ quota total weights weight := by
    intro weight member
    have := positive weight member
    have : (0 : ℚ) ≤ total := by exact_mod_cast nonneg
    unfold quota
    positivity
  refine ⟨length, ?_, sum, ?_, ?_, ?_⟩
  · intro share member
    obtain ⟨index, isShare⟩ := List.mem_iff_getElem?.mp member
    simp only [List.getElem?_mapIdx, floors, List.getElem?_map, Option.map_map,
      Option.map_eq_some_iff] at isShare
    obtain ⟨weight, isWeight, rfl⟩ := isShare
    have floor := Int.floor_nonneg.mpr (low weight (List.mem_of_getElem? isWeight))
    simp only [Function.comp_apply]
    split <;> omega
  · intro index weight share found
    obtain ⟨isWeight, isShare⟩ := share_eq found
    split at isShare
    · next served =>
      refine .inr (isShare.trans ?_)
      have broken := remainder_pos weighed serves served isWeight
      exact (Int.ceil_eq_floor_add_one_iff_notMem _).mpr
        (fun ⟨whole, same⟩ => by simp [remainder, ← same] at broken) |>.symm
    · exact .inl (by rw [isShare, add_zero])
  · intro index other weight heavier share larger found foundOther less
    obtain ⟨isWeight, isShare⟩ := share_eq found
    obtain ⟨isHeavier, isLarger⟩ := share_eq foundOther
    rcases nonneg.eq_or_lt with zero | some
    · subst zero
      have none : leftover 0 weights = 0 := by simp [leftover, floors, quota]
      rw [none] at isShare isLarger
      simp [isShare, isLarger, quota]
    · have quotas := quota_lt weighed some less
      rcases (Int.floor_mono quotas.le).lt_or_eq with lower | same
      · rw [isShare, isLarger]
        split <;> split <;> omega
      · rw [isShare, isLarger, same]
        by_cases served : index ∈ order.take (leftover total weights)
        · have preferred : Preferred total weights (heavier, other) (weight, index) := by
            refine .inl ?_
            unfold remainder
            rw [same]
            linarith
          rw [if_pos (favours other index _ _ isHeavier isWeight preferred served)]
          split <;> omega
        · rw [if_neg served]
          split <;> omega
  · intro index other weight lesser share smaller found foundOther preferred served
    obtain ⟨isWeight, isShare⟩ := share_eq found
    obtain ⟨isLesser, isSmaller⟩ := share_eq foundOther
    rw [served_iff isSmaller] at served
    rw [served_iff isShare]
    exact favours index other _ _ isWeight isLesser preferred served

theorem ten_among_one_and_two : Apportions 10 [1, 2] (distributeExactly 10 [1, 2]) :=
  (apportions_iff 10 [1, 2] (by decide) (by decide) (by simp)).mpr (by
    rintro ⟨weight, member, fewer, more⟩
    simp only [List.mem_cons, List.not_mem_nil, or_false] at member
    revert fewer more
    rcases member with rfl | rfl <;> decide +kernel)

/-- The later of two equal weights gets the only unit. -/
theorem one_among_equals : ¬∀ (total : Int) (weights : List ℚ), 0 ≤ total → weights ≠ [] →
    (∀ weight ∈ weights, 0 < weight) →
    Apportions total weights (distributeExactly total weights) := by
  intro claim
  have apportions := claim 1 [1, 1] (by decide) (by decide) (by simp)
  refine not_splits_of_apportions (by norm_num) apportions ⟨1, List.mem_cons_self, ?_, ?_⟩
  · decide +kernel
  · decide +kernel

end MarketMind.Strategy.Apportionment
