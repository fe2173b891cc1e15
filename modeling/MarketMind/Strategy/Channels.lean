import MarketMind.Strategy.Budgets
import Mathlib.Data.List.Sort
import Mathlib.Data.String.Basic

/-!
Owns the selection of channels: the vetoes, the greedy choice of two primary channels and a
supporting one, and what the choice guarantees.

Does not own the scores, nor the budget of the chosen channels.
-/

namespace MarketMind.Strategy.Channels

open Budgets (ChannelRole)

/-! ### Scored channels -/

/-- One value for each dimension of a channel. -/
structure Dimensions where
  objectiveFit : ℚ
  audienceFit : ℚ
  existingPresence : ℚ
  assetFormatFit : ℚ
  teamCapacity : ℚ
  budgetFit : ℚ
  evidenceStrength : ℚ
  measurementReadiness : ℚ

/-- A row of the input: a channel with its scores, the results behind them, and the total. -/
structure Scored where
  channel : String
  scores : Dimensions
  dimResults : Dimensions
  total : ℚ

structure Scorecard where
  channel : String
  role : ChannelRole
  scores : Dimensions
  totalScore : ℚ
  excludedReason : Option String

def roundScore (value : ℚ) : ℚ := roundHalfEven (value * 100) / 100

def calculateChannelTotal (scores : Dimensions) : ℚ :=
  roundScore (scores.objectiveFit + scores.audienceFit + scores.existingPresence +
    scores.assetFormatFit + scores.teamCapacity + scores.budgetFit + scores.evidenceStrength +
    scores.measurementReadiness)

def measurementReadinessVetoThreshold : ℚ := 3 / 10

def supportingChannelMinTotalScore : ℚ := 3

/-- `CHANNEL_SELECTION_GROUPS`. -/
def selectionGroup (channel : String) : Option String :=
  if channel = "google_business_profile" ∨ channel = "google_maps" then some "google_local"
  else none

def exclusionInsufficientCapacity : String := "insufficient_team_capacity"

def exclusionNoMeasurement : String := "no_measurement_capability"

def exclusionDuplicateLocalSearch : String := "duplicate_local_search_ecosystem"

def applyExclusions (row : Scored) : Option String :=
  if row.dimResults.teamCapacity = 0 then some exclusionInsufficientCapacity
  else if row.dimResults.measurementReadiness < measurementReadinessVetoThreshold then
    some exclusionNoMeasurement
  else none

/-! ### The choice -/

/-- The key `(-total, channel)` of the sort. -/
def notAfter (left right : Scored) : Bool :=
  right.total < left.total ∨ (right.total = left.total ∧ left.channel ≤ right.channel)

/-- What the loop has selected so far, in its order, and what it has passed over. -/
structure Selecting where
  selectedOrder : List Scored
  selectedGroups : List String
  duplicateChannels : List Scored

def Selecting.pass (state : Selecting) (row : Scored) : Selecting :=
  { state with duplicateChannels := state.duplicateChannels ++ [row] }

def Selecting.select (state : Selecting) (row : Scored) : Selecting :=
  { state with
    selectedOrder := state.selectedOrder ++ [row]
    selectedGroups := state.selectedGroups ++ (selectionGroup row.channel).toList }

/-- A channel of the same group is selected. -/
def Selecting.hasGroup (state : Selecting) (row : Scored) : Prop :=
  ∃ group ∈ state.selectedGroups, selectionGroup row.channel = some group

instance (state : Selecting) (row : Scored) : Decidable (state.hasGroup row) :=
  inferInstanceAs (Decidable (∃ group ∈ state.selectedGroups, _))

/-- The loop over the eligible channels. -/
def choose : List Scored → Selecting → Selecting
  | [], state => state
  | row :: rest, state =>
      if state.hasGroup row then choose rest (state.pass row)
      else if state.selectedOrder.length = 2 ∧ row.total < supportingChannelMinTotalScore then state
      else if (state.select row).selectedOrder.length = 3 then state.select row
      else choose rest (state.select row)

/-- The scorecard of a row once the loop has ended. -/
def Selecting.card (state : Selecting) (row : Scored) : Scorecard where
  channel := row.channel
  role :=
    let names := state.selectedOrder.map (·.channel)
    if row.channel ∈ names then
      if names.idxOf row.channel < 2 then .primary else .supporting
    else .supporting
  scores := row.scores
  totalScore := calculateChannelTotal row.scores
  excludedReason :=
    match applyExclusions row with
    | some reason => some reason
    | none =>
        if row.channel ∈ state.duplicateChannels.map (·.channel) then
          some exclusionDuplicateLocalSearch
        else none

def eligible (scored : List Scored) : List Scored :=
  scored.filter fun row => applyExclusions row = none

def chosen (scored : List Scored) : Selecting :=
  choose ((eligible scored).mergeSort notAfter) ⟨[], [], []⟩

/-- All scorecards, and those of the selected channels. -/
def selectChannels (scored : List Scored) : List Scorecard × List Scorecard :=
  let scorecards := scored.map (chosen scored).card
  (scorecards,
    scorecards.filter fun card => card.channel ∈ (chosen scored).selectedOrder.map (·.channel))

/-! ### What the loop chooses -/

/-- The channel comes first: by its total, then by its name. -/
def Outranks (left right : Scored) : Prop :=
  right.total < left.total ∨ right.total = left.total ∧ left.channel < right.channel

/-- Both channels belong to one group. -/
def SameGroup (left right : String) : Prop :=
  ∃ group, selectionGroup left = some group ∧ selectionGroup right = some group

theorem Outranks.asymm {left right : Scored} (first : Outranks left right) :
    ¬Outranks right left := by
  rintro (less | ⟨equal, before⟩)
  · rcases first with lower | ⟨same, -⟩
    · exact lt_asymm less lower
    · exact less.ne same.symm
  · rcases first with lower | ⟨-, after⟩
    · exact lower.ne equal.symm
    · exact lt_asymm before after

/-- What the loop makes of the rows, from a state on. -/
structure Chooses (rows : List Scored) (before after : Selecting) : Prop where
  extends_order : ∃ taken, after.selectedOrder = before.selectedOrder ++ taken ∧ taken.Sublist rows
  short : after.selectedOrder.length ≤ 3
  enough : ∀ row, after.selectedOrder[2]? = some row → supportingChannelMinTotalScore ≤ row.total
  apart : after.selectedOrder.Pairwise fun left right => ¬SameGroup left.channel right.channel
  keeps : ∀ row ∈ before.duplicateChannels, row ∈ after.duplicateChannels
  duplicates : ∀ row ∈ after.duplicateChannels, row ∈ before.duplicateChannels ∨
    row ∈ rows ∧ row ∉ after.selectedOrder
  settled : ∀ row ∈ rows, row ∈ after.selectedOrder ∨
    (row ∈ after.duplicateChannels ∧
      ∃ other ∈ after.selectedOrder, Outranks other row ∧ SameGroup other.channel row.channel) ∨
    ∀ other ∈ after.selectedOrder, Outranks other row

/-- A state in the middle of the loop. -/
structure Open (state : Selecting) : Prop where
  short : state.selectedOrder.length ≤ 2
  groups : ∀ group, group ∈ state.selectedGroups ↔
    ∃ row ∈ state.selectedOrder, selectionGroup row.channel = some group
  apart : state.selectedOrder.Pairwise fun left right => ¬SameGroup left.channel right.channel

variable {rows : List Scored} {state : Selecting} {row : Scored}

theorem Open.hasGroup_iff (isOpen : Open state) :
    state.hasGroup row ↔ ∃ other ∈ state.selectedOrder, SameGroup other.channel row.channel := by
  constructor
  · rintro ⟨group, member, isGroup⟩
    obtain ⟨other, selected, same⟩ := (isOpen.groups group).mp member
    exact ⟨other, selected, group, same, isGroup⟩
  · rintro ⟨other, selected, group, same, isGroup⟩
    exact ⟨group, (isOpen.groups group).mpr ⟨other, selected, same⟩, isGroup⟩

theorem Open.apart_select (isOpen : Open state) (alone : ¬state.hasGroup row) :
    (state.select row).selectedOrder.Pairwise fun left right =>
      ¬SameGroup left.channel right.channel := by
  refine List.pairwise_append.mpr ⟨isOpen.apart, List.pairwise_singleton _ _, ?_⟩
  intro other selected _ isRow
  rw [List.mem_singleton.mp isRow]
  exact fun same => alone (isOpen.hasGroup_iff.mpr ⟨other, selected, same⟩)

theorem Open.select (isOpen : Open state) (alone : ¬state.hasGroup row)
    (short : (state.select row).selectedOrder.length ≤ 2) : Open (state.select row) := by
  refine ⟨short, fun group => ?_, isOpen.apart_select alone⟩
  simp only [Selecting.select, List.mem_append, isOpen.groups, Option.mem_toList,
    List.mem_singleton, or_and_right, exists_or, exists_eq_left]

/-- The loop ends here. -/
theorem chooses_stop (isOpen : Open state)
    (ranked : (state.selectedOrder ++ rows).Pairwise Outranks) : Chooses rows state state where
  extends_order := ⟨[], (List.append_nil _).symm, List.nil_sublist _⟩
  short := isOpen.short.trans (by decide)
  enough row isThird := by
    have := (List.getElem?_eq_some_iff.mp isThird).1
    have := isOpen.short
    omega
  apart := isOpen.apart
  keeps _ member := member
  duplicates _ member := .inl member
  settled row member := .inr (.inr fun other selected =>
    (List.pairwise_append.mp ranked).2.2 other selected row member)

/-- The rows from here on come after what is selected, so a selected row outranks all of them. -/
theorem choose_spec (isOpen : Open state)
    (ranked : (state.selectedOrder ++ rows).Pairwise Outranks) :
    Chooses rows state (choose rows state) := by
  induction rows generalizing state with
  | nil => exact chooses_stop isOpen ranked
  | cons row rest inductionHypothesis =>
      have outranked := (List.pairwise_append.mp ranked).2.2
      have later := (List.pairwise_append.mp ranked).2.1
      have moved : ((state.select row).selectedOrder ++ rest).Pairwise Outranks := by
        rw [Selecting.select, List.append_assoc]
        exact ranked
      rw [choose]
      split
      · next taken =>
        obtain ⟨other, selected, same⟩ := isOpen.hasGroup_iff.mp taken
        have step := @inductionHypothesis (state.pass row)
          ⟨isOpen.short, isOpen.groups, isOpen.apart⟩
          (ranked.sublist ((List.sublist_cons_self row rest).append_left _))
        obtain ⟨more, isOrder, isSublist⟩ := step.extends_order
        have unselected : row ∉ (choose rest (state.pass row)).selectedOrder := by
          rw [isOrder, List.mem_append]
          rintro (member | member)
          · have := outranked row member row List.mem_cons_self
            exact this.asymm this
          · have := List.rel_of_pairwise_cons later (isSublist.subset member)
            exact this.asymm this
        refine ⟨⟨more, isOrder, isSublist.cons row⟩, step.short, step.enough, step.apart,
          fun old member => step.keeps old (List.mem_append_left _ member), ?_, ?_⟩
        · intro duplicate member
          rcases step.duplicates duplicate member with old | ⟨among, unselected⟩
          · rcases List.mem_append.mp old with old | isRow
            · exact .inl old
            · obtain rfl := List.mem_singleton.mp isRow
              exact .inr ⟨List.mem_cons_self, unselected⟩
          · exact .inr ⟨List.mem_cons_of_mem row among, unselected⟩
        · intro any member
          rcases List.mem_cons.mp member with rfl | among
          · have marked := step.keeps any (List.mem_append_right _ List.mem_cons_self)
            refine .inr (.inl ⟨marked, other, ?_,
              outranked other selected any List.mem_cons_self, same⟩)
            rw [isOrder]
            exact List.mem_append_left _ selected
          · exact step.settled any among
      · next alone =>
        split
        · exact chooses_stop isOpen ranked
        · next goesOn =>
          have length :
              (state.select row).selectedOrder.length = state.selectedOrder.length + 1 := by
            simp [Selecting.select]
          split
          · next isThird =>
            refine ⟨⟨[row], rfl, List.singleton_sublist.mpr List.mem_cons_self⟩, isThird.le, ?_,
              isOpen.apart_select alone, fun _ member => member, fun _ member => .inl member, ?_⟩
            · intro third found
              have two : state.selectedOrder.length = 2 := by omega
              simp only [Selecting.select, ← two, List.getElem?_concat_length,
                Option.some.injEq] at found
              exact not_lt.mp fun less => goesOn ⟨two, found ▸ less⟩
            · intro any member
              rcases List.mem_cons.mp member with rfl | among
              · exact .inl (List.mem_append_right _ List.mem_cons_self)
              · exact .inr (.inr fun other selected =>
                  (List.pairwise_append.mp moved).2.2 other selected any among)
          · next notThird =>
            have short := isOpen.short
            have step := inductionHypothesis (isOpen.select alone (by omega)) moved
            obtain ⟨more, isOrder, isSublist⟩ := step.extends_order
            have selected : row ∈ (choose rest (state.select row)).selectedOrder := by
              rw [isOrder]
              exact List.mem_append_left _ (List.mem_append_right _ List.mem_cons_self)
            refine ⟨⟨row :: more, ?_, isSublist.cons_cons row⟩, step.short, step.enough, step.apart,
              step.keeps, ?_, ?_⟩
            · rw [isOrder, Selecting.select, List.append_assoc]
              rfl
            · intro duplicate member
              exact (step.duplicates duplicate member).imp_right
                fun ⟨among, unselected⟩ => ⟨List.mem_cons_of_mem row among, unselected⟩
            · intro any member
              rcases List.mem_cons.mp member with rfl | among
              · exact .inl selected
              · exact step.settled any among

/-! ### The order of the eligible channels -/

theorem notAfter_trans (first second third : Scored) (left : notAfter first second = true)
    (right : notAfter second third = true) : notAfter first third = true := by
  simp only [notAfter, decide_eq_true_eq] at left right ⊢
  rcases left with less | ⟨same, before⟩
  · rcases right with lower | ⟨equal, -⟩
    · exact .inl (lower.trans less)
    · exact .inl (equal ▸ less)
  · rcases right with lower | ⟨equal, after⟩
    · exact .inl (same ▸ lower)
    · exact .inr ⟨equal.trans same, before.trans after⟩

theorem notAfter_total (left right : Scored) :
    (notAfter left right || notAfter right left) = true := by
  simp only [notAfter, Bool.or_eq_true, decide_eq_true_eq]
  rcases lt_trichotomy left.total right.total with less | same | more
  · exact .inr (.inl less)
  · rcases le_total left.channel right.channel with before | after
    · exact .inl (.inr ⟨same.symm, before⟩)
    · exact .inr (.inr ⟨same, after⟩)
  · exact .inl (.inl more)

/-- No two rows are about one channel. -/
abbrev Distinct (scored : List Scored) : Prop := (scored.map (·.channel)).Nodup

theorem Distinct.row_eq {scored : List Scored} (distinct : Distinct scored) {left right : Scored}
    (isLeft : left ∈ scored) (isRight : right ∈ scored) (same : left.channel = right.channel) :
    left = right := List.inj_on_of_nodup_map distinct isLeft isRight same

/-- The channels of which the loop may choose, best first. -/
def ranking (scored : List Scored) : List Scored := (eligible scored).mergeSort notAfter

theorem mem_ranking {scored : List Scored} :
    row ∈ ranking scored ↔ row ∈ scored ∧ applyExclusions row = none := by
  simp [ranking, eligible]

theorem distinct_ranking {scored : List Scored} (distinct : Distinct scored) :
    Distinct (ranking scored) := by
  have permuted := (List.mergeSort_perm (eligible scored) notAfter).map (·.channel)
  exact permuted.nodup_iff.mpr (distinct.sublist (List.filter_sublist.map _))

theorem pairwise_ranking {scored : List Scored} (distinct : Distinct scored) :
    (ranking scored).Pairwise Outranks := by
  have sorted := List.pairwise_mergeSort notAfter_trans notAfter_total (eligible scored)
  have apart := List.pairwise_map.mp (distinct_ranking distinct)
  refine (sorted.and apart).imp fun {left right} ⟨ordered, differs⟩ => ?_
  simp only [notAfter, decide_eq_true_eq] at ordered
  rcases ordered with less | ⟨same, before⟩
  · exact .inl less
  · exact .inr ⟨same, lt_of_le_of_ne before differs⟩

/-- The order of the input does not matter. -/
theorem ranking_perm {scored shuffled : List Scored} (distinct : Distinct scored)
    (permuted : shuffled.Perm scored) : ranking shuffled = ranking scored := by
  have sameRows : (ranking shuffled).Perm (ranking scored) :=
    ((List.mergeSort_perm _ _).trans (permuted.filter _)).trans (List.mergeSort_perm _ _).symm
  have shuffledDistinct : Distinct shuffled := (permuted.map _).nodup_iff.mpr distinct
  exact sameRows.eq_of_pairwise (fun _ _ _ _ first second => absurd second first.asymm)
    (pairwise_ranking shuffledDistinct) (pairwise_ranking distinct)

theorem chosen_spec {scored : List Scored} (distinct : Distinct scored) :
    Chooses (ranking scored) ⟨[], [], []⟩ (chosen scored) :=
  choose_spec ⟨by decide, by simp, .nil⟩ (pairwise_ranking distinct)

/-! ### The selection -/

/-- The channel has been selected. -/
def Selected (cards : List Scorecard) (row : Scored) : Prop :=
  ∃ card ∈ cards, card.channel = row.channel

theorem channels_cards {scored : List Scored} :
    (selectChannels scored).1.map (·.channel) = scored.map (·.channel) := by
  simp only [selectChannels, List.map_map]
  rfl

instance : Std.Symm fun left right : Scored => ¬SameGroup left.channel right.channel where
  symm _ _ apart := fun ⟨group, isLeft, isRight⟩ => apart ⟨group, isRight, isLeft⟩

/-- What is promised of all scorecards and the selected ones. -/
structure IsSelection (scored : List Scored) (scorecards selected : List Scorecard) : Prop where
  cards : scorecards.map (·.channel) = scored.map (·.channel)
  among : selected.Sublist scorecards
  primary : (selected.filter fun card => card.role = .primary).length ≤ 2
  supporting : (selected.filter fun card => card.role = .supporting).length ≤ 1
  enough : ∀ row ∈ scored, ∀ card ∈ selected, card.channel = row.channel →
    card.role = .supporting → supportingChannelMinTotalScore ≤ row.total
  allowed : ∀ row ∈ scored, ∀ card ∈ selected, card.channel = row.channel →
    applyExclusions row = none ∧ card.excludedReason = none
  apart : selected.Pairwise fun left right => ¬SameGroup left.channel right.channel
  others : ∀ row ∈ scored, applyExclusions row = none → ¬Selected selected row →
    (∃ card ∈ scorecards, card.channel = row.channel ∧
      card.excludedReason = some exclusionDuplicateLocalSearch ∧
      ∃ best ∈ scored, Selected selected best ∧ SameGroup best.channel row.channel ∧
        row.total ≤ best.total) ∨
    ∀ best ∈ scored, Selected selected best → ¬Outranks row best

section Chosen

variable {scored : List Scored} (distinct : Distinct scored)
include distinct

theorem mem_of_chosen (selected : row ∈ (chosen scored).selectedOrder) :
    row ∈ scored ∧ applyExclusions row = none := by
  obtain ⟨taken, isOrder, isSublist⟩ := (chosen_spec distinct).extends_order
  rw [isOrder, List.nil_append] at selected
  exact mem_ranking.mp (isSublist.subset selected)

theorem distinct_chosen : Distinct (chosen scored).selectedOrder := by
  obtain ⟨taken, isOrder, isSublist⟩ := (chosen_spec distinct).extends_order
  rw [isOrder, List.nil_append]
  exact (distinct_ranking distinct).sublist (isSublist.map _)

/-- A row whose name is selected is selected. -/
theorem chosen_of_name (member : row ∈ scored)
    (named : row.channel ∈ (chosen scored).selectedOrder.map (·.channel)) :
    row ∈ (chosen scored).selectedOrder := by
  obtain ⟨other, selected, same⟩ := List.mem_map.mp named
  exact distinct.row_eq (mem_of_chosen distinct selected).1 member same ▸ selected

theorem selected_iff (member : row ∈ scored) :
    Selected (selectChannels scored).2 row ↔ row ∈ (chosen scored).selectedOrder := by
  constructor
  · rintro ⟨card, isSelected, same⟩
    obtain ⟨-, named⟩ := List.mem_filter.mp isSelected
    rw [decide_eq_true_eq, same] at named
    exact chosen_of_name distinct member named
  · intro selected
    refine ⟨(chosen scored).card row, List.mem_filter.mpr ⟨List.mem_map_of_mem member, ?_⟩, rfl⟩
    exact decide_eq_true (List.mem_map_of_mem selected)

/-- What is known of a selected scorecard. -/
theorem of_selected {card : Scorecard} (isSelected : card ∈ (selectChannels scored).2) :
    ∃ row ∈ (chosen scored).selectedOrder, card = (chosen scored).card row := by
  obtain ⟨isCard, named⟩ := List.mem_filter.mp isSelected
  obtain ⟨row, member, rfl⟩ := List.mem_map.mp isCard
  exact ⟨row, chosen_of_name distinct member (of_decide_eq_true named), rfl⟩

/-- The rank of a selected channel is its place in the order. -/
theorem role_eq {rank : Nat} (found : (chosen scored).selectedOrder[rank]? = some row) :
    ((chosen scored).card row).role = if rank < 2 then .primary else .supporting := by
  have place : ((chosen scored).selectedOrder.map (·.channel)).idxOf row.channel = rank := by
    have named : ((chosen scored).selectedOrder.map (·.channel))[rank]? = some row.channel := by
      rw [List.getElem?_map, found]
      rfl
    obtain ⟨inside, same⟩ := List.getElem?_eq_some_iff.mp named
    have := (distinct_chosen distinct).idxOf_getElem rank inside
    rwa [same] at this
  simp only [Selecting.card]
  rw [if_pos (List.mem_map_of_mem (List.mem_of_getElem? found)), place]

/-- The selected scorecards with names in a list are no more than these names. -/
theorem length_le_of_names {cards : List Scorecard} {names : List String}
    (among : cards.Sublist (selectChannels scored).2)
    (named : ∀ card ∈ cards, card.channel ∈ names) : cards.length ≤ names.length := by
  have nodup : (cards.map (·.channel)).Nodup := by
    have within : (cards.map (·.channel)).Sublist (scored.map (·.channel)) :=
      channels_cards ▸ (among.trans List.filter_sublist).map _
    exact distinct.sublist within
  have subset : cards.map (·.channel) ⊆ names := by
    intro name member
    obtain ⟨card, isCard, rfl⟩ := List.mem_map.mp member
    exact named card isCard
  have fits := (List.subperm_of_subset nodup subset).length_le
  rwa [List.length_map] at fits

theorem isSelection :
    IsSelection scored (selectChannels scored).1 (selectChannels scored).2 where
  cards := channels_cards
  among := List.filter_sublist
  primary := by
    refine (@length_le_of_names scored distinct _
      (((chosen scored).selectedOrder.take 2).map (·.channel)) List.filter_sublist ?_).trans ?_
    · intro card member
      obtain ⟨isSelected, isPrimary⟩ := List.mem_filter.mp member
      obtain ⟨row, selected, rfl⟩ := of_selected distinct isSelected
      obtain ⟨rank, found⟩ := List.mem_iff_getElem?.mp selected
      have role := of_decide_eq_true isPrimary
      rw [role_eq distinct found] at role
      split at role
      · next first =>
        refine List.mem_map_of_mem (List.mem_of_getElem? (i := rank) ?_)
        rw [List.getElem?_take_of_lt first]
        exact found
      · cases role
    · rw [List.length_map]
      exact List.length_take_le _ _
  supporting := by
    refine (@length_le_of_names scored distinct _
      (((chosen scored).selectedOrder.drop 2).map (·.channel)) List.filter_sublist ?_).trans ?_
    · intro card member
      obtain ⟨isSelected, isSupporting⟩ := List.mem_filter.mp member
      obtain ⟨row, selected, rfl⟩ := of_selected distinct isSelected
      obtain ⟨rank, found⟩ := List.mem_iff_getElem?.mp selected
      have role := of_decide_eq_true isSupporting
      rw [role_eq distinct found] at role
      split at role
      · cases role
      · next last =>
        refine List.mem_map_of_mem (List.mem_of_getElem? (i := rank - 2) ?_)
        rw [List.getElem?_drop, Nat.add_sub_of_le (not_lt.mp last)]
        exact found
    · have := (chosen_spec distinct).short
      rw [List.length_map, List.length_drop]
      omega
  enough := by
    intro row member card isSelected same isSupporting
    obtain ⟨other, selected, rfl⟩ := of_selected distinct isSelected
    obtain rfl := distinct.row_eq (mem_of_chosen distinct selected).1 member same
    obtain ⟨rank, found⟩ := List.mem_iff_getElem?.mp selected
    rw [role_eq distinct found] at isSupporting
    split at isSupporting
    · cases isSupporting
    · next last =>
      have inside := (List.getElem?_eq_some_iff.mp found).1
      have short := (chosen_spec distinct).short
      obtain rfl : rank = 2 := by omega
      exact (chosen_spec distinct).enough other found
  allowed := by
    intro row member card isSelected same
    obtain ⟨other, selected, rfl⟩ := of_selected distinct isSelected
    obtain rfl := distinct.row_eq (mem_of_chosen distinct selected).1 member same
    have free := (mem_of_chosen distinct selected).2
    refine ⟨free, ?_⟩
    have unmarked : other.channel ∉ (chosen scored).duplicateChannels.map (·.channel) := by
      intro named
      obtain ⟨duplicate, isDuplicate, alike⟩ := List.mem_map.mp named
      rcases (chosen_spec distinct).duplicates duplicate isDuplicate with
        none | ⟨ranked, unselected⟩
      · cases none
      · have same := distinct.row_eq (mem_ranking.mp ranked).1 member alike
        exact unselected (same ▸ selected)
    simp only [Selecting.card, free]
    rw [if_neg unmarked]
  apart := by
    have nodup : ((selectChannels scored).1.map (·.channel)).Nodup := channels_cards ▸ distinct
    refine ((List.pairwise_map.mp nodup).sublist List.filter_sublist).imp_of_mem ?_
    intro left right isLeft isRight differs
    obtain ⟨first, selected, rfl⟩ := of_selected distinct isLeft
    obtain ⟨second, alsoSelected, rfl⟩ := of_selected distinct isRight
    exact (chosen_spec distinct).apart.forall selected alsoSelected fun same => differs (same ▸ rfl)
  others := by
    intro row member free unselected
    rw [selected_iff distinct member] at unselected
    have isRanked := mem_ranking.mpr ⟨member, free⟩
    rcases (chosen_spec distinct).settled row isRanked with
      selected | ⟨marked, best, selected, outranks, same⟩ | last
    · exact absurd selected unselected
    · have isBest := (mem_of_chosen distinct selected).1
      refine .inl ⟨(chosen scored).card row, List.mem_map_of_mem member, rfl, ?_, best, isBest,
        (selected_iff distinct isBest).mpr selected, same, ?_⟩
      · simp only [Selecting.card, free]
        rw [if_pos (List.mem_map_of_mem marked)]
      · rcases outranks with less | ⟨equal, -⟩
        · exact less.le
        · exact equal.le
    · refine .inr fun best isBest selected => ?_
      exact (last best ((selected_iff distinct isBest).mp selected)).asymm

/-- Another order of the input gives the same scorecards and the same selection. -/
theorem selectChannels_perm {shuffled : List Scored} (permuted : shuffled.Perm scored) :
    (selectChannels shuffled).1.Perm (selectChannels scored).1 ∧
      (selectChannels shuffled).2.Perm (selectChannels scored).2 := by
  have same : chosen shuffled = chosen scored :=
    congrArg (choose · ⟨[], [], []⟩) (ranking_perm distinct permuted)
  unfold selectChannels
  rw [same]
  exact ⟨permuted.map _, (permuted.map _).filter _⟩

end Chosen

/-- The selection is sound and best, whatever the order of the input. -/
theorem selection_sound (scored : List Scored) (distinct : Distinct scored) :
    IsSelection scored (selectChannels scored).1 (selectChannels scored).2 ∧
      ∀ shuffled : List Scored, shuffled.Perm scored →
        (selectChannels shuffled).1.Perm (selectChannels scored).1 ∧
          (selectChannels shuffled).2.Perm (selectChannels scored).2 :=
  ⟨isSelection distinct, fun _ => selectChannels_perm distinct⟩

/-- A channel whose dimensions all have one value. -/
def flat (channel : String) (value : ℚ) : Scored :=
  let dimensions := ⟨value, value, value, value, value, value, value, value⟩
  ⟨channel, dimensions, dimensions, 8 * value⟩

theorem two_local_channels_sound :
    let scored := [flat "google_maps" 1, flat "instagram" (1 / 2), flat "google_business_profile" 1]
    IsSelection scored (selectChannels scored).1 (selectChannels scored).2 :=
  (selection_sound _ (by decide)).1

end MarketMind.Strategy.Channels
