import MarketMind.Strategy.Distribution
import Mathlib.Data.List.Nodup

/-!
Owns the budget scenarios of a strategy: how the AI service computes them from the
brief and the selected channels, which budget checks the contracts package makes
of them, and for which confirmed budgets the two agree.

Does not own the scores of the channels, the notes beside a scenario, and the
checks of the rest of a plan. Amounts are exact rationals.
-/

namespace MarketMind.Strategy.Budgets

inductive BudgetMode
  | organicOnly
  | monthlyAmount
  | threeMonthAmount
  | scenarioOnly
deriving DecidableEq, Repr

/-- `ExternalBudgetRangeEgp`, with its own validator. -/
structure BudgetRange where
  minEgp : ℚ
  maxEgp : ℚ
  positive : 0 < minEgp
  ordered : minEgp ≤ maxEgp

inductive Budget
  | amount (egp : ℚ)
  | range (limits : BudgetRange)

/-- What a brief says about money, with `validate_budget_required`. -/
structure Brief where
  paidMediaAllowed : Bool
  externalBudgetMode : BudgetMode
  externalBudgetEgp : Option Budget
  required : externalBudgetMode = .monthlyAmount ∨ externalBudgetMode = .threeMonthAmount →
    externalBudgetEgp ≠ none ∧ ∀ egp, externalBudgetEgp = some (.amount egp) → 0 < egp
  organic : externalBudgetMode = .organicOnly → externalBudgetEgp = none
  unpaid : paidMediaAllowed = false →
    externalBudgetMode = .organicOnly ∨ externalBudgetMode = .scenarioOnly

inductive ChannelRole
  | primary
  | supporting
deriving DecidableEq, Repr

structure Scorecard where
  channel : String
  role : ChannelRole
  totalScore : ℚ
  inRange : 0 ≤ totalScore ∧ totalScore ≤ 8

/-- Some selected channels, each once. -/
structure Selection where
  cards : List Scorecard
  filled : cards ≠ []
  distinct : (cards.map (·.channel)).Nodup

/-! ## The AI service -/

/-- `_round_to_nearest_50`. -/
def roundToNearest50 (value : ℚ) : ℚ := roundHalfEven (value / 50) * 50

/-- `normalize_budget`, which raises an error at a field. -/
def normalizeBudget (brief : Brief) : Except (String × String) (Option ℚ) :=
  if brief.externalBudgetMode = .organicOnly then .ok none
  else
    match brief.externalBudgetEgp with
    | none =>
        if brief.externalBudgetMode = .monthlyAmount ∨
            brief.externalBudgetMode = .threeMonthAmount then
          .error ("brief.external_budget_egp",
            "Budget is required for monthly_amount and three_month_amount modes.")
        else .ok none
    | some (.amount egp) =>
        if egp ≤ 0 then .error ("brief.external_budget_egp", "Budget must be a positive number.")
        else .ok (some egp)
    | some (.range limits) => .ok (some (roundToNearest50 ((limits.minEgp + limits.maxEgp) / 2)))

/-- `_base_total_egp`. -/
def baseTotalEgp (brief : Brief) (anchor : Option ℚ) : ℚ :=
  match brief.externalBudgetEgp with
  | some (.range limits) =>
      max limits.minEgp (min limits.maxEgp (roundToNearest50 ((limits.minEgp + limits.maxEgp) / 2)))
  | _ => anchor.getD 0

inductive Period
  | monthly
  | twelveWeek
deriving DecidableEq, Repr

def scenarioPeriod (brief : Brief) : Period :=
  match brief.externalBudgetMode with
  | .monthlyAmount => .monthly
  | .threeMonthAmount => .twelveWeek
  | _ => .monthly

def approvedMaximum (brief : Brief) : Option ℚ :=
  match brief.externalBudgetEgp with
  | none => none
  | some (.amount egp) => some egp
  | some (.range limits) => some limits.maxEgp

structure ChannelAllocation where
  channel : String
  amountEgp : ℚ
  percentage : ℚ
deriving DecidableEq, Repr

inductive ScenarioType
  | conservative
  | base
  | growth
deriving DecidableEq, Repr

structure BudgetScenario where
  scenarioType : ScenarioType
  period : Period
  totalEgp : ℚ
  channelAllocations : List ChannelAllocation
  requiresOwnerBudgetApproval : Bool
deriving DecidableEq, Repr

def websiteCapPercent : Int := 5

/-- The share of a channel in a dictionary of shares by channel. -/
def shareOf (channels : List Scorecard) (shares : List Int) (channel : String) : Int :=
  (((channels.map (·.channel)).zip shares).find? (·.1 = channel)).elim 0 (·.2)

/-- `_allocations_with_website_cap`. -/
def allocationsWithWebsiteCap (totalEgp : Int) (selected : List Scorecard) :
    List ChannelAllocation :=
  let capAmount := roundHalfEven (totalEgp * websiteCapPercent / 100)
  let paidChannels := selected.filter (·.channel ≠ "website")
  let paidAmounts := distributeExactly (totalEgp - capAmount) (paidChannels.map (·.totalScore))
  let paidPercentages := distributeExactly (100 - websiteCapPercent)
    (paidChannels.map (·.totalScore))
  selected.map fun card =>
    { channel := card.channel
      amountEgp := if card.channel = "website" then capAmount
        else shareOf paidChannels paidAmounts card.channel
      percentage := if card.channel = "website" then websiteCapPercent
        else shareOf paidChannels paidPercentages card.channel }

/-- `_allocations_for_scenario`. -/
def allocationsForScenario (totalEgp : Int) (selected : List Scorecard) : List ChannelAllocation :=
  if 1 < selected.length ∧ selected.any (·.channel = "website") then
    allocationsWithWebsiteCap totalEgp selected
  else
    let weights := selected.map (·.totalScore)
    let amounts := distributeExactly totalEgp weights
    let percentages := distributeExactly 100 weights
    (selected.zip (amounts.zip percentages)).map fun (card, amount, percentage) =>
      { channel := card.channel, amountEgp := amount, percentage := percentage }

/-- The order of the selected channels: primary ones first, then by score, then by name. -/
def listedBefore (left right : Scorecard) : Bool :=
  let rank (card : Scorecard) : Nat := if card.role = .primary then 0 else 1
  rank left < rank right ∨ (rank left = rank right ∧
    (right.totalScore < left.totalScore ∨
      (left.totalScore = right.totalScore ∧ left.channel ≤ right.channel)))

def conservativeBudgetRatio : ℚ := 7 / 10

def growthBudgetRatio : ℚ := 15 / 10

/-- The scenarios around a base total. -/
def scenariosAround (brief : Brief) (baseTotal : ℚ) (selected : List Scorecard) :
    List BudgetScenario :=
  let totals := [
    (ScenarioType.conservative, max 1 (roundHalfEven (baseTotal * conservativeBudgetRatio))),
    (.base, max 1 (roundHalfEven baseTotal)),
    (.growth, max 1 (roundHalfEven (baseTotal * growthBudgetRatio)))]
  totals.map fun (scenarioType, total) =>
    { scenarioType
      period := scenarioPeriod brief
      totalEgp := total
      channelAllocations := allocationsForScenario total selected
      requiresOwnerBudgetApproval := (approvedMaximum brief).any (· < (total : ℚ)) }

/-- `compute_budget_scenarios`. -/
def computeBudgetScenarios (brief : Brief) (anchor : Option ℚ) (selectedScorecards : List Scorecard) :
    Option (List BudgetScenario) :=
  if brief.paidMediaAllowed = false then none
  else if brief.externalBudgetMode = .organicOnly then none
  else if brief.externalBudgetMode = .scenarioOnly ∧ anchor = none then none
  else
    let selected := selectedScorecards.mergeSort listedBefore
    if selected = [] then none
    else some (scenariosAround brief (baseTotalEgp brief anchor) selected)

/-- The scenarios of a brief, from its own normalised budget. -/
def budgetScenarios (brief : Brief) (selected : Selection) :
    Except (String × String) (Option (List BudgetScenario)) := do
  let anchor ← normalizeBudget brief
  return computeBudgetScenarios brief anchor selected.cards

/-! ## The contracts package -/

/-- `Math.round`. -/
def mathRound (value : ℚ) : Int := ⌊value + 1 / 2⌋

def roundScore (value : ℚ) : ℚ := mathRound (value * 100) / 100

structure Issue where
  code : String
  field : String
  message : String
deriving DecidableEq, Repr

def scenarioField (index : Nat) (field : String) : String :=
  "plan.budget_scenarios[" ++ toString index ++ "]." ++ field

/-- The checks of one scenario of a plan. -/
def scenarioIssues (brief : Brief) (scenario : BudgetScenario) (index : Nat) : List Issue :=
  let amountTotal := roundScore (scenario.channelAllocations.map (·.amountEgp)).sum
  let percentageTotal := roundScore (scenario.channelAllocations.map (·.percentage)).sum
  let expectedPeriod :=
    match brief.externalBudgetMode with
    | .monthlyAmount => .monthly
    | .threeMonthAmount => .twelveWeek
    | _ => scenario.period
  let expectedApproval : Bool :=
    match approvedMaximum brief with
    | none => true
    | some maximum => maximum < scenario.totalEgp
  (if amountTotal ≠ scenario.totalEgp ∨ percentageTotal ≠ 100 then
    [⟨"STRATEGY_ARITHMETIC_FAILURE", scenarioField index "channel_allocations",
      "Allocations must equal the scenario total and percentages must equal 100."⟩] else []) ++
  (if scenario.period ≠ expectedPeriod then
    [⟨"STRATEGY_BUDGET_MISMATCH", scenarioField index "period",
      "Budget scenario period must match the owner-confirmed budget mode."⟩] else []) ++
  (if scenario.requiresOwnerBudgetApproval ≠ expectedApproval then
    [⟨"STRATEGY_BUDGET_MISMATCH", scenarioField index "requires_owner_budget_approval",
      "Scenarios outside the confirmed budget must be marked for owner budget approval."⟩] else [])

/-- Whether a base scenario is the confirmed budget, or inside its range. -/
def budgetMatches (brief : Brief) (baseScenario : Option BudgetScenario) : Bool :=
  match brief.externalBudgetEgp, baseScenario with
  | none, _ | _, none => true
  | some (.amount egp), some scenario => scenario.totalEgp = egp
  | some (.range limits), some scenario =>
      limits.minEgp ≤ scenario.totalEgp ∧ scenario.totalEgp ≤ limits.maxEgp

/-- The budget checks of a plan in the mode of its brief. -/
def budgetIssues (brief : Brief) (scenarios : List BudgetScenario) : List Issue :=
  let baseScenario := scenarios.find? (·.scenarioType = .base)
  let scenarioTypes := scenarios.map (·.scenarioType)
  (if brief.paidMediaAllowed = false ∧ scenarios ≠ [] then
    [⟨"STRATEGY_BUDGET_MISMATCH", "plan.budget_scenarios",
      "Paid-spend scenarios are excluded when paid media is disallowed."⟩] else []) ++
  scenarios.zipIdx.flatMap (fun (scenario, index) => scenarioIssues brief scenario index) ++
  (if brief.externalBudgetMode ≠ .organicOnly ∧
      (scenarios = [] ∨ baseScenario = none ∨ scenarioTypes.dedup.length ≠ scenarioTypes.length) then
    [⟨"STRATEGY_BUDGET_MISMATCH", "plan.budget_scenarios",
      "A paid or scenario plan needs one unique base scenario."⟩] else []) ++
  (if budgetMatches brief baseScenario then []
    else [⟨"STRATEGY_BUDGET_MISMATCH", "plan.budget_scenarios.base.total_egp",
      "The base scenario must equal the owner-confirmed external budget."⟩])

/-! ## Allocations -/

private theorem sum_cast {α : Type} (values : List α) (exact : α → ℚ) (whole : α → Int)
    (same : ∀ value, exact value = whole value) :
    (values.map exact).sum = ((values.map whole).sum : Int) := by
  induction values with
  | nil => rfl
  | cons value values inductionHypothesis =>
      rw [List.map_cons, List.map_cons, List.sum_cons, List.sum_cons, inductionHypothesis,
        Int.cast_add, same]

/-- Each channel has its own share in a dictionary by channel. -/
private theorem map_shareOf {channels : List Scorecard} {shares : List Int}
    (distinct : (channels.map (·.channel)).Nodup) (length : shares.length = channels.length) :
    (channels.map fun card => shareOf channels shares card.channel) = shares := by
  induction channels generalizing shares with
  | nil =>
      rw [List.length_nil, List.length_eq_zero_iff] at length
      rw [length]
      rfl
  | cons card channels inductionHypothesis =>
      cases shares with
      | nil => cases length
      | cons share shares =>
          obtain ⟨apart, others⟩ := List.nodup_cons.1 distinct
          have first : shareOf (card :: channels) (share :: shares) card.channel = share := by
            simp [shareOf]
          have rest : ∀ other ∈ channels, shareOf (card :: channels) (share :: shares) other.channel =
              shareOf channels shares other.channel := by
            intro other member
            have different : card.channel ≠ other.channel :=
              fun same => apart (List.mem_map.2 ⟨other, member, same.symm⟩)
            simp [shareOf, different]
          rw [List.map_cons, first, List.map_congr_left rest,
            inductionHypothesis others (Nat.succ.inj length)]

/-- One channel is the website. -/
private theorem countP_website {selected : List Scorecard}
    (distinct : (selected.map (·.channel)).Nodup)
    (listed : selected.any (·.channel = "website") = true) :
    selected.countP (·.channel = "website") = 1 := by
  have member : "website" ∈ selected.map (·.channel) := by
    obtain ⟨card, cardIn, isWebsite⟩ := List.any_eq_true.1 listed
    exact List.mem_map.2 ⟨card, cardIn, of_decide_eq_true isWebsite⟩
  have once := List.count_eq_one_of_mem distinct member
  rw [List.count, List.countP_map] at once
  rw [← once]
  refine List.countP_congr fun card _ => ?_
  simp

private theorem sum_split (cap : Int) (share : String → Int) (selected : List Scorecard) :
    (selected.map fun card =>
      if card.channel = "website" then cap else share card.channel).sum =
        selected.countP (·.channel = "website") * cap +
          ((selected.filter (·.channel ≠ "website")).map fun card => share card.channel).sum := by
  induction selected with
  | nil => simp
  | cons card selected inductionHypothesis =>
      by_cases isWebsite : card.channel = "website"
      · simp only [List.map_cons, List.sum_cons, isWebsite, if_true, inductionHypothesis,
          List.countP_cons, decide_true, List.filter_cons, ne_eq, not_true_eq_false, decide_false,
          Bool.false_eq_true, if_false]
        push_cast
        ring
      · simp only [List.map_cons, List.sum_cons, isWebsite, if_false, inductionHypothesis,
          List.countP_cons, decide_false, List.filter_cons, ne_eq, not_false_eq_true, decide_true,
          if_true, Bool.false_eq_true, Nat.add_zero]
        ring

/-- What the capped shares of all channels add up to. -/
private theorem sum_capped {selected : List Scorecard} (listed : selected.any (·.channel = "website") = true)
    (several : 1 < selected.length) (distinct : (selected.map (·.channel)).Nodup)
    (total cap : Int) :
    (selected.map fun card =>
      if card.channel = "website" then cap
      else shareOf (selected.filter (·.channel ≠ "website"))
        (distributeExactly (total - cap)
          ((selected.filter (·.channel ≠ "website")).map (·.totalScore))) card.channel).sum =
      total := by
  have one := countP_website distinct listed
  have partition := List.length_eq_countP_add_countP (fun card : Scorecard =>
    decide (card.channel = "website")) (l := selected)
  have paidLength : (selected.filter (·.channel ≠ "website")).length + 1 = selected.length := by
    rw [partition, one, ← List.countP_eq_length_filter, Nat.add_comm]
    congr 1
    exact List.countP_congr fun card _ => by simp
  have paid : (selected.filter (·.channel ≠ "website")).map (·.totalScore) ≠ [] := by
    rw [Ne, List.map_eq_nil_iff, ← List.length_eq_zero_iff]
    omega
  obtain ⟨sum, length⟩ := @sum_distributeExactly (total - cap) _ paid
  rw [sum_split, one, map_shareOf (distinct.sublist (List.filter_sublist.map _))
    (by rw [length, List.length_map]), sum]
  push_cast
  ring

private theorem sum_allocations {total : Int} {selected : List Scorecard} (filled : selected ≠ [])
    (distinct : (selected.map (·.channel)).Nodup) :
    ((allocationsForScenario total selected).map (·.amountEgp)).sum = total ∧
      ((allocationsForScenario total selected).map (·.percentage)).sum = 100 := by
  unfold allocationsForScenario
  split
  · next capped =>
    have amounts := sum_capped capped.2 capped.1 distinct total
      (roundHalfEven (total * websiteCapPercent / 100))
    have percentages := sum_capped capped.2 capped.1 distinct 100 websiteCapPercent
    unfold allocationsWithWebsiteCap
    dsimp only
    rw [List.map_map, List.map_map]
    constructor
    · refine (sum_cast selected _ _ fun card => ?_).trans (congrArg Int.cast amounts)
      simp only [Function.comp_apply]
      split <;> rfl
    · have hundred : (100 : ℚ) = ((100 : Int) : ℚ) := by norm_num
      rw [hundred]
      refine (sum_cast selected _ _ fun card => ?_).trans (congrArg Int.cast percentages)
      simp only [Function.comp_apply]
      split <;> rfl
  · have weighed : selected.map (·.totalScore) ≠ [] := by simpa using filled
    obtain ⟨amounts, amountsLength⟩ := @sum_distributeExactly total _ weighed
    obtain ⟨percentages, percentagesLength⟩ := @sum_distributeExactly 100 _ weighed
    rw [List.length_map] at amountsLength percentagesLength
    dsimp only
    generalize distributeExactly total _ = shares at amounts amountsLength ⊢
    generalize distributeExactly 100 _ = parts at percentages percentagesLength ⊢
    have zipped : (selected.zip (shares.zip parts)).map Prod.snd = shares.zip parts :=
      List.map_snd_zip (by rw [List.length_zip]; omega)
    rw [List.map_map, List.map_map]
    constructor
    · have each := (congrArg (List.map Prod.fst) zipped).trans (List.map_fst_zip (by omega))
      rw [List.map_map] at each
      refine (sum_cast _ _ (fun entry : Scorecard × Int × Int => entry.2.1) fun _ => rfl).trans ?_
      exact congrArg Int.cast ((congrArg List.sum each).trans amounts)
    · have each := (congrArg (List.map Prod.snd) zipped).trans (List.map_snd_zip (by omega))
      rw [List.map_map] at each
      refine (sum_cast _ _ (fun entry : Scorecard × Int × Int => entry.2.2) fun _ => rfl).trans ?_
      rw [show (100 : ℚ) = ((100 : Int) : ℚ) by norm_num]
      exact congrArg Int.cast ((congrArg List.sum each).trans percentages)

/-! ## Scenarios that the contracts package accepts -/

/-- What a plan needs of its budget scenarios. -/
structure Accepted (brief : Brief) (scenarios : List BudgetScenario) : Prop where
  amounts : ∀ scenario ∈ scenarios,
    (scenario.channelAllocations.map (·.amountEgp)).sum = scenario.totalEgp
  percentages : ∀ scenario ∈ scenarios, (scenario.channelAllocations.map (·.percentage)).sum = 100
  ordered : scenarios.map (·.scenarioType) = [.conservative, .base, .growth] ∧
    scenarios.Pairwise fun left right => left.totalEgp ≤ right.totalEgp
  checked : budgetIssues brief scenarios = []

/-- The budgets that a rounded total can be: a whole amount, and a range with the nearest
multiple of 50 to its middle inside, or with the limit on the side of that multiple rounding to
an amount inside. -/
def Attainable : Budget → Prop
  | .amount egp => egp ≤ 0 ∨ ∃ whole : Int, egp = whole
  | .range limits =>
      let nearest := roundToNearest50 ((limits.minEgp + limits.maxEgp) / 2)
      let inside (total : Int) : Prop := limits.minEgp ≤ total ∧ (total : ℚ) ≤ limits.maxEgp
      (limits.minEgp ≤ nearest ∧ nearest ≤ limits.maxEgp) ∨
        (nearest < limits.minEgp ∧ inside (max 1 (roundHalfEven limits.minEgp))) ∨
        (limits.maxEgp < nearest ∧ inside (max 1 (roundHalfEven limits.maxEgp)))

theorem roundScore_intCast (value : Int) : roundScore value = value := by
  have inner : (value : ℚ) * 100 = ((value * 100 : Int) : ℚ) := by push_cast; ring
  have rounded : mathRound ((value * 100 : Int) : ℚ) = value * 100 := by
    unfold mathRound
    rw [Int.floor_intCast_add]
    norm_num
  unfold roundScore
  rw [inner, rounded]
  push_cast
  ring

/-- The budget whose scenarios are computed, and their base total. -/
private theorem budgetScenarios_eq_some {brief : Brief} {selected : Selection}
    {scenarios : List BudgetScenario}
    (computed : budgetScenarios brief selected = .ok (some scenarios)) :
    brief.paidMediaAllowed = true ∧ ∃ budget anchor, brief.externalBudgetEgp = some budget ∧
      (∀ egp, budget = .amount egp → 0 < egp ∧ anchor = some egp) ∧
      scenarios = scenariosAround brief (baseTotalEgp brief anchor)
        (selected.cards.mergeSort listedBefore) := by
  cases isNormal : normalizeBudget brief with
  | error error => rw [budgetScenarios, isNormal] at computed; cases computed
  | ok anchor =>
      rw [budgetScenarios, isNormal] at computed
      have returned : computeBudgetScenarios brief anchor selected.cards = some scenarios :=
        Except.ok.inj computed
      unfold computeBudgetScenarios at returned
      split at returned
      · cases returned
      next paid =>
      split at returned
      · cases returned
      next notOrganic =>
      split at returned
      · cases returned
      next confirmed =>
      dsimp only at returned
      split at returned
      · cases returned
      refine ⟨by simpa using paid, ?_⟩
      unfold normalizeBudget at isNormal
      rw [if_neg notOrganic] at isNormal
      split at isNormal
      · next none =>
        split at isNormal
        · cases isNormal
        · next unasked =>
          obtain rfl := Except.ok.inj isNormal
          exfalso
          cases mode : brief.externalBudgetMode <;> simp_all
      · next egp isAmount =>
        split at isNormal
        · cases isNormal
        · next positive =>
          obtain rfl := Except.ok.inj isNormal
          refine ⟨_, _, isAmount, ?_, (Option.some.inj returned).symm⟩
          rintro other same
          cases same
          exact ⟨not_le.1 positive, rfl⟩
      · next limits isRange =>
        exact ⟨_, anchor, isRange, nofun, (Option.some.inj returned).symm⟩

/-- Scenarios are computed of a positive budget in paid media. -/
private theorem budgetScenarios_of_budget {brief : Brief} {budget : Budget} (selected : Selection)
    (paid : brief.paidMediaAllowed = true) (asked : brief.externalBudgetEgp = some budget)
    (positive : ∀ egp, budget = .amount egp → 0 < egp) :
    ∃ scenarios, budgetScenarios brief selected = .ok (some scenarios) := by
  have notOrganic : brief.externalBudgetMode ≠ .organicOnly := by
    intro organic
    rw [brief.organic organic] at asked
    cases asked
  have filled : selected.cards.mergeSort listedBefore ≠ [] := by
    intro none
    have := (List.mergeSort_perm selected.cards listedBefore).length_eq
    rw [none] at this
    exact selected.filled (List.length_eq_zero_iff.1 this.symm)
  have anchored : ∃ anchor, normalizeBudget brief = .ok (some anchor) := by
    unfold normalizeBudget
    rw [if_neg notOrganic, asked]
    cases budget with
    | amount egp => exact ⟨egp, if_neg (not_le.2 (positive egp rfl))⟩
    | range limits => exact ⟨_, rfl⟩
  obtain ⟨anchor, isAnchor⟩ := anchored
  refine ⟨scenariosAround brief (baseTotalEgp brief (some anchor))
    (selected.cards.mergeSort listedBefore), ?_⟩
  have computed : computeBudgetScenarios brief (some anchor) selected.cards =
      some (scenariosAround brief (baseTotalEgp brief (some anchor))
        (selected.cards.mergeSort listedBefore)) := by
    simp [computeBudgetScenarios, paid, notOrganic, filled]
  rw [budgetScenarios, isAnchor]
  exact congrArg Except.ok computed

section Around

variable {brief : Brief} {baseTotal : ℚ} {selected : List Scorecard}

private theorem scenarioIssues_around (filled : selected ≠ [])
    (distinct : (selected.map (·.channel)).Nodup) (asked : brief.externalBudgetEgp ≠ none)
    {scenario : BudgetScenario} (member : scenario ∈ scenariosAround brief baseTotal selected)
    (index : Nat) : scenarioIssues brief scenario index = [] := by
  obtain ⟨⟨scenarioType, total⟩, -, rfl⟩ := List.mem_map.1 member
  obtain ⟨amounts, percentages⟩ := @sum_allocations total selected filled distinct
  have hundred : roundScore 100 = 100 := by
    have := roundScore_intCast 100
    norm_num at this
    exact this
  have approval : (approvedMaximum brief).any (· < (total : ℚ)) =
      match approvedMaximum brief with
      | none => true
      | some maximum => decide (maximum < (total : ℚ)) := by
    unfold approvedMaximum
    split
    · next none => exact absurd none asked
    · rfl
    · rfl
  have period : scenarioPeriod brief =
      match brief.externalBudgetMode with
      | .monthlyAmount => .monthly
      | .threeMonthAmount => .twelveWeek
      | _ => scenarioPeriod brief := by
    unfold scenarioPeriod
    cases brief.externalBudgetMode <;> rfl
  unfold scenarioIssues
  simp only [amounts, percentages, roundScore_intCast, hundred, ← approval, ← period, ne_eq,
    not_true_eq_false, or_self, if_false, List.append_nil]

private theorem total_mono {left right : ℚ} (ordered : left ≤ right) :
    ((max 1 (roundHalfEven left) : Int) : ℚ) ≤ (max 1 (roundHalfEven right) : Int) := by
  have := roundHalfEven_mono ordered
  exact Int.cast_le.2 (max_le_max (le_refl 1) this)

/-- Scenarios around a positive total are accepted when their base is the confirmed budget. -/
private theorem accepted_around (filled : selected ≠ [])
    (distinct : (selected.map (·.channel)).Nodup) (asked : brief.externalBudgetEgp ≠ none)
    (paid : brief.paidMediaAllowed = true) (positive : 0 < baseTotal) :
    Accepted brief (scenariosAround brief baseTotal selected) ↔
      budgetMatches brief ((scenariosAround brief baseTotal selected).find?
        (·.scenarioType = .base)) = true := by
  have unique : (scenariosAround brief baseTotal selected).map (·.scenarioType) =
    [.conservative, .base, .growth] := rfl
  have issues : (scenariosAround brief baseTotal selected).zipIdx.flatMap
      (fun (scenario, index) => scenarioIssues brief scenario index) = [] := by
    rw [List.flatMap_eq_nil_iff]
    rintro ⟨scenario, index⟩ member
    exact scenarioIssues_around filled distinct asked (List.fst_mem_of_mem_zipIdx member) index
  have checked : budgetIssues brief (scenariosAround brief baseTotal selected) = [] ↔
      budgetMatches brief ((scenariosAround brief baseTotal selected).find?
        (·.scenarioType = .base)) = true := by
    have someBase : (scenariosAround brief baseTotal selected).find? (·.scenarioType = .base) ≠
      none := nofun
    have listed : scenariosAround brief baseTotal selected ≠ [] := nofun
    have dedup : [ScenarioType.conservative, .base, .growth].dedup.length = 3 := rfl
    unfold budgetIssues
    simp only [issues, unique, paid, someBase, listed, dedup, Bool.true_eq_false, false_and, if_false,
      List.nil_append, List.length_cons, List.length_nil, Nat.reduceAdd, ne_eq,
      not_true_eq_false, or_self, and_false]
    split
    · next isMatch => exact iff_of_true rfl isMatch
    · next noMatch => exact iff_of_false nofun noMatch
  refine ⟨fun accepted => checked.1 accepted.checked,
    fun isMatch => ⟨?_, ?_, ⟨unique, ?_⟩, checked.2 isMatch⟩⟩
  · intro scenario member
    obtain ⟨⟨scenarioType, total⟩, -, rfl⟩ := List.mem_map.1 member
    exact (sum_allocations filled distinct).1
  · intro scenario member
    obtain ⟨⟨scenarioType, total⟩, -, rfl⟩ := List.mem_map.1 member
    exact (sum_allocations filled distinct).2
  · have low : baseTotal * conservativeBudgetRatio ≤ baseTotal := by
      unfold conservativeBudgetRatio
      linarith
    have high : baseTotal ≤ baseTotal * growthBudgetRatio := by
      unfold growthBudgetRatio
      linarith
    have first := total_mono low
    have second := total_mono high
    unfold scenariosAround
    simp only [List.map_cons, List.map_nil, List.pairwise_cons, List.mem_cons, List.not_mem_nil,
      or_false, forall_eq_or_imp, forall_eq, IsEmpty.forall_iff, implies_true, List.Pairwise.nil,
      and_true]
    exact ⟨⟨first, first.trans second⟩, second⟩

/-- A range's base total lies in it. -/
private theorem rangeTotal_mem (limits : BudgetRange) (nearest : ℚ) :
    limits.minEgp ≤ max limits.minEgp (min limits.maxEgp nearest) ∧
      max limits.minEgp (min limits.maxEgp nearest) ≤ limits.maxEgp :=
  ⟨le_max_left _ _, max_le limits.ordered (min_le_left _ _)⟩

private theorem amount_matches (egp : ℚ) (positive : 0 < egp) :
    ((max 1 (roundHalfEven egp) : Int) : ℚ) = egp ↔ ∃ whole : Int, egp = whole := by
  constructor
  · intro same
    exact ⟨_, same.symm⟩
  · rintro ⟨whole, rfl⟩
    have : (0 : Int) < whole := by exact_mod_cast positive
    rw [roundHalfEven_intCast, max_eq_right (by omega)]

private theorem range_matches (limits : BudgetRange) :
    (limits.minEgp ≤ ((max 1 (roundHalfEven (max limits.minEgp (min limits.maxEgp
        (roundToNearest50 ((limits.minEgp + limits.maxEgp) / 2))))) : Int) : ℚ) ∧
      ((max 1 (roundHalfEven (max limits.minEgp (min limits.maxEgp
        (roundToNearest50 ((limits.minEgp + limits.maxEgp) / 2))))) : Int) : ℚ) ≤ limits.maxEgp) ↔
      Attainable (.range limits) := by
  have ordered := limits.ordered
  have positive := limits.positive
  unfold Attainable
  dsimp only
  have whole : roundToNearest50 ((limits.minEgp + limits.maxEgp) / 2) =
      ((roundHalfEven ((limits.minEgp + limits.maxEgp) / 2 / 50) * 50 : Int) : ℚ) := by
    unfold roundToNearest50
    push_cast
    rfl
  generalize roundToNearest50 ((limits.minEgp + limits.maxEgp) / 2) = nearest at whole ⊢
  generalize roundHalfEven ((limits.minEgp + limits.maxEgp) / 2 / 50) * 50 = integer at whole
  rcases lt_or_ge nearest limits.minEgp with below | notBelow
  · rw [max_eq_left ((min_le_right _ _).trans below.le)]
    constructor
    · exact fun inside => Or.inr (Or.inl ⟨below, inside⟩)
    · rintro (⟨low, -⟩ | ⟨-, inside⟩ | ⟨above, -⟩)
      · exact absurd low (not_le.2 below)
      · exact inside
      · exact absurd (above.trans below) (not_lt.2 ordered)
  rcases lt_or_ge limits.maxEgp nearest with above | notAbove
  · rw [min_eq_left above.le, max_eq_right ordered]
    constructor
    · exact fun inside => Or.inr (Or.inr ⟨above, inside⟩)
    · rintro (⟨-, high⟩ | ⟨below, -⟩ | ⟨-, inside⟩)
      · exact absurd high (not_le.2 above)
      · exact absurd below (not_lt.2 notBelow)
      · exact inside
  · rw [min_eq_right notAbove, max_eq_right notBelow, whole, roundHalfEven_intCast]
    have atLeast : (0 : Int) < integer := by
      have := positive.trans_le notBelow
      rw [whole] at this
      exact_mod_cast this
    rw [max_eq_right (by omega), ← whole]
    exact iff_of_true ⟨notBelow, notAbove⟩ (Or.inl ⟨notBelow, notAbove⟩)

private theorem matches_iff {budget : Budget} {anchor : Option ℚ}
    (asked : brief.externalBudgetEgp = some budget)
    (amounts : ∀ egp, budget = .amount egp → 0 < egp ∧ anchor = some egp) :
    budgetMatches brief ((scenariosAround brief (baseTotalEgp brief anchor) selected).find?
      (·.scenarioType = .base)) = true ↔ Attainable budget := by
  cases budget with
  | amount egp =>
      obtain ⟨positive, rfl⟩ := amounts egp rfl
      have total : baseTotalEgp brief (some egp) = egp := by rw [baseTotalEgp, asked]; rfl
      rw [total, Attainable, or_iff_right (not_le.2 positive), ← amount_matches egp positive]
      simp only [budgetMatches, asked]
      exact decide_eq_true_iff
  | range limits =>
      have total : baseTotalEgp brief anchor = max limits.minEgp (min limits.maxEgp
          (roundToNearest50 ((limits.minEgp + limits.maxEgp) / 2))) := by rw [baseTotalEgp, asked]
      rw [total, ← range_matches]
      simp only [budgetMatches, asked]
      exact decide_eq_true_iff

private theorem baseTotal_pos {budget : Budget} {anchor : Option ℚ}
    (asked : brief.externalBudgetEgp = some budget)
    (amounts : ∀ egp, budget = .amount egp → 0 < egp ∧ anchor = some egp) :
    0 < baseTotalEgp brief anchor := by
  cases budget with
  | amount egp =>
      obtain ⟨positive, rfl⟩ := amounts egp rfl
      rw [baseTotalEgp, asked]
      exact positive
  | range limits =>
      rw [baseTotalEgp, asked]
      exact limits.positive.trans_le (rangeTotal_mem limits _).1

end Around

private theorem accepted_iff {brief : Brief} {selected : Selection} {scenarios : List BudgetScenario}
    (computed : budgetScenarios brief selected = .ok (some scenarios)) :
    Accepted brief scenarios ↔ ∀ budget, brief.externalBudgetEgp = some budget →
      Attainable budget := by
  obtain ⟨paid, budget, anchor, asked, amounts, rfl⟩ := budgetScenarios_eq_some computed
  have permuted := List.mergeSort_perm selected.cards listedBefore
  have filled : selected.cards.mergeSort listedBefore ≠ [] :=
    fun none => selected.filled (List.Perm.nil_eq (none ▸ permuted)).symm
  have distinct : ((selected.cards.mergeSort listedBefore).map (·.channel)).Nodup :=
    (permuted.map _).nodup_iff.2 selected.distinct
  rw [accepted_around filled distinct (by rw [asked]; nofun) paid (baseTotal_pos asked amounts),
    matches_iff asked amounts]
  constructor
  · intro attainable other isOther
    rw [asked, Option.some.injEq] at isOther
    exact isOther ▸ attainable
  · exact fun all => all budget asked

/-- The scenarios of a brief are accepted exactly when paid media is off or the confirmed budget
is one that a rounded total can be. -/
theorem budgetScenarios_accepted_iff (brief : Brief) (selected : Selection) :
    (∀ scenarios, budgetScenarios brief selected = .ok (some scenarios) →
      Accepted brief scenarios) ↔
      brief.paidMediaAllowed = false ∨ ∀ budget, brief.externalBudgetEgp = some budget →
        Attainable budget := by
  constructor
  · intro accepted
    cases paid : brief.paidMediaAllowed with
    | false => exact Or.inl rfl
    | true =>
        refine Or.inr fun budget asked => ?_
        by_cases positive : ∀ egp, budget = .amount egp → 0 < egp
        · obtain ⟨scenarios, computed⟩ := budgetScenarios_of_budget selected paid asked positive
          exact (accepted_iff computed).1 (accepted scenarios computed) budget asked
        · simp only [not_forall, not_lt] at positive
          obtain ⟨egp, rfl, notPositive⟩ := positive
          exact Or.inl notPositive
  · rintro (unpaid | attainable) scenarios computed
    · obtain ⟨paid, -⟩ := budgetScenarios_eq_some computed
      rw [unpaid] at paid
      cases paid
    · exact (accepted_iff computed).2 attainable

/-- A monthly budget with half a pound. -/
def halfPound : Brief where
  paidMediaAllowed := true
  externalBudgetMode := .monthlyAmount
  externalBudgetEgp := some (.amount (2001 / 2))
  required := by
    refine fun _ => ⟨nofun, ?_⟩
    rintro egp same
    cases same
    norm_num
  organic := nofun
  unpaid := nofun

def instagram : Selection where
  cards := [⟨"instagram", .primary, 5, by norm_num⟩]
  filled := nofun
  distinct := by simp

/-- Its base scenario is a pound amount, which the contracts package refuses. -/
theorem half_pound_refused : ¬ ∀ scenarios,
    budgetScenarios halfPound instagram = .ok (some scenarios) → Accepted halfPound scenarios := by
  intro accepted
  obtain ⟨scenarios, computed⟩ := @budgetScenarios_of_budget halfPound _ instagram rfl rfl (by
    rintro egp same
    cases same
    norm_num)
  rcases (accepted_iff computed).1 (accepted scenarios computed) _ rfl with low | ⟨whole, same⟩
  · norm_num at low
  · have doubled : (2001 : ℚ) = ((2 * whole : Int) : ℚ) := by
      push_cast
      linarith
    have : (2001 : Int) = 2 * whole := by exact_mod_cast doubled
    omega

end MarketMind.Strategy.Budgets
