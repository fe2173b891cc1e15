import Mathlib.Algebra.Order.Field.Rat
import Mathlib.Data.Rat.Floor
import MarketMind.Content.Generator
import MarketMind.Graphs.Metered
import MarketMind.Orchestration.Phase3
import MarketMind.Orchestration.Phase4

/-!
Owns the segments that the agent graphs generate with: how often they call their provider, what a
budget leaves to a call, and what a run spends.

Does not own the assembly of prompts or the checks of an answer, which are parameters. Amounts are
exact.
-/

namespace MarketMind.Orchestration

open Graphs StateGraph

/-! ### What both segments share -/

/-- `OrchestrationBoundsV1` of a start, with what its validator demands. -/
structure BoundedStart extends Start where
  tokenBudget : Option Nat
  costBudgetUsd : Option ℚ
  deadlineAt : Option String
  costAtLeastZero : ∀ budget ∈ costBudgetUsd, 0 ≤ budget
  withinLimit : replansUsed ≤ replansLimit

def BoundedStart.isBudgeted (start : BoundedStart) : Bool :=
  start.tokenBudget.isSome || start.costBudgetUsd.isSome

structure PromptAssembly where
  systemPrompt : String
  userPrompt : String
  /-- `metadata.get("prompt_version", "unknown")` -/
  promptVersion : String

structure ProviderError where
  code : String
  message : String
  retryable : Bool

/-- What a call of the provider or a check of its answer raises. -/
inductive Raised
  | timeout
  | provider (error : ProviderError)
  | other (text : String)

/-- `_validate_execution_budget`, with the seconds that remain before the deadline, in the words of
a role. -/
def validateExecutionBudget (start : BoundedStart) (role : String) (remaining : ℚ) :
    Except (String × Json) Unit :=
  if start.tokenBudget.any (· ≤ 0) then
    .error (role ++ " generation cannot start with an exhausted token budget.", .object [])
  else if start.costBudgetUsd.any (· ≤ 0) then
    .error (role ++ " generation cannot start with an exhausted cost budget.", .object [])
  else if start.deadlineAt.isSome && remaining ≤ 0 then
    .error (role ++ " generation cannot start after its deadline.",
      .object [("deadline_at", (start.deadlineAt.map Json.string).getD .null)])
  else .ok ()

def budgetExceeded : String := "ORCHESTRATION_BUDGET_EXCEEDED"

/-- The details of a provider error. -/
def ProviderError.details (error : ProviderError) : Json :=
  .object [("provider_code", .string error.code), ("retryable", .boolean error.retryable)]

/-! ### Going through a graph -/

/-- The place of a node in either graph. -/
inductive Place
  | generate
  | review
  | await
  | terminal
deriving DecidableEq, Repr

/-- What the routes of a graph read, and what is allowed. -/
structure Progress where
  replansUsed : Nat
  replansLimit : Nat
  failed : Bool
  decided : Bool
  shown : Bool
  /-- Whether the last review is valid, and whether it is repairable. -/
  verdict : Option (Bool × Bool)

namespace Progress

def next (progress : Progress) : Place → Option Place
  | .generate => some (if progress.failed then .terminal else .review)
  | .review =>
      if progress.failed then some .terminal
      else
        match progress.verdict with
        | none => some .terminal
        | some (valid, repairable) =>
            some (if valid then .await else if repairable then .generate else .terminal)
  | .await => some (if progress.failed || progress.decided then .terminal else .await)
  | .terminal => none

/-- What a node does. -/
inductive Step (before : Progress) : Place → Progress → Prop
  | fails (place : Place) : Step before place { before with failed := true }
  | generates : Step before .generate before
  | presents (repairable : Bool) :
      Step before .review { before with shown := true, verdict := some (true, repairable) }
  | replans (left : before.replansUsed < before.replansLimit) :
      Step before .review
        { before with replansUsed := before.replansUsed + 1, verdict := some (false, true) }
  | waits : Step before .await before
  | attaches : Step before .await { before with shown := true }
  | decides : Step before .await { before with decided := true }
  | ends : Step before .terminal before

/-- How often the graph may still generate. -/
def allowed (progress : Progress) : Option Place → Nat
  | some .generate => progress.replansLimit - progress.replansUsed + 1
  | some .review => progress.replansLimit - progress.replansUsed
  | _ => 0

/-- How far a place is from the end, unless the graph generates. -/
def rank : Option Place → Nat
  | some .generate => 1
  | some .review => 2
  | some .terminal => 1
  | _ => 0

variable {before after : Progress} {place : Place}

theorem allowed_of_failed (progress : Progress) (failed : progress.failed = true)
    (place : Place) : progress.allowed (progress.next place) = 0 := by
  cases place <;> simp [next, failed, allowed]

theorem Step.allowed (step : Step before place after) :
    after.allowed (after.next place) + (if place = .generate then 1 else 0) ≤
      before.allowed (some place) := by
  cases step with
  | fails =>
      rw [allowed_of_failed _ rfl]
      cases place <;> simp [Progress.allowed]
  | generates =>
      cases failed : before.failed <;> simp [next, failed, Progress.allowed]
  | presents repairable => cases failed : before.failed <;> simp [next, Progress.allowed]
  | replans left =>
      cases failed : before.failed
      · simp [next, Progress.allowed]
        omega
      · simp [next, Progress.allowed]
  | waits | attaches | decides =>
      cases failed : before.failed <;> cases decided : before.decided <;>
        simp [next, failed, decided, Progress.allowed]
  | ends => simp [next, Progress.allowed]

theorem Step.shown (step : Step before place after)
    (holds : place = .await → before.shown = true) (waits : after.next place = some .await) :
    after.shown = true := by
  cases step with
  | fails => cases place <;> simp [next] at waits
  | generates => cases failed : before.failed <;> simp [next, failed] at waits
  | presents | attaches => rfl
  | replans left => cases failed : before.failed <;> simp [next, failed] at waits
  | waits | decides => exact holds rfl
  | ends => simp [next] at waits

theorem rank_next (progress : Progress) :
    rank (progress.next .review) < 2 ∧ rank (progress.next .terminal) < 1 := by
  refine ⟨?_, Nat.zero_lt_one⟩
  cases failed : progress.failed
  · rcases verdict : progress.verdict with - | ⟨valid, repairable⟩
    · simp [next, failed, verdict, rank]
    · cases valid <;> cases repairable <;> simp [next, failed, verdict, rank]
  · simp [next, failed, rank]

end Progress

/-- A graph whose nodes and routes are those of a progress generates only as often as is
allowed. -/
theorem rationed_of_progress {Node State Payload Resume Answer : Type}
    {graph : StateGraph Node State Payload Resume Answer} (place : Node → Place)
    (progress : State → Progress)
    (steps : ∀ node state resume answer,
      (place node = .await → (progress state).shown = true) →
        (progress state).Step (place node) (progress (graph.execute node state resume answer)))
    (routes : ∀ node state, (graph.route node state).map place = (progress state).next (place node))
    (hidden : ∀ node state, place node = .await → graph.interrupt node state = none →
      (progress state).shown = false) :
    graph.Rationed (fun node => decide (place node = .generate))
      (fun next state => next.map place = some .await → (progress state).shown = true)
      (fun next state => (progress state).allowed (next.map place))
      (fun next => Progress.rank (next.map place)) where
  keeps node state resume answer holds waits := by
    have step := steps node state resume answer fun isAwait => holds (by simp [isAwait])
    rw [routes] at waits
    exact step.shown (fun isAwait => holds (by simp [isAwait])) waits
  takes node state resume answer holds := by
    have step := steps node state resume answer fun isAwait => holds (by simp [isAwait])
    simpa only [routes, decide_eq_true_eq, Option.map_some] using step.allowed
  falls node state answer holds free other := by
    simp only [routes, Option.map_some]
    cases isAt : place node with
    | generate => simp [isAt] at other
    | review => exact (Progress.rank_next _).1
    | await =>
        have shown := holds (by simp [isAt])
        rw [hidden node state isAt free] at shown
        cases shown
    | terminal => exact (Progress.rank_next _).2
  low next := by
    rcases next.map place with - | at'
    · exact Nat.zero_le _
    · cases at' <;> simp [Progress.rank]

namespace Phase4

/-! ### The content segment -/

/-- The items of a pack; a pack without items does not pass `_validate_pack_shape`. -/
structure ItemVersions where
  first : ItemVersion
  others : List ItemVersion

structure ContentValidationIssue where
  code : String
  field : String
  message : String

def ContentValidationIssue.json (issue : ContentValidationIssue) : Json :=
  .object [("code", .string issue.code), ("field", .string issue.field),
    ("message", .string issue.message)]

/-- The segment and what it calls, for the request of one run. -/
structure ContentSegment where
  providerName : String
  maxProviderAttempts : Nat
  costCeilingUsdPerToken : ℚ
  attemptsPositive : 1 ≤ maxProviderAttempts
  ceilingPositive : 0 < costCeilingUsdPerToken
  /-- `assemble_generation_prompt` -/
  assembled : Except String PromptAssembly
  /-- The prompt of the content service's `_repair_prompt`. -/
  repairPrompt : PromptAssembly → ProviderError → Nat → PromptAssembly
  /-- An attempt of `generate_content_pack_with_repair` after the provider's answer. -/
  accepted : PromptAssembly → ItemVersions → Except Raised ItemVersions
  /-- The issues of `validate_generated_content_pack`. -/
  issues : ItemVersions → List ContentValidationIssue
  buildDraftPack : ItemVersions → Pack
  /-- The lengths of the texts that `_estimate_json_tokens` encodes. -/
  promptLength : PromptAssembly → Nat
  itemsLength : ItemVersions → Nat
  /-- How an amount is written, and how it is when it is rounded to eight places. -/
  amount : ℚ → Json
  roundedAmount : ℚ → Json

/-- What the provider answers a call, and whether the sleep after it ends before the deadline. -/
structure ProviderAnswer where
  outcome : Except Raised ItemVersions
  slept : Bool

/-- What the surroundings answer a node: the seconds before the deadline at its two checks, the
answers of the provider by attempt, and the review. -/
structure Given where
  remainingFirst : ℚ
  remainingSecond : ℚ
  provider : Nat → ProviderAnswer
  reviewed : Except String QualityReview

/-- What a run has spent, and how often the provider was called. The calls are not recorded. -/
structure Meter where
  tokenBudgetUsed : Nat
  costBudgetUsedUsd : ℚ
  providerCalls : Nat

structure ExecutionBudget where
  maxOutputTokens : Option Nat
  providerAttempts : Nat
  promptTokens : Nat
  active : Bool

structure ContentGenerationResult where
  generated : Generated
  estimatedTokenUsage : Nat
  estimatedCostUsd : ℚ

/-- `_estimate_json_tokens` of a text of the given length. -/
def estimateTokens (length : Nat) : Nat := max 1 ((length + 2) / 3)

/-- `_targeted_replan_prompt` -/
def targetedReplanPrompt (prompt : PromptAssembly) (instruction : Option String) (attempt : Nat) :
    PromptAssembly :=
  match instruction.filter (· ≠ "") with
  | none => prompt
  | some instruction =>
      { prompt with
        systemPrompt := prompt.systemPrompt ++ "\n\n" ++
          "TARGETED CONTENT REPLAN: regenerate the complete Content pack while " ++
          "preserving the exact Strategy, profile, week context, channels, and " ++
          "owner instructions. Resolve only the stated review issue."
        userPrompt := prompt.userPrompt ++ "\n\nTargeted review repair (attempt " ++
          toString attempt ++ "): " ++ instruction }

namespace ContentSegment

variable (segment : ContentSegment) (around : Surroundings) (start : BoundedStart)

/-- The tokens that each budget leaves. -/
def tokenLimits (meter : Meter) : List Int :=
  (start.tokenBudget.map fun budget => (budget : Int) - meter.tokenBudgetUsed).toList ++
    (start.costBudgetUsd.map fun budget =>
      ⌊(budget - meter.costBudgetUsedUsd) / segment.costCeilingUsdPerToken⌋).toList

/-- `_plan_execution_budget` -/
def planExecutionBudget (prompt : PromptAssembly) (meter : Meter) :
    Except GenerationError ExecutionBudget :=
  let promptTokens := estimateTokens (segment.promptLength prompt)
  match (segment.tokenLimits start meter).min? with
  | none => .ok ⟨none, segment.maxProviderAttempts, 0, false⟩
  | some availableTokens =>
      if availableTokens ≤ promptTokens then
        .error ⟨budgetExceeded, "The remaining orchestration budget cannot fit the Content prompt.",
          .object [("prompt_tokens", .number (.integer promptTokens)),
            ("available_tokens", .number (.integer (max 0 availableTokens)))]⟩
      else .ok ⟨some (availableTokens - promptTokens).toNat, 1, promptTokens, true⟩

/-- What `generate_content_pack_with_repair` raises after its last attempt. -/
def boundedError (error : ProviderError) : ProviderError :=
  if error.code ∈ ["CONTENT_SCHEMA_FAILURE", "AI_PROVIDER_INVALID_OUTPUT"] then
    ⟨"CONTENT_SCHEMA_FAILURE", "Content provider output remained invalid after bounded repair.",
      false⟩
  else if error.code ∈ Content.Generator.repairableOutputCodes then
    ⟨error.code, "Content provider output remained unsafe after bounded repair: " ++ error.message,
      false⟩
  else if error.retryable then
    ⟨"CONTENT_PROVIDER_FAILURE", "Content provider remained unavailable after bounded retries.",
      true⟩
  else error

/-- `generate_content_pack_with_repair` without a breaker, from the given attempt on, with how
often it calls the provider. -/
def generatePack (provider : Nat → ProviderAnswer) :
    Nat → Nat → PromptAssembly → Except Raised ItemVersions × Nat
  | _, 0, _ =>
      (.error (.provider ⟨"CONTENT_PROVIDER_FAILURE",
        "Content provider attempts ended without a result.", true⟩), 0)
  | attempt, left + 1, prompt =>
      match (provider attempt).outcome >>= segment.accepted prompt with
      | .ok items => (.ok items, 1)
      | .error (.provider error) =>
          if left = 0 then (.error (.provider (boundedError error)), 1)
          else if error.code ∈ Content.Generator.repairableOutputCodes then
            let later := generatePack provider (attempt + 1) left
              (segment.repairPrompt prompt error attempt)
            (later.1, later.2 + 1)
          else if error.retryable then
            if (provider attempt).slept then
              let later := generatePack provider (attempt + 1) left prompt
              (later.1, later.2 + 1)
            else (.error .timeout, 1)
          else (.error (.provider (boundedError error)), 1)
      | .error raised => (.error raised, 1)

/-- What `generate` raises for what the provider's loop raises. -/
def failure : Raised → GenerationError
  | .timeout =>
      ⟨budgetExceeded, "Content provider exceeded the remaining orchestration deadline.",
        .object [("deadline_at", (start.deadlineAt.map Json.string).getD .null)]⟩
  | .provider error =>
      ⟨if around.isErrorCode error.code then error.code else "CONTENT_PROVIDER_FAILURE",
        "Content provider failed: " ++ error.message, error.details⟩
  | .other text =>
      ⟨"CONTENT_PROVIDER_FAILURE", "Content provider failed unexpectedly: " ++ text, .object []⟩

/-- What `generate` does before it calls the provider. -/
def prepare (values : Values) (meter : Meter) (given : Given) :
    Except GenerationError (PromptAssembly × ExecutionBudget) :=
  match validateExecutionBudget start "Content" given.remainingFirst with
  | .error (message, details) => .error ⟨budgetExceeded, message, details⟩
  | .ok () =>
      match segment.assembled with
      | .error reason =>
          .error ⟨"ORCHESTRATION_VALIDATION_FAILED",
            "Content prompt preparation failed: " ++ reason, .object []⟩
      | .ok prompt =>
          let current := targetedReplanPrompt prompt values.replanInstruction values.replansUsed
          if start.deadlineAt.isSome && given.remainingSecond ≤ 0 then
            .error ⟨budgetExceeded, "Content generation cannot start after its deadline.",
              .object [("deadline_at", (start.deadlineAt.map Json.string).getD .null)]⟩
          else
            match segment.planExecutionBudget start current meter with
            | .error error => .error error
            | .ok budget => .ok (current, budget)

/-- What `generate` does with the items of the provider. -/
def conclude (meter : Meter) (prompt : PromptAssembly) (budget : ExecutionBudget)
    (items : ItemVersions) : Except GenerationError ContentGenerationResult :=
  let usage := budget.promptTokens + estimateTokens (segment.itemsLength items)
  let cost := usage * segment.costCeilingUsdPerToken
  if budget.active && budget.maxOutputTokens.any (budget.promptTokens + · < usage) then
    .error ⟨budgetExceeded, "Content provider output exceeded the remaining orchestration budget.",
      .object [("estimated_token_usage", .number (.integer usage)),
        ("available_tokens",
          .number (.integer (budget.promptTokens + budget.maxOutputTokens.getD 0 : Nat)))]⟩
  else if start.costBudgetUsd.any (· < meter.costBudgetUsedUsd + cost) then
    .error ⟨budgetExceeded, "Content provider output exceeded the remaining cost budget.",
      .object [("estimated_cost_usd", segment.roundedAmount cost),
        ("cost_budget_usd", (start.costBudgetUsd.map segment.amount).getD .null)]⟩
  else
    match segment.issues items with
    | issue :: issues =>
        .error ⟨if around.isErrorCode issue.code then issue.code
          else "ORCHESTRATION_VALIDATION_FAILED",
          issue.field ++ ": " ++ issue.message,
          .object [("issues", .array ((issue :: issues).map ContentValidationIssue.json))]⟩
    | [] =>
        .ok
          { generated :=
              { pack := segment.buildDraftPack items
                item := items.first
                itemCount := items.others.length + 1
                validationValid := true
                providerName := segment.providerName
                promptVersion := prompt.promptVersion }
            estimatedTokenUsage := usage
            estimatedCostUsd := cost }

/-- `ContentSegment.generate`, with how often it calls the provider. -/
def generate (values : Values) (meter : Meter) (given : Given) :
    Except GenerationError ContentGenerationResult × Nat :=
  match segment.prepare start values meter given with
  | .error error => (.error error, 0)
  | .ok (prompt, budget) =>
      let (outcome, calls) := segment.generatePack given.provider 1 budget.providerAttempts prompt
      (match outcome with
        | .error raised => .error (failure around start raised)
        | .ok items => segment.conclude around start meter prompt budget items,
        calls)

/-- What a node is answered. Only the content node generates, and it adds what a result is
estimated to have cost. -/
def serve (node : Node) (values : Values) (meter : Meter) (given : Given) : Answer × Meter :=
  match node with
  | .content =>
      let (result, calls) := segment.generate around start values meter given
      (⟨result.map (·.generated), given.reviewed⟩,
        match result with
        | .error _ => { meter with providerCalls := meter.providerCalls + calls }
        | .ok result =>
            { tokenBudgetUsed := meter.tokenBudgetUsed + result.estimatedTokenUsage
              costBudgetUsedUsd := meter.costBudgetUsedUsd + result.estimatedCostUsd
              providerCalls := meter.providerCalls + calls })
  | _ => (⟨.error ⟨"", "", .null⟩, given.reviewed⟩, meter)

/-- The Content graph with the segment that it is built with. -/
def graph : StateGraph Node (Values × Meter) ApprovalInterrupt Command Given :=
  (Phase4.graph around).metered (segment.serve around start)

/-- The state that a run begins in. -/
def initial (handoff : Handoff) : Values × Meter :=
  (initialState start.toStart handoff, ⟨0, 0, 0⟩)

/-! ### What one call costs -/

variable {segment around start}

theorem generatePack_calls (provider : Nat → ProviderAnswer) (left attempt : Nat)
    (prompt : PromptAssembly) :
    (segment.generatePack provider attempt left prompt).2 ≤ left := by
  induction left generalizing attempt prompt with
  | zero => exact Nat.le_refl 0
  | succ left ih =>
      unfold generatePack
      split
      · exact Nat.le_add_left 1 left
      · split_ifs
        · exact Nat.le_add_left 1 left
        · exact Nat.succ_le_succ (ih _ _)
        · exact Nat.succ_le_succ (ih _ _)
        · exact Nat.le_add_left 1 left
        · exact Nat.le_add_left 1 left
      · exact Nat.le_add_left 1 left

variable (segment start) in
/-- How often one content node may call the provider. -/
def callsPerNode : Nat := if start.isBudgeted then 1 else segment.maxProviderAttempts

/-- A plan keeps to each limit, with the one attempt that it plans when there is one. -/
theorem plan_within {prompt : PromptAssembly} {meter : Meter} {budget : ExecutionBudget}
    (planned : segment.planExecutionBudget start prompt meter = .ok budget) :
    budget.providerAttempts ≤ segment.callsPerNode start ∧
      ∀ limit ∈ segment.tokenLimits start meter, budget.active = true ∧
        ∃ most, budget.maxOutputTokens = some most ∧
          (budget.promptTokens + most : Int) ≤ limit := by
  unfold planExecutionBudget at planned
  split at planned
  · next none =>
    cases planned
    have empty := List.min?_eq_none_iff.mp none
    refine ⟨?_, by simp [empty]⟩
    have free : start.isBudgeted = false := by
      cases tokens : start.tokenBudget <;> cases costs : start.costBudgetUsd <;>
        simp_all [tokenLimits, BoundedStart.isBudgeted]
    simp [callsPerNode, free]
  · next available smallest =>
    have least := (List.min?_eq_some_iff.mp smallest).2
    dsimp only at planned
    split at planned
    · cases planned
    · next fits =>
      cases planned
      have positive : 1 ≤ segment.callsPerNode start := by
        unfold callsPerNode
        split
        · exact Nat.le_refl 1
        · exact segment.attemptsPositive
      refine ⟨positive, fun limit listed => ⟨rfl, _, rfl, ?_⟩⟩
      have below := least limit listed
      dsimp only
      omega

/-- What a result is estimated to have cost leaves the run within its budgets. -/
theorem conclude_within {prompt : PromptAssembly} {meter : Meter} {budget : ExecutionBudget}
    {items : ItemVersions} {result : ContentGenerationResult}
    (planned : segment.planExecutionBudget start prompt meter = .ok budget)
    (concluded : segment.conclude around start meter prompt budget items = .ok result) :
    (∀ budget ∈ start.tokenBudget, meter.tokenBudgetUsed + result.estimatedTokenUsage ≤ budget) ∧
      ∀ budget ∈ start.costBudgetUsd,
        meter.costBudgetUsedUsd + result.estimatedCostUsd ≤ budget := by
  have limits := (plan_within planned).2
  unfold conclude at concluded
  dsimp only at concluded
  split at concluded
  · cases concluded
  next fits =>
  split at concluded
  · cases concluded
  next affordable =>
  split at concluded
  · cases concluded
  cases concluded
  constructor
  · intro tokens given
    have listed : (tokens : Int) - meter.tokenBudgetUsed ∈ segment.tokenLimits start meter := by
      simp [tokenLimits, Option.mem_def.mp given]
    obtain ⟨active, most, capped, below⟩ := limits _ listed
    simp only [active, capped, Option.any_some, Bool.true_and, decide_eq_true_eq] at fits
    dsimp only
    omega
  · intro cost given
    simpa [Option.mem_def.mp given] using affordable

theorem planned_of_prepare {values : Values} {meter : Meter} {given : Given}
    {prompt : PromptAssembly} {budget : ExecutionBudget}
    (prepared : segment.prepare start values meter given = .ok (prompt, budget)) :
    segment.planExecutionBudget start prompt meter = .ok budget := by
  unfold prepare at prepared
  split at prepared
  · cases prepared
  split at prepared
  · cases prepared
  dsimp only at prepared
  split at prepared
  · cases prepared
  split at prepared
  · cases prepared
  · next planned =>
    cases prepared
    exact planned

theorem generate_calls (values : Values) (meter : Meter) (given : Given) :
    (segment.generate around start values meter given).2 ≤ segment.callsPerNode start := by
  unfold generate
  split
  · exact Nat.zero_le _
  · next prompt budget prepared =>
    exact (generatePack_calls _ _ _ _).trans (plan_within (planned_of_prepare prepared)).1

theorem generate_within {values : Values} {meter : Meter} {given : Given}
    {result : ContentGenerationResult}
    (generated : (segment.generate around start values meter given).1 = .ok result) :
    (∀ budget ∈ start.tokenBudget, meter.tokenBudgetUsed + result.estimatedTokenUsage ≤ budget) ∧
      ∀ budget ∈ start.costBudgetUsd,
        meter.costBudgetUsedUsd + result.estimatedCostUsd ≤ budget := by
  unfold generate at generated
  split at generated
  · cases generated
  · next prompt budget prepared =>
    dsimp only at generated
    split at generated
    · cases generated
    · exact conclude_within (planned_of_prepare prepared) generated

end ContentSegment

/-! ### Runs -/

def Node.place : Node → Place
  | content => .generate
  | review => .review
  | awaitApproval => .await
  | terminal => .terminal

def Values.progress (values : Values) : Progress where
  replansUsed := values.replansUsed
  replansLimit := values.orchestration.replansLimit
  failed := values.phase4Error.isSome
  decided := values.approvalBinding.isSome
  shown := values.approvalInterrupt.isSome
  verdict := values.qualityReview.map fun review => (review.valid, review.repairable)

variable {around : Surroundings}

theorem step_reviewNode (values : Values) (reviewed : Except String QualityReview) :
    values.progress.Step .review (reviewNode around values reviewed).progress := by
  unfold reviewNode
  dsimp only
  split
  · exact .fails .review
  · exact .fails .review
  next pack item review _ =>
  split_ifs with valid again repairable
  · have same : (presented values pack item review).progress =
        { values.progress with
          shown := true, verdict := some (review.valid, review.repairable) } := rfl
    rw [same, valid]
    exact .presents _
  · obtain ⟨repairable, left⟩ := Bool.and_eq_true_iff.mp again
    have same : (replanned values review).progress =
        { values.progress with
          replansUsed := values.replansUsed + 1
          verdict := some (review.valid, review.repairable) } := rfl
    rw [same, Bool.eq_false_iff.mpr valid, repairable]
    exact .replans (of_decide_eq_true left)
  · exact .fails .review
  · exact .fails .review

theorem step_awaitApprovalNode (values : Values) (command : Option Command)
    (shown : values.approvalInterrupt.isSome = true) :
    values.progress.Step .await (awaitApprovalNode around values command).progress := by
  obtain ⟨payload, isShown⟩ := Option.isSome_iff_exists.mp shown
  unfold awaitApprovalNode
  rw [isShown]
  cases command with
  | none => exact .waits
  | some command =>
      cases command with
      | receipt receipt =>
          dsimp only
          unfold attachReceipt
          split_ifs
          · exact .fails .await
          · exact .fails .await
          · exact .attaches
      | decision binding key =>
          dsimp only
          unfold recordDecision
          split_ifs
          · exact .fails .await
          · exact .fails .await
          · exact .decides
          · exact .decides

/-- The content node runs once, and once more for each replan that is left. -/
theorem rationed :
    (graph around).Rationed (fun node => decide (node.place = .generate))
      (fun next values => next.map Node.place = some .await → values.progress.shown = true)
      (fun next values => values.progress.allowed (next.map Node.place))
      (fun next => Progress.rank (next.map Node.place)) := by
  refine rationed_of_progress Node.place Values.progress
    (fun node values command answer shown => ?_) (fun node values => ?_)
    (fun node values isAwait free => ?_)
  · cases node with
    | content =>
        cases generated : answer.generated with
        | error error =>
            simp only [graph, contentNode, generated]
            exact .fails .generate
        | ok result =>
            simp only [graph, contentNode, generated]
            exact .generates
    | review => exact step_reviewNode values answer.reviewed
    | awaitApproval => exact step_awaitApprovalNode values command (shown rfl)
    | terminal => exact .ends
  · cases node with
    | content =>
        cases failed : values.phase4Error <;>
          simp [graph, route, Progress.next, Node.place, Values.progress, failed]
    | review =>
        cases failed : values.phase4Error with
        | some error => simp [graph, route, Progress.next, Node.place, Values.progress, failed]
        | none =>
            cases reviewed : values.qualityReview with
            | none =>
                simp [graph, route, Progress.next, Node.place, Values.progress, failed, reviewed]
            | some review =>
                cases valid : review.valid <;> cases repairable : review.repairable <;>
                  simp [graph, route, Progress.next, Node.place, Values.progress, failed,
                    reviewed, valid, repairable]
    | awaitApproval =>
        cases failed : values.phase4Error <;> cases decided : values.approvalBinding <;>
          simp [graph, route, Progress.next, Node.place, Values.progress, failed, decided]
    | terminal => rfl
  · cases node with
    | awaitApproval => exact Option.isSome_eq_false_iff.mpr (Option.isNone_iff_eq_none.mpr free)
    | content | review | terminal => cases isAwait

namespace ContentSegment

variable {segment : ContentSegment} {start : BoundedStart}

theorem serve_calls (node : Node) (values : Values) (meter : Meter) (given : Given) :
    (segment.serve around start node values meter given).2.providerCalls ≤
      meter.providerCalls +
        if decide (node.place = .generate) then segment.callsPerNode start else 0 := by
  cases node with
  | content =>
      have calls := @generate_calls segment around start values meter given
      simp only [serve, Node.place, decide_true, if_true]
      cases (segment.generate around start values meter given).1 <;>
        exact Nat.add_le_add_left calls _
  | review | awaitApproval | terminal => exact Nat.le_add_right _ _

/-- What a run has spent keeps within its budgets. -/
def Within (start : BoundedStart) (meter : Meter) : Prop :=
  (∀ budget ∈ start.tokenBudget, meter.tokenBudgetUsed ≤ budget) ∧
    ∀ budget ∈ start.costBudgetUsd, meter.costBudgetUsedUsd ≤ budget

theorem serve_within (node : Node) (values : Values) {meter : Meter} (given : Given)
    (within : Within start meter) :
    Within start (segment.serve around start node values meter given).2 := by
  cases node with
  | content =>
      simp only [serve]
      cases generated : (segment.generate around start values meter given).1 with
      | error error => exact within
      | ok result => exact generate_within generated
  | review | awaitApproval | terminal => exact within

theorem reached_within {handoff : Handoff}
    {checkpoint : Checkpoint Node (Values × Meter) ApprovalInterrupt}
    (reached : (segment.graph around start).Reached (initial start handoff) checkpoint) :
    Within start checkpoint.values.2 :=
  @Reached.holds _ _ _ _ _ (segment.graph around start) checkpoint
    (fun _ state => Within start state.2)
    (fun node state _ given within => serve_within node state.1 given within) _ reached
    ⟨fun _ _ => Nat.zero_le _, start.costAtLeastZero⟩

end ContentSegment

end Phase4

namespace Phase3

/-! ### The strategy segment -/

/-- The segment and what it calls, for the request of one run. -/
structure StrategySegment where
  providerName : String
  maxProviderAttempts : Nat
  attemptsPositive : 1 ≤ maxProviderAttempts
  /-- `assemble_generation_prompt` -/
  assembled : Except String PromptAssembly
  /-- The issues of `validate_plan_against_request`, each as its message and as a whole. -/
  issues : StrategyPlan → List (String × Json)

/-- What the surroundings answer an attempt: the seconds before the deadline, and what the provider
answers. -/
structure ProviderAnswer where
  remaining : ℚ
  outcome : Except Raised StrategyPlan

/-- What the surroundings answer a node. -/
structure Given where
  remainingFirst : ℚ
  provider : Nat → ProviderAnswer
  reviewed : Except String QualityReview

/-- `_repair_prompt` -/
def repairPrompt (prompt : PromptAssembly) (instruction : String) : PromptAssembly :=
  { prompt with
    systemPrompt := prompt.systemPrompt ++ "\n\n" ++
      "TARGETED REPLAN: regenerate the complete StrategyPlan while preserving " ++
      "all immutable identifiers, deterministic scorecards, citations, and " ++
      "owner-confirmed facts. Resolve only the stated review issue."
    userPrompt := prompt.userPrompt ++ "\n\nTargeted review repair: " ++ instruction }

namespace StrategySegment

variable (segment : StrategySegment) (around : Surroundings) (start : BoundedStart)

/-- The details of the failure after the last attempt. -/
def lastDetails (lastIssues : Option (List (String × Json)))
    (lastProviderError : Option ProviderError) : Json :=
  .object ((lastIssues.map fun issues => ("issues", Json.array (issues.map Prod.snd))).toList ++
    (lastProviderError.map fun error => ("provider_code", Json.string error.code)).toList)

/-- The loop of attempts from the given one on, with how often it calls the provider. -/
def attempts (provider : Nat → ProviderAnswer) :
    Nat → Nat → PromptAssembly → Option (List (String × Json)) → Option ProviderError →
      Except GenerationError Generated × Nat
  | _, 0, _, lastIssues, lastProviderError =>
      (.error ⟨"ORCHESTRATION_VALIDATION_FAILED",
        "Strategy provider did not produce a valid plan within the bounded retry limit.",
        lastDetails lastIssues lastProviderError⟩, 0)
  | attempt, left + 1, prompt, lastIssues, lastProviderError =>
      if start.deadlineAt.isSome && (provider attempt).remaining ≤ 0 then
        (.error ⟨budgetExceeded,
          "Strategy generation deadline was reached before the provider attempt.", .object []⟩, 0)
      else
        match (provider attempt).outcome with
        | .error .timeout =>
            (.error ⟨budgetExceeded,
              "Strategy provider exceeded the remaining orchestration deadline.",
              .object [("deadline_at", (start.deadlineAt.map Json.string).getD .null)]⟩, 1)
        | .error (.provider error) =>
            if !error.retryable || left = 0 then
              (.error ⟨"ORCHESTRATION_PROVIDER_UNSUPPORTED",
                "Strategy provider failed after " ++ toString attempt ++ " attempt(s): " ++
                  error.message, error.details⟩, 1)
            else
              let later := attempts provider (attempt + 1) left
                (repairPrompt prompt ("Provider returned a retryable failure: " ++ error.message))
                lastIssues (some error)
              (later.1, later.2 + 1)
        | .error (.other text) =>
            (.error ⟨"ORCHESTRATION_PROVIDER_UNSUPPORTED",
              "Strategy provider failed unexpectedly: " ++ text, .object []⟩, 1)
        | .ok plan =>
            match segment.issues plan with
            | [] => (.ok ⟨plan, true, attempt, segment.providerName, prompt.promptVersion⟩, 1)
            | issue :: issues =>
                let later := attempts provider (attempt + 1) left
                  (repairPrompt prompt
                    ("; ".intercalate (((issue :: issues).take 4).map Prod.fst)))
                  (some (issue :: issues)) lastProviderError
                (later.1, later.2 + 1)

/-- `StrategySegment.generate`, with how often it calls the provider. -/
def generate (values : Values) (given : Given) : Except GenerationError Generated × Nat :=
  match validateExecutionBudget start "Strategy" given.remainingFirst with
  | .error (message, details) => (.error ⟨budgetExceeded, message, details⟩, 0)
  | .ok () =>
      match segment.assembled with
      | .error reason =>
          (.error ⟨"ORCHESTRATION_VALIDATION_FAILED",
            "Strategy prompt preparation failed: " ++ reason, .object []⟩, 0)
      | .ok prompt =>
          segment.attempts start given.provider 1 segment.maxProviderAttempts
            (match values.replanInstruction.filter (· ≠ "") with
            | none => prompt
            | some instruction => repairPrompt prompt instruction)
            none none

/-- What a node is answered, with how often the provider was called. Only the strategy node
generates. -/
def serve (node : Node) (values : Values) (providerCalls : Nat) (given : Given) : Answer × Nat :=
  match node with
  | .strategy =>
      let (result, calls) := segment.generate start values given
      (⟨result, given.reviewed⟩, providerCalls + calls)
  | _ => (⟨.error ⟨"", "", .null⟩, given.reviewed⟩, providerCalls)

/-- The Strategy graph with the segment that it is built with. -/
def graph : StateGraph Node (Values × Nat) ApprovalInterrupt Command Given :=
  (Phase3.graph around).metered (segment.serve start)

end StrategySegment

def Node.place : Node → Place
  | strategy => .generate
  | review => .review
  | awaitApproval => .await
  | terminal => .terminal

/-! ### What one call costs -/

namespace StrategySegment

variable {segment : StrategySegment} {start : BoundedStart}

theorem attempts_calls (provider : Nat → ProviderAnswer) (left attempt : Nat)
    (prompt : PromptAssembly) (lastIssues : Option (List (String × Json)))
    (lastProviderError : Option ProviderError) :
    (segment.attempts start provider attempt left prompt lastIssues lastProviderError).2 ≤
      left := by
  induction left generalizing attempt prompt lastIssues lastProviderError with
  | zero => exact Nat.le_refl 0
  | succ left ih =>
      unfold attempts
      split_ifs
      · exact Nat.zero_le _
      · split
        · exact Nat.le_add_left 1 left
        · split_ifs
          · exact Nat.le_add_left 1 left
          · exact Nat.succ_le_succ (ih _ _ _ _)
        · exact Nat.le_add_left 1 left
        · split
          · exact Nat.le_add_left 1 left
          · exact Nat.succ_le_succ (ih _ _ _ _)

theorem serve_calls (node : Node) (values : Values) (providerCalls : Nat) (given : Given) :
    (segment.serve start node values providerCalls given).2 ≤
      providerCalls +
        if decide (node.place = .generate) then segment.maxProviderAttempts else 0 := by
  cases node with
  | strategy =>
      simp only [serve, Node.place, decide_true, if_true]
      refine Nat.add_le_add_left ?_ _
      unfold generate
      split
      · exact Nat.zero_le _
      · split
        · exact Nat.zero_le _
        · exact attempts_calls _ _ _ _ _ _
  | review | awaitApproval | terminal => exact Nat.le_add_right _ _

end StrategySegment

/-! ### Runs -/

def Values.progress (values : Values) : Progress where
  replansUsed := values.replansUsed
  replansLimit := values.orchestration.replansLimit
  failed := values.phase3Error.isSome
  decided := values.approvalBinding.isSome
  shown := values.approvalInterrupt.isSome
  verdict := values.qualityReview.map fun review => (review.valid, review.repairable)

variable {around : Surroundings}

theorem step_reviewNode (values : Values) (reviewed : Except String QualityReview) :
    values.progress.Step .review (reviewNode around values reviewed).progress := by
  unfold reviewNode
  dsimp only
  split
  · exact .fails .review
  · exact .fails .review
  next plan review _ =>
  split_ifs with valid again repairable
  · have same : (presented around values plan review).progress =
        { values.progress with
          shown := true, verdict := some (review.valid, review.repairable) } := rfl
    rw [same, valid]
    exact .presents _
  · obtain ⟨repairable, left⟩ := Bool.and_eq_true_iff.mp again
    have same : (replanned values review).progress =
        { values.progress with
          replansUsed := values.replansUsed + 1
          verdict := some (review.valid, review.repairable) } := rfl
    rw [same, Bool.eq_false_iff.mpr valid, repairable]
    exact .replans (of_decide_eq_true left)
  · exact .fails .review
  · exact .fails .review

theorem step_awaitApprovalNode (values : Values) (command : Option Command)
    (shown : values.approvalInterrupt.isSome = true) :
    values.progress.Step .await (awaitApprovalNode around values command).progress := by
  obtain ⟨payload, isShown⟩ := Option.isSome_iff_exists.mp shown
  unfold awaitApprovalNode
  rw [isShown]
  cases command with
  | none => exact .waits
  | some command =>
      cases command with
      | receipt receipt =>
          dsimp only
          unfold attachReceipt
          split_ifs
          · exact .fails .await
          · exact .fails .await
          · exact .attaches
      | decision binding =>
          dsimp only
          unfold recordDecision
          split_ifs
          · exact .fails .await
          · exact .decides
          · exact .decides

/-- The strategy node runs once, and once more for each replan that is left. -/
theorem rationed :
    (graph around).Rationed (fun node => decide (node.place = .generate))
      (fun next values => next.map Node.place = some .await → values.progress.shown = true)
      (fun next values => values.progress.allowed (next.map Node.place))
      (fun next => Progress.rank (next.map Node.place)) := by
  refine rationed_of_progress Node.place Values.progress
    (fun node values command answer shown => ?_) (fun node values => ?_)
    (fun node values isAwait free => ?_)
  · cases node with
    | strategy =>
        cases generated : answer.generated with
        | error error =>
            simp only [graph, strategyNode, generated]
            exact .fails .generate
        | ok result =>
            simp only [graph, strategyNode, generated]
            exact .generates
    | review => exact step_reviewNode values answer.reviewed
    | awaitApproval => exact step_awaitApprovalNode values command (shown rfl)
    | terminal => exact .ends
  · cases node with
    | strategy =>
        cases failed : values.phase3Error <;>
          simp [graph, route, Progress.next, Node.place, Values.progress, failed]
    | review =>
        cases failed : values.phase3Error with
        | some error => simp [graph, route, Progress.next, Node.place, Values.progress, failed]
        | none =>
            cases reviewed : values.qualityReview with
            | none =>
                simp [graph, route, Progress.next, Node.place, Values.progress, failed, reviewed]
            | some review =>
                cases valid : review.valid <;> cases repairable : review.repairable <;>
                  simp [graph, route, Progress.next, Node.place, Values.progress, failed,
                    reviewed, valid, repairable]
    | awaitApproval =>
        cases failed : values.phase3Error <;> cases decided : values.approvalBinding <;>
          simp [graph, route, Progress.next, Node.place, Values.progress, failed, decided]
    | terminal => rfl
  · cases node with
    | awaitApproval => exact Option.isSome_eq_false_iff.mpr (Option.isNone_iff_eq_none.mpr free)
    | strategy | review | terminal => cases isAwait

end Phase3

/-! ### Both phases -/

/-- In every checkpoint of a run the Content graph has spent at most its budgets. Under a budget
each content node calls the provider once at most, and a node that is still to run, or was when the
run died, is counted with the calls of the run. A call of the graph ends of its own. -/
theorem budgets_bound_the_spend (start : BoundedStart) (aroundContent : Surroundings)
    (content : Phase4.ContentSegment) (handoff : Phase4.Handoff)
    (aroundStrategy : Phase3.Surroundings) (strategy : Phase3.StrategySegment) :
    (∀ checkpoint, (content.graph aroundContent start).Reached
        (Phase4.ContentSegment.initial start handoff) checkpoint →
      (∀ budget ∈ start.tokenBudget, checkpoint.values.2.tokenBudgetUsed ≤ budget) ∧
      (∀ budget ∈ start.costBudgetUsd, checkpoint.values.2.costBudgetUsedUsd ≤ budget) ∧
      (start.isBudgeted = true →
        checkpoint.values.2.providerCalls +
            (if checkpoint.next = some .content then 1 else 0) ≤
          start.replansLimit - start.replansUsed + 1) ∧
      ∀ resume given, 3 * (start.replansLimit - start.replansUsed + 1) + 3 < given.length →
        ((content.graph aroundContent start).invoke resume checkpoint given).ended = true ∧
          (((content.graph aroundContent start).invoke resume checkpoint given).checkpoint.next =
              none ∨
            ((content.graph aroundContent start).invoke resume checkpoint
              given).checkpoint.interrupt.isSome = true)) ∧
    (start.isBudgeted = true → ∀ state resume given,
      ((content.graph aroundContent start).execute .content state resume given).2.providerCalls ≤
        state.2.providerCalls + 1) ∧
    ∀ checkpoint, (strategy.graph aroundStrategy start).Reached
        (Phase3.initialState start.toStart, 0) checkpoint →
      checkpoint.values.2 +
          (if checkpoint.next = some .strategy then strategy.maxProviderAttempts else 0) ≤
        strategy.maxProviderAttempts * (start.replansLimit - start.replansUsed + 1) ∧
      ∀ resume given, 3 * (start.replansLimit - start.replansUsed + 1) + 3 < given.length →
        ((strategy.graph aroundStrategy start).invoke resume checkpoint given).ended = true ∧
          (((strategy.graph aroundStrategy start).invoke resume checkpoint given).checkpoint.next =
              none ∨
            ((strategy.graph aroundStrategy start).invoke resume checkpoint
              given).checkpoint.interrupt.isSome = true) := by
  have rationsContent := @Phase4.rationed aroundContent
  have rationsStrategy := @Phase3.rationed aroundStrategy
  refine ⟨fun checkpoint reached => ?_, fun budgeted state resume given => ?_,
    fun checkpoint reached => ?_⟩
  · obtain ⟨tokens, cost⟩ := Phase4.ContentSegment.reached_within reached
    refine ⟨tokens, cost, fun budgeted => ?_, fun resume given enough => ?_⟩
    · have spent := @Rationed.cost_le _ _ _ _ _ _ _ _ _ _ _ _ _ _ _ checkpoint rationsContent
        Phase4.Meter.providerCalls (content.callsPerNode start)
        (fun node state meter given => Phase4.ContentSegment.serve_calls node state meter given)
        (fun never => by cases never) reached
      have once : content.callsPerNode start = 1 := if_pos budgeted
      rw [once, Nat.one_mul, Nat.one_mul] at spent
      have whole : checkpoint.values.2.providerCalls +
          checkpoint.values.1.progress.allowed (checkpoint.next.map Phase4.Node.place) ≤
            0 + (start.replansLimit - start.replansUsed + 1) := spent
      split_ifs with generates
      · rw [generates] at whole
        have oneMore : 1 ≤ checkpoint.values.1.progress.allowed (some .generate) :=
          Nat.le_add_left 1 _
        refine (Nat.add_le_add_left oneMore _).trans ?_
        rw [Nat.zero_add] at whole
        exact whole
      · omega
    · exact rationsContent.ends (fun never => by cases never) reached resume given enough
  · have calls := @Phase4.ContentSegment.serve_calls aroundContent content start .content state.1
      state.2 given
    simp only [Phase4.ContentSegment.callsPerNode, if_pos budgeted] at calls
    exact calls
  · refine ⟨?_, fun resume given enough => ?_⟩
    · have spent := @Rationed.cost_le _ _ _ _ _ _ _ _ _ _ _ _ _ _ _ checkpoint rationsStrategy id
        strategy.maxProviderAttempts
        (fun node state meter given => Phase3.StrategySegment.serve_calls node state meter given)
        (fun never => by cases never) reached
      have whole : checkpoint.values.2 + strategy.maxProviderAttempts *
          checkpoint.values.1.progress.allowed (checkpoint.next.map Phase3.Node.place) ≤
            0 + strategy.maxProviderAttempts * (start.replansLimit - start.replansUsed + 1) :=
        spent
      rw [Nat.zero_add] at whole
      refine le_trans (Nat.add_le_add_left ?_ _) whole
      split_ifs with generates
      · rw [generates]
        exact Nat.le_mul_of_pos_right _ (Nat.succ_pos _)
      · exact Nat.zero_le _
    · exact rationsStrategy.ends (fun never => by cases never) reached resume given enough

end MarketMind.Orchestration
