import MarketMind.Billing.Service
import MarketMind.Json
import MarketMind.Publishing.Contract
import MarketMind.Transactions.Table

/-!
Owns the vocabulary of strategies: the lifecycle with its transition table, the rows of the
strategy tables, what the AI service is asked and answers, and the checks that need no
database: of briefs, of plans, and of a plan that waits for approval.

Does not own when these are read or written. Left out are the texts of progress events,
and the profile and business data that only the AI service reads.
-/

namespace MarketMind.Strategy

open MarketMind.Transactions
open MarketMind.Publishing.Contract (isWhiteSpace)

/-- A row identifier. -/
abbrev Uuid := Nat

/-- Milliseconds since the epoch. -/
abbrev Instant := Int

/-! ### The lifecycle -/

inductive StrategyStatus
  | needsBrief
  | ready
  | retrieving
  | queued
  | generating
  | validating
  | draft
  | approved
  | rejected
  | failed
deriving DecidableEq, Repr

namespace StrategyStatus

/-- The status as the API writes it. -/
def text : StrategyStatus → String
  | needsBrief => "needs_brief"
  | ready => "ready"
  | retrieving => "retrieving"
  | queued => "queued"
  | generating => "generating"
  | validating => "validating"
  | draft => "draft"
  | approved => "approved"
  | rejected => "rejected"
  | failed => "failed"

end StrategyStatus

/-- `STRATEGY_ALLOWED_TRANSITIONS` -/
def strategyAllowedTransitions : StrategyStatus → List StrategyStatus
  | .needsBrief => [.ready, .failed]
  | .ready => [.retrieving, .failed]
  | .retrieving => [.queued, .failed]
  | .queued => [.generating, .failed]
  | .generating => [.validating, .failed]
  | .validating => [.draft, .failed]
  | .draft => [.approved, .rejected, .ready]
  | .approved => []
  | .rejected => [.ready]
  | .failed => [.ready]

def canTransitionStrategy (current next : StrategyStatus) : Bool :=
  next ∈ strategyAllowedTransitions current

/-! ### Briefs -/

inductive ExternalBudgetEgp
  | amount (egp : Rat)
  | range (minEgp maxEgp : Rat)
deriving DecidableEq, Repr

structure ChannelChoice where
  channel : String
  role : String
  setupState : String
  publicUrl : Option String
  publishingTargetId : Option Uuid
  note : Option String
deriving DecidableEq, Repr

structure ClarificationAnswer where
  questionId : Uuid
  questionText : String
  answerText : String
  answeredAt : Instant
deriving DecidableEq, Repr

/-- The body of a brief request after the checks of its fields. `startDate` is what `new Date`
makes of the text, if that is a date. -/
structure UpsertBriefDto where
  businessProfileVersionId : Uuid
  primaryObjective : String
  startDate : Option Instant
  planLanguage : String
  paidMediaAllowed : Bool
  externalBudgetMode : String
  externalBudgetEgpAmount : Option Rat
  externalBudgetEgpRange : Option (Option Rat × Option Rat)
  teamCapacity : Option String
  weeklyCapacity : Option String
  weeklyCapacityNote : Option String
  channelChoices : Option (List ChannelChoice)
  constraints : Option String
  clarificationAnswers : Option (List ClarificationAnswer)
deriving DecidableEq, Repr

/-- `StrategyBrief`, one for each strategy. -/
structure StrategyBrief where
  id : Uuid
  strategyId : Uuid
  businessProfileVersionId : Uuid
  primaryObjective : String
  startDate : Instant
  planLanguage : String
  paidMediaAllowed : Bool
  externalBudgetMode : String
  externalBudgetEgp : Option ExternalBudgetEgp
  teamCapacity : Option String
  weeklyCapacity : Option String
  weeklyCapacityNote : Option String
  channelChoices : Option (List ChannelChoice)
  constraints : Option String
  clarificationAnswers : List ClarificationAnswer
deriving DecidableEq, Repr

instance : Keyed StrategyBrief := ⟨StrategyBrief.strategyId⟩

/-- The columns that a request writes; a column that it leaves undefined keeps its value. -/
structure BriefData where
  businessProfileVersionId : Uuid
  primaryObjective : String
  startDate : Instant
  planLanguage : String
  paidMediaAllowed : Bool
  externalBudgetMode : String
  externalBudgetEgp : Option ExternalBudgetEgp
  teamCapacity : Option String
  constraints : Option String
  clarificationAnswers : List ClarificationAnswer
  /-- `weeklyCapacity`, `weeklyCapacityNote` and `channelChoices` of an owner-first brief. -/
  ownerFirst : Option (Option String × Option String × List ChannelChoice)
deriving DecidableEq, Repr

/-- The row that `create` makes of the data. -/
def BriefData.create (data : BriefData) (id strategyId : Uuid) : StrategyBrief where
  id
  strategyId
  businessProfileVersionId := data.businessProfileVersionId
  primaryObjective := data.primaryObjective
  startDate := data.startDate
  planLanguage := data.planLanguage
  paidMediaAllowed := data.paidMediaAllowed
  externalBudgetMode := data.externalBudgetMode
  externalBudgetEgp := data.externalBudgetEgp
  teamCapacity := data.teamCapacity
  weeklyCapacity := data.ownerFirst.bind (·.1)
  weeklyCapacityNote := data.ownerFirst.bind (·.2.1)
  channelChoices := data.ownerFirst.map (·.2.2)
  constraints := data.constraints
  clarificationAnswers := data.clarificationAnswers

/-- What `update` makes of a row. -/
def BriefData.update (data : BriefData) (row : StrategyBrief) : StrategyBrief :=
  { row with
    businessProfileVersionId := data.businessProfileVersionId
    primaryObjective := data.primaryObjective
    startDate := data.startDate
    planLanguage := data.planLanguage
    paidMediaAllowed := data.paidMediaAllowed
    externalBudgetMode := data.externalBudgetMode
    externalBudgetEgp := data.externalBudgetEgp
    teamCapacity := data.teamCapacity.or row.teamCapacity
    weeklyCapacity := (data.ownerFirst.map (·.1)).getD row.weeklyCapacity
    weeklyCapacityNote := (data.ownerFirst.map (·.2.1)).getD row.weeklyCapacityNote
    channelChoices := (data.ownerFirst.map (·.2.2)).or row.channelChoices
    constraints := data.constraints.or row.constraints
    clarificationAnswers := data.clarificationAnswers }

theorem BriefData.sameKey (data : BriefData) (row : StrategyBrief) :
    Keyed.key (data.update row) = Keyed.key row := rfl

/-- A text that is there and is not empty. -/
def truthy (value : Option String) : Bool := value.any (· ≠ "")

/-- `value?.trim()` is not empty. -/
def hasText (value : Option String) : Bool := value.any (·.toList.any (!isWhiteSpace ·))

/-- `normalizeExternalBudgetEgp` -/
def normalizeExternalBudgetEgp (amount : Option Rat) (range : Option (Option Rat × Option Rat)) :
    Option ExternalBudgetEgp :=
  match amount, range with
  | some amount, _ => some (.amount amount)
  | none, some (none, none) | none, none => none
  | none, some (minEgp, maxEgp) => some (.range (minEgp.getD 0) (maxEgp.getD 0))

def StrategyBrief.isReady (brief : StrategyBrief) : Bool :=
  brief.primaryObjective ≠ "" && brief.planLanguage ≠ "" && brief.externalBudgetMode ≠ "" &&
    (truthy brief.teamCapacity || (truthy brief.weeklyCapacity && brief.channelChoices.any (· ≠ [])))

/-! ### Rows -/

structure StrategyRow where
  id : Uuid
  businessId : Uuid
  ownerUserId : Uuid
  status : StrategyStatus
  contractVersion : String
  currentVersionId : Option Uuid
deriving DecidableEq, Repr

instance : Keyed StrategyRow := ⟨StrategyRow.id⟩

structure BusinessProfileVersion where
  id : Uuid
  businessId : Uuid
  ownerUserId : Uuid
  version : Nat
deriving DecidableEq, Repr

structure RetrievalItem where
  chunkId : String
  entryId : String
  entryVersion : Int
  reviewStatus : String
  effectiveAt : Instant
  expiresAt : Option Instant
deriving DecidableEq, Repr

/-- What the AI service writes for one retrieval. -/
structure RetrievalContent where
  status : String
  items : List RetrievalItem
  /-- The severities of the gaps. -/
  gaps : List String
deriving DecidableEq, Repr

/-- A retrieval. `queryContext` stands for the context that was made of the brief. -/
structure StrategyRetrievalRun where
  id : Uuid
  strategyId : Uuid
  queryContext : StrategyBrief
  content : RetrievalContent
deriving DecidableEq, Repr

/-- Which job produced a version. -/
inductive Origin
  | generated (retrievalRunId : Uuid)
  | revised (priorVersionId retrievalRunId : Uuid)
deriving DecidableEq, Repr

/-- A version. `origin` and `brief` are history: the job that produced it, and the brief that
the AI service was given for it. -/
structure StrategyVersion where
  id : Uuid
  strategyId : Uuid
  version : Nat
  retrievalRunId : Option Uuid
  planData : Json
  promptConfig : Json
  origin : Origin
  brief : StrategyBrief

instance : Keyed StrategyVersion := ⟨StrategyVersion.id⟩

/-- The claim keys of the two jobs. -/
def strategyCycleKey (strategyId retrievalRunId : Uuid) : String :=
  "strategy-cycle:" ++ toString strategyId ++ ":" ++ toString retrievalRunId

def strategyRevisionKey (strategyId priorVersionId retrievalRunId : Uuid) : String :=
  "strategy-revision:" ++ toString strategyId ++ ":" ++ toString priorVersionId ++ ":" ++
    toString retrievalRunId

/-- What the job that produced a version of the strategy is charged for. -/
def Origin.charge (origin : Origin) (strategyId : Uuid) : Billing.BillingMetric × String :=
  match origin with
  | generated retrievalRunId => (.strategyCycle, strategyCycleKey strategyId retrievalRunId)
  | revised priorVersionId retrievalRunId =>
      (.strategyRevision, strategyRevisionKey strategyId priorVersionId retrievalRunId)

def StrategyVersion.charge (version : StrategyVersion) : Billing.BillingMetric × String :=
  version.origin.charge version.strategyId

inductive DecisionAction
  | approve
  | reject
  | revisionRequested
  | retry
deriving DecidableEq, Repr

/-- A decision. `currentThen` is history: the version of the strategy that was current when
the decision was recorded. -/
structure StrategyDecision where
  strategyVersionId : Uuid
  ownerUserId : Uuid
  action : DecisionAction
  feedback : Option String
  currentThen : Option Uuid
deriving DecidableEq, Repr

inductive ProgressStatus
  | started
  | progress
  | complete
  | failed
deriving DecidableEq, Repr

structure StrategyProgressInput where
  stage : String
  status : ProgressStatus
  messageKey : String
  /-- `payload.retryable` -/
  retryable : Option Bool
deriving DecidableEq, Repr

structure StrategyProgressEvent extends StrategyProgressInput where
  strategyId : Uuid
  seq : Nat
deriving DecidableEq, Repr

inductive JobData
  | generate (strategyId retrievalRunId : Uuid)
  | revise (strategyId priorVersionId : Uuid) (feedback : Option String)
deriving DecidableEq, Repr

def JobData.strategyId : JobData → Uuid
  | generate strategyId _ | revise strategyId _ _ => strategyId

inductive JobState
  | waiting
  | active
  | completed
  | failed
deriving DecidableEq, Repr

structure QueuedJob where
  id : Nat
  data : JobData
  state : JobState
deriving DecidableEq, Repr

/-! ### Errors -/

/-- What axios throws. -/
structure AiError where
  status : Option Nat
  code : Option String
deriving DecidableEq, Repr

inductive StrategyError
  | badRequest (code : Option String) (message : String)
  | conflict (code : Option String) (message : String)
  | notFound (message : String)
  | unprocessable (recovery : String)
  | internal (code : String) (message : String) (retryable : Bool)
  /-- `new Error(message)` -/
  | thrown (message : String)
  | knowledgeUnavailable
  | ai (error : AiError)
  | billing (error : Billing.BillingError)
  | uniqueViolation
  | foreignKeyViolation
  | recordNotFound
  | transactionAborted
  | databaseFailure

def isRetryable : StrategyError → Bool
  | .knowledgeUnavailable => true
  | .ai error => error.status = some 503 || error.code = some "ECONNABORTED"
  | _ => false

/-! ### Checks of a brief -/

def channelSetupStates : List String := ["connected", "existing_link", "setup_later"]

/-- One choice of the list that `assertValidChannelChoices` walks; positions count from one. -/
def assertValidChannelChoice (position : Nat) (choice : ChannelChoice) : Except StrategyError Unit :=
  if choice.setupState ∉ channelSetupStates then
    .error (.badRequest none
      ("Unsupported setup state '" ++ choice.setupState ++ "' for channel " ++ toString position ++ "."))
  else if choice.setupState ≠ "existing_link" ∧ truthy choice.publicUrl then
    .error (.badRequest none "A public URL is only allowed for an existing_link setup state.")
  else if choice.setupState = "existing_link" ∧ hasText choice.publicUrl = false then
    .error (.badRequest none "An existing_link choice requires an owner-managed public URL.")
  else if choice.setupState ≠ "connected" ∧ choice.publishingTargetId.isSome then
    .error (.badRequest none "A publishing target is only allowed for a connected setup state.")
  else if choice.setupState = "connected" ∧ choice.publishingTargetId.isNone then
    .error (.badRequest none "A connected setup state requires a publishing target.")
  else .ok ()

def assertEachChannelChoice (position : Nat) : List ChannelChoice → Except StrategyError Unit
  | [] => .ok ()
  | choice :: rest =>
      match assertValidChannelChoice position choice with
      | .error error => .error error
      | .ok () => assertEachChannelChoice (position + 1) rest

def assertValidChannelChoices (choices : List ChannelChoice) : Except StrategyError Unit :=
  if choices.length < 1 ∨ 3 < choices.length then
    .error (.badRequest none "An owner-first Strategy brief must contain 1 to 3 channel choices.")
  else if ¬(choices.map ChannelChoice.channel).Nodup then
    .error (.badRequest none "Channel choices must be unique.")
  else if (choices.filter (·.role = "primary")).length ≠ 1 then
    .error (.badRequest none "Exactly one primary channel must be selected.")
  else if 2 < (choices.filter (·.role = "supporting")).length then
    .error (.badRequest none "At most two supporting channels may be selected.")
  else assertEachChannelChoice 1 choices

/-- What `TargetsService.getTarget` tells of a publishing target, and whether it has expired. -/
structure TargetProjection where
  channel : String
  connectionState : String
  expired : Bool
  capabilities : List String
deriving DecidableEq, Repr

def strategyTargetUnavailable (recovery : String) : StrategyError := .unprocessable recovery

/-- The text without the blanks around it, in lower case. -/
def normalized (text : String) : String :=
  let trimmed := (text.toList.dropWhile isWhiteSpace).reverse.dropWhile isWhiteSpace
  String.ofList (trimmed.reverse.map Char.toLower)

/-- The target of a connected choice is still usable for the channel. -/
def assertUsableTarget (choice : ChannelChoice) (target : Option TargetProjection) :
    Except StrategyError Unit :=
  match target with
  | none => .error (strategyTargetUnavailable "choose_target")
  | some target =>
      if normalized target.channel ≠ normalized choice.channel then
        .error (strategyTargetUnavailable "choose_target")
      else if normalized target.connectionState ≠ "connected" ∨ target.expired = true then
        .error (strategyTargetUnavailable "reconnect")
      else if "static_image" ∉ target.capabilities then
        .error (strategyTargetUnavailable "choose_target")
      else .ok ()

/-- Paid media with a concrete budget mode needs an amount or a range. -/
def assertBudget (dto : UpsertBriefDto) : Except StrategyError Unit :=
  if dto.paidMediaAllowed = true ∧
      (dto.externalBudgetMode = "monthly_amount" ∨ dto.externalBudgetMode = "three_month_amount") ∧
      dto.externalBudgetEgpAmount = none ∧ dto.externalBudgetEgpRange = none then
    .error (.badRequest none
      "externalBudgetEgpAmount or externalBudgetEgpRange is required when paidMediaAllowed is true and externalBudgetMode is monthly_amount or three_month_amount")
  else .ok ()

/-- The data that an accepted request writes. -/
def UpsertBriefDto.data (dto : UpsertBriefDto) (startDate : Instant) (isV2 : Bool) : BriefData where
  businessProfileVersionId := dto.businessProfileVersionId
  primaryObjective := dto.primaryObjective
  startDate
  planLanguage := dto.planLanguage
  paidMediaAllowed := dto.paidMediaAllowed
  externalBudgetMode := dto.externalBudgetMode
  externalBudgetEgp :=
    normalizeExternalBudgetEgp dto.externalBudgetEgpAmount dto.externalBudgetEgpRange
  teamCapacity := dto.teamCapacity
  constraints := dto.constraints
  clarificationAnswers := dto.clarificationAnswers.getD []
  ownerFirst :=
    if isV2 then
      some (dto.weeklyCapacity, dto.weeklyCapacityNote, dto.channelChoices.getD [])
    else none

/-! ### Retrievals and plans -/

/-- `strategyRetrievalRunIsUsable` of a run that was found. -/
def StrategyRetrievalRun.isUsable (run : StrategyRetrievalRun) : Bool :=
  run.content.status = "completed" && run.content.items ≠ [] && "blocking" ∉ run.content.gaps

def strategyRetrievalRunIsUsable (run : Option StrategyRetrievalRun) : Bool :=
  run.any StrategyRetrievalRun.isUsable

/-- `toPayload` -/
def toPayload (value : Option Json) : List (String × Json) := (value.bind Json.fields?).getD []

/-- `Array.isArray(value) ? value : []` -/
def items (value : Option Json) : List Json :=
  match value with
  | some (.array items) => items
  | _ => []

/-- `value.severity === "blocking"` for an object. -/
def isBlocking (blocker : Json) : Bool :=
  match Json.get (toPayload (some blocker)) "severity" with
  | some (.string severity) => severity = "blocking"
  | _ => false

def requiredPlanFields : List String :=
  ["id", "strategy_id", "version", "contract_version", "brief_id", "retrieval_run_id",
    "executive_summary", "situation_diagnosis", "primary_objective", "selected_channels",
    "all_channel_scores", "content_strategy", "budget_mode", "kpi_targets", "citations",
    "created_at"]

def requiredPlanV2Fields : List String :=
  ["id", "strategy_id", "version", "contract_version", "brief_id", "retrieval_run_id", "goal",
    "primary_objective", "funnel_stage", "plan_language", "start_date", "calendar_weeks",
    "owner_advice", "channel_commitments", "evidence_summary", "risks", "knowledge_gaps",
    "blockers", "citations", "content_handoff", "created_at"]

def isArray : Option Json → Bool
  | some (.array _) => true
  | _ => false

def isMissing : Option Json → Bool
  | none | some .null => true
  | _ => false

/-- The fields that have to be arrays. -/
def assertArrays (plan : List (String × Json)) : List String → Except StrategyError Unit
  | [] => .ok ()
  | field :: rest =>
      if isArray (Json.get plan field) = false then
        .error (.badRequest none
          ("AI generation service returned an invalid plan: " ++ field ++ " must be an array"))
      else assertArrays plan rest

def validatePlanShape (planData : Json) : Except StrategyError Unit :=
  match planData.fields? with
  | none =>
      .error (.badRequest none
        "AI generation service returned an invalid plan: expected a JSON object")
  | some plan =>
      let isV2 := match Json.get plan "contract_version" with
        | some (.string version) => version == "strategy-v2"
        | _ => false
      let required := if isV2 then requiredPlanV2Fields else requiredPlanFields
      let missing := required.filter fun field => isMissing (Json.get plan field)
      if missing ≠ [] then
        .error (.badRequest none
          ("AI generation service returned an incomplete plan: missing fields [" ++
            ", ".intercalate missing ++ "]"))
      else if isV2 then assertArrays plan ["calendar_weeks", "channel_commitments", "citations"]
      else assertArrays plan ["selected_channels", "kpi_targets", "citations"]

/-- A text under the name. -/
def hasString (fields : List (String × Json)) (name : String) : Bool :=
  match Json.get fields name with
  | some (.string _) => true
  | _ => false

def isTrue : Option Json → Bool
  | some (.boolean flag) => flag
  | _ => false

def isBoolean : Option Json → Bool
  | some (.boolean _) => true
  | _ => false

def assertStrategyValidationPassed (validation : Option Json) : Except StrategyError Unit :=
  let result := toPayload validation
  let issues := items (Json.get result "issues")
  if isBoolean (Json.get result "valid") = false ∨ isArray (Json.get result "issues") = false then
    .error (.thrown "AI generation service returned no valid validation result")
  else if issues.any fun issue =>
      !(["code", "field", "message"].all (hasString (toPayload (some issue)))) then
    .error (.thrown "AI generation service returned malformed validation issues")
  else if issues.any fun issue =>
      match Json.get (toPayload (some issue)) "code" with
      | some (.string code) => code == "STRATEGY_LANGUAGE_MISMATCH"
      | _ => false then
    .error (.thrown "AI generation service returned a plan that failed the language gate")
  else if isTrue (Json.get result "valid") = false then
    .error (.thrown "AI generation service returned a plan that failed Strategy validation")
  else .ok ()

/-- A plan with a blocking blocker is never shown as a draft. The codes of the blockers in
the message are left out. -/
def assertPlanApprovable (planData : Json) : Except StrategyError Unit :=
  match planData.fields? with
  | none => .error (.thrown "AI generation service returned no plan")
  | some plan =>
      if (items (Json.get plan "blockers")).any isBlocking then
        .error (.thrown
          "AI generation service returned a plan that cannot be approved (blocking blockers present)")
      else .ok ()

/-- What the AI service answers to a generation or a revision. -/
structure PlanReply where
  plan : Option Json
  validation : Option Json
  promptConfig : Option Json

/-- The boundary check of `callAiGeneration`; `noPlan` is the message for a missing plan. -/
def PlanReply.validated (reply : PlanReply) (noPlan : String) : Except StrategyError Json :=
  match reply.plan with
  | none | some .null => .error (.thrown noPlan)
  | some planData => do
      validatePlanShape planData
      assertStrategyValidationPassed reply.validation
      assertPlanApprovable planData
      return planData

/-- The plan with the identity that the database gives it. -/
def canonicalPlanData (planData : Json) (strategyId : Uuid) (version : Nat)
    (retrievalRunId : Option Uuid) : Json :=
  let plan := (planData.fields?).getD []
  let named := Json.assign "version" (.number (.integer version))
    (Json.assign "strategy_id" (.string (toString strategyId)) plan)
  match retrievalRunId with
  | none => .object named
  | some run => .object (Json.assign "retrieval_run_id" (.string (toString run)) named)

/-! ### Approval -/

/-- The approved item of the run that counts for a chunk at this time. -/
def eligibleItem (run : RetrievalContent) (now : Instant) (chunkId : String) :
    Option RetrievalItem :=
  (run.items.filter fun item =>
    item.reviewStatus = "approved" && item.effectiveAt ≤ now &&
      item.expiresAt.all (now < ·)).reverse.find? (·.chunkId = chunkId)

def citationResolves (run : RetrievalContent) (now : Instant) (citation : Json) : Bool :=
  let fields := toPayload (some citation)
  match Json.get fields "chunk_id", Json.get fields "entry_id", Json.get fields "entry_version" with
  | some (.string chunkId), some (.string entryId), some (.number (.integer entryVersion)) =>
      (eligibleItem run now chunkId).any fun item =>
        item.entryId = entryId ∧ item.entryVersion = entryVersion
  | _, _, _ => false

/-- The checks of `assertApprovalReady` after the profile's. -/
def assertPlanReady (plan : Json) : Except StrategyError Unit :=
  if (items (Json.get (toPayload (some plan)) "blockers")).any isBlocking then
    .error (.badRequest (some "STRATEGY_APPROVAL_BLOCKED")
      "Resolve every blocking Strategy item before approval.")
  else .ok ()

def assertCitationsResolve (plan : Json) (run : Option StrategyRetrievalRun) (now : Instant) :
    Except StrategyError Unit :=
  match run with
  | none =>
      .error (.badRequest (some "STRATEGY_RETRIEVAL_FAILURE")
        "The persisted retrieval pack for this draft is unavailable.")
  | some run =>
      if run.content.status ≠ "completed" then
        .error (.badRequest (some "STRATEGY_RETRIEVAL_FAILURE")
          "The persisted retrieval pack for this draft is unavailable.")
      else
        let citations := items (Json.get (toPayload (some plan)) "citations")
        if citations ≠ [] ∧ citations.all (citationResolves run.content now) = true then .ok ()
        else
          .error (.badRequest (some "STRATEGY_INVALID_CITATION")
            "Every Strategy citation must resolve to approved, current knowledge in its persisted retrieval pack.")

/-! ### The AI service -/

/-- What a request for a retrieval leaves behind: the run that was stored, if any, and the
answer, which names that run or is an error; a request that timed out may have stored one. -/
structure RetrieveReply where
  stored : Option RetrievalContent
  answer : Except AiError Unit

/-- The AI service, which is code of another deployment. `choice` is what the service makes
up: its models, its knowledge base and its failures. -/
structure AiService where
  retrieve : (choice : Nat) → StrategyBrief → RetrieveReply
  /-- Whether the answer carries a list of channel scores. -/
  score : (choice : Nat) → StrategyBrief → StrategyRetrievalRun → Except AiError Bool
  generate : (choice : Nat) → StrategyBrief → StrategyRetrievalRun → Except AiError PlanReply
  revise : (choice : Nat) → StrategyBrief → StrategyRetrievalRun → (previousPlan : Json) →
    (revisionNotes : String) → Except AiError PlanReply

/-- What strategies meet outside their own tables. -/
structure Surroundings where
  ai : AiService
  /-- The publishing target of a business, as `getTarget` tells of it. -/
  getTarget : (choice : Nat) → (targetId businessId : Uuid) → Option TargetProjection
  /-- `isProviderCostCircuitBreakerOpen` -/
  circuitOpen : (choice : Nat) → (ownerUserId : Uuid) → Bool

/-! ### A service to run with, and a brief -/

def plainBrief (primaryObjective : String) : UpsertBriefDto where
  businessProfileVersionId := 0
  primaryObjective
  startDate := some 0
  planLanguage := "en"
  paidMediaAllowed := false
  externalBudgetMode := "none"
  externalBudgetEgpAmount := none
  externalBudgetEgpRange := none
  teamCapacity := none
  weeklyCapacity := some "2h"
  weeklyCapacityNote := none
  channelChoices := some [⟨"instagram", "primary", "setup_later", none, none, none⟩]
  constraints := none
  clarificationAnswers := none

/-- A retrieval with one approved item. -/
def plainRetrieval : RetrievalContent :=
  ⟨"completed", [⟨"chunk", "entry", 1, "approved", 0, none⟩], []⟩

/-- A plan that cites that item. -/
def plainPlan : Json :=
  .object (requiredPlanV2Fields.map fun field =>
    (field,
      if field = "contract_version" then .string "strategy-v2"
      else if field ∈ ["calendar_weeks", "channel_commitments", "blockers"] then .array []
      else if field = "citations" then
        .array [.object [("chunk_id", .string "chunk"), ("entry_id", .string "entry"),
          ("entry_version", .number (.integer 1))]]
      else .string ""))

def plainReply : PlanReply :=
  ⟨some plainPlan, some (.object [("valid", .boolean true), ("issues", .array [])]), none⟩

/-- A service that answers well, but is down under the choice 1. -/
def plainService : AiService where
  retrieve choice _ :=
    if choice = 1 then ⟨none, .error ⟨some 503, none⟩⟩ else ⟨some plainRetrieval, .ok ()⟩
  score choice _ _ := if choice = 1 then .error ⟨some 503, none⟩ else .ok true
  generate choice _ _ := if choice = 1 then .error ⟨some 503, none⟩ else .ok plainReply
  revise choice _ _ _ _ := if choice = 1 then .error ⟨some 503, none⟩ else .ok plainReply

/-- No publishing targets; the monthly cost limit is met under the choice 2. -/
def plainSurroundings : Surroundings := ⟨plainService, fun _ _ _ => none, fun choice _ => choice = 2⟩

end MarketMind.Strategy
