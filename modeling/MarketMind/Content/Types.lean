import MarketMind.Billing.Entitlements
import MarketMind.Json
import MarketMind.Publishing.Contract
import MarketMind.Transactions.Table

/-!
Owns the vocabulary of weekly content: the cycle of twelve weeks, the context and the plan of a
week, the pack that is generated for it with its items, and the instructions that an optimization
hands to a later week.

Does not own when these are read or written. Left out are the cutoff times, by which the scheduler
chooses when to advance a cycle, and the editorial settings, media and prompts that only the AI
service reads.
-/

namespace MarketMind.Content

open MarketMind.Transactions
open MarketMind.Publishing.Contract (isWhiteSpace)

/-- A row identifier. -/
abbrev Uuid := Nat

/-- Milliseconds since the epoch. -/
abbrev Instant := Int

inductive ContentError
  | notFound (message : String)
  | badRequest (code : Option String) (message : String)
  | conflict (code message : String)
  /-- `ProviderError` -/
  | provider (code message : String) (retryable : Bool)
  | billing (error : Billing.BillingError)
  | thrown (message : String)
  /-- P2002 -/
  | uniqueViolation
  | foreignKeyViolation
  /-- P2025 -/
  | recordNotFound
  | transactionAborted
  | databaseFailure
deriving DecidableEq

/-- `isUniqueViolation` -/
def isUniqueViolation : ContentError → Bool
  | .uniqueViolation => true
  | _ => false

/-- `CONTENT_WEEK_COUNT` -/
def contentWeekCount : Nat := 12

/-! ### Cycles -/

inductive CycleStatus
  | active
  | paused
  | completed
deriving DecidableEq, Repr

inductive ContractVersion
  | contentV1
  | contentV2
deriving DecidableEq, Repr

structure ContentCycle where
  id : Uuid
  contractVersion : ContractVersion
  businessId : Uuid
  strategyId : Uuid
  strategyVersion : Nat
  strategyDecisionId : Uuid
  profileVersionId : Uuid
  ownerUserId : Uuid
  status : CycleStatus
  currentWeekNumber : Nat
  pauseReason : Option String
deriving DecidableEq, Repr

instance : Keyed ContentCycle := ⟨ContentCycle.id⟩

/-- What a cycle is created for. -/
structure CreateContentCycleInput where
  contractVersion : ContractVersion
  businessId : Uuid
  strategyId : Uuid
  strategyVersion : Nat
  strategyDecisionId : Uuid
  profileVersionId : Uuid
deriving DecidableEq, Repr

/-- The row of a new cycle; the columns that the request leaves out have their defaults. -/
def CreateContentCycleInput.row (input : CreateContentCycleInput) (id ownerUserId : Uuid) :
    ContentCycle where
  id
  contractVersion := input.contractVersion
  businessId := input.businessId
  strategyId := input.strategyId
  strategyVersion := input.strategyVersion
  strategyDecisionId := input.strategyDecisionId
  profileVersionId := input.profileVersionId
  ownerUserId
  status := .active
  currentWeekNumber := 1
  pauseReason := none

/-! ### Week contexts -/

inductive ContextSource
  | ownerConfirmed
  | systemDefaulted
deriving DecidableEq, Repr

/-- What an owner says about a week. -/
structure WeekContextContent where
  promotionMode : String
  promotion : Option Json
  mustInclude : Json
  mustAvoid : Json
  approvedAssetIds : Json
  ctaDestination : Json
  confirmedByUserId : Option Uuid
deriving DecidableEq

structure ContentWeekContext where
  id : Uuid
  contentCycleId : Uuid
  weekNumber : Nat
  weeklyClaimId : Uuid
  contextSource : ContextSource
  content : WeekContextContent
  frozenAt : Option Instant
deriving DecidableEq

instance : Keyed ContentWeekContext := ⟨ContentWeekContext.id⟩

/-- The context of a week for which the owner said nothing. -/
def structuralContent : WeekContextContent where
  promotionMode := "none"
  promotion := none
  mustInclude := .array []
  mustAvoid := .array []
  approvedAssetIds := .array []
  ctaDestination := .object [("type", .string "none"), ("value", .null)]
  confirmedByUserId := none

/-! ### Week plans -/

inductive PlanStatus
  | draft
  | frozen
deriving DecidableEq, Repr

inductive PlanSource
  | planner
  | owner
deriving DecidableEq, Repr

inductive PlanState
  | planned
  | generating
  | ready
  | failed
deriving DecidableEq, Repr

structure PostPlanInput where
  position : Nat
  purpose : String
  intendedAudience : Option String
  channel : String
  format : String
  ctaLibraryEntryId : Option Uuid
  ownerInstructions : Option String
  visualDirection : Option String
  selectedMediaIds : List Uuid
  source : PlanSource
deriving DecidableEq, Repr

structure ContentPostPlan where
  id : Uuid
  contentWeekPlanId : Uuid
  input : PostPlanInput
  planState : PlanState
  contentItemId : Option Uuid
deriving DecidableEq, Repr

instance : Keyed ContentPostPlan := ⟨ContentPostPlan.id⟩

inductive OptimizationFormat
  | textPost
  | staticImagePost
deriving DecidableEq, Repr

def OptimizationFormat.text : OptimizationFormat → String
  | textPost => "text_post"
  | staticImagePost => "static_image_post"

inductive OptimizationChangeKind
  | hookStyle
  | ctaWordingStyle
deriving DecidableEq, Repr

/-- What a pack is told of an approved instruction. -/
structure OptimizationGuidance where
  instructionId : Uuid
  proposalId : Uuid
  approvedDecisionId : Uuid
  evidenceChecksum : String
  formatCohort : OptimizationFormat
  changeKind : OptimizationChangeKind
  instruction : String
deriving DecidableEq, Repr

/-- The snapshot that a plan is frozen with. -/
structure FrozenInput where
  weekPlanId : Uuid
  contentCycleId : Uuid
  weekNumber : Nat
  postPlans : List ContentPostPlan
  optimizationGuidance : Option OptimizationGuidance
  weeklyClaimId : Uuid
deriving DecidableEq, Repr

/-- A week plan. `updates` counts the updates of the row, as `updatedAt` tells them apart. -/
structure ContentWeekPlan where
  id : Uuid
  contentCycleId : Uuid
  weekNumber : Nat
  status : PlanStatus
  frozenInput : Option FrozenInput
  updates : Nat
deriving DecidableEq, Repr

instance : Keyed ContentWeekPlan := ⟨ContentWeekPlan.id⟩

/-- Post plans by their positions. -/
def byPosition (rows : List ContentPostPlan) : List ContentPostPlan :=
  rows.insertionSort fun left right => left.input.position ≤ right.input.position

/-- The channels, formats and libraries that the posts of a week may draw on. -/
structure WeekLibraries where
  channels : List String
  formats : List String
  activeCtaIds : List Uuid
  readyMediaIds : List Uuid

def validatePostPlan (libraries : WeekLibraries) (plan : PostPlanInput) : Except ContentError Unit :=
  if plan.channel ∉ libraries.channels then
    .error (.badRequest (some "CONTENT_SCHEMA_FAILURE")
      ("Channel " ++ plan.channel ++ " is not in the approved Strategy handoff."))
  else if plan.format ∉ libraries.formats then
    .error (.badRequest (some "CONTENT_SCHEMA_FAILURE")
      ("Format " ++ plan.format ++ " is not approved for this week."))
  else if plan.ctaLibraryEntryId.any (· ∉ libraries.activeCtaIds) = true then
    .error (.badRequest (some "CONTENT_SCHEMA_FAILURE")
      "A post plan references a missing or inactive CTA.")
  else if plan.selectedMediaIds.any (· ∉ libraries.readyMediaIds) = true then
    .error (.badRequest (some "CONTENT_SCHEMA_FAILURE")
      "A post plan references missing, revoked, or unready media.")
  else .ok ()

def validatePostPlans (libraries : WeekLibraries) : List PostPlanInput → Except ContentError Unit
  | [] => .ok ()
  | plan :: rest =>
      match validatePostPlan libraries plan with
      | .error error => .error error
      | .ok () => validatePostPlans libraries rest

/-! ### Optimization instructions -/

inductive InstructionStatus
  | pendingConsumption
  | consumed
  | superseded
deriving DecidableEq, Repr

structure ApprovedOptimizationInstruction where
  id : Uuid
  proposalId : Uuid
  approvedDecisionId : Uuid
  businessId : Uuid
  strategyId : Uuid
  strategyVersion : Nat
  contentCycleId : Uuid
  formatCohort : OptimizationFormat
  evidenceChecksum : String
  changeKind : OptimizationChangeKind
  instruction : String
  status : InstructionStatus
  consumedContentPackId : Option Uuid
  consumedWeekPlanId : Option Uuid
deriving DecidableEq, Repr

instance : Keyed ApprovedOptimizationInstruction := ⟨ApprovedOptimizationInstruction.id⟩

/-- The guidance that a pack carries for an instruction. -/
def ApprovedOptimizationInstruction.guidance (instruction : ApprovedOptimizationInstruction) :
    OptimizationGuidance where
  instructionId := instruction.id
  proposalId := instruction.proposalId
  approvedDecisionId := instruction.approvedDecisionId
  evidenceChecksum := instruction.evidenceChecksum
  formatCohort := instruction.formatCohort
  changeKind := instruction.changeKind
  instruction := instruction.instruction

structure OptimizationProposal where
  id : Uuid
  businessId : Uuid
  strategyId : Uuid
  strategyVersion : Nat
  contentCycleId : Uuid
  formatCohort : OptimizationFormat
  evidenceChecksum : String
  changeKind : OptimizationChangeKind
  instruction : String
deriving DecidableEq, Repr

instance : Keyed OptimizationProposal := ⟨OptimizationProposal.id⟩

inductive OptimizationDecisionAction
  | approve
  | reject
deriving DecidableEq, Repr

structure OptimizationDecision where
  id : Uuid
  proposalId : Uuid
  action : OptimizationDecisionAction
  ownerUserId : Uuid
  idempotencyKey : String
  requestFingerprint : String
deriving DecidableEq, Repr

instance : Keyed OptimizationDecision := ⟨OptimizationDecision.id⟩

structure CreateOptimizationDecisionInput where
  ownerUserId : Uuid
  businessId : Uuid
  proposalId : Uuid
  evidenceChecksum : String
  action : OptimizationDecisionAction
  idempotencyKey : String
  requestFingerprint : String
deriving DecidableEq, Repr

/-! ### Packs -/

inductive PackStatus
  | queued
  | generating
  | validating
  | draft
  | partiallyApproved
  | approved
  | failed
deriving DecidableEq, Repr

/-- `CONTENT_PACK_ALLOWED_TRANSITIONS` -/
def contentPackAllowedTransitions : PackStatus → List PackStatus
  | .queued => [.generating, .failed]
  | .generating => [.validating, .failed]
  | .validating => [.draft, .failed]
  | .draft => [.partiallyApproved, .approved]
  | .partiallyApproved => [.approved]
  | .approved => []
  | .failed => [.queued]

def canTransitionContentPack (current next : PackStatus) : Bool :=
  next ∈ contentPackAllowedTransitions current

/-- The status as the API writes it. -/
def PackStatus.text : PackStatus → String
  | queued => "queued"
  | generating => "generating"
  | validating => "validating"
  | draft => "draft"
  | partiallyApproved => "partially_approved"
  | approved => "approved"
  | failed => "failed"

/-- `isCompletedPackStatus` -/
def isCompletedPackStatus (status : PackStatus) : Bool :=
  status ∈ [PackStatus.draft, .partiallyApproved, .approved]

structure ContentPack where
  id : Uuid
  contractVersion : ContractVersion
  contentCycleId : Uuid
  weeklyClaimId : Uuid
  weekNumber : Nat
  businessId : Uuid
  strategyId : Uuid
  strategyVersion : Nat
  strategyDecisionId : Uuid
  profileVersionId : Uuid
  weekContextId : Uuid
  weekPlanId : Option Uuid
  status : PackStatus
  retryEligible : Bool
  itemIds : List Uuid
deriving DecidableEq, Repr

instance : Keyed ContentPack := ⟨ContentPack.id⟩

/-! ### Items -/

/-- What the AI service hands over for one item. `body` stands for its texts and traces. -/
structure ContentItemVersionDraft where
  id : Uuid
  contentItemId : Uuid
  channel : String
  format : String
  assetRequired : Bool
  assetIds : List Uuid
  versionChecksum : String
  body : Json
deriving DecidableEq

structure ContentItem where
  id : Uuid
  contentPackId : Uuid
  currentVersionId : Option Uuid
deriving DecidableEq, Repr

instance : Keyed ContentItem := ⟨ContentItem.id⟩

structure ContentItemVersion where
  contentPackId : Uuid
  version : Nat
  draft : ContentItemVersionDraft
deriving DecidableEq

instance : Keyed ContentItemVersion := ⟨fun version => version.draft.id⟩

/-! ### Jobs -/

/-- A job identity, as the text that is put together of these parts. -/
inductive JobId
  /-- `generate-content-` or `generate-content-v2-` with the pack. -/
  | generate (contractVersion : ContractVersion) (packId : Uuid)
  /-- The same with the correlation of an owner's retry. -/
  | retry (packId correlationId : Uuid)
  /-- `regenerate-content-v2-` -/
  | regenerate (packId correlationId : Uuid)
deriving DecidableEq, Repr

structure GenerateJobData where
  contractVersion : ContractVersion
  contentCycleId : Uuid
  weekNumber : Nat
  contentPackId : Uuid
deriving DecidableEq, Repr

inductive JobState
  | waiting
  | delayed
  | active
  | completed
  | failed
deriving DecidableEq, Repr

/-- A job of the queue, which keeps its jobs. -/
structure QueuedJob where
  jobId : JobId
  data : GenerateJobData
  attemptsMade : Nat
  state : JobState
deriving DecidableEq, Repr

inductive OutboxState
  | pending
  | processing
  | dispatched
  | failed
deriving DecidableEq, Repr

structure ContentJobOutbox where
  id : Uuid
  jobId : JobId
  payload : GenerateJobData
  state : OutboxState
  attempts : Nat
  leaseOwner : Option Uuid
  leaseExpiresAt : Option Instant
  nextAttemptAt : Option Instant
deriving DecidableEq, Repr

instance : Keyed ContentJobOutbox := ⟨ContentJobOutbox.id⟩

/-- `attempts` of the jobs. -/
def maxAttempts : Nat := 3

inductive ProgressStatus
  | started
  | complete
  | failed
deriving DecidableEq, Repr

structure ContentProgressEvent where
  contentPackId : Uuid
  seq : Nat
  stage : String
  status : ProgressStatus
deriving DecidableEq, Repr

/-! ### Surroundings -/

/-- The answer of the AI service: the pack that it is for, and the versions. -/
structure GeneratedReply where
  packId : Uuid
  itemVersions : List ContentItemVersionDraft

/-- What content meets outside its own tables; `choice` is what that code makes up. -/
structure Surroundings where
  libraries : (choice : Nat) → (cycleId : Uuid) → (weekNumber : Nat) → WeekLibraries
  /-- What a week has whose context nobody confirmed. -/
  safeDefault : (choice : Nat) → (cycleId : Uuid) → WeekContextContent
  /-- Whether the strategy, the profile and the context of a pack are there. -/
  hasInputs : (choice : Nat) → ContentPack → Bool
  generate : (choice : Nat) → ContentPack → Option FrozenInput → Except ContentError GeneratedReply
  /-- Identity, normalization and policy of a `content-v1` answer. -/
  normalize : ContentPack → GeneratedReply → Except ContentError (List ContentItemVersionDraft)
  /-- `isProviderCostCircuitBreakerOpen` -/
  circuitOpen : (choice : Nat) → (ownerUserId : Uuid) → Bool

end MarketMind.Content
