import MarketMind.Graphs.StateGraph
import MarketMind.Json

/-!
Owns the shared contracts of the agent graphs: the lifecycle of a run, the commands that start and
resume it, and the orchestration state that a checkpoint carries.

Does not own the graphs. Left out are the inputs and the times that no node reads.
-/

namespace MarketMind.Orchestration

/-- The identifier of a run, an owner or an artifact. -/
abbrev Uuid := Nat

/-! ### The lifecycle of a run -/

inductive OrchestrationStatus
  | queued
  | running
  | awaitingStrategyApproval
  | awaitingContentApproval
  | completed
  | failed
  | cancelled
deriving DecidableEq, Repr

/-- `ORCHESTRATION_ALLOWED_TRANSITIONS` -/
def allowedTransitions : OrchestrationStatus → List OrchestrationStatus
  | .queued => [.running, .cancelled, .failed]
  | .running =>
      [.awaitingStrategyApproval, .awaitingContentApproval, .completed, .failed, .cancelled]
  | .awaitingStrategyApproval => [.running, .cancelled, .failed]
  | .awaitingContentApproval => [.running, .cancelled, .failed]
  | .completed => []
  | .failed => []
  | .cancelled => []

/-- `canTransitionOrchestrationRun` -/
def canTransition (current next : OrchestrationStatus) : Bool :=
  (allowedTransitions current).contains next

inductive OrchestrationRole
  | research
  | strategy
  | content
deriving DecidableEq, Repr

inductive OrchestrationStage
  | strategy
  | strategyApproval
  | content
  | contentApproval
  | complete
  | failed
  | cancelled
deriving DecidableEq, Repr

/-! ### Commands -/

inductive Decision
  | approved
  | rejected
  | revisionRequested
deriving DecidableEq, Repr

/-- `decision` as its contract spells it. -/
def Decision.text : Decision → String
  | approved => "approved"
  | rejected => "rejected"
  | revisionRequested => "revision_requested"

structure StrategyDecisionBinding where
  runId : Uuid
  businessId : Uuid
  strategyId : Uuid
  strategyVersionId : Uuid
  strategyVersion : Nat
  strategyChecksum : String
  decisionId : Uuid
  decision : Decision
  decidedByUserId : Uuid
  decidedAt : String
deriving DecidableEq, Repr

structure ContentDecisionBinding where
  runId : Uuid
  businessId : Uuid
  contentCycleId : Uuid
  contentPackId : Uuid
  contentItemId : Uuid
  contentItemVersionId : Uuid
  contentItemVersion : Nat
  contentItemVersionChecksum : String
  decisionId : Uuid
  decision : Decision
  decidedByUserId : Uuid
  decidedAt : String
deriving DecidableEq, Repr

inductive DecisionBinding
  | strategy (binding : StrategyDecisionBinding)
  | content (binding : ContentDecisionBinding)
deriving DecidableEq, Repr

def DecisionBinding.runId : DecisionBinding → Uuid
  | strategy binding => binding.runId
  | content binding => binding.runId

def DecisionBinding.businessId : DecisionBinding → Uuid
  | strategy binding => binding.businessId
  | content binding => binding.businessId

/-- `CampaignOrchestrationStartV1` -/
structure Start where
  runId : Uuid
  correlationId : String
  ownerUserId : Uuid
  businessId : Uuid
  strategyId : Uuid
  replansUsed : Nat
  replansLimit : Nat
deriving DecidableEq, Repr

/-- `CampaignOrchestrationResumeV1`, with what its validator demands. -/
structure Resume where
  runId : Uuid
  checkpointThreadId : Uuid
  correlationId : String
  idempotencyKey : String
  ownerUserId : Uuid
  businessId : Uuid
  decisionBinding : DecisionBinding
  sameThread : checkpointThreadId = runId
  sameRun : decisionBinding.runId = runId
  sameBusiness : decisionBinding.businessId = businessId
  keyGiven : idempotencyKey ≠ ""

/-! ### The orchestration state -/

structure StrategyState where
  draftId : Option Uuid
  versionId : Option Uuid
  version : Option Nat
  checksum : Option String
  validationValid : Option Bool
  pendingDecision : Bool
  decisionBinding : Option StrategyDecisionBinding
deriving DecidableEq, Repr

structure ContentState where
  cycleId : Option Uuid
  packId : Option Uuid
  itemId : Option Uuid
  itemVersionId : Option Uuid
  itemVersion : Option Nat
  checksum : Option String
  validationValid : Option Bool
  pendingDecision : Bool
  decisionBinding : Option ContentDecisionBinding
deriving DecidableEq, Repr

structure Audit where
  promptVersions : List String
  providerVersions : List String
  actionSummaries : List String
  stableErrors : List String
deriving DecidableEq, Repr

/-- `CampaignOrchestrationStateV1` -/
structure State where
  runId : Uuid
  correlationId : String
  ownerUserId : Uuid
  businessId : Uuid
  /-- `immutable_input.strategy_id` -/
  strategyId : Uuid
  status : OrchestrationStatus
  currentRole : Option OrchestrationRole
  currentStage : OrchestrationStage
  strategy : StrategyState
  content : ContentState
  replansUsed : Nat
  replansLimit : Nat
  audit : Audit
deriving DecidableEq, Repr

/-- The summary and the error that `_replace_orchestration` adds. -/
def State.noted (state : State) (summary : String) (stableError : Option String) : State :=
  { state with
    audit :=
      { state.audit with
        actionSummaries :=
          if summary = "" then state.audit.actionSummaries
          else state.audit.actionSummaries ++ [summary]
        stableErrors :=
          match stableError with
          | none => state.audit.stableErrors
          | some code =>
              if code ∈ state.audit.stableErrors then state.audit.stableErrors
              else state.audit.stableErrors ++ [code] } }

/-- What a node records of a generation. -/
def State.generatedBy (state : State) (providerName promptVersion : String) : State :=
  { state with
    audit :=
      { state.audit with
        providerVersions := state.audit.providerVersions ++ [providerName]
        promptVersions := state.audit.promptVersions ++ [promptVersion] } }

/-- `OrchestrationErrorV1` -/
structure OrchestrationError where
  code : String
  message : String
  retryable : Bool
  details : Json

/-- The orchestration part of `_failure_state`. -/
def State.failed (state : State) (code message : String) : State :=
  { state with
    status := .failed
    currentRole := none
    currentStage := .failed }.noted message (some code)

/-- What a graph is built around. -/
structure Surroundings where
  /-- The code is in `ERROR_CODES`. -/
  isErrorCode : String → Bool

/-- The code that a failure is recorded with. -/
def Surroundings.stableCode (around : Surroundings) (code : String) : String :=
  if around.isErrorCode code then code else "ORCHESTRATION_VALIDATION_FAILED"

/-! ### What a runner answers -/

inductive RunError
  /-- `Phase3RunError` or `Phase4RunError` of a check of the runner itself. -/
  | refused (code message : String)
  /-- The same error around an exception inside the graph. -/
  | broken (code message : String)
deriving DecidableEq, Repr

/-- `CampaignOrchestrationResultV1` -/
structure RunResult where
  runId : Uuid
  status : OrchestrationStatus
  checkpointVersion : Nat
  state : State
  error : Option OrchestrationError

/-- Go on only under the condition. -/
def orRefuse (condition : Bool) (code message : String) : Except RunError Unit :=
  if condition then .ok () else .error (.refused code message)

theorem ok_of_orRefuse {α : Type} {condition : Bool} {code message : String}
    {next : Unit → Except RunError α} {value : α}
    (passed : orRefuse condition code message >>= next = .ok value) :
    condition = true ∧ next () = .ok value := by
  unfold orRefuse at passed
  split at passed
  · next holds => exact ⟨holds, passed⟩
  · cases passed

theorem holds_of_orRefuse {condition : Bool} {code message : String} {value : Unit}
    (passed : orRefuse condition code message = .ok value) : condition = true := by
  unfold orRefuse at passed
  split at passed
  · next holds => exact holds
  · cases passed

end MarketMind.Orchestration
