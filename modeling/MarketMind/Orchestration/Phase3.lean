import MarketMind.Orchestration.Contracts

/-!
Owns the Strategy graph: the nodes that generate and review a draft and wait for its owner, and the
runner that starts a run, attaches the receipt of the persisted draft and resumes with a decision.

Does not own what the provider and the reviewer answer.
-/

namespace MarketMind.Orchestration.Phase3

open Graphs

/-! ### What the nodes exchange -/

structure StrategyPlan where
  id : Uuid
  version : Nat
  body : String
deriving DecidableEq, Repr

/-- `StrategyGenerationResult` -/
structure Generated where
  plan : StrategyPlan
  validationValid : Bool
  providerAttempts : Nat
  providerName : String
  promptVersion : String

/-- `Phase3GenerationError` -/
structure GenerationError where
  code : String
  message : String
  details : Json

/-- `StrategyQualityReviewV1` -/
structure QualityReview where
  valid : Bool
  issueCode : Option String
  field : Option String
  repairable : Bool
  shortExplanation : String
  recommendedNode : String
deriving DecidableEq, Repr

/-- `StrategyApprovalInterruptV1` -/
structure ApprovalInterrupt where
  runId : Uuid
  businessId : Uuid
  ownerUserId : Uuid
  strategyId : Uuid
  draftId : Uuid
  strategyVersion : Nat
  strategyChecksum : String
  message : String
  persistenceRequired : Bool
deriving DecidableEq, Repr

/-- `StrategyDraftPersistenceReceiptV1` -/
structure PersistenceReceipt where
  runId : Uuid
  businessId : Uuid
  strategyId : Uuid
  draftId : Uuid
  strategyVersionId : Uuid
  strategyVersion : Nat
  strategyChecksum : String
deriving DecidableEq, Repr

/-- What the waiting node is resumed with. -/
inductive Command
  | receipt (receipt : PersistenceReceipt)
  | decision (binding : StrategyDecisionBinding)
deriving DecidableEq, Repr

/-- What the provider and the reviewer answer, to the nodes that ask them. -/
structure Answer where
  generated : Except GenerationError Generated
  reviewed : Except String QualityReview

/-- `Phase3GraphState` -/
structure Values where
  checkpointVersion : Nat
  /-- `input_snapshot` -/
  start : Start
  orchestration : State
  plan : Option StrategyPlan
  validation : Option Bool
  qualityReview : Option QualityReview
  approvalInterrupt : Option ApprovalInterrupt
  approvalBinding : Option StrategyDecisionBinding
  replanInstruction : Option String
  replansUsed : Nat
  phase3Error : Option OrchestrationError

inductive Node
  | strategy
  | review
  | awaitApproval
  | terminal
deriving DecidableEq, Repr

/-- What the graph is built around, and the checksum of a plan. -/
structure Surroundings extends Orchestration.Surroundings where
  /-- `strategy_plan_checksum` -/
  planChecksum : StrategyPlan → String

/-! ### Nodes -/

/-- `_failure_state` -/
def failureState (around : Surroundings) (values : Values) (code message : String)
    (details : Json) : Values :=
  let code := around.stableCode code
  { values with
    checkpointVersion := values.checkpointVersion + 1
    orchestration := values.orchestration.failed code message
    phase3Error := some ⟨code, message, false, details⟩ }

/-- `_initial_state` -/
def initialState (start : Start) : Values where
  checkpointVersion := 0
  start
  orchestration :=
    { runId := start.runId
      correlationId := start.correlationId
      ownerUserId := start.ownerUserId
      businessId := start.businessId
      strategyId := start.strategyId
      status := .running
      currentRole := some .strategy
      currentStage := .strategy
      strategy := ⟨none, none, none, none, none, false, none⟩
      content := ⟨none, none, none, none, none, none, none, false, none⟩
      replansUsed := start.replansUsed
      replansLimit := start.replansLimit
      audit := ⟨[], [], ["Phase 3 immutable Research-to-Strategy handoff prepared."], []⟩ }
  plan := none
  validation := none
  qualityReview := none
  approvalInterrupt := none
  approvalBinding := none
  replanInstruction := none
  replansUsed := start.replansUsed
  phase3Error := none

def strategyNode (around : Surroundings) (values : Values) :
    Except GenerationError Generated → Values
  | .error error => failureState around values error.code error.message error.details
  | .ok generated =>
      { values with
        checkpointVersion := values.checkpointVersion + 1
        orchestration :=
          ({ values.orchestration with
            currentRole := some .strategy
            currentStage := .strategy
            strategy :=
              { draftId := some generated.plan.id
                versionId := none
                version := some generated.plan.version
                checksum := some (around.planChecksum generated.plan)
                validationValid := some generated.validationValid
                pendingDecision := false
                decisionBinding := none } }.noted
            ("Strategy generated and validated with " ++ toString generated.providerAttempts ++
              " provider attempt(s).") none).generatedBy generated.providerName
                generated.promptVersion
        plan := some generated.plan
        validation := some generated.validationValid
        replanInstruction := none }

/-- The review of a draft that its owner may see. -/
def presented (around : Surroundings) (values : Values) (plan : StrategyPlan)
    (review : QualityReview) : Values :=
  let orchestration := values.orchestration
  let checksum := around.planChecksum plan
  { values with
    checkpointVersion := values.checkpointVersion + 1
    orchestration :=
      { orchestration with
        status := .awaitingStrategyApproval
        currentRole := some .strategy
        currentStage := .strategyApproval
        strategy :=
          { draftId := some plan.id
            versionId := none
            version := some plan.version
            checksum := some checksum
            validationValid := some true
            pendingDecision := true
            decisionBinding := none } }.noted review.shortExplanation none
    qualityReview := some review
    approvalInterrupt := some
      { runId := orchestration.runId
        businessId := orchestration.businessId
        ownerUserId := orchestration.ownerUserId
        strategyId := orchestration.strategyId
        draftId := plan.id
        strategyVersion := plan.version
        strategyChecksum := checksum
        message := "Review the immutable Strategy draft and provide an owner decision."
        persistenceRequired := true } }

/-- The review of a draft that is generated once more. -/
def replanned (values : Values) (review : QualityReview) : Values :=
  let next := values.replansUsed + 1
  { values with
    checkpointVersion := values.checkpointVersion + 1
    orchestration :=
      { values.orchestration with
        currentRole := some .strategy
        currentStage := .strategy
        replansUsed := next }.noted
        ("Targeted Strategy replan " ++ toString next ++ "/" ++
          toString values.orchestration.replansLimit ++ " requested: " ++
          review.shortExplanation) none
    qualityReview := some review
    replansUsed := next
    replanInstruction := some review.shortExplanation }

def textOrNull (text : Option String) : Json := (text.map Json.string).getD .null

def count (value : Nat) : Json := .number (.integer value)

def reviewNode (around : Surroundings) (values : Values) (reviewed : Except String QualityReview) :
    Values :=
  let broken (reason : String) := failureState around values "ORCHESTRATION_VALIDATION_FAILED"
    ("Strategy quality review failed: " ++ reason) (.object [])
  match values.plan, reviewed with
  | none, _ => broken "'plan'"
  | _, .error reason => broken reason
  | some plan, .ok review =>
      let used := values.replansUsed
      let limit := values.orchestration.replansLimit
      if review.valid then presented around values plan review
      else if review.repairable && used < limit then replanned values review
      else if review.repairable then
        failureState around values "ORCHESTRATION_BUDGET_EXCEEDED"
          "Strategy targeted replan limit exhausted; the last artifact was not approved."
          (.object [("replans_used", count used), ("replans_limit", count limit)])
      else
        failureState around values (review.issueCode.getD "ORCHESTRATION_VALIDATION_FAILED")
          review.shortExplanation
          (.object [("field", textOrNull review.field),
            ("recommended_node", .string review.recommendedNode)])

/-- The receipt is that of the paused draft. -/
def PersistenceReceipt.isOf (receipt : PersistenceReceipt) (state : State) : Bool :=
  receipt.runId = state.runId && receipt.businessId = state.businessId &&
    receipt.strategyId = state.strategyId && some receipt.draftId = state.strategy.draftId &&
    some receipt.strategyChecksum = state.strategy.checksum &&
    some receipt.strategyVersion = state.strategy.version

/-- The decision is one of the owner on the persisted draft. -/
def isDecisionOf (binding : StrategyDecisionBinding) (state : State) : Bool :=
  binding.runId = state.runId && binding.businessId = state.businessId &&
    binding.strategyId = state.strategyId &&
    some binding.strategyChecksum = state.strategy.checksum &&
    some binding.strategyVersion = state.strategy.version &&
    some binding.strategyVersionId = state.strategy.versionId &&
    binding.decidedByUserId = state.ownerUserId

def attachReceipt (around : Surroundings) (values : Values) (payload : ApprovalInterrupt)
    (receipt : PersistenceReceipt) : Values :=
  if !payload.persistenceRequired then
    failureState around values "ORCHESTRATION_STALE_RESUME"
      "The Strategy persistence receipt was already attached." (.object [])
  else if !receipt.isOf values.orchestration then
    failureState around values "ORCHESTRATION_STALE_RESUME"
      "Persisted Strategy receipt does not match the paused draft." (.object [])
  else
    { values with
      checkpointVersion := values.checkpointVersion + 1
      orchestration :=
        { values.orchestration with
          status := .awaitingStrategyApproval
          currentRole := some .strategy
          currentStage := .strategyApproval
          strategy :=
            { draftId := values.orchestration.strategy.draftId
              versionId := some receipt.strategyVersionId
              version := some receipt.strategyVersion
              checksum := some receipt.strategyChecksum
              validationValid := some true
              pendingDecision := true
              decisionBinding := none } }.noted
          "Nest persisted the immutable Strategy version; awaiting the owner decision." none
      approvalInterrupt := some { payload with persistenceRequired := false } }

def recordDecision (around : Surroundings) (values : Values) (binding : StrategyDecisionBinding) :
    Values :=
  if !isDecisionOf binding values.orchestration then
    failureState around values "ORCHESTRATION_STALE_RESUME"
      "Owner decision does not match the paused immutable Strategy draft." (.object [])
  else
    let strategy : StrategyState :=
      { draftId := values.orchestration.strategy.draftId
        versionId := some binding.strategyVersionId
        version := some binding.strategyVersion
        checksum := some binding.strategyChecksum
        validationValid := some true
        pendingDecision := false
        decisionBinding := some binding }
    let recorded := "Owner Strategy decision recorded: " ++ binding.decision.text
    { values with
      checkpointVersion := values.checkpointVersion + 1
      orchestration :=
        if binding.decision = .approved then
          { values.orchestration with
            status := .running
            currentRole := some .strategy
            currentStage := .strategyApproval
            strategy }.noted (recorded ++ ".") none
        else
          { values.orchestration with
            status := .cancelled
            currentRole := none
            currentStage := .cancelled
            strategy }.noted (recorded ++ "; the orchestration will not continue.") none
      approvalBinding := some binding }

def awaitApprovalNode (around : Surroundings) (values : Values) (command : Option Command) :
    Values :=
  match values.approvalInterrupt, command with
  | none, _ =>
      failureState around values "ORCHESTRATION_CHECKPOINT_FAILURE"
        "Strategy approval payload was missing at the interrupt boundary." (.object [])
  -- The node waits instead.
  | some _, none => values
  | some payload, some (.receipt receipt) => attachReceipt around values payload receipt
  | some _, some (.decision binding) => recordDecision around values binding

/-! ### The graph -/

def route : Node → Values → Option Node
  | .strategy, values => some (if values.phase3Error.isSome then .terminal else .review)
  | .review, values =>
      if values.phase3Error.isSome then some .terminal
      else
        match values.qualityReview with
        | none => some .terminal
        | some review =>
            some (if review.valid then .awaitApproval
              else if review.repairable then .strategy
              else .terminal)
  | .awaitApproval, values =>
      some (if values.phase3Error.isSome then .terminal
        else if values.approvalBinding.isNone then .awaitApproval
        else .terminal)
  | .terminal, _ => none

/-- `build_phase3_graph` -/
def graph (around : Surroundings) : StateGraph Node Values ApprovalInterrupt Command Answer where
  entry := .strategy
  interrupt
    | .awaitApproval, values => values.approvalInterrupt
    | _, _ => none
  execute
    | .strategy, values, _, answer => strategyNode around values answer.generated
    | .review, values, _, answer => reviewNode around values answer.reviewed
    | .awaitApproval, values, command, _ => awaitApprovalNode around values command
    | .terminal, values, _, _ => values
  route := route

/-! ### The runner -/

/-- What is known of one run. -/
abbrev Thread := Graphs.Thread Node Values ApprovalInterrupt Command

/-- What a call returns. -/
inductive Outcome
  | started (result : RunResult) (approval : Option ApprovalInterrupt)
  | attached (payload : ApprovalInterrupt)
  | decided (result : RunResult)

/-- A call, with what answers the nodes that it runs. -/
inductive Call
  | start (start : Start) (answers : List Answer)
  | attachPersistedDraft (receipt : PersistenceReceipt) (answers : List Answer)
  | resume (request : Resume) (answers : List Answer)

def Call.runId : Call → Uuid
  | .start given _ => given.runId
  | attachPersistedDraft receipt _ => receipt.runId
  | resume request _ => request.runId

/-- `_result_from_snapshot` -/
def resultFrom (values : Values) : RunResult where
  runId := values.start.runId
  status := values.orchestration.status
  checkpointVersion := values.checkpointVersion
  state := values.orchestration
  error := values.phase3Error

/-- `start` -/
def start (around : Surroundings) (thread : Thread) (start : Start) (answers : List Answer) :
    Thread × Except RunError Outcome :=
  if thread.checkpoint.isSome then
    (thread, .error (.refused "ORCHESTRATION_DUPLICATE_START"
      "An orchestration checkpoint already exists for this run."))
  else
    let (after, invocation) := Graphs.Thread.start (graph around) (initialState start) answers
    let values := invocation.checkpoint.values
    (after,
      if invocation.ended then
        .ok (.started (resultFrom values)
          (invocation.checkpoint.interrupt.or values.approvalInterrupt))
      else .error (.broken "ORCHESTRATION_CHECKPOINT_FAILURE" "Phase 3 graph start failed"))

/-- What `attach_persisted_draft` checks. -/
def attachChecks (receipt : PersistenceReceipt) (values : Values) (payload : ApprovalInterrupt) :
    Except RunError Unit := do
  orRefuse payload.persistenceRequired "ORCHESTRATION_STALE_RESUME"
    "The Strategy persistence receipt was already attached."
  orRefuse (receipt.isOf values.orchestration) "ORCHESTRATION_STALE_RESUME"
    "Persisted Strategy receipt does not match the paused draft."

/-- `attach_persisted_draft` -/
def attachPersistedDraft (around : Surroundings) (thread : Thread)
    (receipt : PersistenceReceipt) (answers : List Answer) : Thread × Except RunError Outcome :=
  match thread.paused with
  | none =>
      (thread, .error (.refused "ORCHESTRATION_STALE_RESUME"
        "The orchestration is not paused for a Strategy persistence receipt."))
  | some (checkpoint, payload) =>
      match attachChecks receipt checkpoint.values payload with
      | .error error => (thread, .error error)
      | .ok () =>
          let (after, invocation) := Graphs.Thread.resume (graph around) thread (.receipt receipt)
            checkpoint answers
          (after,
            if !invocation.ended then
              .error (.broken "ORCHESTRATION_CHECKPOINT_FAILURE"
                "Strategy persistence receipt could not be checkpointed")
            else
              match invocation.checkpoint.interrupt with
              | none =>
                  .error (.refused "ORCHESTRATION_CHECKPOINT_FAILURE"
                    ("Strategy persistence receipt did not leave an owner approval " ++
                      "interrupt."))
              | some payload => .ok (.attached payload))

/-- `_validate_resume_scope`, with the decision that it lets through. -/
def validateResumeScope (request : Resume) (values : Values) :
    Except RunError StrategyDecisionBinding :=
  let state := values.orchestration
  match request.decisionBinding with
  | .content _ =>
      .error (.refused "ORCHESTRATION_SCOPE_MISMATCH"
        "A Strategy approval binding is required for this checkpoint.")
  | .strategy binding => do
      orRefuse (request.checkpointThreadId = request.runId && request.runId = state.runId &&
          request.businessId = state.businessId && request.ownerUserId = state.ownerUserId &&
          request.correlationId = values.start.correlationId)
        "ORCHESTRATION_SCOPE_MISMATCH"
        "Resume request does not match the paused run owner or scope."
      orRefuse (isDecisionOf binding state) "ORCHESTRATION_STALE_RESUME"
        "Resume binding is stale or belongs to another Strategy artifact/owner."
      .ok binding

/-- `resume` -/
def resume (around : Surroundings) (thread : Thread) (request : Resume) (answers : List Answer) :
    Thread × Except RunError Outcome :=
  match thread.paused with
  | none =>
      (thread, .error (.refused "ORCHESTRATION_STALE_RESUME"
        "The orchestration is not paused at a resumable Strategy approval."))
  | some (checkpoint, _) =>
      match validateResumeScope request checkpoint.values with
      | .error error => (thread, .error error)
      | .ok binding =>
          let (after, invocation) := Graphs.Thread.resume (graph around) thread (.decision binding)
            checkpoint answers
          (after,
            if !invocation.ended then
              .error (.broken "ORCHESTRATION_CHECKPOINT_FAILURE" "Phase 3 graph resume failed")
            else if invocation.checkpoint.interrupt.isSome then
              .error (.refused "ORCHESTRATION_CHECKPOINT_FAILURE"
                "Phase 3 resume unexpectedly paused again.")
            else .ok (.decided (resultFrom invocation.checkpoint.values)))

/-- One call of the runner, under the lock of its run. -/
def call (around : Surroundings) (thread : Thread) : Call → Thread × Except RunError Outcome
  | .start input answers => start around thread input answers
  | .attachPersistedDraft receipt answers => attachPersistedDraft around thread receipt answers
  | .resume request answers => resume around thread request answers

/-- The run with the given identifier after a list of calls. -/
def threadAfter (around : Surroundings) (runId : Uuid) (calls : List Call) : Thread :=
  (calls.filter (·.runId = runId)).foldl (fun thread given => (call around thread given).1) .empty

end MarketMind.Orchestration.Phase3
