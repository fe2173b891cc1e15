import MarketMind.Orchestration.Contracts

/-!
Owns the Content graph: the nodes that generate and review the first week and wait for its owner,
and the runner that starts a run, attaches the receipt of the persisted pack and resumes with a
decision.

Does not own what the provider and the reviewer answer. Left out are the budgets, which only the
provider reads.
-/

namespace MarketMind.Orchestration.Phase4

open Graphs

/-! ### What the nodes exchange -/

/-- The first of the generated `item_versions`, the only one that is decided on. -/
structure ItemVersion where
  id : Uuid
  contentItemId : Uuid
  version : Nat
  versionChecksum : String
deriving DecidableEq, Repr

structure Pack where
  id : Uuid
  contentCycleId : Uuid
deriving DecidableEq, Repr

/-- `ContentGenerationResult` -/
structure Generated where
  pack : Pack
  item : ItemVersion
  itemCount : Nat
  validationValid : Bool
  providerName : String
  promptVersion : String

/-- `Phase4GenerationError` -/
structure GenerationError where
  code : String
  message : String
  details : Json

/-- `ContentQualityReviewV1` -/
structure QualityReview where
  valid : Bool
  issueCode : Option String
  field : Option String
  repairable : Bool
  shortExplanation : String
deriving DecidableEq, Repr

/-- `ContentApprovalInterruptV1` -/
structure ApprovalInterrupt where
  runId : Uuid
  businessId : Uuid
  ownerUserId : Uuid
  strategyId : Uuid
  contentCycleId : Uuid
  contentPackId : Uuid
  contentItemId : Uuid
  contentItemVersionId : Uuid
  contentItemVersion : Nat
  contentItemVersionChecksum : String
  message : String
  persistenceRequired : Bool
deriving DecidableEq, Repr

/-- `ContentPackPersistenceReceiptV1` -/
structure PersistenceReceipt where
  runId : Uuid
  businessId : Uuid
  strategyId : Uuid
  contentCycleId : Uuid
  contentPackId : Uuid
  contentItemId : Uuid
  contentItemVersionId : Uuid
  contentItemVersion : Nat
  contentItemVersionChecksum : String
deriving DecidableEq, Repr

/-- What the waiting node is resumed with. -/
inductive Command
  | receipt (receipt : PersistenceReceipt)
  | decision (binding : ContentDecisionBinding) (idempotencyKey : String)
deriving DecidableEq, Repr

/-- What the provider and the reviewer answer, to the nodes that ask them. -/
structure Answer where
  generated : Except GenerationError Generated
  reviewed : Except String QualityReview

/-- `Phase4GraphState` -/
structure Values where
  checkpointVersion : Nat
  /-- `input_snapshot` -/
  start : Start
  orchestration : State
  contentPack : Option (Pack × ItemVersion)
  validation : Option Bool
  qualityReview : Option QualityReview
  approvalInterrupt : Option ApprovalInterrupt
  approvalBinding : Option ContentDecisionBinding
  replanInstruction : Option String
  replansUsed : Nat
  resumeIdempotencyKey : Option String
  phase4Error : Option OrchestrationError

inductive Node
  | content
  | review
  | awaitApproval
  | terminal
deriving DecidableEq, Repr

/-! ### Nodes -/

/-- `_failure_state` -/
def failureState (around : Surroundings) (values : Values) (code message : String)
    (details : Json) : Values :=
  let code := around.stableCode code
  { values with
    checkpointVersion := values.checkpointVersion + 1
    orchestration := values.orchestration.failed code message
    phase4Error := some ⟨code, message, false, details⟩ }

/-- The handoff that a run starts from. -/
structure Handoff where
  strategyDecision : StrategyDecisionBinding
  contentCycleId : Uuid

/-- `_initial_state` -/
def initialState (start : Start) (handoff : Handoff) : Values where
  checkpointVersion := 0
  start
  orchestration :=
    { runId := start.runId
      correlationId := start.correlationId
      ownerUserId := start.ownerUserId
      businessId := start.businessId
      strategyId := start.strategyId
      status := .running
      currentRole := some .content
      currentStage := .content
      strategy :=
        { draftId := none
          versionId := some handoff.strategyDecision.strategyVersionId
          version := some handoff.strategyDecision.strategyVersion
          checksum := some handoff.strategyDecision.strategyChecksum
          validationValid := some true
          pendingDecision := false
          decisionBinding := some handoff.strategyDecision }
      content := ⟨some handoff.contentCycleId, none, none, none, none, none, none, false, none⟩
      replansUsed := start.replansUsed
      replansLimit := start.replansLimit
      audit := ⟨[], [], ["Phase 4 exact approved Strategy-to-Content handoff prepared."], []⟩ }
  contentPack := none
  validation := none
  qualityReview := none
  approvalInterrupt := none
  approvalBinding := none
  replanInstruction := none
  replansUsed := start.replansUsed
  resumeIdempotencyKey := none
  phase4Error := none

def contentNode (around : Surroundings) (values : Values) :
    Except GenerationError Generated → Values
  | .error error => failureState around values error.code error.message error.details
  | .ok generated =>
      { values with
        checkpointVersion := values.checkpointVersion + 1
        orchestration :=
          ({ values.orchestration with
            status := .running
            currentRole := some .content
            currentStage := .content
            content :=
              { cycleId := some generated.pack.contentCycleId
                packId := some generated.pack.id
                itemId := some generated.item.contentItemId
                itemVersionId := some generated.item.id
                itemVersion := some generated.item.version
                checksum := some generated.item.versionChecksum
                validationValid := some generated.validationValid
                pendingDecision := false
                decisionBinding := none }
            replansUsed := values.replansUsed }.noted
            ("Content generated and validated with " ++ toString generated.itemCount ++
              " draft item(s).") none).generatedBy generated.providerName generated.promptVersion
        contentPack := some (generated.pack, generated.item)
        validation := some generated.validationValid
        replanInstruction := none }

/-- The review of a draft that its owner may see. -/
def presented (values : Values) (pack : Pack) (item : ItemVersion) (review : QualityReview) :
    Values :=
  let orchestration := values.orchestration
  { values with
    checkpointVersion := values.checkpointVersion + 1
    orchestration :=
      { orchestration with
        status := .awaitingContentApproval
        currentRole := some .content
        currentStage := .contentApproval
        content :=
          { orchestration.content with
            cycleId := some pack.contentCycleId
            packId := some pack.id
            itemId := some item.contentItemId
            itemVersionId := some item.id
            itemVersion := some item.version
            checksum := some item.versionChecksum
            validationValid := some true
            pendingDecision := true } }.noted review.shortExplanation none
    qualityReview := some review
    approvalInterrupt := some
      { runId := orchestration.runId
        businessId := orchestration.businessId
        ownerUserId := orchestration.ownerUserId
        strategyId := orchestration.strategyId
        contentCycleId := pack.contentCycleId
        contentPackId := pack.id
        contentItemId := item.contentItemId
        contentItemVersionId := item.id
        contentItemVersion := item.version
        contentItemVersionChecksum := item.versionChecksum
        message := "Persist the immutable Week-1 Content draft, then provide the owner decision " ++
          "for this exact item version."
        persistenceRequired := true } }

/-- The review of a draft that is generated once more. -/
def replanned (values : Values) (review : QualityReview) : Values :=
  let next := values.replansUsed + 1
  { values with
    checkpointVersion := values.checkpointVersion + 1
    orchestration :=
      { values.orchestration with
        status := .running
        currentRole := some .content
        currentStage := .content
        replansUsed := next }.noted
        ("Targeted Content replan " ++ toString next ++ "/" ++
          toString values.orchestration.replansLimit ++ " requested: " ++
          review.shortExplanation) none
    qualityReview := some review
    replansUsed := next
    replanInstruction := some review.shortExplanation }

def reviewNode (around : Surroundings) (values : Values) (reviewed : Except String QualityReview) :
    Values :=
  let broken (reason : String) := failureState around values "ORCHESTRATION_VALIDATION_FAILED"
    ("Content quality review failed: " ++ reason) (.object [])
  match values.contentPack, reviewed with
  | none, _ => broken "'content_pack'"
  | _, .error reason => broken reason
  | some (pack, item), .ok review =>
      let used := values.replansUsed
      let limit := values.orchestration.replansLimit
      if review.valid then presented values pack item review
      else if review.repairable && used < limit then replanned values review
      else if review.repairable then
        failureState around values "ORCHESTRATION_BUDGET_EXCEEDED"
          "Content targeted replan limit exhausted; the draft was not approved."
          (.object [("replans_used", .number (.integer used)),
            ("replans_limit", .number (.integer limit))])
      else
        failureState around values (review.issueCode.getD "ORCHESTRATION_VALIDATION_FAILED")
          review.shortExplanation
          (.object [("field", (review.field.map Json.string).getD .null)])

/-- `_receipt_matches` -/
def receiptMatches (receipt : PersistenceReceipt) (state : State) : Bool :=
  let content := state.content
  receipt.runId = state.runId && receipt.businessId = state.businessId &&
    receipt.strategyId = state.strategyId && some receipt.contentCycleId = content.cycleId &&
    some receipt.contentPackId = content.packId && some receipt.contentItemId = content.itemId &&
    some receipt.contentItemVersionId = content.itemVersionId &&
    some receipt.contentItemVersion = content.itemVersion &&
    some receipt.contentItemVersionChecksum = content.checksum

/-- `_decision_matches` -/
def decisionMatches (binding : ContentDecisionBinding) (state : State) : Bool :=
  let content := state.content
  binding.runId = state.runId && binding.businessId = state.businessId &&
    binding.decidedByUserId = state.ownerUserId && some binding.contentCycleId = content.cycleId &&
    some binding.contentPackId = content.packId && some binding.contentItemId = content.itemId &&
    some binding.contentItemVersionId = content.itemVersionId &&
    some binding.contentItemVersion = content.itemVersion &&
    some binding.contentItemVersionChecksum = content.checksum

def attachReceipt (around : Surroundings) (values : Values) (payload : ApprovalInterrupt)
    (receipt : PersistenceReceipt) : Values :=
  if !payload.persistenceRequired then
    failureState around values "ORCHESTRATION_STALE_RESUME"
      "The Content persistence receipt was already attached." (.object [])
  else if !receiptMatches receipt values.orchestration then
    failureState around values "ORCHESTRATION_STALE_RESUME"
      "Persisted Content receipt does not match the draft item." (.object [])
  else
    { values with
      checkpointVersion := values.checkpointVersion + 1
      orchestration :=
        { values.orchestration with
          status := .awaitingContentApproval
          currentRole := some .content
          currentStage := .contentApproval }.noted
          "Nest persisted the immutable Content draft; awaiting the owner decision." none
      approvalInterrupt := some { payload with persistenceRequired := false } }

def recordDecision (around : Surroundings) (values : Values) (payload : ApprovalInterrupt)
    (binding : ContentDecisionBinding) (idempotencyKey : String) : Values :=
  if idempotencyKey = "" then
    failureState around values "ORCHESTRATION_VALIDATION_FAILED"
      "Owner Content decision is missing its idempotency key." (.object [])
  else if payload.persistenceRequired || !decisionMatches binding values.orchestration then
    failureState around values "ORCHESTRATION_STALE_RESUME"
      "Owner Content decision does not match the persisted draft item." (.object [])
  else
    let content : ContentState :=
      { values.orchestration.content with
        pendingDecision := false
        decisionBinding := some binding }
    { values with
      checkpointVersion := values.checkpointVersion + 1
      orchestration :=
        if binding.decision ≠ .approved then
          { values.orchestration with
            status := .cancelled
            currentRole := none
            currentStage := .cancelled
            content }.noted
            ("Owner Content decision recorded: " ++ binding.decision.text ++
              "; the orchestration will not create a publication action.") none
        else
          { values.orchestration with
            status := .completed
            currentRole := none
            currentStage := .complete
            content }.noted
            ("Owner approved the exact Content item version; publishing remains outside the " ++
              "orchestration graph.") none
      approvalBinding := some binding
      resumeIdempotencyKey := some idempotencyKey }

def awaitApprovalNode (around : Surroundings) (values : Values) (command : Option Command) :
    Values :=
  match values.approvalInterrupt, command with
  | none, _ =>
      failureState around values "ORCHESTRATION_CHECKPOINT_FAILURE"
        "Content approval payload was missing at the interrupt boundary." (.object [])
  -- The node waits instead.
  | some _, none => values
  | some payload, some (.receipt receipt) => attachReceipt around values payload receipt
  | some payload, some (.decision binding idempotencyKey) =>
      recordDecision around values payload binding idempotencyKey

/-! ### The graph -/

def route : Node → Values → Option Node
  | .content, values => some (if values.phase4Error.isSome then .terminal else .review)
  | .review, values =>
      if values.phase4Error.isSome then some .terminal
      else
        match values.qualityReview with
        | none => some .terminal
        | some review =>
            some (if review.valid then .awaitApproval
              else if review.repairable then .content
              else .terminal)
  | .awaitApproval, values =>
      some (if values.phase4Error.isSome || values.approvalBinding.isSome then .terminal
        else .awaitApproval)
  | .terminal, _ => none

/-- `build_phase4_graph` -/
def graph (around : Surroundings) : StateGraph Node Values ApprovalInterrupt Command Answer where
  entry := .content
  interrupt
    | .awaitApproval, values => values.approvalInterrupt
    | _, _ => none
  execute
    | .content, values, _, answer => contentNode around values answer.generated
    | .review, values, _, answer => reviewNode around values answer.reviewed
    | .awaitApproval, values, command, _ => awaitApprovalNode around values command
    | .terminal, values, _, _ => values
  route := route

/-! ### The runner -/

/-- What is known of one run. -/
abbrev Thread := Graphs.Thread Node Values ApprovalInterrupt Command

/-- What a call returns. -/
inductive Outcome
  | started (result : RunResult) (approval : Option ApprovalInterrupt)
  | attached (payload : ApprovalInterrupt)
  | decided (result : RunResult)

/-- A call, with what answers the nodes that it runs. -/
inductive Call
  | start (start : Start) (handoff : Handoff) (answers : List Answer)
  | attachPersistedPack (receipt : PersistenceReceipt) (answers : List Answer)
  | resume (request : Resume) (answers : List Answer)

def Call.runId : Call → Uuid
  | .start given _ _ => given.runId
  | attachPersistedPack receipt _ => receipt.runId
  | resume request _ => request.runId

/-- `_result_from_snapshot` -/
def resultFrom (values : Values) : RunResult where
  runId := values.start.runId
  status := values.orchestration.status
  checkpointVersion := values.checkpointVersion
  state := values.orchestration
  error := values.phase4Error

/-- `start`; the contract of the first state demands the decision of the same run. -/
def start (around : Surroundings) (thread : Thread) (start : Start) (handoff : Handoff)
    (answers : List Answer) : Thread × Except RunError Outcome :=
  let broken := RunError.broken "ORCHESTRATION_CHECKPOINT_FAILURE" "Phase 4 graph start failed"
  if thread.checkpoint.isSome then
    (thread, .error (.refused "ORCHESTRATION_DUPLICATE_START"
      "An orchestration checkpoint already exists for this run."))
  else if handoff.strategyDecision.runId ≠ start.runId ||
      handoff.strategyDecision.businessId ≠ start.businessId then
    (thread, .error broken)
  else
    let (after, invocation) :=
      Graphs.Thread.start (graph around) (initialState start handoff) answers
    let values := invocation.checkpoint.values
    (after,
      if invocation.ended then
        .ok (.started (resultFrom values)
          (invocation.checkpoint.interrupt.or values.approvalInterrupt))
      else .error broken)

/-- What `attach_persisted_pack` checks. -/
def attachChecks (receipt : PersistenceReceipt) (values : Values) (payload : ApprovalInterrupt) :
    Except RunError Unit := do
  orRefuse payload.persistenceRequired "ORCHESTRATION_STALE_RESUME"
    "The Content persistence receipt was already attached."
  orRefuse (receiptMatches receipt values.orchestration) "ORCHESTRATION_STALE_RESUME"
    "Persisted Content receipt does not match the paused draft item."

/-- `attach_persisted_pack` -/
def attachPersistedPack (around : Surroundings) (thread : Thread)
    (receipt : PersistenceReceipt) (answers : List Answer) : Thread × Except RunError Outcome :=
  match thread.paused with
  | none =>
      (thread, .error (.refused "ORCHESTRATION_STALE_RESUME"
        "The orchestration is not paused for a Content persistence receipt."))
  | some (checkpoint, payload) =>
      match attachChecks receipt checkpoint.values payload with
      | .error error => (thread, .error error)
      | .ok () =>
          let (after, invocation) := Graphs.Thread.resume (graph around) thread (.receipt receipt)
            checkpoint answers
          (after,
            if !invocation.ended then
              .error (.broken "ORCHESTRATION_CHECKPOINT_FAILURE"
                "Content persistence receipt could not be checkpointed")
            else
              match invocation.checkpoint.interrupt with
              | none =>
                  .error (.refused "ORCHESTRATION_CHECKPOINT_FAILURE"
                    "Content persistence receipt did not leave an owner approval interrupt.")
              | some payload => .ok (.attached payload))

/-- `_validate_resume_scope`, with the decision that it lets through. -/
def validateResumeScope (request : Resume) (values : Values) :
    Except RunError ContentDecisionBinding :=
  let state := values.orchestration
  match request.decisionBinding with
  | .strategy _ =>
      .error (.refused "ORCHESTRATION_SCOPE_MISMATCH"
        "A Content approval binding is required for this checkpoint.")
  | .content binding => do
      orRefuse (request.checkpointThreadId = request.runId && request.runId = state.runId &&
          request.businessId = state.businessId && request.ownerUserId = state.ownerUserId &&
          request.correlationId = values.start.correlationId)
        "ORCHESTRATION_SCOPE_MISMATCH"
        "Resume request does not match the paused run owner or scope."
      orRefuse (decisionMatches binding state) "ORCHESTRATION_STALE_RESUME"
        "Resume binding is stale or belongs to another Content item version."
      match values.approvalInterrupt with
      -- The missing payload fails its contract.
      | none => .error (.broken "ORCHESTRATION_CHECKPOINT_FAILURE" "approval_interrupt")
      | some payload => do
          orRefuse (!payload.persistenceRequired) "ORCHESTRATION_STALE_RESUME"
            "Nest must attach the Content persistence receipt before owner approval."
          .ok binding

/-- What `resume` answers when the run is not paused. -/
def replayed (request : Resume) (values : Values) : Except RunError Outcome :=
  match values.approvalBinding with
  | none =>
      .error (.refused "ORCHESTRATION_STALE_RESUME"
        "The orchestration is not paused at a resumable Content approval.")
  | some completed =>
      if values.resumeIdempotencyKey ≠ some request.idempotencyKey then
        .error (.refused "ORCHESTRATION_STALE_RESUME"
          "The orchestration is not paused at a resumable Content approval.")
      else if request.decisionBinding ≠ .content completed then
        .error (.refused "ORCHESTRATION_SCOPE_MISMATCH"
          "The resume idempotency key was already used with a different decision.")
      else (validateResumeScope request values).map fun _ => .decided (resultFrom values)

/-- `resume` -/
def resume (around : Surroundings) (thread : Thread) (request : Resume) (answers : List Answer) :
    Thread × Except RunError Outcome :=
  match thread.paused with
  | none =>
      (thread,
        match thread.checkpoint with
        | none =>
            .error (.refused "ORCHESTRATION_STALE_RESUME"
              "The orchestration is not paused at a resumable Content approval.")
        | some checkpoint => replayed request checkpoint.values)
  | some (checkpoint, _) =>
      match validateResumeScope request checkpoint.values with
      | .error error => (thread, .error error)
      | .ok binding =>
          let (after, invocation) := Graphs.Thread.resume (graph around) thread
            (.decision binding request.idempotencyKey) checkpoint answers
          (after,
            if !invocation.ended then
              .error (.broken "ORCHESTRATION_CHECKPOINT_FAILURE" "Phase 4 graph resume failed")
            else if invocation.checkpoint.interrupt.isSome then
              .error (.refused "ORCHESTRATION_CHECKPOINT_FAILURE"
                "Phase 4 decision resume unexpectedly paused again.")
            else .ok (.decided (resultFrom invocation.checkpoint.values)))

/-- One call of the runner, under the lock of its run. -/
def call (around : Surroundings) (thread : Thread) : Call → Thread × Except RunError Outcome
  | .start input handoff answers => start around thread input handoff answers
  | .attachPersistedPack receipt answers => attachPersistedPack around thread receipt answers
  | .resume request answers => resume around thread request answers

/-- The run with the given identifier after a list of calls. -/
def threadAfter (around : Surroundings) (runId : Uuid) (calls : List Call) : Thread :=
  (calls.filter (·.runId = runId)).foldl (fun thread given => (call around thread given).1) .empty

end MarketMind.Orchestration.Phase4
