import MarketMind.Strategy.Repository

/-!
Owns the requests of an owner: the brief, the start of a generation, the decision on a draft,
and the retry of a failure.

Does not own the jobs that the requests enqueue.
-/

namespace MarketMind.Strategy

open MarketMind.Transactions

def maxOwnerRetries : Nat := 3

/-- Strategy statuses from which a new generation run may legally start. -/
def generationIdle : List StrategyStatus := [.ready]

def createStrategy (businessProfileVersionId ownerUserId : Uuid) : Code StrategyRow := do
  match ← Db.findProfileOfOwner businessProfileVersionId ownerUserId with
  | none => throw (.badRequest none "No confirmed business profile found for this owner.")
  | some profile => Db.createStrategy profile.businessId ownerUserId

/-! ### The brief -/

def assertConnectedTargetBindings (businessId : Uuid) : List ChannelChoice → Code Unit
  | [] => pure ()
  | choice :: rest => do
      if choice.setupState = "connected" then
        match choice.publishingTargetId with
        | none =>
            throw (.badRequest (some "STRATEGY_TARGET_REQUIRED")
              "A connected channel must have a publishing target.")
        | some targetId =>
            let target ← Db.findTarget targetId businessId
            check (assertUsableTarget choice target)
      assertConnectedTargetBindings businessId rest

/-- The checks that depend on the contract of the strategy. -/
def assertCapacity (isV2 : Bool) (dto : UpsertBriefDto) (businessId : Uuid) : Code Unit :=
  if isV2 then do
    check (assertValidChannelChoices (dto.channelChoices.getD []))
    assertConnectedTargetBindings businessId (dto.channelChoices.getD [])
    require (truthy dto.weeklyCapacity)
      (.badRequest none "weeklyCapacity is required for an owner-first Strategy brief")
  else
    require (truthy dto.teamCapacity)
      (.badRequest none "teamCapacity is required for this Strategy brief")

def upsertBrief (id ownerUserId : Uuid) (dto : UpsertBriefDto) : Code StrategyBrief := do
  match ← getStrategyByIdAndOwner id ownerUserId with
  | none => throw (.notFound "Strategy not found or unauthorized")
  | some strategy =>
      require (strategy.row.status = .needsBrief || strategy.row.status = .ready)
        (.conflict none
          "The Strategy brief is locked after generation starts. Create a revision through an owner decision instead.")
      let profile ← Db.findProfileOfOwner dto.businessProfileVersionId ownerUserId
      require (profile.any (·.businessId = strategy.row.businessId))
        (.badRequest none "The confirmed business profile does not belong to this Strategy.")
      check (assertBudget dto)
      let isV2 : Bool := strategy.row.contractVersion = "strategy-v2"
      assertCapacity isV2 dto strategy.row.businessId
      match dto.startDate with
      | none => throw (.badRequest none "startDate is not a valid ISO-8601 date")
      | some startDate =>
          let brief ← Db.upsertBrief id (dto.data startDate isV2)
          if brief.isReady = true ∧ strategy.row.status = .needsBrief then
            updateStrategyStatus id .ready
            recordProgress id "ready" .complete "strategy.brief.ready" none
          return brief

/-! ### Generation -/

/-- The `try` block of `startGeneration`. -/
def retrieveAndQueue (id : Uuid) (brief : StrategyBrief) : Code Unit := do
  match ← Db.retrieve brief with
  | .error error => throw (.ai error)
  | .ok none => throw (.thrown "AI retrieval service returned no retrieval_run_id")
  | .ok (some retrievalRunId) =>
      let retrievalRun ← Db.findRun retrievalRunId
      require (strategyRetrievalRunIsUsable retrievalRun) .knowledgeUnavailable
      recordProgress id "retrieval" .complete "strategy.retrieval.complete" none
      updateStrategyStatus id .queued
      Db.addJob (.generate id retrievalRunId)
      recordProgress id "queued" .started "strategy.queued" none

/-- Its `catch` block. -/
def failRetrieval (id : Uuid) (error : StrategyError) : Code Unit := do
  let knowledgeUnavailable := match error with
    | .knowledgeUnavailable => true
    | _ => false
  updateStrategyStatus id .failed
  recordProgress id "failed" .failed
    (if knowledgeUnavailable then "strategy.retrieval.knowledge_unavailable"
      else "strategy.retrieval.failed") (some (isRetryable error))
  throw (.internal
    (if knowledgeUnavailable then "STRATEGY_KNOWLEDGE_UNAVAILABLE" else "RETRIEVAL_FAILED")
    (if knowledgeUnavailable then
      "Trusted marketing guidance is temporarily unavailable for this Strategy."
    else "Failed to retrieve knowledge pack") (isRetryable error))

/-- What `startGeneration` does with the strategy that it has claimed. -/
def startRetrieval (id : Uuid) (row : StrategyRow) (brief : StrategyBrief) : Code Unit := do
  let latestProfile ← Db.findActiveProfile row.businessId
  if latestProfile.any (·.id = brief.businessProfileVersionId) then
    recordProgress id "retrieval" .started "strategy.retrieval.started" none
    tryCatch (retrieveAndQueue id brief) (failRetrieval id)
  else
    -- Roll the claim back to "failed" so the owner can re-brief and retry.
    updateStrategyStatus id .failed
    recordProgress id "failed" .failed "strategy.stale_profile" (some false)
    throw (.badRequest (some "STALE_PROFILE")
      "The business profile has been updated since this brief was created. Please review and re-confirm.")

def startGeneration (id ownerUserId : Uuid) : Code Unit := do
  match ← getStrategyByIdAndOwner id ownerUserId with
  | none | some ⟨_, none⟩ => throw (.notFound "Strategy or brief not found")
  | some ⟨row, some brief⟩ =>
      assertAllowed ownerUserId .strategyCycle
      let claimed ← claimForGeneration id generationIdle .retrieving
      require claimed
        (.badRequest none
          "Generation is already in progress or not permitted from the current status")
      startRetrieval id row brief

/-! ### Decisions -/

def assertApprovalReady (strategy : StrategyWithBrief) (version : StrategyVersion) (now : Instant) :
    Code Unit := do
  let latestProfile ← Db.findActiveProfile strategy.row.businessId
  require (strategy.brief.any fun brief => latestProfile.any (·.id = brief.businessProfileVersionId))
    (.conflict (some "STRATEGY_PROFILE_STALE")
      "The confirmed Business Profile changed after this Strategy Brief was saved.")
  check (assertPlanReady version.planData)
  let run ← match version.retrievalRunId with
    | none => pure none
    | some retrievalRunId => Db.findRun retrievalRunId
  check (assertCitationsResolve version.planData run now)

/-- A revision: the claim, the decision, and the job. -/
def requestRevision (id ownerUserId : Uuid) (dto : OwnerDecisionDto) : Code Unit := do
  assertAllowed ownerUserId .strategyRevision
  let claimed ← claimForGeneration id [.draft] .ready
  require claimed (.badRequest none "A decision or revision is already in progress")
  recordProgress id "ready" .started "strategy.revision_requested" none
  let _ ← recordOwnerDecision ownerUserId dto
  Db.addJob (.revise id dto.versionId dto.feedback)

def approve (id ownerUserId : Uuid) (dto : OwnerDecisionDto) : Code Unit := do
  match ← recordOwnerDecision ownerUserId dto with
  | none => pure ()
  | some nextStatus =>
      recordProgress id nextStatus.text .complete
        (if nextStatus = .approved then "strategy.approved" else "strategy.rejected") none

def handleDecision (id ownerUserId : Uuid) (dto : OwnerDecisionDto) (now : Instant) : Code Unit := do
  match ← getStrategyByIdAndOwner id ownerUserId with
  | none => throw (.notFound "Strategy not found")
  | some strategy =>
      require (strategy.row.status = .draft)
        (.badRequest none "Decisions can only be made on a draft strategy")
      require (strategy.row.currentVersionId = some dto.versionId)
        (.conflict (some "STRATEGY_VERSION_CONFLICT")
          "This draft is no longer the current Strategy version. Refresh before deciding.")
      match ← Db.findVersion dto.versionId with
      | none => throw (.notFound "Strategy version not found")
      | some targetVersion =>
          require (targetVersion.strategyId = id) (.notFound "Strategy version not found")
          require (dto.action = .approve || hasText dto.feedback)
            (.badRequest none "Owner feedback is required when rejecting or requesting a revision")
          match dto.action with
          | .approve =>
              assertApprovalReady strategy targetVersion now
              approve id ownerUserId dto
          | .reject => deleteStrategy id
          | .revisionRequested => requestRevision id ownerUserId dto

/-! ### Retries -/

/-- The owner may retry after this event. -/
def retryAllowed (latestProgress : Option StrategyProgressEvent) : Bool :=
  latestProgress.any fun event => event.status = .failed ∧ event.retryable = some true

/-- Resume from a completed retrieval. -/
def resumeGeneration (id retrievalRunId : Uuid) : Code Unit := do
  let readyClaimed ← claimForGeneration id [.failed] .ready
  require readyClaimed (.badRequest none "Retry is already in progress")
  let retrievingClaimed ← claimForGeneration id [.ready] .retrieving
  require retrievingClaimed (.badRequest none "Retry is already in progress")
  updateStrategyStatus id .queued
  Db.addJob (.generate id retrievalRunId)
  recordProgress id "queued" .started "strategy.retry.resumed" none

/-- What `retryGeneration` does when the profile is current. -/
def resume (id ownerUserId : Uuid) : Code Unit := do
  let latestVersion ← Db.findLatestVersion id
  match latestVersion with
  | none => pure ()
  | some version => Db.createDecision version.id ownerUserId .retry none
  let latestRun ← Db.findLatestRun id
  match latestRun.filter StrategyRetrievalRun.isUsable with
  | some run => resumeGeneration id run.id
  | none =>
      let restartClaimed ← claimForGeneration id [.failed] .ready
      require restartClaimed (.badRequest none "Retry is already in progress")
      startGeneration id ownerUserId

def retryGeneration (id ownerUserId : Uuid) : Code Unit := do
  match ← getStrategyByIdAndOwner id ownerUserId with
  | none => throw (.notFound "Strategy not found")
  | some strategy =>
      require (strategy.row.status = .failed)
        (.badRequest none "Strategy is not in a failed state")
      let latestProgress ← Db.findLatestEvent id
      require (retryAllowed latestProgress)
        (.badRequest (some "STRATEGY_RETRY_NOT_ALLOWED")
          "The latest Strategy failure is not retryable.")
      let retryCount ← Db.countRetries id
      require (retryCount < maxOwnerRetries)
        (.badRequest none "Maximum retry limit of 3 has been reached for this strategy")
      let latestProfile ← Db.findActiveProfile strategy.row.businessId
      match strategy.brief, latestProfile with
      | some brief, some profile =>
          require (profile.id = brief.businessProfileVersionId)
            (.badRequest (some "STALE_PROFILE")
              "The business profile has been updated since this brief was created. Please review and re-confirm.")
          resume id ownerUserId
      | _, _ => throw (.badRequest none "Brief or confirmed profile is missing")

end MarketMind.Strategy
