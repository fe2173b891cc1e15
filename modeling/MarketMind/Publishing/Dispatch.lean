import MarketMind.Publishing.Contract
import MarketMind.Publishing.Database

/-!
Owns the dispatch of an approved intent: the frozen body that the builder
assembles, and the processor of dispatch jobs, with its revalidation transaction,
the claim of the attempt, the outbound call and its error path.
-/

namespace MarketMind.Publishing.Dispatch

open Contract MarketMind.Transactions

/-! ### The dispatch body -/

def publicationOperation (contentFormat : Option Json) : String :=
  if isText contentFormat "text_post" then "meta.publish_text" else "meta.publish_static_image"

def frozenChannel (channel : String) : String :=
  if channel = "instagram" then "instagram" else "facebook"

/-- `Array.isArray(raw) && raw.includes(name)` -/
def listsText (raw : Json) (name : String) : Bool :=
  match raw with
  | .array items => items.any fun item => isText (some item) name
  | _ => false

def frozenCapabilities (raw : Json) : List String :=
  let capabilities := ["static_image", "text"].filter (listsText raw)
  if capabilities.isEmpty then ["static_image"] else capabilities

/-- The items of `candidate.assets ?? []`. -/
def assetsOf (candidate : Json) : List Json :=
  match property (some candidate) "assets" with
  | some (.array items) => items
  | _ => []

/-- One hour. -/
def assetRetrievalTtl : Int := 3600000

/-- What the builder needs of the revalidation transaction. -/
structure AssemblyInput where
  attemptId : Uuid
  intentId : Uuid
  intentVersion : Nat
  businessId : Uuid
  idempotencyKey : String
  candidate : Json
  candidateStatus : Json
  target : PublishingTarget
  approval : PublishingApproval
  scheduledUtcAt : Instant
  retrievalStartedAt : Instant

def snapshotTarget (target : PublishingTarget) : TargetSnapshot :=
  { targetId := target.id
    version := target.version
    businessId := target.businessId
    channel := frozenChannel target.channel
    externalAccountId := target.externalAccountId
    displayName := target.displayName
    connectionState := target.connectionState
    credentialRef := target.credentialRef
    capabilities := frozenCapabilities target.capabilities
    lastVerifiedAt := target.lastVerifiedAt }

def snapshotApproval (host : Host) (input : AssemblyInput) : ApprovalSnapshot :=
  { decisionId := input.approval.id
    intentId := input.intentId
    intentVersion := input.intentVersion
    candidateId := property (some input.candidate) "candidate_id"
    candidateChecksum := input.approval.candidateChecksum
    targetId := input.target.id
    scheduledLocal := host.toNaiveLocal input.scheduledUtcAt
    scheduledUtc := input.scheduledUtcAt
    decidedByUserId := input.approval.decidedByUserId
    decidedAt := input.approval.decidedAt }

def dispatchAsset (host : Host) (retrievalStartedAt : Instant) (asset : Json) : DispatchAsset :=
  let assetId := property (some asset) "asset_id"
  { assetId
    checksum := property (some asset) "checksum"
    mimeType := property (some asset) "mime_type"
    retrievalUrl := host.callbackBaseUrl ++ "/internal/v1/publishing/assets/" ++ textOf assetId
    retrievalExpiresAt := retrievalStartedAt + assetRetrievalTtl }

def buildDispatchBody (host : Host) (input : AssemblyInput) : DispatchBody :=
  { attemptId := input.attemptId
    intentId := input.intentId
    intentVersion := input.intentVersion
    businessId := input.businessId
    idempotencyKey := input.idempotencyKey
    workflowVersion := host.workflowVersion
    candidate := input.candidate
    candidateStatus := input.candidateStatus
    assets := (assetsOf input.candidate).map (dispatchAsset host input.retrievalStartedAt)
    callbackUrl := host.callbackBaseUrl ++ "/internal/v1/publishing/dispatch/" ++
      host.uuidText input.attemptId ++ "/callback"
    operation := publicationOperation (property (some input.candidate) "content_format")
    target := snapshotTarget input.target
    approval := snapshotApproval host input
    scheduledUtc := input.scheduledUtcAt }

/-! ### The body as JSON -/

def stateText : ConnectionState → String
  | .connected => "connected"
  | .expired => "expired"
  | .revoked => "revoked"
  | .error => "error"

/-- A property that is left out when its value is `undefined`. -/
def optional (name : String) (value : Option Json) : Fields := (value.map (name, ·)).toList

def targetJson (host : Host) (target : TargetSnapshot) : Json :=
  .object [("contract_version", .string "publishing-target-v1"),
    ("target_id", .string (host.uuidText target.targetId)),
    ("version", .number (.integer target.version)),
    ("business_id", .string (host.uuidText target.businessId)), ("provider", .string "meta"),
    ("channel", .string target.channel), ("external_account_id", .string target.externalAccountId),
    ("display_name", .string target.displayName),
    ("connection_state", .string (stateText target.connectionState)),
    ("credential_ref", .string target.credentialRef),
    ("capabilities", .array (target.capabilities.map .string)),
    ("last_verified_at", target.lastVerifiedAt.elim .null fun at_ => .string (host.toISOString at_))]

/-- The snapshot without its fingerprint. -/
def approvalFields (host : Host) (approval : ApprovalSnapshot) : Fields :=
  [("contract_version", .string "publication-approval-v1"),
    ("decision_id", .string (host.uuidText approval.decisionId)),
    ("intent_id", .string (host.uuidText approval.intentId)),
    ("intent_version", .number (.integer approval.intentVersion))] ++
  optional "candidate_id" approval.candidateId ++
  [("candidate_checksum", .string approval.candidateChecksum), ("mode", .string "real"),
    ("target_id", .string (host.uuidText approval.targetId)),
    ("scheduled_local", .string approval.scheduledLocal), ("time_zone", .string "Africa/Cairo"),
    ("scheduled_utc", .string (host.toISOString approval.scheduledUtc)),
    ("decided_by_user_id", .string (host.uuidText approval.decidedByUserId)),
    ("decided_at", .string (host.toISOString approval.decidedAt))]

def approvalJson (host : Host) (approval : ApprovalSnapshot) : Json :=
  let fields := approvalFields host approval
  .object (fields ++
    [("approval_fingerprint", .string (computePublishingSha256 host (.object fields)))])

def assetJson (host : Host) (asset : DispatchAsset) : Json :=
  .object (optional "asset_id" asset.assetId ++ optional "checksum" asset.checksum ++
    optional "mime_type" asset.mimeType ++
    [("retrieval_url", .string asset.retrievalUrl),
      ("retrieval_expires_at", .string (host.toISOString asset.retrievalExpiresAt))])

def bodyJson (host : Host) (body : DispatchBody) : Json :=
  .object [("contract_version", .string "publication-dispatch-v1"),
    ("attempt_id", .string (host.uuidText body.attemptId)),
    ("intent_id", .string (host.uuidText body.intentId)),
    ("intent_version", .number (.integer body.intentVersion)),
    ("business_id", .string (host.uuidText body.businessId)),
    ("correlation_id", .string (host.uuidText body.intentId)),
    ("idempotency_key", .string body.idempotencyKey),
    ("workflow_version", .string body.workflowVersion), ("candidate", body.candidate),
    ("candidate_status", body.candidateStatus), ("assets", .array (body.assets.map (assetJson host))),
    ("callback_url", .string body.callbackUrl), ("mode", .string "real"),
    ("operation", .string body.operation), ("target", targetJson host body.target),
    ("approval", approvalJson host body.approval),
    ("scheduled_utc", .string (host.toISOString body.scheduledUtc))]

def computeDispatchRequestFingerprint (host : Host) (body : DispatchBody) : String :=
  computePublishingSha256 host (bodyJson host body)

/-! ### The revalidation transaction -/

/-- What the transaction finds or creates. -/
inductive Revalidated
  | replayed (attemptId : Uuid) (status : AttemptStatus)
  | accepted (attemptId : Uuid) (body : DispatchBody)

/-- A queued attempt of this very job, left behind by a worker that died. -/
def recoversQueued (intent : PublishingIntent) (version : Nat) (existing : PublishingAttempt) :
    Bool :=
  existing.status = .queued ∧ existing.intentVersion = version ∧ intent.version = version ∧
    intent.status = .dispatching

/-- The atomic claim of the intent. -/
def claimIntent (intent : PublishingIntent) (version : Nat) : Code Unit := do
  if intent.version ≠ version then
    throw (.plain ("PUBLISHING_STATE_CONFLICT: intent version mismatch (expected " ++
      toString version ++ ", current " ++ toString intent.version ++ ")"))
  else if intent.status ≠ .scheduled then
    if intent.status = .dispatching then
      throw (.dispatchClaimLost ("intent " ++ toString intent.id ++ " is already DISPATCHING at v" ++
        toString version))
    else
      throw (.plain ("PUBLISHING_STATE_CONFLICT: intent status is \"" ++ intent.status.text ++
        "\", expected SCHEDULED"))
  else
    let count ← Db.moveIntent intent.id (some version) [.scheduled] .dispatching
    if count ≠ 1 then
      throw (.dispatchClaimLost ("intent " ++ toString intent.id ++ " no longer claimable at v" ++
        toString version ++ " (status " ++ intent.status.text ++ ")"))
    else return ()

/-- The rows that a dispatch is built from, each with its checks. -/
def revalidate (intent : PublishingIntent) (version : Nat) (now : Instant) :
    Code (PublishingApproval × PublishingCandidate × PublishingTarget) := do
  match ← Db.findApproval intent.id version with
  | none =>
      throw (.plain ("PUBLISHING_APPROVAL_REQUIRED: no valid approval for intent version " ++
        toString version))
  | some approval =>
      let candidate ← Db.orThrow (Db.findCandidate intent.candidateId)
      if candidate.status ≠ .active then
        throw (.plain ("PUBLISHING_CANDIDATE_REVOKED: candidate is " ++ candidate.status.text))
      else if candidate.candidateChecksum ≠ approval.candidateChecksum then
        throw (.plain "PUBLISHING_ASSET_TAMPERED: candidate checksum drifted since approval")
      else
        -- Prisma refuses a query for the identity `null`.
        match intent.binding.targetId with
        | none => throw (.plain "Argument `id` is missing.")
        | some targetId =>
            let target ← Db.orThrow (Db.findTarget targetId)
            if target.connectionState ≠ .connected then
              throw (.plain ("PUBLISHING_TARGET_UNAUTHORIZED: target connection state is " ++
                target.connectionState.text))
            else if target.expiresAt.any (· < now) then
              throw (.plain "PUBLISHING_TARGET_UNAUTHORIZED: target credential expired")
            else return (approval, candidate, target)

/-- The attempt under which the job goes out, or the one that a concurrent worker created. -/
def openAttempt (intentId : Uuid) (version : Nat) (idempotencyKey : String) (now : Instant) :
    Code (PublishingAttempt ⊕ PublishingAttempt) := do
  let lastAttempt ← Db.findLastAttempt intentId (some version)
  tryCatch
    (do
      let attempt ← Db.createAttempt {
        id := 0
        intentId
        intentVersion := version
        attemptSequence := lastAttempt.elim 1 (·.attemptSequence + 1)
        status := .queued
        workflowVersion := none
        providerRequestFingerprint := none
        idempotencyKey
        startedAt := some now
        finishedAt := none
        createdAt := now }
      return .inl attempt)
    fun error => do
      if error = .uniqueConstraint then
        match ← Db.findAttemptByKey intentId idempotencyKey with
        | some winner => return .inr winner
        | none =>
            throw (.conflict ("PUBLISHING_IDEMPOTENCY_CONFLICT: idempotency key " ++
              idempotencyKey ++ " race with no winner"))
      else throw error

/-- Assemble the body for the attempt and stamp its fingerprint. -/
def stamp (host : Host) (intent : PublishingIntent) (version : Nat) (idempotencyKey : String)
    (rows : PublishingApproval × PublishingCandidate × PublishingTarget) (attemptId : Uuid)
    (retrievalStartedAt : Instant) : Code Revalidated := do
  match intent.binding.scheduledUtcAt with
  | none => throw (.plain "Cannot read properties of null (reading 'toISOString')")
  | some scheduledUtcAt =>
      let body := buildDispatchBody host {
        attemptId
        intentId := intent.id
        intentVersion := version
        businessId := intent.businessId
        idempotencyKey
        candidate := rows.2.1.payload
        candidateStatus := rows.2.1.sourceStatus
        target := rows.2.2
        approval := rows.1
        scheduledUtcAt
        retrievalStartedAt }
      Db.stampAttempt attemptId (computeDispatchRequestFingerprint host body) body.workflowVersion
      return .accepted attemptId body

/-- The checks after the claim, and the attempt that goes out. -/
def prepare (host : Host) (intent : PublishingIntent) (version : Nat) (idempotencyKey : String)
    (recovering : Option PublishingAttempt) (now : Instant) : Code Revalidated := do
  let rows ← revalidate intent version now
  let existing ← Db.findActiveAttempt intent.id version
  if existing.any fun found => recovering.all (·.id ≠ found.id) then
    throw (.plain ("PUBLISHING_DUPLICATE_DISPATCH: attempt already in-flight for version " ++
      toString version))
  else
    match recovering with
    | some queued =>
        stamp host intent version idempotencyKey rows queued.id
          (queued.startedAt.getD queued.createdAt)
    | none =>
        match ← openAttempt intent.id version idempotencyKey now with
        | .inr winner => return .replayed winner.id winner.status
        | .inl attempt => stamp host intent version idempotencyKey rows attempt.id now

def runRevalidationAndCreateAttempt (host : Host) (job : DispatchJob) (now : Instant) :
    Code Revalidated := do
  let intent ← Db.orThrow (Db.findIntent job.intentId)
  let existingByKey ← Db.findAttemptByKey job.intentId job.idempotencyKey
  match existingByKey with
  | some existing =>
      if recoversQueued intent job.version existing then
        prepare host intent job.version job.idempotencyKey (some existing) now
      else return .replayed existing.id existing.status
  | none =>
      claimIntent intent job.version
      prepare host intent job.version job.idempotencyKey none now

/-! ### The processor -/

/-- The statuses in which a job may still fail or acknowledge its intent. -/
def openStatuses : List IntentStatus := [.scheduled, .dispatching]

def markIntentFailed (job : DispatchJob) : Code Unit :=
  tryCatch
    (do
      let _ ← Db.moveIntent job.intentId (some job.version) openStatuses .failed
      return ())
    fun _ => return ()

def syncFacebookTarget (intentId : Uuid) : Code Unit := do
  let intent ← Db.findIntent intentId
  match intent.bind (·.binding.targetId) with
  | some targetId => Db.syncTarget targetId
  | none => return ()

/-- The transaction after the assets turned out not to be the approved ones. -/
def failAttempt (job : DispatchJob) (attemptId : Uuid) (now : Instant) : Code Unit := do
  Db.updateAttempt attemptId .failed now
  let _ ← Db.moveIntent job.intentId (some job.version) openStatuses .failed
  return ()

/-- The transaction after n8n accepted the dispatch. -/
def acknowledge (job : DispatchJob) (attemptId : Uuid) : Code Unit := do
  Db.acknowledgeAttempt attemptId
  let _ ← Db.moveIntent job.intentId (some job.version) openStatuses .dispatching
  return ()

/-- The result of an attempt whose dispatch failed. -/
def dispatchFailure (job : DispatchJob) (attemptId : Uuid) (ambiguous : Bool) (now : Instant) :
    PublishingResult :=
  { attemptId
    intentId := job.intentId
    outcome := if ambiguous then .unknown else .failed
    provider := some "meta"
    remotePublicationId := none
    remoteUrl := none
    exportArtifactId := none
    simulationLabel := none
    errorCode := some
      (if ambiguous then "PUBLISHING_PROVIDER_OUTCOME_UNKNOWN" else "PUBLISHING_PROVIDER_FAILURE")
    retryable := !ambiguous
    rawPayloadHash := none
    occurredAt := some now }

/-- The transaction after the dispatch, or its acknowledgement, failed. -/
def recordFailure (job : DispatchJob) (attemptId : Uuid) (ambiguous : Bool) (now : Instant) :
    Code Unit := do
  Db.updateAttempt attemptId (if ambiguous then .unknown else .failed) now
  let existingResult ← Db.findResult attemptId
  if existingResult.isNone then Db.createResult (dispatchFailure job attemptId ambiguous now)
  let _ ← Db.moveIntent job.intentId (some job.version) openStatuses
    (if ambiguous then .actionRequired else .failed)
  return ()

/-- `N8nClientService.dispatch` -/
def sendToN8n (body : DispatchBody) : Code Unit := do
  match ← @Program.ask publishing (.dispatch body) with
  | DispatchReply.accepted => return ()
  | DispatchReply.failed ambiguousDelivery => throw (.safeHttp ambiguousDelivery)

/-- Only a failed HTTP call can be ambiguous. -/
def isAmbiguousDelivery : PublishingError → Bool
  | .safeHttp ambiguousDelivery => ambiguousDelivery
  | _ => false

/-- Claim the attempt, send its body, and record how that went. -/
def deliver (job : DispatchJob) (attemptId : Uuid) (body : DispatchBody) (now : Instant) :
    Code Unit := do
  let claimed ← Db.claimAttempt attemptId
  if claimed ≠ 1 then return ()
  else
    tryCatch
      (do
        sendToN8n body
        Program.transaction (acknowledge job attemptId))
      fun error =>
        Program.transaction (recordFailure job attemptId (isAmbiguousDelivery error) now)

/-- Check the retrieved assets, outside any transaction. -/
def assetsHold (candidate : Json) : Code Bool :=
  tryCatch (Db.validateAssets candidate) fun _ => return false

/-- What follows a revalidation. -/
def proceed (job : DispatchJob) (revalidated : Revalidated) (now : Instant) : Code Unit := do
  match revalidated with
  | .replayed _ _ => return ()
  | .accepted attemptId body =>
      if ← assetsHold body.candidate then deliver job attemptId body now
      else Program.transaction (failAttempt job attemptId now)

/-- Run the revalidation; nothing is left to do when it throws. -/
def revalidated (host : Host) (job : DispatchJob) (now : Instant) : Code (Option Revalidated) :=
  tryCatch
    (do
      let found ← Program.transaction (runRevalidationAndCreateAttempt host job now)
      return some found)
    fun error => do
      match error with
      | .dispatchClaimLost _ => return none
      | _ =>
          markIntentFailed job
          return none

/-- Whether the target of the intent could be synchronised. -/
def synchronised (job : DispatchJob) : Code Bool :=
  tryCatch
    (do
      syncFacebookTarget job.intentId
      return true)
    fun _ => do
      markIntentFailed job
      return false

/-- `DispatchProcessor.process` -/
def process (host : Host) (job : DispatchJob) (now : Instant) : Code Unit := do
  if job.idempotencyKey = "" then return ()
  else if ← synchronised job then
    match ← revalidated host job now with
    | none => return ()
    | some found => proceed job found now
  else return ()

end MarketMind.Publishing.Dispatch
