import MarketMind.Publishing.Contract
import MarketMind.Publishing.Database

/-!
Owns what an owner does with a publishing intent: create, schedule, approve,
cancel, reschedule, retry, and the local export and simulation.

Requests reach the service after validation. Times that the database generates
are those of the call, `now`. What is projected for the browser is left out.
-/

namespace MarketMind.Publishing.Intents

open MarketMind.Transactions

/-! ### Requests -/

structure CreateRequest where
  candidateId : Uuid
  mode : Option PublishingMode
  idempotencyKey : String
deriving DecidableEq, Repr

/-- A schedule as the owner enters it; also the request of a reschedule. -/
structure ScheduleRequest where
  scheduledLocalAt : String
  timezone : String
  targetId : Uuid
  currentVersion : Nat
deriving DecidableEq, Repr

structure ApproveRequest where
  decision : Decision
  currentVersion : Nat
  candidateChecksum : String
  idempotencyKey : String
deriving DecidableEq, Repr

structure RetryRequest where
  currentVersion : Nat
  expectedLastAttemptNumber : Nat
  idempotencyKey : String
deriving DecidableEq, Repr

structure LocalRequest where
  idempotencyKey : String
  /-- `randomUUID()` of this call. -/
  artifactId : String
deriving DecidableEq, Repr

def cancellableStatuses : List IntentStatus := [.draft, .awaitingApproval, .scheduled]

def retryableStatuses : List IntentStatus := [.failed]

def dispatchKeyFor (actionKey : String) : String := actionKey ++ "::dispatch"

/-! ### Create -/

/-- Whether the stored intent is what this create asks for. -/
def sameCreate (request : CreateRequest) (row : PublishingIntent) : Bool :=
  row.candidateId = request.candidateId ∧ row.mode = request.mode.getD .real

/-- The transaction of `createIntent`. -/
def createFresh (businessId userId : Uuid) (request : CreateRequest) : Code PublishingIntent := do
  let candidate ← Db.findCandidate request.candidateId
  match candidate.filter (·.businessId = businessId) with
  | none => throw (.notFound "PUBLISHING_NOT_FOUND")
  | some candidate =>
      if candidate.status ≠ .active then
        throw (.unprocessable
          ("PUBLISHING_CANDIDATE_REVOKED: candidate is " ++ candidate.status.text))
      else
        if request.mode.getD .real = .real then
          let existing ← Db.findSlotIntent businessId request.candidateId
          if existing.isSome then throw (.conflict "PUBLISHING_STATE_CONFLICT")
        tryCatch
          (Db.createIntent {
            id := 0
            businessId
            candidateId := request.candidateId
            mode := request.mode.getD .real
            status := .draft
            version := 1
            binding := ⟨none, none, none, none⟩
            createdByUserId := userId
            idempotencyKey := request.idempotencyKey })
          fun error => do
            if error = .uniqueConstraint then
              let winner ← Db.findIntentByKey businessId request.idempotencyKey
              match winner.filter (sameCreate request) with
              | some winner => return winner
              | none => throw (.conflict "PUBLISHING_STATE_CONFLICT")
            else throw error

def createIntent (businessId userId : Uuid) (request : CreateRequest) : Code PublishingIntent := do
  match ← Db.findIntentByKey businessId request.idempotencyKey with
  | some replayed =>
      if sameCreate request replayed then return replayed
      else throw (.conflict "PUBLISHING_IDEMPOTENCY_CONFLICT")
  | none => Program.transaction (createFresh businessId userId request)

/-! ### Schedule and reschedule -/

def assertTargetBindable (targetId businessId : Uuid) (now : Instant) : Code Unit := do
  let target ← Db.findTarget targetId
  match target.filter (·.businessId = businessId) with
  | none => throw (.notFound "PUBLISHING_NOT_FOUND")
  | some target =>
      if target.connectionState ≠ .connected then
        throw (.badRequest ("PUBLISHING_TARGET_NOT_CONNECTED: target " ++ toString targetId ++
          " is " ++ target.connectionState.text))
      else if target.expiresAt.any (· < now) then
        throw (.badRequest "PUBLISHING_TARGET_UNAUTHORIZED")
      else return ()

/-- What the request binds an intent to. `localInstant` is `new Date(scheduledLocalAt)`. -/
def bindingOf (host : Host) (request : ScheduleRequest) (scheduledUtcAt : Instant) : Binding :=
  { targetId := some request.targetId
    scheduledLocalAt := host.parseDate request.scheduledLocalAt
    timezone := some request.timezone
    scheduledUtcAt := some scheduledUtcAt }

/-- `localToUtc` with the check that the schedule lies ahead. -/
def scheduledAt (host : Host) (request : ScheduleRequest) (now : Instant) : Code Instant :=
  match host.localToUtc request.scheduledLocalAt request.timezone with
  | none => throw (.badRequest "PUBLISHING_INVALID_SCHEDULE")
  | some scheduledUtcAt =>
      if scheduledUtcAt ≤ now then throw (.badRequest "PUBLISHING_SCHEDULE_IN_PAST")
      else return scheduledUtcAt

/-- Remove the jobs one by one; one that cannot be removed is left. -/
def removeJobs : List QueuedJob → Code Unit
  | [] => return ()
  | job :: rest => do
      tryCatch (Queue.remove job.jobId) fun _ => return ()
      removeJobs rest

def removeOldDispatchJobs (intentId : Uuid) : Code Unit :=
  tryCatch
    (do
      let jobs ← Queue.getDelayed
      removeJobs (jobs.filter (·.data.intentId = intentId)))
    fun _ => return ()

/-- The transaction of `scheduleIntent`. -/
def bindFresh (intentId businessId : Uuid) (request : ScheduleRequest) (binding : Binding)
    (now : Instant) : Code PublishingIntent := do
  let intent ← Db.orThrow (Db.findIntent intentId)
  assertOwnership intent.businessId businessId
  assertVersion intent.version request.currentVersion
  assertStatusIn intent.status [.draft, .awaitingApproval, .scheduled]
  assertTargetBindable request.targetId businessId now
  Db.bindIntent intentId binding (intent.version + 1)

def scheduleIntent (host : Host) (intentId businessId : Uuid) (request : ScheduleRequest)
    (now : Instant) : Code PublishingIntent := do
  let scheduledUtcAt ← scheduledAt host request now
  let updated ← Program.transaction
    (bindFresh intentId businessId request (bindingOf host request scheduledUtcAt) now)
  removeOldDispatchJobs intentId
  return updated

/-- The transaction of `rescheduleIntent`. -/
def rebind (intentId businessId : Uuid) (request : ScheduleRequest) (binding : Binding)
    (now : Instant) : Code PublishingIntent := do
  let intent ← Db.orThrow (Db.findIntent intentId)
  assertOwnership intent.businessId businessId
  assertVersion intent.version request.currentVersion
  assertStatusIn intent.status [.scheduled, .awaitingApproval]
  assertTargetBindable request.targetId businessId now
  Db.rebindIntent intentId binding

def rescheduleIntent (host : Host) (intentId businessId : Uuid) (request : ScheduleRequest)
    (now : Instant) : Code PublishingIntent := do
  let scheduledUtcAt ← scheduledAt host request now
  let updated ← Program.transaction
    (rebind intentId businessId request (bindingOf host request scheduledUtcAt) now)
  removeOldDispatchJobs intentId
  return updated

/-! ### Approve -/

/-- What the transaction of `approveIntent` found or did. -/
structure Approved where
  intent : PublishingIntent
  approval : PublishingApproval
  raced : Bool
  replayed : Bool

def fingerprintOf (intent : PublishingIntent) (request : ApproveRequest) : ApprovalFingerprint :=
  { decision := request.decision
    intentId := intent.id
    intentVersion := intent.version
    candidateId := intent.candidateId
    candidateChecksum := request.candidateChecksum
    mode := intent.mode
    binding := intent.binding }

/-- The status of the intent after the decision. -/
def statusAfter (intent : PublishingIntent) (decision : Decision) : IntentStatus :=
  match decision with
  | .approved => if intent.binding.scheduledUtcAt.isSome then .scheduled else intent.status
  | .rejected => .cancelled

/-- Record the decision and move the intent on. -/
def decide (intent : PublishingIntent) (userId : Uuid) (request : ApproveRequest) (now : Instant) :
    Code Approved := do
  let created ← tryCatch
    (do
      let approval ← Db.createApproval {
        id := 0
        intentId := intent.id
        intentVersionAtDecision := intent.version
        candidateChecksum := request.candidateChecksum
        decision := request.decision
        decidedByUserId := userId
        decidedAt := now
        approvalFingerprint := fingerprintOf intent request
        idempotencyKey := request.idempotencyKey }
      return (approval, false))
    fun error => do
      if error = .uniqueConstraint then
        let existing ← Db.orThrow (Db.findApprovalByKey intent.id request.idempotencyKey)
        return (existing, true)
      else throw error
  if created.2 then return ⟨intent, created.1, true, true⟩
  else
    let updated ← Db.setIntentStatus intent.id (statusAfter intent request.decision)
    return ⟨updated, created.1, false, false⟩

/-- The transaction of `approveIntent`. -/
def approveFresh (intentId businessId userId : Uuid) (request : ApproveRequest) (now : Instant) :
    Code Approved := do
  let intent ← Db.orThrow (Db.findIntent intentId)
  let candidate ← Db.orThrow (Db.findCandidate intent.candidateId)
  assertOwnership intent.businessId businessId
  assertVersion intent.version request.currentVersion
  assertStatusIn intent.status [.awaitingApproval]
  if candidate.candidateChecksum ≠ request.candidateChecksum then
    throw (.conflict "PUBLISHING_CANDIDATE_TAMPERED")
  else
    match ← Db.findApprovalByKey intentId request.idempotencyKey with
    | some replayed =>
        if replayed.approvalFingerprint ≠ fingerprintOf intent request then
          throw (.conflict "PUBLISHING_IDEMPOTENCY_CONFLICT")
        else return ⟨intent, replayed, false, true⟩
    | none => decide intent userId request now

def approveIntent (intentId businessId userId : Uuid) (request : ApproveRequest) (now : Instant) :
    Code (PublishingIntent × PublishingApproval) := do
  let approved ← Program.transaction (approveFresh intentId businessId userId request now)
  match approved.intent.binding.scheduledUtcAt with
  | some scheduledUtcAt =>
      if !approved.raced && !approved.replayed && approved.intent.status = .scheduled then
        Queue.add (.publish intentId approved.intent.version)
          ⟨intentId, approved.intent.version, dispatchKeyFor request.idempotencyKey⟩
          (max 0 (scheduledUtcAt - now))
      return (approved.intent, approved.approval)
  | none => return (approved.intent, approved.approval)

/-! ### Cancel -/

/-- The transaction of `cancelIntent`. -/
def cancelFresh (intentId businessId : Uuid) (currentVersion : Nat) : Code PublishingIntent := do
  let intent ← Db.orThrow (Db.findIntent intentId)
  assertOwnership intent.businessId businessId
  assertVersion intent.version currentVersion
  if cancellableStatuses.contains intent.status then Db.setIntentStatus intentId .cancelled
  else throw (.badRequest "PUBLISHING_STATE_CONFLICT")

def cancelIntent (intentId businessId : Uuid) (currentVersion : Nat) : Code PublishingIntent := do
  let updated ← Program.transaction (cancelFresh intentId businessId currentVersion)
  removeOldDispatchJobs intentId
  return updated

/-! ### Retry -/

/-- The latest attempt is the failure that the caller has seen. -/
def provenFailure (request : RetryRequest) (attempt : PublishingAttempt) : Bool :=
  attempt.status = .failed ∧ attempt.attemptSequence = request.expectedLastAttemptNumber

/-- The transaction of `retryIntent`. -/
def retryFresh (intentId businessId : Uuid) (request : RetryRequest) : Code PublishingIntent := do
  let intent ← Db.orThrow (Db.findIntent intentId)
  let currentApproval ← Db.findLatestApproval intentId
  let latestAttempt ← Db.findLastAttempt intentId none
  assertOwnership intent.businessId businessId
  assertVersion intent.version request.currentVersion
  if retryableStatuses.contains intent.status then
    if latestAttempt.any (provenFailure request) then
      if currentApproval.any (·.intentVersionAtDecision = intent.version) then
        Db.setIntentStatus intentId .scheduled
      else throw (.badRequest "PUBLISHING_APPROVAL_REQUIRED")
    else throw (.conflict "PUBLISHING_IDEMPOTENCY_CONFLICT")
  else throw (.badRequest "PUBLISHING_STATE_CONFLICT")

def retryIntent (intentId businessId : Uuid) (request : RetryRequest) (now : Instant) :
    Code PublishingIntent := do
  let updated ← Program.transaction (retryFresh intentId businessId request)
  match updated.binding.scheduledUtcAt with
  | some scheduledUtcAt =>
      Queue.add (.retry intentId updated.version request.idempotencyKey)
        ⟨intentId, updated.version, dispatchKeyFor request.idempotencyKey⟩
        (max 0 (scheduledUtcAt - now))
      return updated
  | none => return updated

/-! ### Export and simulation -/

inductive LocalMode
  | manualExport
  | simulation
deriving DecidableEq, Repr

def LocalMode.mode : LocalMode → PublishingMode
  | manualExport => .manualExport
  | simulation => .simulation

def LocalMode.workflowVersion : LocalMode → String
  | manualExport => "local-export-v1"
  | simulation => "local-v1"

def LocalMode.outcome : LocalMode → PublicationOutcome
  | manualExport => .exported
  | simulation => .simulated

/-- `computeLocalActionRequestFingerprint` -/
def localFingerprint (host : Host) (intentId : Uuid) (intentVersion : Nat)
    (idempotencyKey workflowVersion : String) : String :=
  host.sha256 (Json.stringify (.object
    [("idempotencyKey", .string idempotencyKey), ("intentId", .string (host.uuidText intentId)),
      ("intentVersion", .number (.integer intentVersion)),
      ("workflowVersion", .string workflowVersion)]))

/-- Attempt and result of a local action, which completes at once. -/
def recordLocal (host : Host) (intent : PublishingIntent) (request : LocalRequest)
    (mode : LocalMode) (sequence : Nat) (now : Instant) : Code PublishingAttempt := do
  let attempt ← Db.createAttempt {
    id := 0
    intentId := intent.id
    intentVersion := intent.version
    attemptSequence := sequence
    status := .succeeded
    workflowVersion := some mode.workflowVersion
    providerRequestFingerprint := some
      (localFingerprint host intent.id intent.version request.idempotencyKey mode.workflowVersion)
    idempotencyKey := request.idempotencyKey
    startedAt := some now
    finishedAt := some now
    createdAt := now }
  if mode = .manualExport then
    Db.createExport ⟨intent.id, request.artifactId, now⟩
  Db.createResult {
    attemptId := attempt.id
    intentId := intent.id
    outcome := mode.outcome
    provider := none
    remotePublicationId := none
    remoteUrl := none
    exportArtifactId := if mode = .manualExport then some request.artifactId else none
    simulationLabel := if mode = .simulation then some "SIMULATION" else none
    errorCode := none
    retryable := false
    rawPayloadHash := none
    occurredAt := some now }
  return attempt

/-- The transaction of `runLocalAction`; the flag says whether it is a replay. -/
def runFresh (host : Host) (intentId businessId : Uuid) (request : LocalRequest) (mode : LocalMode)
    (now : Instant) : Code (PublishingAttempt × Bool) := do
  let intent ← Db.orThrow (Db.findIntent intentId)
  let candidate ← Db.orThrow (Db.findCandidate intent.candidateId)
  assertOwnership intent.businessId businessId
  if intent.mode ≠ mode.mode then
    throw (.badRequest ("PUBLISHING_STATE_CONFLICT: intent mode is " ++ intent.mode.text ++
      ", expected " ++ mode.mode.text))
  else
    assertStatusIn intent.status [.draft, .failed, .actionRequired]
    match ← Db.findAttemptByKey intentId request.idempotencyKey with
    | some replayed => return (replayed, true)
    | none =>
        if candidate.status ≠ .active then
          throw (.badRequest
            ("PUBLISHING_CANDIDATE_REVOKED: candidate is " ++ candidate.status.text))
        else
          let _ ← Db.setIntentStatus intentId .dispatching
          let lastAttempt ← Db.findLastAttempt intentId none
          if mode = .manualExport then Db.createArchive intentId candidate.payload
          let attempt ← recordLocal host intent request mode
            (lastAttempt.elim 1 (·.attemptSequence + 1)) now
          let _ ← Db.setIntentStatus intentId .succeeded
          return (attempt, false)

def runLocalAction (host : Host) (intentId businessId : Uuid) (request : LocalRequest)
    (mode : LocalMode) (now : Instant) : Code (PublishingAttempt × Bool) :=
  Program.transaction (runFresh host intentId businessId request mode now)

end MarketMind.Publishing.Intents
