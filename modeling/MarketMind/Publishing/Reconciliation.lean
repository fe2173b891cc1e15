import MarketMind.Publishing.Database

/-!
Owns the reconciliation sweeps, the manual resync of one intent, the resolution
of an unknown result by an administrator, and the disconnection of a target.
-/

namespace MarketMind.Publishing.Reconciliation

open MarketMind.Transactions

/-- `STUCK_ATTEMPT_TIMEOUT_MS` -/
def stuckAttemptTimeout : Int := 10 * 60 * 1000

def recoveryKey (intentId : Uuid) (version : Nat) : String :=
  "recovery:" ++ toString intentId ++ ":" ++ toString version

/-! ### Missed jobs -/

/-- What the first sweep does for one overdue intent. -/
def recoverMissedJob (intent : PublishingIntent) : Code Unit := do
  let attemptCount ← Db.countAttempts intent.id intent.version
  if attemptCount = 0 then
    let existing ← Queue.getJob (.publish intent.id intent.version)
    if existing.isNone then
      Queue.add (.publish intent.id intent.version)
        ⟨intent.id, intent.version, recoveryKey intent.id intent.version⟩ 0
    else return ()
  else return ()

def recoverAll : List PublishingIntent → Code Unit
  | [] => return ()
  | intent :: rest => do
      recoverMissedJob intent
      recoverAll rest

def recoverMissedJobs (now : Instant) : Code Unit := do
  let overdue ← Db.findOverdueIntents now
  recoverAll overdue

/-! ### Stuck attempts -/

def stuckResult (attempt : PublishingAttempt) (now : Instant) : PublishingResult :=
  { attemptId := attempt.id
    intentId := attempt.intentId
    outcome := .unknown
    provider := some "meta"
    remotePublicationId := none
    remoteUrl := none
    exportArtifactId := none
    simulationLabel := none
    errorCode := some "PUBLISHING_PROVIDER_OUTCOME_UNKNOWN"
    retryable := false
    rawPayloadHash := none
    occurredAt := some now }

/-- The transaction that the second sweep runs for one attempt. -/
def flagStuckAttempt (attempt : PublishingAttempt) (now : Instant) : Code Unit := do
  Db.updateAttempt attempt.id .unknown now
  let existing ← Db.findResult attempt.id
  if existing.isNone then Db.createResult (stuckResult attempt now)
  let _ ← Db.moveIntent attempt.intentId none [.scheduled, .dispatching] .actionRequired
  return ()

def flagAll (now : Instant) : List PublishingAttempt → Code Unit
  | [] => return ()
  | attempt :: rest => do
      Program.transaction (flagStuckAttempt attempt now)
      flagAll now rest

def flagStuckAttempts (now : Instant) : Code Unit := do
  let stuck ← Db.findStuckAttempts (now - stuckAttemptTimeout)
  flagAll now stuck

/-! ### Orphan jobs -/

/-- `TERMINAL` -/
def terminalStatuses : List IntentStatus := [.succeeded, .failed, .cancelled, .actionRequired]

def removeIfOrphan (job : QueuedJob) : Code Unit := do
  let intent ← Db.findIntent job.data.intentId
  if intent.any (terminalStatuses.contains ·.status) then Queue.remove job.jobId
  else return ()

def removeOrphans : List QueuedJob → Code Unit
  | [] => return ()
  | job :: rest => do
      removeIfOrphan job
      removeOrphans rest

def removeOrphanJobs : Code Unit :=
  tryCatch
    (do
      let delayed ← Queue.getDelayed
      removeOrphans delayed)
    fun _ => return ()

/-! ### Manual resync -/

def resyncIntent (intentId : Uuid) (now : Instant) : Code Bool := do
  let intent ← Db.orThrow (Db.findIntent intentId)
  if intent.status ≠ .scheduled then return false
  else
    let existing ← Queue.getJob (.publish intentId intent.version)
    if existing.isSome then return false
    else
      Queue.add (.publish intentId intent.version)
        ⟨intentId, intent.version, recoveryKey intentId intent.version⟩
        (max 0 (intent.binding.scheduledUtcAt.getD now - now))
      return true

/-! ### Unknown results -/

/-- How an administrator settles an unknown result: `"PUBLISHED"`, or any other text. -/
inductive Resolution
  | published
  | failed
deriving DecidableEq, Repr

def Resolution.outcome : Resolution → PublicationOutcome
  | published => .published
  | failed => .failed

/-- The status of the intent after the resolution. -/
def Resolution.intentStatus : Resolution → IntentStatus
  | published => .succeeded
  | failed => .failed

def Resolution.action : Resolution → String
  | published => "publishing.resolve_published"
  | failed => "publishing.resolve_failed"

/-- The transaction of `resolveUnknown`. Results are named by their attempts. -/
def resolveFresh (attemptId : Uuid) (resolution : Resolution)
    (remotePublicationId : Option String) : Code Unit := do
  match ← Db.findResult attemptId with
  | none => throw (.notFound "PUBLISHING_NOT_FOUND")
  | some result =>
      if result.outcome ≠ .unknown then
        throw (.badRequest ("Result is \"" ++ result.outcome.text ++
          "\", only UNKNOWN results can be manually resolved"))
      else if resolution = .published && remotePublicationId.all (· = "") then
        throw (.badRequest ("Cannot resolve as PUBLISHED without a provider remotePublicationId " ++
          "— provide proof or mark FAILED"))
      else
        Db.resolveResult attemptId resolution.outcome
          (if resolution = .published then remotePublicationId else result.remotePublicationId)
        let _ ← Db.moveIntent result.intentId none [.actionRequired] resolution.intentStatus
        Db.recordAudit resolution.action attemptId

def resolveUnknown (attemptId : Uuid) (resolution : Resolution)
    (remotePublicationId : Option String) : Code Unit :=
  Program.transaction (resolveFresh attemptId resolution remotePublicationId)

/-! ### Disconnected targets -/

/-- The transaction of `disconnectTarget`, without the credentials and connections. -/
def disconnectFresh (targetId businessId : Uuid) : Code Unit := do
  let found ← Db.findTarget targetId
  match found.filter (·.businessId = businessId) with
  | none => throw (.notFound "PUBLISHING_NOT_FOUND")
  | some target =>
      Db.cancelIntents (.target target.id)
      Db.writeTarget { target with connectionState := .revoked, version := target.version + 1 }
      Db.recordAudit "DISCONNECTED" target.id

def disconnectTarget (targetId businessId : Uuid) : Code Unit :=
  Program.transaction (disconnectFresh targetId businessId)

end MarketMind.Publishing.Reconciliation
