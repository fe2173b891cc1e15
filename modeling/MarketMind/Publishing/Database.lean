import MarketMind.Publishing.Store

/-!
Owns the vocabulary of the publishing services: their statements under the names
of the tables, their error texts, and the checks that they share.
-/

namespace MarketMind.Publishing

open MarketMind.Transactions

/-- Code of the publishing services. -/
abbrev Code (α : Type) := Program publishing α

namespace Db

def findIntent (id : Uuid) : Code (Option PublishingIntent) := @Program.ask publishing (.findIntent id)

def findIntentByKey (businessId : Uuid) (idempotencyKey : String) :
    Code (Option PublishingIntent) :=
  @Program.ask publishing (.findIntentByKey businessId idempotencyKey)

def findSlotIntent (businessId candidateId : Uuid) : Code (Option PublishingIntent) :=
  @Program.ask publishing (.findSlotIntent businessId candidateId)

def findOverdueIntents (now : Instant) : Code (List PublishingIntent) :=
  @Program.ask publishing (.findOverdueIntents now)

def createIntent (row : PublishingIntent) : Code PublishingIntent :=
  @Program.ask publishing (.createIntent row)

def bindIntent (id : Uuid) (binding : Binding) (version : Nat) : Code PublishingIntent :=
  @Program.ask publishing (.bindIntent id binding version)

def rebindIntent (id : Uuid) (binding : Binding) : Code PublishingIntent :=
  @Program.ask publishing (.rebindIntent id binding)

def setIntentStatus (id : Uuid) (status : IntentStatus) : Code PublishingIntent :=
  @Program.ask publishing (.setIntentStatus id status)

def moveIntent (id : Uuid) (version : Option Nat) (among : List IntentStatus)
    (status : IntentStatus) : Code Nat :=
  @Program.ask publishing (.moveIntent id version among status)

def cancelIntents (cascade : Cascade) : Code Unit := @Program.ask publishing (.cancelIntents cascade)

def lockIntent (id : Uuid) : Code Unit := @Program.ask publishing (.lockIntent id)

def findApprovalByKey (intentId : Uuid) (idempotencyKey : String) :
    Code (Option PublishingApproval) :=
  @Program.ask publishing (.findApprovalByKey intentId idempotencyKey)

def findApproval (intentId : Uuid) (version : Nat) : Code (Option PublishingApproval) :=
  @Program.ask publishing (.findApproval intentId version)

def findLatestApproval (intentId : Uuid) : Code (Option PublishingApproval) :=
  @Program.ask publishing (.findLatestApproval intentId)

def createApproval (row : PublishingApproval) : Code PublishingApproval :=
  @Program.ask publishing (.createApproval row)

def findAttempt (id : Uuid) : Code (Option PublishingAttempt) :=
  @Program.ask publishing (.findAttempt id)

def findAttemptByKey (intentId : Uuid) (idempotencyKey : String) :
    Code (Option PublishingAttempt) :=
  @Program.ask publishing (.findAttemptByKey intentId idempotencyKey)

def findActiveAttempt (intentId : Uuid) (version : Nat) : Code (Option PublishingAttempt) :=
  @Program.ask publishing (.findActiveAttempt intentId version)

def findLastAttempt (intentId : Uuid) (version : Option Nat) : Code (Option PublishingAttempt) :=
  @Program.ask publishing (.findLastAttempt intentId version)

def findNewestAttempt (intentId : Uuid) : Code (Option PublishingAttempt) :=
  @Program.ask publishing (.findNewestAttempt intentId)

def countAttempts (intentId : Uuid) (version : Nat) : Code Nat :=
  @Program.ask publishing (.countAttempts intentId version)

def findStuckAttempts (cutoff : Instant) : Code (List PublishingAttempt) :=
  @Program.ask publishing (.findStuckAttempts cutoff)

def createAttempt (row : PublishingAttempt) : Code PublishingAttempt :=
  @Program.ask publishing (.createAttempt row)

def stampAttempt (id : Uuid) (requestFingerprint workflowVersion : String) : Code Unit :=
  @Program.ask publishing (.stampAttempt id requestFingerprint workflowVersion)

def updateAttempt (id : Uuid) (status : AttemptStatus) (finishedAt : Instant) : Code Unit :=
  @Program.ask publishing (.updateAttempt id status finishedAt)

def claimAttempt (id : Uuid) : Code Nat := @Program.ask publishing (.claimAttempt id)

def acknowledgeAttempt (id : Uuid) : Code Unit := @Program.ask publishing (.acknowledgeAttempt id)

def lockAttempt (id : Uuid) : Code Unit := @Program.ask publishing (.lockAttempt id)

def findResult (attemptId : Uuid) : Code (Option PublishingResult) :=
  @Program.ask publishing (.findResult attemptId)

def createResult (row : PublishingResult) : Code Unit :=
  @Program.ask publishing (.createResult row)

def resolveResult (attemptId : Uuid) (outcome : PublicationOutcome)
    (remotePublicationId : Option String) : Code Unit :=
  @Program.ask publishing (.resolveResult attemptId outcome remotePublicationId)

def findIdentity (externalCallbackId : String) : Code (Option PublishingCallbackIdentity) :=
  @Program.ask publishing (.findIdentity externalCallbackId)

def createIdentity (row : PublishingCallbackIdentity) : Code Unit :=
  @Program.ask publishing (.createIdentity row)

def createArchive (intentId : Uuid) (candidate : Json) : Code Unit :=
  @Program.ask publishing (.createArchive intentId candidate)

def createExport (row : PublishingExportMetadata) : Code Unit :=
  @Program.ask publishing (.createExport row)

def findCandidate (id : Uuid) : Code (Option PublishingCandidate) :=
  @Program.ask publishing (.findCandidate id)

def createCandidate (row : PublishingCandidate) (event : Json) (receivedAt : String) :
    Code PublishingCandidate :=
  @Program.ask publishing (.createCandidate row event receivedAt)

def updateCandidate (id : Uuid) (update : CandidateUpdate) (event : Json) (receivedAt : String) :
    Code PublishingCandidate :=
  @Program.ask publishing (.updateCandidate id update event receivedAt)

def findTarget (id : Uuid) : Code (Option PublishingTarget) := @Program.ask publishing (.findTarget id)

def syncTarget (id : Uuid) : Code Unit := @Program.ask publishing (.syncTarget id)

def writeTarget (row : PublishingTarget) : Code Unit := @Program.ask publishing (.writeTarget row)

def validateAssets (candidate : Json) : Code Bool :=
  @Program.ask publishing (.validateAssets candidate)

def recordAudit (action : String) (targetId : Uuid) : Code Unit :=
  @Program.ask publishing (.recordAudit action targetId)

/-- `findUniqueOrThrow` -/
def orThrow {Row : Type} (find : Code (Option Row)) : Code Row := do
  match ← find with
  | none => throw .recordNotFound
  | some row => return row

end Db

namespace Queue

def add (jobId : JobId) (data : DispatchJob) (delay : Int) : Code Unit :=
  @Program.ask publishing (.addJob jobId data delay)

def getJob (jobId : JobId) : Code (Option QueuedJob) := @Program.ask publishing (.findJob jobId)

def getDelayed : Code (List QueuedJob) := @Program.ask publishing .findDelayedJobs

def remove (jobId : JobId) : Code Unit := @Program.ask publishing (.removeJob jobId)

def turn (jobId : JobId) (state : Option JobState) : Code Unit :=
  @Program.ask publishing (.turnJob jobId state)

end Queue

/-! ### Texts -/

def PublishingMode.text : PublishingMode → String
  | .real => "REAL"
  | .manualExport => "MANUAL_EXPORT"
  | .simulation => "SIMULATION"

def IntentStatus.text : IntentStatus → String
  | .draft => "DRAFT"
  | .awaitingApproval => "AWAITING_APPROVAL"
  | .scheduled => "SCHEDULED"
  | .dispatching => "DISPATCHING"
  | .succeeded => "SUCCEEDED"
  | .failed => "FAILED"
  | .actionRequired => "ACTION_REQUIRED"
  | .cancelled => "CANCELLED"

def CandidateStatus.text : CandidateStatus → String
  | .active => "ACTIVE"
  | .revoked => "REVOKED"
  | .replaced => "REPLACED"

def ConnectionState.text : ConnectionState → String
  | .connected => "CONNECTED"
  | .expired => "EXPIRED"
  | .revoked => "REVOKED"
  | .error => "ERROR"

def PublicationOutcome.text : PublicationOutcome → String
  | .published => "PUBLISHED"
  | .exported => "EXPORTED"
  | .simulated => "SIMULATED"
  | .failed => "FAILED"
  | .unknown => "UNKNOWN"
  | .cancelled => "CANCELLED"

/-! ### Shared checks -/

def assertOwnership (resourceBusinessId callerBusinessId : Uuid) : Code Unit :=
  if resourceBusinessId ≠ callerBusinessId then throw (.notFound "PUBLISHING_NOT_FOUND")
  else return ()

def assertVersion (current submitted : Nat) : Code Unit :=
  if current ≠ submitted then throw (.versionConflict current submitted)
  else return ()

def assertStatusIn (status : IntentStatus) (allowed : List IntentStatus) : Code Unit :=
  if allowed.contains status then return ()
  else throw (.statusConflict status)

end MarketMind.Publishing
