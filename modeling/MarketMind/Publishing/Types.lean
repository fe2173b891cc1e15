import MarketMind.Json
import MarketMind.Transactions.Table

/-!
Owns the vocabulary of publishing: the states of intents, attempts and results,
the rows of the publishing tables, and the body that is dispatched to n8n.

Columns that no modelled function reads are left out. A digest over named fields
is the record of those fields, since SHA-256 is taken to have no collisions.

Does not own the tables or what the services do with them.
-/

namespace MarketMind.Publishing

open MarketMind.Transactions

/-- A row identifier. -/
abbrev Uuid := Nat

/-- Milliseconds since the epoch. -/
abbrev Instant := Int

inductive PublishingMode
  | real
  | manualExport
  | simulation
deriving DecidableEq, Repr

inductive IntentStatus
  | draft
  | awaitingApproval
  | scheduled
  | dispatching
  | succeeded
  | failed
  | actionRequired
  | cancelled
deriving DecidableEq, Repr

inductive AttemptStatus
  | queued
  | running
  | dispatching
  | succeeded
  | failed
  | unknown
  | cancelled
deriving DecidableEq, Repr

inductive PublicationOutcome
  | published
  | exported
  | simulated
  | failed
  | unknown
  | cancelled
deriving DecidableEq, Repr

inductive CandidateStatus
  | active
  | revoked
  | replaced
deriving DecidableEq, Repr

inductive ConnectionState
  | connected
  | expired
  | revoked
  | error
deriving DecidableEq, Repr

inductive Decision
  | approved
  | rejected
deriving DecidableEq, Repr

def publicationAttemptStateForOutcome : PublicationOutcome → AttemptStatus
  | .published | .exported | .simulated => .succeeded
  | .failed => .failed
  | .cancelled => .cancelled
  | .unknown => .unknown

def publicationIntentStateForOutcome : PublicationOutcome → IntentStatus
  | .published | .exported | .simulated => .succeeded
  | .failed => .failed
  | .cancelled => .cancelled
  | .unknown => .actionRequired

/-! ### Rows -/

/-- What an owner schedules: where an intent is to be published, and when. -/
structure Binding where
  targetId : Option Uuid
  scheduledLocalAt : Option Instant
  timezone : Option String
  scheduledUtcAt : Option Instant
deriving DecidableEq, Repr

structure PublishingIntent where
  id : Uuid
  businessId : Uuid
  candidateId : Uuid
  mode : PublishingMode
  status : IntentStatus
  version : Nat
  binding : Binding
  createdByUserId : Uuid
  idempotencyKey : String
deriving DecidableEq, Repr

/-- The fields that `computeApprovalFingerprint` covers. -/
structure ApprovalFingerprint where
  decision : Decision
  intentId : Uuid
  intentVersion : Nat
  candidateId : Uuid
  candidateChecksum : String
  mode : PublishingMode
  binding : Binding
deriving DecidableEq, Repr

structure PublishingApproval where
  id : Uuid
  intentId : Uuid
  intentVersionAtDecision : Nat
  candidateChecksum : String
  decision : Decision
  decidedByUserId : Uuid
  decidedAt : Instant
  approvalFingerprint : ApprovalFingerprint
  idempotencyKey : String
deriving DecidableEq, Repr

structure PublishingAttempt where
  id : Uuid
  intentId : Uuid
  intentVersion : Nat
  attemptSequence : Nat
  status : AttemptStatus
  workflowVersion : Option String
  providerRequestFingerprint : Option String
  idempotencyKey : String
  startedAt : Option Instant
  finishedAt : Option Instant
  createdAt : Instant
deriving DecidableEq, Repr

/-- The result of an attempt. There is at most one per attempt, so it is named by
its attempt. -/
structure PublishingResult where
  attemptId : Uuid
  intentId : Uuid
  outcome : PublicationOutcome
  provider : Option String
  remotePublicationId : Option String
  remoteUrl : Option String
  exportArtifactId : Option String
  simulationLabel : Option String
  errorCode : Option String
  retryable : Bool
  rawPayloadHash : Option String
  occurredAt : Option Instant
deriving DecidableEq, Repr

structure PublishingExportMetadata where
  intentId : Uuid
  artifactId : String
  exportedAt : Instant
deriving DecidableEq, Repr

structure PublishingCallbackIdentity where
  attemptId : Uuid
  externalCallbackId : String
  payloadHash : String
  outcome : PublicationOutcome
deriving DecidableEq, Repr

/-- `payload` and `sourceStatus` are the frozen candidate and its last applied
status, as they were received. -/
structure PublishingCandidate where
  id : Uuid
  businessId : Uuid
  externalContentId : String
  candidateChecksum : String
  eventFingerprint : String
  eventId : Uuid
  status : CandidateStatus
  sourceStatus : Json
  sourceStateVersion : Int
  payload : Json
  receivedAt : Instant
deriving DecidableEq

structure PublishingTarget where
  id : Uuid
  businessId : Uuid
  channel : String
  externalAccountId : String
  displayName : String
  connectionState : ConnectionState
  credentialRef : String
  capabilities : Json
  lastVerifiedAt : Option Instant
  expiresAt : Option Instant
  version : Nat
deriving DecidableEq

instance : Keyed PublishingIntent := ⟨PublishingIntent.id⟩
instance : Keyed PublishingAttempt := ⟨PublishingAttempt.id⟩
instance : Keyed PublishingResult := ⟨PublishingResult.attemptId⟩
instance : Keyed PublishingCandidate := ⟨PublishingCandidate.id⟩
instance : Keyed PublishingTarget := ⟨PublishingTarget.id⟩

@[simp] theorem key_intent (row : PublishingIntent) : Keyed.key row = row.id := rfl
@[simp] theorem key_attempt (row : PublishingAttempt) : Keyed.key row = row.id := rfl
@[simp] theorem key_result (row : PublishingResult) : Keyed.key row = row.attemptId := rfl
@[simp] theorem key_candidate (row : PublishingCandidate) : Keyed.key row = row.id := rfl
@[simp] theorem key_target (row : PublishingTarget) : Keyed.key row = row.id := rfl

/-- The id of a dispatch job: `publish:<intent>:<version>`, or that of a retry,
which carries a digest of the key of the owner's action. -/
inductive JobId
  | publish (intentId : Uuid) (version : Nat)
  | retry (intentId : Uuid) (version : Nat) (actionKey : String)
deriving DecidableEq, Repr

/-- The data of a `dispatch` job. -/
structure DispatchJob where
  intentId : Uuid
  version : Nat
  idempotencyKey : String
deriving DecidableEq, Repr

/-- Where a job is. A job with a priority waits like any other. -/
inductive JobState
  | waiting
  | delayed
  | active
  | completed
  | failed
deriving DecidableEq, Repr

/-- A job in the queue. A finished job stays until it is removed. -/
structure QueuedJob where
  jobId : JobId
  data : DispatchJob
  state : JobState
deriving DecidableEq, Repr

/-! ### The dispatch body -/

/-- `publication-approval-v1`; the fingerprint covers all other fields. -/
structure ApprovalSnapshot where
  decisionId : Uuid
  intentId : Uuid
  intentVersion : Nat
  candidateId : Option Json
  candidateChecksum : String
  targetId : Uuid
  scheduledLocal : String
  scheduledUtc : Instant
  decidedByUserId : Uuid
  decidedAt : Instant
deriving DecidableEq

/-- `publishing-target-v1` -/
structure TargetSnapshot where
  targetId : Uuid
  version : Nat
  businessId : Uuid
  channel : String
  externalAccountId : String
  displayName : String
  connectionState : ConnectionState
  credentialRef : String
  capabilities : List String
  lastVerifiedAt : Option Instant
deriving DecidableEq, Repr

/-- The identity of the asset is what the candidate says. -/
structure DispatchAsset where
  assetId : Option Json
  checksum : Option Json
  mimeType : Option Json
  retrievalUrl : String
  retrievalExpiresAt : Instant
deriving DecidableEq

/-- `publication-dispatch-v1` in mode `real`. `correlation_id` is the intent id. -/
structure DispatchBody where
  attemptId : Uuid
  intentId : Uuid
  intentVersion : Nat
  businessId : Uuid
  idempotencyKey : String
  workflowVersion : String
  candidate : Json
  candidateStatus : Json
  assets : List DispatchAsset
  callbackUrl : String
  operation : String
  target : TargetSnapshot
  approval : ApprovalSnapshot
  scheduledUtc : Instant
deriving DecidableEq

end MarketMind.Publishing
