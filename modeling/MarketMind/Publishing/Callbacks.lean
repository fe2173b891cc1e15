import MarketMind.Publishing.Intents

/-!
Owns the signed callbacks of n8n: the stored attempt as the frozen contract sees
it, the transaction that records a callback, and the answer to a duplicate.

A transaction that fails to serialize is rolled back and run again, as if it had
started later; no statement of the store fails in that way.
-/

namespace MarketMind.Publishing.Callbacks

open Contract MarketMind.Transactions

/-! ### The stored attempt -/

def toFrozenAttemptState : AttemptStatus → String
  | .queued => "queued"
  | .running | .dispatching => "running"
  | .succeeded => "succeeded"
  | .failed => "failed"
  | .unknown => "unknown"
  | .cancelled => "cancelled"

def requestFingerprint (host : Host) (attempt : PublishingAttempt) : String :=
  match attempt.providerRequestFingerprint, attempt.workflowVersion with
  | some stamped, _ => stamped
  | none, some workflowVersion =>
      if workflowVersion.startsWith "local-" then
        Intents.localFingerprint host attempt.intentId attempt.intentVersion
          attempt.idempotencyKey workflowVersion
      else ""
  | none, none => ""

def dateOrNull (host : Host) (value : Option Instant) : Json :=
  value.elim .null fun instant => .string (host.toISOString instant)

def toPublicationAttemptV1 (host : Host) (attempt : PublishingAttempt) : Json :=
  .object [("contract_version", .string "publication-attempt-v1"),
    ("attempt_id", .string (host.uuidText attempt.id)),
    ("intent_id", .string (host.uuidText attempt.intentId)),
    ("intent_version", .number (.integer attempt.intentVersion)),
    ("attempt_number", .number (.integer attempt.attemptSequence)),
    ("idempotency_key", .string attempt.idempotencyKey),
    ("workflow_version", .string (attempt.workflowVersion.getD "")),
    ("request_fingerprint", .string (requestFingerprint host attempt)),
    ("state", .string (toFrozenAttemptState attempt.status)),
    ("started_at", dateOrNull host attempt.startedAt),
    ("finished_at", dateOrNull host attempt.finishedAt),
    ("created_at", .string (host.toISOString attempt.createdAt))]

/-! ### The signed result -/

def outcomeOf (value : Option Json) : Option PublicationOutcome :=
  if isText value "published" then some .published
  else if isText value "exported" then some .exported
  else if isText value "simulated" then some .simulated
  else if isText value "failed" then some .failed
  else if isText value "unknown" then some .unknown
  else if isText value "cancelled" then some .cancelled
  else none

/-- A text column that may be null. -/
def nullableText : Option Json → Option String
  | some (.string text) => some text
  | _ => none

/-- What a valid callback says of an attempt. -/
structure Report where
  callbackId : String
  payloadHash : String
  outcome : PublicationOutcome
  result : PublishingResult

/-- The callback as it is recorded; `none` where the code would read a property
that a valid callback has. -/
def reportOf (host : Host) (envelope : Json) (attempt : PublishingAttempt) : Option Report := do
  let body ← bodyOf envelope
  let callbackId ← nullableText (property (some body) "callback_id")
  let result := property (some body) "result"
  let outcome ← outcomeOf (property result "outcome")
  let occurredAt ← nullableText (property result "occurred_at")
  return {
    callbackId
    payloadHash := computeCallbackFingerprint host body
    outcome
    result := {
      attemptId := attempt.id
      intentId := attempt.intentId
      outcome
      provider := nullableText (property result "provider")
      remotePublicationId := nullableText (property result "remote_publication_id")
      remoteUrl := nullableText (property result "remote_url")
      exportArtifactId := nullableText (property result "export_artifact_id")
      simulationLabel := nullableText (property result "simulation_label")
      errorCode := nullableText (property result "error_code")
      retryable := isFlag (property result "retryable") true
      rawPayloadHash := some (computeCallbackFingerprint host body)
      occurredAt := host.parseDate occurredAt } }

def toException : Option Issue → PublishingError
  | none => .badRequest ErrorCode.callbackInvalid.text
  | some issue =>
      match issue.code with
      | .webhookUnauthorized | .webhookTimestampInvalid | .webhookNonceReplayed =>
          .unauthorized issue.code.text
      | .callbackConflict | .idempotencyConflict | .stateConflict => .conflict issue.code.text
      | _ => .badRequest issue.code.text

/-! ### Recording a callback -/

/-- Claim the identity of the callback. -/
def claimIdentity (attemptId : Uuid) (report : Report) : Code Unit :=
  tryCatch
    (Db.createIdentity {
      attemptId
      externalCallbackId := report.callbackId
      payloadHash := report.payloadHash
      outcome := report.outcome })
    fun error =>
      if error = .uniqueConstraint then throw (.callbackIdentityDuplicate report.callbackId)
      else throw error

/-- The first result of an attempt is final; the attempt takes its state, and so
does the intent unless the attempt is superseded. -/
def settle (attempt : PublishingAttempt) (report : Report) (isSuperseded : Bool) (now : Instant) :
    Code Unit := do
  Db.createResult report.result
  Db.updateAttempt attempt.id (publicationAttemptStateForOutcome report.outcome) now
  if !isSuperseded then
    let _ ← Db.setIntentStatus attempt.intentId (publicationIntentStateForOutcome report.outcome)
    return ()
  else return ()

/-- What follows the validation; the flag says whether anything was written. -/
def record (attempt : PublishingAttempt) (report : Report) (now : Instant) : Code Bool := do
  let latestAttempt ← Db.findNewestAttempt attempt.intentId
  let isSuperseded := latestAttempt.all (·.id ≠ attempt.id)
  claimIdentity attempt.id report
  match ← Db.findResult attempt.id with
  | some existing =>
      if existing.rawPayloadHash = some report.payloadHash then return false
      else throw (.conflict ErrorCode.callbackConflict.text)
  | none =>
      settle attempt report isSuperseded now
      return true

/-- The serializable transaction of `handleCallback`. -/
def resolveAttempt (host : Host) (attemptId : Uuid) (envelope : Json) (now : Instant) :
    Code Bool := do
  Db.lockAttempt attemptId
  match ← Db.findAttempt attemptId with
  | none => throw (.badRequest ErrorCode.callbackInvalid.text)
  | some attempt =>
      Db.lockIntent attempt.intentId
      let issues :=
        validatePublicationCallbackContext host envelope (toPublicationAttemptV1 host attempt) now
      if issues ≠ [] then throw (toException issues.head?)
      else
        match reportOf host envelope attempt with
        | none => throw (.plain "Cannot read properties of undefined")
        | some report => record attempt report now

/-- The answer to a callback whose identity is taken, from a fresh read. -/
def answerDuplicate (callbackId fingerprint : String) : Code Unit := do
  let existing ← Db.findIdentity callbackId
  if existing.any (·.payloadHash = fingerprint) then return ()
  else throw (.conflict ErrorCode.callbackConflict.text)

/-- What `handleCallback` answers when its transaction throws. -/
def answerError (fingerprint : String) : PublishingError → Code Bool
  | .callbackIdentityDuplicate callbackId => do
      answerDuplicate callbackId fingerprint
      return false
  | error => throw error

/-- `signedBody.attempt_id`, with which the route has to agree. -/
def signedAttemptId (envelope : Json) : Option Json := property (bodyOf envelope) "attempt_id"

def handleCallback (host : Host) (attemptId : String) (envelope : Json) (now : Instant) :
    Code Unit := do
  if host.signingSecret = "" || host.signingKeyId = "" then
    throw (.unauthorized ErrorCode.webhookUnauthorized.text)
  else if !isText (signedAttemptId envelope) attemptId then
    throw (.unauthorized ErrorCode.webhookUnauthorized.text)
  else
    -- PostgreSQL refuses to read anything but a UUID as one.
    match host.uuidOf attemptId with
    | none => throw .databaseFailure
    | some id =>
        let fingerprint := computeCallbackFingerprint host ((bodyOf envelope).getD .null)
        let _ ← tryCatch (Program.transaction (resolveAttempt host id envelope now))
          (answerError fingerprint)
        return ()

end MarketMind.Publishing.Callbacks
