import MarketMind.Publishing.CandidateIntake
import MarketMind.Publishing.Database

/-!
Owns the ingestion of candidate events: the stored row as the reducer sees it,
and what the service writes of the record that the reducer returns.

The columns `channel`, `format`, `locale`, `strategy_week_number` and `version`
are left out: no modelled function reads them.
-/

namespace MarketMind.Publishing.Candidates

open Contract Intake MarketMind.Transactions

def sourceStateToDbStatus (state : Option Json) : CandidateStatus :=
  if isText state "revoked" then .revoked
  else if isText state "replaced" then .replaced
  else .active

/-- `row.status` as the frozen contract writes it. -/
def sourceStateOf : CandidateStatus → String
  | .active => "active"
  | .revoked => "revoked"
  | .replaced => "replaced"

def extractCandidateId (eventValue : Json) : Option String :=
  match property (property (some eventValue) "payload") "candidate_id" with
  | some (.string id) => some id
  | _ => none

def rowToRecord (host : Host) (row : PublishingCandidate) : Fields :=
  [("contract_version", .string "publishing-candidate-record-v1"),
    ("candidate_id", .string (host.uuidText row.id)),
    ("event_id", .string (host.uuidText row.eventId)),
    ("business_id", .string (host.uuidText row.businessId)),
    ("candidate_checksum", .string row.candidateChecksum),
    ("event_fingerprint", .string row.eventFingerprint),
    ("source_state", .string (sourceStateOf row.status)),
    ("source_state_version", .number (.integer row.sourceStateVersion)),
    ("source_status", row.sourceStatus),
    ("received_at", .string (host.toISOString row.receivedAt)),
    ("payload", row.payload)]

/-- A UUID column takes the text; anything that is no UUID is refused. -/
def uuidColumn (host : Host) (value : Option Json) : Option Uuid :=
  match value with
  | some (.string text) => host.uuidOf text
  | _ => none

/-- A text column. -/
def textColumn : Option Json → Option String
  | some (.string text) => some text
  | _ => none

/-- The row that `create` makes of a record. -/
def createData (host : Host) (record : Fields) : Option PublishingCandidate := do
  let id ← uuidColumn host (Json.get record "candidate_id")
  let businessId ← uuidColumn host (Json.get record "business_id")
  let eventId ← uuidColumn host (Json.get record "event_id")
  let externalContentId ←
    textColumn (property (Json.get record "payload") "content_item_version_id")
  let candidateChecksum ← textColumn (Json.get record "candidate_checksum")
  let eventFingerprint ← textColumn (Json.get record "event_fingerprint")
  let sourceStateVersion ← integerOf (Json.get record "source_state_version")
  return {
    id, businessId, externalContentId, candidateChecksum, eventFingerprint, eventId
    status := sourceStateToDbStatus (Json.get record "source_state")
    sourceStatus := (Json.get record "source_status").getD .null
    sourceStateVersion
    payload := (Json.get record "payload").getD .null
    receivedAt := 0 }

/-- What `update` writes of a record. -/
def updateData (host : Host) (record : Fields) : Option CandidateUpdate := do
  let eventId ← uuidColumn host (Json.get record "event_id")
  let eventFingerprint ← textColumn (Json.get record "event_fingerprint")
  let sourceStateVersion ← integerOf (Json.get record "source_state_version")
  return {
    status := sourceStateToDbStatus (Json.get record "source_state")
    sourceStatus := (Json.get record "source_status").getD .null
    sourceStateVersion, eventFingerprint, eventId }

def contentText : ErrorCode → String
  | .contractUnsupported => "PUBLISHING_CONTRACT_UNSUPPORTED"
  | .candidateInvalid => "PUBLISHING_CANDIDATE_INVALID"
  | .candidateTampered => "PUBLISHING_CANDIDATE_TAMPERED"
  | .candidateRevoked => "PUBLISHING_CANDIDATE_REVOKED"
  | _ => "PUBLISHING_STATE_CONFLICT"

def dispositionText : IntakeDisposition → String
  | .applied => "applied"
  | .identicalReplay => "identical_replay"
  | .rejectedStale => "rejected_stale"
  | .rejectedConflict => "rejected_conflict"
  | .rejectedInvalid => "rejected_invalid"

def toHttpException (result : IntakeResult) : PublishingError :=
  let message := match result.issues.head? with
    | some issue => contentText issue.code ++ ": " ++ issue.message
    | none => "Candidate intake rejected (disposition=" ++ dispositionText result.disposition ++ ")"
  let code := result.issues.head?.map (·.code)
  match result.disposition with
  | .rejectedStale => .conflict ("PUBLISHING_STATE_CONFLICT: " ++ message)
  | .rejectedConflict =>
      if code = some .candidateTampered then
        .conflict ("PUBLISHING_CANDIDATE_TAMPERED: " ++ message)
      else .conflict ("PUBLISHING_STATE_CONFLICT: " ++ message)
  | _ =>
      if code = some .contractUnsupported then
        .badRequest ("PUBLISHING_CONTRACT_UNSUPPORTED: " ++ message)
      else .unprocessable ("PUBLISHING_CANDIDATE_INVALID: " ++ message)

/-- The transaction that applies a state change to the stored row. -/
def applyStateChange (id : Uuid) (update : CandidateUpdate) (eventValue : Json)
    (receivedAt : String) : Code PublishingCandidate := do
  let row ← Db.updateCandidate id update eventValue receivedAt
  if row.status ≠ .active then
    Db.cancelIntents (.candidate row.id)
    return row
  else return row

/-- Store the record that the reducer returned. -/
def storeRecord (host : Host) (existingRow : Option PublishingCandidate) (record : Fields)
    (eventValue : Json) (receivedAt : String) : Code PublishingCandidate :=
  match existingRow with
  | none =>
      match createData host record with
      | none => throw .databaseFailure
      | some row => Db.createCandidate row eventValue receivedAt
  | some _ =>
      match uuidColumn host (Json.get record "candidate_id"), updateData host record with
      | some id, some update =>
          Program.transaction (applyStateChange id update eventValue receivedAt)
      | _, _ => throw .databaseFailure

/-- The row under the identity that the event names. -/
def findExisting (host : Host) (eventValue : Json) : Code (Option PublishingCandidate) :=
  match extractCandidateId eventValue with
  | none | some "" => return none
  | some text =>
      match host.uuidOf text with
      | none => throw .databaseFailure
      | some id => Db.findCandidate id

/-- The stored row is read outside the transaction that writes it. -/
def ingestEvent (host : Host) (eventValue : Json) (now : Instant) :
    Code (IntakeDisposition × Option PublishingCandidate) := do
  let receivedAt := host.toISOString now
  let existingRow ← findExisting host eventValue
  let result := reducePublicationCandidateEventV1 host (existingRow.map (rowToRecord host))
    eventValue receivedAt
  if !result.accepted then throw (toHttpException result)
  else if !result.changed then return (result.disposition, existingRow)
  else
    match result.record with
    | none => throw (.unprocessable "PUBLISHING_CANDIDATE_INVALID")
    | some record =>
        let row ← storeRecord host existingRow record eventValue receivedAt
        return (result.disposition, some row)

end MarketMind.Publishing.Candidates
