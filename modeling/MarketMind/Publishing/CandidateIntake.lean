import MarketMind.Publishing.Contract

/-!
Owns the intake of publication candidates: the validation of candidates, of
their status and of stored records, and the reducer that applies a candidate
event to the stored record.

Does not own where records are stored.
-/

namespace MarketMind.Publishing.Intake

open Contract

/-! ### Content validation -/

/-- The content error codes that candidate validation reports. -/
inductive ContentErrorCode
  | schemaFailure
  | weekOutOfRange
  | channelMismatch
  | assetRequired
  | approvalBlocked
  | versionConflict
  | candidateTampered
  | candidateRevoked
deriving DecidableEq, Repr

structure ContentIssue where
  code : ContentErrorCode
  field : String
  message : String
deriving DecidableEq, Repr

/-- The issue, when the condition holds. -/
def contentIssueWhen (condition : Bool) (code : ContentErrorCode) (field message : String) :
    List ContentIssue :=
  if condition then [⟨code, field, message⟩] else []

def candidateFields : List String :=
  ["contract_version", "candidate_id", "business_id", "strategy_id", "strategy_version",
    "content_cycle_id", "strategy_week_number", "content_pack_id", "content_item_id",
    "content_item_version_id", "content_item_version", "content_item_version_checksum",
    "target_channel", "content_format", "selected_locale", "caption", "cta", "hashtags", "alt_text",
    "assets", "recommended_publish_window", "approval", "candidate_checksum", "created_at"]

def candidateStatusFields : List String :=
  ["contract_version", "candidate_id", "business_id", "candidate_checksum", "state_version",
    "candidate_state", "replacement_candidate_id", "changed_by_user_id", "changed_at"]

def contentChannels : List String :=
  ["facebook", "instagram", "tiktok", "google_business_profile"]

def contentFormats : List String :=
  ["static_image_post", "short_video_script", "carousel_brief", "text_post"]

def candidateStates : List String := ["active", "revoked", "replaced"]

/-- What `Object.fromEntries` makes of entries: array indices come first. -/
def fromEntries (entries : Fields) : Fields :=
  (entries.filter fun entry => (arrayIndex? entry.1).isSome).insertionSort (fun left right =>
      (arrayIndex? left.1).getD 0 ≤ (arrayIndex? right.1).getD 0) ++
    entries.filter fun entry => (arrayIndex? entry.1).isNone

mutual

/-- `canonicalize`, with the properties in the order of the locale. -/
def canonicalize (host : Host) : Json → Json
  | .array items => .array (canonicalizeAll host items)
  | .object fields =>
      .object (fromEntries ((canonicalizeFields host fields).insertionSort fun left right =>
        host.localeLe left.1 right.1))
  | value => value

def canonicalizeAll (host : Host) : List Json → List Json
  | [] => []
  | item :: rest => canonicalize host item :: canonicalizeAll host rest

def canonicalizeFields (host : Host) : List (String × Json) → List (String × Json)
  | [] => []
  | (name, value) :: rest => (name, canonicalize host value) :: canonicalizeFields host rest

end

def canonicalPublicationCandidatePayload (host : Host) (candidate : Fields) : String :=
  (canonicalize host (.object (candidate.filter (·.1 ≠ "candidate_checksum")))).stringify

def computePublicationCandidateChecksum (host : Host) (candidate : Fields) : String :=
  host.sha256 (canonicalPublicationCandidatePayload host candidate)

def isPublicationCandidateChecksumValid (host : Host) (candidate : Fields) : Bool :=
  isText (Json.get candidate "candidate_checksum")
    (computePublicationCandidateChecksum host candidate)

/-- The first property outside the frozen boundary. -/
def rejectExtraContentFields (value : Fields) (allowed : List String) (message : String) :
    List ContentIssue :=
  match value.find? fun field => !allowed.contains field.1 with
  | some extra => [⟨.schemaFailure, extra.1, message⟩]
  | none => []

/-- The issues of the asset at one position. -/
def assetIssues (position : Nat) (asset : Json) : List ContentIssue :=
  let get name := property (some asset) name
  let place := "assets[" ++ toString position ++ "]"
  if asset.fields?.isNone || !isNonEmptyString (get "asset_id") ||
      !(isText (get "kind") "owner_supplied" || isText (get "kind") "generated_static") ||
      !isNonEmptyString (get "mime_type") || !isNonEmptyString (get "storage_key") then
    [⟨.assetRequired, place,
      "Every candidate asset must be ready, immutable, and checksum-addressed."⟩]
  else
    contentIssueWhen (!isSha256 (get "checksum")) .assetRequired (place ++ ".checksum")
      "Every candidate asset checksum must be a lowercase SHA-256 digest."

/-- `Date.parse(String(starts)) < Date.parse(String(ends))` -/
def increasing (host : Host) (starts ends : Option Json) : Bool :=
  match host.parseDate (textOf starts), host.parseDate (textOf ends) with
  | some starts, some ends => starts < ends
  | _, _ => false

def validatePublicationCandidateV1 (host : Host) (candidate : Option Json) : List ContentIssue :=
  match candidate.bind Json.fields? with
  | none => [⟨.schemaFailure, "candidate", "Publication candidate must be an object."⟩]
  | some value =>
      let get := Json.get value
      let textOnly := isText (get "content_format") "text_post"
      let integer name := integerOf (get name)
      let window name := property (get "recommended_publish_window") name
      let approval name := property (get "approval") name
      rejectExtraContentFields value candidateFields
        "Publication candidate contains fields outside the frozen v1 boundary." ++
      contentIssueWhen (!isText (get "contract_version") "publication-candidate-v1") .schemaFailure
        "contract_version" "Publication candidate contract version is unsupported." ++
      (["candidate_id", "business_id", "strategy_id", "content_cycle_id", "content_pack_id",
          "content_item_id", "content_item_version_id", "content_item_version_checksum",
          "caption"].flatMap fun name =>
        contentIssueWhen (!isNonEmptyString (get name)) .schemaFailure name
          ("Publication candidate " ++ name ++ " is required.")) ++
      contentIssueWhen (!(integer "strategy_version").any (1 ≤ ·)) .schemaFailure
        "strategy_version" "Strategy version must be a positive integer." ++
      contentIssueWhen (!(integer "strategy_week_number").any (fun week => 1 ≤ week ∧ week ≤ 12))
        .weekOutOfRange "strategy_week_number"
        "Strategy week number must be an integer from 1 through 12." ++
      contentIssueWhen (!(integer "content_item_version").any (1 ≤ ·)) .schemaFailure
        "content_item_version" "Content item version must be a positive integer." ++
      contentIssueWhen (!includes contentChannels (get "target_channel")) .channelMismatch
        "target_channel" "Publication candidate channel is unsupported." ++
      contentIssueWhen (!includes contentFormats (get "content_format")) .schemaFailure
        "content_format" "Publication candidate format is unsupported." ++
      contentIssueWhen (!includes ["ar", "en"] (get "selected_locale")) .schemaFailure
        "selected_locale" "Publication candidate locale must be ar or en." ++
      contentIssueWhen (match get "cta" with | some .null | some (.string _) => false | _ => true)
        .schemaFailure "cta" "Publication candidate CTA must be text or null." ++
      contentIssueWhen (match get "hashtags" with
          | some (.array tags) => tags.any fun tag => match tag with | .string _ => false | _ => true
          | _ => true)
        .schemaFailure "hashtags" "Publication candidate hashtags must be an array of strings." ++
      contentIssueWhen (match get "alt_text" with
          | some (.string text) =>
              100 < utf16Length text || (!textOnly && !isNonEmptyString (get "alt_text"))
          | _ => true)
        .assetRequired "alt_text"
        (if textOnly then
          "Text-only candidate alt text must contain at most 100 characters."
        else "Publication candidate alt text must contain 1-100 characters.") ++
      (match get "assets" with
        | some (.array assets) =>
            if !textOnly && assets.isEmpty then
              [⟨.assetRequired, "assets",
                "Publication candidate requires at least one ready immutable asset unless it is a text-only post."⟩]
            else assets.zipIdx.flatMap fun (asset, position) => assetIssues position asset
        | _ => [⟨.assetRequired, "assets",
            "Publication candidate requires at least one ready immutable asset unless it is a text-only post."⟩]) ++
      contentIssueWhen (!isIsoDateTime host (window "starts_at") ||
          !isIsoDateTime host (window "ends_at") || !isText (window "timezone") "Africa/Cairo" ||
          !increasing host (window "starts_at") (window "ends_at"))
        .schemaFailure "recommended_publish_window"
        "Recommended publish window must be a valid increasing Cairo time range." ++
      (if !isText (approval "decision") "approved" || !isNonEmptyString (approval "decision_id") ||
          !isNonEmptyString (approval "decided_by_user_id") ||
          !isIsoDateTime host (approval "decided_at") then
        [⟨.approvalBlocked, "approval",
          "Publication candidate requires exact owner content approval."⟩]
      else
        contentIssueWhen
          (!strictEquals (approval "content_item_version_id") (get "content_item_version_id") ||
            !strictEquals (approval "content_item_version_checksum")
              (get "content_item_version_checksum"))
          .versionConflict "approval.content_item_version_id"
          "Candidate approval must reference the exact immutable item version and checksum.") ++
      contentIssueWhen (!isIsoDateTime host (get "created_at")) .schemaFailure "created_at"
        "Publication candidate creation time is invalid." ++
      if !isSha256 (get "candidate_checksum") then
        [⟨.schemaFailure, "candidate_checksum",
          "Publication candidate checksum must be a lowercase SHA-256 digest."⟩]
      else
        contentIssueWhen (!isPublicationCandidateChecksumValid host value) .candidateTampered
          "candidate_checksum" "Publication candidate checksum does not match its immutable payload."

def validatePublicationCandidateStatusV1 (host : Host) (status : Option Json) :
    List ContentIssue :=
  match status.bind Json.fields? with
  | none => [⟨.schemaFailure, "candidate_status",
      "Publication candidate status must be an object."⟩]
  | some value =>
      let get := Json.get value
      rejectExtraContentFields value candidateStatusFields
        "Publication candidate status contains fields outside the frozen v1 boundary." ++
      contentIssueWhen (!isText (get "contract_version") "publication-candidate-status-v1")
        .schemaFailure "candidate_status.contract_version"
        "Publication candidate status contract version is unsupported." ++
      (["candidate_id", "business_id"].flatMap fun name =>
        contentIssueWhen (!isNonEmptyString (get name)) .schemaFailure ("candidate_status." ++ name)
          ("Publication candidate status " ++ name ++ " is required.")) ++
      contentIssueWhen (!isSha256 (get "candidate_checksum")) .schemaFailure
        "candidate_status.candidate_checksum"
        "Publication candidate status checksum must bind a lowercase SHA-256 digest." ++
      contentIssueWhen (!(integerOf (get "state_version")).any (1 ≤ ·)) .schemaFailure
        "candidate_status.state_version"
        "Publication candidate status version must be a positive integer." ++
      contentIssueWhen (!includes candidateStates (get "candidate_state")) .schemaFailure
        "candidate_status.candidate_state" "Publication candidate status is unsupported." ++
      contentIssueWhen (if isText (get "candidate_state") "replaced" then
          !isNonEmptyString (get "replacement_candidate_id")
        else !isNull (get "replacement_candidate_id"))
        .schemaFailure "candidate_status.replacement_candidate_id"
        "Only a replaced candidate may name its replacement." ++
      contentIssueWhen (!isNull (get "changed_by_user_id") &&
          !isNonEmptyString (get "changed_by_user_id"))
        .schemaFailure "candidate_status.changed_by_user_id"
        "Candidate status actor must be a user identity or null." ++
      contentIssueWhen (!isIsoDateTime host (get "changed_at")) .schemaFailure
        "candidate_status.changed_at" "Candidate status change time is invalid."

/-- `mapContentValidation`: the first content issue under its publishing code. -/
def mapContentValidation (issues : List ContentIssue) : List Issue :=
  match issues with
  | [] => []
  | issue :: _ =>
      [⟨match issue.code with
          | .candidateTampered => .candidateTampered
          | .candidateRevoked => .candidateRevoked
          | _ => .candidateInvalid, issue.field, issue.message⟩]

/-! ### Records -/

def eventFields : List String :=
  ["event_id", "event_type", "occurred_at", "correlation_id", "payload"]

def candidateRecordFields : List String :=
  ["contract_version", "candidate_id", "event_id", "business_id", "candidate_checksum",
    "event_fingerprint", "source_state", "source_state_version", "source_status", "received_at",
    "payload"]

/-- Whether one of the properties differs. -/
def differs (names : List String) (left right : Option Json) : Bool :=
  names.any fun name => !strictEquals (property left name) (property right name)

def validatePublicationCandidateRecordV1 (host : Host) (record : Json) : List Issue :=
  match record.fields? with
  | none => [⟨.candidateInvalid, "candidate_record",
      "Authoritative publication candidate record must be an object."⟩]
  | some value =>
      let get := Json.get value
      match value.find? fun field => !candidateRecordFields.contains field.1 with
      | some extra => [⟨.contractUnsupported, "candidate_record." ++ extra.1,
          "Authoritative candidate record contains a field outside the frozen v1 boundary."⟩]
      | none =>
          if !isText (get "contract_version") "publishing-candidate-record-v1" ||
              !isUuid (get "candidate_id") || !isUuid (get "event_id") ||
              !isUuid (get "business_id") || !isSha256 (get "candidate_checksum") ||
              !isSha256 (get "event_fingerprint") ||
              !(integerOf (get "source_state_version")).any (1 ≤ ·) ||
              !isIsoDateTime host (get "received_at") then
            [⟨.candidateInvalid, "candidate_record",
              "Authoritative publication candidate record metadata is invalid."⟩]
          else
            let candidateResult :=
              mapContentValidation (validatePublicationCandidateV1 host (get "payload"))
            if candidateResult ≠ [] then candidateResult
            else
              let statusResult :=
                mapContentValidation (validatePublicationCandidateStatusV1 host (get "source_status"))
              if statusResult ≠ [] then statusResult
              else if differs ["candidate_id", "business_id", "candidate_checksum"] (some record)
                    (get "payload") ||
                  differs ["candidate_id", "business_id", "candidate_checksum"]
                    (get "source_status") (get "payload") then
                [⟨.candidateTampered, "candidate_record.candidate_checksum",
                  "Authoritative record identities must bind the immutable candidate payload."⟩]
              else
                issueWhen (!strictEquals (get "source_state")
                      (property (get "source_status") "candidate_state") ||
                    !strictEquals (get "source_state_version")
                      (property (get "source_status") "state_version"))
                  .stateConflict "candidate_record.source_state_version"
                  "Authoritative record state must match its complete stored status snapshot."

/-! ### The reducer -/

inductive IntakeDisposition
  | applied
  | identicalReplay
  | rejectedStale
  | rejectedConflict
  | rejectedInvalid
deriving DecidableEq, Repr

/-- `PublicationCandidateIntakeResultV1`; `record` is the properties of the record. -/
structure IntakeResult where
  accepted : Bool
  changed : Bool
  disposition : IntakeDisposition
  record : Option Fields
  issues : List Issue

def failure (disposition : IntakeDisposition) (record : Option Fields) (issues : List Issue) :
    IntakeResult :=
  ⟨false, false, disposition, record, issues.take 1⟩

def success (disposition : IntakeDisposition) (record : Fields) : IntakeResult :=
  ⟨true, disposition = .applied, disposition, some record, []⟩

def validateEventEnvelope (host : Host) (event : Fields) (receivedAt : String) : List Issue :=
  match event.find? fun field => !eventFields.contains field.1 with
  | some extra => [⟨.contractUnsupported, "event." ++ extra.1,
      "Candidate event contains a field outside the frozen v1 boundary."⟩]
  | none =>
      issueWhen (!isUuid (Json.get event "event_id") || !isUuid (Json.get event "correlation_id") ||
          !isIsoDateTime host (Json.get event "occurred_at") ||
          !isIsoDateTime host (some (.string receivedAt)))
        .candidateInvalid "event"
        "Candidate event requires UUID identities and valid occurrence/receipt times."

/-- A property that validation has found to be there. -/
def known (value : Option Json) (name : String) : Json := (property value name).getD .null

def activeStatusForCandidate (candidate : Option Json) : Json :=
  .object [("contract_version", .string "publication-candidate-status-v1"),
    ("candidate_id", known candidate "candidate_id"),
    ("business_id", known candidate "business_id"),
    ("candidate_checksum", known candidate "candidate_checksum"),
    ("state_version", .number (.integer 1)),
    ("candidate_state", .string "active"),
    ("replacement_candidate_id", .null),
    ("changed_by_user_id", .null),
    ("changed_at", known candidate "created_at")]

/-- The record that a created event is stored as. -/
def createdRecord (host : Host) (event : Fields) (receivedAt : String) : Fields :=
  let payload := Json.get event "payload"
  [("contract_version", .string "publishing-candidate-record-v1"),
    ("candidate_id", known payload "candidate_id"),
    ("event_id", (Json.get event "event_id").getD .null),
    ("business_id", known payload "business_id"),
    ("candidate_checksum", known payload "candidate_checksum"),
    ("event_fingerprint", .string (computePublishingSha256 host (.object event))),
    ("source_state", .string "active"),
    ("source_state_version", .number (.integer 1)),
    ("source_status", activeStatusForCandidate payload),
    ("received_at", .string receivedAt),
    ("payload", payload.getD .null)]

def reduceCreatedEvent (host : Host) (existing : Option Fields) (event : Fields)
    (receivedAt : String) : IntakeResult :=
  let payload := Json.get event "payload"
  let candidateResult := mapContentValidation (validatePublicationCandidateV1 host payload)
  if candidateResult ≠ [] then failure .rejectedInvalid existing candidateResult
  else
    match existing with
    | none => success .applied (createdRecord host event receivedAt)
    | some record =>
        if differs ["candidate_id", "business_id"] (some (.object record)) payload then
          failure .rejectedConflict existing [⟨.candidateTampered, "event.payload.candidate_id",
            "Created event identity conflicts with the authoritative candidate record."⟩]
        else if (integerOf (Json.get record "source_state_version")).any (1 < ·) then
          failure .rejectedStale existing [⟨.stateConflict, "event.payload.state_version",
            "Implicit active candidate state v1 is stale against a newer authoritative state."⟩]
        else if isText (Json.get record "event_fingerprint")
            (computePublishingSha256 host (.object event)) then
          success .identicalReplay record
        else
          failure .rejectedConflict existing [⟨.candidateTampered, "event.event_id",
            "Created event conflicts with the accepted candidate delivery at state version 1."⟩]

/-- The record after a newer state: `{ ...existing, event_id, ..., received_at }`. -/
def changedRecord (host : Host) (record event : Fields) (receivedAt : String) : Fields :=
  let payload := Json.get event "payload"
  Json.assign "received_at" (.string receivedAt) <|
    Json.assign "source_status" (payload.getD .null) <|
    Json.assign "source_state_version" (known payload "state_version") <|
    Json.assign "source_state" (known payload "candidate_state") <|
    Json.assign "event_fingerprint" (.string (computePublishingSha256 host (.object event))) <|
    Json.assign "event_id" ((Json.get event "event_id").getD .null) record

/-- `incoming < stored`, on integers. -/
def isBelow (incoming stored : Option Json) : Bool :=
  match integerOf incoming, integerOf stored with
  | some incoming, some stored => incoming < stored
  | _, _ => false

/-- `incoming === stored`, on integers. -/
def isSame (incoming stored : Option Json) : Bool :=
  match integerOf incoming, integerOf stored with
  | some incoming, some stored => incoming = stored
  | _, _ => false

def reduceStateChangedEvent (host : Host) (existing : Option Fields) (event : Fields)
    (receivedAt : String) : IntakeResult :=
  let payload := Json.get event "payload"
  match existing with
  | none => failure .rejectedConflict none [⟨.stateConflict, "event.payload.candidate_id",
      "Candidate status cannot be applied before the immutable candidate is stored."⟩]
  | some record =>
      let statusResult := mapContentValidation (validatePublicationCandidateStatusV1 host payload)
      let incoming := property payload "state_version"
      let stored := Json.get record "source_state_version"
      if statusResult ≠ [] then failure .rejectedInvalid existing statusResult
      else if isText (property payload "candidate_state") "active" then
        failure .rejectedInvalid existing [⟨.candidateInvalid, "event.payload.candidate_state",
          "A state-changed event must revoke or replace a candidate."⟩]
      else if differs ["candidate_id", "business_id", "candidate_checksum"] payload
          (some (.object record)) then
        failure .rejectedConflict existing [⟨.candidateTampered, "event.payload.candidate_checksum",
          "Candidate status does not bind the authoritative immutable candidate."⟩]
      else if isBelow incoming stored then
        failure .rejectedStale existing [⟨.stateConflict, "event.payload.state_version",
          "Candidate status event is stale against the authoritative stored version."⟩]
      else if isSame incoming stored then
        if isText (Json.get record "event_fingerprint")
            (computePublishingSha256 host (.object event)) then
          success .identicalReplay record
        else
          failure .rejectedConflict existing [⟨.stateConflict, "event.payload.state_version",
            "Candidate status conflicts with an accepted event at the same state version."⟩]
      else success .applied (changedRecord host record event receivedAt)

def createdType : String := "content.publication_candidate.created.v1"

def stateChangedType : String := "content.publication_candidate.state_changed.v1"

def reducePublicationCandidateEventV1 (host : Host) (existing : Option Fields) (eventValue : Json)
    (receivedAt : String) : IntakeResult :=
  match eventValue.fields? with
  | none => failure .rejectedInvalid existing [⟨.candidateInvalid, "event",
      "Candidate intake event must be an object."⟩]
  | some event =>
      let envelopeResult := validateEventEnvelope host event receivedAt
      let recordResult := existing.elim [] fun record =>
        validatePublicationCandidateRecordV1 host (.object record)
      if envelopeResult ≠ [] then failure .rejectedInvalid existing envelopeResult
      else if recordResult ≠ [] then failure .rejectedInvalid existing recordResult
      else if isText (Json.get event "event_type") createdType then
        reduceCreatedEvent host existing event receivedAt
      else if isText (Json.get event "event_type") stateChangedType then
        reduceStateChangedEvent host existing event receivedAt
      else
        failure .rejectedInvalid existing [⟨.contractUnsupported, "event.event_type",
          "Candidate intake event type is unsupported."⟩]

end MarketMind.Publishing.Intake
