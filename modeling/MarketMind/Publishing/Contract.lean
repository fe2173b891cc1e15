import Mathlib.Algebra.Ring.Nat
import Mathlib.Data.List.Lex
import Mathlib.Data.Char
import Mathlib.Data.List.Sort
import MarketMind.Json
import MarketMind.Publishing.Types

/-!
Owns the frozen contract of signed callbacks: canonical JSON, signatures, and
the validation of envelopes, callback bodies, results and attempts.

Does not own dispatch envelopes or candidate events.
-/

namespace MarketMind.Publishing

/-- What the JavaScript host and the configuration provide. Digests are in
lower-case hexadecimal, `parseDate` is `Date.parse` (`none` is `NaN`), `localeLe`
is `left.localeCompare(right) <= 0`, `uuidText` and `uuidOf` are how PostgreSQL
writes and reads a UUID, and `localToUtc` and `toNaiveLocal` are the conversions
between the owner's wall clock and instants. -/
structure Host where
  sha256 : String → String
  hmacSha256 : (secret message : String) → String
  parseDate : String → Option Instant
  localeLe : (left right : String) → Bool
  toISOString : Instant → String
  uuidText : Uuid → String
  uuidOf : String → Option Uuid
  localToUtc : (scheduledLocalAt timezone : String) → Option Instant
  toNaiveLocal : Instant → String
  signingSecret : String
  signingKeyId : String
  workflowVersion : String
  callbackBaseUrl : String

namespace Contract

inductive ErrorCode
  | contractUnsupported
  | candidateInvalid
  | candidateTampered
  | candidateRevoked
  | targetNotConnected
  | targetUnauthorized
  | formatUnsupported
  | assetUnavailable
  | assetTampered
  | scheduleInPast
  | approvalRequired
  | stateConflict
  | idempotencyConflict
  | duplicateDispatch
  | webhookUnauthorized
  | webhookTimestampInvalid
  | webhookNonceReplayed
  | providerRateLimited
  | providerFailure
  | mediaOriginNotReachable
  | providerOutcomeUnknown
  | callbackInvalid
  | callbackConflict
deriving DecidableEq, Repr

def ErrorCode.text : ErrorCode → String
  | contractUnsupported => "PUBLISHING_CONTRACT_UNSUPPORTED"
  | candidateInvalid => "PUBLISHING_CANDIDATE_INVALID"
  | candidateTampered => "PUBLISHING_CANDIDATE_TAMPERED"
  | candidateRevoked => "PUBLISHING_CANDIDATE_REVOKED"
  | targetNotConnected => "PUBLISHING_TARGET_NOT_CONNECTED"
  | targetUnauthorized => "PUBLISHING_TARGET_UNAUTHORIZED"
  | formatUnsupported => "PUBLISHING_FORMAT_UNSUPPORTED"
  | assetUnavailable => "PUBLISHING_ASSET_UNAVAILABLE"
  | assetTampered => "PUBLISHING_ASSET_TAMPERED"
  | scheduleInPast => "PUBLISHING_SCHEDULE_IN_PAST"
  | approvalRequired => "PUBLISHING_APPROVAL_REQUIRED"
  | stateConflict => "PUBLISHING_STATE_CONFLICT"
  | idempotencyConflict => "PUBLISHING_IDEMPOTENCY_CONFLICT"
  | duplicateDispatch => "PUBLISHING_DUPLICATE_DISPATCH"
  | webhookUnauthorized => "PUBLISHING_WEBHOOK_UNAUTHORIZED"
  | webhookTimestampInvalid => "PUBLISHING_WEBHOOK_TIMESTAMP_INVALID"
  | webhookNonceReplayed => "PUBLISHING_WEBHOOK_NONCE_REPLAYED"
  | providerRateLimited => "PUBLISHING_PROVIDER_RATE_LIMITED"
  | providerFailure => "PUBLISHING_PROVIDER_FAILURE"
  | mediaOriginNotReachable => "PUBLISHING_MEDIA_ORIGIN_NOT_REACHABLE"
  | providerOutcomeUnknown => "PUBLISHING_PROVIDER_OUTCOME_UNKNOWN"
  | callbackInvalid => "PUBLISHING_CALLBACK_INVALID"
  | callbackConflict => "PUBLISHING_CALLBACK_CONFLICT"

/-- `PUBLISHING_ERROR_CODES` -/
def errorCodes : List ErrorCode :=
  [.contractUnsupported, .candidateInvalid, .candidateTampered, .candidateRevoked,
    .targetNotConnected, .targetUnauthorized, .formatUnsupported, .assetUnavailable,
    .assetTampered, .scheduleInPast, .approvalRequired, .stateConflict, .idempotencyConflict,
    .duplicateDispatch, .webhookUnauthorized, .webhookTimestampInvalid, .webhookNonceReplayed,
    .providerRateLimited, .providerFailure, .mediaOriginNotReachable, .providerOutcomeUnknown,
    .callbackInvalid, .callbackConflict]

/-- A validation issue. Every issue of these validators has `retryable: false`. -/
structure Issue where
  code : ErrorCode
  field : String
  message : String
deriving DecidableEq, Repr

/-- The issue, when the condition holds. -/
def issueWhen (condition : Bool) (code : ErrorCode) (field message : String) : List Issue :=
  if condition then [⟨code, field, message⟩] else []

/-! ### Values -/

/-- An object under validation. -/
abbrev Fields := List (String × Json)

/-- `left === right`; two objects or arrays are never the same one. -/
def strictEquals : Option Json → Option Json → Bool
  | none, none => true
  | some .null, some .null => true
  | some (.boolean left), some (.boolean right) => left == right
  | some (.number left), some (.number right) => left = right
  | some (.string left), some (.string right) => left = right
  | _, _ => false

/-- Two values that are the same scalar are equal. -/
theorem eq_of_strictEquals {left right : Option Json} (same : strictEquals left right = true) :
    left = right := by
  unfold strictEquals at same
  split at same
  · rfl
  · rfl
  · rw [beq_iff_eq] at same
    rw [same]
  · rw [decide_eq_true_eq] at same
    rw [same]
  · rw [decide_eq_true_eq] at same
    rw [same]
  · cases same

/-- `value === text` -/
def isText (value : Option Json) (text : String) : Bool :=
  strictEquals value (some (.string text))

theorem isText_iff {value : Option Json} {text : String} :
    isText value text = true ↔ value = some (.string text) := by
  constructor
  · exact eq_of_strictEquals
  · rintro rfl
    simp [isText, strictEquals]

/-- `value === null` -/
def isNull (value : Option Json) : Bool := strictEquals value (some .null)

/-- `value === flag` -/
def isFlag (value : Option Json) (flag : Bool) : Bool :=
  strictEquals value (some (.boolean flag))

/-- `String(value)` of a value that may be missing. -/
def textOf : Option Json → String
  | none => "undefined"
  | some value => value.text

/-- The characters that `trim` removes. -/
def isWhiteSpace (char : Char) : Bool :=
  let code := char.toNat
  (9 ≤ code && code ≤ 13) || code = 32 || code = 160 || code = 5760 ||
    (8192 ≤ code && code ≤ 8202) || code = 8232 || code = 8233 || code = 8239 || code = 8287 ||
    code = 12288 || code = 65279

/-- The number of UTF-16 code units. -/
def utf16Length (text : String) : Nat :=
  (text.toList.map fun char => if 65536 ≤ char.toNat then 2 else 1).sum

def isNonEmptyString : Option Json → Bool
  | some (.string value) => value.toList.any fun char => !isWhiteSpace char
  | _ => false

/-- `[0-9a-f]` with the flag `i`. -/
def isHexDigit (char : Char) : Bool :=
  ('0' ≤ char && char ≤ '9') || ('a' ≤ char && char ≤ 'f') || ('A' ≤ char && char ≤ 'F')

/-- Groups of hexadecimal digits of the given lengths, separated by hyphens. -/
def isHexGroups : List Nat → List Char → Bool
  | [], chars => chars.isEmpty
  | [length], chars => chars.length = length && chars.all isHexDigit
  | length :: next :: lengths, chars =>
      (chars.take length).length = length && (chars.take length).all isHexDigit &&
        match chars.drop length with
        | '-' :: rest => isHexGroups (next :: lengths) rest
        | _ => false

/-- `UUID_PATTERN` -/
def isUuid : Option Json → Bool
  | some (.string value) => isHexGroups [8, 4, 4, 4, 12] value.toList
  | _ => false

/-- `SHA256_PATTERN` -/
def isSha256Text (value : String) : Bool :=
  value.toList.length = 64 && value.toList.all fun char =>
    ('a' ≤ char && char ≤ 'f') || ('0' ≤ char && char ≤ '9')

def isSha256 : Option Json → Bool
  | some (.string value) => isSha256Text value
  | _ => false

def isIsoDateTime (host : Host) : Option Json → Bool
  | some (.string value) =>
      isNonEmptyString (some (.string value)) && (host.parseDate value).isSome
  | _ => false

/-- The number, when `Number.isInteger(value)`. -/
def integerOf : Option Json → Option Int
  | some (.number value) => value.integer?
  | _ => none

/-- `Number.isInteger(value) && Number(value) > 0` -/
def isPositiveInteger (value : Option Json) : Bool := (integerOf value).any (0 < ·)

def rejectExtraFields (value : Fields) (allowed : List String) (fieldPrefix : String) :
    List Issue :=
  match value.find? fun field => !allowed.contains field.1 with
  | some extra => [⟨.contractUnsupported, fieldPrefix ++ extra.1,
      "Document contains a field outside the frozen publishing-v1 boundary."⟩]
  | none => []

/-! ### Canonical JSON -/

/-- A property name that objects enumerate first, in numeric order. -/
def arrayIndex? (name : String) : Option Nat :=
  let digits := name.toList
  if digits ≠ [] && digits.all Char.isDigit && (digits = ['0'] || digits.head? ≠ some '0') then
    let index := digits.foldl (fun value digit => 10 * value + (digit.toNat - 48)) 0
    if index < 4294967295 then some index else none
  else none

/-- The UTF-16 code units of a text, by which `<` compares strings. -/
def codeUnits (text : String) : List Nat :=
  text.toList.flatMap fun char =>
    let code := char.toNat
    if 65536 ≤ code then
      [55296 + (code - 65536) / 1024, 56320 + (code - 65536) % 1024]
    else [code]

/-- The order in which `Object.fromEntries` of sorted entries enumerates them. -/
def enumerates (left right : String) : Bool :=
  match arrayIndex? left, arrayIndex? right with
  | some left, some right => left ≤ right
  | some _, none => true
  | none, some _ => false
  | none, none => codeUnits left ≤ codeUnits right

mutual

def canonicalizePublishingValue : Json → Json
  | .array items => .array (canonicalizeAll items)
  | .object fields =>
      .object ((canonicalizeFields fields).insertionSort fun left right =>
        enumerates left.1 right.1)
  | value => value

def canonicalizeAll : List Json → List Json
  | [] => []
  | item :: rest => canonicalizePublishingValue item :: canonicalizeAll rest

def canonicalizeFields : List (String × Json) → List (String × Json)
  | [] => []
  | (name, value) :: rest => (name, canonicalizePublishingValue value) :: canonicalizeFields rest

end

def canonicalPublishingJson (value : Json) : String :=
  (canonicalizePublishingValue value).stringify

def computePublishingSha256 (host : Host) (value : Json) : String :=
  host.sha256 (canonicalPublishingJson value)

structure SignatureInput where
  contractVersion : String
  sentAt : String
  nonce : String
  bodySha256 : String

def canonicalPublishingSignatureInput (input : SignatureInput) : String :=
  "\n".intercalate
    ["hmac-sha256", input.contractVersion, input.sentAt, input.nonce, input.bodySha256]

def computePublishingSignature (host : Host) (input : SignatureInput) (secret : String) : String :=
  host.hmacSha256 secret (canonicalPublishingSignatureInput input)

/-- The digests are lower-case hexadecimal, so comparing bytes is comparing texts. -/
def isPublishingSignatureValid (host : Host) (input : SignatureInput) (signature secret : String) :
    Bool :=
  isSha256Text signature && computePublishingSignature host input secret = signature

def computeCallbackFingerprint (host : Host) (body : Json) : String :=
  computePublishingSha256 host body

/-! ### Validators -/

def attemptFields : List String :=
  ["contract_version", "attempt_id", "intent_id", "intent_version", "attempt_number",
    "idempotency_key", "workflow_version", "request_fingerprint", "state", "started_at",
    "finished_at", "created_at"]

def resultFields : List String :=
  ["contract_version", "result_id", "attempt_id", "intent_id", "intent_version", "mode", "outcome",
    "provider", "remote_publication_id", "remote_url", "export_artifact_id",
    "simulation_reference_id", "simulation_label", "error_code", "retryable",
    "reconciliation_required", "occurred_at"]

def envelopeFields : List String :=
  ["contract_version", "message_id", "sent_at", "nonce", "key_id", "signature_algorithm",
    "body_sha256", "signature", "body"]

def callbackBodyFields : List String :=
  ["contract_version", "callback_id", "attempt_id", "intent_id", "intent_version",
    "request_fingerprint", "workflow_version", "result"]

def publishingModes : List String := ["real", "manual_export", "simulation"]

def attemptStates : List String :=
  ["queued", "running", "succeeded", "failed", "unknown", "cancelled"]

/-- `list.includes(value)` of a list of strings. -/
def includes (list : List String) (value : Option Json) : Bool := list.any (isText value)

/-- One issue per field that is no UUID. -/
def uuidIssues (value : Fields) (names : List String) (code : ErrorCode)
    (fieldPrefix subject : String) : List Issue :=
  names.flatMap fun name =>
    issueWhen (!isUuid (Json.get value name)) code (fieldPrefix ++ name)
      (subject ++ " " ++ name ++ " must be a UUID.")

def validatePublicationAttemptV1 (host : Host) (attempt : Json) : List Issue :=
  match attempt.fields? with
  | none => [⟨.stateConflict, "attempt", "Publication attempt must be an object."⟩]
  | some value =>
      let get := Json.get value
      let date name := isIsoDateTime host (get name)
      rejectExtraFields value attemptFields "attempt." ++
      issueWhen (!isText (get "contract_version") "publication-attempt-v1") .contractUnsupported
        "attempt.contract_version" "Publication attempt contract version is unsupported." ++
      uuidIssues value ["attempt_id", "intent_id"] .stateConflict "attempt."
        "Publication attempt" ++
      (["intent_version", "attempt_number"].flatMap fun name =>
        issueWhen (!isPositiveInteger (get name)) .stateConflict ("attempt." ++ name)
          ("Publication attempt " ++ name ++ " must be a positive integer.")) ++
      issueWhen (!isNonEmptyString (get "idempotency_key") ||
          !isNonEmptyString (get "workflow_version") || !isSha256 (get "request_fingerprint"))
        .idempotencyConflict "attempt.request_fingerprint"
        "Attempt requires stable idempotency, workflow, and request-fingerprint identities." ++
      issueWhen (!includes attemptStates (get "state")) .stateConflict "attempt.state"
        "Publication attempt state is unsupported." ++
      issueWhen (!date "created_at" || (!isNull (get "started_at") && !date "started_at") ||
          (!isNull (get "finished_at") && !date "finished_at"))
        .stateConflict "attempt.created_at"
        "Attempt timestamps must be valid ISO date-times or null." ++
      issueWhen ((isText (get "state") "queued" &&
            (!isNull (get "started_at") || !isNull (get "finished_at"))) ||
          (isText (get "state") "running" &&
            (!date "started_at" || !isNull (get "finished_at"))) ||
          (["succeeded", "failed", "unknown", "cancelled"].contains (textOf (get "state")) &&
            !date "finished_at"))
        .stateConflict "attempt.finished_at"
        "Attempt timestamps do not match its lifecycle state."

/-- Whether a result claims neither a remote publication, nor an artifact. -/
def emptyRemote (value : Fields) : Bool :=
  isNull (Json.get value "remote_publication_id") && isNull (Json.get value "remote_url")

def noArtifact (value : Fields) : Bool := isNull (Json.get value "export_artifact_id")

def noSimulation (value : Fields) : Bool :=
  isNull (Json.get value "simulation_reference_id") && isNull (Json.get value "simulation_label")

def commonSuccess (value : Fields) : Bool :=
  isNull (Json.get value "error_code") && isFlag (Json.get value "retryable") false &&
    isFlag (Json.get value "reconciliation_required") false

/-- A simulation keeps its label, anything else has none. -/
def labelled (value : Fields) : Bool :=
  if isText (Json.get value "mode") "simulation" then
    isText (Json.get value "simulation_label") "SIMULATION"
  else isNull (Json.get value "simulation_label")

/-- What a result with this outcome has to look like. -/
def outcomeIssues (value : Fields) : List Issue :=
  let get := Json.get value
  if isText (get "outcome") "published" then
    issueWhen (!isText (get "mode") "real" || !isText (get "provider") "meta" ||
        !isNonEmptyString (get "remote_publication_id") ||
        (!isNull (get "remote_url") && !isNonEmptyString (get "remote_url")) ||
        !noArtifact value || !noSimulation value || !commonSuccess value)
      .callbackInvalid "result.outcome"
      "Published means only a provider-confirmed real Meta publication."
  else if isText (get "outcome") "exported" then
    issueWhen (!isText (get "mode") "manual_export" || !isNull (get "provider") ||
        !emptyRemote value || !isUuid (get "export_artifact_id") || !noSimulation value ||
        !commonSuccess value)
      .callbackInvalid "result.outcome"
      "Exported means only a generated checksum-addressed export artifact."
  else if isText (get "outcome") "simulated" then
    issueWhen (!isText (get "mode") "simulation" || !isNull (get "provider") ||
        !emptyRemote value || !noArtifact value ||
        !isNonEmptyString (get "simulation_reference_id") ||
        !isText (get "simulation_label") "SIMULATION" || !commonSuccess value)
      .callbackInvalid "result.simulation_label"
      "Simulated results require a permanent SIMULATION label and cannot claim remote publication."
  else if isText (get "outcome") "unknown" then
    issueWhen (!isText (get "mode") "real" || !isText (get "provider") "meta" ||
        !emptyRemote value || !noArtifact value || !noSimulation value ||
        !isText (get "error_code") ErrorCode.providerOutcomeUnknown.text ||
        !isFlag (get "retryable") false || !isFlag (get "reconciliation_required") true)
      .providerOutcomeUnknown "result.outcome"
      "Unknown is a non-retryable ambiguous real-provider outcome requiring reconciliation."
  else if isText (get "outcome") "failed" then
    issueWhen (!includes publishingModes (get "mode") || !emptyRemote value ||
        !noArtifact value || !isNull (get "simulation_reference_id") || !labelled value ||
        !includes (errorCodes.map ErrorCode.text) (get "error_code") ||
        isText (get "error_code") ErrorCode.providerOutcomeUnknown.text ||
        !(isFlag (get "retryable") true || isFlag (get "retryable") false) ||
        !isFlag (get "reconciliation_required") false ||
        (if isText (get "mode") "real" then
          !isText (get "provider") "meta" && !isNull (get "provider")
        else !isNull (get "provider")))
      .callbackInvalid "result.error_code"
      "Failed must be a proven, sanitized failure and cannot carry success artifacts."
  else if isText (get "outcome") "cancelled" then
    issueWhen (!includes publishingModes (get "mode") || !isNull (get "provider") ||
        !emptyRemote value || !noArtifact value || !isNull (get "simulation_reference_id") ||
        !labelled value || !commonSuccess value)
      .callbackInvalid "result.outcome"
      "Cancelled cannot claim an external, export, or simulation success."
  else
    [⟨.callbackInvalid, "result.outcome", "Publication outcome is unsupported."⟩]

def validatePublicationResultV1 (host : Host) (result : Option Json) : List Issue :=
  match result.bind Json.fields? with
  | none => [⟨.callbackInvalid, "result", "Publication result must be an object."⟩]
  | some value =>
      rejectExtraFields value resultFields "result." ++
      issueWhen (!isText (Json.get value "contract_version") "publication-result-v1")
        .contractUnsupported "result.contract_version"
        "Publication result contract version is unsupported." ++
      uuidIssues value ["result_id", "attempt_id", "intent_id"] .callbackInvalid "result."
        "Publication result" ++
      issueWhen (!isPositiveInteger (Json.get value "intent_version")) .stateConflict
        "result.intent_version" "Result intent version must be positive." ++
      issueWhen (!isIsoDateTime host (Json.get value "occurred_at")) .callbackInvalid
        "result.occurred_at" "Result occurrence time is invalid." ++
      outcomeIssues value

/-- `PUBLISHING_SIGNATURE_TOLERANCE_SECONDS`, in milliseconds. -/
def signatureTolerance : Int := 300 * 1000

/-- Whether the message was sent at most five minutes from now. -/
def sentInTime (host : Host) (sentAt : Option Json) (now : Instant) : Bool :=
  match sentAt with
  | some (.string text) =>
      isIsoDateTime host sentAt && (host.parseDate text).any fun sent =>
        (now - sent).natAbs ≤ signatureTolerance
  | _ => false

def validateEnvelopeCommon (host : Host) (envelope : Json) (expectedContract : String)
    (now : Instant) : List Issue :=
  match envelope.fields? with
  | none => [⟨.webhookUnauthorized, "envelope", "Signed publishing envelope must be an object."⟩]
  | some value =>
      let get := Json.get value
      rejectExtraFields value envelopeFields "envelope." ++
      issueWhen (!isText (get "contract_version") expectedContract) .contractUnsupported
        "envelope.contract_version" "Signed envelope contract version is unsupported." ++
      issueWhen (!isUuid (get "message_id")) .webhookUnauthorized "envelope.message_id"
        "Signed envelope message identity must be a UUID." ++
      issueWhen (!sentInTime host (get "sent_at") now) .webhookTimestampInvalid "envelope.sent_at"
        "Signed envelope timestamp is outside the five-minute acceptance window." ++
      issueWhen (!isNonEmptyString (get "nonce") || utf16Length (textOf (get "nonce")) < 16)
        .webhookUnauthorized "envelope.nonce"
        "Signed envelope nonce must contain at least 16 characters." ++
      if !isNonEmptyString (get "key_id") || !isText (get "key_id") host.signingKeyId ||
          !isText (get "signature_algorithm") "hmac-sha256" || !isSha256 (get "body_sha256") ||
          !isSha256 (get "signature") then
        [⟨.webhookUnauthorized, "envelope.signature",
          "Signed envelope authentication fields are incomplete."⟩]
      -- `canonicalizePublishingValue` throws on a missing body; the callers have read it before.
      else if !isText (get "body_sha256")
          (computePublishingSha256 host ((get "body").getD .null)) then
        [⟨.webhookUnauthorized, "envelope.body_sha256",
          "Signed envelope body checksum does not match its canonical body."⟩]
      else
        issueWhen (!isPublishingSignatureValid host
            ⟨textOf (get "contract_version"), textOf (get "sent_at"), textOf (get "nonce"),
              textOf (get "body_sha256")⟩ (textOf (get "signature")) host.signingSecret)
          .webhookUnauthorized "envelope.signature" "Signed envelope signature is invalid."

def validateCallbackBody (host : Host) (body : Option Json) : List Issue :=
  match body.bind Json.fields? with
  | none => [⟨.callbackInvalid, "callback.body", "Callback body must be an object."⟩]
  | some value =>
      let get := Json.get value
      let resultValidation := validatePublicationResultV1 host (get "result")
      if resultValidation ≠ [] then resultValidation
      else
        let result := Json.get (((get "result").bind Json.fields?).getD [])
        rejectExtraFields value callbackBodyFields "callback.body." ++
        issueWhen (!isText (get "contract_version") "publication-callback-v1") .contractUnsupported
          "callback.body.contract_version" "Callback body contract version is unsupported." ++
        uuidIssues value ["callback_id", "attempt_id", "intent_id"] .callbackInvalid
          "callback.body." "Callback" ++
        issueWhen (!isPositiveInteger (get "intent_version") ||
            !isSha256 (get "request_fingerprint") || !isNonEmptyString (get "workflow_version"))
          .callbackInvalid "callback.body.request_fingerprint"
          "Callback must bind the exact request fingerprint and workflow version." ++
        issueWhen (!strictEquals (result "attempt_id") (get "attempt_id") ||
            !strictEquals (result "intent_id") (get "intent_id") ||
            !strictEquals (result "intent_version") (get "intent_version"))
          .callbackInvalid "callback.body.result.attempt_id"
          "Callback result identities must match the callback boundary."

/-- The `body` of an envelope. -/
def bodyOf (envelope : Json) : Option Json :=
  envelope.fields?.bind fun fields => Json.get fields "body"

/-- A property of an object that may be missing. -/
def property (value : Option Json) (name : String) : Option Json :=
  (value.bind Json.fields?).bind fun fields => Json.get fields name

def validateSignedPublicationCallbackEnvelopeV1 (host : Host) (envelope : Json) (now : Instant) :
    List Issue :=
  let envelopeResult :=
    validateEnvelopeCommon host envelope "publishing-callback-envelope-v1" now
  if envelopeResult ≠ [] then envelopeResult else validateCallbackBody host (bodyOf envelope)

def validatePublicationCallbackContext (host : Host) (envelope attempt : Json) (now : Instant) :
    List Issue :=
  let envelopeResult := validateSignedPublicationCallbackEnvelopeV1 host envelope now
  if envelopeResult ≠ [] then envelopeResult
  else
    let attemptResult := validatePublicationAttemptV1 host attempt
    if attemptResult ≠ [] then attemptResult
    else
      let bound name := strictEquals (property (bodyOf envelope) name) (property (some attempt) name)
      issueWhen (!bound "attempt_id" || !bound "intent_id" || !bound "intent_version" ||
          !bound "request_fingerprint" || !bound "workflow_version")
        .callbackConflict "callback.body.request_fingerprint"
        ("Callback must bind the exact accepted attempt, request fingerprint, and workflow " ++
          "version.")

/-! ### What an accepted callback says -/

theorem issueWhen_eq_nil {condition : Bool} {code : ErrorCode} {field message : String} :
    issueWhen condition code field message = [] ↔ condition = false := by
  unfold issueWhen
  cases condition <;> simp

end Contract

end MarketMind.Publishing
