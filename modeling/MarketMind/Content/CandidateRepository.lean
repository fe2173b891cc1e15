import Mathlib.Data.List.MinMax
import MarketMind.Publishing.CandidateIntakeSound

/-!
Owns the repository of publication candidates: how an approved item version
becomes a frozen candidate, how a candidate is revoked or replaced, and the
events that both leave in the outbox.

Does not own the validators (they are those of the intake), nor the dispatch of
the outbox. `packs` and `users` are tables that other modules write.
-/

namespace MarketMind.Content.CandidateRepository

open Publishing Publishing.Contract Publishing.Intake

/-- A UUID as PostgreSQL writes it and `randomUUID` draws it, in lower case: two
such texts are equal exactly when the UUIDs are. -/
structure UuidText where
  text : String
  isUuid : isUuid (some (.string text)) = true
  isLower : text.toList.all (fun char => !char.isUpper) = true
deriving DecidableEq

def UuidText.json (id : UuidText) : Json := .string id.text

/-- What the repository takes from the host: the digests and the clock of
`Host`, and how PostgreSQL reads a text given for a UUID column. -/
structure Platform where
  host : Host
  readUuid : String → Option UuidText

inductive AssetKind
  | ownerSupplied
  | generatedStatic
deriving DecidableEq

def AssetKind.text : AssetKind → String
  | ownerSupplied => "owner_supplied"
  | generatedStatic => "generated_static"

structure PublicationCandidateAssetInput where
  assetId : String
  kind : AssetKind
  mimeType : String
  storageKey : String
  checksum : String

/-- The approval that a candidate is created for. -/
structure ContentDecisionRow where
  id : UuidText
  contentItemVersionId : UuidText
  contentItemVersionChecksum : String
  decidedByUserId : UuidText
  decidedAt : Publishing.Instant

structure ItemVersion where
  id : UuidText
  contentItemId : UuidText
  contentPackId : UuidText
  version : Int
  versionChecksum : String
  channel : String
  format : String
  languageMode : String
  captionVariants : Json
  cta : Option String
  hashtags : Json
  altText : String
  recommendedPublishWindow : Json

structure CreateCandidateInput where
  approval : ContentDecisionRow
  itemVersion : ItemVersion
  assets : List PublicationCandidateAssetInput
  ownerUserId : String

/-! ### Tables -/

structure ContentPack where
  id : UuidText
  businessId : UuidText
  strategyId : UuidText
  strategyVersion : Int
  contentCycleId : UuidText
  weekNumber : Int

inductive CandidateState
  | active
  | revoked
  | replaced
deriving DecidableEq

def CandidateState.text : CandidateState → String
  | active => "active"
  | revoked => "revoked"
  | replaced => "replaced"

structure PublicationCandidate where
  id : UuidText
  candidateId : UuidText
  businessId : UuidText
  payload : Fields
  candidateChecksum : String
  contentItemVersionId : UuidText
  state : CandidateState

structure PublicationCandidateStatus where
  candidateId : UuidText
  candidateChecksum : String
  stateVersion : Nat
  candidateState : CandidateState
  replacementCandidateId : Option UuidText
  changedByUserId : UuidText
  changedAt : Publishing.Instant

structure PublicationCandidateOutbox where
  eventId : UuidText
  candidateId : UuidText
  payload : Fields

/-- The tables; the outbox is in the order of emission. -/
structure Database where
  packs : List ContentPack
  users : List UuidText
  candidates : List PublicationCandidate := []
  statuses : List PublicationCandidateStatus := []
  outbox : List PublicationCandidateOutbox := []

inductive CandidateError
  | packNotFound
  | candidateTampered (message : String) (issues : List ContentIssue)
  | versionConflict (message : String)
  /-- An error of the runtime or of the database that is not handled. -/
  | failed

def tampered (message : String) (issues : List ContentIssue := []) : CandidateError :=
  .candidateTampered message issues

/-- Refuses unless the condition holds. -/
def require (condition : Bool) (error : CandidateError) : Except CandidateError Unit :=
  if condition then .ok () else .error error

/-! ### Creation -/

/-- `variants.find((v) => v.locale === locale)`; reading a property of `null` throws. -/
def findLocale (locale : String) : List Json → Except CandidateError (Option Json)
  | [] => .ok none
  | .null :: _ => .error .failed
  | variant :: rest =>
      if isText (property (some variant) "locale") locale then .ok (some variant)
      else findLocale locale rest

def selectCaption (captionVariants : Json) (languageMode : String) :
    Except CandidateError (String × Json) := do
  let variants := match captionVariants with
    | .array items => items
    | _ => []
  match variants with
  | [] => .ok ("ar", .string "")
  | first :: _ =>
      let primary := if languageMode = "ar" ∨ languageMode = "en" then languageMode else "ar"
      let preferred ← findLocale primary variants
      let arabic ← findLocale "ar" variants
      let pick := (preferred.orElse fun _ => arabic).getD first
      let locale := if isText (property (some pick) "locale") "en" then "en" else "ar"
      .ok (locale, (Json.orElse (property (some pick) "caption") (some (.string ""))).getD .null)

def parseHashtags : Json → Json
  | .array tags => .array tags
  | _ => .array []

/-- `window.starts_at ?? ""` and the same of `ends_at`. -/
def parsePublishWindow (window : Json) (bound : String) : Json :=
  (Json.orElse (property (some window) bound) (some (.string ""))).getD .null

def assetJson (asset : PublicationCandidateAssetInput) : Json :=
  .object [("asset_id", .string asset.assetId), ("kind", .string asset.kind.text),
    ("mime_type", .string asset.mimeType), ("storage_key", .string asset.storageKey),
    ("checksum", .string asset.checksum)]

/-- The candidate with a given checksum: `candidateBase` has the empty one. -/
def candidateWith (host : Host) (input : CreateCandidateInput) (pack : ContentPack)
    (candidateId : UuidText) (caption : String × Json) (now : Publishing.Instant) (checksum : String) :
    Fields :=
  let item := input.itemVersion
  [("contract_version", .string "publication-candidate-v1"),
    ("candidate_id", candidateId.json), ("business_id", pack.businessId.json),
    ("strategy_id", pack.strategyId.json),
    ("strategy_version", .number (.integer pack.strategyVersion)),
    ("content_cycle_id", pack.contentCycleId.json),
    ("strategy_week_number", .number (.integer pack.weekNumber)),
    ("content_pack_id", item.contentPackId.json), ("content_item_id", item.contentItemId.json),
    ("content_item_version_id", item.id.json),
    ("content_item_version", .number (.integer item.version)),
    ("content_item_version_checksum", .string item.versionChecksum),
    ("target_channel", .string item.channel), ("content_format", .string item.format),
    ("selected_locale", .string caption.1), ("caption", caption.2),
    ("cta", item.cta.elim .null .string), ("hashtags", parseHashtags item.hashtags),
    ("alt_text", .string item.altText), ("assets", .array (input.assets.map assetJson)),
    ("recommended_publish_window", .object [
      ("starts_at", parsePublishWindow item.recommendedPublishWindow "starts_at"),
      ("ends_at", parsePublishWindow item.recommendedPublishWindow "ends_at"),
      ("timezone", .string "Africa/Cairo")]),
    ("approval", .object [("decision_id", input.approval.id.json),
      ("decision", .string "approved"),
      ("content_item_version_id", input.approval.contentItemVersionId.json),
      ("content_item_version_checksum", .string input.approval.contentItemVersionChecksum),
      ("decided_by_user_id", input.approval.decidedByUserId.json),
      ("decided_at", .string (host.toISOString input.approval.decidedAt))]),
    ("candidate_checksum", .string checksum), ("created_at", .string (host.toISOString now))]

/-- An event of the outbox. -/
def eventOf (host : Host) (eventId : UuidText) (type : String) (now : Publishing.Instant)
    (candidateId : UuidText) (payload : Fields) : Fields :=
  [("event_id", eventId.json), ("event_type", .string type),
    ("occurred_at", .string (host.toISOString now)), ("correlation_id", candidateId.json),
    ("payload", .object payload)]

/-- A column that refers to a user, as PostgreSQL accepts it. -/
def userColumn (platform : Platform) (database : Database) (text : String) :
    Except CandidateError UuidText :=
  match platform.readUuid text with
  | some id => if database.users.contains id then .ok id else .error .failed
  | none => .error .failed

/-- `tx.publicationCandidateStatus.create`, under its unique index. -/
def createStatus (database : Database) (status : PublicationCandidateStatus) :
    Except CandidateError Database := do
  require (!database.statuses.any fun row =>
    row.candidateId = status.candidateId && row.stateVersion = status.stateVersion) .failed
  return { database with statuses := database.statuses ++ [status] }

/-- `tx.publicationCandidateOutbox.create`, under its unique index. -/
def createOutbox (database : Database) (row : PublicationCandidateOutbox) :
    Except CandidateError Database := do
  require (!database.outbox.any fun other => other.eventId = row.eventId) .failed
  return { database with outbox := database.outbox ++ [row] }

/-- `tx.publicationCandidate.create`, under its primary key and its two unique indexes. -/
def createRow (database : Database) (row : PublicationCandidate) :
    Except CandidateError Database := do
  require (!database.candidates.any fun other => other.id = row.id ||
      other.candidateId = row.candidateId ||
      other.contentItemVersionId = row.contentItemVersionId)
    (.versionConflict "This exact item version already has a publication candidate.")
  return { database with candidates := database.candidates ++ [row] }

/-- What one call draws: the key of the row it inserts, two random UUIDs and the time. -/
structure Draw where
  rowId : UuidText
  candidateId : UuidText
  eventId : UuidText
  now : Publishing.Instant

def createCandidate (platform : Platform) (database : Database) (input : CreateCandidateInput)
    (draw : Draw) : Except CandidateError Database := do
  let host := platform.host
  let item := input.itemVersion
  match database.packs.find? (·.id = item.contentPackId) with
  | none => .error .packNotFound
  | some pack =>
      let caption ← selectCaption item.captionVariants item.languageMode
      let frozen := candidateWith host input pack draw.candidateId caption draw.now
      let checksum := computePublicationCandidateChecksum host (frozen "")
      let candidate := frozen checksum
      let issues := validatePublicationCandidateV1 host (some (.object candidate))
      require issues.isEmpty
        (tampered "Publication candidate failed validation; nothing persisted." issues)
      let database ← createRow database {
        id := draw.rowId, candidateId := draw.candidateId, businessId := pack.businessId
        payload := candidate, candidateChecksum := checksum
        contentItemVersionId := item.id, state := .active }
      let owner ← userColumn platform database input.ownerUserId
      let database ← createStatus database {
        candidateId := draw.rowId, candidateChecksum := checksum, stateVersion := 1
        candidateState := .active, replacementCandidateId := none
        changedByUserId := owner, changedAt := draw.now }
      createOutbox database {
        eventId := draw.eventId, candidateId := draw.candidateId
        payload := eventOf host draw.eventId createdType draw.now draw.candidateId candidate }

/-! ### Revocation and replacement -/

/-- `newState`: a candidate is revoked or replaced. -/
inductive NewState
  | revoked
  | replaced
deriving DecidableEq

def NewState.state : NewState → CandidateState
  | revoked => .revoked
  | replaced => .replaced

/-- `findFirst` in the descending order of the versions. -/
def latestStatus (database : Database) (id : UuidText) : Option PublicationCandidateStatus :=
  (database.statuses.filter (·.candidateId = id)).argmax (·.stateVersion)

/-- The status that the event carries. -/
def statusPayload (host : Host) (candidate : PublicationCandidate) (stateVersion : Nat)
    (newState : NewState) (byUserId : String) (replacementId : Option String) (now : Publishing.Instant) :
    Fields :=
  [("contract_version", .string "publication-candidate-status-v1"),
    ("candidate_id", candidate.candidateId.json), ("business_id", candidate.businessId.json),
    ("candidate_checksum", .string candidate.candidateChecksum),
    ("state_version", .number (.integer stateVersion)),
    ("changed_by_user_id", .string byUserId), ("changed_at", .string (host.toISOString now)),
    ("candidate_state", .string newState.state.text),
    ("replacement_candidate_id",
      if newState = .replaced then .string (replacementId.getD "") else .null)]

/-- The column of the replacement: `replacementId ?? null`. -/
def replacementColumn (platform : Platform) (replacementId : Option String) :
    Except CandidateError (Option UuidText) :=
  match replacementId with
  | none => .ok none
  | some text =>
      match platform.readUuid text with
      | some id => .ok (some id)
      | none => .error .failed

def changeCandidateState (platform : Platform) (database : Database) (candidateId : UuidText)
    (newState : NewState) (byUserId : String) (replacementId : Option String)
    (eventId : UuidText) (now : Publishing.Instant) : Except CandidateError Database := do
  match database.candidates.find? (·.id = candidateId) with
  | none => .error (tampered "Publication candidate not found.")
  | some candidate =>
      let stateVersion := (latestStatus database candidateId).elim 1 (·.stateVersion + 1)
      let replacementCandidateId ← replacementColumn platform replacementId
      let changedByUserId ← userColumn platform database byUserId
      let database ← createStatus database {
        candidateId, candidateChecksum := candidate.candidateChecksum, stateVersion
        candidateState := newState.state, replacementCandidateId, changedByUserId
        changedAt := now }
      let status := statusPayload platform.host candidate stateVersion newState byUserId
        replacementId now
      let database ← createOutbox database {
        eventId, candidateId := candidate.candidateId
        payload := eventOf platform.host eventId stateChangedType now candidate.candidateId status }
      -- In a transaction of its own the row still has the state that was read.
      return { database with candidates := database.candidates.map fun row =>
        if row.id = candidateId && row.state = candidate.state then
          { row with state := newState.state } else row }

/-! ### Runs -/

inductive Operation
  | createCandidate (input : CreateCandidateInput) (draw : Draw)
  | changeCandidateState (candidateId : UuidText) (newState : NewState) (byUserId : String)
      (replacementId : Option String) (eventId : UuidText) (now : Publishing.Instant)
  /-- Other modules change the packs and the users. -/
  | elsewhere (packs : List ContentPack) (users : List UuidText)

def perform (platform : Platform) (database : Database) :
    Operation → Except CandidateError Database
  | .createCandidate input draw => createCandidate platform database input draw
  | .changeCandidateState candidateId newState byUserId replacementId eventId now =>
      changeCandidateState platform database candidateId newState byUserId replacementId eventId now
  | .elsewhere packs users => .ok { database with packs, users }

/-- The tables after an operation, which rolls back when it fails. -/
def after (platform : Platform) (database : Database) (operation : Operation) : Database :=
  match perform platform database operation with
  | .ok database => database
  | .error _ => database

def afterAll (platform : Platform) (database : Database) (operations : List Operation) :
    Database :=
  operations.foldl (after platform) database

end MarketMind.Content.CandidateRepository
