import Mathlib.Data.List.Infix
import MarketMind.Publishing.Dispatch
import MarketMind.Publishing.MetaGraph

/-!
Owns `MetaProviderExecutor`: how the attempt, its target and its credential are
resolved, the five ways in which it publishes, and the result that it reports.

The constant fields of a result are left out. What the API's own services answer
(the database, the vaults, the asset reader) is given.

Does not own the clients of the Graph API.
-/

namespace MarketMind.Publishing.Meta

open MarketMind.Requests Contract Dispatch

inductive MetaOutcome
  | published
  | failed
  | unknown
deriving DecidableEq, Repr

structure MetaExecutorResult where
  resultId : String
  attemptId : Uuid
  intentId : Uuid
  intentVersion : Nat
  occurredAt : Instant
  outcome : MetaOutcome
  remotePublicationId : Option String
  remoteUrl : Option Json
  errorCode : Option ErrorCode
  retryable : Bool
  reconciliationRequired : Bool

structure PublishingCredential where
  id : String
  ciphertext : String
  keyVersion : String
  revokedAt : Option Instant
deriving DecidableEq, Repr

structure AssetReference where
  assetId : String
  mimeType : String
  storageKey : Json
  checksum : Json

structure AssetRecord where
  bytes : String
  mimeType : String

/-- What the call reads and uses besides its input. -/
structure Surroundings where
  graph : Graph
  connections : Connections
  pollAttempts : Nat
  resultId : String
  occurredAt : Instant
  now : Instant
  findAttempt : Uuid → Answer (Option (PublishingAttempt × PublishingIntent))
  findTarget : Uuid → Answer (Option PublishingTarget)
  findCandidate : Uuid → Answer (Option PublishingCandidate)
  findCredential : (credentialRef : String) → Answer (Option PublishingCredential)
  decrypt : PublishingCredential → Answer Json
  findOwner : (businessId : Uuid) → Answer (Option Uuid)
  findConnection : (socialConnectionId : String) → Answer (Option SocialConnection)
  providerFetchOriginError : Option String
  buildUrl : (attemptId : Uuid) → (assetId : String) → Answer String
  readApprovedAsset : AssetReference → Except String (Option AssetRecord)

structure ExecuteInput where
  attemptId : Uuid
  intentId : Uuid
  targetId : Uuid

/-! ### Errors -/

/-- `mapMetaGraphError`, with the code and whether a retry makes sense. -/
def mapMetaGraphError (status : Nat) (code : Int) : ErrorCode × Bool :=
  if status = 401 ∨ code ∈ [190, 102, 463, 467] then (.targetUnauthorized, false)
  else if status = 429 ∨ code ∈ [4, 17, 32, 613] then (.providerRateLimited, true)
  else (.providerFailure, decide (500 ≤ status))

def failed (base : MetaExecutorResult) (errorCode : ErrorCode) (retryable : Bool) :
    MetaExecutorResult :=
  { base with outcome := .failed, errorCode := some errorCode, retryable }

def unknown (base : MetaExecutorResult) : MetaExecutorResult :=
  { base with
    outcome := .unknown
    errorCode := some .providerOutcomeUnknown
    reconciliationRequired := true }

def published (base : MetaExecutorResult) (result : MetaPublishResult) : MetaExecutorResult :=
  { base with
    outcome := .published
    remotePublicationId := some result.remotePublicationId
    remoteUrl := result.remoteUrl }

def settleStatus (base : MetaExecutorResult) (status : Nat) (code : Int) : MetaExecutorResult :=
  if status = 0 then unknown base
  else failed base (mapMetaGraphError status code).1 (mapMetaGraphError status code).2

/-- The `catch` of the calls of `MetaGraphClient`. -/
def settleClientError (base : MetaExecutorResult) : Thrown → MetaExecutorResult
  | .metaGraphClientError status code => settleStatus base status code
  | _ => failed base .providerFailure true

/-- The `catch` of the calls of `FacebookService`. -/
def settleFacebookError (base : MetaExecutorResult) : Thrown → MetaExecutorResult
  | .facebookGraphError status code => settleStatus base status code
  | _ => failed base .providerFailure true

/-- Publishes, and makes a result of what comes back or is thrown. -/
def report (base : MetaExecutorResult) (settle : MetaExecutorResult → Thrown → MetaExecutorResult)
    (publish : MetaCall MetaPublishResult) : MetaCall MetaExecutorResult :=
  Call.catching
    (do
      let result ← publish
      pure (published base result))
    fun error => pure (settle base error)

/-! ### Candidates -/

def contentFormatFor (payload : Option Json) : Option String :=
  let format := property payload "content_format"
  if isText format "static_image_post" then some "static_image_post"
  else if isText format "text_post" then some "text_post"
  else none

def requiredCapability : Option String → Option String
  | some "text_post" => some "text"
  | some "static_image_post" => some "static_image"
  | _ => none

def captionFor (payload : Option Json) : String :=
  let hashtags := match property payload "hashtags" with
    | some (.array items) => " ".intercalate (Json.texts items)
    | _ => ""
  "\n".intercalate
    (([property payload "caption", some (.string hashtags)].filter truthy).map text)

/-- A string with at least one character. -/
def nonEmptyText : Option Json → Option String
  | some (.string value) => if value = "" then none else some value
  | _ => none

def imageType : Option Json → Option String
  | some (.string value) => if "image/".toList.isPrefixOf value.toList then some value else none
  | _ => none

/-- The first entry that names an image, by its id and its type. -/
def findStaticAsset : List Json → MetaCall (Option (String × String × Json))
  | [] => pure none
  | entry :: rest => do
      let assetId ← member entry "asset_id"
      match nonEmptyText assetId, imageType (property (some entry) "mime_type") with
      | some assetId, some mimeType => pure (some (assetId, mimeType, entry))
      | _, _ => findStaticAsset rest

def referenceOf (assetId mimeType : String) (entry : Json) : Option AssetReference :=
  match property (some entry) "storage_key", property (some entry) "checksum" with
  | some storageKey, some checksum =>
      if truthy (some storageKey) && truthy (some checksum) then
        some { assetId, mimeType, storageKey, checksum }
      else none
  | _, _ => none

def firstStaticAsset (payload : Option Json) : MetaCall (Option AssetReference) :=
  match property payload "assets" with
  | none | some .null => pure none
  | some (.array items) => do
      let found ← findStaticAsset items
      pure (found.bind fun (assetId, mimeType, entry) => referenceOf assetId mimeType entry)
  | some _ => .raise .other

def includes (text part : String) : Bool := decide (part.toList <:+: text.toList)

section

variable (surroundings : Surroundings)

/-- The approved asset with its bytes, or the result that says why there is none. -/
def readStaticAsset (base : MetaExecutorResult) (payload : Option Json) :
    MetaCall (Except MetaExecutorResult (AssetReference × AssetRecord)) := do
  match ← firstStaticAsset payload with
  | none => pure (.error (failed base .assetUnavailable false))
  | some asset =>
      match surroundings.readApprovedAsset asset with
      | .ok (some approvedAsset) => pure (.ok (asset, approvedAsset))
      | .ok none => pure (.error (failed base .assetUnavailable false))
      | .error message =>
          let code := if includes message ErrorCode.assetTampered.text then .assetTampered
            else .assetUnavailable
          pure (.error (failed base code false))

/-! ### The canonical connection of the owner -/

def socialConnectionPrefix : String := "facebook-social-connection:"

def socialConnectionIdFromFacebookTargetRef (reference : String) : Option String :=
  if socialConnectionPrefix.toList.isPrefixOf reference.toList then
    nonEmptyText
      (some (.string (String.ofList (reference.toList.drop socialConnectionPrefix.length))))
  else none

/-- Whether the connection is the owner's valid connection of the target's page. -/
def isUsable (target : PublishingTarget) (owner : Uuid) (connection : SocialConnection) : Bool :=
  connection.userId = owner && connection.provider = "facebook" &&
    connection.pageId = target.externalAccountId && connection.isValid

def publishOverConnection (base : MetaExecutorResult) (target : PublishingTarget) (owner : Uuid)
    (payload : Option Json) : MetaCall MetaExecutorResult := do
  if contentFormatFor payload = some "text_post" then
    report base settleFacebookError
      (publishTextForUser surroundings.graph surroundings.connections owner
        target.externalAccountId (captionFor payload))
  else if contentFormatFor payload ≠ some "static_image_post" then
    pure (failed base .formatUnsupported false)
  else do
    match ← readStaticAsset surroundings base payload with
    | .error result => pure result
    | .ok (_, verified) =>
        report base settleFacebookError
          (publishPhotoForUser surroundings.graph surroundings.connections owner
            target.externalAccountId verified.bytes verified.mimeType (captionFor payload))

def executeFacebookSocialConnection (base : MetaExecutorResult) (target : PublishingTarget)
    (payload : Option Json) (socialConnectionId : String) : MetaCall MetaExecutorResult := do
  if target.channel ≠ "facebook" then pure (failed base .targetUnauthorized false)
  else do
    let owner ← ask (surroundings.findOwner target.businessId)
    let connection ← ask (surroundings.findConnection socialConnectionId)
    match owner, connection with
    | some owner, some connection =>
        if isUsable target owner connection then
          publishOverConnection surroundings base target owner payload
        else pure (failed base .targetUnauthorized false)
    | _, _ => pure (failed base .targetUnauthorized false)

/-! ### Credentials of the vault -/

/-- The token of the credential that the target names, when it is of the kind
that the channel needs. -/
def vaultToken (target : PublishingTarget) : MetaCall (Option String) :=
  Call.catching
    (do
      match ← ask (surroundings.findCredential target.credentialRef) with
      | none => Call.raise .other
      | some record =>
          if record.revokedAt.isSome then Call.raise .other
          else do
            let parsed ← ask (surroundings.decrypt record)
            let type ← member parsed "type"
            let expectedType := if target.channel = "instagram" then "instagram" else "page"
            let token := property (some parsed) "token"
            if !isText type expectedType ∨ !truthy token then Call.raise .other
            else pure (some (text token)))
    fun _ => pure none

def publishImage (base : MetaExecutorResult) (target : PublishingTarget) (token caption : String)
    (asset : AssetReference) (verified : AssetRecord) : MetaCall MetaExecutorResult :=
  report base settleClientError
    (if target.channel = "instagram" then do
      let imageUrl ← ask (surroundings.buildUrl base.attemptId asset.assetId)
      publishInstagramPhoto surroundings.graph surroundings.pollAttempts token
        target.externalAccountId imageUrl caption
    else
      publishFacebookPhoto surroundings.graph token target.externalAccountId verified.bytes
        verified.mimeType caption)

def publishOverVault (base : MetaExecutorResult) (target : PublishingTarget) (token : String)
    (payload : Option Json) : MetaCall MetaExecutorResult := do
  if contentFormatFor payload = some "text_post" then
    if target.channel ≠ "facebook" then pure (failed base .formatUnsupported false)
    else
      report base settleClientError
        (publishFacebookText surroundings.graph token target.externalAccountId
          (captionFor payload))
  else if target.channel = "instagram" ∧ surroundings.providerFetchOriginError.isSome then
    pure (failed base .mediaOriginNotReachable false)
  else do
    match ← readStaticAsset surroundings base payload with
    | .error result => pure result
    | .ok (asset, verified) =>
        publishImage surroundings base target token (captionFor payload) asset verified

/-! ### The call -/

/-- The part of `execute` that follows the checks of the target. -/
def executeTarget (base : MetaExecutorResult) (target : PublishingTarget)
    (candidate : Option PublishingCandidate) : MetaCall MetaExecutorResult := do
  let payload := candidate.map (·.payload)
  match requiredCapability (contentFormatFor payload) with
  | none => pure (failed base .formatUnsupported false)
  | some capability =>
      if !listsText target.capabilities capability then
        pure (failed base .formatUnsupported false)
      else
        match (if target.channel = "facebook" then
          socialConnectionIdFromFacebookTargetRef target.credentialRef else none) with
        | some socialConnectionId =>
            executeFacebookSocialConnection surroundings base target payload socialConnectionId
        | none => do
            match ← vaultToken surroundings target with
            | none => pure (failed base .targetUnauthorized false)
            | some token => publishOverVault surroundings base target token payload

def baseResult (input : ExecuteInput) : MetaExecutorResult where
  resultId := surroundings.resultId
  attemptId := input.attemptId
  intentId := input.intentId
  intentVersion := 0
  occurredAt := surroundings.occurredAt
  outcome := .failed
  remotePublicationId := none
  remoteUrl := none
  errorCode := none
  retryable := false
  reconciliationRequired := false

def execute (input : ExecuteInput) : MetaCall MetaExecutorResult := do
  let base := baseResult surroundings input
  match ← ask (surroundings.findAttempt input.attemptId) with
  | none => pure (failed base .targetUnauthorized false)
  | some (attempt, intent) =>
      if attempt.intentId ≠ input.intentId then pure (failed base .targetUnauthorized false)
      else do
        let base := { base with intentVersion := intent.version }
        if intent.binding.targetId ≠ some input.targetId then
          pure (failed base .targetUnauthorized false)
        else do
          match ← ask (surroundings.findTarget input.targetId) with
          | none => pure (failed base .targetUnauthorized false)
          | some target =>
              if target.connectionState ≠ .connected then
                pure (failed base .targetUnauthorized false)
              else if target.expiresAt.any (· < surroundings.now) then
                pure (failed base .targetUnauthorized false)
              else do
                let candidate ← ask (surroundings.findCandidate intent.candidateId)
                executeTarget surroundings base target candidate

end

end MarketMind.Publishing.Meta
