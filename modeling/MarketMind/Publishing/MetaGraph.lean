import MarketMind.Publishing.Contract
import MarketMind.Requests.Call

/-!
Owns the two clients of the Graph API that publish: what the API may answer, the
calls of `MetaGraphClient` and of `FacebookService`, and how each normalises what
goes wrong.

The texts of errors and their subcodes are left out, since the executor drops
them; so are the requests' URLs. A status is that of the answer: 2xx with a body,
or any other.

Does not own how an attempt comes to be published.
-/

namespace MarketMind.Publishing.Meta

open MarketMind.Requests Contract

/-- The id under which Meta keeps a post. -/
abbrev RemoteId := {id : String // id ≠ ""}

/-- An answer outside 2xx: its status and its `error.code`. -/
structure GraphFailure where
  status : Nat
  code : Option Int
deriving DecidableEq, Repr

/-- The answer to a request that publishes nothing. -/
inductive Reply
  | answered (data : Json)
  | rejected (failure : GraphFailure)
  | silent

/-- The answer to a request that publishes, with what became of the post. A 4xx
has no effect; a 5xx or no answer leaves open whether there is a post. -/
inductive PostAnswer
  | accepted (post : RemoteId) (data : Json)
  | refused (failure : GraphFailure) (client : 400 ≤ failure.status ∧ failure.status < 500)
  | broken (failure : GraphFailure) (server : 500 ≤ failure.status) (post : Option RemoteId)
  | unanswered (post : Option RemoteId)

/-- What the sender sees. -/
def PostAnswer.reply : PostAnswer → Reply
  | accepted _ data => .answered data
  | refused failure _ => .rejected failure
  | broken failure _ _ => .rejected failure
  | unanswered _ => .silent

/-- The post that came of it. -/
def PostAnswer.post : PostAnswer → Option RemoteId
  | accepted post _ => some post
  | refused .. => none
  | broken _ _ post => post
  | unanswered post => post

/-- The requests that publish. -/
inductive Endpoint
  | feed
  | photos
  | mediaPublish
deriving DecidableEq, Repr

structure Sent where
  endpoint : Endpoint
  answer : PostAnswer

/-- What is thrown on the way. An Axios error has no failure when there was no
answer. -/
inductive Thrown
  | metaGraphClientError (status : Nat) (code : Int)
  | facebookGraphError (status : Nat) (code : Int)
  | axiosError (failure : Option GraphFailure)
  | other
deriving DecidableEq, Repr

abbrev MetaCall := Call Sent Thrown

/-- The answer of the database or of another service, which may fail. -/
abbrev Answer := Except Unit

def ask {α : Type} (answer : Answer α) : MetaCall α := .ofExcept (answer.mapError fun _ => .other)

def receive : Reply → MetaCall Json
  | .answered data => pure data
  | .rejected failure => .raise (.axiosError (some failure))
  | .silent => .raise (.axiosError none)

/-- `axios.post` to an endpoint that publishes. -/
def post (endpoint : Endpoint) (answer : PostAnswer) : MetaCall Json := do
  Call.send ⟨endpoint, answer⟩
  receive answer.reply

/-! ### Bodies -/

/-- `Boolean(value)` -/
def truthy : Option Json → Bool
  | none | some .null => false
  | some (.boolean value) => value
  | some (.number (.integer value)) => value ≠ 0
  | some (.number (.other text)) => text ≠ "NaN"
  | some (.string value) => value ≠ ""
  | some (.array _) | some (.object _) => true

/-- `left || right` -/
def orFalsy (left right : Option Json) : Option Json := if truthy left then left else right

/-- `String(value)` -/
def text (value : Option Json) : String := (value.map Json.text).getD "undefined"

/-- `data.name`, which throws when `data` is `null`. -/
def member (data : Json) (name : String) : MetaCall (Option Json) :=
  if data = .null then .raise .other else pure (property (some data) name)

/-- `permalink_url ?? link ?? null` -/
def permalinkOf (data : Json) : Option Json :=
  Json.orElse (property (some data) "permalink_url")
    (Json.orElse (property (some data) "link") (some .null))

structure MetaPublishResult where
  remotePublicationId : String
  remoteUrl : Option Json

/-- What the Graph API answers, request by request. -/
structure Graph where
  feed : (pageId message accessToken : String) → PostAnswer
  photos : (pageId source mimeType caption accessToken : String) → PostAnswer
  media : (igBusinessId imageUrl caption accessToken : String) → Reply
  container : (containerId accessToken : String) → (poll : Nat) → Reply
  mediaPublish : (igBusinessId creationId accessToken : String) → PostAnswer
  permalink : (postId accessToken : String) → Reply

/-! ### `MetaGraphClient` -/

def normalizeError : Thrown → Thrown
  | .axiosError (some failure) => .metaGraphClientError failure.status (failure.code.getD 0)
  | _ => .metaGraphClientError 0 0

/-- `graphGet` and `graphPost` -/
def normalized {α : Type} (call : MetaCall α) : MetaCall α :=
  call.catching fun error => .raise (normalizeError error)

def permalinkForFacebookPost (graph : Graph) (postId pageToken : String) :
    MetaCall (Option Json) :=
  Call.catching
    (do
      let response ← normalized (receive (graph.permalink postId pageToken))
      if response = .null then Call.raise .other else pure (permalinkOf response))
    fun _ => pure (some .null)

def publishFacebookText (graph : Graph) (pageToken pageId caption : String) :
    MetaCall MetaPublishResult := do
  let response ← normalized (post .feed (graph.feed pageId caption pageToken))
  let id ← member response "id"
  let remotePublicationId := text (Json.orElse id (some (.string "")))
  if remotePublicationId = "" then Call.raise (.metaGraphClientError 200 0)
  else do
    let remoteUrl ← permalinkForFacebookPost graph remotePublicationId pageToken
    pure { remotePublicationId, remoteUrl }

/-- One poll for each of the remaining attempts. -/
def pollMediaContainer (graph : Graph) (containerId pageToken : String) :
    (attempt remaining : Nat) → MetaCall Json
  | _, 0 => .raise (.metaGraphClientError 200 1)
  | attempt, remaining + 1 => do
      let data ← normalized (receive (graph.container containerId pageToken attempt))
      let statusCode ← member data "status_code"
      let statusCode := Json.orElse statusCode
        (Json.orElse (property (some data) "status") (some (.string "IN_PROGRESS")))
      if isText statusCode "IN_PROGRESS" then
        pollMediaContainer graph containerId pageToken (attempt + 1) remaining
      else pure (statusCode.getD .null)

def publishContainer (graph : Graph) (pageToken igBusinessId containerId : String) :
    MetaCall MetaPublishResult := do
  let published ← normalized
    (post .mediaPublish (graph.mediaPublish igBusinessId containerId pageToken))
  let id ← member published "id"
  let remotePublicationId := text (orFalsy id (some (.string "")))
  if remotePublicationId = "" then Call.raise (.metaGraphClientError 200 0)
  else pure { remotePublicationId, remoteUrl := some .null }

def publishInstagramPhoto (graph : Graph) (pollAttempts : Nat)
    (pageToken igBusinessId imageUrl caption : String) : MetaCall MetaPublishResult := do
  let container ← normalized (receive (graph.media igBusinessId imageUrl caption pageToken))
  let id ← member container "id"
  let containerId := text (Json.orElse id (some (.string "")))
  if containerId = "" then Call.raise (.metaGraphClientError 200 0)
  else do
    let status ← pollMediaContainer graph containerId pageToken 0 pollAttempts
    if status = .string "FINISHED" then publishContainer graph pageToken igBusinessId containerId
    else Call.raise (.metaGraphClientError 200 (if status = .string "ERROR" then 0 else 1))

/-! ### `FacebookService` -/

structure SocialConnection where
  userId : Nat
  provider : String
  pageId : String
  isValid : Bool
  encryptedToken : String
deriving DecidableEq, Repr

/-- The connections, as the service's own queries find and change them, and the
services it uses. -/
structure Connections where
  findUnique : (userId : Nat) → Answer (Option SocialConnection)
  decrypt : (encryptedToken : String) → Answer String
  markTested : (userId : Nat) → Answer Unit
  invalidate : (userId : Nat) → Answer Nat
  sendFacebookExpiredEmail : (userId : Nat) → Answer Unit

def facebookInvalidTokenCode : Int := 190

def pageTokenForUser (connections : Connections) (userId : Nat) (pageId : String) :
    MetaCall String := do
  match ← ask (connections.findUnique userId) with
  | none => Call.raise (.facebookGraphError 401 facebookInvalidTokenCode)
  | some connection =>
      if connection.provider ≠ "facebook" then
        Call.raise (.facebookGraphError 401 facebookInvalidTokenCode)
      else if !connection.isValid ∨ connection.pageId ≠ pageId then
        Call.raise (.facebookGraphError 401 facebookInvalidTokenCode)
      else (ask (connections.decrypt connection.encryptedToken)).catching fun _ =>
        Call.raise (.facebookGraphError 0 0)

def isGraphErrorCode (error : Thrown) (code : Int) : Bool :=
  match error with
  | .axiosError (some failure) => failure.code = some code
  | _ => false

def isExpired : Thrown → Bool
  | .facebookGraphError _ code => code = facebookInvalidTokenCode
  | error => isGraphErrorCode error facebookInvalidTokenCode

def invalidateOnExpiredToken (connections : Connections) (userId : Nat) (error : Thrown) :
    MetaCall Unit :=
  if isExpired error then do
    let count ← ask (connections.invalidate userId)
    if 0 < count then ask (connections.sendFacebookExpiredEmail userId) else pure ()
  else pure ()

def normalizeGraphError : Thrown → Thrown
  | .facebookGraphError status code => .facebookGraphError status code
  | .axiosError (some failure) => .facebookGraphError failure.status (failure.code.getD 0)
  | _ => .facebookGraphError 0 0

/-- The `catch` of both publishing methods. -/
def settleGraphError {α : Type} (connections : Connections) (userId : Nat) (error : Thrown) :
    MetaCall α := do
  invalidateOnExpiredToken connections userId error
  Call.raise (normalizeGraphError error)

/-- `response.data?.permalink_url ?? response.data?.link ?? null`, or `null` when
the lookup fails. -/
def permalinkForPagePost (graph : Graph) (postId pageToken : String) : MetaCall (Option Json) :=
  Call.catching
    (do
      let data ← receive (graph.permalink postId pageToken)
      pure (permalinkOf data))
    fun _ => pure (some .null)

def publishTextForUser (graph : Graph) (connections : Connections) (userId : Nat)
    (pageId caption : String) : MetaCall MetaPublishResult :=
  Call.catching
    (do
      let pageToken ← pageTokenForUser connections userId pageId
      let data ← post .feed (graph.feed pageId caption pageToken)
      let remotePublicationId :=
        text (Json.orElse (property (some data) "id") (some (.string "")))
      if remotePublicationId = "" then Call.raise (.facebookGraphError 200 0)
      else do
        ask (connections.markTested userId)
        let remoteUrl ← permalinkForPagePost graph remotePublicationId pageToken
        pure { remotePublicationId, remoteUrl })
    (settleGraphError connections userId)

def publishPhotoViaPageToken (graph : Graph)
    (pageToken pageId imageBytes mimeType caption : String) : MetaCall MetaPublishResult := do
  let data ← post .photos (graph.photos pageId imageBytes mimeType caption pageToken)
  let remotePublicationId := text (orFalsy (orFalsy (property (some data) "post_id")
    (property (some data) "id")) (some (.string "")))
  if remotePublicationId = "" then Call.raise .other
  else do
    let remoteUrl ← permalinkForPagePost graph remotePublicationId pageToken
    pure { remotePublicationId, remoteUrl }

def publishPhotoForUser (graph : Graph) (connections : Connections) (userId : Nat)
    (pageId imageBytes mimeType caption : String) : MetaCall MetaPublishResult :=
  Call.catching
    (do
      let pageToken ← pageTokenForUser connections userId pageId
      let result ← publishPhotoViaPageToken graph pageToken pageId imageBytes mimeType caption
      ask (connections.markTested userId)
      pure result)
    (settleGraphError connections userId)

def publishFacebookPhoto (graph : Graph) (pageToken pageId imageBytes mimeType caption : String) :
    MetaCall MetaPublishResult :=
  normalized (publishPhotoViaPageToken graph pageToken pageId imageBytes mimeType caption)

end MarketMind.Publishing.Meta
