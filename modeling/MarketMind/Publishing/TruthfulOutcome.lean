import MarketMind.Publishing.MetaExecutor

/-!
Owns what the result of an execution tells about the provider, and exactly when it
is the truth.

Does not own what an owner may do after a result.
-/

namespace MarketMind.Publishing.Meta

open MarketMind.Requests MarketMind.Requests.Call Contract Dispatch

/-- The posts that came of the requests. -/
def posts (sent : List Sent) : List RemoteId := sent.filterMap (·.answer.post)

/-- A failure means that there is no post, and a publication that there is one,
with the id it is reported under. A call without a result has published nothing. -/
def Truthful (outcome : Except Thrown MetaExecutorResult) (sent : List Sent) : Prop :=
  match outcome with
  | .error _ => posts sent = []
  | .ok result =>
      match result.outcome with
      | .published => ∃ post ∈ posts sent, result.remotePublicationId = some post.val
      | .failed => posts sent = []
      | .unknown => True

/-- The id that the body of a 2xx answer is read as, empty for none. -/
def Endpoint.named (endpoint : Endpoint) (data : Json) : String :=
  match endpoint with
  | .feed => text (Json.orElse (property (some data) "id") (some (.string "")))
  | .photos => text (orFalsy (orFalsy (property (some data) "post_id")
      (property (some data) "id")) (some (.string "")))
  | .mediaPublish => text (orFalsy (property (some data) "id") (some (.string "")))

/-- The request left no post behind a 5xx, and its 2xx answer names the post. An
answer about a photo may leave the name out, and a wrong name does no harm when the
publication cannot be noted on the connection. -/
def Sent.Clear (unnoted : Prop) (sent : Sent) : Prop :=
  match sent.answer with
  | .accepted post data =>
      sent.endpoint.named data = post.val ∨
        (sent.endpoint = .photos ∧ sent.endpoint.named data = "") ∨
        (unnoted ∧ sent.endpoint.named data ≠ "")
  | .broken _ _ post => post = none
  | .refused .. | .unanswered _ => True

/-! ### What a publisher tells -/

/-- The errors that the executor reports as an unknown outcome. -/
def unsureClient : Thrown → Prop
  | .metaGraphClientError status _ => status = 0
  | _ => False

def unsureFacebook : Thrown → Prop
  | .facebookGraphError status _ => status = 0
  | _ => False

/-- What the result of a publisher tells, by the errors that leave it open. -/
def Tells (unsure : Thrown → Prop) (outcome : Except Thrown MetaPublishResult)
    (sent : List Sent) : Prop :=
  match outcome with
  | .ok result => ∃ post ∈ posts sent, result.remotePublicationId = post.val
  | .error thrown => unsure thrown ∨ posts sent = []

def TellsExactly (unsure : Thrown → Prop) (unnoted : Prop)
    (outcome : Except Thrown MetaPublishResult) (sent : List Sent) : Prop :=
  Tells unsure outcome sent ↔ ∀ request ∈ sent, request.Clear unnoted

@[simp] theorem posts_nil : posts [] = [] := rfl

/-! ### One request -/

section

variable {unsure : Thrown → Prop} {unnoted : Prop} {thrown : Thrown} {endpoint : Endpoint}

theorem tellsExactly_nothing : TellsExactly unsure unnoted (.error thrown) [] := by
  simp [TellsExactly, Tells]

theorem tellsExactly_refused {failure : GraphFailure}
    {client : 400 ≤ failure.status ∧ failure.status < 500} :
    TellsExactly unsure unnoted (.error thrown) [⟨endpoint, .refused failure client⟩] := by
  simp [TellsExactly, Tells, posts, PostAnswer.post, Sent.Clear]

theorem tellsExactly_broken {failure : GraphFailure} {server : 500 ≤ failure.status}
    {post : Option RemoteId} (sure : ¬unsure thrown) :
    TellsExactly unsure unnoted (.error thrown) [⟨endpoint, .broken failure server post⟩] := by
  simp [TellsExactly, Tells, posts, PostAnswer.post, Sent.Clear, sure]

theorem tellsExactly_unanswered {post : Option RemoteId} (leftOpen : unsure thrown) :
    TellsExactly unsure unnoted (.error thrown) [⟨endpoint, .unanswered post⟩] := by
  simp [TellsExactly, Tells, Sent.Clear, leftOpen]

/-- A 2xx answer that names nothing must be left open, as it is for photos. -/
theorem tellsExactly_unnamed {post : RemoteId} {data : Json}
    (unnamed : endpoint.named data = "") (onlyPhotos : unsure thrown ↔ endpoint = .photos) :
    TellsExactly unsure unnoted (.error thrown) [⟨endpoint, .accepted post data⟩] := by
  have other : "" ≠ post.val := fun same => post.property same.symm
  simp [TellsExactly, Tells, posts, PostAnswer.post, Sent.Clear, unnamed, onlyPhotos, other]

/-- A post that cannot be noted is left open, whatever it is called. -/
theorem tellsExactly_unnoted {post : RemoteId} {data : Json} (holds : unnoted)
    (named : endpoint.named data ≠ "") (leftOpen : unsure thrown) :
    TellsExactly unsure unnoted (.error thrown) [⟨endpoint, .accepted post data⟩] := by
  simp [TellsExactly, Tells, Sent.Clear, named, holds, leftOpen]

theorem tellsExactly_named {post : RemoteId} {data : Json} {remoteUrl : Option Json}
    (noted : ¬unnoted) (named : endpoint.named data ≠ "") :
    TellsExactly unsure unnoted (.ok ⟨endpoint.named data, remoteUrl⟩)
      [⟨endpoint, .accepted post data⟩] := by
  simp [TellsExactly, Tells, posts, PostAnswer.post, Sent.Clear, named, noted]

end

/-! ### Following the calls -/

@[simp] theorem after_ask {α : Type} (answer : Answer α) (sent : List Sent)
    (holds : Except Thrown α → List Sent → Prop) :
    After (ask answer : MetaCall α) sent holds ↔
      match answer with
      | .ok value => holds (.ok value) sent
      | .error _ => holds (.error .other) sent := by
  cases answer <;> rfl

@[simp] theorem after_post (endpoint : Endpoint) (answer : PostAnswer) (sent : List Sent)
    (holds : Except Thrown Json → List Sent → Prop) :
    After (post endpoint answer) sent holds ↔
      match answer.reply with
      | .answered data => holds (.ok data) (sent ++ [⟨endpoint, answer⟩])
      | .rejected failure =>
          holds (.error (.axiosError (some failure))) (sent ++ [⟨endpoint, answer⟩])
      | .silent => holds (.error (.axiosError none)) (sent ++ [⟨endpoint, answer⟩]) := by
  cases answer <;> rfl

theorem quiet_ask {α : Type} (answer : Answer α) : Quiet (ask answer : MetaCall α) :=
  quiet_ofExcept _

theorem quiet_receive (reply : Reply) : Quiet (receive reply) := by
  cases reply <;> exact fun _ => rfl

theorem quiet_member (data : Json) (name : String) : Quiet (member data name) := by
  unfold member
  split
  · exact quiet_raise _
  · exact quiet_pure _

theorem quiet_normalized {α : Type} {call : MetaCall α} (quiet : Quiet call) :
    Quiet (normalized call) :=
  quiet.catching fun _ => quiet_raise _

/-- The lookup of a permalink sends nothing that publishes, and never fails. -/
theorem after_permalinkForFacebookPost {graph : Graph} {postId pageToken : String}
    {sent : List Sent} {holds : Except Thrown (Option Json) → List Sent → Prop}
    (always : ∀ url, holds (.ok url) sent) :
    After (permalinkForFacebookPost graph postId pageToken) sent holds := by
  simp only [permalinkForFacebookPost, after_catching, after_bind, normalized]
  cases graph.permalink postId pageToken with
  | answered data =>
      simp only [receive, after_pure]
      split <;> simp [always]
  | rejected failure => simp [receive, always]
  | silent => simp [receive, always]

theorem after_permalinkForPagePost {graph : Graph} {postId pageToken : String}
    {sent : List Sent} {holds : Except Thrown (Option Json) → List Sent → Prop}
    (always : ∀ url, holds (.ok url) sent) :
    After (permalinkForPagePost graph postId pageToken) sent holds := by
  simp only [permalinkForPagePost, after_catching, after_bind]
  cases graph.permalink postId pageToken <;> simp [receive, always]

/-- A call that sends nothing, followed by one that tells exactly. -/
theorem tells_of_quiet {α : Type} {unsure : Thrown → Prop} {unnoted : Prop} {call : MetaCall α}
    {next : α → MetaCall MetaPublishResult} (quiet : Quiet call)
    (tells : ∀ value, After (next value) [] (TellsExactly unsure unnoted)) :
    After (call >>= next) [] (TellsExactly unsure unnoted) := by
  rw [after_bind]
  refine quiet.after fun outcome => ?_
  cases outcome with
  | error thrown => exact tellsExactly_nothing
  | ok value => exact tells value

/-! ### Publishing with a token of the vault -/

theorem publishFacebookText_tells (graph : Graph) (pageToken pageId caption : String) :
    After (publishFacebookText graph pageToken pageId caption) []
      (TellsExactly unsureClient False) := by
  unfold publishFacebookText
  simp only [after_bind, normalized, after_catching, after_post, List.nil_append]
  cases graph.feed pageId caption pageToken with
  | refused failure client => exact tellsExactly_refused
  | broken failure server post =>
      exact tellsExactly_broken (by simp [normalizeError, unsureClient]; omega)
  | unanswered post => exact tellsExactly_unanswered rfl
  | accepted post data =>
      simp only [PostAnswer.reply, member]
      by_cases isNull : data = .null
      · subst isNull
        exact tellsExactly_unnamed rfl (by simp [unsureClient])
      · rw [if_neg isNull, after_pure]
        dsimp only
        split
        next unnamed => exact tellsExactly_unnamed unnamed (by simp [unsureClient])
        next named =>
          rw [after_bind]
          exact after_permalinkForFacebookPost fun url => tellsExactly_named id named

theorem publishContainer_tells (graph : Graph) (pageToken igBusinessId containerId : String) :
    After (publishContainer graph pageToken igBusinessId containerId) []
      (TellsExactly unsureClient False) := by
  unfold publishContainer
  simp only [after_bind, normalized, after_catching, after_post, List.nil_append]
  cases graph.mediaPublish igBusinessId containerId pageToken with
  | refused failure client => exact tellsExactly_refused
  | broken failure server post =>
      exact tellsExactly_broken (by simp [normalizeError, unsureClient]; omega)
  | unanswered post => exact tellsExactly_unanswered rfl
  | accepted post data =>
      simp only [PostAnswer.reply, member]
      by_cases isNull : data = .null
      · subst isNull
        exact tellsExactly_unnamed rfl (by simp [unsureClient])
      · rw [if_neg isNull, after_pure]
        dsimp only
        split
        next unnamed => exact tellsExactly_unnamed unnamed (by simp [unsureClient])
        next named => exact tellsExactly_named id named

theorem quiet_pollMediaContainer (graph : Graph) (containerId pageToken : String)
    (attempt remaining : Nat) :
    Quiet (pollMediaContainer graph containerId pageToken attempt remaining) := by
  induction remaining generalizing attempt with
  | zero => exact quiet_raise _
  | succ remaining inductionHypothesis =>
      refine (quiet_normalized (quiet_receive _)).bind fun data =>
        (quiet_member _ _).bind fun statusCode => ?_
      dsimp only
      split
      · exact inductionHypothesis (attempt + 1)
      · exact quiet_pure _

/-- Nothing is published before the container is. -/
theorem publishInstagramPhoto_tells (graph : Graph) (pollAttempts : Nat)
    (pageToken igBusinessId imageUrl caption : String) :
    After (publishInstagramPhoto graph pollAttempts pageToken igBusinessId imageUrl caption) []
      (TellsExactly unsureClient False) := by
  refine tells_of_quiet (quiet_normalized (quiet_receive _)) fun container =>
    tells_of_quiet (quiet_member _ _) fun id => ?_
  dsimp only
  split
  · exact tellsExactly_nothing
  · refine tells_of_quiet (quiet_pollMediaContainer _ _ _ _ _) fun status => ?_
    split
    · exact publishContainer_tells graph pageToken igBusinessId _
    · exact tellsExactly_nothing

theorem publishFacebookPhoto_tells (graph : Graph)
    (pageToken pageId imageBytes mimeType caption : String) :
    After (publishFacebookPhoto graph pageToken pageId imageBytes mimeType caption) []
      (TellsExactly unsureClient False) := by
  unfold publishFacebookPhoto publishPhotoViaPageToken
  simp only [normalized, after_catching, after_bind, after_post, List.nil_append]
  cases graph.photos pageId imageBytes mimeType caption pageToken with
  | refused failure client => exact tellsExactly_refused
  | broken failure server post =>
      exact tellsExactly_broken (by simp [normalizeError, unsureClient]; omega)
  | unanswered post => exact tellsExactly_unanswered rfl
  | accepted post data =>
      dsimp only [PostAnswer.reply]
      split
      next unnamed => exact tellsExactly_unnamed unnamed (by simp [normalizeError, unsureClient])
      next named =>
        rw [after_bind]
        exact after_permalinkForPagePost fun url => tellsExactly_named id named

/-! ### Publishing over the owner's connection -/

section

variable (graph : Graph) (connections : Connections) (userId : Nat)

theorem quiet_pageTokenForUser (pageId : String) :
    Quiet (pageTokenForUser connections userId pageId) := by
  refine (quiet_ask _).bind fun connection => ?_
  cases connection with
  | none => exact quiet_raise _
  | some connection =>
      dsimp only
      split
      · exact quiet_raise _
      · split
        · exact quiet_raise _
        · exact (quiet_ask _).catching fun _ => quiet_raise _

/-- What an error tells after the connection may have been invalidated, which
itself may fail. -/
theorem settleGraphError_tells {unnoted : Prop} {thrown : Thrown} {sent : List Sent}
    (normal : TellsExactly unsureFacebook unnoted (.error (normalizeGraphError thrown)) sent)
    (expired : isExpired thrown →
      TellsExactly unsureFacebook unnoted (.error .other) sent) :
    After (settleGraphError connections userId thrown) sent
      (TellsExactly unsureFacebook unnoted) := by
  simp only [settleGraphError, invalidateOnExpiredToken, after_bind]
  split
  next isExpired =>
    simp only [after_bind, after_ask]
    cases connections.invalidate userId with
    | error _ => exact expired isExpired
    | ok count =>
        dsimp only
        split
        · rw [after_ask]
          cases connections.sendFacebookExpiredEmail userId with
          | error _ => exact expired isExpired
          | ok _ => exact normal
        · exact normal
  next => exact normal

theorem quiet_settles {pageId : String} {next : String → MetaCall MetaPublishResult}
    {unnoted : Prop}
    (tells : ∀ pageToken, After (next pageToken) [] fun outcome later =>
      match outcome with
      | .ok result => TellsExactly unsureFacebook unnoted (.ok result) later
      | .error thrown => After (settleGraphError connections userId thrown) later
          (TellsExactly unsureFacebook unnoted)) :
    After (Call.catching (pageTokenForUser connections userId pageId >>= next)
      (settleGraphError connections userId)) [] (TellsExactly unsureFacebook unnoted) := by
  rw [after_catching, after_bind]
  refine (quiet_pageTokenForUser connections userId pageId).after fun outcome => ?_
  cases outcome with
  | error thrown =>
      exact settleGraphError_tells connections userId tellsExactly_nothing
        fun _ => tellsExactly_nothing
  | ok pageToken =>
      exact (tells pageToken).mono fun outcome later told => by cases outcome <;> exact told

theorem publishTextForUser_tells (pageId caption : String) :
    After (publishTextForUser graph connections userId pageId caption) []
      (TellsExactly unsureFacebook (connections.markTested userId = .error ())) := by
  refine quiet_settles connections userId fun pageToken => ?_
  simp only [after_bind, after_post, List.nil_append]
  cases graph.feed pageId caption pageToken with
  | refused failure client =>
      exact settleGraphError_tells connections userId tellsExactly_refused
        fun _ => tellsExactly_refused
  | broken failure server post =>
      exact settleGraphError_tells connections userId
        (tellsExactly_broken (by simp [normalizeGraphError, unsureFacebook]; omega))
        fun _ => tellsExactly_broken id
  | unanswered post =>
      exact settleGraphError_tells connections userId (tellsExactly_unanswered rfl)
        fun isExpired => absurd isExpired (by decide)
  | accepted post data =>
      dsimp only [PostAnswer.reply]
      split
      next unnamed =>
        exact settleGraphError_tells connections userId
          (tellsExactly_unnamed unnamed (by simp [normalizeGraphError, unsureFacebook]))
          fun isExpired => absurd isExpired (by decide)
      next named =>
        simp only [after_bind, after_ask]
        cases noted : connections.markTested userId with
        | error _ =>
            exact settleGraphError_tells connections userId
              (tellsExactly_unnoted rfl named rfl)
              fun isExpired => absurd isExpired (by decide)
        | ok _ =>
            exact after_permalinkForPagePost fun url => tellsExactly_named (by simp) named

theorem publishPhotoForUser_tells (pageId imageBytes mimeType caption : String) :
    After (publishPhotoForUser graph connections userId pageId imageBytes mimeType caption) []
      (TellsExactly unsureFacebook (connections.markTested userId = .error ())) := by
  refine quiet_settles connections userId fun pageToken => ?_
  simp only [publishPhotoViaPageToken, after_bind, after_post, List.nil_append]
  cases graph.photos pageId imageBytes mimeType caption pageToken with
  | refused failure client =>
      exact settleGraphError_tells connections userId tellsExactly_refused
        fun _ => tellsExactly_refused
  | broken failure server post =>
      exact settleGraphError_tells connections userId
        (tellsExactly_broken (by simp [normalizeGraphError, unsureFacebook]; omega))
        fun _ => tellsExactly_broken id
  | unanswered post =>
      exact settleGraphError_tells connections userId (tellsExactly_unanswered rfl)
        fun isExpired => absurd isExpired (by decide)
  | accepted post data =>
      dsimp only [PostAnswer.reply]
      split
      next unnamed =>
        exact settleGraphError_tells connections userId
          (tellsExactly_unnamed unnamed (iff_of_true rfl rfl))
          fun isExpired => absurd isExpired (by decide)
      next named =>
        rw [after_bind]
        refine after_permalinkForPagePost fun url => ?_
        simp only [after_ask]
        cases noted : connections.markTested userId with
        | error _ =>
            exact settleGraphError_tells connections userId
              (tellsExactly_unnoted rfl named rfl)
              fun isExpired => absurd isExpired (by decide)
        | ok _ => exact tellsExactly_named (by simp) named

end

/-! ### The call as a whole -/

/-- The owner's connection is used, and the publication cannot be noted on it. -/
def UnnotedOn (surroundings : Surroundings) (target : PublishingTarget) : Prop :=
  target.channel = "facebook" ∧
    (socialConnectionIdFromFacebookTargetRef target.credentialRef).isSome ∧
    ∃ owner, surroundings.findOwner target.businessId = .ok (some owner) ∧
      surroundings.connections.markTested owner = .error ()

def Unnoted (surroundings : Surroundings) (input : ExecuteInput) : Prop :=
  ∃ target, surroundings.findTarget input.targetId = .ok (some target) ∧
    UnnotedOn surroundings target

/-- The result is the truth exactly when every request of the call is clear. -/
def TruthfulExactly (unnoted : Prop) (outcome : Except Thrown MetaExecutorResult)
    (sent : List Sent) : Prop :=
  Truthful outcome sent ↔ ∀ request ∈ sent, request.Clear unnoted

section

variable {unnoted : Prop} {base : MetaExecutorResult}

theorem truthfulExactly_failed {errorCode : ErrorCode} {retryable : Bool} :
    TruthfulExactly unnoted (.ok (failed base errorCode retryable)) [] := by
  simp [TruthfulExactly, Truthful, failed]

theorem truthfulExactly_thrown {thrown : Thrown} :
    TruthfulExactly unnoted (.error thrown) [] := by
  simp [TruthfulExactly, Truthful]

/-- The errors of which `settle` makes an unknown outcome are those that leave it
open; it makes a failure of every other. -/
def Settles (settle : MetaExecutorResult → Thrown → MetaExecutorResult) (unsure : Thrown → Prop) :
    Prop :=
  ∀ base thrown, (unsure thrown ∧ (settle base thrown).outcome = .unknown) ∨
    (¬unsure thrown ∧ (settle base thrown).outcome = .failed)

theorem settleStatus_outcome (status : Nat) (code : Int) :
    (status = 0 ∧ (settleStatus base status code).outcome = .unknown) ∨
      (status ≠ 0 ∧ (settleStatus base status code).outcome = .failed) := by
  unfold settleStatus
  split
  next isZero => exact .inl ⟨isZero, rfl⟩
  next nonzero => exact .inr ⟨nonzero, rfl⟩

theorem settles_client : Settles settleClientError unsureClient := by
  intro base thrown
  cases thrown with
  | metaGraphClientError status code => exact settleStatus_outcome status code
  | facebookGraphError status code => exact .inr ⟨id, rfl⟩
  | axiosError failure => exact .inr ⟨id, rfl⟩
  | other => exact .inr ⟨id, rfl⟩

theorem settles_facebook : Settles settleFacebookError unsureFacebook := by
  intro base thrown
  cases thrown with
  | metaGraphClientError status code => exact .inr ⟨id, rfl⟩
  | facebookGraphError status code => exact settleStatus_outcome status code
  | axiosError failure => exact .inr ⟨id, rfl⟩
  | other => exact .inr ⟨id, rfl⟩

/-- The executor reports what the publisher tells. -/
theorem report_truthful {settle : MetaExecutorResult → Thrown → MetaExecutorResult}
    {unsure : Thrown → Prop} {publish : MetaCall MetaPublishResult}
    (settles : Settles settle unsure)
    (tells : After publish [] (TellsExactly unsure unnoted)) :
    After (report base settle publish) [] (TruthfulExactly unnoted) := by
  simp only [report, after_catching, after_bind]
  refine tells.mono fun outcome sent told => ?_
  cases outcome with
  | ok result =>
      have same : Truthful (.ok (published base result)) sent ↔ Tells unsure (.ok result) sent := by
        simp [Truthful, published, Tells]
      exact same.trans told
  | error thrown =>
      have same : Truthful (.ok (settle base thrown)) sent ↔ Tells unsure (.error thrown) sent := by
        unfold Truthful Tells
        rcases settles base thrown with ⟨leftOpen, isUnknown⟩ | ⟨sure, isFailed⟩
        · simp [isUnknown, leftOpen]
        · simp [isFailed, sure]
      exact same.trans told

/-- A call that sends nothing, followed by one that is exactly truthful. -/
theorem truthful_of_quiet {α : Type} {call : MetaCall α} {next : α → MetaCall MetaExecutorResult}
    (quiet : Quiet call)
    (truthful : ∀ value, After (next value) [] (TruthfulExactly unnoted)) :
    After (call >>= next) [] (TruthfulExactly unnoted) := by
  rw [after_bind]
  refine quiet.after fun outcome => ?_
  cases outcome with
  | error thrown => exact truthfulExactly_thrown
  | ok value => exact truthful value

end

theorem quiet_findStaticAsset (entries : List Json) : Quiet (findStaticAsset entries) := by
  induction entries with
  | nil => exact quiet_pure _
  | cons entry rest inductionHypothesis =>
      refine (quiet_member entry "asset_id").bind fun assetId => ?_
      split
      · exact quiet_pure _
      · exact inductionHypothesis

theorem quiet_firstStaticAsset (payload : Option Json) : Quiet (firstStaticAsset payload) := by
  unfold firstStaticAsset
  split
  · exact quiet_pure _
  · exact quiet_pure _
  · exact (quiet_findStaticAsset _).bind fun _ => quiet_pure _
  · exact quiet_raise _

section

variable (surroundings : Surroundings) (base : MetaExecutorResult) (target : PublishingTarget)
  (payload : Option Json)

/-- Whatever keeps the asset from being read is thrown or reported as a failure. -/
theorem after_readStaticAsset
    {holds : Except Thrown (Except MetaExecutorResult (AssetReference × AssetRecord)) →
      List Sent → Prop}
    (thrown : ∀ error, holds (.error error) [])
    (refused : ∀ errorCode retryable, holds (.ok (.error (failed base errorCode retryable))) [])
    (found : ∀ asset, holds (.ok (.ok asset)) []) :
    After (readStaticAsset surroundings base payload) [] holds := by
  rw [readStaticAsset, after_bind]
  refine (quiet_firstStaticAsset payload).after fun outcome => ?_
  cases outcome with
  | error error => exact thrown error
  | ok asset =>
      cases asset with
      | none => exact refused _ _
      | some asset =>
          dsimp only
          split
          · exact found _
          · exact refused _ _
          · exact refused _ _

theorem publishOverConnection_truthful (owner : Uuid) :
    After (publishOverConnection surroundings base target owner payload) []
      (TruthfulExactly (surroundings.connections.markTested owner = .error ())) := by
  unfold publishOverConnection
  split
  · exact report_truthful settles_facebook (publishTextForUser_tells _ _ _ _ _)
  · split
    · exact truthfulExactly_failed
    · rw [after_bind]
      refine after_readStaticAsset surroundings base payload (fun _ => truthfulExactly_thrown)
        (fun _ _ => truthfulExactly_failed) fun asset => ?_
      exact report_truthful settles_facebook (publishPhotoForUser_tells _ _ _ _ _ _ _)

theorem executeFacebookSocialConnection_truthful {socialConnectionId : String}
    (isFacebook : target.channel = "facebook")
    (refers : socialConnectionIdFromFacebookTargetRef target.credentialRef =
      some socialConnectionId) :
    After (executeFacebookSocialConnection surroundings base target payload socialConnectionId) []
      (TruthfulExactly (UnnotedOn surroundings target)) := by
  unfold executeFacebookSocialConnection
  rw [if_neg (not_not_intro isFacebook)]
  simp only [after_bind, after_ask]
  cases owned : surroundings.findOwner target.businessId with
  | error _ => exact truthfulExactly_thrown
  | ok owner =>
      cases surroundings.findConnection socialConnectionId with
      | error _ => exact truthfulExactly_thrown
      | ok connection =>
          cases owner with
          | none => exact truthfulExactly_failed
          | some owner =>
              cases connection with
              | none => exact truthfulExactly_failed
              | some connection =>
                  have same : UnnotedOn surroundings target ↔
                      surroundings.connections.markTested owner = .error () := by
                    simp [UnnotedOn, isFacebook, refers, owned]
                  simp only [same]
                  split
                  · exact publishOverConnection_truthful surroundings base target payload owner
                  · exact truthfulExactly_failed

theorem quiet_vaultToken : Quiet (vaultToken surroundings target) := by
  refine Quiet.catching ?_ fun _ => quiet_pure _
  refine (quiet_ask _).bind fun record => ?_
  cases record with
  | none => exact quiet_raise _
  | some record =>
      dsimp only
      split
      · exact quiet_raise _
      · exact (quiet_ask _).bind fun parsed => (quiet_member _ _).bind fun type =>
          quiet_ite (quiet_raise _) (quiet_pure _)

theorem publishImage_truthful (token caption : String) (asset : AssetReference)
    (verified : AssetRecord) :
    After (publishImage surroundings base target token caption asset verified) []
      (TruthfulExactly False) := by
  refine report_truthful settles_client ?_
  split
  · exact tells_of_quiet (quiet_ask _) fun imageUrl => publishInstagramPhoto_tells _ _ _ _ _ _
  · exact publishFacebookPhoto_tells _ _ _ _ _ _

theorem publishOverVault_truthful (token : String) :
    After (publishOverVault surroundings base target token payload) []
      (TruthfulExactly False) := by
  unfold publishOverVault
  split
  · split
    · exact truthfulExactly_failed
    · exact report_truthful settles_client (publishFacebookText_tells _ _ _ _)
  · split
    · exact truthfulExactly_failed
    · rw [after_bind]
      exact after_readStaticAsset surroundings base payload (fun _ => truthfulExactly_thrown)
        (fun _ _ => truthfulExactly_failed)
        fun asset => publishImage_truthful surroundings base target token _ asset.1 asset.2

theorem executeTarget_truthful (candidate : Option PublishingCandidate) :
    After (executeTarget surroundings base target candidate) []
      (TruthfulExactly (UnnotedOn surroundings target)) := by
  unfold executeTarget
  dsimp only
  split
  · exact truthfulExactly_failed
  · split
    · exact truthfulExactly_failed
    · split
      next socialConnectionId refers =>
        split at refers
        next isFacebook =>
          exact executeFacebookSocialConnection_truthful surroundings base target _ isFacebook
            refers
        next => cases refers
      next refers =>
        have noted : ¬UnnotedOn surroundings target := by
          rintro ⟨isFacebook, isSome, -⟩
          rw [if_pos isFacebook] at refers
          rw [refers] at isSome
          cases isSome
        simp only [noted]
        refine truthful_of_quiet (quiet_vaultToken surroundings target) fun token => ?_
        cases token with
        | none => exact truthfulExactly_failed
        | some token => exact publishOverVault_truthful surroundings base target _ token

end

/-- A result tells the truth about the provider exactly when the request of the
call, if it sends one, is clear. -/
theorem execute_truthful_iff (surroundings : Surroundings) (input : ExecuteInput) :
    Truthful (execute surroundings input []).1 (execute surroundings input []).2 ↔
      ∀ request ∈ (execute surroundings input []).2,
        request.Clear (Unnoted surroundings input) := by
  have followed : After (execute surroundings input) []
      (TruthfulExactly (Unnoted surroundings input)) := by
    refine truthful_of_quiet (quiet_ask _) fun found => ?_
    cases found with
    | none => exact truthfulExactly_failed
    | some found =>
        obtain ⟨attempt, intent⟩ := found
        dsimp only
        split
        · exact truthfulExactly_failed
        · split
          · exact truthfulExactly_failed
          · simp only [after_bind, after_ask]
            cases targeted : surroundings.findTarget input.targetId with
            | error _ => exact truthfulExactly_thrown
            | ok target =>
                cases target with
                | none => exact truthfulExactly_failed
                | some target =>
                    have same : Unnoted surroundings input ↔ UnnotedOn surroundings target := by
                      simp [Unnoted, targeted]
                    simp only [same]
                    split
                    · exact truthfulExactly_failed
                    · split
                      · exact truthfulExactly_failed
                      · exact truthful_of_quiet (quiet_ask _) fun candidate =>
                          executeTarget_truthful surroundings _ target candidate
  exact followed

/-! ### An answer that is believed too soon -/

/-- An owner's approved text post for a page whose token is in the vault, with the
answer of the page's feed. -/
def textPost (feed : PostAnswer) : Surroundings where
  graph :=
    { feed := fun _ _ _ => feed
      photos := fun _ _ _ _ _ => .unanswered none
      media := fun _ _ _ _ => .silent
      container := fun _ _ _ => .silent
      mediaPublish := fun _ _ _ => .unanswered none
      permalink := fun _ _ => .silent }
  connections :=
    { findUnique := fun _ => .ok none
      decrypt := fun _ => .error ()
      markTested := fun _ => .ok ()
      invalidate := fun _ => .ok 0
      sendFacebookExpiredEmail := fun _ => .ok () }
  pollAttempts := 10
  resultId := "result-1"
  occurredAt := 0
  now := 0
  findAttempt := fun id => .ok (some
    ({ id, intentId := 1, intentVersion := 1, attemptSequence := 1, status := .dispatching,
       workflowVersion := none, providerRequestFingerprint := none, idempotencyKey := "attempt",
       startedAt := none, finishedAt := none, createdAt := 0 },
     { id := 1, businessId := 1, candidateId := 1, mode := .real, status := .dispatching,
       version := 1, binding := ⟨some 1, none, none, none⟩, createdByUserId := 1,
       idempotencyKey := "intent" }))
  findTarget := fun id => .ok (some
    { id, businessId := 1, channel := "facebook", externalAccountId := "page",
      displayName := "Page", connectionState := .connected, credentialRef := "credential",
      capabilities := .array [.string "text"], lastVerifiedAt := none, expiresAt := none,
      version := 1 })
  findCandidate := fun id => .ok (some
    { id, businessId := 1, externalContentId := "content", candidateChecksum := "checksum",
      eventFingerprint := "event", eventId := 1, status := .active, sourceStatus := .null,
      sourceStateVersion := 1, receivedAt := 0
      payload := .object [("content_format", .string "text_post"), ("caption", .string "Hello")] })
  findCredential := fun id => .ok (some ⟨id, "ciphertext", "v1", none⟩)
  decrypt := fun _ => .ok (.object [("type", .string "page"), ("token", .string "token")])
  findOwner := fun _ => .ok none
  findConnection := fun _ => .ok none
  providerFetchOriginError := none
  buildUrl := fun _ _ => .error ()
  readApprovedAsset := fun _ => .ok none

def madePost : RemoteId := ⟨"page_1", by decide⟩

/-- A post behind a 503, and one whose 200 has no id, are both reported as
failures. -/
theorem made_post_is_reported_failed :
    ¬Truthful
        (execute (textPost (.broken ⟨503, none⟩ (by decide) (some madePost))) ⟨1, 1, 1⟩ []).1
        (execute (textPost (.broken ⟨503, none⟩ (by decide) (some madePost))) ⟨1, 1, 1⟩ []).2 ∧
      ¬Truthful (execute (textPost (.accepted madePost (.object []))) ⟨1, 1, 1⟩ []).1
        (execute (textPost (.accepted madePost (.object []))) ⟨1, 1, 1⟩ []).2 := by
  constructor
  · intro truthful
    exact absurd (show posts _ = [] from truthful) (by decide)
  · intro truthful
    exact absurd (show posts _ = [] from truthful) (by decide)

end MarketMind.Publishing.Meta
