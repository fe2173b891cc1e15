import MarketMind.Performance.Sync

/-!
Owns the calls that collect performance figures: the repository of sync windows and snapshots, the
worker that runs the jobs, and the reconciler.

Does not own what holds of the windows in every run.
-/

namespace MarketMind.Performance.Sync

open MarketMind.Transactions

abbrev Code (α : Type) := Program sync α

/-- Ask for one statement. -/
abbrev ask (asked : Statement) : Code asked.Reply := @Program.ask sync asked

/-- Go on only under the condition. -/
def require (condition : Bool) (error : SyncError) : Code Unit :=
  if condition then pure () else throw error

/-! ### Eligible results -/

def PublishingResult.isEligibleFor (result : PublishingResult) (businessId : Uuid) : Bool :=
  let intent := result.attempt.intent
  result.outcome = "PUBLISHED" && result.provider = "meta" &&
    result.remotePublicationId.any (· ≠ "") && intent.mode = "REAL" &&
    intent.businessId = businessId && intent.candidate.businessId = businessId &&
    intent.candidate.channel = "facebook" && result.intentId = intent.id &&
    intent.target.all fun target =>
      target.businessId = businessId && target.provider = "META" && target.channel = "facebook"

def loadEligibleResult (publishingResultId businessId : Uuid) : Code PublishingResult := do
  match ← ask (.findResult publishingResultId) with
  | none => throw (.repository .notEligible "publishing result was not found")
  | some result =>
      require (result.isEligibleFor businessId)
        (.repository .notEligible
          "only a real, published Facebook result is performance-eligible")
      pure result

/-- What `getPublicationContext` makes of a result that it finds. -/
def PublishingResult.context (result : PublishingResult) (businessId ownerUserId : Uuid) :
    Option PublicationContext :=
  let intent := result.attempt.intent
  let isCollected := intent.businessId = businessId && result.outcome = "PUBLISHED" &&
    result.provider = "meta" && intent.mode = "REAL" && intent.candidate.channel = "facebook" &&
    intent.businessId = intent.candidate.businessId &&
    intent.target.all fun target =>
      target.businessId = intent.businessId && target.provider = "META" &&
        target.channel = "facebook"
  match result.remotePublicationId.filter fun id => id ≠ "" && isCollected with
  | none => none
  | some providerObjectId =>
      some
        { publishingResultId := result.id
          businessId := intent.businessId
          ownerUserId
          publishingAttemptId := result.attempt.id
          publicationIntentId := intent.id
          candidateId := intent.candidate.id
          candidateChecksum := intent.candidate.candidateChecksum
          providerObjectId
          publishedAt := result.occurredAt
          target := intent.target.map fun target =>
            ⟨target.externalAccountId, target.credentialRef, target.connectionState,
              target.expiresAt⟩ }

def getPublicationContext (publishingResultId businessId : Uuid) :
    Code (Option PublicationContext) := do
  match ← ask (.findResult publishingResultId) with
  | none => pure none
  | some result =>
      -- The owner is looked up only for a result that is collected.
      if (result.context businessId 0).isNone then pure none
      else
        let owner ← ask (.findOwner result.businessId)
        pure (owner.bind fun ownerUserId => result.context businessId ownerUserId)

/-! ### Sync windows -/

def createSyncWindow (businessId publishingResultId : Uuid) (window : PerformanceWindow)
    (dueAt : Instant) : Code Unit := do
  let result ← loadEligibleResult publishingResultId businessId
  require (result.dueAt window = dueAt)
    (.repository .invalidProviderData
      "performance sync window due_at must match the publication age")
  let identity : WindowIdentity := ⟨0, businessId, publishingResultId, window, dueAt⟩
  tryCatch (ask (.createSyncWindow identity)) fun error => do
    require (error = .uniqueViolation) error
    let existing ← ask (.findWindowOf publishingResultId window)
    require (existing.any fun row => row.businessId = businessId && row.dueAt = dueAt)
      (.repository .syncWindowConflict
        "performance sync window already exists with different provenance")

def createSyncWindows (result : PublishingResult) : List PerformanceWindow → Code Unit
  | [] => pure ()
  | window :: rest => do
      createSyncWindow result.businessId result.id window (result.dueAt window)
      createSyncWindows result rest

/-- The windows of a result, for the business if it is given. -/
def ensureSyncWindowsForResult (publishingResultId : Uuid) (businessId : Option Uuid) :
    Code Unit := do
  let businessId ← match businessId with
    | some businessId => pure (some businessId)
    | none => do
        let found ← ask (.findResult publishingResultId)
        pure (found.map PublishingResult.businessId)
  match businessId with
  | none =>
      -- The result is looked up again, for no business.
      match ← ask (.findResult publishingResultId) with
      | none => throw (.repository .notEligible "publishing result was not found")
      | some _ =>
          throw (.repository .notEligible
            "only a real, published Facebook result is performance-eligible")
  | some businessId =>
      let result ← loadEligibleResult publishingResultId businessId
      createSyncWindows result performanceWindows

/-- Claim one due window; whoever comes second gets none. -/
def claimSyncWindow (syncWindowId : Uuid) (now leaseDurationMs : Int) : Code (Option SyncWindow) := do
  match ← ask (.claimSyncWindow syncWindowId now leaseDurationMs) with
  | none => pure none
  | some leaseOwner =>
      let claimed ← ask (.getSyncWindowById syncWindowId)
      pure (claimed.filter (·.leasedBy leaseOwner))

/-- Bring the due windows of a result forward. -/
def requestDueRefresh (businessId publishingResultId : Uuid) (now : Instant) : Code Nat := do
  let windows ← ask (.findWindowsOf businessId publishingResultId)
  let due := windows.filter fun row =>
    (row.state = .queued || row.state = .retryable) && row.dueAt ≤ now
  if due.isEmpty then pure 0 else ask (.refreshDue (due.map fun row => row.id) now)

/-! ### Snapshots -/

/-- `toSnapshotContract` -/
def toSnapshotContract (around : Surroundings) (row : MetricSnapshot) : Code MetricSnapshot := do
  require (around.isValid row) (.thrown "snapshot")
  pure row

def getSnapshotForWindow (around : Surroundings) (businessId publishingResultId : Uuid)
    (window : PerformanceWindow) : Code (Option MetricSnapshot) := do
  match (← ask (.findSnapshotOf publishingResultId window)).filter (·.businessId = businessId) with
  | none => pure none
  | some row => do
      let snapshot ← toSnapshotContract around row
      pure (some snapshot)

/-- `assertSnapshotProvenance` -/
def MetricSnapshot.hasProvenance (snapshot : MetricSnapshot) (result : PublishingResult) : Bool :=
  let intent := result.attempt.intent
  result.id = snapshot.publishingResultId && result.attempt.id = snapshot.publishingAttemptId &&
    intent.id = snapshot.publicationIntentId && intent.candidate.id = snapshot.candidateId &&
    intent.candidate.candidateChecksum = snapshot.candidateChecksum &&
    result.remotePublicationId = some snapshot.providerObjectId &&
    result.occurredAt = snapshot.publishedAt

def insertMetricSnapshot (around : Surroundings) (snapshot : MetricSnapshot) :
    Code MetricSnapshot := do
  let result ← loadEligibleResult snapshot.publishingResultId snapshot.businessId
  require (snapshot.hasProvenance result)
    (.repository .invalidProviderData
      "snapshot provenance does not match the frozen publishing chain")
  match (← ask (.findWindowOf snapshot.publishingResultId snapshot.window)).filter
      (·.businessId = snapshot.businessId) with
  | none => throw (.repository .notEligible "metric snapshot requires an owned sync window")
  | some window =>
      require (window.dueAt = snapshot.dueAt)
        (.repository .invalidProviderData "metric snapshot due_at must match its sync window")
      ask (.createSnapshot snapshot)
      let conflict : SyncError := .repository .snapshotConflict
        "metric snapshot replay conflicts with immutable evidence"
      match ← ask (.findSnapshotOf snapshot.publishingResultId snapshot.window) with
      | none => throw conflict
      | some row => do
          let existing ← toSnapshotContract around row
          require (existing = snapshot) conflict
          pure existing

/-- Keep the evidence and close the claimed window, or neither. -/
def completeSyncWindowWithSnapshot (around : Surroundings) (syncWindowId : Uuid)
    (leaseOwner : LeaseOwner) (snapshot : MetricSnapshot) : Code Unit := do
  require (around.isValid snapshot)
    (.repository .invalidProviderData "invalid performance snapshot")
  Program.transaction do
    match (← ask (.getSyncWindowById syncWindowId)).filter (·.leasedBy leaseOwner) with
    | none =>
        throw (.repository .syncTerminal "performance sync lease is no longer owned")
    | some window =>
        require (window.ofPair snapshot.publishingResultId snapshot.window)
          (.repository .invalidProviderData
            "metric snapshot does not belong to the claimed window")
        let _ ← insertMetricSnapshot around snapshot
        let updated ← ask (.markSucceeded syncWindowId leaseOwner)
        require (updated = 1)
          (.repository .syncTerminal "performance sync lease was lost before completion")

/-! ### What Meta answered -/

/-- `PERFORMANCE_METRICS` -/
def performanceMetrics : List String :=
  ["post_media_view", "post_total_media_view_unique", "post_clicks"]

/-- Latest first; a point without a time counts as the epoch. -/
def latestFirst (points : List MetricPoint) : List MetricPoint :=
  points.insertionSort fun left right => right.endTime.getD 0 ≤ left.endTime.getD 0

/-- The value of a metric: that of its latest point with a number. -/
def ObservedMetric.latest (metric : ObservedMetric) : MetricValue :=
  match (latestFirst (metric.values.filter (·.value.isSome))).head?.bind (·.value) with
  | none => .unavailable (if metric.values.isEmpty then "not_returned" else "invalid_value")
  | some value => if 0 ≤ value then .available value else .unavailable "invalid_value"

/-- `buildPerformanceSnapshot` -/
def buildPerformanceSnapshot (window : SyncWindow) (context : PublicationContext)
    (observation : Observation) : MetricSnapshot where
  id := window.id
  businessId := context.businessId
  publishingResultId := context.publishingResultId
  publishingAttemptId := context.publishingAttemptId
  publicationIntentId := context.publicationIntentId
  candidateId := context.candidateId
  candidateChecksum := context.candidateChecksum
  providerObjectId := context.providerObjectId
  window := window.window
  publishedAt := context.publishedAt
  dueAt := window.dueAt
  observedAt :=
    ((observation.metrics.flatMap (·.values)).filterMap (·.endTime)).max?
  fetchedAt := observation.fetchedAt
  graphVersion := observation.graphVersion
  metrics := performanceMetrics.map fun name =>
    (name, match observation.metrics.reverse.find? (·.name = name) with
      | none => .unavailable "not_returned"
      | some metric => metric.latest)
  providerMetadata :=
    { responseMetricCount := observation.metrics.length
      responsePeriods :=
        ((observation.metrics.filterMap (·.period)).filter (· ≠ "")).dedup.insertionSort (· ≤ ·) }
  createdAt := observation.fetchedAt

/-! ### The worker -/

/-- `PERFORMANCE_MAX_ATTEMPTS` -/
def maxAttempts : Nat := 5

/-- `PERFORMANCE_RETRY_BASE_MS` -/
def retryBaseMs : Int := 60000

/-- `PERFORMANCE_LEASE_DURATION_MS` -/
def leaseDurationMs : Int := 5 * 60000

/-- `PERFORMANCE_RECONCILE_BATCH_SIZE` -/
def reconcileBatchSize : Nat := 25

/-- The body of the `catch` block, for the attempt that the window was read at. -/
def handleFailure (attemptCount : Nat) (job : SyncJob) (error : SyncError) : Code Unit := do
  let failure := normalizeFailure error
  if failure.retryable && attemptCount < maxAttempts then
    let now ← ask .clock
    let _ ← ask (.markRetryable job.syncWindowId job.leaseOwner failure
      (now + retryBaseMs * 2 ^ (attemptCount - 1)))
  else
    let _ ← ask (.markTerminal job.syncWindowId job.leaseOwner failure)

/-- The body of the `try` block. -/
def collect (around : Surroundings) (job : SyncJob) (window : SyncWindow)
    (context : PublicationContext) : Code Unit := do
  match ← ask (.fetch job.syncWindowId job.leaseOwner context) with
  | .error failure => throw (.provider failure)
  | .ok observation =>
      completeSyncWindowWithSnapshot around job.syncWindowId job.leaseOwner
        (buildPerformanceSnapshot window context observation)

def process (around : Surroundings) (job : SyncJob) : Code Unit := do
  match (← ask (.getSyncWindowById job.syncWindowId)).filter (·.leasedBy job.leaseOwner) with
  | none => pure ()
  | some window =>
      match ← getPublicationContext window.publishingResultId window.businessId with
      | none =>
          let _ ← ask (.markTerminal job.syncWindowId job.leaseOwner ⟨.notEligible, false⟩)
      | some context =>
          let existing ← getSnapshotForWindow around window.businessId window.publishingResultId
            window.window
          match existing with
          | some _ =>
              let _ ← ask (.markSucceeded job.syncWindowId job.leaseOwner)
          | none =>
              tryCatch (collect around job window context)
                (handleFailure window.attemptCount job)

/-! ### The reconciler -/

/-- An error of the repository skips the result; any other ends the pass. -/
def discover : List Uuid → Code Unit
  | [] => pure ()
  | publishingResultId :: rest => do
      tryCatch (ensureSyncWindowsForResult publishingResultId none) fun error =>
        match error with
        | .repository _ _ => pure ()
        | error => throw error
      discover rest

/-- Claim and queue the due windows, one after the other. -/
def dispatch (now : Instant) : List Uuid → Code Unit
  | [] => pure ()
  | syncWindowId :: rest => do
      match ← claimSyncWindow syncWindowId now leaseDurationMs with
      | none => pure ()
      | some window =>
          let leaseOwner := window.leaseOwner.getD 0
          tryCatch
            (do
              let added ← ask (.addJob ⟨syncWindowId, window.attemptCount, leaseOwner⟩)
              require added .queueFailure)
            fun _ => do
              let _ ← ask (.releaseAfterEnqueueFailure syncWindowId leaseOwner (now + retryBaseMs))
      dispatch now rest

def reconcileOnce (now : Instant) : Code Unit := do
  let publicationIds ← ask (.listEligiblePublicationIds (reconcileBatchSize * 4))
  discover publicationIds
  let _ ← ask (.recoverExpiredLeases now)
  let dueIds ← ask (.listDueSyncWindowIds now reconcileBatchSize)
  dispatch now dueIds

/-- The owner asks for a result to be looked at again. -/
def refresh (businessId publishingResultId : Uuid) (now : Instant) : Code Unit := do
  match ← getPublicationContext publishingResultId businessId with
  | none => throw (.thrown "not found")
  | some _ =>
      ensureSyncWindowsForResult publishingResultId (some businessId)
      let updated ← requestDueRefresh businessId publishingResultId now
      if updated = 0 then pure () else reconcileOnce now

/-! ### Calls -/

inductive Call
  | registerBusiness (businessId ownerUserId : Uuid)
  | publish (result : PublishingResult)
  | reconcile (now : Instant)
  | refresh (businessId publishingResultId : Uuid) (now : Instant)
  /-- A worker takes up a job of the queue; a stalled job may be taken up again. -/
  | process (job : SyncJob)
deriving DecidableEq

def Call.program (around : Surroundings) : Call → Code Unit
  | registerBusiness businessId ownerUserId => ask (.registerBusiness businessId ownerUserId)
  | publish result => ask (.publish result)
  | reconcile now => reconcileOnce now
  | refresh businessId publishingResultId now =>
      Sync.refresh businessId publishingResultId now
  | process job => Sync.process around job

/-- Only the jobs of the queue are taken up. -/
def Call.enabled : Call → World → Bool
  | process job, world => job ∈ world.jobs
  | _, _ => true

/-- The performance services over their database. -/
def system (around : Surroundings) : System sync World Key Call where
  toStore := store around
  program := Call.program around
  enabled := Call.enabled

/-! ### A published post -/

/-- A provider that answers, unless it fails at the first choice. -/
def plainSurroundings : Surroundings where
  fetch choice _ :=
    if choice = 1 then .error ⟨.providerUnavailable, true⟩ else .ok ⟨[], "v25.0", 0⟩
  isValid _ := true

def plainResult : PublishingResult where
  id := 5
  intentId := 6
  outcome := "PUBLISHED"
  provider := "meta"
  remotePublicationId := some "page_post"
  occurredAt := 0
  attempt := ⟨7, ⟨6, 1, "REAL", ⟨8, 1, "facebook", "checksum"⟩, none⟩⟩

/-- A day and an hour after the publication. -/
def nextDay : Instant := 25 * 60 * 60 * 1000

def steps (pid : Pid) (count : Nat) : List (Move Call) := List.replicate count (.step pid 0)

/-- A call and its first steps. -/
def alone (pid : Pid) (call : Call) (count : Nat) : List (Move Call) :=
  .issue pid call :: steps pid count

/-- The post is found, and the job of its first window is queued. -/
def queuedMoves : List (Move Call) :=
  alone 0 (.registerBusiness 1 2) 1 ++ alone 1 (.publish plainResult) 1 ++
    alone 2 (.reconcile nextDay) 14

/-! ### The statements of the calls -/

open Store (Asks asks_ask asks_bind asks_pure asks_throw asks_tryCatch)

/-- Reads. -/
def Statement.isRead : Statement → Prop
  | .listEligiblePublicationIds .. | .findResult .. | .findOwner .. | .findWindowOf ..
  | .findWindowsOf .. | .getSyncWindowById .. | .listDueSyncWindowIds .. | .findSnapshotOf ..
  | .clock => True
  | _ => False

/-- Reads, and writes that touch no lease and no evidence. -/
def Statement.isShared : Statement → Prop
  | .recoverExpiredLeases .. | .claimSyncWindow .. | .releaseAfterEnqueueFailure ..
  | .markRetryable .. | .markTerminal .. | .markSucceeded .. | .createSnapshot .. | .addJob ..
  | .fetch .. => False
  | _ => True

section Asks

variable {P : Statement → Prop}

theorem asks_require {condition : Bool} {error : SyncError} :
    @Asks sync _ P (require condition error) := by
  unfold require
  split
  · exact @asks_pure sync _ P ()
  · exact @asks_throw sync _ P error

theorem asks_handleFailure {P : Statement → Prop} (attemptCount : Nat) (job : SyncJob)
    (error : SyncError) (clock : P .clock)
    (retryable : ∀ failure nextAttemptAt,
      P (.markRetryable job.syncWindowId job.leaseOwner failure nextAttemptAt))
    (terminal : ∀ failure, P (.markTerminal job.syncWindowId job.leaseOwner failure)) :
    @Asks sync _ P (handleFailure attemptCount job error) := by
  unfold handleFailure
  dsimp only
  split
  · exact asks_bind (asks_ask clock) fun now =>
      asks_bind (asks_ask (retryable _ _)) fun _ => asks_pure ()
  · exact asks_bind (asks_ask (terminal _)) fun _ => asks_pure ()

section Reads

variable (reads : ∀ asked : Statement, asked.isRead → P asked)
include reads

theorem asks_loadEligibleResult (publishingResultId businessId : Uuid) :
    @Asks sync _ P (loadEligibleResult publishingResultId businessId) := by
  refine asks_bind (asks_ask (reads _ trivial)) fun result => ?_
  cases result with
  | none => exact @asks_throw sync _ P _
  | some result => exact asks_bind asks_require fun _ => asks_pure result

theorem asks_getPublicationContext (publishingResultId businessId : Uuid) :
    @Asks sync _ P (getPublicationContext publishingResultId businessId) := by
  refine asks_bind (asks_ask (reads _ trivial)) fun result => ?_
  cases result with
  | none => exact @asks_pure sync _ P none
  | some result =>
      dsimp only
      split
      · exact @asks_pure sync _ P none
      · exact asks_bind (asks_ask (reads _ trivial)) fun _ => asks_pure _

theorem asks_getSnapshotForWindow (around : Surroundings) (businessId publishingResultId : Uuid)
    (window : PerformanceWindow) :
    @Asks sync _ P (getSnapshotForWindow around businessId publishingResultId window) := by
  refine asks_bind (asks_ask (reads _ trivial)) fun found => ?_
  split
  · exact @asks_pure sync _ P none
  · exact asks_bind (asks_bind asks_require fun _ => asks_pure _) fun _ => asks_pure _

theorem asks_insertMetricSnapshot (around : Surroundings) (snapshot : MetricSnapshot)
    (creates : P (.createSnapshot snapshot)) :
    @Asks sync _ P (insertMetricSnapshot around snapshot) := by
  refine asks_bind (asks_loadEligibleResult reads _ _) fun result => asks_bind asks_require ?_
  intro _
  refine asks_bind (asks_ask (reads _ trivial)) fun window => ?_
  split
  · exact @asks_throw sync _ P _
  · refine asks_bind asks_require fun _ => asks_bind (asks_ask creates) fun _ => ?_
    refine asks_bind (asks_ask (reads _ trivial)) fun existing => ?_
    cases existing with
    | none => exact @asks_throw sync _ P _
    | some row =>
        refine asks_bind (asks_bind asks_require fun _ => asks_pure row) fun existing => ?_
        exact asks_bind asks_require fun _ => asks_pure existing

end Reads

theorem reads_of_shared (shared : ∀ asked : Statement, asked.isShared → P asked)
    (asked : Statement) (isRead : asked.isRead) : P asked :=
  shared asked (by cases asked <;> trivial)

variable (shared : ∀ asked : Statement, asked.isShared → P asked)
include shared

theorem asks_createSyncWindow (businessId publishingResultId : Uuid) (window : PerformanceWindow)
    (dueAt : Instant) :
    @Asks sync _ P (createSyncWindow businessId publishingResultId window dueAt) := by
  refine asks_bind (asks_loadEligibleResult (reads_of_shared shared) _ _) fun result => ?_
  refine asks_bind asks_require fun _ => ?_
  refine asks_tryCatch (asks_ask (shared _ trivial)) fun error => asks_bind asks_require fun _ => ?_
  exact asks_bind (asks_ask (shared _ trivial)) fun existing => asks_require

theorem asks_createSyncWindows (result : PublishingResult) (windows : List PerformanceWindow) :
    @Asks sync _ P (createSyncWindows result windows) := by
  induction windows with
  | nil => exact @asks_pure sync _ P ()
  | cons window rest inductionHypothesis =>
      exact asks_bind (asks_createSyncWindow shared _ _ _ _) fun _ => inductionHypothesis

theorem asks_ensureSyncWindowsForResult (publishingResultId : Uuid) (businessId : Option Uuid) :
    @Asks sync _ P (ensureSyncWindowsForResult publishingResultId businessId) := by
  have owned : ∀ businessId : Option Uuid, @Asks sync _ P
      (match businessId with
      | none => do
          match ← ask (.findResult publishingResultId) with
          | none => throw (.repository .notEligible "publishing result was not found")
          | some _ =>
              throw (.repository .notEligible
                "only a real, published Facebook result is performance-eligible")
      | some businessId => do
          let result ← loadEligibleResult publishingResultId businessId
          createSyncWindows result performanceWindows) := by
    rintro (_ | businessId)
    · refine asks_bind (asks_ask (shared _ trivial)) fun found => ?_
      cases found with
      | none => exact @asks_throw sync _ P _
      | some found => exact @asks_throw sync _ P _
    · exact asks_bind (asks_loadEligibleResult (reads_of_shared shared) _ _) fun result =>
        asks_createSyncWindows shared _ _
  cases businessId with
  | none =>
      refine asks_bind (asks_ask (shared _ trivial)) fun found => ?_
      exact owned (found.map PublishingResult.businessId)
  | some businessId => exact owned (some businessId)

theorem asks_requestDueRefresh (businessId publishingResultId : Uuid) (now : Instant) :
    @Asks sync _ P (requestDueRefresh businessId publishingResultId now) := by
  refine asks_bind (asks_ask (shared _ trivial)) fun windows => ?_
  dsimp only
  split
  · exact @asks_pure sync _ P 0
  · exact asks_ask (shared _ trivial)

theorem asks_discover (publicationIds : List Uuid) : @Asks sync _ P (discover publicationIds) := by
  induction publicationIds with
  | nil => exact @asks_pure sync _ P ()
  | cons publishingResultId rest inductionHypothesis =>
      refine asks_bind ?_ fun _ => inductionHypothesis
      refine asks_tryCatch (asks_ensureSyncWindowsForResult shared _ _) fun error => ?_
      split
      · exact @asks_pure sync _ P ()
      · exact @asks_throw sync _ P _

end Asks

end MarketMind.Performance.Sync
