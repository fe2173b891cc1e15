import MarketMind.Performance.Analyzer
import MarketMind.Transactions.Statements
import MarketMind.Transactions.Table

/-!
Owns the collection of performance figures: the sync windows of published posts with their
leases, the queue of their jobs, and the snapshots that are kept as evidence.

Does not own when these are read or written. Left out are the columns that no code here reads, and
the time of the last update of a window: which windows were updated within the cooldown of a
refresh is left open.
-/

namespace MarketMind.Performance.Sync

open MarketMind.Transactions

/-- A row identifier. -/
abbrev Uuid := Nat

/-- Milliseconds since the epoch. -/
abbrev Instant := Int

/-- The `randomUUID()` of a lease. -/
abbrev LeaseOwner := Nat

/-! ### Errors -/

inductive ErrorCode
  | notEligible
  | permissionRequired
  | providerRateLimited
  | providerUnavailable
  | invalidProviderData
  | snapshotConflict
  | syncWindowConflict
  | syncTerminal
deriving DecidableEq, Repr

/-- What `normalizeFailure` makes of an error. -/
structure Failure where
  code : ErrorCode
  retryable : Bool
deriving DecidableEq, Repr

inductive SyncError
  /-- `PerformanceRepositoryError` -/
  | repository (code : ErrorCode) (message : String)
  /-- `PerformanceProviderError` -/
  | provider (failure : Failure)
  | thrown (message : String)
  | queueFailure
  /-- P2002 -/
  | uniqueViolation
  | transactionAborted
  | databaseFailure
deriving DecidableEq

def normalizeFailure : SyncError → Failure
  | .provider failure => failure
  | .repository code _ => ⟨code, false⟩
  | _ => ⟨.providerUnavailable, true⟩

/-! ### Published posts -/

structure PublishingTarget where
  businessId : Uuid
  provider : String
  channel : String
  externalAccountId : String
  credentialRef : String
  connectionState : String
  expiresAt : Option Instant
deriving DecidableEq, Repr

structure PublishingCandidate where
  id : Uuid
  businessId : Uuid
  channel : String
  candidateChecksum : String
deriving DecidableEq, Repr

structure PublicationIntent where
  id : Uuid
  businessId : Uuid
  mode : String
  candidate : PublishingCandidate
  target : Option PublishingTarget
deriving DecidableEq, Repr

structure PublishingAttempt where
  id : Uuid
  intent : PublicationIntent
deriving DecidableEq, Repr

/-- A publishing result with its attempt, intent, candidate and target. -/
structure PublishingResult where
  id : Uuid
  intentId : Uuid
  outcome : String
  provider : String
  remotePublicationId : Option String
  occurredAt : Instant
  attempt : PublishingAttempt
deriving DecidableEq, Repr

def PublishingResult.businessId (result : PublishingResult) : Uuid :=
  result.attempt.intent.businessId

/-! ### Sync windows -/

inductive PerformanceWindow
  | hours24
  | hours72
  | days7
deriving DecidableEq, Repr

/-- `PERFORMANCE_WINDOWS` -/
def performanceWindows : List PerformanceWindow := [.hours24, .hours72, .days7]

/-- `PERFORMANCE_WINDOW_HOURS` -/
def PerformanceWindow.hours : PerformanceWindow → Int
  | hours24 => 24
  | hours72 => 72
  | days7 => 24 * 7

/-- When the figures of the window are due. -/
def PublishingResult.dueAt (result : PublishingResult) (window : PerformanceWindow) : Instant :=
  result.occurredAt + window.hours * 60 * 60 * 1000

inductive SyncState
  | queued
  | leased
  | succeeded
  | retryable
  | terminal
deriving DecidableEq, Repr

/-- What a sync window is for; it never changes. -/
structure WindowIdentity where
  id : Uuid
  businessId : Uuid
  publishingResultId : Uuid
  window : PerformanceWindow
  dueAt : Instant
deriving DecidableEq, Repr

structure SyncWindow extends WindowIdentity where
  state : SyncState
  attemptCount : Nat
  nextAttemptAt : Option Instant
  leaseOwner : Option LeaseOwner
  leaseExpiresAt : Option Instant
  lastErrorCode : Option ErrorCode
deriving DecidableEq, Repr

instance : Keyed SyncWindow := ⟨fun window => window.id⟩

def WindowIdentity.queued (identity : WindowIdentity) : SyncWindow where
  toWindowIdentity := identity
  state := .queued
  attemptCount := 0
  nextAttemptAt := none
  leaseOwner := none
  leaseExpiresAt := none
  lastErrorCode := none

/-- The window of a result, of which there is at most one. -/
def SyncWindow.ofPair (publishingResultId : Uuid) (window : PerformanceWindow) (row : SyncWindow) :
    Bool :=
  row.publishingResultId = publishingResultId && row.window = window

/-- Queued, or due for another attempt. -/
def SyncWindow.isOpen (now : Instant) (row : SyncWindow) : Bool :=
  row.state = .queued || (row.state = .retryable && row.nextAttemptAt.all (· ≤ now))

def SyncWindow.isDue (now : Instant) (row : SyncWindow) : Bool :=
  row.dueAt ≤ now && row.isOpen now

def SyncWindow.isExpired (now : Instant) (row : SyncWindow) : Bool :=
  row.state = .leased && row.leaseExpiresAt.any (· < now)

def SyncWindow.leasedBy (leaseOwner : LeaseOwner) (row : SyncWindow) : Bool :=
  row.state = .leased && row.leaseOwner = some leaseOwner

/-- A refresh may bring the window forward, if it was not updated within the cooldown. -/
def SyncWindow.isRefreshable (isRecent : Bool) (row : SyncWindow) : Bool :=
  (row.state = .queued || row.state = .retryable) && (row.attemptCount = 0 || !isRecent)

/-! ### Evidence -/

structure ProviderMetadata where
  responseMetricCount : Nat
  responsePeriods : List String
deriving DecidableEq

structure MetricSnapshot where
  id : Uuid
  businessId : Uuid
  publishingResultId : Uuid
  publishingAttemptId : Uuid
  publicationIntentId : Uuid
  candidateId : Uuid
  candidateChecksum : String
  providerObjectId : String
  window : PerformanceWindow
  publishedAt : Instant
  dueAt : Instant
  observedAt : Option Instant
  fetchedAt : Instant
  graphVersion : String
  metrics : List (String × MetricValue)
  providerMetadata : ProviderMetadata
  createdAt : Instant
deriving DecidableEq

instance : Keyed MetricSnapshot := ⟨MetricSnapshot.id⟩

def MetricSnapshot.ofPair (publishingResultId : Uuid) (window : PerformanceWindow)
    (row : MetricSnapshot) : Bool :=
  row.publishingResultId = publishingResultId && row.window = window

/-! ### The queue and the provider -/

/-- A job of the queue; its id is made of the window and the attempt. -/
structure SyncJob where
  syncWindowId : Uuid
  attempt : Nat
  leaseOwner : LeaseOwner
deriving DecidableEq, Repr

/-- A call of the provider for a window, under a lease, with the failure that it ended in. -/
structure Fetch where
  syncWindowId : Uuid
  leaseOwner : LeaseOwner
  failure : Option Failure
deriving DecidableEq, Repr

/-- A window that became terminal, with the failure that ended it. -/
structure Stop where
  syncWindowId : Uuid
  failure : Failure
deriving DecidableEq, Repr

structure PublicationTarget where
  externalAccountId : String
  credentialRef : String
  connectionState : String
  expiresAt : Option Instant
deriving DecidableEq, Repr

/-- `PerformancePublicationContext` -/
structure PublicationContext where
  publishingResultId : Uuid
  businessId : Uuid
  ownerUserId : Uuid
  publishingAttemptId : Uuid
  publicationIntentId : Uuid
  candidateId : Uuid
  candidateChecksum : String
  providerObjectId : String
  publishedAt : Instant
  target : Option PublicationTarget
deriving DecidableEq, Repr

/-- A value of a metric; `endTime` is there when it can be parsed. -/
structure MetricPoint where
  value : Option ℚ
  endTime : Option Instant
deriving DecidableEq

structure ObservedMetric where
  name : String
  period : Option String
  values : List MetricPoint
deriving DecidableEq

/-- `FacebookPerformanceObservation` -/
structure Observation where
  metrics : List ObservedMetric
  graphVersion : String
  fetchedAt : Instant
deriving DecidableEq

/-- What the repository calls that is not its own. -/
structure Surroundings where
  /-- `FacebookPerformanceProvider.fetch` -/
  fetch : (choice : Nat) → PublicationContext → Except Failure Observation
  /-- `validateMetricSnapshotV1` finds nothing. -/
  isValid : MetricSnapshot → Bool

/-! ### Tables -/

/-- The committed tables, the queue, and the calls that the provider has got. `businesses` lists
(business, owner); `drawn` counts the lease owners so far, `claims` are the leases that were taken,
each as its job, and `stopped` the windows that became terminal. -/
structure World where
  businesses : List (Uuid × Uuid)
  results : List PublishingResult
  windows : Table SyncWindow
  snapshots : Table MetricSnapshot
  jobs : List SyncJob
  fetches : List Fetch
  drawn : Nat
  claims : List SyncJob
  stopped : List Stop
deriving DecidableEq

def World.empty : World := ⟨[], [], Table.empty, Table.empty, [], [], 0, [], []⟩

/-- The rows that exclude concurrent writers. -/
inductive Key
  | window (id : Uuid)
  | slot (publishingResultId : Uuid) (window : PerformanceWindow)
  | snapshot (id : Uuid)
  | evidence (publishingResultId : Uuid) (window : PerformanceWindow)
deriving DecidableEq, Repr

def Agree (key : Key) (left right : World) : Prop :=
  match key with
  | .window id => left.windows.find id = right.windows.find id
  | .slot publishingResultId window =>
      left.windows.keysOf (·.ofPair publishingResultId window) =
        right.windows.keysOf (·.ofPair publishingResultId window)
  | .snapshot id => left.snapshots.find id = right.snapshots.find id
  | .evidence publishingResultId window =>
      left.snapshots.keysOf (·.ofPair publishingResultId window) =
        right.snapshots.keysOf (·.ofPair publishingResultId window)

/-! ### Statements -/

inductive Statement
  | registerBusiness (businessId ownerUserId : Uuid)
  /-- Publishing writes a result, or the rows around it. -/
  | publish (result : PublishingResult)
  | listEligiblePublicationIds (limit : Nat)
  | findResult (id : Uuid)
  | findOwner (businessId : Uuid)
  | createSyncWindow (identity : WindowIdentity)
  | findWindowOf (publishingResultId : Uuid) (window : PerformanceWindow)
  | findWindowsOf (businessId publishingResultId : Uuid)
  | getSyncWindowById (id : Uuid)
  | recoverExpiredLeases (now : Instant)
  | listDueSyncWindowIds (now : Instant) (limit : Nat)
  | claimSyncWindow (id : Uuid) (now leaseDurationMs : Int)
  | releaseAfterEnqueueFailure (id : Uuid) (leaseOwner : LeaseOwner) (nextAttemptAt : Instant)
  | markRetryable (id : Uuid) (leaseOwner : LeaseOwner) (failure : Failure)
      (nextAttemptAt : Instant)
  | markTerminal (id : Uuid) (leaseOwner : LeaseOwner) (failure : Failure)
  | markSucceeded (id : Uuid) (leaseOwner : LeaseOwner)
  | refreshDue (ids : List Uuid) (now : Instant)
  | findSnapshotOf (publishingResultId : Uuid) (window : PerformanceWindow)
  /-- `createMany` with `skipDuplicates` -/
  | createSnapshot (snapshot : MetricSnapshot)
  | addJob (job : SyncJob)
  /-- The provider is called for a job of the window under the lease. -/
  | fetch (id : Uuid) (leaseOwner : LeaseOwner) (context : PublicationContext)
  | clock
deriving DecidableEq

abbrev Statement.Reply : Statement → Type
  | registerBusiness _ _ | publish _ | createSyncWindow _ | createSnapshot _ => Unit
  | listEligiblePublicationIds _ | listDueSyncWindowIds _ _ => List Uuid
  | findResult _ => Option PublishingResult
  | findOwner _ => Option Uuid
  | findWindowOf _ _ | getSyncWindowById _ => Option SyncWindow
  | findWindowsOf _ _ => List SyncWindow
  | recoverExpiredLeases _ | releaseAfterEnqueueFailure _ _ _ | markRetryable _ _ _ _
  | markTerminal _ _ _ | markSucceeded _ _ | refreshDue _ _ => Nat
  | claimSyncWindow _ _ _ => Option LeaseOwner
  | findSnapshotOf _ _ => Option MetricSnapshot
  | addJob _ => Bool
  | fetch _ _ _ => Except Failure Observation
  | clock => Instant

/-- The signature of the performance services. -/
def sync : Signature := ⟨Statement, Statement.Reply, SyncError⟩

/-! ### What a statement does -/

/-- Change a window without its identity. -/
structure Change where
  apply : SyncWindow → SyncWindow
  same : ∀ row, (apply row).toWindowIdentity = row.toWindowIdentity := by exact fun _ => rfl

theorem Change.sameId (change : Change) (row : SyncWindow) : (change.apply row).id = row.id :=
  congrArg WindowIdentity.id (change.same row)

def Change.lease (leaseOwner : LeaseOwner) (leaseExpiresAt : Instant) : Change where
  apply row :=
    { row with
      state := .leased
      attemptCount := row.attemptCount + 1
      leaseOwner := some leaseOwner
      leaseExpiresAt := some leaseExpiresAt
      nextAttemptAt := none }

def Change.retry (code : ErrorCode) (nextAttemptAt : Instant) : Change where
  apply row :=
    { row with
      state := .retryable
      leaseOwner := none
      leaseExpiresAt := none
      nextAttemptAt := some nextAttemptAt
      lastErrorCode := some code }

/-- The window is done, with an error or without. -/
def Change.finish (state : SyncState) (code : Option ErrorCode) : Change where
  apply row :=
    { row with
      state
      leaseOwner := none
      leaseExpiresAt := none
      nextAttemptAt := none
      lastErrorCode := code }

def Change.refresh (now : Instant) : Change where
  apply row := { row with nextAttemptAt := some now }

namespace World

/-- The world with the allowed rows among `ids` changed. -/
def changeWindows (world : World) (ids : List Uuid) (allowed : SyncWindow → Bool)
    (change : Change) : World :=
  { world with
    windows :=
      world.windows.update (fun row => row.id ∈ ids && allowed row) change.apply change.sameId }

/-- The allowed rows among `ids`. -/
def hits (world : World) (ids : List Uuid) (allowed : SyncWindow → Bool) : List SyncWindow :=
  world.windows.rows.filter fun row => row.id ∈ ids && allowed row

/-- The leases that the next owner takes among `ids`. -/
def taken (world : World) (ids : List Uuid) (now : Instant) : List SyncJob :=
  (world.hits ids (·.isDue now)).map fun row => ⟨row.id, row.attemptCount + 1, world.drawn⟩

/-- The due windows among `ids` are leased. -/
def claim (world : World) (ids : List Uuid) (now leaseDurationMs : Int) : World :=
  { world.changeWindows ids (·.isDue now) (.lease world.drawn (now + leaseDurationMs)) with
    drawn := world.drawn + 1
    claims := world.claims ++ world.taken ids now }

/-- The windows among `ids` that the owner leases become terminal. -/
def stop (world : World) (ids : List Uuid) (leaseOwner : LeaseOwner) (failure : Failure) : World :=
  { world.changeWindows ids (·.leasedBy leaseOwner) (.finish .terminal (some failure.code)) with
    stopped := world.stopped ++ (world.hits ids (·.leasedBy leaseOwner)).map fun row =>
      ⟨row.id, failure⟩ }

/-- No two windows of one result are alike. -/
def addWindow (world : World) (row : SyncWindow) : World :=
  { world with
    windows := world.windows.insertUnless (·.ofPair row.publishingResultId row.window) row }

def addSnapshot (world : World) (row : MetricSnapshot) : World :=
  { world with
    snapshots := world.snapshots.insertUnless (·.ofPair row.publishingResultId row.window) row }

/-- BullMQ ignores a job whose id it knows. -/
def enqueue (world : World) (job : SyncJob) : World :=
  if world.jobs.any fun known =>
      known.syncWindowId = job.syncWindowId && known.attempt = job.attempt then world
  else { world with jobs := world.jobs ++ [job] }

/-- The first window of the result that is due at this age. -/
def windowOf (world : World) (publishingResultId : Uuid) (window : PerformanceWindow) :
    Option SyncWindow :=
  world.windows.rows.find? (·.ofPair publishingResultId window)

def snapshotOf (world : World) (publishingResultId : Uuid) (window : PerformanceWindow) :
    Option MetricSnapshot :=
  world.snapshots.rows.find? (·.ofPair publishingResultId window)

/-- Results with a window missing, earliest first. -/
def eligiblePublications (world : World) : List PublishingResult :=
  (world.results.filter fun result =>
    result.outcome = "PUBLISHED" && result.provider = "meta" &&
      result.remotePublicationId.isSome &&
      performanceWindows.any (fun window => (world.windowOf result.id window).isNone) &&
      result.attempt.intent.mode = "REAL" &&
      result.attempt.intent.candidate.channel = "facebook").insertionSort
    fun left right => left.occurredAt ≤ right.occurredAt

/-- Due windows, earliest first. -/
def dueWindows (world : World) (now : Instant) : List SyncWindow :=
  (world.windows.rows.filter (·.isDue now)).insertionSort fun left right => left.dueAt ≤ right.dueAt

end World

/-- Change the allowed rows among `ids`, and count them. -/
def updateMany (world : World) (ids : List Uuid) (allowed : SyncWindow → Bool) (change : Change) :
    Effect World Key Nat :=
  let hit := ids.filter fun id => (world.windows.find id).any allowed
  ⟨hit.length, (World.changeWindows · hit allowed change), hit.map .window⟩

/-- A statement that writes nothing. -/
abbrev reading {α : Type} (reply : α) : Except SyncError (Effect World Key α) :=
  .ok ⟨reply, fun world => world, []⟩

def exec (around : Surroundings) (_ : Pid) (choice : Nat) (asked : Statement) (world : World) :
    Except SyncError (Effect World Key asked.Reply) :=
  match asked with
  | .registerBusiness businessId ownerUserId =>
      .ok ⟨(), fun world =>
        { world with businesses := world.businesses ++ [(businessId, ownerUserId)] }, []⟩
  | .publish result =>
      .ok ⟨(), fun world =>
        { world with results := world.results.filter (·.id ≠ result.id) ++ [result] }, []⟩
  | .listEligiblePublicationIds limit =>
      reading ((world.eligiblePublications.take limit).map PublishingResult.id)
  | .findResult id => reading (world.results.find? (·.id = id))
  | .findOwner businessId =>
      reading ((world.businesses.find? (·.1 = businessId)).map Prod.snd)
  | .createSyncWindow identity =>
      if (world.windowOf identity.publishingResultId identity.window).isSome then
        .error .uniqueViolation
      else
        let id := world.windows.freshKey choice
        .ok ⟨(), (World.addWindow · { identity with id }.queued),
          [.window id, .slot identity.publishingResultId identity.window]⟩
  | .findWindowOf publishingResultId window => reading (world.windowOf publishingResultId window)
  | .findWindowsOf businessId publishingResultId =>
      reading (world.windows.rows.filter fun row =>
        row.businessId = businessId && row.publishingResultId = publishingResultId)
  | .getSyncWindowById id => reading (world.windows.find id)
  | .recoverExpiredLeases now =>
      .ok (updateMany world (world.windows.keysOf (·.isExpired now)) (·.isExpired now)
        (.retry .providerUnavailable now))
  | .listDueSyncWindowIds now limit =>
      reading (((world.dueWindows now).take limit).map fun row => row.id)
  | .claimSyncWindow id now leaseDurationMs =>
      let hit := [id].filter fun id => (world.windows.find id).any (·.isDue now)
      .ok ⟨if hit = [] then none else some world.drawn,
        fun later => later.claim hit now leaseDurationMs, hit.map .window⟩
  | .releaseAfterEnqueueFailure id leaseOwner nextAttemptAt =>
      .ok (updateMany world [id] (·.leasedBy leaseOwner) (.retry .providerUnavailable nextAttemptAt))
  | .markRetryable id leaseOwner failure nextAttemptAt =>
      .ok (updateMany world [id] (·.leasedBy leaseOwner) (.retry failure.code nextAttemptAt))
  | .markTerminal id leaseOwner failure =>
      let hit := [id].filter fun id => (world.windows.find id).any (·.leasedBy leaseOwner)
      .ok ⟨hit.length, fun later => later.stop hit leaseOwner failure, hit.map .window⟩
  | .markSucceeded id leaseOwner =>
      .ok (updateMany world [id] (·.leasedBy leaseOwner) (.finish .succeeded none))
  | .refreshDue ids now =>
      .ok (updateMany world ids (fun row => row.isRefreshable (choice.testBit row.id))
        (.refresh now))
  | .findSnapshotOf publishingResultId window =>
      reading (world.snapshotOf publishingResultId window)
  | .createSnapshot snapshot =>
      if (world.snapshots.find snapshot.id).isSome ||
          (world.snapshotOf snapshot.publishingResultId snapshot.window).isSome then reading ()
      else
        .ok ⟨(), (World.addSnapshot · snapshot),
          [.snapshot snapshot.id, .evidence snapshot.publishingResultId snapshot.window]⟩
  -- The queue may take a job and still fail to say so.
  | .addJob job => .ok ⟨choice = 0, (World.enqueue · job), []⟩
  | .fetch id leaseOwner context =>
      let answer := around.fetch choice context
      let failure := match answer with
        | .ok _ => none
        | .error failure => some failure
      .ok ⟨answer, fun world =>
        { world with fetches := world.fetches ++ [⟨id, leaseOwner, failure⟩] }, []⟩
  | .clock => reading (choice : Int)

/-! ### The store -/

theorem agree_refl (key : Key) (world : World) : Agree key world world := by
  cases key <;> rfl

theorem agree_trans (key : Key) {first second third : World} (left : Agree key first second)
    (right : Agree key second third) : Agree key first third := by
  cases key <;> exact Eq.trans left right

/-- Only windows and snapshots are under keys. -/
theorem agree_of_same {key : Key} {world after : World} (windows : after.windows = world.windows)
    (snapshots : after.snapshots = world.snapshots) : Agree key world after := by
  cases key <;> simp [Agree, windows, snapshots]

section Writes

variable {world : World} {ids : List Uuid} {allowed : SyncWindow → Bool} {change : Change}

theorem Change.ofPair_apply {publishingResultId : Uuid} {window : PerformanceWindow}
    {row : SyncWindow} : (change.apply row).ofPair publishingResultId window =
      row.ofPair publishingResultId window := by
  have same := change.same row
  have sameResult := congrArg WindowIdentity.publishingResultId same
  have sameWindow := congrArg WindowIdentity.window same
  unfold SyncWindow.ofPair
  rw [sameResult, sameWindow]

theorem World.find_changeWindows {id : Uuid} :
    (world.changeWindows ids allowed change).windows.find id =
      (world.windows.find id).map fun row =>
        if row.id ∈ ids && allowed row then change.apply row else row :=
  @Table.find_update _ _ _ _ _ change.apply change.sameId

/-- The window after the change. -/
def SyncWindow.changed (ids : List Uuid) (allowed : SyncWindow → Bool) (change : Change)
    (row : SyncWindow) : SyncWindow :=
  if row.id ∈ ids && allowed row then change.apply row else row

theorem SyncWindow.same_changed (row : SyncWindow) :
    (row.changed ids allowed change).toWindowIdentity = row.toWindowIdentity := by
  unfold SyncWindow.changed
  split
  · exact change.same row
  · rfl

theorem mem_changeWindows {row : SyncWindow} :
    row ∈ (world.changeWindows ids allowed change).windows.rows ↔
      ∃ old ∈ world.windows.rows, old.changed ids allowed change = row := List.mem_map

theorem mem_addWindow {new row : SyncWindow} (member : row ∈ (world.addWindow new).windows.rows) :
    row ∈ world.windows.rows ∨ row = new ∧ world.windows.find new.id = none ∧
      world.windows.rows.any (·.ofPair new.publishingResultId new.window) = false := by
  unfold World.addWindow Table.insertUnless at member
  dsimp only at member
  split at member
  · exact .inl member
  · next free =>
    cases fresh : world.windows.find new.id with
    | some old =>
        have same : world.windows.insert new = world.windows := Table.insert_of_used fresh
        exact .inl (same ▸ member)
    | none => exact (Table.mem_insert member).imp_right fun same =>
        ⟨same, rfl, (Bool.not_eq_true _).mp free⟩

theorem mem_addSnapshot {new row : MetricSnapshot}
    (member : row ∈ (world.addSnapshot new).snapshots.rows) :
    row ∈ world.snapshots.rows ∨ row = new ∧
      world.snapshots.rows.any (·.ofPair new.publishingResultId new.window) = false :=
  (Table.of_find_insertUnless (Table.find_of_mem member)).imp Table.mem_of_find
    fun ⟨same, _, free⟩ => ⟨same, free⟩

theorem agree_changeWindows {key : Key} (free : key ∉ ids.map Key.window) :
    Agree key world (world.changeWindows ids allowed change) := by
  cases key with
  | window id =>
      have apart : id ∉ ids := fun member => free (List.mem_map_of_mem member)
      show _ = (world.changeWindows ids allowed change).windows.find id
      rw [World.find_changeWindows]
      cases found : world.windows.find id with
      | none => rfl
      | some row =>
          have sameId : row.id = id := Table.key_of_find found
          simp [sameId, apart]
  | slot publishingResultId window =>
      exact (@Table.keysOf_update _ _ _ _ _ change.apply change.sameId
        fun row _ => change.ofPair_apply).symm
  | snapshot id => rfl
  | evidence publishingResultId window => rfl

theorem agree_addWindow {key : Key} {row : SyncWindow}
    (free : key ∉ [Key.window row.id, .slot row.publishingResultId row.window]) :
    Agree key world (world.addWindow row) := by
  simp only [List.mem_cons, List.not_mem_nil, or_false, not_or] at free
  cases key with
  | window id =>
      exact (Table.find_insertUnless_of_ne fun same => free.1 (congrArg Key.window same)).symm
  | slot publishingResultId window =>
      refine (Table.keysOf_insertUnless ?_).symm
      unfold SyncWindow.ofPair
      by_contra inside
      rw [Bool.not_eq_false, Bool.and_eq_true, decide_eq_true_eq, decide_eq_true_eq] at inside
      exact free.2 (by rw [inside.1, inside.2])
  | snapshot id => rfl
  | evidence publishingResultId window => rfl

theorem agree_addSnapshot {key : Key} {row : MetricSnapshot}
    (free : key ∉ [Key.snapshot row.id, .evidence row.publishingResultId row.window]) :
    Agree key world (world.addSnapshot row) := by
  simp only [List.mem_cons, List.not_mem_nil, or_false, not_or] at free
  cases key with
  | window id => rfl
  | slot publishingResultId window => rfl
  | snapshot id =>
      exact (Table.find_insertUnless_of_ne fun same => free.1 (congrArg Key.snapshot same)).symm
  | evidence publishingResultId window =>
      refine (Table.keysOf_insertUnless ?_).symm
      unfold MetricSnapshot.ofPair
      by_contra inside
      rw [Bool.not_eq_false, Bool.and_eq_true, decide_eq_true_eq, decide_eq_true_eq] at inside
      exact free.2 (by rw [inside.1, inside.2])

end Writes

/-- A statement touches only the rows that it holds. -/
theorem exec_framed {around : Surroundings} {pid : Pid} {choice : Nat} {asked : Statement}
    {world : World} {effect : Effect World Key asked.Reply}
    (executed : exec around pid choice asked world = .ok effect) (key : Key)
    (free : key ∉ effect.keys) (other : World) : Agree key other (effect.write other) := by
  cases asked <;> simp only [exec] at executed
  case createSyncWindow identity =>
    obtain ⟨-, executed⟩ := ok_of_unless executed
    cases executed
    exact agree_addWindow free
  case createSnapshot snapshot =>
    split at executed
    · cases executed
      exact agree_refl key other
    · cases executed
      exact agree_addSnapshot free
  case claimSyncWindow id now leaseDurationMs =>
    cases executed
    exact agree_changeWindows free
  case recoverExpiredLeases | releaseAfterEnqueueFailure | markRetryable | markTerminal
      | markSucceeded | refreshDue =>
    cases executed
    exact agree_changeWindows free
  case addJob job =>
    cases executed
    show Agree key other (other.enqueue job)
    unfold World.enqueue
    split
    · exact agree_refl key other
    · exact agree_of_same rfl rfl
  all_goals
    cases executed
    exact agree_of_same rfl rfl

/-- The performance tables, with the queue and the provider. -/
def store (around : Surroundings) : Store sync World Key where
  exec := exec around
  Agree := Agree
  agree_refl := agree_refl
  agree_trans := agree_trans
  framed := exec_framed
  aborted := .transactionAborted
  databaseFailure := .databaseFailure

end MarketMind.Performance.Sync
