import MarketMind.Transactions.Resume
import MarketMind.Publishing.Callbacks
import MarketMind.Publishing.CandidateIntakeSound
import MarketMind.Publishing.Candidates
import MarketMind.Publishing.Dispatch
import MarketMind.Publishing.Reconciliation

/-!
Owns the publishing API as a whole: the calls that may be in flight against the
publishing store, from owners, n8n, the queue, the sweeps and administrators.

A call reads the clock once, so calls carry the time at which they run. The queue
moves jobs on by calls of its own, and so does whoever connects targets.

Also owns the run from which the examples go on: a candidate arrives, a page is
connected, and the owner schedules and approves a publication.
-/

namespace MarketMind.Publishing

open MarketMind.Transactions

inductive Call
  | createIntent (businessId userId : Uuid) (request : Intents.CreateRequest)
  | scheduleIntent (intentId businessId : Uuid) (request : Intents.ScheduleRequest) (now : Instant)
  | rescheduleIntent (intentId businessId : Uuid) (request : Intents.ScheduleRequest)
      (now : Instant)
  | approveIntent (intentId businessId userId : Uuid) (request : Intents.ApproveRequest)
      (now : Instant)
  | cancelIntent (intentId businessId : Uuid) (currentVersion : Nat)
  | retryIntent (intentId businessId : Uuid) (request : Intents.RetryRequest) (now : Instant)
  | runLocalAction (intentId businessId : Uuid) (request : Intents.LocalRequest)
      (mode : Intents.LocalMode) (now : Instant)
  | process (jobId : JobId) (job : DispatchJob) (now : Instant)
  | handleCallback (attemptId : String) (envelope : Json) (now : Instant)
  | ingestEvent (event : Json) (now : Instant)
  | recoverMissedJobs (now : Instant)
  | flagStuckAttempts (now : Instant)
  | removeOrphanJobs
  | resyncIntent (intentId : Uuid) (now : Instant)
  | resolveUnknown (attemptId : Uuid) (resolution : Reconciliation.Resolution)
      (remotePublicationId : Option String)
  | disconnectTarget (targetId businessId : Uuid)
  | turnJob (jobId : JobId) (state : Option JobState)
  | writeTarget (row : PublishingTarget)

def Call.program (host : Host) : Call → Code Unit
  | createIntent businessId userId request =>
      (Intents.createIntent businessId userId request).discard
  | scheduleIntent intentId businessId request now =>
      (Intents.scheduleIntent host intentId businessId request now).discard
  | rescheduleIntent intentId businessId request now =>
      (Intents.rescheduleIntent host intentId businessId request now).discard
  | approveIntent intentId businessId userId request now =>
      (Intents.approveIntent intentId businessId userId request now).discard
  | cancelIntent intentId businessId currentVersion =>
      (Intents.cancelIntent intentId businessId currentVersion).discard
  | retryIntent intentId businessId request now =>
      (Intents.retryIntent intentId businessId request now).discard
  | runLocalAction intentId businessId request mode now =>
      (Intents.runLocalAction host intentId businessId request mode now).discard
  | process _ job now => Dispatch.process host job now
  | handleCallback attemptId envelope now => Callbacks.handleCallback host attemptId envelope now
  | ingestEvent event now => (Candidates.ingestEvent host event now).discard
  | recoverMissedJobs now => Reconciliation.recoverMissedJobs now
  | flagStuckAttempts now => Reconciliation.flagStuckAttempts now
  | removeOrphanJobs => Reconciliation.removeOrphanJobs
  | resyncIntent intentId now => (Reconciliation.resyncIntent intentId now).discard
  | resolveUnknown attemptId resolution remotePublicationId =>
      Reconciliation.resolveUnknown attemptId resolution remotePublicationId
  | disconnectTarget targetId businessId => Reconciliation.disconnectTarget targetId businessId
  | turnJob jobId state => Queue.turn jobId state
  | writeTarget row => Db.writeTarget row

/-- A worker runs the jobs that the queue has handed out to it. -/
def Call.enabled : Call → World → Bool
  | process jobId job _, world => world.jobs.any (· = ⟨jobId, job, .active⟩)
  | _, _ => true

/-- The publishing API over its database and queue. -/
def system (host : Host) : System publishing World Key Call where
  toStore := store
  program := Call.program host
  enabled := Call.enabled

/-! ### A first publication -/

/-- The identities of the examples, which differ in their last digit. -/
def exampleUuid (id : Uuid) : String := "0b7e0c1a-0000-4000-8000-00000000000" ++ toString id

/-- 2026-07-02T10:00:00Z -/
def approvalTime : Instant := 1782986400000

/-- 2026-08-01T10:00:00Z, which is 13:00 in Cairo. -/
def publicationTime : Instant := 1785578400000

/-- A server in UTC. -/
def runHost : Host :=
  { Intake.exampleHost with
    parseDate := fun text =>
      if text = "2026-08-01T13:00:00" then some 1785589200000
      else if text = "2026-07-02T10:00:00.000Z" then some approvalTime
      else if text = "2026-08-01T10:00:00.000Z" then some publicationTime
      else Intake.exampleHost.parseDate text
    toISOString := fun instant =>
      if instant = approvalTime then "2026-07-02T10:00:00.000Z" else "2026-08-01T10:00:00.000Z"
    uuidText := exampleUuid
    uuidOf := fun text => (List.range 10).find? (exampleUuid · = text)
    localToUtc := fun _ _ => some publicationTime
    toNaiveLocal := fun _ => "2026-08-01T13:00:00"
    signingSecret := "secret"
    signingKeyId := "key-1"
    workflowVersion := "workflow-1"
    callbackBaseUrl := "https://api.example" }

def examplePage : PublishingTarget where
  id := 7
  businessId := 2
  channel := "facebook"
  externalAccountId := "page-1"
  displayName := "Page"
  connectionState := .connected
  credentialRef := "credential-1"
  capabilities := .array [.string "text"]
  lastVerifiedAt := none
  expiresAt := none
  version := 1

def exampleChecksum : String := "5073c28cfa49094336a0a738255d087e6223a7183f2cd632f395f840e9029c65"

def exampleSchedule : Intents.ScheduleRequest :=
  ⟨"2026-08-01T13:00:00", "Africa/Cairo", 7, 1⟩

def exampleBinding : Binding :=
  ⟨some 7, some 1785589200000, some "Africa/Cairo", some publicationTime⟩

/-- The call executes its next instructions. -/
def steps (pid : Pid) (count : Nat) : List (Move Call) := List.replicate count (.step pid 0)

def firstMoves : List (Move Call) :=
  [.issue 0 (.ingestEvent Intake.uuidCreated.event approvalTime)] ++ steps 0 2 ++
  [.issue 1 (.writeTarget examplePage)] ++ steps 1 1 ++
  [.issue 2 (.createIntent 2 8 ⟨1, none, "create-1"⟩)] ++ steps 2 6 ++
  [.issue 3 (.scheduleIntent 0 2 exampleSchedule approvalTime)] ++ steps 3 6 ++
  [.issue 4 (.approveIntent 0 2 8 ⟨.approved, 2, exampleChecksum, "approve-1"⟩ approvalTime)] ++
  steps 4 8

def firstCandidate : PublishingCandidate where
  id := 1
  businessId := 2
  externalContentId := "version-1"
  candidateChecksum := exampleChecksum
  eventFingerprint := "7c9903b633f593d399d600e466dc7df7aecfc315abd2ceea8f8fb3f558a1f876"
  eventId := 3
  status := .active
  sourceStatus := .object [("contract_version", .string "publication-candidate-status-v1"),
    ("candidate_id", .string (exampleUuid 1)), ("business_id", .string (exampleUuid 2)),
    ("candidate_checksum", .string exampleChecksum), ("state_version", .number (.integer 1)),
    ("candidate_state", .string "active"), ("replacement_candidate_id", .null),
    ("changed_by_user_id", .null), ("changed_at", .string "2026-07-01T10:00:00Z")]
  sourceStateVersion := 1
  payload := .object (Intake.exampleCandidate (exampleUuid 1) exampleChecksum)
  receivedAt := 0

def firstIntent : PublishingIntent where
  id := 0
  businessId := 2
  candidateId := 1
  mode := .real
  status := .scheduled
  version := 2
  binding := exampleBinding
  createdByUserId := 8
  idempotencyKey := "create-1"

def firstApproval : PublishingApproval where
  id := 0
  intentId := 0
  intentVersionAtDecision := 2
  candidateChecksum := exampleChecksum
  decision := .approved
  decidedByUserId := 8
  decidedAt := approvalTime
  approvalFingerprint := ⟨.approved, 0, 2, 1, exampleChecksum, .real, exampleBinding⟩
  idempotencyKey := "approve-1"

def firstJob : QueuedJob := ⟨.publish 0 2, ⟨0, 2, "approve-1::dispatch"⟩, .delayed⟩

/-- The publication is approved and its job waits for its time. -/
def firstWorld : World :=
  { World.empty with
    intents := Table.empty.insert firstIntent
    approvals := [firstApproval]
    candidates := Table.empty.insert firstCandidate
    targets := Table.empty.insert examplePage
    jobs := [firstJob]
    bindings := [⟨0, 1, ⟨none, none, none, none⟩⟩, ⟨0, 2, exampleBinding⟩]
    ingested := [⟨1, Intake.uuidCreated.event, "2026-07-02T10:00:00.000Z"⟩] }

theorem firstWorld_rests : Rests (system runHost) World.empty 5 firstWorld :=
  .of_play (by decide : ∀ move ∈ firstMoves, move.pid < 5) (by decide +kernel)

end MarketMind.Publishing
